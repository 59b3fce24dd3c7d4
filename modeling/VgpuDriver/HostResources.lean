import VgpuDriver.Creation
import VgpuDriver.Pending
import VgpuDriver.Signals
import VgpuDriver.TraceRuns

namespace VgpuDriver

open Data

/-! Failed creations, and the resource ids that exist on the host. -/

section Atomic

variable (addBuf : Nat → Bool) (contextId : UInt32)
variable (request : ResourceCreateRequest) (driver : Driver)

/-- The body is a CREATE_3D or an UNREF of the id. -/
def CommandBody.creates3d (id : UInt32) : CommandBody → Bool
  | .resourceCreate3d other _ => other = id
  | _ => false

def CommandBody.unrefs (id : UInt32) : CommandBody → Bool
  | .resourceUnref other => other = id
  | _ => false

/-- Every CREATE_3D of the pushes is matched by an UNREF. -/
def Matched (pushes : List (Queue × VgpuBuffer)) : Prop :=
  ∀ id, pushes.countP (fun push => push.2.pBuf.body.creates3d id) =
    pushes.countP fun push => push.2.pBuf.body.unrefs id

/-- A creation that returns an error changes neither the lists, the bitmap
nor the records taken, and what it creates on the host it unreferences. -/
def CreateAtomic : Prop :=
  (∀ output, (ctlCreateResource addBuf contextId request driver).1 ≠
      .complete .success output) →
    (ctlCreateResource addBuf contextId request driver).2.virglContextList =
        driver.virglContextList ∧
      (ctlCreateResource addBuf contextId request
        driver).2.vgpuMemory.regionBitmap =
          driver.vgpuMemory.regionBitmap ∧
      (ctlCreateResource addBuf contextId request
        driver).2.virglResourceLookAsideList.taken =
          driver.virglResourceLookAsideList.taken ∧
      ∃ new, Matched new ∧
        (ctlCreateResource addBuf contextId request driver).2.pushes =
          driver.pushes ++ new

/-- The creation gets its record and then no pages. -/
def RunsOutOfPages : Prop :=
  ∃ started : StartedCreate DrmVirtgpuResourceCreate,
    startCreate contextId request.input request.output request.record
      driver = some started ∧
    started.create.size ≠ 1 ∧
    allocateVgpuMemory (resourceBufferSize started.create.size)
      driver.vgpuMemory = none

theorem exAllocateFromLookasideListEx_taken {α : Type}
    {grant : LookAsideGrant α} {list rest : LookAsideList α} {record : α}
    (hrecord : exAllocateFromLookasideListEx grant list =
      some (record, rest)) : rest.taken = list.taken + 1 := by
  cases grant with
  | recycled =>
      obtain ⟨free, taken⟩ := list
      cases free with
      | nil => cases hrecord
      | cons head tail =>
          cases hrecord
          rfl
  | pool contents =>
      cases hrecord
      rfl
  | refused => cases hrecord

theorem createAtomic_iff :
    CreateAtomic addBuf contextId request driver ↔
      ¬RunsOutOfPages contextId request driver := by
  constructor
  · rintro hatomic ⟨started, hstarted, hbuffer, hnone⟩
    have hfrom := startCreate_some hstarted
    have hend := ctlCreateResource_end addBuf hstarted
    unfold CreateAtomic at hatomic
    generalize ctlCreateResource addBuf contextId request driver = result
      at hatomic hend
    cases hend with
    | exhausted _ _ =>
        have htaken := (hatomic nofun).2.2.1
        have hrecords := exAllocateFromLookasideListEx_taken hfrom.record
        simp only [created3d, create3dResource, sendCommand, takeRecord,
          pushQueue, allocateCommandBuffer, Driver.log] at htaken
        omega
    | backed memory vgpuMemory resource _ halloc _ =>
        rw [hnone] at halloc
        cases halloc
    | bare hbare => exact absurd hbare hbuffer
  · intro henough herror
    cases hstarted : startCreate contextId request.input request.output
        request.record driver with
    | none =>
        obtain ⟨status, _, heq⟩ := ctlCreateResource_of_none addBuf hstarted
        rw [heq]
        exact ⟨rfl, rfl, rfl, [], fun _ => rfl, (List.append_nil _).symm⟩
    | some started =>
        have hend := ctlCreateResource_end addBuf hstarted
        generalize ctlCreateResource addBuf contextId request driver = result
          at herror hend
        cases hend with
        | exhausted hbuffer halloc =>
            exact absurd ⟨started, hstarted, hbuffer, halloc⟩ henough
        | backed => exact absurd rfl (herror _)
        | bare => exact absurd rfl (herror _)

end Atomic

/-! The host serves COMMAND_QUEUE. -/

/-- The resource ids that exist on the host after the command. -/
def CommandBody.serve (body : CommandBody) (ids : Finset UInt32) :
    Finset UInt32 :=
  match body with
  | .resourceCreate2d id _ _ _ | .resourceCreate3d id _
  | .resourceCreateBlob id _ => insert id ids
  | .resourceUnref id => ids.erase id
  | _ => ids

def serveAll (commands : List Command) (ids : Finset UInt32) :
    Finset UInt32 :=
  commands.foldl (fun ids command => command.body.serve ids) ids

/-- The world with the resource ids that exist on the host. -/
structure ServedWorld where
  world : World
  existing : Finset UInt32

namespace ServedWorld

variable (addBuf : Nat → Bool)

def step (served : ServedWorld) (action : Action) : ServedWorld where
  world := World.step addBuf served.world action
  existing :=
    match action with
    | .host .command slot _ =>
        match (served.world.driver.virtQueues .command).avail[slot]? with
        | none => served.existing
        | some buffer => buffer.pBuf.body.serve served.existing
    | _ => served.existing

def start (virtualAddress physicalAddress memorySize : Nat)
    (capsets : Capsets) : ServedWorld where
  world := World.start virtualAddress physicalAddress memorySize capsets
  existing := ∅

/-- When the queue is drained the host has the resources of the driver. -/
def Agrees (served : ServedWorld) : Prop :=
  (served.world.driver.virtQueues .command).avail = [] →
    ∀ id, id ∈ served.existing ↔
      ∃ entry ∈ served.world.driver.live, entry.2.id = id

end ServedWorld

/-- The next resource id is not in use. -/
def Driver.NextIdFree (driver : Driver) : Prop :=
  ∀ entry ∈ driver.live, entry.2.id ≠ nextResourceId driver

/-- The request creates a resource only with pages for it and an unused
id. -/
def IoRequest.CreatesCleanly (contextId : UInt32) (driver : Driver) :
    IoRequest → Prop
  | .resourceCreate request =>
      ∀ started, startCreate contextId request.input request.output
          request.record driver = some started →
        ¬RunsOutOfPages contextId request driver ∧ driver.NextIdFree
  | .blobResourceCreate request =>
      ∀ started, startCreate contextId request.input request.output
          request.record driver = some started → driver.NextIdFree
  | _ => True

/-- The host serves COMMAND_QUEUE in its order, and creations are clean. -/
def World.ServesCleanly (world : World) : Action → Prop
  | .request processId request =>
      request.CreatesCleanly processId world.driver
  | action => action.IsFifo .command

instance (driver : Driver) : Decidable driver.NextIdFree :=
  inferInstanceAs (Decidable (∀ _ ∈ _, _))

/-- A creation is clean where its pages are free, or it asks for none, and
its id is. -/
theorem IoRequest.CreatesCleanly.of_pages {contextId : UInt32}
    {driver : Driver} {request : ResourceCreateRequest}
    {create : DrmVirtgpuResourceCreate} (hinput : request.input = .ok create)
    (hpages : create.size = 1 ∨
      (allocateVgpuMemory (resourceBufferSize create.size)
        driver.vgpuMemory).isSome)
    (hfree : driver.NextIdFree) :
    (IoRequest.resourceCreate request).CreatesCleanly contextId driver := by
  rintro _ _
  refine ⟨?_, hfree⟩
  rintro ⟨started, hstarted, hbuffer, hnone⟩
  have hcreate : create = started.create :=
    Fetch.ok.inj (hinput.symm.trans (startCreate_some hstarted).input)
  subst hcreate
  rcases hpages with hbare | hsome
  · exact hbuffer hbare
  · rw [hnone] at hsome
    cases hsome

section Draws

variable {addBuf : Nat → Bool} {contextId : UInt32} {driver : Driver}

theorem RequestOutcome.draws {request : IoRequest} {after : Driver}
    (houtcome : RequestOutcome addBuf contextId driver request after)
    (hplain : ∀ create, request ≠ .resourceCreate create)
    (hblob : ∀ create, request ≠ .blobResourceCreate create) :
    after.resourceIds = driver.resourceIds := by
  have hfenced (outFence : Option Nat) (cmd : DrmVirtgpuExecbuffer)
      (memory : MemoryDescriptor) (vgpuMemory : VgpuMemory)
      (objects : List Nat) :
      (fencedCommand outFence cmd memory vgpuMemory
        (driver.reference objects)).2.resourceIds = driver.resourceIds := by
    cases outFence <;> rfl
  cases houtcome with
  | destroyed context hcontext =>
      exact (ctlDestroyVirglContext_frame addBuf context driver).2.1
  | closed close context resource hcontext hresource =>
      exact (deleteAndRelease_frame addBuf context.id resource _).2.1
  | mapped request context resource handle hcontext hresource hbuffer hidle =>
      obtain ⟨share, history, hmap, _⟩ := mapResource_frame context.id
        resource request driver
      rw [hmap]
      rfl
  | unread => exact hfenced ..
  | uncopied => exact hfenced ..
  | listed request context cmd outFence objects memory vgpuMemory reads fenced
      hinput hcontext halloc hread hfence =>
      have hids := hfenced outFence cmd memory vgpuMemory objects
      rw [← hfence] at hids
      exact hids
  | unlisted request context cmd outFence objects memory vgpuMemory fenced
      hcontext halloc hfence =>
      have hids := hfenced outFence cmd memory vgpuMemory objects
      rw [← hfence] at hids
      exact hids
  | exhausted create => exact absurd rfl (hplain create)
  | bare create => exact absurd rfl (hplain create)
  | backed create => exact absurd rfl (hplain create)
  | blobCreated create => exact absurd rfl (hblob create)
  | unchanged | opened | referenced | transferred => rfl

end Draws

section Serving

variable {contextId : UInt32} {ids : Finset UInt32}

theorem serveAll_append (first second : List Command) :
    serveAll (first ++ second) ids = serveAll second (serveAll first ids) :=
  List.foldl_append

theorem serveAll_creation {resource : VirglResource}
    {commands : List (Queue × Command)}
    (hcreates : CreationCommands contextId resource commands) :
    serveAll (commandsOf commands) ids = insert resource.id ids := by
  cases hcreates with
  | bare => rfl
  | backed => rfl
  | blob => rfl

theorem serveAll_deletion (resource : VirglResource) :
    serveAll (commandsOf (deletionCommands contextId resource)) ids =
      ids.erase resource.id := by
  unfold deletionCommands
  cases resource.bForBuffer with
  | false => rfl
  | true =>
      cases resource.bForBlob with
      | false => rfl
      | true => rfl

theorem mem_serveAll_deletions (resources : List VirglResource)
    (id : UInt32) :
    id ∈ serveAll (commandsOf
        (resources.flatMap (deletionCommands contextId))) ids ↔
      id ∈ ids ∧ id ∉ resources.map VirglResource.id := by
  induction resources generalizing ids with
  | nil => simp [serveAll]
  | cons head tail ih =>
      rw [List.flatMap_cons, commandsOf_append, serveAll_append, ih,
        serveAll_deletion, Finset.mem_erase, List.map_cons, List.mem_cons]
      tauto

end Serving

/-- The resource ids on the host when all accepted commands are served. -/
def Driver.hostIds (driver : Driver) : Finset UInt32 :=
  serveAll ((driver.sent .command).map VgpuBuffer.pBuf) ∅

/-- The accepted commands create on the host what the driver has listed. -/
structure Agreed (driver : Driver) : Prop where
  nodup : (driver.records.map Record.id).Nodup
  ids : ∀ id, id ∈ driver.hostIds ↔ id ∈ driver.records.map Record.id

namespace Agreed

variable {addBuf : Nat → Bool} {contextId : UInt32} {before after : Driver}

theorem hostIds_of_issues {commands : List (Queue × Command)}
    (hissues : Issues addBuf commands before after)
    (hpush : ∀ serial, addBuf serial = true) :
    after.hostIds = serveAll (commandsOf commands) before.hostIds := by
  unfold Driver.hostIds
  rw [hissues.sent hpush .command, serveAll_append]
  rfl

theorem of_same (h : Agreed before) (hrecords : after.records =
    before.records) (hids : after.hostIds = before.hostIds) :
    Agreed after where
  nodup := hrecords ▸ h.nodup
  ids := by
    intro id
    rw [hids, hrecords]
    exact h.ids id

theorem delete (h : Agreed before) (resources : List VirglResource)
    (hrecords : before.records.Perm
      (resources.map (fun resource => recordOf (contextId, resource)) ++
        after.records))
    (hids : ∀ id, id ∈ after.hostIds ↔
      id ∈ before.hostIds ∧ id ∉ resources.map VirglResource.id) :
    Agreed after := by
  have hboth : (before.records.map Record.id).Perm
      (resources.map VirglResource.id ++ after.records.map Record.id) := by
    have hmapped := hrecords.map Record.id
    rwa [List.map_append, List.map_map] at hmapped
  have hnodup := hboth.nodup_iff.mp h.nodup
  refine ⟨(List.nodup_append.mp hnodup).2.1, fun id => ?_⟩
  rw [hids, h.ids, hboth.mem_iff, List.mem_append]
  constructor
  · rintro ⟨hmem, hkept⟩
    exact hmem.resolve_left hkept
  · intro hmem
    refine ⟨Or.inr hmem, fun hgone => ?_⟩
    exact (List.nodup_append.mp hnodup).2.2 id hgone id hmem rfl

theorem counter_ne {ids : Idr} : (getIdFromIdrWithoutCache 4 ids).2 ≠ ids :=
  fun hsame => absurd (congrArg Idr.drawn hsame) (Nat.succ_ne_self _)

theorem trace (h : Agreed before)
    (hpush : ∀ serial, addBuf serial = true)
    (hstep : TraceStep addBuf contextId before after)
    (hclean : after.resourceIds ≠ before.resourceIds →
      before.NextIdFree ∧ ¬SameObjects before after) : Agreed after := by
  cases hstep with
  | quiet hsame hids hissues =>
      exact h.of_same hsame.records (hostIds_of_issues hissues hpush)
  | opened contextInit hnew hcontexts hrecords hids hissues =>
      exact h.of_same hrecords (hostIds_of_issues hissues hpush)
  | created resource commands hcontext hcreates hid hserial hcontexts hrecords
      hids hissues =>
      have hfree := (hclean (hids ▸ counter_ne)).1
      have hboth := hrecords.map Record.id
      have hfresh : resource.id ∉ before.records.map Record.id := by
        intro hmem
        obtain ⟨record, hrecord, heq⟩ := List.mem_map.mp hmem
        obtain ⟨entry, hentry, rfl⟩ := List.mem_map.mp hrecord
        exact hfree entry hentry (heq.trans hid)
      constructor
      · rw [hboth.nodup_iff, List.map_cons, List.nodup_cons]
        exact ⟨hfresh, h.nodup⟩
      · intro id
        rw [hostIds_of_issues hissues hpush, serveAll_creation hcreates,
          Finset.mem_insert, h.ids, hboth.mem_iff, List.map_cons,
          List.mem_cons]
        rfl
  | exhausted create hcontext hsame hids hissues =>
      exact absurd hsame (hclean (hids ▸ counter_ne)).2
  | closed resource hcontext hcontexts hrecords hids hissues =>
      refine h.delete [resource] hrecords fun id => ?_
      rw [hostIds_of_issues hissues hpush, serveAll_deletion,
        Finset.mem_erase, List.map_singleton, List.mem_singleton]
      exact and_comm
  | destroyed resources hcontext hcontexts hrecords hids hissues =>
      refine h.delete resources hrecords fun id => ?_
      rw [hostIds_of_issues hissues hpush, commandsOf_append,
        serveAll_append]
      exact mem_serveAll_deletions resources id
  | transferred resource toHost transfer hcontext hresource htransfer hsame
      hids hissues =>
      exact h.of_same hsame.records (hostIds_of_issues hissues hpush)
  | submitted buffer hcontext hsubmit hctxId hserial hsame hids hsends
      hcount =>
      refine h.of_same hsame.records ?_
      unfold Driver.hostIds
      rw [hsends.sent, acceptedOf_eq_self hpush, List.map_append,
        serveAll_append]
      unfold VgpuBuffer.IsSubmit at hsubmit
      split at hsubmit
      · rename_i size hbody
        simp [onQueue, serveAll, hbody, CommandBody.serve]
      · cases hsubmit

end Agreed

section Clean

variable {addBuf : Nat → Bool} {contextId : UInt32} {driver : Driver}

theorem not_sameObjects_of_insert {after : Driver} {context : VirglContext}
    (resource : VirglResource)
    (hcontext : getVirglContextFromListUnsafe driver.virglContextList
      contextId = some context)
    (hafter : after.virglContextList =
      (driver.insertResource context.id resource).virglContextList) :
    ¬SameObjects driver after := by
  intro hsame
  have hinserted := (hsame.trans (.of_contexts hafter.symm)).records
  have hlive := (@live_insertResource driver contextId context resource
    hcontext).length_eq
  have hlength := congrArg List.length hinserted
  simp only [Driver.records, List.length_map, List.length_cons] at hlength hlive
  omega

variable (addBuf) in
theorem ctlCreateBlobResource_end (request : BlobResourceCreateRequest) :
    (ctlCreateBlobResource addBuf contextId request driver).2 = driver ∨
      ∃ started : StartedCreate DrmVirtgpuResourceCreateBlob,
        startCreate contextId request.input request.output request.record
          driver = some started ∧
        (ctlCreateBlobResource addBuf contextId request driver).2 =
          mapBlobResource addBuf started.context.id
            (nameBlob driver started.record).id 0
            ((createBlobResource addBuf started.context.id
              (nameBlob driver started.record).id (blobParam started.create)
              0 (takeRecord started.records driver)).insertResource
                started.context.id (nameBlob driver started.record)) := by
  unfold ctlCreateBlobResource startCreate
  cases request.input with
  | failed code => exact Or.inl rfl
  | rejected => exact Or.inl rfl
  | ok create =>
      cases request.output with
      | failed code => exact Or.inl rfl
      | rejected => exact Or.inl rfl
      | ok _ =>
          simp only [Fetch.andThen]
          cases getVirglContextFromListUnsafe driver.virglContextList
              contextId with
          | none => exact Or.inl rfl
          | some context =>
              cases hrecord : exAllocateFromLookasideListEx request.record
                  driver.virglResourceLookAsideList with
              | none => exact Or.inl (by simp [createBlob, hrecord])
              | some grant =>
                  exact Or.inr ⟨_, rfl, by simp [createBlob, hrecord]⟩

theorem IoRequest.CreatesCleanly.draws {request : IoRequest}
    (hclean : request.CreatesCleanly contextId driver)
    (hchanged : (virtioVgpuIoControl addBuf contextId driver
      request).2.resourceIds ≠ driver.resourceIds) :
    driver.NextIdFree ∧
      ¬SameObjects driver
        (virtioVgpuIoControl addBuf contextId driver request).2 := by
  have houtcome : RequestOutcome addBuf contextId driver request
      (virtioVgpuIoControl addBuf contextId driver request).2 :=
    virtioVgpuIoControl_outcome contextId driver request
  cases request with
  | resourceCreate create =>
      change (ctlCreateResource addBuf contextId create
        driver).2.resourceIds ≠ _ at hchanged
      change _ ∧ ¬SameObjects driver
        (ctlCreateResource addBuf contextId create driver).2
      cases hstarted : startCreate contextId create.input create.output
          create.record driver with
      | none =>
          obtain ⟨status, _, heq⟩ :=
            ctlCreateResource_of_none addBuf hstarted
          rw [heq] at hchanged
          exact absurd rfl hchanged
      | some started =>
          obtain ⟨henough, hfree⟩ := hclean started hstarted
          refine ⟨hfree, ?_⟩
          have hcontext := (startCreate_some hstarted).context
          have hend := ctlCreateResource_end addBuf hstarted
          generalize ctlCreateResource addBuf contextId create driver =
            result at hend ⊢
          cases hend with
          | exhausted hbuffer halloc =>
              exact absurd ⟨started, hstarted, hbuffer, halloc⟩ henough
          | backed memory vgpuMemory resource =>
              exact not_sameObjects_of_insert resource hcontext rfl
          | bare => exact not_sameObjects_of_insert _ hcontext rfl
  | blobResourceCreate create =>
      change (ctlCreateBlobResource addBuf contextId create
        driver).2.resourceIds ≠ _ at hchanged
      change _ ∧ ¬SameObjects driver
        (ctlCreateBlobResource addBuf contextId create driver).2
      rcases ctlCreateBlobResource_end addBuf create with
        hsame | ⟨started, hstarted, heq⟩
      · rw [hsame] at hchanged
        exact absurd rfl hchanged
      · refine ⟨hclean started hstarted, ?_⟩
        have hcontext := (startCreate_some hstarted).context
        refine not_sameObjects_of_insert (nameBlob driver started.record)
          hcontext ?_
        rw [heq]
        simp [Driver.insertResource, Driver.modifyContext]
  | _ =>
      apply absurd (houtcome.draws ?_ ?_) hchanged
      · intro create heq
        cases heq
      · intro create heq
        cases heq

end Clean

namespace ServedWorld

/-- The host has served the front of the accepted commands. -/
structure Sound (served : ServedWorld) : Prop where
  agreed : Agreed served.world.driver
  front : ∃ done,
    served.world.driver.sent .command =
        done ++ (served.world.driver.virtQueues .command).avail ∧
      served.existing = serveAll (done.map VgpuBuffer.pBuf) ∅

variable {addBuf : Nat → Bool} {served : ServedWorld}

theorem Sound.agrees (h : served.Sound) : served.Agrees := by
  intro hdrained id
  obtain ⟨done, hsent, hexisting⟩ := h.front
  rw [hdrained, List.append_nil] at hsent
  have hids := h.agreed.ids id
  unfold Driver.hostIds at hids
  rw [hsent, ← hexisting] at hids
  rw [hids]
  simp [Driver.records, recordOf]

theorem front_of_sends {after : Driver} {new : List (Queue × VgpuBuffer)}
    (h : served.Sound) (hsends : Sends new served.world.driver after) :
    ∃ done, after.sent .command =
        done ++ (after.virtQueues .command).avail ∧
      served.existing = serveAll (done.map VgpuBuffer.pBuf) ∅ := by
  obtain ⟨done, hsent, hexisting⟩ := h.front
  refine ⟨done, ?_, hexisting⟩
  rw [hsends.sent, hsends.queued.virtQueues, hsent, List.append_assoc]

theorem front_of_idles {after : Driver} (h : served.Sound)
    (hidles : Idles served.world.driver after)
    (havail : (after.virtQueues .command).avail =
      (served.world.driver.virtQueues .command).avail) :
    ∃ done, after.sent .command =
        done ++ (after.virtQueues .command).avail ∧
      served.existing = serveAll (done.map VgpuBuffer.pBuf) ∅ := by
  obtain ⟨done, hsent, hexisting⟩ := h.front
  refine ⟨done, ?_, hexisting⟩
  rw [sent_of_pushes .command hidles.pushes, havail, hsent]

theorem agreed_of_idles {after : Driver} (h : served.Sound)
    (hidles : Idles served.world.driver after) : Agreed after := by
  refine h.agreed.of_same hidles.same.records ?_
  unfold Driver.hostIds
  rw [sent_of_pushes .command hidles.pushes]

theorem Sound.step (h : served.Sound)
    (hpush : ∀ serial, addBuf serial = true) {action : Action}
    (hclean : served.world.ServesCleanly action) :
    (ServedWorld.step addBuf served action).Sound := by
  cases action with
  | request processId request =>
      have htrace := virtioVgpuIoControl_trace addBuf processId
        served.world.driver request
      obtain ⟨new, hsends⟩ := htrace.sends
      have hfront := front_of_sends h hsends
      exact ⟨h.agreed.trace hpush htrace
        (IoRequest.CreatesCleanly.draws hclean), hfront⟩
  | processExit processId =>
      have htrace : TraceStep addBuf processId served.world.driver
          (processNotify addBuf processId served.world.driver) :=
        processNotify_trace processId served.world.driver
      have hids := (processNotify_idrs addBuf processId
        served.world.driver).1
      obtain ⟨new, hsends⟩ := htrace.sends
      have hfront := front_of_sends h hsends
      exact ⟨h.agreed.trace hpush htrace fun hchanged =>
        absurd hids hchanged, hfront⟩
  | dpc queue mapAddress =>
      have hidles := readOneFromQueue_idles queue mapAddress
        served.world.driver
      have hfront := front_of_idles h hidles (readOneFromQueue_avail ..)
      exact ⟨agreed_of_idles h hidles, hfront⟩
  | host queue slot info =>
      cases queue with
      | control =>
          cases hslot :
              (served.world.driver.virtQueues .control).avail[slot]? with
          | none =>
              have hsame : ServedWorld.step addBuf served
                  (.host .control slot info) = served := by
                simp only [ServedWorld.step, World.step, hslot]
              rw [hsame]
              exact h
          | some buffer =>
              have hidles := returnBuffer_idles .control slot buffer info
                served.world.driver
              have hfront := front_of_idles h hidles rfl
              simp only [ServedWorld.step, World.step, hslot]
              exact ⟨agreed_of_idles h hidles, hfront⟩
      | command =>
          -- the oldest command is served
          have hfirst : slot = 0 := hclean rfl
          subst hfirst
          cases havail :
              (served.world.driver.virtQueues .command).avail with
          | nil =>
              have hsame : ServedWorld.step addBuf served
                  (.host .command 0 info) = served := by
                simp only [ServedWorld.step, World.step, havail,
                  List.getElem?_nil]
              rw [hsame]
              exact h
          | cons buffer rest =>
              have hidles := returnBuffer_idles .command 0 buffer info
                served.world.driver
              simp only [ServedWorld.step, World.step, havail,
                List.getElem?_cons_zero]
              refine ⟨agreed_of_idles h hidles, ?_⟩
              obtain ⟨done, hsent, hexisting⟩ := h.front
              refine ⟨done ++ [buffer], ?_, ?_⟩
              · rw [sent_of_pushes .command hidles.pushes, hsent, havail]
                simp [Driver.returnBuffer, havail]
              · rw [List.map_append, serveAll_append, ← hexisting]
                rfl

theorem start_sound (virtualAddress physicalAddress memorySize : Nat)
    (capsets : Capsets) :
    (start virtualAddress physicalAddress memorySize capsets).Sound where
  agreed := ⟨List.nodup_nil, fun _ => Iff.rfl⟩
  front := ⟨[], rfl, rfl⟩

theorem run_sound {addBuf : Nat → Bool}
    {virtualAddress physicalAddress memorySize : Nat} {capsets : Capsets}
    {actions : List Action} (hpush : ∀ serial, addBuf serial = true)
    (hclean : Along (step addBuf)
      (fun served action => served.world.ServesCleanly action)
      (start virtualAddress physicalAddress memorySize capsets) actions) :
    (runFrom (step addBuf)
      (start virtualAddress physicalAddress memorySize capsets)
      actions).Sound :=
  hclean.invariant (fun _ _ h hguard => h.step hpush hguard)
    (start_sound virtualAddress physicalAddress memorySize capsets)

end ServedWorld

/-- A failed creation is atomic exactly when it does not run out of pages; in
runs without such creations and without repeated ids the drained host has the
resources of the driver. -/
theorem creation_atomic_iff (addBuf : Nat → Bool) :
    (∀ contextId request driver,
      CreateAtomic addBuf contextId request driver ↔
        ¬RunsOutOfPages contextId request driver) ∧
    ∀ virtualAddress physicalAddress memorySize capsets actions,
      (∀ serial, addBuf serial = true) →
      Along (ServedWorld.step addBuf)
        (fun served action => served.world.ServesCleanly action)
        (ServedWorld.start virtualAddress physicalAddress memorySize capsets)
        actions →
      (runFrom (ServedWorld.step addBuf)
        (ServedWorld.start virtualAddress physicalAddress memorySize capsets)
        actions).Agrees :=
  ⟨createAtomic_iff addBuf,
    fun _ _ _ _ _ hpush hclean =>
      (ServedWorld.run_sound hpush hclean).agrees⟩

/-- The device with an open context of process 7. -/
def openedWorld : World :=
  runFrom (World.step fun _ => true) World.eightPages
    [.request 7 .initContext]

/-- A resource with a buffer that is closed again while one without buffer
lives, and two requests that are refused. -/
def closedRun : List Action :=
  [.request 7 .initContext, .request 7 (.create 0x1000),
    .request 7 (.create 1), .request 7 (.close 9),
    .request 7 (.resourceCreate
      { input := .ok { param := IoRequest.resourceParam, size := 0x1000 }
        output := .ok ()
        record := .refused }),
    .host .command 0 { gpa := 0, size := 0 }, .request 7 (.close 1)] ++
    List.replicate 4 (.host .command 0 { gpa := 0, size := 0 })

/-- The served commands leave the second resource to the host. -/
theorem creation_atomic_closed :
    (runFrom (ServedWorld.step fun _ => true)
        (ServedWorld.start 0x10000 0x80000 0x8000 .oneCapset)
        closedRun).Agrees ∧
      (runFrom (ServedWorld.step fun _ => true)
        (ServedWorld.start 0x10000 0x80000 0x8000 .oneCapset)
        closedRun).existing = {2} := by
  refine ⟨(creation_atomic_iff fun _ => true).2 0x10000 0x80000 0x8000 _ _
    (fun _ => rfl) ?_, by decide +kernel⟩
  refine ⟨trivial, ?_, ?_, trivial, ?_, fun _ => rfl, trivial, fun _ => rfl,
    fun _ => rfl, fun _ => rfl, fun _ => rfl, trivial⟩
  · exact .of_pages rfl (by decide +kernel) (by decide +kernel)
  · exact .of_pages rfl (by decide +kernel) (by decide +kernel)
  · exact .of_pages rfl (by decide +kernel) (by decide +kernel)

/-- A region of 8 pages cannot back 9. -/
theorem exhausted_creation_stays :
    ¬CreateAtomic (fun _ => true) 7
        { input := .ok { param := IoRequest.resourceParam, size := 0x9000 }
          output := .ok ()
          record := .pool IoRequest.poolRecord } openedWorld.driver ∧
      ¬(runFrom (ServedWorld.step fun _ => true)
        (ServedWorld.start 0x10000 0x80000 0x8000 .oneCapset)
        [.request 7 .initContext, .request 7 (.create 0x9000),
          .host .command 0 { gpa := 0, size := 0 }]).Agrees := by
  constructor
  · rw [createAtomic_iff]
    intro henough
    exact henough ⟨_, rfl, by decide, by decide +kernel⟩
  · intro hagrees
    obtain ⟨entry, hentry, _⟩ := (hagrees rfl 1).mp (by decide +kernel)
    exact absurd hentry List.not_mem_nil

end VgpuDriver
