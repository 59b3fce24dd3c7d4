import VgpuDriver.PageReuse

namespace VgpuDriver

open Data

/-! A backing is held by the record of its resource until the resource is
deleted; the deletion tells the host with a DETACH_BACKING. -/

/-- What the record of a resource says about its pages. -/
structure PageRecord where
  serial : Nat
  id : UInt32
  pages : Option Region

def VirglResource.pageRecord (resource : VirglResource) : PageRecord where
  serial := resource.serial
  id := resource.id
  pages := resource.pages

/-- The records of the resources still to be deleted and of the live ones. -/
def Driver.pageRecords (pending : List VirglResource) (driver : Driver) :
    List PageRecord :=
  pending.map VirglResource.pageRecord ++
    driver.live.map fun entry => entry.2.pageRecord

/-- The pages in the vgpu memory. -/
def Backing.region (backing : Backing) : Region where
  address := backing.memory.virtualAddress
  size := backing.size

structure PageRecord.Holds (record : PageRecord) (backing : Backing) :
    Prop where
  serial : record.serial = backing.serial
  id : record.id = backing.resourceId
  pages : record.pages = some backing.region

/-- The command is the RESOURCE_ATTACH_BACKING for the backing. -/
def VgpuBuffer.Attaches (buffer : VgpuBuffer) (backing : Backing) : Prop :=
  ∃ size : UInt32, size.toNat ≤ backing.size ∧
    buffer.pBuf.body = .resourceAttachBacking backing.resourceId
      backing.memory.physicalAddress size

/-- The DETACH_BACKING of the deleted resource has this serial. -/
structure Detaches (addBuf : Nat → Bool) (driver : Driver)
    (backing : Backing) (serial : Nat) : Prop where
  older : backing.serial < serial
  newer : serial < driver.pushCount
  only : ∀ push ∈ driver.pushes, push.2.serial = serial →
    push.1 = .command ∧
      push.2.pBuf.body = .resourceDetachBacking backing.resourceId
  accepted : addBuf serial = true →
    ∃ push ∈ driver.pushes, push.2.serial = serial

structure BackingLedger (addBuf : Nat → Bool) (pending : List VirglResource)
    (driver : Driver) : Prop where
  tracked : Tracked pending driver
  serials : ∀ push ∈ driver.pushes, push.2.serial < driver.pushCount
  held : ∀ backing ∈ driver.backings,
    (∃ record ∈ driver.pageRecords pending, record.Holds backing) ∨
      ∃ serial, (backing.serial, serial) ∈ driver.detaches
  named : ∀ backing ∈ driver.backings,
    ∀ record ∈ driver.pageRecords pending,
      record.serial = backing.serial → record.id = backing.resourceId
  attached : ∀ push ∈ driver.pushes, push.2.attachedBytes ≠ none →
    push.1 = .command ∧ ∃ backing ∈ driver.backings,
      push.2.Attaches backing ∧
        ∀ serial, (backing.serial, serial) ∈ driver.detaches →
          push.2.serial < serial
  detached : ∀ backing ∈ driver.backings, ∀ serial,
    (backing.serial, serial) ∈ driver.detaches →
      Detaches addBuf driver backing serial

section Records

variable {driver : Driver} {pending : List VirglResource}

theorem serials_eq_map_pageRecords :
    driver.serials pending =
      (driver.pageRecords pending).map PageRecord.serial := by
  unfold Driver.serials Driver.pageRecords
  rw [List.map_append, List.map_map, List.map_map]
  rfl

theorem mem_backings {backing : Backing} :
    backing ∈ driver.backings ↔ .backed backing ∈ driver.notable := by
  unfold Driver.backings
  rw [List.mem_filterMap]
  constructor
  · rintro ⟨event, hevent, hbacking⟩
    cases event with
    | backed other =>
        cases hbacking
        exact hevent
    | _ => cases hbacking
  · intro hevent
    exact ⟨_, hevent, rfl⟩

theorem mem_detaches {entry : Nat × Nat} :
    entry ∈ driver.detaches ↔
      .unbacked entry.1 entry.2 ∈ driver.notable := by
  unfold Driver.detaches
  rw [List.mem_filterMap]
  constructor
  · rintro ⟨event, hevent, hentry⟩
    cases event with
    | unbacked serial detachSerial =>
        cases hentry
        exact hevent
    | _ => cases hentry
  · intro hevent
    exact ⟨_, hevent, rfl⟩

theorem Tracked.record_serial (h : Tracked pending driver)
    {record : PageRecord} (hrecord : record ∈ driver.pageRecords pending) :
    record.serial < driver.pushCount := by
  apply h.serials
  rw [serials_eq_map_pageRecords]
  exact List.mem_map_of_mem hrecord

theorem Tracked.backing_serial (h : Tracked pending driver)
    {backing : Backing} (hbacking : backing ∈ driver.backings) :
    backing.serial < driver.pushCount :=
  h.events _ (mem_backings.mp hbacking) _ rfl

theorem Tracked.detach_serial (h : Tracked pending driver)
    {entry : Nat × Nat} (hentry : entry ∈ driver.detaches) :
    entry.1 < driver.pushCount :=
  h.events _ (mem_detaches.mp hentry) _ rfl

end Records

theorem Pushes.of_sends {kind : Queue → VgpuBuffer → Prop}
    {before after : Driver} {new : List (Queue × VgpuBuffer)}
    (h : Pushes kind before after) (hsends : Sends new before after) :
    ∀ push ∈ new, kind push.1 push.2 := by
  obtain ⟨other, hextends, hkind⟩ := h
  rintro ⟨queue, buffer⟩ hpush
  have hsame : other queue = onQueue queue new := by
    have hinFlight := hsends.inFlight queue
    rw [hextends.inFlight queue] at hinFlight
    exact List.append_cancel_left hinFlight
  apply hkind queue buffer
  rw [hsame]
  exact mem_onQueue.mpr hpush

theorem ledger_of_notable {before after : Driver} (events : List Event)
    (hnotable : after.notable = events ++ before.notable)
    (hevents : ∀ event ∈ events,
      event.backing = none ∧ event.detach = none) :
    after.backings = before.backings ∧ after.detaches = before.detaches := by
  have hnone : events.filterMap Event.backing = [] ∧
      events.filterMap Event.detach = [] :=
    ⟨List.filterMap_eq_nil_iff.mpr fun event hevent =>
        (hevents event hevent).1,
      List.filterMap_eq_nil_iff.mpr fun event hevent =>
        (hevents event hevent).2⟩
  unfold Driver.backings Driver.detaches
  rw [hnotable, List.filterMap_append, List.filterMap_append, hnone.1,
    hnone.2]
  exact ⟨rfl, rfl⟩

theorem Remarked.pageRecord {old new : UInt32 × VirglResource}
    (h : Remarked old new) : new.2.pageRecord = old.2.pageRecord := by
  obtain ⟨_, _, rfl, _⟩ := h
  rfl

theorem Signaled.pageRecord {buffer : VgpuBuffer}
    {old new : UInt32 × VirglResource} (h : Signaled buffer old new) :
    new.2.pageRecord = old.2.pageRecord := by
  rcases h with rfl | ⟨_, rfl⟩
  · rfl
  · obtain ⟨_, _, hstate⟩ := VirglResource.updateState_eq false
      buffer.pBuf.hdr.fenceId old.2
    rw [hstate]
    rfl

section Deletion

variable {resource : VirglResource} {pushCount : Nat}

theorem mem_deletionEvents_unbacked {entry : Nat × Nat} :
    .unbacked entry.1 entry.2 ∈ deletionEvents resource pushCount ↔
      resource.IsPlain = true ∧ entry = (resource.serial, pushCount) := by
  unfold deletionEvents VirglResource.IsPlain
  cases resource.bForBuffer with
  | false => simp
  | true =>
      cases resource.bForBlob with
      | true => simp
      | false => simp [Prod.ext_iff]

theorem not_mem_deletionEvents_backed (backing : Backing) :
    .backed backing ∉ deletionEvents resource pushCount := by
  unfold deletionEvents
  split
  · split
    · simp
    · simp
  · simp

theorem mem_backings_delete {addBuf : Nat → Bool} {contextId : UInt32}
    {driver : Driver} {backing : Backing} :
    backing ∈ (deleteAndRelease addBuf contextId driver resource).backings ↔
      backing ∈ driver.backings := by
  rw [mem_backings, mem_backings, deleteAndRelease_notable]
  simp [not_mem_deletionEvents_backed]

theorem DeletionCommand.attachedBytes {contextId : UInt32} {queue : Queue}
    {buffer : VgpuBuffer}
    (h : DeletionCommand contextId resource queue buffer) :
    buffer.attachedBytes = none := by
  obtain ⟨_, hdr, body, hbuffer, hbody⟩ := h
  rw [hbuffer]
  rcases hbody with ⟨_, rfl⟩ | ⟨_, rfl⟩ | ⟨_, rfl⟩
  · rfl
  · rfl
  · rfl

/-- The deletion of a plain resource starts with its DETACH_BACKING. -/
theorem detaches_of_issues {contextId : UInt32} {backing : Backing}
    {addBuf : Nat → Bool} {before after : Driver}
    (hplain : resource.IsPlain = true)
    (hissues : Issues addBuf (deletionCommands contextId resource) before
      after)
    (hserials : ∀ push ∈ before.pushes, push.2.serial < before.pushCount)
    (hid : resource.id = backing.resourceId)
    (holder : backing.serial < before.pushCount) :
    Detaches addBuf after backing before.pushCount := by
  have hcommands : deletionCommands contextId resource =
      [(.command, ⟨ctrlHdr 0 0, .resourceDetachBacking backing.resourceId⟩),
        (.command,
          ⟨ctrlHdr contextId 0, .resourceUnref backing.resourceId⟩)] := by
    unfold VirglResource.IsPlain at hplain
    rw [Bool.and_eq_true, Bool.not_eq_true'] at hplain
    unfold deletionCommands
    rw [if_pos hplain.1, hplain.2, hid]
    rfl
  rw [hcommands] at hissues
  have hcount := hissues.count
  have hpushes := hissues.sends.pushes
  refine ⟨holder, ?_, ?_, ?_⟩
  · rw [hcount]
    simp
  · intro push hpush hserial
    rw [hpushes] at hpush
    rcases List.mem_append.mp hpush with hold | hnew
    · have hearly := hserials push hold
      omega
    · have hnew := (List.mem_filter.mp hnew).1
      rcases List.mem_cons.mp hnew with rfl | hunref
      · exact ⟨rfl, rfl⟩
      · rw [List.mem_singleton.mp hunref] at hserial
        exact absurd hserial (Nat.succ_ne_self _)
  · intro haccepted
    rw [hpushes]
    exact ⟨_, List.mem_append_right _
      (List.mem_filter.mpr ⟨List.mem_cons_self, haccepted⟩), rfl⟩

end Deletion

/-- A RESOURCE_ATTACH_BACKING is pushed for a backing that the step makes. -/
def AttachesNew (before after : Driver) (queue : Queue)
    (buffer : VgpuBuffer) : Prop :=
  buffer.attachedBytes ≠ none → queue = .command ∧
    ∃ backing ∈ after.backings, backing.serial = before.pushCount ∧
      buffer.Attaches backing

section Attaching

variable {addBuf : Nat → Bool} {contextId : UInt32} {driver after : Driver}

private theorem attachesNew_of_none {before : Driver} {queue : Queue}
    {buffer : VgpuBuffer} (hnone : buffer.attachedBytes = none) :
    AttachesNew before after queue buffer :=
  fun hattached => absurd hnone hattached

private theorem ctlDestroyVirglContext_attaches (context : VirglContext) :
    Pushes (AttachesNew driver after) driver
      (ctlDestroyVirglContext addBuf context driver) := by
  apply ctlDestroyVirglContext_pushes
  · intro resource queue buffer hdeletion
    exact attachesNew_of_none hdeletion.attachedBytes
  · intro serial
    exact attachesNew_of_none rfl

private theorem created3d_attaches (context : VirglContext)
    (create : DrmVirtgpuResourceCreate) (record : VirglResource)
    (records : LookAsideList VirglResource) :
    Pushes (AttachesNew driver after) driver
      (created3d addBuf context create record records driver) :=
  (sendCommand_pushes addBuf (attachesNew_of_none rfl)).from_frame rfl rfl

private theorem submitCommand_attaches (virglContextId : UInt32)
    (command : MemoryDescriptor) (commandBufSize : Nat)
    (commandSize : UInt32) (resourceIds : Option (List UInt32))
    (fenceId : UInt64) (fenceObject : Option Nat) (middle : Driver) :
    Pushes (AttachesNew driver after) middle
      (submitCommand addBuf virglContextId command commandBufSize commandSize
        resourceIds fenceId fenceObject middle).2 := by
  have hpushes : Pushes (AttachesNew driver after)
      (allocateCommandBuffer middle)
      (submitCommand addBuf virglContextId command commandBufSize commandSize
        resourceIds fenceId fenceObject middle).2 :=
    pushQueue_pushes addBuf rfl (attachesNew_of_none rfl)
  exact hpushes.from_frame rfl rfl

theorem RequestOutcome.attaches {request : IoRequest}
    (houtcome : RequestOutcome addBuf contextId driver request after) :
    Pushes (AttachesNew driver after) driver after := by
  cases houtcome with
  | unchanged => exact .of_frame rfl rfl
  | opened request contextInit hnew =>
      exact (sendCommand_pushes addBuf
        (attachesNew_of_none rfl)).from_frame rfl rfl
  | destroyed context hcontext =>
      exact ctlDestroyVirglContext_attaches context
  | exhausted request context create record records hcontext hnone =>
      exact created3d_attaches context create record records
  | bare request context create record records hcontext hbuffer =>
      exact (created3d_attaches context create record
        records).to_frame rfl rfl
  | backed request context create record records memory vgpuMemory resource
      hcontext hbuffer halloc hresource =>
      have hbacked : .backed (backingOf context.id resource) ∈
          (attachResourceBacking addBuf context.id resource
            (grantBacking context.id resource vgpuMemory
              (created3d addBuf context create record records
                driver))).notable := by
        unfold attachResourceBacking
        rw [sendCommand_notable, grantBacking_notable]
        exact List.mem_cons_self
      have hcreated : ∀ after : Driver,
          Pushes (AttachesNew driver after) driver
            (grantBacking context.id resource vgpuMemory
              (created3d addBuf context create record records driver)) :=
        fun after => (created3d_attaches context create record
          records).to_frame rfl rfl
      refine ((hcreated _).trans (sendCommand_pushes addBuf ?_)).to_frame rfl rfl
      intro _
      refine ⟨rfl, backingOf context.id resource,
        mem_backings.mpr hbacked, ?_, UInt32.ofNat resource.buffer.size,
        ?_, rfl⟩
      · rw [hresource]
        rfl
      · exact Nat.mod_le _ _
  | blobCreated request context create record records hcontext =>
      have hcreated : ∀ after : Driver,
          Pushes (AttachesNew driver after) driver
            ((createBlobResource addBuf context.id
              (nameBlob driver record).id (blobParam create) 0
              (takeRecord records driver)).insertResource context.id
                (nameBlob driver record)) := fun after =>
        Pushes.to_frame ((sendCommand_pushes addBuf
          (attachesNew_of_none rfl)).from_frame rfl rfl) rfl rfl
      refine (hcreated _).trans (sendCommand_pushes addBuf ?_)
      exact attachesNew_of_none rfl
  | closed close context resource hcontext hresource =>
      have hpushes := deleteAndRelease_pushes addBuf context.id resource
        (driver.removeResource context.id close.handle)
      exact (hpushes.mono fun queue buffer hdeletion =>
        attachesNew_of_none hdeletion.attachedBytes).from_frame rfl rfl
  | mapped request context resource handle hcontext hresource hbuffer hidle =>
      obtain ⟨share, history, hmap, _⟩ := mapResource_frame context.id
        resource request driver
      rw [hmap]
      exact .of_frame rfl rfl
  | referenced request objects => exact .of_frame rfl rfl
  | unread request cmd outFence objects memory vgpuMemory halloc hhandles =>
      have hframe := fencedCommand_frame driver outFence cmd memory
        vgpuMemory objects
      exact .of_frame hframe.2.2.1 hframe.2.2.2
  | uncopied request context cmd outFence objects memory vgpuMemory reads
      hcontext halloc hblock =>
      have hframe := fencedCommand_frame driver outFence cmd memory
        vgpuMemory objects
      exact .of_frame hframe.2.2.1 hframe.2.2.2
  | listed request context cmd outFence objects memory vgpuMemory reads fenced
      hinput hcontext halloc hread hfenced =>
      have hframe := fencedCommand_frame driver outFence cmd memory
        vgpuMemory objects
      rw [← hfenced] at hframe
      exact (submitCommand_attaches _ _ _ _ _ _ _ _).from_frame
        hframe.2.2.1 hframe.2.2.2
  | unlisted request context cmd outFence objects memory vgpuMemory fenced
      hcontext halloc hfenced =>
      have hframe := fencedCommand_frame driver outFence cmd memory
        vgpuMemory objects
      rw [← hfenced] at hframe
      exact (submitCommand_attaches _ _ _ _ _ _ _ _).from_frame
        hframe.2.2.1 hframe.2.2.2
  | transferred toHost request context resource transfer hcontext hresource
      htransfer =>
      exact (sendCommand_pushes addBuf
        (attachesNew_of_none rfl)).from_frame rfl rfl

theorem processNotify_attaches (processId : UInt32) :
    Pushes (AttachesNew driver (processNotify addBuf processId driver))
      driver (processNotify addBuf processId driver) := by
  unfold processNotify
  split
  · exact .of_frame rfl rfl
  · exact ctlDestroyVirglContext_attaches _

end Attaching

/-- The commands `new` were accepted, whatever else happened. -/
structure Adds (new : List (Queue × VgpuBuffer)) (before after : Driver) :
    Prop where
  pushes : after.pushes = before.pushes ++ new
  pushCount : before.pushCount ≤ after.pushCount
  serials : ∀ push ∈ new, before.pushCount ≤ push.2.serial ∧
    push.2.serial < after.pushCount

theorem Sends.adds {new : List (Queue × VgpuBuffer)} {before after : Driver}
    (h : Sends new before after) : Adds new before after where
  pushes := h.pushes
  pushCount := h.queued.pushCount
  serials := fun push hpush =>
    h.queued.serials push.1 push.2 (mem_onQueue.mpr hpush)

theorem Idles.adds {before after : Driver} (h : Idles before after) :
    Adds [] before after where
  pushes := by rw [h.pushes, List.append_nil]
  pushCount := Nat.le_of_eq h.pushCount.symm
  serials := List.forall_mem_nil _

namespace BackingLedger

variable {addBuf : Nat → Bool} {before after driver : Driver}
variable {pending rest : List VirglResource}
variable {new : List (Queue × VgpuBuffer)}

private theorem detaches_mono {backing : Backing} {serial : Nat}
    (h : Detaches addBuf before backing serial)
    (hadds : Adds new before after) :
    Detaches addBuf after backing serial where
  older := h.older
  newer := Nat.lt_of_lt_of_le h.newer hadds.pushCount
  only := by
    intro push hpush hserial
    rw [hadds.pushes] at hpush
    rcases List.mem_append.mp hpush with hold | hnew
    · exact h.only push hold hserial
    · have hlate := (hadds.serials push hnew).1
      have hearly := h.newer
      omega
  accepted := by
    intro haccepted
    obtain ⟨push, hpush, hserial⟩ := h.accepted haccepted
    refine ⟨push, ?_, hserial⟩
    rw [hadds.pushes]
    exact List.mem_append_left _ hpush

private theorem serials_of_adds
    (h : ∀ push ∈ before.pushes, push.2.serial < before.pushCount)
    (hadds : Adds new before after) :
    ∀ push ∈ after.pushes, push.2.serial < after.pushCount := by
  intro push hpush
  rw [hadds.pushes] at hpush
  rcases List.mem_append.mp hpush with hold | hnew
  · exact Nat.lt_of_lt_of_le (h push hold) hadds.pushCount
  · exact (hadds.serials push hnew).2

/-- A step that deletes nothing: `fresh` are the records of the resources that
it creates, `more` are their backings. -/
theorem grow (fresh : List PageRecord) (more : List Backing)
    (h : BackingLedger addBuf pending before)
    (htracked : Tracked rest after) (hadds : Adds new before after)
    (hrecords : (after.pageRecords rest).Perm
      (fresh ++ before.pageRecords pending))
    (hfresh : ∀ record ∈ fresh, record.serial = before.pushCount)
    (hbackings : after.backings = more ++ before.backings)
    (hmore : ∀ backing ∈ more, backing.serial = before.pushCount ∧
      (∃ record ∈ fresh, record.Holds backing) ∧
        ∀ record ∈ fresh, record.id = backing.resourceId)
    (hdetaches : after.detaches = before.detaches)
    (hattaches : ∀ push ∈ new, AttachesNew before after push.1 push.2) :
    BackingLedger addBuf rest after where
  tracked := htracked
  serials := serials_of_adds h.serials hadds
  held := by
    intro backing hbacking
    rw [hbackings] at hbacking
    rw [hdetaches]
    rcases List.mem_append.mp hbacking with hnew | hold
    · obtain ⟨_, ⟨record, hrecord, hholds⟩, _⟩ := hmore backing hnew
      left
      exact ⟨record, hrecords.mem_iff.mpr (List.mem_append_left _ hrecord),
        hholds⟩
    · rcases h.held backing hold with ⟨record, hrecord, hholds⟩ | hgone
      · left
        exact ⟨record,
          hrecords.mem_iff.mpr (List.mem_append_right _ hrecord), hholds⟩
      · exact Or.inr hgone
  named := by
    intro backing hbacking record hrecord hserial
    rw [hbackings] at hbacking
    rcases List.mem_append.mp (hrecords.mem_iff.mp hrecord) with
      hcreated | hkept
    · rcases List.mem_append.mp hbacking with hnew | hold
      · exact (hmore backing hnew).2.2 record hcreated
      · have hyounger := h.tracked.backing_serial hold
        have hserial' := hfresh record hcreated
        omega
    · rcases List.mem_append.mp hbacking with hnew | hold
      · have hyounger := h.tracked.record_serial hkept
        have hserial' := (hmore backing hnew).1
        omega
      · exact h.named backing hold record hkept hserial
  attached := by
    intro push hpush hattached
    rw [hadds.pushes] at hpush
    rw [hbackings, hdetaches]
    rcases List.mem_append.mp hpush with hold | hnew
    · obtain ⟨hqueue, backing, hbacking, hattach⟩ :=
        h.attached push hold hattached
      exact ⟨hqueue, backing, List.mem_append_right _ hbacking, hattach⟩
    · obtain ⟨hqueue, backing, hbacking, hcreated, hattach⟩ :=
        hattaches push hnew hattached
      rw [hbackings] at hbacking
      refine ⟨hqueue, backing, hbacking, hattach, ?_⟩
      intro serial hserial
      have hyounger := h.tracked.detach_serial hserial
      dsimp only at hyounger
      omega
  detached := by
    intro backing hbacking serial hserial
    rw [hbackings] at hbacking
    rw [hdetaches] at hserial
    rcases List.mem_append.mp hbacking with hnew | hold
    · have hyounger := h.tracked.detach_serial hserial
      have hserial' := (hmore backing hnew).1
      dsimp only at hyounger
      omega
    · exact detaches_mono (h.detached backing hold serial hserial) hadds

variable (addBuf) in
theorem delete {resource : VirglResource}
    (h : BackingLedger addBuf (resource :: rest) driver)
    (contextId : UInt32) :
    BackingLedger addBuf rest
      (deleteAndRelease addBuf contextId driver resource) := by
  have hissues := deleteAndRelease_issues addBuf contextId resource driver
  have hpushed := (deleteAndRelease_pushes addBuf contextId resource
    driver).of_sends hissues.sends
  have hnotable := deleteAndRelease_notable addBuf driver contextId resource
  have hcontexts := (deleteAndRelease_frame addBuf contextId resource
    driver).1
  have hkept : driver.pageRecords (resource :: rest) =
      resource.pageRecord :: (deleteAndRelease addBuf contextId driver
        resource).pageRecords rest := by
    unfold Driver.pageRecords Driver.live
    rw [hcontexts]
    rfl
  have hbackings : ∀ backing, backing ∈ (deleteAndRelease addBuf contextId
      driver resource).backings ↔ backing ∈ driver.backings :=
    fun backing => mem_backings_delete
  have htracked := h.tracked.delete addBuf contextId
  generalize deleteAndRelease addBuf contextId driver resource = after
    at hissues hpushed hnotable hkept hbackings htracked
  have hdetaches : ∀ entry, entry ∈ after.detaches ↔
      (resource.IsPlain = true ∧
        entry = (resource.serial, driver.pushCount)) ∨
      entry ∈ driver.detaches := by
    intro entry
    rw [mem_detaches, mem_detaches, hnotable]
    simp [mem_deletionEvents_unbacked]
  have hserials := serials_of_adds h.serials hissues.sends.adds
  refine ⟨htracked, hserials, ?_, ?_, ?_, ?_⟩
  · intro backing hbacking
    have hold := (hbackings backing).mp hbacking
    rcases h.held backing hold with ⟨record, hrecord, hholds⟩ | ⟨serial, hgone⟩
    · rw [hkept] at hrecord
      rcases List.mem_cons.mp hrecord with rfl | hrecord
      · right
        have hplain : resource.IsPlain = true := by
          by_contra hother
          have hpages : resource.pages = some backing.region := hholds.pages
          rw [VirglResource.pages, if_neg hother] at hpages
          cases hpages
        have hserial : resource.serial = backing.serial := hholds.serial
        refine ⟨driver.pushCount, (hdetaches _).mpr (Or.inl ⟨hplain, ?_⟩)⟩
        rw [hserial]
      · exact Or.inl ⟨record, hrecord, hholds⟩
    · exact Or.inr ⟨serial, (hdetaches _).mpr (Or.inr hgone)⟩
  · intro backing hbacking record hrecord
    apply h.named backing ((hbackings backing).mp hbacking)
    rw [hkept]
    exact List.mem_cons_of_mem _ hrecord
  · intro push hpush hattached
    rw [hissues.sends.pushes] at hpush
    rcases List.mem_append.mp hpush with hold | hnew
    · obtain ⟨hqueue, backing, hbacking, hattach, hbefore⟩ :=
        h.attached push hold hattached
      refine ⟨hqueue, backing, (hbackings backing).mpr hbacking, hattach, ?_⟩
      intro serial hserial
      rcases (hdetaches _).mp hserial with ⟨_, hentry⟩ | hserial
      · obtain ⟨_, rfl⟩ := Prod.mk.inj hentry
        exact h.serials push hold
      · exact hbefore serial hserial
    · exact absurd (hpushed push hnew).attachedBytes hattached
  · intro backing hbacking serial hserial
    have hold := (hbackings backing).mp hbacking
    rcases (hdetaches _).mp hserial with ⟨hplain, hentry⟩ | hserial
    · obtain ⟨hsame, rfl⟩ := Prod.mk.inj hentry
      have hid : resource.id = backing.resourceId := by
        apply h.named backing hold resource.pageRecord
        · rw [hkept]
          exact List.mem_cons_self
        · exact hsame.symm
      exact detaches_of_issues hplain hissues h.serials hid
        (h.tracked.backing_serial hold)
    · exact detaches_mono (h.detached backing hold serial hserial)
        hissues.sends.adds

private theorem keep (events : List Event)
    (h : BackingLedger addBuf pending before)
    (htracked : Tracked rest after) (hadds : Adds new before after)
    (hrecords : (after.pageRecords rest).Perm (before.pageRecords pending))
    (hnotable : after.notable = events ++ before.notable)
    (hevents : ∀ event ∈ events,
      event.backing = none ∧ event.detach = none)
    (hattaches : ∀ push ∈ new, AttachesNew before after push.1 push.2) :
    BackingLedger addBuf rest after := by
  obtain ⟨hbackings, hdetaches⟩ := ledger_of_notable events hnotable hevents
  exact h.grow [] [] htracked hadds hrecords (List.forall_mem_nil _)
    hbackings (List.forall_mem_nil _) hdetaches hattaches

private theorem insert {contextId : UInt32} {resource : VirglResource}
    (h : BackingLedger addBuf [] before)
    (htracked : Tracked [] after) (hadds : Adds new before after)
    (hlive : after.live.Perm ((contextId, resource) :: before.live))
    (hserial : resource.serial = before.pushCount)
    (hnotable : after.notable = before.notable)
    (hattaches : ∀ push ∈ new, AttachesNew before after push.1 push.2) :
    BackingLedger addBuf [] after := by
  obtain ⟨hbackings, hdetaches⟩ := ledger_of_notable [] hnotable
    (List.forall_mem_nil _)
  apply h.grow [resource.pageRecord] [] htracked hadds
    (hlive.map _) ?_ hbackings (List.forall_mem_nil _) hdetaches hattaches
  intro record hrecord
  rw [List.mem_singleton.mp hrecord]
  exact hserial

theorem memory {refused : Prop} {deletes : List VirglResource}
    (h : BackingLedger addBuf [] before)
    (hstep : MemoryStep addBuf refused deletes before after)
    (hadds : Adds new before after)
    (hattaches : ∀ push ∈ new, AttachesNew before after push.1 push.2) :
    BackingLedger addBuf [] after := by
  have htracked := h.tracked.memory hstep
  have hremarked : List.Forall₂ Remarked before.live after.live →
      (after.pageRecords []).Perm (before.pageRecords []) := by
    intro hlive
    have hrecords := map_eq_of_forall₂
      (g := fun entry : UInt32 × VirglResource => entry.2.pageRecord)
      Remarked.pageRecord hlive
    unfold Driver.pageRecords
    rw [hrecords]
  cases hstep with
  | quiet hlive hnotable hmemory hpushes =>
      apply h.keep [] htracked hadds ?_ hnotable (List.forall_mem_nil _)
        hattaches
      unfold Driver.pageRecords
      rw [hlive]
  | bare contextId resource hlive hserial hbuffer hblob hnotable hmemory
      hpushes hcount =>
      exact h.insert htracked hadds hlive hserial hnotable hattaches
  | backed contextId resource hlive hserial hbuffer hblob hpages hnotable
      halloc hpushes hcount =>
      have hholds : resource.pageRecord.Holds
          (backingOf contextId resource) := by
        refine ⟨rfl, rfl, ?_⟩
        have hplain : resource.IsPlain = true := by
          simp [VirglResource.IsPlain, hbuffer, hblob]
        exact if_pos hplain
      refine h.grow [resource.pageRecord]
        [backingOf contextId resource] htracked hadds
        (hlive.map _) ?_ ?_ ?_ ?_ hattaches
      · intro record hrecord
        rw [List.mem_singleton.mp hrecord]
        exact hserial
      · unfold Driver.backings
        rw [hnotable]
        rfl
      · intro backing hbacking
        rw [List.mem_singleton.mp hbacking]
        refine ⟨hserial, ⟨_, List.mem_singleton.mpr rfl, hholds⟩, ?_⟩
        intro record hrecord
        rw [List.mem_singleton.mp hrecord]
        exact hholds.id
      · unfold Driver.detaches
        rw [hnotable]
        rfl
  | blobCreated contextId resource hlive hserial hbuffer hblob hbusy hnotable
      hmemory hpushes hcount =>
      exact h.insert htracked hadds hlive hserial hnotable hattaches
  | deleted contextId gone middle hgone hunlinks hafter =>
      obtain ⟨contexts, hframe⟩ := hunlinks.frame
      have hnothing : Adds [] before middle := by
        refine ⟨?_, ?_, List.forall_mem_nil _⟩
        · rw [hframe, List.append_nil]
          rfl
        · rw [hframe]
      have hmiddle : BackingLedger addBuf gone middle := by
        refine h.keep [] (h.tracked.unlink hunlinks) hnothing ?_ ?_
          (List.forall_mem_nil _) (List.forall_mem_nil _)
        · have hlive := hunlinks.live.map fun entry => entry.2.pageRecord
          rw [List.map_append, List.map_map] at hlive
          exact hlive.symm
        · rw [hframe]
          rfl
      have hdeleted := foldl_deleteAndRelease_invariant addBuf
        (fun resource rest driver hpending =>
          delete addBuf hpending contextId) hmiddle
      rcases hafter with rfl | rfl
      · exact hdeleted
      · generalize gone.foldl (deleteAndRelease addBuf contextId) middle =
          driver at hdeleted htracked
        have hissues := sendCommand_issues addBuf .control
          (ctrlHdr contextId 0) .ctxDestroy driver
        have hpushes : Pushes (AttachesNew driver
            (destroyVirglContext addBuf contextId driver)) driver
            (destroyVirglContext addBuf contextId driver) :=
          sendCommand_pushes addBuf (attachesNew_of_none rfl)
        exact hdeleted.keep [] htracked hissues.sends.adds
          (List.Perm.refl _) (sendCommand_notable addBuf driver _ _ _)
          (List.forall_mem_nil _) (hpushes.of_sends hissues.sends)
  | shared contextId resource share front back hbefore hlive hbuffer hidle
      hnotable hmemory hqueues hcount =>
      apply h.keep [_] htracked hadds ?_ hnotable ?_ hattaches
      · unfold Driver.pageRecords
        rw [hbefore, hlive, List.map_append, List.map_append]
        exact List.Perm.refl _
      · simp [Event.backing, Event.detach]
  | transferred hlive hnotable hmemory hpushes =>
      exact h.keep [] htracked hadds (hremarked hlive) hnotable
        (List.forall_mem_nil _) hattaches
  | submitted buffer memory hlive hnotable hpages halloc hsubmit haddress
      hserial hextends =>
      apply h.keep [_] htracked hadds (hremarked hlive)
        hnotable ?_ hattaches
      simp [Event.backing, Event.detach]
  | leaked hrefused memory size hlive hnotable hpages halloc hqueues
      hcount =>
      apply h.keep [_] htracked hadds (hremarked hlive)
        hnotable ?_ hattaches
      simp [Event.backing, Event.detach]

theorem completion {buffer : VgpuBuffer} {info : MapInfo}
    {mapAddress : Option Nat} (h : BackingLedger addBuf [] before)
    (hstep : CompletionStep buffer info mapAddress before after)
    (hidles : Idles before after)
    (htargets : mapAddress ≠ none → ∀ target ∈ before.mapTarget buffer,
      target.IsPlain = false) :
    BackingLedger addBuf [] after := by
  have htracked := h.tracked.completion hstep hidles.pushCount
  cases hstep with
  | updated hlive hnotable =>
      have hrecords := map_eq_of_forall₂
        (g := fun entry : UInt32 × VirglResource => entry.2.pageRecord)
        Signaled.pageRecord hlive
      apply h.keep [] htracked hidles.adds ?_ hnotable
        (List.forall_mem_nil _) (List.forall_mem_nil _)
      unfold Driver.pageRecords
      rw [hrecords]
  | mapped resource address front back htarget haddress hbefore hlive
      hnotable =>
      have hplain := htargets (by simp [haddress]) resource htarget
      have hmapped : (resource.mapAt info.size address).pageRecord =
          resource.pageRecord := by
        have hplain' : (resource.mapAt info.size address).IsPlain = false :=
          hplain
        unfold VirglResource.pageRecord VirglResource.pages
        rw [hplain, hplain']
        rfl
      apply h.keep [_] htracked hidles.adds ?_ hnotable ?_
        (List.forall_mem_nil _)
      · unfold Driver.pageRecords
        rw [hbefore, hlive, List.map_append, List.map_append, List.map_cons,
          List.map_cons, hmapped]
      · simp [Event.backing, Event.detach]

theorem step {world : World} {action : Action}
    (h : BackingLedger addBuf [] world.driver)
    (hmaps : world.MapsNoPages action) :
    BackingLedger addBuf [] (World.step addBuf world action).driver := by
  cases action with
  | request processId request =>
      obtain ⟨new, hsends⟩ := virtioVgpuIoControl_sends addBuf processId
        world.driver request
      have hattaches := (virtioVgpuIoControl_outcome processId world.driver
        request).attaches.of_sends hsends
      exact h.memory (virtioVgpuIoControl_memory processId world.driver
        request) hsends.adds hattaches
  | processExit processId =>
      obtain ⟨new, hsends⟩ := processNotify_sends addBuf processId
        world.driver
      have hattaches := (processNotify_attaches processId).of_sends hsends
      exact h.memory (processNotify_memory addBuf processId world.driver)
        hsends.adds hattaches
  | host queue slot info =>
      simp only [World.step]
      split
      · exact h
      · rename_i buffer hslot
        have hidles := returnBuffer_idles queue slot buffer info world.driver
        have htracked := h.tracked.step addBuf (.host queue slot info)
        simp only [World.step, hslot] at htracked
        exact h.keep [] htracked hidles.adds (List.Perm.refl _)
          (returnBuffer_notable _ _ _ _ _) (List.forall_mem_nil _)
          (List.forall_mem_nil _)
  | dpc queue mapAddress =>
      have hidles := readOneFromQueue_idles queue mapAddress world.driver
      simp only [World.step]
      rcases readOneFromQueue_step queue mapAddress world.driver with
        hsame | ⟨buffer, info, rest, hused, hstep, _⟩
      · rw [hsame]
        exact h
      · exact h.completion hstep hidles
          (hmaps (buffer, info) (by rw [hused]; rfl))

end BackingLedger

theorem start_backingLedger (addBuf : Nat → Bool)
    (virtualAddress physicalAddress memorySize : Nat) (capsets : Capsets) :
    BackingLedger addBuf [] (World.start virtualAddress physicalAddress
      memorySize capsets).driver where
  tracked := start_tracked virtualAddress physicalAddress memorySize capsets
  serials := nofun
  held := nofun
  named := nofun
  attached := nofun
  detached := nofun

end VgpuDriver
