import VgpuDriver.Sent
import VgpuDriver.MemorySteps

namespace VgpuDriver

open Data

/-! What one step does to the contexts and to the identities of the resources,
and which commands it sends for them. -/

/-- What nothing changes about a resource while it is live. -/
structure Record where
  contextId : UInt32
  id : UInt32
  serial : Nat
  bForBuffer : Bool
  bForBlob : Bool
  deriving DecidableEq, Repr

def recordOf (entry : UInt32 × VirglResource) : Record where
  contextId := entry.1
  id := entry.2.id
  serial := entry.2.serial
  bForBuffer := entry.2.bForBuffer
  bForBlob := entry.2.bForBlob

def Driver.records (driver : Driver) : List Record :=
  driver.live.map recordOf

def Driver.contextIds (driver : Driver) : List UInt32 :=
  driver.virglContextList.map VirglContext.id

/-- What the creation of the resource tells the host. -/
inductive CreationCommands (contextId : UInt32) (resource : VirglResource) :
    List (Queue × Command) → Prop
  | bare (create : ResourceCreateParam)
      (hbuffer : resource.bForBuffer = false)
      (hblob : resource.bForBlob = false) :
      CreationCommands contextId resource
        [(.command,
          ⟨ctrlHdr contextId 0, .resourceCreate3d resource.id create⟩)]
  | backed (create : ResourceCreateParam) (gpa : Nat) (size : UInt32)
      (hbuffer : resource.bForBuffer = true)
      (hblob : resource.bForBlob = false) :
      CreationCommands contextId resource
        [(.command,
          ⟨ctrlHdr contextId 0, .resourceCreate3d resource.id create⟩),
         (.command,
          ⟨ctrlHdr contextId 0,
            .resourceAttachBacking resource.id gpa size⟩)]
  | blob (create : BlobResourceCreateParam)
      (hbuffer : resource.bForBuffer = true)
      (hblob : resource.bForBlob = true) :
      CreationCommands contextId resource
        [(.command,
          ⟨ctrlHdr contextId 0, .resourceCreateBlob resource.id create⟩),
         (.command,
          ⟨ctrlHdr contextId 0, .resourceMapBlob resource.id⟩)]

/-- The contexts and the resources stay the same ones. -/
structure SameObjects (before after : Driver) : Prop where
  contextIds : after.contextIds = before.contextIds
  records : after.records = before.records

inductive TraceStep (addBuf : Nat → Bool) (contextId : UInt32)
    (before after : Driver) : Prop
  | quiet
      (hsame : SameObjects before after)
      (hids : after.resourceIds = before.resourceIds)
      (hissues : Issues addBuf [] before after)
  | opened (contextInit : UInt32)
      (hnew : contextId ∉ before.contextIds)
      (hcontexts : after.contextIds = contextId :: before.contextIds)
      (hrecords : after.records = before.records)
      (hids : after.resourceIds = before.resourceIds)
      (hissues : Issues addBuf
        [(.control, ⟨ctrlHdr contextId 0, .ctxCreate contextInit⟩)]
        before after)
  | created (resource : VirglResource) (commands : List (Queue × Command))
      (hcontext : contextId ∈ before.contextIds)
      (hcreates : CreationCommands contextId resource commands)
      (hid : resource.id = nextResourceId before)
      (hserial : resource.serial = before.pushCount)
      (hcontexts : after.contextIds = before.contextIds)
      (hrecords : after.records.Perm
        (recordOf (contextId, resource) :: before.records))
      (hids : after.resourceIds =
        (getIdFromIdrWithoutCache 4 before.resourceIds).2)
      (hissues : Issues addBuf commands before after)
  | exhausted (create : ResourceCreateParam)
      (hcontext : contextId ∈ before.contextIds)
      (hsame : SameObjects before after)
      (hids : after.resourceIds =
        (getIdFromIdrWithoutCache 4 before.resourceIds).2)
      (hissues : Issues addBuf
        [(.command,
          ⟨ctrlHdr contextId 0,
            .resourceCreate3d (nextResourceId before) create⟩)]
        before after)
  | closed (resource : VirglResource)
      (hcontext : contextId ∈ before.contextIds)
      (hcontexts : after.contextIds = before.contextIds)
      (hrecords : before.records.Perm
        (recordOf (contextId, resource) :: after.records))
      (hids : after.resourceIds = before.resourceIds)
      (hissues : Issues addBuf (deletionCommands contextId resource)
        before after)
  | destroyed (resources : List VirglResource)
      (hcontext : contextId ∈ before.contextIds)
      (hcontexts : after.contextIds = before.contextIds.erase contextId)
      (hrecords : before.records.Perm
        (resources.map (fun resource => recordOf (contextId, resource)) ++
          after.records))
      (hids : after.resourceIds = before.resourceIds)
      (hissues : Issues addBuf
        (resources.flatMap (deletionCommands contextId) ++
          [(.control, ⟨ctrlHdr contextId 0, .ctxDestroy⟩)]) before after)
  | transferred (resource : VirglResource) (toHost : Bool)
      (transfer : TransferHost3dParam)
      (hcontext : contextId ∈ before.contextIds)
      (hresource : recordOf (contextId, resource) ∈ before.records)
      (htransfer : transfer.resourceId = resource.id)
      (hsame : SameObjects before after)
      (hids : after.resourceIds = before.resourceIds)
      (hissues : Issues addBuf
        [(.command,
          ⟨ctrlHdr contextId 0, .transferHost3d toHost transfer⟩)]
        before after)
  | submitted (buffer : VgpuBuffer)
      (hcontext : contextId ∈ before.contextIds)
      (hsubmit : buffer.IsSubmit = true)
      (hctxId : buffer.pBuf.hdr.ctxId = contextId)
      (hserial : buffer.serial = before.pushCount)
      (hsame : SameObjects before after)
      (hids : after.resourceIds = before.resourceIds)
      (hsends : Sends (acceptedOf addBuf [(.command, buffer)]) before after)
      (hcount : after.pushCount = before.pushCount + 1)

namespace SameObjects

variable {before middle after : Driver}

theorem of_contexts
    (hcontexts : after.virglContextList = before.virglContextList) :
    SameObjects before after where
  contextIds := by
    unfold Driver.contextIds
    rw [hcontexts]
  records := by
    unfold Driver.records Driver.live
    rw [hcontexts]

theorem trans (hfirst : SameObjects before middle)
    (hsecond : SameObjects middle after) : SameObjects before after where
  contextIds := hsecond.contextIds.trans hfirst.contextIds
  records := hsecond.records.trans hfirst.records

theorem modifyContext {driver : Driver} {id : UInt32}
    {change : VirglContext → VirglContext}
    (hid : ∀ context, (change context).id = context.id)
    (hchange : ∀ context, List.Forall₂ (fun before after : VirglResource =>
        ∀ contextId, recordOf (contextId, after) =
          recordOf (contextId, before))
      context.resourceList (change context).resourceList) :
    SameObjects driver (driver.modifyContext id change) where
  contextIds := map_modifyFirst hid
  records := by
    have hlive := live_modifyContext_forall₂ id change driver hid hchange
    refine map_eq_of_forall₂ (g := recordOf) ?_ hlive
    rintro ⟨beforeId, before⟩ ⟨afterId, after⟩
      (hsame | ⟨hbefore, hafter, hrecord⟩)
    · rw [hsame]
    · simp only at hbefore hafter
      rw [hbefore, hafter]
      exact hrecord id

theorem recordOf_updateState (busy : Bool) (fenceId : UInt64)
    (contextId : UInt32) (resource : VirglResource) :
    recordOf (contextId, resource.updateState busy fenceId) =
      recordOf (contextId, resource) := by
  simp [recordOf]

theorem updateResourceState (driver : Driver) (id : UInt32)
    (ids : List UInt32) (busy : Bool) (fenceId : UInt64) :
    SameObjects driver
      (driver.modifyContext id
        (VgpuDriver.updateResourceState ids busy fenceId)) := by
  apply modifyContext
  · exact updateResourceState_id ids busy fenceId
  · intro context
    refine (updateResourceState_forall₂ ids busy fenceId context).imp ?_
    rintro before after (rfl | ⟨_, rfl⟩) contextId
    · rfl
    · exact recordOf_updateState busy fenceId contextId before

theorem modifyResource {driver : Driver} {id resourceId : UInt32}
    {change : VirglResource → VirglResource}
    (hchange : ∀ contextId resource,
      recordOf (contextId, change resource) =
        recordOf (contextId, resource)) :
    SameObjects driver
      (driver.modifyContext id fun context =>
        context.modifyResource resourceId change) := by
  apply modifyContext
  · exact fun _ => rfl
  · intro context
    refine (modifyFirst_forall₂ _ change context.resourceList).imp ?_
    rintro before after (rfl | ⟨_, rfl⟩) contextId
    · rfl
    · exact hchange contextId before

end SameObjects

section Requests

variable {addBuf : Nat → Bool} {contextId : UInt32} {driver : Driver}

theorem mem_contextIds_of_lookup {context : VirglContext}
    (hcontext : getVirglContextFromListUnsafe driver.virglContextList
      contextId = some context) : contextId ∈ driver.contextIds := by
  rw [← context_id_of_lookup hcontext]
  exact List.mem_map_of_mem (List.mem_of_find?_eq_some hcontext)

private theorem insertResource_contextIds (driver : Driver) (id : UInt32)
    (resource : VirglResource) :
    (driver.insertResource id resource).contextIds = driver.contextIds :=
  map_modifyFirst fun _ => rfl

private theorem insertResource_records {context : VirglContext}
    (resource : VirglResource)
    (hcontext : getVirglContextFromListUnsafe driver.virglContextList
      contextId = some context) :
    (driver.insertResource context.id resource).records.Perm
      (recordOf (context.id, resource) :: driver.records) :=
  (live_insertResource hcontext).map recordOf

variable (addBuf) in
private theorem fencedCommand_issues (outFence : Option Nat)
    (cmd : DrmVirtgpuExecbuffer) (memory : MemoryDescriptor)
    (vgpuMemory : VgpuMemory) (objects : List Nat) (driver : Driver) :
    Issues addBuf [] driver
      (fencedCommand outFence cmd memory vgpuMemory
        (driver.reference objects)).2 := by
  have hgranted : (Event.copied memory.virtualAddress cmd.size.toNat ::
      Event.granted driver.pushCount memory
        (roundUp cmd.size 0x1000).toNat ::
      (objects.map Event.objectReferenced ++
        driver.history)).filterMap Event.push =
      driver.history.filterMap Event.push :=
    (List.filterMap_cons_none rfl).trans
      ((List.filterMap_cons_none rfl).trans (reference_history _ _))
  cases outFence with
  | none => exact .of_frame hgranted rfl rfl
  | some object => exact .of_frame hgranted rfl rfl

private theorem fencedCommand_same (outFence : Option Nat)
    (cmd : DrmVirtgpuExecbuffer) (memory : MemoryDescriptor)
    (vgpuMemory : VgpuMemory) (objects : List Nat) (driver : Driver) :
    SameObjects driver
        (fencedCommand outFence cmd memory vgpuMemory
          (driver.reference objects)).2 ∧
      (fencedCommand outFence cmd memory vgpuMemory
        (driver.reference objects)).2.resourceIds = driver.resourceIds := by
  cases outFence with
  | none => exact ⟨.of_contexts rfl, rfl⟩
  | some object => exact ⟨.of_contexts rfl, rfl⟩

private theorem ctlDestroyVirglContext_trace {context : VirglContext}
    (hcontext : getVirglContextFromListUnsafe driver.virglContextList
      contextId = some context) :
    TraceStep addBuf contextId driver
      (ctlDestroyVirglContext addBuf context driver) := by
  have hid := context_id_of_lookup hcontext
  obtain ⟨hcontexts, hids, _⟩ := ctlDestroyVirglContext_frame addBuf context
    driver
  have hissues := ctlDestroyVirglContext_issues addBuf context driver
  rw [hid] at hissues
  refine .destroyed context.resourceList.reverse
    (mem_contextIds_of_lookup hcontext) ?_ ?_ hids hissues
  · unfold Driver.contextIds
    rw [hcontexts, List.erase_eq_eraseP, List.eraseP_map]
    simp only [hid, Function.comp_def]
    congr 2
    funext other
    simp [Bool.beq_eq_decide_eq, eq_comm]
  · have hlive := (live_eraseContext hcontext).map recordOf
    rw [List.map_append, List.map_map, hid] at hlive
    unfold Driver.records Driver.live
    rw [hcontexts, hid]
    refine hlive.trans (List.Perm.append_right _ ?_)
    exact (List.reverse_perm _).symm.map _

theorem processNotify_trace (processId : UInt32) (driver : Driver) :
    TraceStep addBuf processId driver
      (processNotify addBuf processId driver) := by
  unfold processNotify
  split
  · exact .quiet (.of_contexts rfl) rfl (.of_frame rfl rfl rfl)
  · rename_i context hcontext
    exact ctlDestroyVirglContext_trace hcontext

private theorem createVirglContext_trace (contextInit : UInt32)
    (hnew : getVirglContextFromListUnsafe driver.virglContextList
      contextId = none) :
    TraceStep addBuf contextId driver
      (createVirglContext addBuf contextId contextInit
        { driver with
          virglContextList :=
            { id := contextId, resourceList := [] } ::
              driver.virglContextList }) := by
  refine .opened contextInit ?_ rfl ?_ rfl ?_
  · intro hmem
    obtain ⟨context, hcontext, hid⟩ := List.mem_map.mp hmem
    have hother := List.find?_eq_none.mp hnew context hcontext
    simp only [decide_eq_true_eq] at hother
    exact hother hid
  · unfold Driver.records
    simp [Driver.live]
  · exact (sendCommand_issues addBuf _ _ _ _).from_frame rfl rfl rfl

private theorem exhausted_trace {context : VirglContext}
    (create : DrmVirtgpuResourceCreate) (record : VirglResource)
    (records : LookAsideList VirglResource)
    (hcontext : getVirglContextFromListUnsafe driver.virglContextList
      contextId = some context) :
    TraceStep addBuf contextId driver
      (created3d addBuf context create record records driver) := by
  have hissues := created3d_issues addBuf context create
    record records driver
  rw [context_id_of_lookup hcontext] at hissues
  exact .exhausted create.param (mem_contextIds_of_lookup hcontext)
    (.of_contexts rfl) rfl hissues

private theorem bare_trace {context : VirglContext}
    {create : DrmVirtgpuResourceCreate} {record : VirglResource}
    (records : LookAsideList VirglResource)
    (hcontext : getVirglContextFromListUnsafe driver.virglContextList
      contextId = some context)
    (hbuffer : (nameResource create driver record).bForBuffer = false) :
    TraceStep addBuf contextId driver
      ((created3d addBuf context create record records
        driver).insertResource context.id
          (nameResource create driver record)) := by
  have hissues := created3d_issues addBuf context create
    record records driver
  have hcreated : getVirglContextFromListUnsafe (created3d addBuf context
      create record records driver).virglContextList contextId =
        some context := hcontext
  have hid := context_id_of_lookup hcontext
  have hrecords := insertResource_records
    (nameResource create driver record) hcreated
  rw [hid] at hissues hrecords
  refine .created (nameResource create driver record) _
    (mem_contextIds_of_lookup hcontext)
    (.bare create.param hbuffer rfl) rfl rfl ?_ ?_ rfl
    (hissues.to_frame rfl rfl rfl)
  · exact insertResource_contextIds _ _ _
  · rw [hid]
    exact hrecords

private theorem backed_trace {context : VirglContext}
    {create : DrmVirtgpuResourceCreate} {record : VirglResource}
    {memory : MemoryDescriptor} {resource : VirglResource}
    (records : LookAsideList VirglResource) (vgpuMemory : VgpuMemory)
    (hcontext : getVirglContextFromListUnsafe driver.virglContextList
      contextId = some context)
    (hbuffer : (nameResource create driver record).bForBuffer = true)
    (hresource : resource = giveBacking (resourceBufferSize create.size)
      memory (nameResource create driver record)) :
    TraceStep addBuf contextId driver
      ((attachResourceBacking addBuf context.id resource
        (grantBacking context.id resource vgpuMemory
          (created3d addBuf context create record records
            driver))).insertResource context.id resource) := by
  have hid := context_id_of_lookup hcontext
  have hissues := backed_issues addBuf context create record records
    vgpuMemory resource driver
  have hattached : getVirglContextFromListUnsafe (attachResourceBacking
      addBuf context.id resource (grantBacking context.id resource
        vgpuMemory (created3d addBuf context create record records
          driver))).virglContextList contextId = some context := hcontext
  have hrecords := insertResource_records resource
    hattached
  have hname : resource.id = nextResourceId driver := by
    rw [hresource]
    rfl
  rw [hid] at hissues hrecords
  rw [← hname] at hissues
  refine .created resource _ (mem_contextIds_of_lookup hcontext)
    (.backed create.param resource.buffer.memory.physicalAddress
      (UInt32.ofNat resource.buffer.size)
      (by rw [hresource]; exact hbuffer) (by rw [hresource]; rfl))
    hname (by rw [hresource]; rfl) ?_ ?_ rfl ?_
  · exact insertResource_contextIds _ _ _
  · rw [hid]
    exact hrecords
  · rw [hid]
    exact hissues

private theorem blobCreated_trace {context : VirglContext}
    (create : DrmVirtgpuResourceCreateBlob) (record : VirglResource)
    (records : LookAsideList VirglResource)
    (hcontext : getVirglContextFromListUnsafe driver.virglContextList
      contextId = some context) :
    TraceStep addBuf contextId driver
      (mapBlobResource addBuf context.id (nameBlob driver record).id 0
        ((createBlobResource addBuf context.id (nameBlob driver record).id
          (blobParam create) 0
          (takeRecord records driver)).insertResource context.id
            (nameBlob driver record))) := by
  have hid := context_id_of_lookup hcontext
  have hissues := blob_issues addBuf context create record records driver
  have hrecords := insertResource_records
    (nameBlob driver record) hcontext
  rw [hid] at hissues hrecords
  refine .created (nameBlob driver record) _
    (mem_contextIds_of_lookup hcontext)
    (.blob (blobParam create) rfl rfl) rfl rfl ?_ ?_ rfl ?_
  · exact insertResource_contextIds driver context.id _
  · rw [hid]
    exact hrecords
  · rw [hid]
    exact hissues

private theorem closed_trace {context : VirglContext}
    {resource : VirglResource} {close : DrmGemClose}
    (hcontext : getVirglContextFromListUnsafe driver.virglContextList
      contextId = some context)
    (hresource : getResourceFromListUnsafe context close.handle =
      some resource) :
    TraceStep addBuf contextId driver
      (deleteAndRelease addBuf context.id
        (driver.removeResource context.id close.handle) resource) := by
  have hid := context_id_of_lookup hcontext
  have hframe := deleteAndRelease_frame addBuf context.id resource
    (driver.removeResource context.id close.handle)
  have hissues := deleteAndRelease_issues addBuf context.id resource
    (driver.removeResource context.id close.handle)
  have hlive := (live_removeResource hcontext hresource).map recordOf
  rw [hid] at hissues hframe hlive
  rw [hid]
  refine .closed resource (mem_contextIds_of_lookup hcontext) ?_ ?_
    hframe.2.1 (hissues.from_frame rfl rfl rfl)
  · unfold Driver.contextIds
    rw [hframe.1]
    exact map_modifyFirst fun _ => rfl
  · rw [List.map_cons] at hlive
    unfold Driver.records Driver.live at *
    rw [hframe.1]
    exact hlive

private theorem mapResource_trace (context : VirglContext)
    (resource : VirglResource) (request : MapRequest) :
    TraceStep addBuf contextId driver
      (mapResource context.id resource request driver).2 := by
  obtain ⟨share, history, hmap, hhistory⟩ := mapResource_frame context.id
    resource request driver
  rw [hmap]
  refine .quiet ?_ rfl (.of_frame ?_ rfl rfl)
  · have hshared : SameObjects driver
        (driver.modifyContext context.id fun context =>
          context.modifyResource resource.id fun resource =>
            { resource with
              buffer := { resource.buffer with share := share } }) :=
      .modifyResource fun _ _ => rfl
    exact hshared.trans (.of_contexts rfl)
  · rcases hhistory with rfl | ⟨address, mdl, rfl⟩
    · rfl
    · rfl

private theorem listed_trace {context : VirglContext}
    {cmd : DrmVirtgpuExecbuffer} {outFence : Option Nat}
    {objects : List Nat} {memory : MemoryDescriptor}
    {vgpuMemory : VgpuMemory} {fenced : UInt64 × Driver}
    (reads : Nat → HandleRead)
    (hcontext : getVirglContextFromListUnsafe driver.virglContextList
      contextId = some context)
    (hfenced : fenced = fencedCommand outFence cmd memory vgpuMemory
      (driver.reference objects)) :
    TraceStep addBuf contextId driver
      (submitCommand addBuf context.id memory
        (roundUp cmd.size 0x1000).toNat cmd.size
        (some (copiedIds cmd reads)) fenced.1 outFence
        (markedCommand context cmd reads fenced)).2 := by
  have hsame := fencedCommand_same outFence cmd memory vgpuMemory objects
    driver
  have hframe := fencedCommand_frame driver outFence cmd memory
    vgpuMemory objects
  have hissues := fencedCommand_issues addBuf outFence cmd
    memory vgpuMemory objects driver
  rw [← hfenced] at hsame hissues hframe
  have hmarked : Issues addBuf [] driver
      (markedCommand context cmd reads fenced) :=
    hissues.to_frame rfl rfl rfl
  have hsends := hmarked.sends.trans (submitCommand_sends addBuf
    context.id
    memory (roundUp cmd.size 0x1000).toNat cmd.size
    (some (copiedIds cmd reads)) fenced.1 outFence
    (markedCommand context cmd reads fenced))
  refine .submitted _ (mem_contextIds_of_lookup hcontext) rfl ?_
    hframe.2.2.2 ?_ hsame.2 hsends ?_
  · exact (ctrlHdr_ctxId _ _).trans (context_id_of_lookup hcontext)
  · exact (hsame.1.trans (.updateResourceState _ _ _ _ _)).trans
      (.of_contexts rfl)
  · exact congrArg (· + 1) hframe.2.2.2

private theorem unlisted_trace {context : VirglContext}
    {cmd : DrmVirtgpuExecbuffer} {outFence : Option Nat}
    {objects : List Nat} {memory : MemoryDescriptor}
    {vgpuMemory : VgpuMemory} {fenced : UInt64 × Driver}
    (hcontext : getVirglContextFromListUnsafe driver.virglContextList
      contextId = some context)
    (hfenced : fenced = fencedCommand outFence cmd memory vgpuMemory
      (driver.reference objects)) :
    TraceStep addBuf contextId driver
      (submitCommand addBuf context.id memory
        (roundUp cmd.size 0x1000).toNat cmd.size none fenced.1 outFence
        fenced.2).2 := by
  have hsame := fencedCommand_same outFence cmd memory vgpuMemory objects
    driver
  have hframe := fencedCommand_frame driver outFence cmd memory
    vgpuMemory objects
  have hissues := fencedCommand_issues addBuf outFence cmd
    memory vgpuMemory objects driver
  rw [← hfenced] at hsame hissues hframe
  have hsends := hissues.sends.trans (submitCommand_sends addBuf
    context.id
    memory (roundUp cmd.size 0x1000).toNat cmd.size none fenced.1
    outFence fenced.2)
  refine .submitted _ (mem_contextIds_of_lookup hcontext) rfl ?_
    hframe.2.2.2 ?_ hsame.2 hsends ?_
  · exact (ctrlHdr_ctxId _ _).trans (context_id_of_lookup hcontext)
  · exact hsame.1.trans (.of_contexts rfl)
  · exact congrArg (· + 1) hframe.2.2.2

private theorem transferred_trace {context : VirglContext}
    {resource : VirglResource} {transfer : TransferHost3dParam}
    (toHost : Bool)
    (hcontext : getVirglContextFromListUnsafe driver.virglContextList
      contextId = some context)
    (hresource : resource ∈ context.resourceList)
    (htransfer : transfer.resourceId = resource.id) :
    TraceStep addBuf contextId driver
      (transferHost3d addBuf context.id transfer 0 toHost
        (driver.modifyContext context.id
          (updateResourceState [transfer.resourceId] true 0))) := by
  have hid := context_id_of_lookup hcontext
  have hmarked : Issues addBuf [] driver
      (driver.modifyContext context.id
        (updateResourceState [transfer.resourceId] true 0)) :=
    .of_frame rfl rfl rfl
  have hissues := hmarked.trans (sendCommand_issues addBuf .command
    (ctrlHdr context.id 0) (.transferHost3d toHost transfer) _)
  rw [hid] at hissues
  refine .transferred resource toHost transfer
    (mem_contextIds_of_lookup hcontext) ?_ htransfer ?_ rfl ?_
  · exact List.mem_map_of_mem (mem_live_of_lookup hcontext hresource)
  · exact (SameObjects.updateResourceState _ _ _ _ _).trans
      (.of_contexts rfl)
  · rw [hid]
    exact hissues

private theorem RequestOutcome.trace {request : IoRequest} {after : Driver}
    (houtcome : RequestOutcome addBuf contextId driver request after) :
    TraceStep addBuf contextId driver after := by
  cases houtcome with
  | unchanged =>
      exact .quiet (.of_contexts rfl) rfl (.of_frame rfl rfl rfl)
  | opened request contextInit hnew =>
      exact createVirglContext_trace contextInit hnew
  | destroyed context hcontext =>
      exact ctlDestroyVirglContext_trace hcontext
  | exhausted request context create record records hcontext hnone =>
      exact exhausted_trace create record records hcontext
  | bare request context create record records hcontext hbuffer =>
      exact bare_trace records hcontext hbuffer
  | backed request context create record records memory vgpuMemory resource
      hcontext hbuffer halloc hresource =>
      exact backed_trace records vgpuMemory hcontext hbuffer hresource
  | blobCreated request context create record records hcontext =>
      exact blobCreated_trace create record records hcontext
  | closed close context resource hcontext hresource =>
      exact closed_trace hcontext hresource
  | mapped request context resource handle hcontext hresource hbuffer hidle =>
      exact mapResource_trace context resource request
  | referenced request objects =>
      exact .quiet (.of_contexts rfl) rfl
        (.of_frame (reference_history _ _) rfl rfl)
  | unread request cmd outFence objects memory vgpuMemory halloc hhandles =>
      have hsame := fencedCommand_same outFence cmd memory vgpuMemory objects
        driver
      exact .quiet hsame.1 hsame.2
        (fencedCommand_issues addBuf outFence cmd memory vgpuMemory objects
          driver)
  | uncopied request context cmd outFence objects memory vgpuMemory reads
      hcontext halloc hblock =>
      have hsame := fencedCommand_same outFence cmd memory vgpuMemory objects
        driver
      have hissues := fencedCommand_issues addBuf outFence cmd
        memory vgpuMemory objects driver
      exact .quiet (hsame.1.trans (.updateResourceState _ _ _ _ _)) hsame.2
        (hissues.to_frame rfl rfl rfl)
  | listed request context cmd outFence objects memory vgpuMemory reads fenced
      hinput hcontext halloc hread hfenced =>
      exact listed_trace reads hcontext hfenced
  | unlisted request context cmd outFence objects memory vgpuMemory fenced
      hcontext halloc hfenced =>
      exact unlisted_trace hcontext hfenced
  | transferred toHost request context resource transfer hcontext hresource
      htransfer =>
      exact transferred_trace toHost hcontext hresource htransfer

variable (addBuf) in
theorem virtioVgpuIoControl_trace (processId : UInt32) (driver : Driver)
    (request : IoRequest) :
    TraceStep addBuf processId driver
      (virtioVgpuIoControl addBuf processId driver request).2 :=
  (virtioVgpuIoControl_outcome processId driver request).trace

end Requests

/-! The host and the completion handler send nothing. -/

structure Idles (before after : Driver) : Prop where
  same : SameObjects before after
  pushes : after.pushes = before.pushes
  resourceIds : after.resourceIds = before.resourceIds
  pushCount : after.pushCount = before.pushCount

theorem Idles.refl (driver : Driver) : Idles driver driver where
  same := .of_contexts rfl
  pushes := rfl
  resourceIds := rfl
  pushCount := rfl

private theorem completeResources_pushes (ctxId : UInt32)
    (ids : List UInt32) (fenceId : UInt64) (driver : Driver) :
    (completeResources ctxId ids fenceId driver).pushes = driver.pushes := by
  unfold completeResources
  split
  · rfl
  · rfl

private theorem completeBuffer_pushes (buffer : VgpuBuffer) (info : MapInfo)
    (mapAddress : Option Nat) (driver : Driver) :
    (completeBuffer buffer info mapAddress driver).pushes =
      driver.pushes := by
  have hfreed : ∀ before : Driver,
      (freeCommandBuffer buffer before).pushes = before.pushes := fun _ =>
    log_pushes rfl
  cases hbody : buffer.pBuf.body with
  | submit3d size =>
      have hidle : ∀ ids : List UInt32,
          ((completeResources buffer.pBuf.hdr.ctxId ids
            buffer.pBuf.hdr.fenceId driver).log
              (.handlesFreed buffer.serial)).pushes = driver.pushes :=
        fun ids => (log_pushes rfl).trans
          (completeResources_pushes _ ids _ driver)
      have hsignaled : ∀ object (before : Driver),
          (before.log (.objectSignaled object)).pushes = before.pushes :=
        fun _ _ => log_pushes rfl
      have hpages : ∀ virtualAddress size (before : Driver),
          (freePages virtualAddress size before).pushes = before.pushes :=
        fun _ _ _ => rfl
      cases hids : buffer.resourceIds <;> cases hfence : buffer.fenceObject <;>
        simp only [completeBuffer, hbody, hids, hfence, hfreed, hpages,
          hsignaled, hidle]
  | resourceMapBlob id =>
      simp only [completeBuffer, hbody, hfreed]
      split
      · rfl
      · unfold mapBlobResourceCallback
        split
        · rfl
        · split
          · rfl
          · exact log_pushes rfl
  | transferHost3d toHost transfer =>
      simp only [completeBuffer, hbody, hfreed, completeResources_pushes]
  | getCapset | getCapsetInfo => simp only [completeBuffer, hbody]
  | _ => simp only [completeBuffer, hbody, hfreed]

theorem completion_same (buffer : VgpuBuffer) (info : MapInfo)
    (mapAddress : Option Nat) (driver : Driver) :
    SameObjects driver
      (driver.modifyContext buffer.pBuf.hdr.ctxId
        (buffer.completion info mapAddress)) := by
  unfold VgpuBuffer.completion
  split
  · exact .modifyResource fun _ _ => rfl
  · exact .updateResourceState _ _ _ _ _

theorem readOneFromQueue_idles (queue : Queue) (mapAddress : Option Nat)
    (driver : Driver) :
    Idles driver (readOneFromQueue queue mapAddress driver) := by
  rcases readOneFromQueue_cases queue mapAddress driver with
    hsame | ⟨buffer, info, rest, _, hread, hcompletes⟩
  · rw [hsame]
    exact .refl driver
  · refine ⟨?_, ?_, hcompletes.resourceIds, hcompletes.pushCount⟩
    · have hcompletion := completion_same buffer info mapAddress driver
      exact hcompletion.trans (.of_contexts hcompletes.contexts)
    · rw [hread, completeBuffer_pushes]
      rfl

theorem returnBuffer_idles (queue : Queue) (slot : Nat)
    (buffer : VgpuBuffer) (info : MapInfo) (driver : Driver) :
    Idles driver (driver.returnBuffer queue slot buffer info) where
  same := .of_contexts rfl
  pushes := pushes_of_history (List.filterMap_cons_none rfl)
  resourceIds := rfl
  pushCount := rfl

/-- What one step of the world does: a request or the exit of a process sends
commands, the host and the completion handler send none. -/
theorem World.step_trace (addBuf : Nat → Bool) (world : World)
    (action : Action) :
    (∃ contextId, TraceStep addBuf contextId world.driver
        (World.step addBuf world action).driver) ∨
      Idles world.driver (World.step addBuf world action).driver := by
  cases action with
  | request processId request =>
      exact Or.inl ⟨processId,
        virtioVgpuIoControl_trace addBuf processId world.driver request⟩
  | processExit processId =>
      exact Or.inl ⟨processId, processNotify_trace processId world.driver⟩
  | host queue slot info =>
      right
      simp only [World.step]
      split
      · exact .refl world.driver
      · rename_i buffer _
        exact returnBuffer_idles queue slot buffer info world.driver
  | dpc queue mapAddress =>
      exact Or.inr (readOneFromQueue_idles queue mapAddress world.driver)

end VgpuDriver
