import VgpuDriver.Ledger

namespace VgpuDriver

open Data

/-! What one request does to the records of the live resources, to the vgpu
memory and to the notable events; nothing is assumed about ids. -/

/-- The records agree but for the event and the fence number, and the event
has not been set. -/
def Remarked (before after : UInt32 × VirglResource) : Prop :=
  ∃ stateEvent fenceId,
    after = (before.1,
      { before.2 with stateEvent := stateEvent, fenceId := fenceId }) ∧
      (stateEvent = true → before.2.stateEvent = true)

theorem Remarked.refl (entry : UInt32 × VirglResource) :
    Remarked entry entry := ⟨_, _, rfl, fun h => h⟩

/-- `after` is `before` without the resources `gone` of one context. -/
structure Unlinks (contextId : UInt32) (gone : List VirglResource)
    (before after : Driver) : Prop where
  live : before.live.Perm (gone.map (Prod.mk contextId) ++ after.live)
  frame : ∃ contexts, after = { before with virglContextList := contexts }

/-- `refused` says that the handle array could not be read or copied; at most
the resources `deletes` are deleted. -/
inductive MemoryStep (addBuf : Nat → Bool) (refused : Prop)
    (deletes : List VirglResource) (before after : Driver) : Prop
  | quiet
      (hlive : after.live = before.live)
      (hnotable : after.notable = before.notable)
      (hmemory : after.vgpuMemory = before.vgpuMemory)
      (hpushes : Pushes (fun _ buffer => buffer.Neutral) before after)
  | bare (contextId : UInt32) (resource : VirglResource)
      (hlive : after.live.Perm ((contextId, resource) :: before.live))
      (hserial : resource.serial = before.pushCount)
      (hbuffer : resource.bForBuffer = false)
      (hblob : resource.bForBlob = false)
      (hnotable : after.notable = before.notable)
      (hmemory : after.vgpuMemory = before.vgpuMemory)
      (hpushes : Pushes (fun _ buffer => buffer.Neutral) before after)
      (hcount : before.pushCount < after.pushCount)
  | backed (contextId : UInt32) (resource : VirglResource)
      (hlive : after.live.Perm ((contextId, resource) :: before.live))
      (hserial : resource.serial = before.pushCount)
      (hbuffer : resource.bForBuffer = true)
      (hblob : resource.bForBlob = false)
      (hpages : resource.buffer.size % pageSize = 0)
      (hnotable : after.notable =
        .backed (backingOf contextId resource) ::
          .granted resource.serial resource.buffer.memory
            resource.buffer.size :: before.notable)
      (halloc : allocateVgpuMemory resource.buffer.size before.vgpuMemory =
        some (resource.buffer.memory, after.vgpuMemory))
      (hpushes : Pushes (fun _ buffer => buffer.Neutral) before after)
      (hcount : before.pushCount < after.pushCount)
  | blobCreated (contextId : UInt32) (resource : VirglResource)
      (hlive : after.live.Perm ((contextId, resource) :: before.live))
      (hserial : resource.serial = before.pushCount)
      (hbuffer : resource.bForBuffer = true)
      (hblob : resource.bForBlob = true)
      (hbusy : resource.stateEvent = false)
      (hnotable : after.notable = before.notable)
      (hmemory : after.vgpuMemory = before.vgpuMemory)
      (hpushes : Pushes (fun _ buffer => buffer.IsSubmit = false) before
        after)
      (hcount : before.pushCount < after.pushCount)
  | deleted (contextId : UInt32) (gone : List VirglResource)
      (middle : Driver)
      (hgone : ∀ resource ∈ gone, resource ∈ deletes)
      (hunlinks : Unlinks contextId gone before middle)
      (hafter : after = gone.foldl (deleteAndRelease addBuf contextId)
          middle ∨
        after = destroyVirglContext addBuf contextId
          (gone.foldl (deleteAndRelease addBuf contextId) middle))
  | shared (contextId : UInt32) (resource : VirglResource)
      (share : ShareDescriptor) (front back : List (UInt32 × VirglResource))
      (hbefore : before.live = front ++ (contextId, resource) :: back)
      (hlive : after.live = front ++
        (contextId,
          { resource with
            buffer := { resource.buffer with share := share } }) :: back)
      (hbuffer : resource.bForBuffer = true)
      (hidle : resource.stateEvent = true)
      (hnotable : after.notable =
        .shared resource.serial resource.buffer.memory.virtualAddress
          resource.buffer.size :: before.notable)
      (hmemory : after.vgpuMemory = before.vgpuMemory)
      (hqueues : after.virtQueues = before.virtQueues)
      (hcount : after.pushCount = before.pushCount)
  | transferred
      (hlive : List.Forall₂ Remarked before.live after.live)
      (hnotable : after.notable = before.notable)
      (hmemory : after.vgpuMemory = before.vgpuMemory)
      (hpushes : Pushes (fun _ buffer => buffer.IsSubmit = false) before
        after)
  | submitted (buffer : VgpuBuffer) (memory : MemoryDescriptor)
      (hlive : List.Forall₂ Remarked before.live after.live)
      (hnotable : after.notable =
        .granted before.pushCount memory buffer.dataBufSize ::
          before.notable)
      (hpages : buffer.dataBufSize % pageSize = 0)
      (halloc : allocateVgpuMemory buffer.dataBufSize before.vgpuMemory =
        some (memory, after.vgpuMemory))
      (hsubmit : buffer.IsSubmit = true)
      (haddress : buffer.pDataBuf = memory.virtualAddress)
      (hserial : buffer.serial = before.pushCount)
      (hextends : Extends (accepted addBuf .command buffer) before after)
  | leaked (hrefused : refused) (memory : MemoryDescriptor) (size : Nat)
      (hlive : List.Forall₂ Remarked before.live after.live)
      (hnotable : after.notable =
        .granted before.pushCount memory size :: before.notable)
      (hpages : size % pageSize = 0)
      (halloc : allocateVgpuMemory size before.vgpuMemory =
        some (memory, after.vgpuMemory))
      (hqueues : after.virtQueues = before.virtQueues)
      (hcount : after.pushCount = before.pushCount)

theorem resourceBufferSize_mod (size : UInt32) :
    resourceBufferSize size % pageSize = 0 := by
  unfold resourceBufferSize
  split
  · rfl
  · exact roundUp_uint32_mod size

private theorem updateState_remarked (id : UInt32) (fenceId : UInt64)
    (resource : VirglResource) :
    Remarked (id, resource) (id, resource.updateState true fenceId) := by
  unfold VirglResource.updateState
  split
  · exact ⟨false, resource.fenceId, rfl, nofun⟩
  · split
    · exact ⟨false, fenceId, rfl, nofun⟩
    · exact .refl _

theorem marked_remarked (driver : Driver) (id : UInt32)
    (ids : List UInt32) (fenceId : UInt64) :
    List.Forall₂ Remarked driver.live
      (driver.modifyContext id (updateResourceState ids true fenceId)).live := by
  have hforall := live_modifyContext_forall₂ id
    (updateResourceState ids true fenceId) driver
    (updateResourceState_id ids true fenceId)
    (updateResourceState_forall₂ ids true fenceId)
  refine hforall.imp ?_
  rintro ⟨beforeId, before⟩ ⟨afterId, after⟩
    (hsame | ⟨hbefore, hafter, hsame | ⟨_, hupdate⟩⟩)
  · rw [hsame]
    exact .refl _
  · simp only at hbefore hafter hsame
    subst hbefore hafter hsame
    exact .refl _
  · simp only at hbefore hafter hupdate
    subst hbefore hafter hupdate
    exact updateState_remarked _ _ _

variable {addBuf : Nat → Bool} {contextId : UInt32} {driver : Driver}

/-- The resources of the context with this id. -/
def Driver.resourcesOf (driver : Driver) (contextId : UInt32) :
    List VirglResource :=
  match getVirglContextFromListUnsafe driver.virglContextList contextId with
  | none => []
  | some context => context.resourceList

/-- The resources that the request deletes if nothing fails before. -/
def IoRequest.deletes (processId : UInt32) (driver : Driver) :
    IoRequest → List VirglResource
  | .destroyContext => driver.resourcesOf processId
  | .resourceClose (.ok close) =>
      ((driver.resourcesOf processId).find? fun resource =>
        decide (resource.id = close.handle)).toList
  | _ => []

private theorem ctlDestroyVirglContext_memory {context : VirglContext}
    {refused : Prop}
    (hcontext : getVirglContextFromListUnsafe driver.virglContextList
      contextId = some context) :
    MemoryStep addBuf refused (driver.resourcesOf contextId) driver
      (ctlDestroyVirglContext addBuf context driver) := by
  refine .deleted context.id context.resourceList.reverse
    { driver with
      virglContextList := driver.virglContextList.eraseP fun other =>
        decide (other.id = context.id) } ?_ ⟨?_, _, rfl⟩ (Or.inr rfl)
  · intro resource hresource
    simpa [Driver.resourcesOf, hcontext] using hresource
  have hlive := live_eraseContext hcontext
  refine hlive.trans (List.Perm.append_right _ ?_)
  exact (List.reverse_perm _).symm.map _

variable (addBuf) in
theorem processNotify_memory (processId : UInt32) (driver : Driver) :
    MemoryStep addBuf False (driver.resourcesOf processId) driver
      (processNotify addBuf processId driver) := by
  unfold processNotify
  split
  · exact .quiet rfl rfl rfl (.of_frame rfl rfl)
  · rename_i context hcontext
    exact ctlDestroyVirglContext_memory hcontext

private theorem created3d_neutral (context : VirglContext)
    (create : DrmVirtgpuResourceCreate) (record : VirglResource)
    (records : LookAsideList VirglResource) (driver : Driver) :
    Pushes (fun _ buffer => buffer.Neutral) driver
      (created3d addBuf context create record records driver) := by
  refine (sendCommand_pushes addBuf ?_).from_frame rfl rfl
  exact ⟨rfl, rfl, rfl⟩

private theorem created3d_notable (context : VirglContext)
    (create : DrmVirtgpuResourceCreate) (record : VirglResource)
    (records : LookAsideList VirglResource) (driver : Driver) :
    (created3d addBuf context create record records driver).notable =
      driver.notable := by
  simp only [created3d, create3dResource, sendCommand_notable]
  rfl

/-- The handle array of the request can be read and copied. -/
def IoRequest.HandlesGranted : IoRequest → Prop
  | .execbuffer request =>
      request.handlesBlock = true ∧ ∃ reads, request.handles = .ok reads
  | _ => True

instance (request : IoRequest) : Decidable request.HandlesGranted := by
  cases request with
  | execbuffer request =>
      have hreads : Decidable (∃ reads, request.handles = .ok reads) :=
        match request.handles with
        | .ok reads => .isTrue ⟨reads, rfl⟩
        | .failed _ => .isFalse nofun
        | .rejected => .isFalse nofun
      unfold IoRequest.HandlesGranted
      infer_instance
  | _ => exact inferInstanceAs (Decidable True)

private theorem createVirglContext_memory {refused : Prop}
    {deletes : List VirglResource} (contextInit : UInt32) :
    MemoryStep addBuf refused deletes driver
      (createVirglContext addBuf contextId contextInit
        { driver with
          virglContextList :=
            { id := contextId, resourceList := [] } ::
              driver.virglContextList }) := by
  refine .quiet ?_ ?_ ?_ ?_
  · simp [Driver.live]
  · simp only [createVirglContext, sendCommand_notable]
    rfl
  · simp
  · refine (sendCommand_pushes addBuf ?_).from_frame rfl rfl
    exact ⟨rfl, rfl, rfl⟩

private theorem bare_memory {context : VirglContext}
    {create : DrmVirtgpuResourceCreate} {record : VirglResource}
    {refused : Prop} {deletes : List VirglResource}
    (records : LookAsideList VirglResource)
    (hcontext : getVirglContextFromListUnsafe driver.virglContextList
      contextId = some context)
    (hbuffer : (nameResource create driver record).bForBuffer = false) :
    MemoryStep addBuf refused deletes driver
      ((created3d addBuf context create record records
        driver).insertResource context.id
          (nameResource create driver record)) := by
  refine .bare context.id (nameResource create driver record) ?_ rfl
    hbuffer rfl ?_ rfl ?_ ?_
  · exact live_insertResource hcontext
  · exact created3d_notable context create record records driver
  · exact (created3d_neutral context create record records
      driver).to_frame rfl rfl
  · simp [created3d]

private theorem backed_memory {context : VirglContext}
    {create : DrmVirtgpuResourceCreate} {record : VirglResource}
    {memory : MemoryDescriptor} {vgpuMemory : VgpuMemory}
    {resource : VirglResource}
    {refused : Prop} {deletes : List VirglResource}
    (records : LookAsideList VirglResource)
    (hcontext : getVirglContextFromListUnsafe driver.virglContextList
      contextId = some context)
    (hbuffer : (nameResource create driver record).bForBuffer = true)
    (halloc : allocateVgpuMemory (resourceBufferSize create.size)
      driver.vgpuMemory = some (memory, vgpuMemory))
    (hresource : resource = giveBacking (resourceBufferSize create.size)
      memory (nameResource create driver record)) :
    MemoryStep addBuf refused deletes driver
      ((attachResourceBacking addBuf context.id resource
        (grantBacking context.id resource vgpuMemory
          (created3d addBuf context create record records
            driver))).insertResource context.id resource) := by
  have hsize : resource.buffer.size = resourceBufferSize create.size := by
    rw [hresource]
    rfl
  have hmemory : resource.buffer.memory = memory := by
    rw [hresource]
    rfl
  refine .backed context.id resource ?_ (by rw [hresource]; rfl)
    (by rw [hresource]; exact hbuffer) (by rw [hresource]; rfl) ?_ ?_ ?_
    ?_ ?_
  · exact live_insertResource hcontext
  · rw [hsize]
    exact resourceBufferSize_mod create.size
  · refine (sendCommand_notable addBuf _ _ _ _).trans ?_
    rw [grantBacking_notable, created3d_notable]
  · rw [hsize, hmemory]
    exact halloc
  · refine Pushes.to_frame (Pushes.trans
      ((created3d_neutral context create record records driver).to_frame
        rfl rfl) (sendCommand_pushes addBuf ?_)) rfl rfl
    exact ⟨rfl, rfl, rfl⟩
  · simp [created3d]

private theorem blobCreated_memory {context : VirglContext}
    {refused : Prop} {deletes : List VirglResource}
    (create : DrmVirtgpuResourceCreateBlob) (record : VirglResource)
    (records : LookAsideList VirglResource)
    (hcontext : getVirglContextFromListUnsafe driver.virglContextList
      contextId = some context) :
    MemoryStep addBuf refused deletes driver
      (mapBlobResource addBuf context.id (nameBlob driver record).id 0
        ((createBlobResource addBuf context.id (nameBlob driver record).id
          (blobParam create) 0
          (takeRecord records driver)).insertResource context.id
            (nameBlob driver record))) := by
  refine .blobCreated context.id (nameBlob driver record) ?_ rfl rfl rfl
    rfl ?_ rfl ?_ ?_
  · exact live_insertResource hcontext
  · refine (sendCommand_notable addBuf _ _ _ _).trans ?_
    exact sendCommand_notable addBuf (takeRecord records driver) _ _ _
  · have hcreated : Pushes (fun _ buffer => buffer.IsSubmit = false)
        driver (createBlobResource addBuf context.id
          (nameBlob driver record).id (blobParam create) 0
          (takeRecord records driver)) := by
      refine (sendCommand_pushes addBuf ?_).from_frame rfl rfl
      rfl
    have hinserted : Pushes (fun _ buffer => buffer.IsSubmit = false)
        driver ((createBlobResource addBuf context.id
          (nameBlob driver record).id (blobParam create) 0
          (takeRecord records driver)).insertResource context.id
            (nameBlob driver record)) := hcreated.to_frame rfl rfl
    refine hinserted.trans (sendCommand_pushes addBuf ?_)
    rfl
  · simp

private theorem closed_memory {context : VirglContext}
    {resource : VirglResource} {close : DrmGemClose} {refused : Prop}
    (hcontext : getVirglContextFromListUnsafe driver.virglContextList
      contextId = some context)
    (hresource : getResourceFromListUnsafe context close.handle =
      some resource) :
    MemoryStep addBuf refused
      ((IoRequest.resourceClose (.ok close)).deletes contextId driver) driver
      (deleteAndRelease addBuf context.id
        (driver.removeResource context.id close.handle) resource) := by
  refine .deleted context.id [resource]
    (driver.removeResource context.id close.handle) ?_ ⟨?_, _, rfl⟩
    (Or.inl rfl)
  · intro other hother
    have hfound : (driver.resourcesOf contextId).find?
        (fun resource => decide (resource.id = close.handle)) =
          some resource := by
      unfold Driver.resourcesOf
      rw [hcontext]
      exact hresource
    simpa [IoRequest.deletes, hfound] using hother
  · exact live_removeResource hcontext hresource

private theorem mapResource_memory {context : VirglContext}
    {resource : VirglResource} {handle : UInt32}
    {refused : Prop} {deletes : List VirglResource}
    (request : MapRequest)
    (hcontext : getVirglContextFromListUnsafe driver.virglContextList
      contextId = some context)
    (hresource : getResourceFromListUnsafe context handle = some resource)
    (hbuffer : resource.bForBuffer = true)
    (hidle : resource.stateEvent = true) :
    MemoryStep addBuf refused deletes driver
      (mapResource context.id resource request driver).2 := by
  obtain ⟨share, history, hmap, _⟩ := mapResource_frame context.id
    resource request driver
  have hid : resource.id = handle := by
    simpa using List.find?_some hresource
  subst hid
  obtain ⟨front, back, hbefore, hafter⟩ := live_modifyResource
    (fun resource =>
      { resource with
        buffer := { resource.buffer with share := share } })
    hcontext hresource
  refine .shared context.id resource share front back hbefore ?_ hbuffer
    hidle (mapResource_notable driver context.id resource request) ?_ ?_
    ?_
  · rw [hmap]
    exact hafter
  · rw [hmap]
    rfl
  · rw [hmap]
    rfl
  · rw [hmap]
    rfl

private theorem unread_memory {cmd : DrmVirtgpuExecbuffer}
    {memory : MemoryDescriptor} {vgpuMemory : VgpuMemory}
    {refused : Prop} {deletes : List VirglResource}
    (outFence : Option Nat) (objects : List Nat)
    (halloc : allocateVgpuMemory (roundUp cmd.size 0x1000).toNat
      driver.vgpuMemory = some (memory, vgpuMemory))
    (hrefused : refused) :
    MemoryStep addBuf refused deletes driver
      (fencedCommand outFence cmd memory vgpuMemory
        (driver.reference objects)).2 := by
  have hframe := fencedCommand_frame driver outFence cmd memory
    vgpuMemory objects
  refine .leaked hrefused memory (roundUp cmd.size 0x1000).toNat ?_
    (fencedCommand_notable driver outFence cmd memory vgpuMemory objects)
    (roundUp_uint32_mod cmd.size) ?_ hframe.2.2.1 hframe.2.2.2
  · unfold Driver.live
    rw [hframe.1]
    exact List.forall₂_same.mpr fun entry _ => .refl entry
  · rw [hframe.2.1]
    exact halloc

private theorem uncopied_memory {context : VirglContext}
    {cmd : DrmVirtgpuExecbuffer} {memory : MemoryDescriptor}
    {vgpuMemory : VgpuMemory}
    {refused : Prop} {deletes : List VirglResource}
    (outFence : Option Nat) (objects : List Nat) (reads : Nat → HandleRead)
    (halloc : allocateVgpuMemory (roundUp cmd.size 0x1000).toNat
      driver.vgpuMemory = some (memory, vgpuMemory))
    (hrefused : refused) :
    MemoryStep addBuf refused deletes driver
      ((fencedCommand outFence cmd memory vgpuMemory
        (driver.reference objects)).2.modifyContext context.id
          (updateResourceState (markedIds cmd reads) true
            (fencedCommand outFence cmd memory vgpuMemory
              (driver.reference objects)).1)) := by
  have hframe := fencedCommand_frame driver outFence cmd memory
    vgpuMemory objects
  refine .leaked hrefused memory (roundUp cmd.size 0x1000).toNat ?_
    (fencedCommand_notable driver outFence cmd memory vgpuMemory objects)
    (roundUp_uint32_mod cmd.size) ?_ hframe.2.2.1 hframe.2.2.2
  · have hmarked := marked_remarked
      (fencedCommand outFence cmd memory vgpuMemory
        (driver.reference objects)).2 context.id (markedIds cmd reads)
      (fencedCommand outFence cmd memory vgpuMemory
        (driver.reference objects)).1
    unfold Driver.live at hmarked ⊢
    rw [hframe.1] at hmarked
    exact hmarked
  · rw [(modifyContext_frame _ _ _).1, hframe.2.1]
    exact halloc

private theorem listed_memory {context : VirglContext}
    {cmd : DrmVirtgpuExecbuffer} {outFence : Option Nat}
    {objects : List Nat} {memory : MemoryDescriptor}
    {vgpuMemory : VgpuMemory} {fenced : UInt64 × Driver}
    {refused : Prop} {deletes : List VirglResource}
    (reads : Nat → HandleRead)
    (halloc : allocateVgpuMemory (roundUp cmd.size 0x1000).toNat
      driver.vgpuMemory = some (memory, vgpuMemory))
    (hfenced : fenced = fencedCommand outFence cmd memory vgpuMemory
      (driver.reference objects)) :
    MemoryStep addBuf refused deletes driver
      (submitCommand addBuf context.id memory
        (roundUp cmd.size 0x1000).toNat cmd.size
        (some (copiedIds cmd reads)) fenced.1 outFence
        (markedCommand context cmd reads fenced)).2 := by
  have hframe := fencedCommand_frame driver outFence cmd memory
    vgpuMemory objects
  have hnotable := fencedCommand_notable driver outFence cmd memory
    vgpuMemory objects
  rw [← hfenced] at hframe hnotable
  refine .submitted (submitBuffer context.id memory
    (roundUp cmd.size 0x1000).toNat cmd.size (some (copiedIds cmd reads))
    fenced.1 outFence fenced.2.pushCount) memory ?_ ?_
    (roundUp_uint32_mod cmd.size) ?_ rfl rfl hframe.2.2.2 ?_
  · have hmarked := marked_remarked fenced.2 context.id
      (markedIds cmd reads) fenced.1
    unfold Driver.live at hmarked ⊢
    rw [hframe.1] at hmarked
    exact hmarked
  · rw [submitCommand_notable]
    refine (log_notable _ _).trans ?_
    exact hnotable
  · rw [(submitCommand_frame addBuf _ _ _ _ _ _ _ _).2.1]
    exact halloc.trans (by rw [← hframe.2.1]; rfl)
  · exact (submitCommand_extends addBuf context.id memory _ cmd.size _
      fenced.1 outFence (markedCommand context cmd reads
        fenced)).from_frame hframe.2.2.1 hframe.2.2.2

private theorem unlisted_memory {context : VirglContext}
    {cmd : DrmVirtgpuExecbuffer} {outFence : Option Nat}
    {objects : List Nat} {memory : MemoryDescriptor}
    {vgpuMemory : VgpuMemory} {fenced : UInt64 × Driver}
    {refused : Prop} {deletes : List VirglResource}
    (halloc : allocateVgpuMemory (roundUp cmd.size 0x1000).toNat
      driver.vgpuMemory = some (memory, vgpuMemory))
    (hfenced : fenced = fencedCommand outFence cmd memory vgpuMemory
      (driver.reference objects)) :
    MemoryStep addBuf refused deletes driver
      (submitCommand addBuf context.id memory
        (roundUp cmd.size 0x1000).toNat cmd.size none fenced.1 outFence
        fenced.2).2 := by
  have hframe := fencedCommand_frame driver outFence cmd memory
    vgpuMemory objects
  have hnotable := fencedCommand_notable driver outFence cmd memory
    vgpuMemory objects
  rw [← hfenced] at hframe hnotable
  refine .submitted (submitBuffer context.id memory
    (roundUp cmd.size 0x1000).toNat cmd.size none fenced.1 outFence
    fenced.2.pushCount) memory ?_ ?_ (roundUp_uint32_mod cmd.size) ?_ rfl
    rfl hframe.2.2.2 ?_
  · unfold Driver.live
    rw [(submitCommand_frame addBuf _ _ _ _ _ _ _ _).1, hframe.1]
    exact List.forall₂_same.mpr fun entry _ => .refl entry
  · rw [submitCommand_notable]
    exact hnotable
  · rw [(submitCommand_frame addBuf _ _ _ _ _ _ _ _).2.1, hframe.2.1]
    exact halloc
  · exact (submitCommand_extends addBuf context.id memory _ cmd.size none
      fenced.1 outFence fenced.2).from_frame hframe.2.2.1 hframe.2.2.2

private theorem RequestOutcome.memory {request : IoRequest} {after : Driver}
    (houtcome : RequestOutcome addBuf contextId driver request after) :
    MemoryStep addBuf (¬request.HandlesGranted)
      (request.deletes contextId driver) driver after := by
  cases houtcome with
  | unchanged => exact .quiet rfl rfl rfl (.of_frame rfl rfl)
  | opened request contextInit hnew =>
      exact createVirglContext_memory contextInit
  | destroyed context hcontext =>
      exact ctlDestroyVirglContext_memory hcontext
  | exhausted request context create record records hcontext hnone =>
      exact .quiet rfl (created3d_notable _ _ _ _ _) rfl
        (created3d_neutral _ _ _ _ _)
  | bare request context create record records hcontext hbuffer =>
      exact bare_memory records hcontext hbuffer
  | backed request context create record records memory vgpuMemory resource
      hcontext hbuffer halloc hresource =>
      exact backed_memory records hcontext hbuffer halloc hresource
  | blobCreated request context create record records hcontext =>
      exact blobCreated_memory create record records hcontext
  | closed close context resource hcontext hresource =>
      exact closed_memory hcontext hresource
  | mapped request context resource handle hcontext hresource hbuffer hidle =>
      exact mapResource_memory request hcontext hresource hbuffer hidle
  | referenced request objects =>
      exact .quiet rfl (reference_notable driver objects) rfl
        (.of_frame rfl rfl)
  | unread request cmd outFence objects memory vgpuMemory halloc hhandles =>
      refine unread_memory outFence objects halloc ?_
      rintro ⟨_, reads, hreads⟩
      exact hhandles reads hreads
  | uncopied request context cmd outFence objects memory vgpuMemory reads
      hcontext halloc hblock =>
      refine uncopied_memory outFence objects reads halloc ?_
      rintro ⟨hgranted, _⟩
      rw [hblock] at hgranted
      cases hgranted
  | listed request context cmd outFence objects memory vgpuMemory reads fenced
      hinput hcontext halloc hread hfenced =>
      exact listed_memory reads halloc hfenced
  | unlisted request context cmd outFence objects memory vgpuMemory fenced
      hcontext halloc hfenced =>
      exact unlisted_memory halloc hfenced
  | transferred toHost request context resource transfer hcontext hresource
      htransfer =>
      refine .transferred ?_ ?_ rfl ?_
      · exact marked_remarked driver context.id [transfer.resourceId] 0
      · exact sendCommand_notable addBuf _ _ _ _
      · refine (sendCommand_pushes addBuf ?_).from_frame rfl rfl
        rfl

theorem virtioVgpuIoControl_memory (processId : UInt32) (driver : Driver)
    (request : IoRequest) :
    MemoryStep addBuf (¬request.HandlesGranted)
      (request.deletes processId driver) driver
      (virtioVgpuIoControl addBuf processId driver request).2 :=
  (virtioVgpuIoControl_outcome processId driver request).memory

/-! What one completion does. -/

/-- The completion set the event of the resource or left it as it was. -/
def Signaled (buffer : VgpuBuffer)
    (before after : UInt32 × VirglResource) : Prop :=
  after = before ∨
    ((before.1 = buffer.pBuf.hdr.ctxId ∧
        before.2.id ∈ buffer.updatedIds ∧
        before.2.Accepts buffer.pBuf.hdr.fenceId) ∧
      after = (before.1,
        before.2.updateState false buffer.pBuf.hdr.fenceId))

inductive CompletionStep (buffer : VgpuBuffer) (info : MapInfo)
    (mapAddress : Option Nat) (before after : Driver) : Prop
  | updated
      (hlive : List.Forall₂ (Signaled buffer) before.live after.live)
      (hnotable : after.notable = before.notable)
  | mapped (resource : VirglResource) (address : Nat)
      (front back : List (UInt32 × VirglResource))
      (htarget : before.mapTarget buffer = some resource)
      (haddress : mapAddress = some address)
      (hbefore : before.live =
        front ++ (buffer.pBuf.hdr.ctxId, resource) :: back)
      (hlive : after.live = front ++
        (buffer.pBuf.hdr.ctxId, resource.mapAt info.size address) :: back)
      (hnotable : after.notable =
        .ioMapped resource.serial address info.size :: before.notable)

private theorem updated_forall₂ (buffer : VgpuBuffer) (driver : Driver) :
    List.Forall₂ (Signaled buffer) driver.live
      (driver.modifyContext buffer.pBuf.hdr.ctxId
        (updateResourceState buffer.updatedIds false
          buffer.pBuf.hdr.fenceId)).live := by
  have hforall := live_modifyContext_forall₂ buffer.pBuf.hdr.ctxId
    (updateResourceState buffer.updatedIds false buffer.pBuf.hdr.fenceId)
    driver (updateResourceState_id _ _ _)
    (updateResourceState_forall₂ buffer.updatedIds false
      buffer.pBuf.hdr.fenceId)
  refine hforall.imp ?_
  rintro ⟨beforeId, before⟩ ⟨afterId, after⟩
    (hsame | ⟨hbefore, hafter, hsame | ⟨hmem, hupdate⟩⟩)
  · exact Or.inl hsame
  · simp only at hbefore hafter hsame
    subst hbefore hafter hsame
    exact Or.inl rfl
  · simp only at hbefore hafter hupdate hmem
    subst hbefore hafter hupdate
    by_cases haccepts : before.Accepts buffer.pBuf.hdr.fenceId
    · exact Or.inr ⟨⟨rfl, hmem, haccepts⟩, rfl⟩
    · rw [VirglResource.updateState_of_not_accepts haccepts]
      exact Or.inl rfl

private theorem updated_step {buffer : VgpuBuffer} {info : MapInfo}
    {mapAddress : Option Nat} {driver : Driver}
    (hnone : mapAddress = none ∨ buffer.mappedId = none) :
    CompletionStep buffer info mapAddress driver
      (completeBuffer buffer info mapAddress driver) := by
  have hcompletion : buffer.completion info mapAddress =
      updateResourceState buffer.updatedIds false
        buffer.pBuf.hdr.fenceId := by
    unfold VgpuBuffer.completion
    rcases hnone with hnone | hnone
    · rw [hnone]
      cases buffer.mappedId <;> rfl
    · rw [hnone]
  refine .updated ?_ ?_
  · unfold Driver.live
    rw [completeBuffer_contexts, hcompletion]
    exact updated_forall₂ buffer driver
  · rw [completeBuffer_notable]
    unfold mappingEvents Driver.mapTarget
    rcases hnone with hnone | hnone
    · simp [hnone]
    · simp [hnone]

private theorem missed_step {buffer : VgpuBuffer} {info : MapInfo}
    {mapAddress : Option Nat} {driver : Driver}
    (hmissed : driver.mapTarget buffer = none)
    (hcontexts : (driver.modifyContext buffer.pBuf.hdr.ctxId
      (buffer.completion info mapAddress)).virglContextList =
        driver.virglContextList) :
    CompletionStep buffer info mapAddress driver
      (completeBuffer buffer info mapAddress driver) := by
  refine .updated ?_ ?_
  · unfold Driver.live
    rw [completeBuffer_contexts, hcontexts]
    exact List.forall₂_same.mpr fun _ _ => Or.inl rfl
  · rw [completeBuffer_notable, hmissed]
    rfl

theorem completeBuffer_step (buffer : VgpuBuffer) (info : MapInfo)
    (mapAddress : Option Nat) (driver : Driver) :
    CompletionStep buffer info mapAddress driver
      (completeBuffer buffer info mapAddress driver) := by
  cases hmapped : buffer.mappedId with
  | none => exact updated_step (Or.inr hmapped)
  | some id =>
      cases mapAddress with
      | none => exact updated_step (Or.inl rfl)
      | some address =>
          have hcompletion : buffer.completion info (some address) =
              fun context => context.modifyResource id
                (VirglResource.mapAt info.size address) := by
            simp [VgpuBuffer.completion, hmapped]
          cases hcontext : getVirglContextFromListUnsafe
              driver.virglContextList buffer.pBuf.hdr.ctxId with
          | none =>
              refine missed_step ?_ (modifyFirst_of_find?_eq_none hcontext)
              simp [Driver.mapTarget, hmapped, hcontext]
          | some context =>
              have htarget : driver.mapTarget buffer =
                  getResourceFromListUnsafe context id := by
                simp [Driver.mapTarget, hmapped, hcontext]
              cases hresource : getResourceFromListUnsafe context id with
              | none =>
                  refine missed_step (htarget.trans hresource) ?_
                  refine modifyFirst_of_fixed fun found hfound => ?_
                  have hsame : context = found :=
                    Option.some.inj (hcontext.symm.trans hfound)
                  subst hsame
                  rw [hcompletion]
                  simp only [VirglContext.modifyResource,
                    modifyFirst_of_find?_eq_none hresource]
              | some resource =>
                  obtain ⟨front, back, hbefore, hafter⟩ :=
                    live_modifyResource
                      (VirglResource.mapAt info.size address) hcontext
                      hresource
                  rw [context_id_of_lookup hcontext] at hbefore hafter
                  refine .mapped resource address front back
                    (htarget.trans hresource) rfl hbefore ?_ ?_
                  · rw [← hafter, ← hcompletion]
                    unfold Driver.live
                    rw [completeBuffer_contexts]
                  · rw [completeBuffer_notable, htarget, hresource]
                    rfl

end VgpuDriver
