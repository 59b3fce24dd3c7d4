import VgpuDriver.System

namespace VgpuDriver

open Data

/-! What one request can do: nothing, or the effect of its handler on the
context and the resource it looked up. -/

variable (addBuf : Nat → Bool)

/-- `ObReferenceObjectByHandle` on the objects, the last one first. -/
def Driver.reference (objects : List Nat) (driver : Driver) : Driver :=
  { driver with
    history := objects.map .objectReferenced ++ driver.history }

theorem Driver.reference_reference (first second : List Nat)
    (driver : Driver) :
    (driver.reference first).reference second =
      driver.reference (second ++ first) := by
  simp [Driver.reference]

/-- CREATE_3D has been pushed. -/
def created3d (context : VirglContext) (create : DrmVirtgpuResourceCreate)
    (record : VirglResource) (records : LookAsideList VirglResource)
    (before : Driver) : Driver :=
  create3dResource addBuf context.id (nameResource create before record).id
    create.param 0 (takeRecord records before)

/-- The pages of the command are granted and the fence id is drawn. -/
def fencedCommand (outFence : Option Nat) (cmd : DrmVirtgpuExecbuffer)
    (memory : MemoryDescriptor) (vgpuMemory : VgpuMemory) (before : Driver) :
    UInt64 × Driver :=
  drawFenceId outFence
    (grantCommand memory (roundUp cmd.size 0x1000).toNat cmd.size.toNat
      vgpuMemory before)

/-- The listed resources are busy and the handle array is copied. -/
def markedCommand (context : VirglContext) (cmd : DrmVirtgpuExecbuffer)
    (reads : Nat → HandleRead) (fenced : UInt64 × Driver) : Driver :=
  (fenced.2.modifyContext context.id
    (updateResourceState (markedIds cmd reads) true fenced.1)).log
      (.handlesTaken fenced.2.pushCount)

inductive RequestOutcome (contextId : UInt32) (before : Driver) :
    IoRequest → Driver → Prop
  | unchanged (request : IoRequest) :
      RequestOutcome contextId before request before
  | opened (request : ContextInitRequest) (contextInit : UInt32)
      (hnew : getVirglContextFromListUnsafe before.virglContextList
        contextId = none) :
      RequestOutcome contextId before (.contextInit request)
        (createVirglContext addBuf contextId contextInit
          { before with
            virglContextList :=
              { id := contextId, resourceList := [] } ::
                before.virglContextList })
  | destroyed (context : VirglContext)
      (hcontext : getVirglContextFromListUnsafe before.virglContextList
        contextId = some context) :
      RequestOutcome contextId before .destroyContext
        (ctlDestroyVirglContext addBuf context before)
  | exhausted (request : ResourceCreateRequest) (context : VirglContext)
      (create : DrmVirtgpuResourceCreate) (record : VirglResource)
      (records : LookAsideList VirglResource)
      (hcontext : getVirglContextFromListUnsafe before.virglContextList
        contextId = some context)
      (hnone : allocateVgpuMemory (resourceBufferSize create.size)
        before.vgpuMemory = none) :
      RequestOutcome contextId before (.resourceCreate request)
        (created3d addBuf context create record records before)
  | bare (request : ResourceCreateRequest) (context : VirglContext)
      (create : DrmVirtgpuResourceCreate) (record : VirglResource)
      (records : LookAsideList VirglResource)
      (hcontext : getVirglContextFromListUnsafe before.virglContextList
        contextId = some context)
      (hbuffer : (nameResource create before record).bForBuffer = false) :
      RequestOutcome contextId before (.resourceCreate request)
        ((created3d addBuf context create record records
          before).insertResource context.id
            (nameResource create before record))
  | backed (request : ResourceCreateRequest) (context : VirglContext)
      (create : DrmVirtgpuResourceCreate) (record : VirglResource)
      (records : LookAsideList VirglResource) (memory : MemoryDescriptor)
      (vgpuMemory : VgpuMemory) (resource : VirglResource)
      (hcontext : getVirglContextFromListUnsafe before.virglContextList
        contextId = some context)
      (hbuffer : (nameResource create before record).bForBuffer = true)
      (halloc : allocateVgpuMemory (resourceBufferSize create.size)
        before.vgpuMemory = some (memory, vgpuMemory))
      (hresource : resource = giveBacking (resourceBufferSize create.size)
        memory (nameResource create before record)) :
      RequestOutcome contextId before (.resourceCreate request)
        ((attachResourceBacking addBuf context.id resource
          (grantBacking context.id resource vgpuMemory
            (created3d addBuf context create record records
              before))).insertResource context.id resource)
  | blobCreated (request : BlobResourceCreateRequest)
      (context : VirglContext) (create : DrmVirtgpuResourceCreateBlob)
      (record : VirglResource) (records : LookAsideList VirglResource)
      (hcontext : getVirglContextFromListUnsafe before.virglContextList
        contextId = some context) :
      RequestOutcome contextId before (.blobResourceCreate request)
        (mapBlobResource addBuf context.id (nameBlob before record).id 0
          ((createBlobResource addBuf context.id (nameBlob before record).id
            (blobParam create) 0
            (takeRecord records before)).insertResource context.id
              (nameBlob before record)))
  | closed (close : DrmGemClose) (context : VirglContext)
      (resource : VirglResource)
      (hcontext : getVirglContextFromListUnsafe before.virglContextList
        contextId = some context)
      (hresource : getResourceFromListUnsafe context close.handle =
        some resource) :
      RequestOutcome contextId before (.resourceClose (.ok close))
        (deleteAndRelease addBuf context.id
          (before.removeResource context.id close.handle) resource)
  | mapped (request : MapRequest) (context : VirglContext)
      (resource : VirglResource) (handle : UInt32)
      (hcontext : getVirglContextFromListUnsafe before.virglContextList
        contextId = some context)
      (hresource : getResourceFromListUnsafe context handle = some resource)
      (hbuffer : resource.bForBuffer = true)
      (hidle : resource.stateEvent = true) :
      RequestOutcome contextId before (.map request)
        (mapResource context.id resource request before).2
  | referenced (request : ExecbufferRequest) (objects : List Nat) :
      RequestOutcome contextId before (.execbuffer request)
        (before.reference objects)
  | unread (request : ExecbufferRequest) (cmd : DrmVirtgpuExecbuffer)
      (outFence : Option Nat) (objects : List Nat)
      (memory : MemoryDescriptor) (vgpuMemory : VgpuMemory)
      (halloc : allocateVgpuMemory (roundUp cmd.size 0x1000).toNat
        before.vgpuMemory = some (memory, vgpuMemory))
      (hhandles : ∀ reads, request.handles ≠ .ok reads) :
      RequestOutcome contextId before (.execbuffer request)
        (fencedCommand outFence cmd memory vgpuMemory
          (before.reference objects)).2
  | uncopied (request : ExecbufferRequest) (context : VirglContext)
      (cmd : DrmVirtgpuExecbuffer) (outFence : Option Nat)
      (objects : List Nat) (memory : MemoryDescriptor)
      (vgpuMemory : VgpuMemory) (reads : Nat → HandleRead)
      (hcontext : getVirglContextFromListUnsafe before.virglContextList
        contextId = some context)
      (halloc : allocateVgpuMemory (roundUp cmd.size 0x1000).toNat
        before.vgpuMemory = some (memory, vgpuMemory))
      (hblock : request.handlesBlock = false) :
      RequestOutcome contextId before (.execbuffer request)
        ((fencedCommand outFence cmd memory vgpuMemory
          (before.reference objects)).2.modifyContext context.id
            (updateResourceState (markedIds cmd reads) true
              (fencedCommand outFence cmd memory vgpuMemory
                (before.reference objects)).1))
  | listed (request : ExecbufferRequest) (context : VirglContext)
      (cmd : DrmVirtgpuExecbuffer) (outFence : Option Nat)
      (objects : List Nat) (memory : MemoryDescriptor)
      (vgpuMemory : VgpuMemory) (reads : Nat → HandleRead)
      (fenced : UInt64 × Driver)
      (hinput : request.input = .ok cmd)
      (hcontext : getVirglContextFromListUnsafe before.virglContextList
        contextId = some context)
      (halloc : allocateVgpuMemory (roundUp cmd.size 0x1000).toNat
        before.vgpuMemory = some (memory, vgpuMemory))
      (hreads : request.handles = .ok reads)
      (hfenced : fenced = fencedCommand outFence cmd memory vgpuMemory
        (before.reference objects)) :
      RequestOutcome contextId before (.execbuffer request)
        (submitCommand addBuf context.id memory
          (roundUp cmd.size 0x1000).toNat cmd.size
          (some (copiedIds cmd reads)) fenced.1 outFence
          (markedCommand context cmd reads fenced)).2
  | unlisted (request : ExecbufferRequest) (context : VirglContext)
      (cmd : DrmVirtgpuExecbuffer) (outFence : Option Nat)
      (objects : List Nat) (memory : MemoryDescriptor)
      (vgpuMemory : VgpuMemory) (fenced : UInt64 × Driver)
      (hcontext : getVirglContextFromListUnsafe before.virglContextList
        contextId = some context)
      (halloc : allocateVgpuMemory (roundUp cmd.size 0x1000).toNat
        before.vgpuMemory = some (memory, vgpuMemory))
      (hfenced : fenced = fencedCommand outFence cmd memory vgpuMemory
        (before.reference objects)) :
      RequestOutcome contextId before (.execbuffer request)
        (submitCommand addBuf context.id memory
          (roundUp cmd.size 0x1000).toNat cmd.size none fenced.1 outFence
          fenced.2).2
  | transferred (toHost : Bool) (request : TransferRequest)
      (context : VirglContext) (resource : VirglResource)
      (transfer : TransferHost3dParam)
      (hcontext : getVirglContextFromListUnsafe before.virglContextList
        contextId = some context)
      (hresource : resource ∈ context.resourceList)
      (htransfer : transfer.resourceId = resource.id) :
      RequestOutcome contextId before (.transferHost toHost request)
        (transferHost3d addBuf context.id transfer 0 toHost
          (before.modifyContext context.id
            (updateResourceState [transfer.resourceId] true 0)))

variable {addBuf}
variable {contextId : UInt32} {driver : Driver}

/-- What holds of the untouched state and of every state the handler goes on
to holds of the state it leaves. -/
private theorem Fetch.andThen_outcome {α : Type} {request : IoRequest}
    {fetch : Fetch α} {next : α → Reply × Driver} {before current : Driver}
    (hstop : RequestOutcome addBuf contextId before request current)
    (hnext : ∀ contents, fetch = .ok contents →
      RequestOutcome addBuf contextId before request (next contents).2) :
    RequestOutcome addBuf contextId before request
      (fetch.andThen current next).2 := by
  rcases fetch.andThen_cases current next with
    ⟨_, heq⟩ | ⟨contents, hfetch, heq⟩
  · rw [heq]
    exact hstop
  · rw [heq]
    exact hnext contents hfetch

private theorem ctlInitVirglContext_outcome (request : ContextInitRequest) :
    RequestOutcome addBuf contextId driver (.contextInit request)
      (ctlInitVirglContext addBuf contextId request driver).2 := by
  unfold ctlInitVirglContext
  split
  · exact .unchanged _
  · rename_i hnew
    refine Fetch.andThen_outcome (.unchanged _) fun init _ => ?_
    refine Fetch.andThen_outcome (.unchanged _) fun params _ => ?_
    dsimp only
    split
    · exact .unchanged _
    · split
      · exact .unchanged _
      · exact .opened request _ hnew

private theorem ctlCreateResource_outcome (request : ResourceCreateRequest) :
    RequestOutcome addBuf contextId driver (.resourceCreate request)
      (ctlCreateResource addBuf contextId request driver).2 := by
  refine Fetch.andThen_outcome (.unchanged _) fun create _ => ?_
  refine Fetch.andThen_outcome (.unchanged _) fun _ _ => ?_
  split
  · exact .unchanged _
  · rename_i context hcontext
    unfold createResource
    split
    · exact .unchanged _
    · rename_i record records _
      dsimp only
      split
      · rename_i hbuffer
        split
        · rename_i hnone
          exact .exhausted request context create record records hcontext
            hnone
        · rename_i memory vgpuMemory halloc
          exact .backed request context create record records memory
            vgpuMemory _ hcontext hbuffer halloc rfl
      · rename_i hbuffer
        exact .bare request context create record records hcontext
          (by simpa using hbuffer)

private theorem ctlCreateBlobResource_outcome
    (request : BlobResourceCreateRequest) :
    RequestOutcome addBuf contextId driver (.blobResourceCreate request)
      (ctlCreateBlobResource addBuf contextId request driver).2 := by
  refine Fetch.andThen_outcome (.unchanged _) fun create _ => ?_
  refine Fetch.andThen_outcome (.unchanged _) fun _ _ => ?_
  split
  · exact .unchanged _
  · rename_i context hcontext
    unfold createBlob
    split
    · exact .unchanged _
    · rename_i record records _
      exact .blobCreated request context create record records hcontext

private theorem ctlCloseResource_outcome (input : Fetch DrmGemClose) :
    RequestOutcome addBuf contextId driver (.resourceClose input)
      (ctlCloseResource addBuf contextId input driver).2 := by
  refine Fetch.andThen_outcome (.unchanged _) fun close hclose => ?_
  subst hclose
  split
  · exact .unchanged _
  · rename_i context hcontext
    split
    · exact .unchanged _
    · rename_i resource hresource
      exact .closed close context resource hcontext hresource

private theorem ctlWait_snd (request : WaitRequest) :
    (ctlWait contextId request driver).2 = driver := by
  unfold ctlWait
  rcases request.input.andThen_cases driver _ with ⟨_, heq⟩ | ⟨cmd, _, heq⟩
  · rw [heq]
  · rw [heq]
    rcases request.output.andThen_cases driver _ with ⟨_, heq⟩ | ⟨_, _, heq⟩
    · rw [heq]
    · rw [heq]
      split
      · rfl
      · split
        · rfl
        · split
          · rfl
          · split <;> rfl

private theorem ctlMap_outcome (request : MapRequest) :
    RequestOutcome addBuf contextId driver (.map request)
      (ctlMap contextId request driver).2 := by
  refine Fetch.andThen_outcome (.unchanged _) fun cmd _ => ?_
  refine Fetch.andThen_outcome (.unchanged _) fun _ _ => ?_
  split
  · exact .unchanged _
  · rename_i context hcontext
    split
    · exact .unchanged _
    · rename_i resource hresource
      split
      · exact .unchanged _
      · rename_i hbuffer
        split
        · exact .unchanged _
        · split
          · exact .unchanged _
          · rename_i hidle
            exact .mapped request context resource cmd.handle hcontext
              hresource (by simpa using hbuffer) (by simpa using hidle)

private theorem ctlTransferHost_outcome (toHost : Bool)
    (request : TransferRequest) :
    RequestOutcome addBuf contextId driver (.transferHost toHost request)
      (ctlTransferHost addBuf contextId toHost request driver).2 := by
  refine Fetch.andThen_outcome (.unchanged _) fun cmd _ => ?_
  split
  · exact .unchanged _
  · rename_i context hcontext
    split
    · exact .unchanged _
    · rename_i resource hresource
      exact .transferred toHost request context resource
        { box := cmd.box
          offset := cmd.offset.toUInt64
          resourceId := resource.id
          level := cmd.level
          stride := cmd.stride
          layerStride := cmd.layerStride } hcontext
        (List.mem_of_find?_eq_some hresource) rfl

/-- The object of the in-fence, when it is referenced. -/
def inFenceObjects (cmd : DrmVirtgpuExecbuffer)
    (request : ExecbufferRequest) : List Nat :=
  if cmd.flags &&& execbufFenceFdIn ≠ 0 then
    match request.inFence with
    | .error _ => []
    | .ok object => [object]
  else []

/-- The object of the out-fence, when it is referenced. -/
def outFenceObjects (cmd : DrmVirtgpuExecbuffer)
    (request : ExecbufferRequest) : List Nat :=
  if cmd.flags &&& execbufFenceFdOut ≠ 0 then
    match request.outFence with
    | .error _ => []
    | .ok object => [object]
  else []

theorem waitInFence_driver (cmd : DrmVirtgpuExecbuffer)
    (request : ExecbufferRequest) (driver : Driver) :
    (waitInFence cmd request driver).2 =
      driver.reference (inFenceObjects cmd request) := by
  unfold waitInFence inFenceObjects
  split
  · cases request.inFence <;> rfl
  · rfl

theorem referenceOutFence_driver (cmd : DrmVirtgpuExecbuffer)
    (request : ExecbufferRequest) (driver : Driver) :
    (referenceOutFence cmd request driver).2 =
      driver.reference (outFenceObjects cmd request) := by
  unfold referenceOutFence outFenceObjects
  split
  · cases request.outFence <;> rfl
  · rfl

private theorem submitPages_outcome {context : VirglContext}
    {cmd : DrmVirtgpuExecbuffer} (request : ExecbufferRequest)
    (outFence : Option Nat) (objects : List Nat)
    (hinput : request.input = .ok cmd)
    (hcontext : getVirglContextFromListUnsafe driver.virglContextList
      contextId = some context) :
    RequestOutcome addBuf contextId driver (.execbuffer request)
      (submitPages addBuf context cmd request outFence
        (driver.reference objects)).2 := by
  unfold submitPages
  dsimp only
  split
  · exact .referenced request objects
  · rename_i memory vgpuMemory halloc
    split
    · cases hhandles : request.handles with
      | failed code =>
          exact .unread request cmd outFence objects memory vgpuMemory halloc
            (by simp [hhandles])
      | rejected =>
          exact .unread request cmd outFence objects memory vgpuMemory halloc
            (by simp [hhandles])
      | ok reads =>
          simp only [Fetch.andThen]
          split
          · rename_i hblock
            exact .uncopied request context cmd outFence objects memory
              vgpuMemory reads hcontext halloc (by simpa using hblock)
          · exact .listed request context cmd outFence objects memory
              vgpuMemory reads _ hinput hcontext halloc hhandles rfl
    · exact .unlisted request context cmd outFence objects memory vgpuMemory
        _ hcontext halloc rfl

private theorem ctlSubmitCommand_outcome (request : ExecbufferRequest) :
    RequestOutcome addBuf contextId driver (.execbuffer request)
      (ctlSubmitCommand addBuf contextId request driver).2 := by
  refine Fetch.andThen_outcome (.unchanged _) fun cmd hinput => ?_
  split
  · exact .unchanged _
  · rename_i context hcontext
    have hwaited := waitInFence_driver cmd request driver
    have hboth := referenceOutFence_driver cmd request
      (waitInFence cmd request driver).2
    dsimp only
    split
    · rw [hwaited]
      exact .referenced request _
    · split
      · rename_i after heq
        rw [heq, hwaited, Driver.reference_reference] at hboth
        simp only at hboth
        rw [hboth]
        exact .referenced request _
      · rename_i outFence after heq
        rw [heq, hwaited, Driver.reference_reference] at hboth
        simp only at hboth
        rw [hboth]
        refine Fetch.andThen_outcome (.referenced request _) fun _ _ => ?_
        exact submitPages_outcome request outFence _ hinput hcontext

theorem virtioVgpuIoControl_outcome (contextId : UInt32) (driver : Driver)
    (request : IoRequest) :
    RequestOutcome addBuf contextId driver request
      (virtioVgpuIoControl addBuf contextId driver request).2 := by
  cases request with
  | contextInit request => exact ctlInitVirglContext_outcome request
  | destroyContext =>
      simp only [virtioVgpuIoControl, ioctlDestroyContext]
      split
      · exact .unchanged _
      · rename_i context hcontext
        exact .destroyed context hcontext
  | resourceCreate request => exact ctlCreateResource_outcome request
  | blobResourceCreate request => exact ctlCreateBlobResource_outcome request
  | resourceClose input => exact ctlCloseResource_outcome input
  | wait request =>
      simp only [virtioVgpuIoControl, ctlWait_snd]
      exact .unchanged _
  | map request => exact ctlMap_outcome request
  | execbuffer request => exact ctlSubmitCommand_outcome request
  | transferHost toHost request =>
      exact ctlTransferHost_outcome toHost request

end VgpuDriver
