import VgpuDriver.Data.Levels
import VgpuDriver.System

namespace VgpuDriver

open Data

/-! The spin locks that the entry points of the driver take and the routines
with an IRQL limit that they call, in the order of the code. -/

def apcLevel : Nat := 1

def dispatchLevel : Nat := 2

/-- The spin locks; `idr` and `virtQueue` stand for one lock each for every
type of id and every queue. -/
inductive SpinLock
  | virglContextList
  | resourceList (contextId : UInt32)
  | vgpuMemory
  | idr (type : UInt8)
  | virtQueue (queue : Queue)
  deriving DecidableEq, Repr

inductive Routine
  | mmMapLockedPagesSpecifyCache
  | mmUnmapLockedPages
  | keWaitForSingleObject
  deriving DecidableEq, Repr

/-- The mappings are user-mode mappings and the waits have no timeout. -/
def Routine.limit : Routine → Nat
  | .mmMapLockedPagesSpecifyCache => apcLevel
  | .mmUnmapLockedPages => apcLevel
  | .keWaitForSingleObject => apcLevel

abbrev Program := List (Op SpinLock Routine)

/-- `VIRGL_RESOURCE_ID_TYPE` and `FENCE_ID_TYPE` -/
def virglResourceIdType : UInt8 := 0

def fenceIdType : UInt8 := 1

/-- The mapping that `DeleteUserShareMemory` undoes. -/
def VirglResource.IsUserMapped (resource : VirglResource) : Bool :=
  resource.bForBuffer && resource.buffer.share.pMdl.isSome &&
    resource.buffer.share.userAddress.isSome

namespace Irql

/-- The routine returns the contents or the handler is left. -/
def fetched {α : Type} (fetch : Fetch α) (next : α → Program) : Program :=
  match fetch with
  | .ok contents => next contents
  | _ => []

def found {α : Type} (result : Option α) (next : α → Program) : Program :=
  match result with
  | some contents => next contents
  | none => []

def pushQueue (queue : Queue) : Program := locked (.virtQueue queue) []

def getIdFromIdrWithoutCache (type : UInt8) : Program := locked (.idr type) []

def allocateVgpuMemory (size : Nat) (memory : VgpuMemory) : Program :=
  if size > memory.availableMemorySize then [] else locked .vgpuMemory []

def freeVgpuMemory : Program := locked .vgpuMemory []

def getVirglContextFromList : Program := locked .virglContextList []

def getResourceFromList (context : VirglContext) : Program :=
  locked (.resourceList context.id) []

/-- `ExInterlockedInsertHeadList` takes the lock itself. -/
def exInterlockedInsertHeadList (lock : SpinLock) : Program := locked lock []

def createUserShareMemory (mdl : Option Nat) (share : ShareDescriptor) :
    Program :=
  if share.kernelAddress = 0 ∨ share.size = 0 then []
  else
    match mdl with
    | none => []
    | some _ => [.call .mmMapLockedPagesSpecifyCache]

def deleteUserShareMemory (share : ShareDescriptor) : Program :=
  match share.userAddress, share.pMdl with
  | some _, some _ => [.call .mmUnmapLockedPages]
  | _, _ => []

def deleteResource (resource : VirglResource) : Program :=
  (if resource.bForBuffer then
    (if resource.buffer.share.pMdl.isSome then
      deleteUserShareMemory resource.buffer.share else []) ++
    (if resource.bForBlob then pushQueue .command
    else pushQueue .command ++ freeVgpuMemory)
  else []) ++ pushQueue .command

def ctlDestroyVirglContext (context : VirglContext) : Program :=
  locked .virglContextList [] ++
    locked (.resourceList context.id)
      (context.resourceList.reverse.flatMap deleteResource) ++
    pushQueue .control

def ctlInitVirglContext (contextId : UInt32) (request : ContextInitRequest)
    (driver : Driver) : Program :=
  getVirglContextFromList ++
  match getVirglContextFromListUnsafe driver.virglContextList contextId with
  | some _ => []
  | none =>
      fetched request.input fun init =>
      fetched request.params fun params =>
        let loop := contextInitParams driver.capsets.capsetIdMask
          ((List.range init.numParams.toNat).map params)
        if loop.status ≠ .success then []
        else if !request.contextBlock then []
        else
          exInterlockedInsertHeadList .virglContextList ++ pushQueue .control

def ioctlDestroyContext (contextId : UInt32) (driver : Driver) : Program :=
  getVirglContextFromList ++
    found (getVirglContextFromListUnsafe driver.virglContextList contextId)
      ctlDestroyVirglContext

/-- One command and one wait for each capset. -/
def getCapsInfo (capsets : Capsets) : Program :=
  (List.range capsets.numCaps.toNat).flatMap fun _ =>
    pushQueue .control ++ [.call .keWaitForSingleObject]

def ctlGetParams (driver : Driver) : Program :=
  if !driver.capsets.initialized then getCapsInfo driver.capsets else []

def getCaps : Program :=
  pushQueue .control ++ [.call .keWaitForSingleObject]

/-- The output buffer may have another size than the capset. -/
def ctlGetCaps (input : Fetch (UInt32 × UInt32)) (output : Fetch Nat)
    (driver : Driver) : Program :=
  fetched input fun wanted =>
  found ((driver.capsets.data.take driver.capsets.numCaps.toNat).find?
      fun capset => capset.id = wanted.1 && wanted.2 ≤ capset.maxVersion)
    fun capset =>
  fetched output fun size =>
    if size ≠ capset.maxSize.toNat then [] else getCaps

def createResource (context : VirglContext)
    (create : DrmVirtgpuResourceCreate) (grant : LookAsideGrant VirglResource)
    (driver : Driver) : Program :=
  found (exAllocateFromLookasideListEx grant
      driver.virglResourceLookAsideList) fun _ =>
    getIdFromIdrWithoutCache virglResourceIdType ++ pushQueue .command ++
    if create.size != 1 then
      let size := resourceBufferSize create.size
      allocateVgpuMemory size driver.vgpuMemory ++
        found (VgpuDriver.allocateVgpuMemory size driver.vgpuMemory) fun _ =>
          pushQueue .command ++
            exInterlockedInsertHeadList (.resourceList context.id)
    else exInterlockedInsertHeadList (.resourceList context.id)

def ctlCreateResource (contextId : UInt32) (request : ResourceCreateRequest)
    (driver : Driver) : Program :=
  fetched request.input fun create =>
  fetched request.output fun _ =>
  found (getVirglContextFromListUnsafe driver.virglContextList contextId)
    fun context => createResource context create request.record driver

def ctlCreateBlobResource (contextId : UInt32)
    (request : BlobResourceCreateRequest) (driver : Driver) : Program :=
  fetched request.input fun _ =>
  fetched request.output fun _ =>
  found (getVirglContextFromListUnsafe driver.virglContextList contextId)
    fun context =>
  found (exAllocateFromLookasideListEx request.record
      driver.virglResourceLookAsideList) fun _ =>
    getIdFromIdrWithoutCache virglResourceIdType ++ pushQueue .command ++
      exInterlockedInsertHeadList (.resourceList context.id) ++
      pushQueue .command

def ctlCloseResource (contextId : UInt32) (input : Fetch DrmGemClose)
    (driver : Driver) : Program :=
  fetched input fun close =>
  found (getVirglContextFromListUnsafe driver.virglContextList contextId)
    fun context =>
  getResourceFromList context ++
  found (getResourceFromListUnsafe context close.handle) fun resource =>
    locked (.resourceList context.id) [] ++ deleteResource resource

def ctlWait (contextId : UInt32) (request : WaitRequest) (driver : Driver) :
    Program :=
  fetched request.input fun cmd =>
  fetched request.output fun _ =>
  found (getVirglContextFromListUnsafe driver.virglContextList contextId)
    fun context =>
  found (getResourceFromListUnsafe context cmd.handle) fun _ =>
    if cmd.flags &&& waitNowait ≠ 0 then []
    else [.call .keWaitForSingleObject]

/-- `woken` is what the completion handler and other requests make of the
resource during the wait. -/
def ctlMap (contextId : UInt32) (request : MapRequest)
    (woken : VirglResource → VirglResource) (driver : Driver) : Program :=
  fetched request.input fun cmd =>
  fetched request.output fun _ =>
  found (getVirglContextFromListUnsafe driver.virglContextList contextId)
    fun context =>
  getResourceFromList context ++
  found (getResourceFromListUnsafe context cmd.handle) fun resource =>
    if !resource.bForBuffer then []
    else if resource.buffer.share.pMdl.isSome then []
    else
      let mapped := if resource.stateEvent then resource else woken resource
      (if !resource.stateEvent then [.call .keWaitForSingleObject] else []) ++
        createUserShareMemory request.mdl
          { mapped.buffer.share with
            kernelAddress := mapped.buffer.memory.virtualAddress
            size := mapped.buffer.size }

def ctlTransferHost (contextId : UInt32) (request : TransferRequest)
    (driver : Driver) : Program :=
  fetched request.input fun cmd =>
  found (getVirglContextFromListUnsafe driver.virglContextList contextId)
    fun context =>
  found (getResourceFromListUnsafe context cmd.boHandle) fun _ =>
    pushQueue .command

def waitInFence (cmd : DrmVirtgpuExecbuffer) (request : ExecbufferRequest) :
    Program :=
  if cmd.flags &&& execbufFenceFdIn ≠ 0 then
    match request.inFence with
    | .error _ => []
    | .ok _ => [.call .keWaitForSingleObject]
  else []

/-- `CtlSubmitCommand` from the allocation of the command pages on. -/
def submitPages (cmd : DrmVirtgpuExecbuffer) (request : ExecbufferRequest)
    (outFence : Option Nat) (driver : Driver) : Program :=
  let size := (roundUp cmd.size 0x1000).toNat
  allocateVgpuMemory size driver.vgpuMemory ++
  found (VgpuDriver.allocateVgpuMemory size driver.vgpuMemory) fun _ =>
    (if outFence.isSome then getIdFromIdrWithoutCache fenceIdType else []) ++
    if cmd.numBoHandles > 0 then
      fetched request.handles fun _ =>
        if !request.handlesBlock then [] else pushQueue .command
    else pushQueue .command

def ctlSubmitCommand (contextId : UInt32) (request : ExecbufferRequest)
    (driver : Driver) : Program :=
  fetched request.input fun cmd =>
  found (getVirglContextFromListUnsafe driver.virglContextList contextId)
    fun _ =>
  waitInFence cmd request ++
    if (VgpuDriver.waitInFence cmd request driver).1 ≠ .success then []
    else
      match (referenceOutFence cmd request driver).1 with
      | .error _ => []
      | .ok outFence =>
          fetched request.command fun _ =>
            submitPages cmd request outFence driver

def virtioVgpuIoControl (processId : UInt32)
    (woken : VirglResource → VirglResource) (driver : Driver) :
    IoRequest → Program
  | .contextInit request => ctlInitVirglContext processId request driver
  | .destroyContext => ioctlDestroyContext processId driver
  | .resourceCreate request => ctlCreateResource processId request driver
  | .blobResourceCreate request =>
      ctlCreateBlobResource processId request driver
  | .resourceClose input => ctlCloseResource processId input driver
  | .wait request => ctlWait processId request driver
  | .map request => ctlMap processId request woken driver
  | .execbuffer request => ctlSubmitCommand processId request driver
  | .transferHost _ request => ctlTransferHost processId request driver

def processNotify (processId : UInt32) (driver : Driver) : Program :=
  getVirglContextFromList ++
    found (getVirglContextFromListUnsafe driver.virglContextList processId)
      ctlDestroyVirglContext

/-- `virtqueue_get_buf` under the lock of the queue, then the `switch`. -/
def completeBuffer (queue : Queue) (buffer : VgpuBuffer) : Program :=
  locked (.virtQueue queue) [] ++
    match buffer.pBuf.body with
    | .submit3d _ => freeVgpuMemory
    | _ => []

/-- The last call of `virtqueue_get_buf` finds no buffer. -/
def virtioVgpuReadFromQueue (driver : Driver) (queue : Queue) : Program :=
  ((driver.virtQueues queue).used.map Prod.fst).flatMap
    (completeBuffer queue) ++ locked (.virtQueue queue) []

end Irql

/-- Where the system enters the driver; the DPC serves the queue of its
message or all of them. -/
inductive EntryPoint
  | ioControl (processId : UInt32) (request : IoRequest)
      (woken : VirglResource → VirglResource)
  | getParams
  | getCaps (input : Fetch (UInt32 × UInt32)) (output : Fetch Nat)
  | unsupported
  | processNotify (processId : UInt32)
  | interruptDpc (queues : List Queue)

def EntryPoint.program (driver : Driver) : EntryPoint → Program
  | .ioControl processId request woken =>
      Irql.virtioVgpuIoControl processId woken driver request
  | .getParams => Irql.ctlGetParams driver
  | .getCaps input output => Irql.ctlGetCaps input output driver
  | .unsupported => []
  | .processNotify processId => Irql.processNotify processId driver
  | .interruptDpc queues =>
      queues.flatMap (Irql.virtioVgpuReadFromQueue driver)

end VgpuDriver
