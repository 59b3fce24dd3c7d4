import VgpuDriver.CommandBuilders
import VgpuDriver.Ioctl

namespace VgpuDriver

open Data

/-! The handlers of `control.c`.  The process id is the context id.  Debug
output and `ASSERT` are left out. -/

variable (addBuf : Nat → Bool)

def maxCapsetId : UInt64 := 63

/-- `VIRTGPU_CONTEXT_PARAM_CAPSET_ID` -/
def contextParamCapsetId : UInt64 := 1

/-- `mask & (1LL << value)`; the processor takes the shift count modulo 64. -/
def capsetAllowed (mask value : UInt64) : Bool :=
  (mask &&& ((1 : UInt64) <<< (value % 64))) != 0

/-- The variables of the parameter loop; the ghost `values` holds what was
ORed into `contextInit`. -/
structure ContextInitLoop where
  status : NtStatus
  contextInit : UInt32
  values : List UInt64

/-- One iteration. -/
def contextInitParam (mask : UInt64) (loop : ContextInitLoop)
    (read : ContextParamRead) : ContextInitLoop :=
  if read.param = contextParamCapsetId then
    if read.compared > maxCapsetId then
      { loop with status := .unsuccessful }
    else if !capsetAllowed mask read.shifted then
      { loop with status := .unsuccessful }
    else
      { loop with
        contextInit := loop.contextInit ||| read.stored.toUInt32
        values := loop.values ++ [read.stored] }
  else { loop with status := .unsuccessful }

def contextInitParams (mask : UInt64) (reads : List ContextParamRead) :
    ContextInitLoop :=
  reads.foldl (contextInitParam mask)
    { status := .success, contextInit := 0, values := [] }

def ctlInitVirglContext (contextId : UInt32) (request : ContextInitRequest)
    (driver : Driver) : Reply × Driver :=
  match getVirglContextFromListUnsafe driver.virglContextList contextId with
  | some _ => (.complete .unsuccessful none, driver)
  | none =>
      request.input.andThen driver fun init =>
      request.params.andThen driver fun params =>
        let loop := contextInitParams driver.capsets.capsetIdMask
          ((List.range init.numParams.toNat).map params)
        if loop.status ≠ .success then (.complete loop.status none, driver)
        else if !request.contextBlock then
          (.complete .insufficientResources none, driver)
        else
          (.complete .success none,
            createVirglContext addBuf contextId loop.contextInit
              { driver with
                virglContextList :=
                  { id := contextId, resourceList := [] } ::
                    driver.virglContextList })

/-- `DeleteUserShareMemory`: the descriptor is left as it is. -/
def deleteUserShareMemory (resource : VirglResource) (driver : Driver) :
    Driver :=
  match resource.buffer.share.userAddress, resource.buffer.share.pMdl with
  | some userAddress, some mdl =>
      driver.log (.userUnmapped resource.serial userAddress mdl)
  | _, _ => driver

/-- `FreeVgpuMemory` on the memory of the driver. -/
def freePages (virtualAddress size : Nat) (driver : Driver) : Driver :=
  { driver with
    vgpuMemory := freeVgpuMemory virtualAddress size driver.vgpuMemory }

def deleteResource (contextId : UInt32) (resource : VirglResource)
    (driver : Driver) : Driver :=
  unrefResource addBuf contextId resource.id
    (if resource.bForBuffer then
      let driver :=
        if resource.buffer.share.pMdl.isSome then
          deleteUserShareMemory resource driver
        else driver
      if resource.bForBlob then
        (unMapBlobResource addBuf contextId resource.id 0 driver).log
          (.ioUnmapped resource.serial
            resource.buffer.memory.virtualAddress resource.buffer.size)
      else
        freePages resource.buffer.memory.virtualAddress resource.buffer.size
          ((detachResourceBacking addBuf resource driver).log
            (.unbacked resource.serial driver.pushCount))
    else driver)

/-- `DeleteResource` and the release of the record. -/
def deleteAndRelease (contextId : UInt32) (driver : Driver)
    (resource : VirglResource) : Driver :=
  (deleteResource addBuf contextId resource driver).releaseRecord resource

/-- The loop takes the resources from the tail of the list. -/
def ctlDestroyVirglContext (context : VirglContext) (driver : Driver) :
    Driver :=
  destroyVirglContext addBuf context.id
    (context.resourceList.reverse.foldl (deleteAndRelease addBuf context.id)
      { driver with
        virglContextList := driver.virglContextList.eraseP fun other =>
          decide (other.id = context.id) })

/-- `IOCTL_VIRTIO_VGPU_DESTROY_CONTEXT` -/
def ioctlDestroyContext (contextId : UInt32) (driver : Driver) :
    Reply × Driver :=
  match getVirglContextFromListUnsafe driver.virglContextList contextId with
  | none => (.complete .unsuccessful none, driver)
  | some context =>
      (.complete .success none, ctlDestroyVirglContext addBuf context driver)

/-- The size of the backing of a plain resource. -/
def resourceBufferSize (size : UInt32) : Nat :=
  if size = 0 then pageSize else (roundUp size 0x1000).toNat

/-- Take the record off the lookaside list and draw the id. -/
def takeRecord (records : LookAsideList VirglResource) (driver : Driver) :
    Driver :=
  { driver with
    virglResourceLookAsideList := records
    resourceIds := (getIdFromIdrWithoutCache 4 driver.resourceIds).2 }

/-- The id that the next resource gets. -/
def nextResourceId (driver : Driver) : UInt32 :=
  UInt32.ofNat (getIdFromIdrWithoutCache 4 driver.resourceIds).1

/-- The record as `CtlCreateResource` fills it, without the backing. -/
def nameResource (create : DrmVirtgpuResourceCreate) (driver : Driver)
    (record : VirglResource) : VirglResource :=
  { record with
    id := nextResourceId driver
    fenceId := 0
    stateEvent := true
    serial := driver.pushCount
    -- size 1 asks for a resource without buffer
    bForBuffer := create.size != 1
    bForBlob := false }

/-- The record with the backing that `AllocateVgpuMemory` gave. -/
def giveBacking (size : Nat) (memory : MemoryDescriptor)
    (resource : VirglResource) : VirglResource :=
  { resource with
    buffer :=
      { size := size
        share := { resource.buffer.share with pMdl := none }
        memory := memory } }

def backingOf (contextId : UInt32) (resource : VirglResource) : Backing where
  serial := resource.serial
  ctxId := contextId
  resourceId := resource.id
  memory := resource.buffer.memory
  size := resource.buffer.size

/-- Account for the pages of the backing. -/
def grantBacking (contextId : UInt32) (resource : VirglResource)
    (vgpuMemory : VgpuMemory) (driver : Driver) : Driver :=
  { driver with
    vgpuMemory := vgpuMemory
    history :=
      .backed (backingOf contextId resource) ::
        .granted resource.serial resource.buffer.memory
          resource.buffer.size :: driver.history }

/-- `CtlCreateResource` from the allocation of the record on. -/
def createResource (context : VirglContext)
    (create : DrmVirtgpuResourceCreate) (grant : LookAsideGrant VirglResource)
    (driver : Driver) : Reply × Driver :=
  match exAllocateFromLookasideListEx grant
      driver.virglResourceLookAsideList with
  | none => (.complete .insufficientResources none, driver)
  | some (record, records) =>
      let named := nameResource create driver record
      let created := create3dResource addBuf context.id named.id create.param 0
        (takeRecord records driver)
      if named.bForBuffer then
        let size := resourceBufferSize create.size
        match allocateVgpuMemory size created.vgpuMemory with
        | none => (.complete .insufficientResources none, created)
        | some (memory, vgpuMemory) =>
            let resource := giveBacking size memory named
            (.complete .success (some resource.id.toNat),
              (attachResourceBacking addBuf context.id resource
                (grantBacking context.id resource vgpuMemory
                  created)).insertResource context.id resource)
      else
        (.complete .success (some named.id.toNat),
          created.insertResource context.id named)

def ctlCreateResource (contextId : UInt32) (request : ResourceCreateRequest)
    (driver : Driver) : Reply × Driver :=
  request.input.andThen driver fun create =>
  request.output.andThen driver fun _ =>
    match getVirglContextFromListUnsafe driver.virglContextList contextId with
    | none => (.complete .unsuccessful none, driver)
    | some context =>
        createResource addBuf context create request.record driver

/-- The record as `CtlCreateBlobResource` fills it. -/
def nameBlob (driver : Driver) (record : VirglResource) : VirglResource :=
  { record with
    bForBlob := true
    bForBuffer := true
    -- only this field of the buffer is initialised
    buffer :=
      { record.buffer with
        share := { record.buffer.share with pMdl := none } }
    fenceId := 0
    id := nextResourceId driver
    stateEvent := false
    serial := driver.pushCount }

/-- The parameters of the RESOURCE_CREATE_BLOB. -/
def blobParam (create : DrmVirtgpuResourceCreateBlob) :
    BlobResourceCreateParam where
  blobMem := create.blobMem
  blobFlags := create.blobFlags
  nrEntries := 0
  blobId := create.blobId
  size := roundUp create.size 0x1000
  param := create.param

/-- `CtlCreateBlobResource` from the allocation of the record on. -/
def createBlob (context : VirglContext)
    (create : DrmVirtgpuResourceCreateBlob)
    (grant : LookAsideGrant VirglResource) (driver : Driver) :
    Reply × Driver :=
  match exAllocateFromLookasideListEx grant
      driver.virglResourceLookAsideList with
  | none => (.complete .insufficientResources none, driver)
  | some (record, records) =>
      let resource := nameBlob driver record
      let created := createBlobResource addBuf context.id resource.id
        (blobParam create) 0 (takeRecord records driver)
      (.complete .success (some resource.id.toNat),
        mapBlobResource addBuf context.id resource.id 0
          (created.insertResource context.id resource))

def ctlCreateBlobResource (contextId : UInt32)
    (request : BlobResourceCreateRequest) (driver : Driver) :
    Reply × Driver :=
  request.input.andThen driver fun create =>
  request.output.andThen driver fun _ =>
    match getVirglContextFromListUnsafe driver.virglContextList contextId with
    | none => (.complete .unsuccessful none, driver)
    | some context =>
        createBlob addBuf context create request.record driver

def ctlCloseResource (contextId : UInt32) (input : Fetch DrmGemClose)
    (driver : Driver) : Reply × Driver :=
  input.andThen driver fun close =>
    match getVirglContextFromListUnsafe driver.virglContextList contextId with
    | none => (.complete .unsuccessful none, driver)
    | some context =>
        match getResourceFromListUnsafe context close.handle with
        | none => (.complete .unsuccessful none, driver)
        | some resource =>
            (.complete .success none,
              deleteAndRelease addBuf context.id
                (driver.removeResource context.id close.handle) resource)

def ctlWait (contextId : UInt32) (request : WaitRequest) (driver : Driver) :
    Reply × Driver :=
  request.input.andThen driver fun cmd =>
  request.output.andThen driver fun _ =>
    match getVirglContextFromListUnsafe driver.virglContextList contextId with
    | none => (.complete .unsuccessful none, driver)
    | some context =>
        match getResourceFromListUnsafe context cmd.handle with
        | none => (.complete .unsuccessful none, driver)
        | some resource =>
            if cmd.flags &&& waitNowait ≠ 0 then
              (.complete .success
                (some (if resource.stateEvent then 0 else 1)), driver)
            else if resource.stateEvent then
              (.complete .success (some 0), driver)
            else (.waiting resource.serial, driver)

/-- The MDL that `IoAllocateMdl` makes for the memory, when it gets the number
of one. -/
def ioAllocateMdl (mdl : Option Nat) (address length : Nat) : Option Mdl :=
  mdl.map fun number =>
    { number := number, address := address, byteCount := length }

/-- `CreateUserShareMemory`: the descriptor after the call, and whether it
succeeded. -/
def createUserShareMemory (mdl : Option Nat)
    (userAddress : Option (Option Nat)) (share : ShareDescriptor) :
    Bool × ShareDescriptor :=
  if share.kernelAddress = 0 ∨ share.size = 0 then (false, share)
  else
    match ioAllocateMdl mdl share.kernelAddress (toUlong share.size) with
    | none => (false, { share with pMdl := none })
    | some mdl =>
        match userAddress with
        | none => (false, { share with pMdl := some mdl })
        | some none =>
            (false, { share with pMdl := some mdl, userAddress := none })
        | some (some address) =>
            (true,
              { share with pMdl := some mdl, userAddress := some address })

/-- The part of `CtlMap` behind the wait. -/
def mapResource (contextId : UInt32) (resource : VirglResource)
    (request : MapRequest) (driver : Driver) : Reply × Driver :=
  let result := createUserShareMemory request.mdl request.userAddress
    { resource.buffer.share with
      kernelAddress := resource.buffer.memory.virtualAddress
      size := resource.buffer.size }
  let share :=
    if result.1 then result.2 else { result.2 with pMdl := none }
  let shared := driver.log
    (.shared resource.serial resource.buffer.memory.virtualAddress
      resource.buffer.size)
  let stored := shared.modifyContext contextId fun context =>
    context.modifyResource resource.id fun resource =>
      { resource with buffer := { resource.buffer with share := share } }
  match result.1, share.userAddress, share.pMdl with
  | true, some address, some mdl =>
      (.complete .success (some address),
        stored.log (.userMapped resource.serial address mdl))
  | _, _, _ => (.complete .unsuccessful none, stored)

def ctlMap (contextId : UInt32) (request : MapRequest) (driver : Driver) :
    Reply × Driver :=
  request.input.andThen driver fun cmd =>
  request.output.andThen driver fun _ =>
    match getVirglContextFromListUnsafe driver.virglContextList contextId with
    | none => (.complete .unsuccessful none, driver)
    | some context =>
        match getResourceFromListUnsafe context cmd.handle with
        | none => (.complete .unsuccessful none, driver)
        | some resource =>
            if !resource.bForBuffer then
              (.complete .unsuccessful none, driver)
            else if resource.buffer.share.pMdl.isSome then
              (.complete .success resource.buffer.share.userAddress, driver)
            else if !resource.stateEvent then
              (.waiting resource.serial, driver)
            else mapResource context.id resource request driver

def ctlTransferHost (contextId : UInt32) (toHost : Bool)
    (request : TransferRequest) (driver : Driver) : Reply × Driver :=
  request.input.andThen driver fun cmd =>
    match getVirglContextFromListUnsafe driver.virglContextList contextId with
    | none => (.complete .unsuccessful none, driver)
    | some context =>
        match getResourceFromListUnsafe context cmd.boHandle with
        | none => (.complete .unsuccessful none, driver)
        | some resource =>
            (.complete .success none,
              transferHost3d addBuf context.id
                { box := cmd.box
                  offset := cmd.offset.toUInt64
                  resourceId := resource.id
                  level := cmd.level
                  stride := cmd.stride
                  layerStride := cmd.layerStride } 0 toHost
                (driver.modifyContext context.id
                  (updateResourceState [resource.id] true 0)))

/-- The in-fence: referenced and waited for, never dereferenced. -/
def waitInFence (cmd : DrmVirtgpuExecbuffer) (request : ExecbufferRequest)
    (driver : Driver) : NtStatus × Driver :=
  if cmd.flags &&& execbufFenceFdIn ≠ 0 then
    match request.inFence with
    | .error status => (status, driver)
    | .ok object =>
        (request.waitStatus, driver.log (.objectReferenced object))
  else (.success, driver)

/-- The out-fence: `none` when the caller asks for none. -/
def referenceOutFence (cmd : DrmVirtgpuExecbuffer)
    (request : ExecbufferRequest) (driver : Driver) :
    Except NtStatus (Option Nat) × Driver :=
  if cmd.flags &&& execbufFenceFdOut ≠ 0 then
    match request.outFence with
    | .error status => (.error status, driver)
    | .ok object => (.ok (some object), driver.log (.objectReferenced object))
  else (.ok none, driver)

/-- A fence id is drawn only for an out-fence, otherwise it is 0. -/
def drawFenceId (outFence : Option Nat) (driver : Driver) :
    UInt64 × Driver :=
  match outFence with
  | none => (0, driver)
  | some _ =>
      let drawn := getIdFromIdrWithoutCache 8 driver.fenceIds
      (UInt64.ofNat drawn.1, { driver with fenceIds := drawn.2 })

/-- Account for the pages of the command, into which `copied` bytes go. -/
def grantCommand (memory : MemoryDescriptor) (size copied : Nat)
    (vgpuMemory : VgpuMemory) (driver : Driver) : Driver :=
  { driver with
    vgpuMemory := vgpuMemory
    history :=
      .copied memory.virtualAddress copied ::
        .granted driver.pushCount memory size :: driver.history }

/-- What the loop that marks the resources reads from the handle array. -/
def markedIds (cmd : DrmVirtgpuExecbuffer) (reads : Nat → HandleRead) :
    List UInt32 :=
  (List.range cmd.numBoHandles.toNat).map fun slot => (reads slot).marked

/-- What the copy of the handle array holds. -/
def copiedIds (cmd : DrmVirtgpuExecbuffer) (reads : Nat → HandleRead) :
    List UInt32 :=
  (List.range cmd.numBoHandles.toNat).map fun slot => (reads slot).copied

/-- `CtlSubmitCommand` from the allocation of the command pages on. -/
def submitPages (context : VirglContext) (cmd : DrmVirtgpuExecbuffer)
    (request : ExecbufferRequest) (outFence : Option Nat)
    (driver : Driver) : Reply × Driver :=
  let size := (roundUp cmd.size 0x1000).toNat
  match allocateVgpuMemory size driver.vgpuMemory with
  | none => (.complete .unsuccessful none, driver)
  | some (memory, vgpuMemory) =>
      let fenced := drawFenceId outFence
        (grantCommand memory size cmd.size.toNat vgpuMemory driver)
      if cmd.numBoHandles > 0 then
        request.handles.andThen fenced.2 fun reads =>
          let marked := fenced.2.modifyContext context.id
            (updateResourceState (markedIds cmd reads) true fenced.1)
          if !request.handlesBlock then
            (.complete .insufficientResources none, marked)
          else
            let result := submitCommand addBuf context.id memory size cmd.size
              (some (copiedIds cmd reads)) fenced.1 outFence
              (marked.log (.handlesTaken marked.pushCount))
            (.complete result.1 none, result.2)
      else
        let result := submitCommand addBuf context.id memory size cmd.size
          none fenced.1 outFence fenced.2
        (.complete result.1 none, result.2)

def ctlSubmitCommand (contextId : UInt32) (request : ExecbufferRequest)
    (driver : Driver) : Reply × Driver :=
  request.input.andThen driver fun cmd =>
    match getVirglContextFromListUnsafe driver.virglContextList contextId with
    | none => (.complete .unsuccessful none, driver)
    | some context =>
        let waited := waitInFence cmd request driver
        if waited.1 ≠ .success then (.complete waited.1 none, waited.2)
        else
          match referenceOutFence cmd request waited.2 with
          | (.error status, driver) => (.complete status none, driver)
          | (.ok outFence, driver) =>
              request.command.andThen driver fun _ =>
                submitPages addBuf context cmd request outFence driver

/-- The dispatch of `VirtioVgpuIoControl` to the handlers above. -/
def virtioVgpuIoControl (processId : UInt32) (driver : Driver) :
    IoRequest → Reply × Driver
  | .contextInit request =>
      ctlInitVirglContext addBuf processId request driver
  | .destroyContext => ioctlDestroyContext addBuf processId driver
  | .resourceCreate request =>
      ctlCreateResource addBuf processId request driver
  | .blobResourceCreate request =>
      ctlCreateBlobResource addBuf processId request driver
  | .resourceClose input => ctlCloseResource addBuf processId input driver
  | .wait request => ctlWait processId request driver
  | .map request => ctlMap processId request driver
  | .execbuffer request => ctlSubmitCommand addBuf processId request driver
  | .transferHost toHost request =>
      ctlTransferHost addBuf processId toHost request driver

end VgpuDriver
