import VgpuDriver.Device

namespace VgpuDriver

open Data

/-! The command builders of `command.c`.  `addBuf` is the virtqueue library:
it tells for each call of `virtqueue_add_buf` since the start of the device
whether it returned 0. -/

variable (addBuf : Nat → Bool)

/-- `AllocateCommandBuffer`: the record and its `pBuf`, both of which the
driver asserts to get. -/
def allocateCommandBuffer (driver : Driver) : Driver :=
  driver.log (.bufferTaken driver.pushCount)

/-- `PushQueue`.  A buffer that is not accepted is not freed. -/
def pushQueue (queue : Queue) (buffer : VgpuBuffer) (driver : Driver) :
    NtStatus × Driver :=
  let accepted := addBuf driver.pushCount
  (if accepted then .success else .unsuccessful,
    { driver with
      virtQueues := fun other =>
        if other = queue ∧ accepted = true then
          { driver.virtQueues other with
            avail := (driver.virtQueues other).avail ++ [buffer] }
        else driver.virtQueues other
      pushCount := driver.pushCount + 1
      history :=
        if accepted then .pushed queue buffer :: driver.history
        else driver.history })

/-- The record of a command without data buffer. -/
def commandBuffer (hdr : CtrlHdr) (body : CommandBody) (serial : Nat) :
    VgpuBuffer where
  pBuf := { hdr := hdr, body := body }
  resourceIds := none
  pDataBuf := 0
  dataBufSize := 0
  dataElement := none
  fenceObject := none
  serial := serial

/-- Build a command without data buffer and push it; the builders drop the
status of `PushQueue`. -/
def sendCommand (queue : Queue) (hdr : CtrlHdr) (body : CommandBody)
    (driver : Driver) : Driver :=
  (pushQueue addBuf queue (commandBuffer hdr body driver.pushCount)
    (allocateCommandBuffer driver)).2

def createVirglContext (virglContextId contextInit : UInt32) :
    Driver → Driver :=
  sendCommand addBuf .control (ctrlHdr virglContextId 0)
    (.ctxCreate contextInit)

def destroyVirglContext (virglContextId : UInt32) : Driver → Driver :=
  sendCommand addBuf .control (ctrlHdr virglContextId 0) .ctxDestroy

def transferToHost2d (virglContextId : UInt32)
    (transfer : TransferHost2dParam) : Driver → Driver :=
  sendCommand addBuf .command (ctrlHdr virglContextId 0)
    (.transferToHost2d transfer)

def transferHost3d (virglContextId : UInt32)
    (transfer : TransferHost3dParam) (fenceId : UInt64) (toHost : Bool) :
    Driver → Driver :=
  sendCommand addBuf .command (ctrlHdr virglContextId fenceId)
    (.transferHost3d toHost transfer)

def create2dResource (virglContextId resourceId : UInt32)
    (create : ResourceCreateParam) (fenceId : UInt64) : Driver → Driver :=
  sendCommand addBuf .command (ctrlHdr virglContextId fenceId)
    (.resourceCreate2d resourceId create.format create.width create.height)

def create3dResource (virglContextId resourceId : UInt32)
    (create : ResourceCreateParam) (fenceId : UInt64) : Driver → Driver :=
  sendCommand addBuf .command (ctrlHdr virglContextId fenceId)
    (.resourceCreate3d resourceId create)

def createBlobResource (virglContextId resourceId : UInt32)
    (create : BlobResourceCreateParam) (fenceId : UInt64) :
    Driver → Driver :=
  sendCommand addBuf .command (ctrlHdr virglContextId fenceId)
    (.resourceCreateBlob resourceId create)

def mapBlobResource (virglContextId resourceId : UInt32) (fenceId : UInt64) :
    Driver → Driver :=
  sendCommand addBuf .command (ctrlHdr virglContextId fenceId)
    (.resourceMapBlob resourceId)

def unMapBlobResource (virglContextId resourceId : UInt32)
    (fenceId : UInt64) : Driver → Driver :=
  sendCommand addBuf .command (ctrlHdr virglContextId fenceId)
    (.resourceUnmapBlob resourceId)

/-- The size is cast to `ULONG32`. -/
def attachResourceBacking (virglContextId : UInt32)
    (resource : VirglResource) : Driver → Driver :=
  sendCommand addBuf .command (ctrlHdr virglContextId 0)
    (.resourceAttachBacking resource.id resource.buffer.memory.physicalAddress
      (UInt32.ofNat resource.buffer.size))

/-- The header keeps the context id 0. -/
def detachResourceBacking (resource : VirglResource) : Driver → Driver :=
  sendCommand addBuf .command (ctrlHdr 0 0)
    (.resourceDetachBacking resource.id)

def attachResource (virglContextId resourceId : UInt32) : Driver → Driver :=
  sendCommand addBuf .command (ctrlHdr virglContextId 0)
    (.ctxAttachResource resourceId)

def detachResource (virglContextId resourceId : UInt32) : Driver → Driver :=
  sendCommand addBuf .command (ctrlHdr virglContextId 0)
    (.ctxDetachResource resourceId)

def unrefResource (virglContextId resourceId : UInt32) : Driver → Driver :=
  sendCommand addBuf .command (ctrlHdr virglContextId 0)
    (.resourceUnref resourceId)

/-- The record of a SUBMIT_3D. -/
def submitBuffer (virglContextId : UInt32) (command : MemoryDescriptor)
    (commandBufSize : Nat) (commandSize : UInt32)
    (resourceIds : Option (List UInt32)) (fenceId : UInt64)
    (fenceObject : Option Nat) (serial : Nat) : VgpuBuffer where
  pBuf :=
    { hdr := ctrlHdr virglContextId fenceId
      body := .submit3d commandSize }
  resourceIds := resourceIds
  pDataBuf := command.virtualAddress
  dataBufSize := commandBufSize
  -- the pages of the vgpu memory are contiguous
  dataElement := some
    { start := command.physicalAddress, length := commandSize.toNat }
  fenceObject := fenceObject
  serial := serial

def submitCommand (virglContextId : UInt32) (command : MemoryDescriptor)
    (commandBufSize : Nat) (commandSize : UInt32)
    (resourceIds : Option (List UInt32)) (fenceId : UInt64)
    (fenceObject : Option Nat) (driver : Driver) : NtStatus × Driver :=
  pushQueue addBuf .command
    (submitBuffer virglContextId command commandBufSize commandSize
      resourceIds fenceId fenceObject driver.pushCount)
    (allocateCommandBuffer driver)

/-- `FreeCommandBuffer` -/
def freeCommandBuffer (buffer : VgpuBuffer) (driver : Driver) : Driver :=
  driver.log (.bufferFreed buffer.serial)

end VgpuDriver
