import VgpuDriver.Control

namespace VgpuDriver

open Data

/-! The completion handler and the process callback of `vgpu.c`. -/

/-- What `MapBlobResourceCallback` writes into the resource. -/
def VirglResource.mapAt (size address : Nat) (resource : VirglResource) :
    VirglResource :=
  { resource with
    stateEvent := true
    buffer :=
      { resource.buffer with
        size := size
        memory :=
          { resource.buffer.memory with virtualAddress := address } } }

/-- `MapBlobResourceCallback`; `mapAddress` is the result of
`MmMapIoSpaceEx`. -/
def mapBlobResourceCallback (context : VirglContext) (id : UInt32)
    (size : Nat) (mapAddress : Option Nat) (driver : Driver) : Driver :=
  match getResourceFromListUnsafe context id with
  | none => driver
  | some resource =>
      match mapAddress with
      | none => driver
      | some address =>
          (driver.modifyContext context.id fun context =>
            context.modifyResource id
              (VirglResource.mapAt size address)).log
            (.ioMapped resource.serial address size)

/-- Set the resources idle that the completed command names. -/
def completeResources (ctxId : UInt32) (resourceIds : List UInt32)
    (fenceId : UInt64) (driver : Driver) : Driver :=
  match getVirglContextFromListUnsafe driver.virglContextList ctxId with
  | none => driver
  | some context =>
      driver.modifyContext context.id
        (updateResourceState resourceIds false fenceId)

/-- The `switch` of `VirtioVgpuReadFromQueue` on one buffer. -/
def completeBuffer (buffer : VgpuBuffer) (info : MapInfo)
    (mapAddress : Option Nat) (driver : Driver) : Driver :=
  match buffer.pBuf.body with
  | .getCapset _ _ | .getCapsetInfo _ => driver
  | .submit3d _ =>
      let idle :=
        match buffer.resourceIds with
        | none => driver
        | some resourceIds =>
            (completeResources buffer.pBuf.hdr.ctxId resourceIds
              buffer.pBuf.hdr.fenceId driver).log
              (.handlesFreed buffer.serial)
      let signaled :=
        match buffer.fenceObject with
        | none => idle
        | some object => idle.log (.objectSignaled object)
      freeCommandBuffer buffer
        (freePages buffer.pDataBuf buffer.dataBufSize signaled)
  | .resourceMapBlob resourceId =>
      freeCommandBuffer buffer
        (match getVirglContextFromListUnsafe driver.virglContextList
            buffer.pBuf.hdr.ctxId with
        | none => driver
        | some context =>
            mapBlobResourceCallback context resourceId info.size mapAddress
              driver)
  | .transferHost3d _ transfer =>
      freeCommandBuffer buffer
        (completeResources buffer.pBuf.hdr.ctxId [transfer.resourceId]
          buffer.pBuf.hdr.fenceId driver)
  | _ => freeCommandBuffer buffer driver

/-- `virtqueue_get_buf` takes the oldest returned buffer. -/
def takeUsed (queue : Queue) (rest : List (VgpuBuffer × MapInfo))
    (driver : Driver) : Driver :=
  { driver with
    virtQueues := fun other =>
      if other = queue then { driver.virtQueues other with used := rest }
      else driver.virtQueues other }

/-- One iteration of the loop of `VirtioVgpuReadFromQueue`. -/
def readOneFromQueue (queue : Queue) (mapAddress : Option Nat)
    (driver : Driver) : Driver :=
  match (driver.virtQueues queue).used with
  | [] => driver
  | (buffer, info) :: rest =>
      completeBuffer buffer info mapAddress (takeUsed queue rest driver)

/-- The whole loop; `mapAddresses` are the results of `MmMapIoSpaceEx` in its
iterations. -/
def virtioVgpuReadFromQueue (queue : Queue) (mapAddresses : Nat → Option Nat)
    (driver : Driver) : Driver :=
  (List.range (driver.virtQueues queue).used.length).foldl
    (fun driver iteration =>
      readOneFromQueue queue (mapAddresses iteration) driver)
    driver

variable (addBuf : Nat → Bool)

/-- `ProcessNotify` for a process that exits. -/
def processNotify (processId : UInt32) (driver : Driver) : Driver :=
  match getVirglContextFromListUnsafe driver.virglContextList processId with
  | none => driver
  | some context => ctlDestroyVirglContext addBuf context driver

end VgpuDriver
