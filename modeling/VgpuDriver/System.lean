import VgpuDriver.Data.Transition
import VgpuDriver.Vgpu

namespace VgpuDriver

open Data

/-! The driver together with its environment: processes send requests and
exit, the host takes commands from the queues and returns them, the DPC
completes what was returned.  Requests are handled one at a time. -/

/-- The host side: the RESOURCE_ATTACH_BACKING commands in force. -/
structure Host where
  backings : List VgpuBuffer
  deriving DecidableEq, Repr

structure World where
  driver : Driver
  host : Host

inductive Action
  | request (processId : UInt32) (request : IoRequest)
  | processExit (processId : UInt32)
  | host (queue : Queue) (slot : Nat) (info : MapInfo)
  | dpc (queue : Queue) (mapAddress : Option Nat)

/-- What the host does with a command as far as guest memory is concerned. -/
def Host.process (buffer : VgpuBuffer) (host : Host) : Host :=
  match buffer.pBuf.body with
  | .resourceAttachBacking _ _ _ =>
      { host with backings := buffer :: host.backings }
  | .resourceDetachBacking resourceId =>
      { host with
        backings := host.backings.filter fun backing =>
          match backing.pBuf.body with
          | .resourceAttachBacking attachedId _ _ => attachedId != resourceId
          | _ => true }
  | _ => host

namespace Driver

/-- The host takes the buffer at `slot` and returns it. -/
def returnBuffer (queue : Queue) (slot : Nat) (buffer : VgpuBuffer)
    (info : MapInfo) (driver : Driver) : Driver :=
  { driver with
    virtQueues := fun other =>
      if other = queue then
        { avail := (driver.virtQueues other).avail.eraseIdx slot
          used := (driver.virtQueues other).used ++ [(buffer, info)] }
      else driver.virtQueues other
    history := .processed queue buffer :: driver.history }

end Driver

namespace World

variable (addBuf : Nat → Bool)

def step (world : World) : Action → World
  | .request processId request =>
      { world with
        driver :=
          (virtioVgpuIoControl addBuf processId world.driver request).2 }
  | .processExit processId =>
      { world with driver := processNotify addBuf processId world.driver }
  | .host queue slot info =>
      match (world.driver.virtQueues queue).avail[slot]? with
      | none => world
      | some buffer =>
          { driver := world.driver.returnBuffer queue slot buffer info
            host := world.host.process buffer }
  | .dpc queue mapAddress =>
      { world with driver := readOneFromQueue queue mapAddress world.driver }

/-- The device after `VirtioVgpuDevicePrepareHardware` and capset discovery. -/
def start (virtualAddress physicalAddress memorySize : Nat)
    (capsets : Capsets) : World where
  driver :=
    { vgpuMemory := initializeVgpuMemory true virtualAddress physicalAddress
        memorySize VgpuMemory.zeroed
      virglContextList := []
      resourceIds := initializeIdr
      fenceIds := initializeIdr
      virtQueues := fun _ => { avail := [], used := [] }
      virglResourceLookAsideList := { free := [], taken := 0 }
      capsets := capsets
      pushCount := 0
      history := [] }
  host := { backings := [] }

end World

/-- A device that offers the capset with the id 1. -/
def Capsets.oneCapset : Capsets where
  initialized := true
  numCaps := 1
  data := [{ id := 1, maxVersion := 1, maxSize := 308 }]
  capsetIdMask := 2

def World.eightPages : World :=
  .start 0x10000 0x80000 0x8000 .oneCapset

/-- The host serves the queue in FIFO order. -/
def Action.IsFifo (queue : Queue) : Action → Prop
  | .host other slot _ => other = queue → slot = 0
  | _ => True

instance (queue : Queue) (action : Action) :
    Decidable (action.IsFifo queue) := by
  cases action <;> unfold Action.IsFifo <;> infer_instance

/-- The host returns the oldest commands, and the DPC completes them without
mapping anything. -/
def Action.serve (count : Nat) : List Action :=
  List.replicate count (.host .command 0 { gpa := 0, size := 0 }) ++
    List.replicate count (.dpc .command none)

/-! Requests whose system routines all succeed. -/

/-- A context for the capset with the id 1. -/
def plainInit : ContextInitRequest where
  input := .ok { numParams := 1 }
  params := .ok fun _ =>
    { param := contextParamCapsetId, compared := 1, shifted := 1, stored := 1 }
  contextBlock := true

namespace IoRequest

def initContext : IoRequest :=
  .contextInit plainInit

def resourceParam : ResourceCreateParam where
  target := 2
  format := 1
  bind := 2
  width := 16
  height := 16
  depth := 1
  arraySize := 1
  lastLevel := 0
  nrSamples := 0
  flags := 0

/-- A record as the pool may give it. -/
def poolRecord : VirglResource where
  id := 0
  stateEvent := false
  bForBuffer := false
  bForBlob := false
  fenceId := 0
  buffer :=
    { size := 0
      share :=
        { pMdl := none, size := 0, userAddress := none, kernelAddress := 0 }
      memory := { virtualAddress := 0, physicalAddress := 0 } }
  serial := 0

def create (size : UInt32) : IoRequest :=
  .resourceCreate
    { input := .ok { param := resourceParam, size := size }
      output := .ok ()
      record := .pool poolRecord }

def createBlobIn (record : LookAsideGrant VirglResource) : IoRequest :=
  .blobResourceCreate
    { input := .ok
        { blobMem := 2, blobFlags := 1, size := 0x1000, blobId := 5
          param := resourceParam }
      output := .ok ()
      record := record }

def close (handle : UInt32) : IoRequest :=
  .resourceClose (.ok { handle := handle })

def mapAt (handle : UInt32) (address : Nat) : IoRequest :=
  .map
    { input := .ok { handle := handle }
      output := .ok ()
      mdl := some 1
      userAddress := some (some address) }

def transfer (handle : UInt32) : IoRequest :=
  .transferHost true
    { input := .ok
        { boHandle := handle
          box := { x := 0, y := 0, z := 0, w := 16, h := 16, d := 1 }
          level := 0
          offset := 0
          stride := 0
          layerStride := 0 } }

/-- A submission of one page with an out-fence or without. -/
def submit (handles : List UInt32) (outFence : Option Nat) : IoRequest :=
  .execbuffer
    { input := .ok
        { flags := if outFence.isSome then execbufFenceFdOut else 0
          size := 64
          numBoHandles := UInt32.ofNat handles.length }
      inFence := .error .unsuccessful
      waitStatus := .success
      outFence :=
        match outFence with
        | some object => .ok object
        | none => .error .unsuccessful
      command := .ok ()
      handles := .ok fun slot =>
        { marked := handles.getD slot 0, copied := handles.getD slot 0 }
      handlesBlock := true }

end IoRequest

end VgpuDriver
