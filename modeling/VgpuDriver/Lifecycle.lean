import VgpuDriver.Data.Custody
import VgpuDriver.Data.Transition

namespace VgpuDriver

open Data

/-! What the PnP and power callbacks of `vgpu.c` acquire and give back, with
their failures.  The framework owns the spin locks, which it deletes with the
device. -/

/-- `IDR_MAX_SIZE` -/
def idrMaxSize : Nat := 2

/-- The lookaside lists of the device and of the id types. -/
inductive LookAsideHeader
  | virglResource
  | vgpuBuffer
  | idr (type : Nat)
  deriving DecidableEq, Repr

/-- A pool block is told by its pointer, which no block has that is NULL. -/
inductive PnpAsset
  | pool (block : Option Nat)
  | contiguous (block : Option Nat)
  | lookAside (list : LookAsideHeader)
  | processNotify
  | virtIODevice
  | virtIOQueues
  deriving DecidableEq, Repr

/-- The fields of the device context, of `Capsets` and of `VgpuMemory` that
the callbacks set, and the ghosts `custody`, `nextBlock` and `notified`, which
tells whether `ProcessNotify` is registered. -/
structure PnpDevice where
  custody : Custody PnpAsset
  nextBlock : Nat
  numVirtQueues : Nat
  virtQueues : Option Nat
  virtQueueLocks : Option Nat
  capsetsData : Option Nat
  vgpuMemoryAddress : Option Nat
  regionBitmapBuffer : Option Nat
  bInitialize : Bool
  notified : Bool
  deriving DecidableEq, Repr

/-- What the calls in `VirtioVgpuDevicePrepareHardware` return. -/
structure PrepareResults where
  virtIOWdfInitialize : Bool
  numQueues : UInt8
  virtQueues : Bool
  virtQueueLocks : Bool
  capsetsData : Bool
  vgpuMemory : Bool
  regionBitmap : Bool
  wdfSpinLockCreate : Nat → Bool
  psSetCreateProcessNotifyRoutine : Bool

/-- What the calls in `VirtioVgpuDeviceD0Entry` return. -/
structure D0EntryResults where
  params : Bool
  virtIOWdfInitQueues : Bool

namespace PnpDevice

def acquire (asset : PnpAsset) (device : PnpDevice) : PnpDevice :=
  { device with custody := device.custody.acquire asset }

def release (asset : PnpAsset) (device : PnpDevice) : PnpDevice :=
  { device with custody := device.custody.release asset }

def use (asset : PnpAsset) (device : PnpDevice) : PnpDevice :=
  { device with custody := device.custody.use asset }

def exAllocatePool2 (granted : Bool) (device : PnpDevice) :
    Option Nat × PnpDevice :=
  if granted then
    (some device.nextBlock,
      { device.acquire (.pool (some device.nextBlock)) with
        nextBlock := device.nextBlock + 1 })
  else (none, device)

def exFreePoolWithTag (block : Option Nat) (device : PnpDevice) :
    PnpDevice :=
  device.release (.pool block)

def mmAllocateContiguousMemory (granted : Bool) (device : PnpDevice) :
    Option Nat × PnpDevice :=
  if granted then
    (some device.nextBlock,
      { device.acquire (.contiguous (some device.nextBlock)) with
        nextBlock := device.nextBlock + 1 })
  else (none, device)

def initializeVgpuMemory (granted : Bool) (device : PnpDevice) : PnpDevice :=
  let buffer := exAllocatePool2 granted device
  { buffer.2 with
    regionBitmapBuffer := buffer.1
    -- without the buffer the function returns early
    bInitialize := device.bInitialize || buffer.1.isSome }

def uninitializeVgpuMemory (device : PnpDevice) : PnpDevice :=
  { device.exFreePoolWithTag device.regionBitmapBuffer with
    regionBitmapBuffer := none
    bInitialize := false }

def initializeIdr (device : PnpDevice) : PnpDevice :=
  (List.range idrMaxSize).foldl
    (fun device type => device.acquire (.lookAside (.idr type))) device

def unInitializeIdr (device : PnpDevice) : PnpDevice :=
  (List.range idrMaxSize).foldl
    (fun device type => device.release (.lookAside (.idr type))) device

/-- One iteration of the loop over `WdfSpinLockCreate`, which stores the lock
through `VirtQueueLocks`. -/
def createSpinLock (created : Nat → Bool) (state : Bool × PnpDevice)
    (index : Nat) : Bool × PnpDevice :=
  if state.1 then
    (created index, state.2.use (.pool state.2.virtQueueLocks))
  else state

def createSpinLocks (created : Nat → Bool) (device : PnpDevice) :
    Bool × PnpDevice :=
  (List.range device.numVirtQueues).foldl (createSpinLock created)
    (true, device)

/-- `VirtioVgpuDevicePrepareHardware` from `VirtIOWdfInitialize` to
`MmAllocateContiguousMemory`. -/
def allocateHardware (results : PrepareResults) (device : PnpDevice) :
    PnpDevice :=
  let device :=
    { device.acquire .virtIODevice with
      numVirtQueues := results.numQueues.toNat }
  let queues := device.exAllocatePool2 results.virtQueues
  let device := { queues.2 with virtQueues := queues.1 }
  let locks := device.exAllocatePool2 results.virtQueueLocks
  let device := { locks.2 with virtQueueLocks := locks.1 }
  let capsets := device.exAllocatePool2 results.capsetsData
  let device := { capsets.2 with capsetsData := capsets.1 }
  let memory := device.mmAllocateContiguousMemory results.vgpuMemory
  { memory.2 with vgpuMemoryAddress := memory.1 }

/-- `PsSetCreateProcessNotifyRoutine` with `Remove` cleared. -/
def registerNotify (registered : Bool) (device : PnpDevice) : PnpDevice :=
  if registered then
    { device.acquire .processNotify with notified := true }
  else device

/-- The callback from `PsSetCreateProcessNotifyRoutine` on, whose status it
drops. -/
def startServices (registered : Bool) (device : PnpDevice) : PnpDevice :=
  ((initializeIdr (device.registerNotify registered)).acquire
    (.lookAside .virglResource)).acquire (.lookAside .vgpuBuffer)

def virtioVgpuDevicePrepareHardware (results : PrepareResults)
    (device : PnpDevice) : Bool × PnpDevice :=
  if !results.virtIOWdfInitialize then (false, device)
  else
    let device := device.allocateHardware results
    if device.vgpuMemoryAddress.isNone then (false, device)
    else
      let locked := createSpinLocks results.wdfSpinLockCreate
        (device.initializeVgpuMemory results.regionBitmap)
      if locked.1 then
        (true,
          locked.2.startServices results.psSetCreateProcessNotifyRoutine)
      else (false, locked.2)

/-- Free the block and clear the pointer, unless it is NULL. -/
def freePointer (pointer : Option Nat) (clear : PnpDevice → PnpDevice)
    (device : PnpDevice) : PnpDevice :=
  if pointer.isSome then clear (device.exFreePoolWithTag pointer) else device

def freeVirtQueues (device : PnpDevice) : PnpDevice :=
  device.freePointer device.virtQueues fun device =>
    { device with virtQueues := none }

def freeVirtQueueLocks (device : PnpDevice) : PnpDevice :=
  device.freePointer device.virtQueueLocks fun device =>
    { device with virtQueueLocks := none }

def freeCapsets (device : PnpDevice) : PnpDevice :=
  device.freePointer device.capsetsData fun device =>
    { device with capsetsData := none }

/-- `VgpuMemoryAddress` keeps its value. -/
def freeVgpuMemory (device : PnpDevice) : PnpDevice :=
  if device.vgpuMemoryAddress.isSome then
    device.uninitializeVgpuMemory.release
      (.contiguous device.vgpuMemoryAddress)
  else device

/-- `VirtioVgpuDeviceReleaseHardware` up to `MmFreeContiguousMemory`. -/
def freeHardware (device : PnpDevice) : PnpDevice :=
  device.freeVirtQueues.freeVirtQueueLocks.freeCapsets.freeVgpuMemory

/-- `PsSetCreateProcessNotifyRoutine` with `Remove` set. -/
def removeNotify (device : PnpDevice) : PnpDevice :=
  { device.release .processNotify with notified := false }

/-- The callback from `UnInitializeIdr` on. -/
def stopServices (device : PnpDevice) : PnpDevice :=
  (removeNotify (((unInitializeIdr device).release
    (.lookAside .virglResource)).release (.lookAside .vgpuBuffer))).release
      .virtIODevice

def virtioVgpuDeviceReleaseHardware (device : PnpDevice) : PnpDevice :=
  device.freeHardware.stopServices

def virtioVgpuDeviceD0Entry (results : D0EntryResults)
    (device : PnpDevice) : Bool × PnpDevice :=
  if device.numVirtQueues = 0 then (false, device)
  else
    let params := device.exAllocatePool2 results.params
    if params.1.isNone then (false, params.2)
    else
      -- `VirtIOWdfInitQueues` stores the queues through `VirtQueues`
      let device := params.2.use (.pool params.2.virtQueues)
      let device :=
        if results.virtIOWdfInitQueues then device.acquire .virtIOQueues
        else device
      (results.virtIOWdfInitQueues, device.exFreePoolWithTag params.1)

def virtioVgpuDeviceD0Exit (device : PnpDevice) : PnpDevice :=
  device.release .virtIOQueues

end PnpDevice

/-- Where the device is; `failed` tells whether the failed
`VirtioVgpuDevicePrepareHardware` got past `VirtIOWdfInitialize`. -/
inductive PnpPhase
  | removed
  | failed (initialized : Bool)
  | prepared
  | working
  deriving DecidableEq, Repr

structure PnpWorld where
  phase : PnpPhase
  device : PnpDevice

/-- The calls of the framework.  After a failure it releases the hardware or
gives the device up. -/
inductive PnpAction
  | prepareHardware (results : PrepareResults)
  | d0Entry (results : D0EntryResults)
  | d0Exit
  | releaseHardware
  | giveUp

namespace PnpWorld

def step (world : PnpWorld) : PnpAction → PnpWorld
  | .prepareHardware results =>
      match world.phase with
      | .removed =>
          let prepared :=
            world.device.virtioVgpuDevicePrepareHardware results
          { phase :=
              if prepared.1 then .prepared
              else .failed results.virtIOWdfInitialize
            device := prepared.2 }
      | _ => world
  | .d0Entry results =>
      match world.phase with
      | .prepared =>
          let entered := world.device.virtioVgpuDeviceD0Entry results
          { phase := if entered.1 then .working else .prepared
            device := entered.2 }
      | _ => world
  | .d0Exit =>
      match world.phase with
      | .working =>
          { phase := .prepared
            device := world.device.virtioVgpuDeviceD0Exit }
      | _ => world
  | .releaseHardware =>
      match world.phase with
      | .prepared | .failed _ =>
          { phase := .removed
            device := world.device.virtioVgpuDeviceReleaseHardware }
      | _ => world
  | .giveUp =>
      match world.phase with
      | .failed _ => { world with phase := .removed }
      | _ => world

/-- The device as `VirtioVgpuDeviceAdd` leaves it. -/
def start : PnpWorld where
  phase := .removed
  device :=
    { custody := .empty
      nextBlock := 0
      numVirtQueues := 0
      virtQueues := none
      virtQueueLocks := none
      capsetsData := none
      vgpuMemoryAddress := none
      regionBitmapBuffer := none
      bInitialize := false
      notified := false }

/-- Nothing was used, acquired or released out of turn, and nothing is left
of a removed device. -/
def Balanced (world : PnpWorld) : Prop :=
  world.device.custody.misused = [] ∧
    (world.phase = .removed → world.device.custody.held = [])

end PnpWorld

/-! What each call does to the custody. -/

/-- The asset that a pointer stands for. -/
def blockOf (kind : Option Nat → PnpAsset) (pointer : Option Nat) :
    List PnpAsset :=
  if pointer.isSome then [kind pointer] else []

theorem blockOf_of_isSome {pointer : Option Nat}
    (kind : Option Nat → PnpAsset) (hpointer : pointer.isSome = true) :
    blockOf kind pointer = [kind pointer] :=
  if_pos hpointer

/-- The asset is no block, or a block that has been allocated. -/
def PnpAsset.Below (count : Nat) : PnpAsset → Prop
  | .pool block | .contiguous block => ∃ index ∈ block, index < count
  | _ => True

theorem PnpAsset.Below.mono {asset : PnpAsset} {few many : Nat}
    (h : asset.Below few) (hle : few ≤ many) : asset.Below many := by
  unfold PnpAsset.Below at *
  split
  · obtain ⟨index, hindex, hlt⟩ := h
    exact ⟨index, hindex, Nat.lt_of_lt_of_le hlt hle⟩
  · obtain ⟨index, hindex, hlt⟩ := h
    exact ⟨index, hindex, Nat.lt_of_lt_of_le hlt hle⟩
  · trivial

namespace PnpDevice

/-- The driver holds exactly these assets. -/
structure Owns (device : PnpDevice) (assets : List PnpAsset) : Prop where
  custody : device.custody.Exactly assets
  below : ∀ asset ∈ assets, asset.Below device.nextBlock

namespace Owns

variable {device : PnpDevice} {asset : PnpAsset}
variable {assets others rest : List PnpAsset}

theorem perm (h : device.Owns assets) (hperm : assets.Perm others) :
    device.Owns others where
  custody := h.custody.perm hperm
  below := fun asset hasset => h.below asset (hperm.mem_iff.mpr hasset)

theorem null_not_mem (h : device.Owns assets) :
    PnpAsset.pool none ∉ assets := by
  intro hmem
  obtain ⟨index, hindex, _⟩ := h.below _ hmem
  cases hindex

theorem acquire (h : device.Owns assets) (hnew : asset ∉ assets)
    (hbelow : asset.Below device.nextBlock) :
    (device.acquire asset).Owns (asset :: assets) where
  custody := h.custody.acquire hnew
  below := by
    intro other hother
    rcases List.mem_cons.mp hother with rfl | hold
    · exact hbelow
    · exact h.below other hold

theorem release (h : device.Owns (asset :: rest)) :
    (device.release asset).Owns rest where
  custody := h.custody.release
  below := fun other hother =>
    h.below other (List.mem_cons_of_mem asset hother)

theorem use (h : device.Owns assets) (hasset : asset ∈ assets) :
    device.use asset = device := by
  unfold PnpDevice.use
  rw [h.custody.use hasset]

/-- The next block is new. -/
private theorem allocate {kind : Option Nat → PnpAsset}
    (h : device.Owns assets)
    (hbelow : ∀ pointer count, (kind pointer).Below count ↔
      ∃ index ∈ pointer, index < count) :
    { device.acquire (kind (some device.nextBlock)) with
        nextBlock := device.nextBlock + 1 }.Owns
      (kind (some device.nextBlock) :: assets) := by
  have hnew : kind (some device.nextBlock) ∉ assets := by
    intro hmem
    have hold := (hbelow _ _).mp (h.below _ hmem)
    obtain ⟨index, hindex, hlt⟩ := hold
    cases hindex
    exact Nat.lt_irrefl _ hlt
  refine ⟨h.custody.acquire hnew, fun other hother => ?_⟩
  rcases List.mem_cons.mp hother with rfl | hold
  · exact (hbelow _ _).mpr ⟨_, rfl, Nat.lt_succ_self _⟩
  · exact (h.below other hold).mono (Nat.le_succ _)

theorem exAllocatePool2 (h : device.Owns assets) (granted : Bool) :
    (device.exAllocatePool2 granted).2.Owns
      (blockOf .pool (device.exAllocatePool2 granted).1 ++ assets) := by
  unfold PnpDevice.exAllocatePool2
  cases granted with
  | false => exact h
  | true => exact h.allocate fun _ _ => Iff.rfl

theorem mmAllocateContiguousMemory (h : device.Owns assets)
    (granted : Bool) :
    (device.mmAllocateContiguousMemory granted).2.Owns
      (blockOf .contiguous (device.mmAllocateContiguousMemory granted).1 ++
        assets) := by
  unfold PnpDevice.mmAllocateContiguousMemory
  cases granted with
  | false => exact h
  | true => exact h.allocate fun _ _ => Iff.rfl

end Owns

section Prepare

variable {device : PnpDevice} {assets : List PnpAsset}

/-- What the pointers of a device stand for that has got past
`VirtIOWdfInitialize`. -/
def hardware (device : PnpDevice) : List PnpAsset :=
  blockOf .contiguous device.vgpuMemoryAddress ++
    (blockOf .pool device.capsetsData ++
      (blockOf .pool device.virtQueueLocks ++
        (blockOf .pool device.virtQueues ++ [.virtIODevice])))

/-- The registration that `notified` stands for. -/
def notifyOf (notified : Bool) : List PnpAsset :=
  if notified then [.processNotify] else []

/-- What is acquired last. -/
def services (notified : Bool) : List PnpAsset :=
  notifyOf notified ++
    [.lookAside (.idr 0), .lookAside (.idr 1), .lookAside .virglResource,
     .lookAside .vgpuBuffer]

theorem Owns.of_frame {other : PnpDevice} (h : device.Owns assets)
    (hcustody : other.custody = device.custody)
    (hblock : other.nextBlock = device.nextBlock) : other.Owns assets where
  custody := hcustody ▸ h.custody
  below := hblock ▸ h.below

@[simp] theorem exAllocatePool2_frame (granted : Bool) :
    (device.exAllocatePool2 granted).2.numVirtQueues =
        device.numVirtQueues ∧
      (device.exAllocatePool2 granted).2.virtQueues = device.virtQueues ∧
      (device.exAllocatePool2 granted).2.virtQueueLocks =
        device.virtQueueLocks ∧
      (device.exAllocatePool2 granted).2.capsetsData =
        device.capsetsData ∧
      (device.exAllocatePool2 granted).2.vgpuMemoryAddress =
        device.vgpuMemoryAddress ∧
      (device.exAllocatePool2 granted).2.regionBitmapBuffer =
        device.regionBitmapBuffer ∧
      (device.exAllocatePool2 granted).2.bInitialize =
        device.bInitialize ∧
      (device.exAllocatePool2 granted).2.notified = device.notified := by
  cases granted with
  | false => exact ⟨rfl, rfl, rfl, rfl, rfl, rfl, rfl, rfl⟩
  | true => exact ⟨rfl, rfl, rfl, rfl, rfl, rfl, rfl, rfl⟩

@[simp] theorem mmAllocateContiguousMemory_frame (granted : Bool) :
    (device.mmAllocateContiguousMemory granted).2.numVirtQueues =
        device.numVirtQueues ∧
      (device.mmAllocateContiguousMemory granted).2.virtQueues =
        device.virtQueues ∧
      (device.mmAllocateContiguousMemory granted).2.virtQueueLocks =
        device.virtQueueLocks ∧
      (device.mmAllocateContiguousMemory granted).2.capsetsData =
        device.capsetsData ∧
      (device.mmAllocateContiguousMemory granted).2.bInitialize =
        device.bInitialize ∧
      (device.mmAllocateContiguousMemory granted).2.notified =
        device.notified := by
  cases granted with
  | false => exact ⟨rfl, rfl, rfl, rfl, rfl, rfl⟩
  | true => exact ⟨rfl, rfl, rfl, rfl, rfl, rfl⟩

@[simp] theorem exAllocatePool2_isSome (granted : Bool) :
    (device.exAllocatePool2 granted).1.isSome = granted := by
  cases granted with
  | false => rfl
  | true => rfl

@[simp] theorem exAllocatePool2_isNone (granted : Bool) :
    (device.exAllocatePool2 granted).1.isNone = !granted := by
  cases granted with
  | false => rfl
  | true => rfl

@[simp] theorem mmAllocateContiguousMemory_isSome (granted : Bool) :
    (device.mmAllocateContiguousMemory granted).1.isSome = granted := by
  cases granted with
  | false => rfl
  | true => rfl

/-- What the calls have returned is known of the pointers. -/
@[simp] theorem allocateHardware_frame (results : PrepareResults) :
    (device.allocateHardware results).numVirtQueues =
        results.numQueues.toNat ∧
      (device.allocateHardware results).virtQueues.isSome =
        results.virtQueues ∧
      (device.allocateHardware results).virtQueueLocks.isSome =
        results.virtQueueLocks ∧
      (device.allocateHardware results).vgpuMemoryAddress.isSome =
        results.vgpuMemory ∧
      (device.allocateHardware results).bInitialize =
        device.bInitialize ∧
      (device.allocateHardware results).notified = device.notified := by
  simp [allocateHardware, acquire]

theorem Owns.allocateHardware (h : device.Owns [])
    (results : PrepareResults) :
    (device.allocateHardware results).Owns
      (device.allocateHardware results).hardware := by
  have hdevice := @Owns.acquire device .virtIODevice [] h
    List.not_mem_nil trivial
  unfold hardware PnpDevice.allocateHardware
  dsimp only
  simp only [exAllocatePool2_frame, mmAllocateContiguousMemory_frame]
  refine .of_frame (.mmAllocateContiguousMemory ?_ _) rfl rfl
  refine .of_frame (.exAllocatePool2 ?_ _) rfl rfl
  refine .of_frame (.exAllocatePool2 ?_ _) rfl rfl
  refine .of_frame (.exAllocatePool2 ?_ _) rfl rfl
  exact hdevice.of_frame rfl rfl

theorem createSpinLocks_loop (h : device.Owns assets)
    (hlocks : .pool device.virtQueueLocks ∈ assets)
    (created : Nat → Bool) (indices : List Nat) (going : Bool) :
    (indices.foldl (createSpinLock created) (going, device)).2 = device := by
  induction indices generalizing going with
  | nil => rfl
  | cons head tail ih =>
      rw [List.foldl_cons]
      cases going with
      | false => exact ih false
      | true =>
          have hstep : createSpinLock created (true, device) head =
              (created head, device) := by
            unfold createSpinLock
            rw [if_pos rfl, h.use hlocks]
          rw [hstep]
          exact ih (created head)

theorem createSpinLocks_same (h : device.Owns assets)
    (hlocks : device.numVirtQueues ≠ 0 → .pool device.virtQueueLocks ∈ assets)
    (created : Nat → Bool) : (createSpinLocks created device).2 = device := by
  unfold createSpinLocks
  cases hcount : device.numVirtQueues with
  | zero => rfl
  | succ count =>
      apply createSpinLocks_loop h
      exact hlocks (by rw [hcount]; exact Nat.succ_ne_zero count)

theorem createSpinLocks_keeps_misused {created : Nat → Bool}
    (indices : List Nat) {state : Bool × PnpDevice}
    (hmisused : state.2.custody.misused ≠ []) :
    (indices.foldl (createSpinLock created) state).2.custody.misused ≠
      [] := by
  induction indices generalizing state with
  | nil => exact hmisused
  | cons head tail ih =>
      apply ih
      unfold createSpinLock
      split
      · exact Custody.use_keeps_misused hmisused
      · exact hmisused

theorem createSpinLocks_misused (h : device.Owns assets)
    (hlocks : device.virtQueueLocks = none) (hcount : device.numVirtQueues ≠ 0)
    (created : Nat → Bool) :
    (createSpinLocks created device).2.custody.misused ≠ [] := by
  obtain ⟨count, hsucc⟩ := Nat.exists_eq_succ_of_ne_zero hcount
  unfold createSpinLocks
  rw [hsucc, List.range_succ_eq_map, List.foldl_cons]
  apply createSpinLocks_keeps_misused
  unfold createSpinLock
  rw [if_pos rfl, hlocks]
  exact h.custody.use_misused h.null_not_mem

theorem Owns.initializeVgpuMemory (h : device.Owns assets)
    (granted : Bool) :
    (device.initializeVgpuMemory granted).Owns
      (blockOf .pool (device.initializeVgpuMemory granted).regionBitmapBuffer ++
        assets) :=
  .of_frame (h.exAllocatePool2 granted) rfl rfl

@[simp] theorem initializeVgpuMemory_frame (granted : Bool) :
    (device.initializeVgpuMemory granted).hardware = device.hardware ∧
      (device.initializeVgpuMemory granted).numVirtQueues =
        device.numVirtQueues ∧
      (device.initializeVgpuMemory granted).virtQueues =
        device.virtQueues ∧
      (device.initializeVgpuMemory granted).virtQueueLocks =
        device.virtQueueLocks ∧
      (device.initializeVgpuMemory granted).vgpuMemoryAddress =
        device.vgpuMemoryAddress ∧
      (device.initializeVgpuMemory granted).regionBitmapBuffer.isSome =
        granted ∧
      (device.initializeVgpuMemory granted).bInitialize =
        (device.bInitialize || granted) ∧
      (device.initializeVgpuMemory granted).notified = device.notified := by
  simp [initializeVgpuMemory, hardware]

theorem startServices_custody (registered : Bool) :
    (device.startServices registered).custody =
      device.custody.acquireAll (services registered) := by
  cases registered <;>
    simp [startServices, registerNotify, initializeIdr, idrMaxSize,
      List.range_succ, acquire, services, notifyOf]

@[simp] theorem startServices_frame (registered : Bool) :
    (device.startServices registered).nextBlock = device.nextBlock ∧
      (device.startServices registered).hardware = device.hardware ∧
      (device.startServices registered).vgpuMemoryAddress =
        device.vgpuMemoryAddress ∧
      (device.startServices registered).regionBitmapBuffer =
        device.regionBitmapBuffer ∧
      (device.startServices registered).bInitialize = device.bInitialize ∧
      (device.startServices registered).notified =
        (device.notified || registered) := by
  cases registered <;>
    simp [startServices, registerNotify, initializeIdr, idrMaxSize,
      List.range_succ, acquire, hardware]

theorem nodup_services (notified : Bool) : (services notified).Nodup := by
  cases notified with
  | false => decide
  | true => decide

theorem below_services (notified : Bool) :
    ∀ service ∈ services notified, ∀ count, service.Below count := by
  cases notified <;> simp [services, notifyOf, PnpAsset.Below]

theorem Owns.startServices (h : device.Owns assets) (registered : Bool)
    (hnone : ∀ asset ∈ services registered, asset ∉ assets) :
    (device.startServices registered).Owns
      (services registered ++ assets) where
  custody := by
    rw [startServices_custody]
    apply h.custody.acquireAll
    apply List.nodup_append.mpr
    refine ⟨nodup_services registered, h.custody.nodup, ?_⟩
    rintro asset hasset other hother rfl
    exact hnone asset hasset hother
  below := by
    intro asset hasset
    rcases List.mem_append.mp hasset with hservice | hold
    · exact below_services registered asset hservice _
    · rw [(startServices_frame registered).1]
      exact h.below asset hold

theorem startServices_keeps_misused (registered : Bool)
    (hmisused : device.custody.misused ≠ []) :
    (device.startServices registered).custody.misused ≠ [] := by
  rw [startServices_custody]
  exact Custody.acquireAll_keeps_misused hmisused (services registered)

/-- What `freeHardware` releases, one after the other. -/
def freed (device : PnpDevice) : List PnpAsset :=
  blockOf .pool device.virtQueues ++
    (blockOf .pool device.virtQueueLocks ++
      (blockOf .pool device.capsetsData ++
        (if device.vgpuMemoryAddress.isSome then
          [.pool device.regionBitmapBuffer,
            .contiguous device.vgpuMemoryAddress]
        else [])))

@[simp] theorem freeVirtQueues_frame :
    device.freeVirtQueues.custody =
        device.custody.releaseAll (blockOf .pool device.virtQueues) ∧
      device.freeVirtQueues.virtQueueLocks = device.virtQueueLocks ∧
      device.freeVirtQueues.capsetsData = device.capsetsData ∧
      device.freeVirtQueues.vgpuMemoryAddress = device.vgpuMemoryAddress ∧
      device.freeVirtQueues.regionBitmapBuffer =
        device.regionBitmapBuffer := by
  unfold freeVirtQueues freePointer blockOf
  split
  · exact ⟨rfl, rfl, rfl, rfl, rfl⟩
  · exact ⟨rfl, rfl, rfl, rfl, rfl⟩

@[simp] theorem freeVirtQueueLocks_frame :
    device.freeVirtQueueLocks.custody =
        device.custody.releaseAll (blockOf .pool device.virtQueueLocks) ∧
      device.freeVirtQueueLocks.capsetsData = device.capsetsData ∧
      device.freeVirtQueueLocks.vgpuMemoryAddress =
        device.vgpuMemoryAddress ∧
      device.freeVirtQueueLocks.regionBitmapBuffer =
        device.regionBitmapBuffer := by
  unfold freeVirtQueueLocks freePointer blockOf
  split
  · exact ⟨rfl, rfl, rfl, rfl⟩
  · exact ⟨rfl, rfl, rfl, rfl⟩

@[simp] theorem freeCapsets_frame :
    device.freeCapsets.custody =
        device.custody.releaseAll (blockOf .pool device.capsetsData) ∧
      device.freeCapsets.vgpuMemoryAddress = device.vgpuMemoryAddress ∧
      device.freeCapsets.regionBitmapBuffer =
        device.regionBitmapBuffer := by
  unfold freeCapsets freePointer blockOf
  split
  · exact ⟨rfl, rfl, rfl⟩
  · exact ⟨rfl, rfl, rfl⟩

theorem freeVgpuMemory_custody :
    device.freeVgpuMemory.custody = device.custody.releaseAll
      (if device.vgpuMemoryAddress.isSome then
        [.pool device.regionBitmapBuffer,
          .contiguous device.vgpuMemoryAddress]
      else []) := by
  unfold freeVgpuMemory
  split
  · rfl
  · rfl

theorem freeHardware_custody (device : PnpDevice) :
    device.freeHardware.custody = device.custody.releaseAll device.freed := by
  unfold freeHardware freed
  simp only [freeVgpuMemory_custody, freeCapsets_frame,
    freeVirtQueueLocks_frame, freeVirtQueues_frame,
    Custody.releaseAll_append]

theorem freeHardware_bInitialize
    (hmemory : device.vgpuMemoryAddress.isSome = true) :
    device.freeHardware.bInitialize = false := by
  unfold freeHardware freeVgpuMemory
  rw [if_pos (by simpa using hmemory)]
  rfl

/-- What `stopServices` releases. -/
def stopped : List PnpAsset :=
  [.lookAside (.idr 0), .lookAside (.idr 1), .lookAside .virglResource,
   .lookAside .vgpuBuffer, .processNotify, .virtIODevice]

theorem stopServices_custody (device : PnpDevice) :
    device.stopServices.custody = device.custody.releaseAll stopped := by
  simp [stopServices, removeNotify, unInitializeIdr, idrMaxSize,
    List.range_succ, release, stopped]

theorem stopServices_frame (device : PnpDevice) :
    device.stopServices.bInitialize = device.bInitialize ∧
      device.stopServices.notified = false := by
  simp [stopServices, removeNotify, unInitializeIdr, idrMaxSize,
    List.range_succ, release]

theorem releaseHardware_custody (device : PnpDevice) :
    device.virtioVgpuDeviceReleaseHardware.custody =
      (device.custody.releaseAll device.freed).releaseAll stopped := by
  rw [virtioVgpuDeviceReleaseHardware, stopServices_custody,
    freeHardware_custody]

end Prepare

section Release

variable {device : PnpDevice}

private theorem perm_releases {α : Type}
    (started bitmap memory capsets locks queues last : List α) :
    (started ++ (bitmap ++ (memory ++ (capsets ++ (locks ++
      (queues ++ last)))))).Perm
        ((queues ++ (locks ++ (capsets ++ (bitmap ++ memory)))) ++
          (started ++ last)) := by
  rw [← Multiset.coe_eq_coe]
  simp only [← Multiset.coe_add]
  abel

/-- What a prepared device holds. -/
def prepared (device : PnpDevice) : List PnpAsset :=
  services device.notified ++
    (blockOf .pool device.regionBitmapBuffer ++ device.hardware)

/-- A prepared device gives everything back. -/
theorem Owns.releaseHardware (h : device.Owns device.prepared)
    (hmemory : device.vgpuMemoryAddress.isSome = true)
    (hbitmap : device.regionBitmapBuffer.isSome = true)
    (hnotified : device.notified = true) :
    device.virtioVgpuDeviceReleaseHardware.custody.Exactly [] := by
  have hfreed : device.freed = blockOf .pool device.virtQueues ++
      (blockOf .pool device.virtQueueLocks ++
        (blockOf .pool device.capsetsData ++
          (blockOf .pool device.regionBitmapBuffer ++
            blockOf .contiguous device.vgpuMemoryAddress))) := by
    unfold freed
    rw [if_pos hmemory, blockOf_of_isSome _ hmemory,
      blockOf_of_isSome _ hbitmap]
    rfl
  have hperm := perm_releases (services device.notified)
    (blockOf .pool device.regionBitmapBuffer)
    (blockOf .contiguous device.vgpuMemoryAddress)
    (blockOf .pool device.capsetsData)
    (blockOf .pool device.virtQueueLocks)
    (blockOf .pool device.virtQueues) [.virtIODevice]
  rw [← hfreed] at hperm
  have hlast : (services device.notified ++ [PnpAsset.virtIODevice]).Perm
      stopped := by
    rw [hnotified]
    decide
  have howned : device.custody.Exactly (device.freed ++ stopped) :=
    h.custody.perm (hperm.trans (hlast.append_left _))
  have hrest : (device.custody.releaseAll device.freed).Exactly
      (stopped ++ []) := by
    rw [List.append_nil]
    exact howned.releaseAll
  rw [releaseHardware_custody]
  exact hrest.releaseAll

end Release

section Power

variable {device : PnpDevice} {assets : List PnpAsset}

theorem d0Entry_frame (results : D0EntryResults) :
    (device.virtioVgpuDeviceD0Entry results).2.prepared = device.prepared ∧
      (device.virtioVgpuDeviceD0Entry results).2.vgpuMemoryAddress =
        device.vgpuMemoryAddress ∧
      (device.virtioVgpuDeviceD0Entry results).2.regionBitmapBuffer =
        device.regionBitmapBuffer ∧
      (device.virtioVgpuDeviceD0Entry results).2.bInitialize =
        device.bInitialize := by
  unfold virtioVgpuDeviceD0Entry
  dsimp only
  split
  · exact ⟨rfl, rfl, rfl, rfl⟩
  · split
    · simp [prepared, hardware]
    · cases results.virtIOWdfInitQueues with
      | false =>
          simp [prepared, hardware, exFreePoolWithTag, release, use]
      | true =>
          simp [prepared, hardware, exFreePoolWithTag, release, use, acquire]

/-- What a call of `VirtioVgpuDeviceD0Entry` leaves acquired. -/
def enteredWith (succeeded : Bool) : List PnpAsset :=
  if succeeded then [.virtIOQueues] else []

/-- The parameters are freed whatever becomes of the queues. -/
theorem Owns.d0Entry (h : device.Owns assets) (results : D0EntryResults)
    (hqueues : device.numVirtQueues ≠ 0 → results.params = true →
      .pool device.virtQueues ∈ assets)
    (hnew : .virtIOQueues ∉ assets) :
    (device.virtioVgpuDeviceD0Entry results).2.Owns
      (enteredWith (device.virtioVgpuDeviceD0Entry results).1 ++
        assets) := by
  have hparams := h.exAllocatePool2 results.params
  unfold virtioVgpuDeviceD0Entry
  dsimp only
  split
  · exact h
  · rename_i hcount
    cases hgranted : results.params with
    | false => exact h
    | true =>
        rw [hgranted] at hparams
        have hmem : .pool (device.exAllocatePool2 true).2.virtQueues ∈
            blockOf .pool (device.exAllocatePool2 true).1 ++ assets := by
          rw [(exAllocatePool2_frame true).2.1]
          exact List.mem_append_right _ (hqueues hcount hgranted)
        have hfirst : .virtIOQueues ∉
            blockOf .pool (device.exAllocatePool2 true).1 ++ assets := by
          rw [List.mem_append]
          rintro (hblock | hold)
          · cases List.mem_singleton.mp hblock
          · exact hnew hold
        rw [exAllocatePool2_isNone, Bool.not_true,
          if_neg Bool.false_ne_true, hparams.use hmem]
        cases results.virtIOWdfInitQueues with
        | false => exact hparams.release
        | true =>
            have hboth := hparams.acquire hfirst trivial
            exact (hboth.perm (.swap _ _ _)).release

theorem d0Entry_misused (h : device.Owns assets) (results : D0EntryResults)
    (hcount : device.numVirtQueues ≠ 0) (hparams : results.params = true)
    (hqueues : device.virtQueues = none) :
    (device.virtioVgpuDeviceD0Entry results).2.custody.misused ≠ [] := by
  have hallocated := h.exAllocatePool2 true
  unfold virtioVgpuDeviceD0Entry
  dsimp only
  rw [if_neg hcount, hparams, exAllocatePool2_isNone, Bool.not_true,
    if_neg Bool.false_ne_true]
  apply Custody.release_keeps_misused
  have hused := hallocated.custody.use_misused hallocated.null_not_mem
  have hnull : (device.exAllocatePool2 true).2.virtQueues = none := hqueues
  split
  · apply Custody.acquire_keeps_misused
    rw [hnull]
    exact hused
  · rw [hnull]
    exact hused

end Power

end PnpDevice

end VgpuDriver
