import VgpuDriver.CommandRelease
import VgpuDriver.UserMappings

namespace VgpuDriver

open Data

/-! Power-down and removal: what `VirtioVgpuDeviceD0Exit` leaves of the
commands in flight, and what is left when `VirtioVgpuDeviceReleaseHardware`
frees the vgpu memory. -/

/-- `VirtIOWdfDestroyQueues` resets the device and drops the queues, whose
commands are never returned. -/
def virtIOWdfDestroyQueues (driver : Driver) : Driver :=
  { driver with virtQueues := fun _ => { avail := [], used := [] } }

/-- `VirtIOWdfInitQueues` makes the queues anew. -/
def virtIOWdfInitQueues (driver : Driver) : Driver :=
  { driver with virtQueues := fun _ => { avail := [], used := [] } }

def virtioVgpuDeviceD0Exit (driver : Driver) : Driver :=
  virtIOWdfDestroyQueues driver

/-- `VirtioVgpuDeviceReleaseHardware` up to `MmFreeContiguousMemory`; that
`VirglContextList` is not empty is only printed. -/
def virtioVgpuDeviceReleaseHardware (driver : Driver) : Driver :=
  { driver with
    capsets := { driver.capsets with data := [] }
    vgpuMemory := VgpuMemory.zeroed }

/-- Between `VirtioVgpuDeviceReleaseHardware` and
`VirtioVgpuDevicePrepareHardware`, in a low power state, and in D0. -/
inductive PowerPhase
  | removed
  | asleep
  | working
  deriving DecidableEq

structure PowerWorld where
  phase : PowerPhase
  base : CommandWorld

inductive PowerAction
  | work (action : CommandAction)
  | prepareHardware (virtualAddress physicalAddress memorySize : Nat)
      (capsets : Capsets)
  | d0Entry
  | d0Exit
  | releaseHardware

namespace PowerWorld

def driver (world : PowerWorld) : Driver := world.base.driver

/-- The power callbacks act on the driver; a reset host has no backings. -/
def callback (phase : PowerPhase) (change : Driver → Driver)
    (world : PowerWorld) : PowerWorld where
  phase := phase
  base :=
    { world.base with
      world :=
        { driver := change world.driver
          host := { backings := [] } } }

/-- Outside D0 nothing but the power callbacks reaches the driver. -/
def step (addBuf : Nat → Bool) (world : PowerWorld) :
    PowerAction → PowerWorld
  | .work action =>
      match world.phase with
      | .working =>
          { world with base := CommandWorld.step addBuf world.base action }
      | _ => world
  | .prepareHardware virtualAddress physicalAddress memorySize capsets =>
      match world.phase with
      | .removed =>
          { phase := .asleep
            base := CommandWorld.start virtualAddress physicalAddress
              memorySize capsets }
      | _ => world
  | .d0Entry =>
      match world.phase with
      | .asleep => world.callback .working virtIOWdfInitQueues
      | _ => world
  | .d0Exit =>
      match world.phase with
      | .working => world.callback .asleep virtioVgpuDeviceD0Exit
      | _ => world
  | .releaseHardware =>
      match world.phase with
      | .asleep => world.callback .removed virtioVgpuDeviceReleaseHardware
      | _ => world

def start (virtualAddress physicalAddress memorySize : Nat)
    (capsets : Capsets) : PowerWorld where
  phase := .asleep
  base := CommandWorld.start virtualAddress physicalAddress memorySize capsets

end PowerWorld

/-- The buffer and what it holds have been given back: once, if it holds it at
all; its pages are clear, its resources are idle, its fence object is set. -/
structure Reclaimed (buffer : VgpuBuffer) (before after : Driver) :
    Prop where
  record : after.frees .record buffer.serial =
    before.frees .record buffer.serial + 1
  handles : Holding.handles.of buffer = true →
    after.frees .handles buffer.serial =
      before.frees .handles buffer.serial + 1
  pages : ∀ region ∈ buffer.pages, ∀ position,
    region.address ≤ after.vgpuMemory.virtualAddress + position * pageSize →
    after.vgpuMemory.virtualAddress + position * pageSize <
      region.address + region.size →
    after.vgpuMemory.regionBitmap.bit position = false
  idle : ∀ entry ∈ after.live, entry.1 = buffer.pBuf.hdr.ctxId →
    entry.2.id ∈ buffer.updatedIds → entry.2.stateEvent = true
  signaled : ∀ object ∈ buffer.fenceObject,
    before.history.count (.objectSignaled object) <
      after.history.count (.objectSignaled object)

/-- What `MmFreeContiguousMemory` frees. -/
def VgpuMemory.region (memory : VgpuMemory) : Interval where
  start := memory.virtualAddress
  length := memory.regionBitmap.size * pageSize

/-- `ADDRESS_AND_SIZE_TO_SPAN_PAGES`: the whole pages that the MDL locks. -/
def Mdl.span (mdl : Mdl) : Interval where
  start := mdl.address / pageSize * pageSize
  length := (mdl.address % pageSize + mdl.byteCount + (pageSize - 1)) /
    pageSize * pageSize

/-- The mapping was made and has not been removed. -/
def Driver.MapsNow (driver : Driver) (mapping : UserMapping) : Prop :=
  driver.userUnmapped.count mapping < driver.userMapped.count mapping

instance (driver : Driver) (mapping : UserMapping) :
    Decidable (driver.MapsNow mapping) :=
  inferInstanceAs (Decidable (_ < _))

/-- No context owns a resource backed by the region, and no user mapping shows
a page of it. -/
structure ReleasedClean (region : Interval) (driver : Driver) : Prop where
  unowned : ∀ context ∈ driver.virglContextList,
    ∀ resource ∈ context.resourceList, resource.pages = none
  unmapped : ∀ mapping, driver.MapsNow mapping →
    mapping.mdl.span.Disjoint region

namespace PowerWorld

/-- What power-down and removal have to leave. -/
def LeavesNothing (world : PowerWorld) : PowerAction → Prop
  | .d0Exit => world.phase = .working →
      ∀ queue, ∀ buffer ∈ world.driver.inFlight queue,
        Reclaimed buffer world.driver (virtioVgpuDeviceD0Exit world.driver)
  | .releaseHardware => world.phase = .asleep →
      ReleasedClean world.driver.vgpuMemory.region
        (virtioVgpuDeviceReleaseHardware world.driver)
  | _ => True

/-- Nothing is in flight at power-down; at removal no context has a plain
resource, or a blob that is mapped with pages of the region. -/
def Drained (world : PowerWorld) : PowerAction → Prop
  | .d0Exit => world.phase = .working →
      ∀ queue, world.driver.inFlight queue = []
  | .releaseHardware => world.phase = .asleep →
      ∀ context ∈ world.driver.virglContextList,
        ∀ resource ∈ context.resourceList, resource.IsPlain = false ∧
          ∀ mapping ∈ resource.userMapping,
            mapping.mdl.span.Disjoint world.driver.vgpuMemory.region
  | _ => True

end PowerWorld

/-- `VirtioVgpuDeviceD0Exit` frees no buffer. -/
theorem not_reclaimed (buffer : VgpuBuffer) (driver : Driver) :
    ¬Reclaimed buffer driver (virtioVgpuDeviceD0Exit driver) := by
  intro hreclaimed
  have hrecord := hreclaimed.record
  have hsame : (virtioVgpuDeviceD0Exit driver).frees .record
      buffer.serial = driver.frees .record buffer.serial := rfl
  omega

theorem pages_eq_none_iff (resource : VirglResource) :
    resource.pages = none ↔ resource.IsPlain = false := by
  unfold VirglResource.pages
  cases resource.IsPlain <;> simp

/-- The mappings that are left are those of the resources that are left. -/
theorem mapsNow_iff {driver : Driver} (hlisted : MappingsListed [] driver)
    {mapping : UserMapping} :
    driver.MapsNow mapping ↔
      ∃ context ∈ driver.virglContextList,
        ∃ resource ∈ context.resourceList,
          mapping ∈ resource.userMapping := by
  have hcount : driver.userMapped.count mapping =
      driver.userUnmapped.count mapping +
        driver.userMappings.count mapping :=
    (hlisted.count_eq mapping).trans List.count_append
  have hmaps : driver.MapsNow mapping ↔ mapping ∈ driver.userMappings := by
    unfold Driver.MapsNow
    rw [hcount, ← List.count_pos_iff]
    omega
  rw [hmaps, Driver.userMappings, List.mem_filterMap]
  constructor
  · rintro ⟨entry, hentry, hmapping⟩
    obtain ⟨context, hcontext, _, hresource⟩ := mem_liveIn.mp hentry
    exact ⟨context, hcontext, entry.2, hresource, hmapping⟩
  · rintro ⟨context, hcontext, resource, hresource, hmapping⟩
    exact ⟨(context.id, resource),
      mem_liveIn.mpr ⟨context, hcontext, rfl, hresource⟩, hmapping⟩

theorem releasedClean_iff {driver : Driver}
    (hlisted : MappingsListed [] driver) (region : Interval) :
    ReleasedClean region (virtioVgpuDeviceReleaseHardware driver) ↔
      ∀ context ∈ driver.virglContextList,
        ∀ resource ∈ context.resourceList, resource.IsPlain = false ∧
          ∀ mapping ∈ resource.userMapping,
            mapping.mdl.span.Disjoint region := by
  constructor
  · intro h context hcontext resource hresource
    refine ⟨?_, fun mapping hmapping => ?_⟩
    · exact (pages_eq_none_iff resource).mp
        (h.unowned context hcontext resource hresource)
    · refine h.unmapped mapping ((mapsNow_iff hlisted).mpr ?_)
      exact ⟨context, hcontext, resource, hresource, hmapping⟩
  · intro h
    constructor
    · intro context hcontext resource hresource
      exact (pages_eq_none_iff resource).mpr
        (h context hcontext resource hresource).1
    · intro mapping hmaps
      obtain ⟨context, hcontext, resource, hresource, hmapping⟩ :=
        (mapsNow_iff hlisted).mp hmaps
      exact (h context hcontext resource hresource).2 mapping hmapping

namespace PowerWorld

variable {addBuf : Nat → Bool}

theorem step_listed {world : PowerWorld}
    (h : MappingsListed [] world.driver) (action : PowerAction) :
    MappingsListed [] (step addBuf world action).driver := by
  have hcallback : ∀ (phase : PowerPhase) (change : Driver → Driver),
      (change world.driver).history = world.driver.history →
      (change world.driver).virglContextList =
        world.driver.virglContextList →
      MappingsListed [] (world.callback phase change).driver := by
    intro phase change hhistory hcontexts
    refine h.of_frame ?_ ?_ ?_
    · exact congrArg (List.filterMap Event.mapsUser) hhistory
    · exact congrArg (List.filterMap Event.unmapsUser) hhistory
    · exact congrArg (fun contexts => (liveIn contexts).filterMap fun entry =>
        entry.2.userMapping) hcontexts
  cases action with
  | work action =>
      simp only [step]
      split
      · cases action with
        | base action =>
            exact MappingsListed.step h rfl action
        | getCapsInfo capsetIndex => exact h.sendCommand addBuf _ _ _
        | getCaps capsetId capsetVersion =>
            exact h.sendCommand addBuf _ _ _
        | wake buffer =>
            simp only [CommandWorld.step, CommandWorld.wake]
            split
            · exact h.of_frame rfl rfl rfl
            · exact h
      · exact h
  | prepareHardware virtualAddress physicalAddress memorySize capsets =>
      simp only [step]
      split
      · exact List.Perm.refl _
      · exact h
  | d0Entry =>
      simp only [step]
      split
      · exact hcallback .working _ rfl rfl
      · exact h
  | d0Exit =>
      simp only [step]
      split
      · exact hcallback .asleep _ rfl rfl
      · exact h
  | releaseHardware =>
      simp only [step]
      split
      · exact hcallback .removed _ rfl rfl
      · exact h

/-- At each step: what is left is nothing exactly when the state is drained. -/
theorem leavesNothing_iff {world : PowerWorld}
    (h : MappingsListed [] world.driver) (action : PowerAction) :
    world.LeavesNothing action ↔ world.Drained action := by
  cases action with
  | d0Exit =>
      constructor
      · intro hleaves hphase queue
        rw [List.eq_nil_iff_forall_not_mem]
        intro buffer hbuffer
        exact not_reclaimed buffer world.driver
          (hleaves hphase queue buffer hbuffer)
      · intro hdrained hphase queue buffer hbuffer
        rw [hdrained hphase queue] at hbuffer
        cases hbuffer
  | releaseHardware =>
      exact forall_congr' fun _ => releasedClean_iff h _
  | _ => exact Iff.rfl

end PowerWorld

/-- A run leaves nothing at any power-down or removal if and only if nothing
is in flight at each power-down, and at each removal no plain resource is left
and no blob that is mapped with pages of the region. -/
theorem power_down_leaves_nothing_iff (addBuf : Nat → Bool)
    (virtualAddress physicalAddress memorySize : Nat) (capsets : Capsets)
    (actions : List PowerAction) :
    Along (PowerWorld.step addBuf) PowerWorld.LeavesNothing
        (PowerWorld.start virtualAddress physicalAddress memorySize capsets)
        actions ↔
      Along (PowerWorld.step addBuf) PowerWorld.Drained
        (PowerWorld.start virtualAddress physicalAddress memorySize capsets)
        actions := by
  have hstart : MappingsListed [] (PowerWorld.start virtualAddress
      physicalAddress memorySize capsets).driver := List.Perm.refl _
  generalize PowerWorld.start virtualAddress physicalAddress memorySize
    capsets = world at hstart
  induction actions generalizing world with
  | nil => exact Iff.rfl
  | cons action rest ih =>
      have hrest := ih (PowerWorld.step addBuf world action)
        (PowerWorld.step_listed hstart action)
      exact and_congr (PowerWorld.leavesNothing_iff hstart action) hrest

/-- The machine works, all that is sent is answered, and the device is
removed. -/
def removedAfter (actions : List Action) : List PowerAction :=
  .d0Entry ::
    (actions.map fun action => .work (.base action)) ++
      [.d0Exit, .releaseHardware]

/-- A process opens a context, creates a resource and maps it. -/
def sharedRun : List Action :=
  [.request 7 .initContext, .request 7 (.create 0x1000),
    .request 7 (.mapAt 1 0x7000),
    .host .control 0 { gpa := 0, size := 0 }, .dpc .control none] ++
    Action.serve 2

/-- A blob gets the record of a closed resource; its own mapping fails, and
after the completion of a submission it is mapped with the pages of that
resource. -/
def staleRun : List Action :=
  [.request 7 .initContext, .request 7 (.create 0x1000),
    .request 7 (.close 1), .request 7 (.createBlobIn .recycled),
    .request 7 (.submit [2] none),
    .host .control 0 { gpa := 0, size := 0 }, .dpc .control none] ++
    Action.serve 7 ++ [.request 7 (.mapAt 2 0x7000)]

/-- The machine sleeps while the command of a new context is in flight; the
device is removed while a resource is mapped, or only a blob with pages that
were the ones of a closed resource. -/
theorem sleeping_device_leaves_state :
    ¬Along (PowerWorld.step fun _ => true) PowerWorld.LeavesNothing
        (PowerWorld.start 0x10000 0x80000 0x8000 .oneCapset)
        [.d0Entry, .work (.base (.request 7 .initContext)), .d0Exit] ∧
      ¬Along (PowerWorld.step fun _ => true) PowerWorld.LeavesNothing
        (PowerWorld.start 0x10000 0x80000 0x8000 .oneCapset)
        (removedAfter sharedRun) ∧
      ¬Along (PowerWorld.step fun _ => true) PowerWorld.LeavesNothing
        (PowerWorld.start 0x10000 0x80000 0x8000 .oneCapset)
        (removedAfter staleRun) := by
  refine ⟨?_, ?_, ?_⟩
  · rintro ⟨_, _, hleaves, _⟩
    exact not_reclaimed _ _ (hleaves rfl .control
      (commandBuffer (ctrlHdr 7 0) (.ctxCreate 1) 0) (by decide +kernel))
  · intro halong
    obtain ⟨_, _, hleaves, _⟩ := (along_append _ _ _ _ _).mp halong
    have hunowned := (hleaves (by decide +kernel)).unowned
    exact absurd hunowned (by decide +kernel)
  · intro halong
    obtain ⟨_, _, hleaves, _⟩ := (along_append _ _ _ _ _).mp halong
    have hunmapped := (hleaves (by decide +kernel)).unmapped
      ⟨5, 0x7000, ⟨1, 0x10000, 0x1000⟩⟩ (by decide +kernel)
    exact absurd hunmapped (by decide +kernel)

end VgpuDriver
