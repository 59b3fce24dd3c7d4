import VgpuDriver.Lifecycle

namespace VgpuDriver

open Data

/-! The PnP and power callbacks in every order that the framework calls them:
what they acquire and give back balances, exactly when none of the failures
occurs that they leave half done. -/

/-- When the loop over the spin locks is reached there is room for them. -/
def PrepareResults.RoomForLocks (results : PrepareResults) : Prop :=
  results.virtIOWdfInitialize = true → results.vgpuMemory = true →
    results.numQueues ≠ 0 → results.virtQueueLocks = true

namespace PnpWorld

/-- The framework goes on with nothing that the callbacks leave half done: a
failed `VirtioVgpuDevicePrepareHardware` has not got past
`VirtIOWdfInitialize` and is not followed by a release, the bitmap of the vgpu
memory and the registration of `ProcessNotify` are there when they are given
back, and so are the arrays that are written. -/
def Handles (world : PnpWorld) : PnpAction → Prop
  | .prepareHardware results =>
      world.phase = .removed → results.RoomForLocks
  | .d0Entry results =>
      world.phase = .prepared → world.device.numVirtQueues ≠ 0 →
        results.params = true → world.device.virtQueues.isSome = true
  | .d0Exit => True
  | .releaseHardware =>
      (world.phase = .prepared → world.device.bInitialize = true ∧
          world.device.notified = true) ∧
        ∀ initialized, world.phase ≠ .failed initialized
  | .giveUp => world.phase ≠ .failed true

end PnpWorld

/-- The device has come through `VirtioVgpuDevicePrepareHardware`, and holds
`further` besides. -/
structure PnpDevice.Ready (device : PnpDevice) (further : List PnpAsset) :
    Prop where
  owns : device.Owns (further ++ device.prepared)
  memory : device.vgpuMemoryAddress.isSome = true
  bitmap : device.bInitialize = device.regionBitmapBuffer.isSome

/-- The device holds nothing that the callbacks know of. -/
structure PnpDevice.Bare (device : PnpDevice) : Prop where
  owns : device.Owns []
  bitmap : device.bInitialize = false
  notified : device.notified = false

/-- The device is left with what the failed callback has acquired. -/
def PnpDevice.HalfDone (device : PnpDevice) : Prop :=
  ∃ assets, device.Owns assets ∧ .virtIODevice ∈ assets ∧
    .lookAside (.idr 0) ∉ assets

def PnpWorld.Sound (world : PnpWorld) : Prop :=
  match world.phase with
  | .removed | .failed false => world.device.Bare
  | .failed true => world.device.HalfDone
  | .prepared => world.device.Ready []
  | .working => world.device.Ready [.virtIOQueues]

namespace PnpDevice

variable {device : PnpDevice}

theorem mem_blockOf {kind : Option Nat → PnpAsset} {pointer : Option Nat}
    {asset : PnpAsset} (hasset : asset ∈ blockOf kind pointer) :
    asset = kind pointer := by
  unfold blockOf at hasset
  split at hasset
  · exact List.mem_singleton.mp hasset
  · cases hasset

theorem mem_hardware_cases {pointer : Option Nat} {asset : PnpAsset}
    (hasset : asset ∈ blockOf .pool pointer ++ device.hardware) :
    (∃ block, asset = .pool block) ∨ (∃ block, asset = .contiguous block) ∨
      asset = .virtIODevice := by
  simp only [hardware, List.mem_append, List.mem_singleton] at hasset
  rcases hasset with hb | hm | hc | hl | hq | hv
  · exact Or.inl ⟨_, mem_blockOf hb⟩
  · exact Or.inr (Or.inl ⟨_, mem_blockOf hm⟩)
  · exact Or.inl ⟨_, mem_blockOf hc⟩
  · exact Or.inl ⟨_, mem_blockOf hl⟩
  · exact Or.inl ⟨_, mem_blockOf hq⟩
  · exact Or.inr (Or.inr hv)

theorem mem_services {notified : Bool} {asset : PnpAsset}
    (hasset : asset ∈ services notified) :
    asset = .processNotify ∨ ∃ list, asset = .lookAside list := by
  cases notified with
  | false =>
      simp only [services, notifyOf, Bool.false_eq_true, if_false,
        List.nil_append, List.mem_cons, List.not_mem_nil, or_false] at hasset
      rcases hasset with rfl | rfl | rfl | rfl
      all_goals exact Or.inr ⟨_, rfl⟩
  | true =>
      simp only [services, notifyOf, if_true, List.cons_append,
        List.nil_append, List.mem_cons, List.not_mem_nil, or_false] at hasset
      rcases hasset with rfl | rfl | rfl | rfl | rfl
      · exact Or.inl rfl
      all_goals exact Or.inr ⟨_, rfl⟩

theorem services_not_mem (notified : Bool) (pointer : Option Nat) :
    ∀ asset ∈ services notified,
      asset ∉ blockOf .pool pointer ++ device.hardware := by
  intro asset hasset hmem
  rcases mem_services hasset with rfl | ⟨list, rfl⟩
  · rcases mem_hardware_cases hmem with ⟨_, heq⟩ | ⟨_, heq⟩ | heq
    · cases heq
    · cases heq
    · cases heq
  · rcases mem_hardware_cases hmem with ⟨_, heq⟩ | ⟨_, heq⟩ | heq
    · cases heq
    · cases heq
    · cases heq

theorem virtIOQueues_not_mem : .virtIOQueues ∉ device.prepared := by
  intro hmem
  rcases List.mem_append.mp hmem with hservice | hhardware
  · rcases mem_services hservice with heq | ⟨_, heq⟩
    · cases heq
    · cases heq
  · rcases mem_hardware_cases hhardware with
      ⟨block, heq⟩ | ⟨block, heq⟩ | heq
    · cases heq
    · cases heq
    · cases heq

theorem idr_not_mem_hardware (pointer : Option Nat) :
    .lookAside (.idr 0) ∉ blockOf .pool pointer ++ device.hardware :=
  services_not_mem false pointer _ (by simp [services, notifyOf])

theorem virtIODevice_mem_hardware : .virtIODevice ∈ device.hardware := by
  simp [hardware]

theorem mem_hardware_locks (hlocks : device.virtQueueLocks.isSome = true) :
    .pool device.virtQueueLocks ∈ device.hardware := by
  simp [hardware, blockOf_of_isSome _ hlocks]

theorem mem_hardware_queues (hqueues : device.virtQueues.isSome = true) :
    .pool device.virtQueues ∈ device.hardware := by
  simp [hardware, blockOf_of_isSome _ hqueues]

theorem Owns.halfDone {pointer : Option Nat}
    (h : device.Owns (blockOf .pool pointer ++ device.hardware)) :
    device.HalfDone :=
  ⟨_, h, List.mem_append_right _ virtIODevice_mem_hardware,
    idr_not_mem_hardware pointer⟩

theorem numQueues_ne_zero {results : PrepareResults}
    (hcount : results.numQueues.toNat ≠ 0) : results.numQueues ≠ 0 := by
  rintro hzero
  rw [hzero] at hcount
  exact hcount rfl

/-- The end of `VirtioVgpuDevicePrepareHardware` on a device that has its
memory. -/
theorem Owns.lockedServices (h : device.Owns device.hardware)
    (hbitmap : device.bInitialize = false)
    (hnotified : device.notified = false)
    (hmemory : device.vgpuMemoryAddress.isSome = true)
    (hroom : device.numVirtQueues ≠ 0 →
      device.virtQueueLocks.isSome = true)
    (created : Nat → Bool) (granted registered : Bool) :
    (createSpinLocks created (device.initializeVgpuMemory granted)).2 =
        device.initializeVgpuMemory granted ∧
      (device.initializeVgpuMemory granted).HalfDone ∧
      ((device.initializeVgpuMemory granted).startServices
        registered).Ready [] := by
  obtain ⟨hhardware, hcount, _, hlocks, haddress, hbuffer, hinitialized,
    hregistered⟩ := @initializeVgpuMemory_frame device granted
  have hmapped := h.initializeVgpuMemory granted
  rw [← hhardware] at hmapped
  generalize device.initializeVgpuMemory granted = mapped at *
  refine ⟨createSpinLocks_same hmapped (fun hne => ?_) created,
    hmapped.halfDone, ?_, ?_, ?_⟩
  · apply List.mem_append_right
    apply mem_hardware_locks
    rw [hlocks]
    exact hroom (hcount ▸ hne)
  · obtain ⟨_, hsame, _, hbuffer, _, hnow⟩ :=
      @startServices_frame mapped registered
    unfold prepared
    rw [hsame, hbuffer, hnow, hregistered, hnotified, Bool.false_or]
    exact hmapped.startServices registered (services_not_mem registered _)
  · rw [(startServices_frame registered).2.2.1, haddress]
    exact hmemory
  · obtain ⟨_, _, _, hsame, hnow, _⟩ := @startServices_frame mapped registered
    rw [hsame, hnow, hbuffer, hinitialized, hbitmap]
    rfl

/-- The outcomes of `VirtioVgpuDevicePrepareHardware` on a bare device. -/
theorem Bare.prepareHardware (h : device.Bare) {results : PrepareResults}
    (hroom : results.RoomForLocks) :
    PnpWorld.Sound
      { phase :=
          if (device.virtioVgpuDevicePrepareHardware results).1 then
            .prepared
          else .failed results.virtIOWdfInitialize
        device := (device.virtioVgpuDevicePrepareHardware results).2 } := by
  have hallocated := h.owns.allocateHardware results
  obtain ⟨hcount, _, hlocks, hmemory, hbitmap, hnotified⟩ :=
    @allocateHardware_frame device results
  unfold virtioVgpuDevicePrepareHardware
  cases hstarted : results.virtIOWdfInitialize with
  | false => exact h
  | true =>
      dsimp only
      rw [Bool.not_true, if_neg Bool.false_ne_true]
      generalize device.allocateHardware results = allocated at *
      cases hnone : allocated.vgpuMemoryAddress.isNone with
      | true => exact @Owns.halfDone _ none hallocated
      | false =>
          have hsome : allocated.vgpuMemoryAddress.isSome = true := by
            rw [← Option.not_isNone, hnone]
            rfl
          obtain ⟨hlocked, hhalf, hready⟩ := hallocated.lockedServices
            (hbitmap.trans h.bitmap) (hnotified.trans h.notified) hsome
            (fun hne => by
              rw [hlocks]
              exact hroom hstarted (hmemory ▸ hsome)
                (numQueues_ne_zero (hcount ▸ hne)))
            results.wdfSpinLockCreate results.regionBitmap
            results.psSetCreateProcessNotifyRoutine
          rw [if_neg Bool.false_ne_true]
          cases hdone : (createSpinLocks results.wdfSpinLockCreate
              (allocated.initializeVgpuMemory results.regionBitmap)).1 with
          | false =>
              rw [if_neg Bool.false_ne_true, hlocked]
              exact hhalf
          | true =>
              rw [if_pos rfl, hlocked]
              exact hready

/-- Without room for the locks the first one goes through a null pointer. -/
theorem Bare.prepareHardware_misused (h : device.Bare)
    {results : PrepareResults} (hroom : ¬results.RoomForLocks) :
    (device.virtioVgpuDevicePrepareHardware results).2.custody.misused ≠
      [] := by
  have hallocated := h.owns.allocateHardware results
  obtain ⟨hcount, _, hlocks, hmemory, _⟩ :=
    @allocateHardware_frame device results
  unfold PrepareResults.RoomForLocks at hroom
  push Not at hroom
  obtain ⟨hstarted, hgranted, hqueues, hnone⟩ := hroom
  unfold virtioVgpuDevicePrepareHardware
  dsimp only
  rw [hstarted, Bool.not_true, if_neg Bool.false_ne_true]
  generalize device.allocateHardware results = allocated at *
  obtain ⟨_, hmappedCount, _, hmappedLocks, _⟩ :=
    @initializeVgpuMemory_frame allocated results.regionBitmap
  have hnull : allocated.virtQueueLocks = none := by
    rw [← Option.not_isSome_iff_eq_none, hlocks]
    exact hnone
  have hmisused := createSpinLocks_misused
    (hallocated.initializeVgpuMemory results.regionBitmap)
    (hmappedLocks.trans hnull)
    (fun hzero => hqueues (UInt8.toNat_inj.mp
      (hcount.symm.trans (hmappedCount.symm.trans hzero))))
    results.wdfSpinLockCreate
  have haddress : ¬allocated.vgpuMemoryAddress.isNone = true := by
    rw [← Option.not_isSome, hmemory, hgranted]
    exact Bool.false_ne_true
  rw [if_neg haddress]
  split
  · exact startServices_keeps_misused _ hmisused
  · exact hmisused

theorem Ready.releaseHardware (h : device.Ready [])
    (hinitialized : device.bInitialize = true)
    (hnotified : device.notified = true) :
    device.virtioVgpuDeviceReleaseHardware.Bare where
  owns :=
    { custody := h.owns.releaseHardware h.memory (h.bitmap ▸ hinitialized)
        hnotified
      below := fun asset hasset => absurd hasset List.not_mem_nil }
  bitmap := by
    rw [virtioVgpuDeviceReleaseHardware, (stopServices_frame _).1]
    exact freeHardware_bInitialize h.memory
  notified := (stopServices_frame _).2

theorem Ready.d0Entry (h : device.Ready []) {results : D0EntryResults}
    (hqueues : device.numVirtQueues ≠ 0 → results.params = true →
      device.virtQueues.isSome = true) :
    PnpWorld.Sound
      { phase :=
          if (device.virtioVgpuDeviceD0Entry results).1 then .working
          else .prepared
        device := (device.virtioVgpuDeviceD0Entry results).2 } := by
  obtain ⟨hprepared, haddress, hbuffer, hinitialized⟩ :=
    @d0Entry_frame device results
  have howns : device.Owns device.prepared := h.owns
  have hentered := howns.d0Entry results (fun hcount hparams =>
    List.mem_append_right _ (List.mem_append_right _
      (mem_hardware_queues (hqueues hcount hparams)))) virtIOQueues_not_mem
  rw [← hprepared] at hentered
  have hmemory := haddress ▸ h.memory
  have hbitmap : (device.virtioVgpuDeviceD0Entry results).2.bInitialize =
      (device.virtioVgpuDeviceD0Entry
        results).2.regionBitmapBuffer.isSome := by
    rw [hinitialized, hbuffer]
    exact h.bitmap
  generalize device.virtioVgpuDeviceD0Entry results = entered at *
  obtain ⟨succeeded, entered⟩ := entered
  cases succeeded with
  | false => exact ⟨hentered, hmemory, hbitmap⟩
  | true => exact ⟨hentered, hmemory, hbitmap⟩

/-- A release of what is not there is out of turn. -/
theorem releaseHardware_misused {assets : List PnpAsset}
    {asset : PnpAsset} (h : device.Owns assets)
    (hasset : asset ∈ device.freed ++ stopped) (hnot : asset ∉ assets) :
    device.virtioVgpuDeviceReleaseHardware.custody.misused ≠ [] := by
  rw [releaseHardware_custody, ← Custody.releaseAll_append]
  exact h.custody.releaseAll_misused hasset hnot

/-- `UninitializeVgpuMemory` frees the bitmap buffer that is not there. -/
theorem Ready.releaseHardware_misused (h : device.Ready [])
    (hinitialized : ¬device.bInitialize = true) :
    device.virtioVgpuDeviceReleaseHardware.custody.misused ≠ [] := by
  have hnull : device.regionBitmapBuffer = none := by
    rw [← Option.not_isSome_iff_eq_none, ← h.bitmap]
    exact hinitialized
  have hfreed : .pool none ∈ device.freed := by
    unfold freed
    rw [if_pos h.memory, hnull]
    simp
  exact PnpDevice.releaseHardware_misused h.owns
    (List.mem_append_left _ hfreed) h.owns.null_not_mem

/-- `PsSetCreateProcessNotifyRoutine` removes the routine that is not
registered. -/
theorem Ready.releaseHardware_unregistered (h : device.Ready [])
    (hnotified : ¬device.notified = true) :
    device.virtioVgpuDeviceReleaseHardware.custody.misused ≠ [] := by
  have hstopped : .processNotify ∈ device.freed ++ stopped :=
    List.mem_append_right _ (by simp [stopped])
  refine PnpDevice.releaseHardware_misused h.owns hstopped fun hmem => ?_
  have hprepared : .processNotify ∈ device.prepared := hmem
  rcases List.mem_append.mp hprepared with hservice | hhardware
  · rw [Bool.not_eq_true] at hnotified
    rw [hnotified] at hservice
    simp [services, notifyOf] at hservice
  · exact services_not_mem true _ .processNotify
      (by simp [services, notifyOf]) hhardware

end PnpDevice

namespace PnpWorld

variable {world : PnpWorld}

theorem Sound.balanced (h : world.Sound) : world.Balanced := by
  obtain ⟨phase, device⟩ := world
  unfold Balanced
  cases phase with
  | removed =>
      have hcustody := (show device.Bare from h).owns.custody
      exact ⟨hcustody.misused, fun _ => hcustody.held_eq_nil.mpr rfl⟩
  | failed initialized =>
      cases initialized with
      | false =>
          exact ⟨(show device.Bare from h).owns.custody.misused, nofun⟩
      | true =>
          obtain ⟨assets, howns, _⟩ := (show device.HalfDone from h)
          exact ⟨howns.custody.misused, nofun⟩
  | prepared =>
      exact ⟨(show device.Ready [] from h).owns.custody.misused, nofun⟩
  | working =>
      exact ⟨(show device.Ready _ from h).owns.custody.misused, nofun⟩

theorem Sound.step (h : world.Sound) {action : PnpAction}
    (hhandles : world.Handles action) : (world.step action).Sound := by
  obtain ⟨phase, device⟩ := world
  cases action with
  | prepareHardware results =>
      cases phase with
      | removed => exact PnpDevice.Bare.prepareHardware h (hhandles rfl)
      | _ => exact h
  | d0Entry results =>
      cases phase with
      | prepared => exact PnpDevice.Ready.d0Entry h (hhandles rfl)
      | _ => exact h
  | d0Exit =>
      cases phase with
      | working =>
          have hready : device.Ready [.virtIOQueues] := h
          exact ⟨hready.owns.release, hready.memory, hready.bitmap⟩
      | _ => exact h
  | releaseHardware =>
      cases phase with
      | prepared =>
          exact PnpDevice.Ready.releaseHardware h (hhandles.1 rfl).1
            (hhandles.1 rfl).2
      | failed initialized => exact absurd rfl (hhandles.2 initialized)
      | _ => exact h
  | giveUp =>
      cases phase with
      | failed initialized =>
          cases initialized with
          | false => exact h
          | true => exact absurd rfl hhandles
      | _ => exact h

theorem Sound.not_balanced (h : world.Sound) {action : PnpAction}
    (hhandles : ¬world.Handles action) : ¬(world.step action).Balanced := by
  obtain ⟨phase, device⟩ := world
  cases action with
  | prepareHardware results =>
      cases phase with
      | removed =>
          have hroom : ¬results.RoomForLocks := fun hroom =>
            hhandles fun _ => hroom
          exact fun hbalanced =>
            PnpDevice.Bare.prepareHardware_misused h hroom hbalanced.1
      | _ => simp [Handles] at hhandles
  | d0Entry results =>
      cases phase with
      | prepared =>
          have hready : device.Ready [] := h
          unfold Handles at hhandles
          push Not at hhandles
          obtain ⟨_, hcount, hparams, hqueues⟩ := hhandles
          have hnull := Option.not_isSome_iff_eq_none.mp hqueues
          exact fun hbalanced => PnpDevice.d0Entry_misused hready.owns
            results hcount hparams hnull hbalanced.1
      | _ => simp [Handles] at hhandles
  | d0Exit => exact absurd trivial hhandles
  | releaseHardware =>
      cases phase with
      | prepared =>
          have hready : device.Ready [] := h
          have hmissing : ¬(device.bInitialize = true ∧
              device.notified = true) := fun hboth =>
            hhandles ⟨fun _ => hboth, by simp⟩
          rintro ⟨hmisused, _⟩
          rcases not_and_or.mp hmissing with hinitialized | hnotified
          · exact hready.releaseHardware_misused hinitialized hmisused
          · exact hready.releaseHardware_unregistered hnotified hmisused
      | failed initialized =>
          have hstopped : PnpAsset.lookAside (.idr 0) ∈
              device.freed ++ PnpDevice.stopped :=
            List.mem_append_right _ (by simp [PnpDevice.stopped])
          cases initialized with
          | false =>
              have hbare : device.Bare := h
              exact fun hbalanced => PnpDevice.releaseHardware_misused
                hbare.owns hstopped List.not_mem_nil hbalanced.1
          | true =>
              obtain ⟨assets, howns, _, hidr⟩ := h
              exact fun hbalanced => PnpDevice.releaseHardware_misused howns
                hstopped hidr hbalanced.1
      | removed => simp [Handles] at hhandles
      | working => simp [Handles] at hhandles
  | giveUp =>
      cases phase with
      | failed initialized =>
          cases initialized with
          | false => simp [Handles] at hhandles
          | true =>
              obtain ⟨assets, howns, hdevice, _⟩ := h
              rintro ⟨_, hheld⟩
              have hnil := howns.custody.held_eq_nil.mp (hheld rfl)
              rw [hnil] at hdevice
              cases hdevice
      | _ => simp [Handles] at hhandles

theorem start_sound : PnpWorld.start.Sound :=
  ⟨⟨.empty, fun _ hasset => absurd hasset List.not_mem_nil⟩, rfl, rfl⟩

end PnpWorld

/-- In every run of the framework's calls what is acquired is given back, and
nothing is used or given back that is not there, exactly if the framework goes
on with nothing that the callbacks leave half done. -/
theorem hardware_balanced_iff (actions : List PnpAction) :
    Along PnpWorld.step (fun world action => (world.step action).Balanced)
        PnpWorld.start actions ↔
      Along PnpWorld.step PnpWorld.Handles PnpWorld.start actions := by
  refine along_iff PnpWorld.Sound ?_ ?_ PnpWorld.start_sound
  · intro world action hsound
    constructor
    · intro hbalanced
      by_contra hhandles
      exact hsound.not_balanced hhandles hbalanced
    · intro hhandles
      exact (hsound.step hhandles).balanced
  · exact fun world action hsound hhandles => hsound.step hhandles

end VgpuDriver
