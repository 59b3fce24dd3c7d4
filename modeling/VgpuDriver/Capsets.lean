import VgpuDriver.Control
import VgpuDriver.Data.Transition

namespace VgpuDriver

open Data

/-! The capset table and its mask over starts and stops of the device. -/

/-- `1LL << id`; the processor takes the shift count modulo 64. -/
def capsetBit (id : UInt64) : UInt64 := 1 <<< (id % 64)

theorem capsetBit_toNat (id : UInt64) :
    (capsetBit id).toNat = 2 ^ (id.toNat % 64) := by
  have hlt : id.toNat % 64 < 64 := Nat.mod_lt _ (by decide)
  unfold capsetBit
  rw [UInt64.toNat_shiftLeft, UInt64.toNat_mod]
  change 1 <<< (id.toNat % 64 % 64) % 2 ^ 64 = _
  rw [Nat.mod_mod, Nat.one_shiftLeft]
  exact Nat.mod_eq_of_lt (Nat.pow_lt_pow_right (by decide) hlt)

/-- The mask advertises the capset. -/
def Advertises (mask : UInt64) (id : Nat) : Prop := mask.toNat.testBit id = true

instance (mask : UInt64) (id : Nat) : Decidable (Advertises mask id) :=
  inferInstanceAs (Decidable (_ = _))

theorem advertises_or_capsetBit (mask id : UInt64) (other : Nat) :
    Advertises (mask ||| capsetBit id) other ↔
      Advertises mask other ∨ id.toNat % 64 = other := by
  unfold Advertises
  rw [UInt64.toNat_or, Nat.testBit_or, capsetBit_toNat, Nat.testBit_two_pow]
  simp

theorem eq_zero_iff_not_advertises (mask : UInt64) :
    mask = 0 ↔ ∀ id < 64, ¬Advertises mask id := by
  constructor
  · rintro rfl id _ hid
    simp [Advertises] at hid
  · intro hnone
    apply UInt64.toNat_inj.mp
    apply Nat.eq_of_testBit_eq
    intro id
    by_cases hid : id < 64
    · simpa [Advertises] using hnone id hid
    · have hhigh : mask.toNat < 2 ^ id :=
        Nat.lt_of_lt_of_le mask.toNat_lt
          (Nat.pow_le_pow_right (by decide) (by omega))
      rw [Nat.testBit_lt_two_pow hhigh]
      simp

/-- What the host answers to one GET_CAPSET_INFO. -/
structure CapsetInfo where
  capsetId : UInt32
  capsetMaxVersion : UInt32
  capsetMaxSize : UInt32
  deriving DecidableEq, Repr

namespace Capsets

/-- One iteration of `GetCapsInfo`. -/
def storeInfo (info : Nat → CapsetInfo) (capsets : Capsets) (index : Nat) :
    Capsets :=
  { capsets with
    data := capsets.data.set index
      { id := (info index).capsetId
        maxVersion := (info index).capsetMaxVersion
        maxSize := (info index).capsetMaxSize }
    capsetIdMask :=
      capsets.capsetIdMask ||| capsetBit (info index).capsetId.toUInt64 }

/-- `GetCapsInfo`; `info` are the host's answers by index. -/
def getCapsInfo (info : Nat → CapsetInfo) (capsets : Capsets) : Capsets :=
  (List.range capsets.numCaps.toNat).foldl (storeInfo info) capsets

section GetCapsInfo

variable (info : Nat → CapsetInfo) (capsets : Capsets) (count : Nat)

/-- The loop after `count` iterations. -/
def afterInfos : Capsets :=
  (List.range count).foldl (storeInfo info) capsets

@[simp] theorem afterInfos_zero : afterInfos info capsets 0 = capsets := rfl

theorem afterInfos_succ :
    afterInfos info capsets (count + 1) =
      storeInfo info (afterInfos info capsets count) count := by
  simp [afterInfos, List.range_succ]

@[simp] theorem afterInfos_numCaps :
    (afterInfos info capsets count).numCaps = capsets.numCaps := by
  induction count with
  | zero => rfl
  | succ count ih => rw [afterInfos_succ]; exact ih

@[simp] theorem afterInfos_initialized :
    (afterInfos info capsets count).initialized = capsets.initialized := by
  induction count with
  | zero => rfl
  | succ count ih => rw [afterInfos_succ]; exact ih

@[simp] theorem afterInfos_data_length :
    (afterInfos info capsets count).data.length = capsets.data.length := by
  induction count with
  | zero => rfl
  | succ count ih => rw [afterInfos_succ]; simp [storeInfo, ih]

theorem advertises_afterInfos (id : Nat) :
    Advertises (afterInfos info capsets count).capsetIdMask id ↔
      Advertises capsets.capsetIdMask id ∨
        ∃ index < count, (info index).capsetId.toNat % 64 = id := by
  induction count with
  | zero => simp
  | succ count ih =>
      rw [afterInfos_succ]
      change Advertises (_ ||| capsetBit _) id ↔ _
      rw [advertises_or_capsetBit, ih, UInt32.toNat_toUInt64, or_assoc]
      simp only [Nat.exists_lt_succ_right]

theorem afterInfos_data (index : Nat) (hindex : index < count)
    (hlength : count ≤ capsets.data.length) :
    (afterInfos info capsets count).data[index]? = some
      { id := (info index).capsetId
        maxVersion := (info index).capsetMaxVersion
        maxSize := (info index).capsetMaxSize } := by
  induction count with
  | zero => omega
  | succ count ih =>
      rw [afterInfos_succ]
      simp only [storeInfo, List.getElem?_set, afterInfos_data_length]
      by_cases hlast : count = index
      · simp only [hlast, if_true]
        rw [if_pos (by omega)]
      · rw [if_neg hlast]
        exact ih (by omega) (by omega)

end GetCapsInfo

theorem getCapsInfo_eq (info : Nat → CapsetInfo) (capsets : Capsets) :
    getCapsInfo info capsets =
      afterInfos info capsets capsets.numCaps.toNat := rfl

/-- What `VirtioVgpuDevicePrepareHardware` does; the pool block is zeroed. -/
def prepareHardware (numCaps : UInt32) (capsets : Capsets) : Capsets :=
  { capsets with
    numCaps := numCaps
    initialized := false
    data := List.replicate numCaps.toNat
      { id := 0, maxVersion := 0, maxSize := 0 } }

/-- What `VirtioVgpuDeviceReleaseHardware` does: `Data` is freed. -/
def releaseHardware (capsets : Capsets) : Capsets :=
  { capsets with data := [] }

/-- The table is what `Data` holds below `NumCaps`. -/
def Lists (capsets : Capsets) (id : Nat) : Prop :=
  ∃ index < capsets.numCaps.toNat, ∃ entry,
    capsets.data[index]? = some entry ∧ entry.id.toNat = id

def MaskMatches (capsets : Capsets) : Prop :=
  ∀ id < 64, Advertises capsets.capsetIdMask id ↔ capsets.Lists id

end Capsets

/-- The capsets of the device, whether it runs, and the shift counts that
built the mask. -/
structure CapsetDevice where
  started : Bool
  capsets : Capsets
  shiftCounts : List Nat
  deriving DecidableEq, Repr

inductive CapsetAction
  | prepareHardware (numCaps : UInt32)
  | getParams (info : Nat → CapsetInfo)
  | releaseHardware

namespace CapsetDevice

/-- The zeroed `Capsets` of the loaded driver. -/
def loaded : CapsetDevice where
  started := false
  capsets :=
    { initialized := false, numCaps := 0, data := [], capsetIdMask := 0 }
  shiftCounts := []

/-- `GetCapsInfo` as the first `CtlGetParams` calls it. -/
def discover (info : Nat → CapsetInfo) (device : CapsetDevice) :
    CapsetDevice where
  started := device.started
  capsets := { device.capsets.getCapsInfo info with initialized := true }
  shiftCounts :=
    (List.range device.capsets.numCaps.toNat).map
      (fun index => (info index).capsetId.toNat) ++ device.shiftCounts

/-- A running device is not started again, and a stopped one gets neither
requests nor a second stop. -/
def step (device : CapsetDevice) : CapsetAction → CapsetDevice
  | .prepareHardware numCaps =>
      if device.started then device
      else
        { device with
          started := true
          capsets := device.capsets.prepareHardware numCaps }
  | .getParams info =>
      if device.started = true ∧ device.capsets.initialized = false then
        device.discover info
      else device
  | .releaseHardware =>
      if device.started then
        { device with
          started := false
          capsets := device.capsets.releaseHardware }
      else device

/-- What holds whenever the table is initialised, and of every shift. -/
def Consistent (device : CapsetDevice) : Prop :=
  (device.capsets.initialized = true → device.capsets.MaskMatches) ∧
    ∀ count ∈ device.shiftCounts, count < 64

/-- A running device has the table it allocated. -/
def Allocated (device : CapsetDevice) : Prop :=
  device.started = true →
    device.capsets.data.length = device.capsets.numCaps.toNat

/-- The first discovery after a start gets ids below 64, all bits left in the
mask among them; a device that has discovered its table is only stopped with
an empty mask. -/
def Orderly (device : CapsetDevice) : CapsetAction → Prop
  | .prepareHardware _ => True
  | .getParams info =>
      device.started = true → device.capsets.initialized = false →
        (∀ index < device.capsets.numCaps.toNat,
          (info index).capsetId.toNat < 64) ∧
        ∀ id < 64, Advertises device.capsets.capsetIdMask id →
          ∃ index < device.capsets.numCaps.toNat,
            (info index).capsetId.toNat = id
  | .releaseHardware =>
      device.started = true → device.capsets.initialized = true →
        device.capsets.capsetIdMask = 0

theorem Allocated.step {device : CapsetDevice} (h : device.Allocated)
    (action : CapsetAction) : (device.step action).Allocated := by
  cases action with
  | prepareHardware numCaps =>
      by_cases hstarted : device.started = true
      · simpa only [CapsetDevice.step, if_pos hstarted] using h
      · simp only [CapsetDevice.step, if_neg hstarted]
        intro _
        simp [Capsets.prepareHardware]
  | getParams info =>
      simp only [CapsetDevice.step]
      split
      · intro hstarted
        simpa [discover, Capsets.getCapsInfo_eq] using h hstarted
      · exact h
  | releaseHardware =>
      simp only [CapsetDevice.step]
      split
      · exact nofun
      · exact h

section Discover

variable {device : CapsetDevice} {info : Nat → CapsetInfo}

/-- After a discovery the table lists what the host answered. -/
theorem discover_lists (h : device.Allocated) (hstarted : device.started = true)
    (id : Nat) :
    (device.discover info).capsets.Lists id ↔
      ∃ index < device.capsets.numCaps.toNat,
        (info index).capsetId.toNat = id := by
  have hlength := h hstarted
  have hdata := fun index hindex =>
    Capsets.afterInfos_data info device.capsets
      device.capsets.numCaps.toNat index hindex (by omega)
  simp only [Capsets.Lists, discover, Capsets.getCapsInfo_eq,
    Capsets.afterInfos_numCaps]
  constructor
  · rintro ⟨index, hindex, entry, hentry, rfl⟩
    rw [hdata index hindex] at hentry
    cases hentry
    exact ⟨index, hindex, rfl⟩
  · rintro ⟨index, hindex, rfl⟩
    exact ⟨index, hindex, _, hdata index hindex, rfl⟩

theorem discover_advertises (id : Nat) :
    Advertises (device.discover info).capsets.capsetIdMask id ↔
      Advertises device.capsets.capsetIdMask id ∨
        ∃ index < device.capsets.numCaps.toNat,
          (info index).capsetId.toNat % 64 = id := by
  simp only [discover, Capsets.getCapsInfo_eq]
  exact Capsets.advertises_afterInfos info device.capsets _ id

theorem discover_shiftCounts :
    (∀ count ∈ (device.discover info).shiftCounts, count < 64) ↔
      (∀ index < device.capsets.numCaps.toNat,
        (info index).capsetId.toNat < 64) ∧
        ∀ count ∈ device.shiftCounts, count < 64 := by
  simp only [discover, List.mem_append, List.mem_map, List.mem_range]
  constructor
  · intro hall
    exact ⟨fun index hindex => hall _ (Or.inl ⟨index, hindex, rfl⟩),
      fun count hcount => hall count (Or.inr hcount)⟩
  · rintro ⟨hnew, hold⟩ count (⟨index, hindex, rfl⟩ | hcount)
    · exact hnew index hindex
    · exact hold count hcount

theorem discover_consistent (h : device.Allocated)
    (hconsistent : device.Consistent) (hstarted : device.started = true) :
    (device.discover info).Consistent ↔
      (∀ index < device.capsets.numCaps.toNat,
        (info index).capsetId.toNat < 64) ∧
      ∀ id < 64, Advertises device.capsets.capsetIdMask id →
        ∃ index < device.capsets.numCaps.toNat,
          (info index).capsetId.toNat = id := by
  unfold Consistent Capsets.MaskMatches
  simp only [discover_lists h hstarted, discover_advertises,
    discover_shiftCounts]
  constructor
  · rintro ⟨hmatches, hbelow, _⟩
    refine ⟨hbelow, fun id hid hleft => ?_⟩
    exact (hmatches rfl id hid).mp (Or.inl hleft)
  · rintro ⟨hbelow, hleft⟩
    refine ⟨fun _ id hid => ⟨?_, ?_⟩, hbelow, hconsistent.2⟩
    · rintro (hold | ⟨index, hindex, hmod⟩)
      · exact hleft id hid hold
      · rw [Nat.mod_eq_of_lt (hbelow index hindex)] at hmod
        exact ⟨index, hindex, hmod⟩
    · rintro ⟨index, hindex, heq⟩
      refine Or.inr ⟨index, hindex, ?_⟩
      rw [Nat.mod_eq_of_lt (hbelow index hindex), heq]

end Discover

/-- A stopped device lists nothing. -/
theorem releaseHardware_matches (capsets : Capsets) :
    capsets.releaseHardware.MaskMatches ↔ capsets.capsetIdMask = 0 := by
  rw [eq_zero_iff_not_advertises]
  simp [Capsets.MaskMatches, Capsets.Lists, Capsets.releaseHardware]

/-- A step keeps the device consistent exactly when it is orderly. -/
theorem consistent_step {device : CapsetDevice} (h : device.Allocated)
    (hconsistent : device.Consistent) (action : CapsetAction) :
    (device.step action).Consistent ↔ device.Orderly action := by
  cases action with
  | prepareHardware numCaps =>
      refine iff_of_true ?_ trivial
      simp only [step]
      split
      · exact hconsistent
      · exact ⟨nofun, hconsistent.2⟩
  | getParams info =>
      simp only [step, Orderly]
      by_cases hfirst : device.started = true ∧
          device.capsets.initialized = false
      · rw [if_pos hfirst, discover_consistent h hconsistent hfirst.1]
        simp [hfirst]
      · rw [if_neg hfirst]
        refine iff_of_true hconsistent ?_
        exact fun hstarted hinitialized =>
          absurd ⟨hstarted, hinitialized⟩ hfirst
  | releaseHardware =>
      simp only [step, Orderly]
      by_cases hstarted : device.started = true
      · rw [if_pos hstarted]
        unfold Consistent
        simp only [releaseHardware_matches]
        simp only [hstarted, forall_const]
        exact and_iff_left hconsistent.2
      · rw [if_neg hstarted]
        exact iff_of_true hconsistent fun hrunning =>
          absurd hrunning hstarted

end CapsetDevice

/-- The mask and the table agree over a run exactly when it is orderly. -/
theorem capset_mask_matches (actions : List CapsetAction) :
    Always CapsetDevice.step CapsetDevice.Consistent CapsetDevice.loaded
        actions ↔
      Along CapsetDevice.step CapsetDevice.Orderly CapsetDevice.loaded
        actions :=
  always_iff_along (fun _ action h => h.step action)
    (fun _ action h hconsistent =>
      CapsetDevice.consistent_step h hconsistent action)
    (fun _ => rfl) ⟨nofun, nofun⟩

/-- The device offers capset 1, is restarted and offers capset 2. -/
def restartedCapsets : List CapsetAction :=
  [.prepareHardware 1,
    .getParams fun _ =>
      { capsetId := 1, capsetMaxVersion := 1, capsetMaxSize := 308 },
    .releaseHardware, .prepareHardware 1,
    .getParams fun _ =>
      { capsetId := 2, capsetMaxVersion := 2, capsetMaxSize := 1380 }]

/-- The mask still advertises capset 1, which the table does not list. -/
theorem capset_mask_stale :
    let reached := runFrom CapsetDevice.step CapsetDevice.loaded
      restartedCapsets
    reached.started = true ∧ reached.capsets.initialized = true ∧
      ¬reached.capsets.MaskMatches := by
  refine ⟨by decide, by decide, fun hmatches => ?_⟩
  obtain ⟨index, hindex, entry, hentry, hid⟩ :=
    (hmatches 1 (by decide)).mp (by decide +kernel)
  have hfirst : index = 0 := Nat.lt_one_iff.mp hindex
  subst hfirst
  cases hentry
  exact absurd hid (by decide)

end VgpuDriver
