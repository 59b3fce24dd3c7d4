import VgpuDriver.Data.Rounding
import VgpuDriver.Control

namespace VgpuDriver

open Data

/-! `ROUND_UP` at 32 and 64 bits, and the pages that are reserved for a rounded
size. -/

theorem roundUp_uint32_eq (size : UInt32) :
    (roundUp size 0x1000).toNat = roundUpWord 32 pageSize size.toNat := by
  have hsum : (size + 0x1000 - 1).toNat =
      (size.toNat + (pageSize - 1)) % 2 ^ 32 := by
    have hassoc : size + 0x1000 - 1 = size + 0xfff := by
      rw [UInt32.sub_eq_add_neg, UInt32.add_assoc]
      rfl
    rw [hassoc, UInt32.toNat_add]
    rfl
  have hmask : (-(0x1000 : UInt32)).toNat = (2 ^ (32 - 12) - 1) <<< 12 := by
    decide
  unfold roundUp
  rw [UInt32.toNat_and, hmask,
    and_highMask (by decide) (UInt32.toNat_lt _), hsum]
  rfl

theorem roundUp_uint64_eq (size : UInt64) :
    (roundUp size 0x1000).toNat = roundUpWord 64 pageSize size.toNat := by
  have hsum : (size + 0x1000 - 1).toNat =
      (size.toNat + (pageSize - 1)) % 2 ^ 64 := by
    have hassoc : size + 0x1000 - 1 = size + 0xfff := by
      rw [UInt64.sub_eq_add_neg, UInt64.add_assoc]
      rfl
    rw [hassoc, UInt64.toNat_add]
    rfl
  have hmask : (-(0x1000 : UInt64)).toNat = (2 ^ (64 - 12) - 1) <<< 12 := by
    decide
  unfold roundUp
  rw [UInt64.toNat_and, hmask,
    and_highMask (by decide) (UInt64.toNat_lt _), hsum]
  rfl

/-- `rounded` is a positive number of whole pages that holds `size` bytes. -/
structure RoundsUp (size rounded : Nat) : Prop where
  positive : 0 < rounded
  aligned : rounded % pageSize = 0
  enough : size ≤ rounded

theorem roundsUp_uint32_iff (size : UInt32) :
    RoundsUp size.toNat (roundUp size 0x1000).toNat ↔
      0 < size.toNat ∧ size.toNat ≤ 0xfffff000 := by
  have hsound := roundUpWord_sound_iff pageSize_pos
    (by decide : pageSize ≤ 2 ^ 32) size.toNat_lt
  rw [roundUp_uint32_eq]
  refine Iff.trans ⟨fun h => ⟨h.positive, h.enough⟩,
    fun h => ⟨h.1, roundUpWord_mod, h.2⟩⟩ (hsound.trans ?_)
  unfold pageSize
  omega

theorem roundsUp_uint64_iff (size : UInt64) :
    RoundsUp size.toNat (roundUp size 0x1000).toNat ↔
      0 < size.toNat ∧ size.toNat ≤ 0xfffffffffffff000 := by
  have hsound := roundUpWord_sound_iff pageSize_pos
    (by decide : pageSize ≤ 2 ^ 64) size.toNat_lt
  rw [roundUp_uint64_eq]
  refine Iff.trans ⟨fun h => ⟨h.positive, h.enough⟩,
    fun h => ⟨h.1, roundUpWord_mod, h.2⟩⟩ (hsound.trans ?_)
  unfold pageSize
  omega

theorem roundUp_uint32_eq_zero {size : UInt32}
    (hsize : ¬(0 < size.toNat ∧ size.toNat ≤ 0xfffff000)) :
    (roundUp size 0x1000).toNat = 0 := by
  rw [roundUp_uint32_eq]
  by_cases hzero : size.toNat = 0
  · rw [hzero]
    exact roundUpWord_zero pageSize_pos (by decide)
  · refine roundUpWord_of_wraps pageSize_pos size.toNat_lt ?_ (by decide)
    unfold pageSize
    omega

theorem roundsUp_resource_iff (size : UInt32) :
    RoundsUp size.toNat (resourceBufferSize size) ↔
      size.toNat ≤ 0xfffff000 := by
  unfold resourceBufferSize
  split
  · rename_i hzero
    rw [hzero]
    exact iff_of_true ⟨by decide, by decide, by decide⟩ (by decide)
  · rename_i hsize
    have hpositive : 0 < size.toNat := by
      apply Nat.pos_of_ne_zero
      intro hzero
      exact hsize (UInt32.toNat_inj.mp hzero)
    rw [roundsUp_uint32_iff]
    exact and_iff_right hpositive

theorem resourceBufferSize_lt (size : UInt32) :
    resourceBufferSize size < 2 ^ 32 := by
  unfold resourceBufferSize
  split
  · decide
  · exact UInt32.toNat_lt _

/-! The pages that `AllocateVgpuMemory` reserves. -/

/-- The `size` bytes from `memory` on lie in pages that the call reserved. -/
def Covers (before after : VgpuMemory) (memory : MemoryDescriptor)
    (size : Nat) : Prop :=
  ∃ index,
    memory.virtualAddress = before.virtualAddress + index * pageSize ∧
    memory.physicalAddress = before.physicalAddress + index * pageSize ∧
    ∀ offset < size,
      index + offset / pageSize < before.regionBitmap.size ∧
        before.regionBitmap.bit (index + offset / pageSize) = false ∧
        after.regionBitmap.bit (index + offset / pageSize) = true

theorem allocateVgpuMemory_covers {size rounded : Nat}
    {before after : VgpuMemory} {memory : MemoryDescriptor}
    (halloc : allocateVgpuMemory rounded before = some (memory, after))
    (haligned : rounded % pageSize = 0) (hsmall : rounded < 2 ^ 32)
    (henough : size ≤ rounded) : Covers before after memory size := by
  obtain ⟨_, hlocked⟩ := allocateVgpuMemory_eq_some halloc
  obtain ⟨index, hfound, rfl, rfl⟩ := allocateLocked_eq_some_iff.mp hlocked
  have hcount : toUlong (rounded / pageSize) = rounded / pageSize :=
    Nat.mod_eq_of_lt (Nat.lt_of_le_of_lt (Nat.div_le_self _ _) hsmall)
  rw [hcount] at hfound
  have hrun := Bitmap.findRun_isRun hfound
  have hinside := hrun.1
  refine ⟨index, rfl, rfl, fun offset hoffset => ?_⟩
  have hpage : offset / pageSize < rounded / pageSize :=
    Nat.div_lt_div_of_lt_of_dvd (Nat.dvd_of_mod_eq_zero haligned)
      (by omega)
  refine ⟨by omega, hrun.bit_eq (Nat.le_add_right _ _) (by omega), ?_⟩
  dsimp only
  rw [hcount]
  exact Bitmap.bit_fill_inside _ _ (Nat.le_add_right _ _) (by omega)

theorem allocateVgpuMemory_zero_isSome (memory : VgpuMemory) :
    (allocateVgpuMemory 0 memory).isSome = true ↔
      0 < memory.regionBitmap.size := by
  have hcount : toUlong (0 / pageSize) = 0 := by decide
  have hlocked : allocateVgpuMemory 0 memory = allocateLocked 0 memory := by
    simp [allocateVgpuMemory]
  rw [hlocked]
  unfold allocateLocked rtlFindClearBitsAndSet
  dsimp only
  rw [hcount]
  cases hfound : memory.regionBitmap.findRun false 0
      memory.lastFreeIndex with
  | none =>
      have hnowhere := Bitmap.findRun_eq_none_iff.mp hfound
      refine iff_of_false (by simp) fun hpositive => ?_
      exact hnowhere 0 hpositive ⟨by omega, by omega⟩
  | some index =>
      refine iff_of_true (by simp) ?_
      apply Nat.pos_of_ne_zero
      intro hempty
      have hmissing : memory.regionBitmap.findRun false 0
          memory.lastFreeIndex = none :=
        Bitmap.findRun_eq_none_iff.mpr (by omega)
      rw [hfound] at hmissing
      cases hmissing

theorem regionBitmap_size_pos_of_allocate {size : Nat} {memory : VgpuMemory}
    {grant : MemoryDescriptor × VgpuMemory}
    (halloc : allocateVgpuMemory size memory = some grant) :
    0 < memory.regionBitmap.size := by
  obtain ⟨_, hlocked⟩ := allocateVgpuMemory_eq_some halloc
  obtain ⟨descriptor, next⟩ := grant
  obtain ⟨index, hfound, _⟩ := allocateLocked_eq_some_iff.mp hlocked
  apply Nat.pos_of_ne_zero
  intro hempty
  have hmissing : memory.regionBitmap.findRun false
      (toUlong (size / pageSize)) memory.lastFreeIndex = none :=
    Bitmap.findRun_eq_none_iff.mpr (by omega)
  rw [hfound] at hmissing
  cases hmissing

end VgpuDriver
