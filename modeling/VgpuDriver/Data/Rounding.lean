import Mathlib

namespace VgpuDriver.Data

/-! Sizes rounded up by a mask in unsigned words. -/

theorem and_highMask {word width low : Nat} (hlow : low ≤ width)
    (hword : word < 2 ^ width) :
    word &&& ((2 ^ (width - low) - 1) <<< low) = word / 2 ^ low * 2 ^ low := by
  rw [← Nat.shiftRight_eq_div_pow, ← Nat.shiftLeft_eq]
  apply Nat.eq_of_testBit_eq
  intro position
  rw [Nat.testBit_and, Nat.testBit_shiftLeft, Nat.testBit_shiftLeft,
    Nat.testBit_two_pow_sub_one, Nat.testBit_shiftRight]
  by_cases hhigh : low ≤ position
  · rw [Nat.add_sub_cancel' hhigh]
    by_cases hinside : position < width
    · have hshifted : position - low < width - low := by omega
      simp [hhigh, hshifted]
    · have hbig : word < 2 ^ position :=
        Nat.lt_of_lt_of_le hword
          (Nat.pow_le_pow_right (by decide) (by omega))
      simp [Nat.testBit_lt_two_pow hbig]
  · simp [hhigh]

/-- Rounding up to a multiple of `unit` in words of `width` bits: the sum
wraps around. -/
def roundUpWord (width unit size : Nat) : Nat :=
  (size + (unit - 1)) % 2 ^ width / unit * unit

section RoundUpWord

variable {width unit size : Nat}

theorem roundUpWord_mod : roundUpWord width unit size % unit = 0 :=
  Nat.mul_mod_left _ _

/-- While the sum does not wrap the result is large enough. -/
theorem le_roundUpWord (hunit : 0 < unit)
    (hfits : size + (unit - 1) < 2 ^ width) :
    size ≤ roundUpWord width unit size := by
  unfold roundUpWord
  rw [Nat.mod_eq_of_lt hfits]
  have hrest := Nat.mod_lt (size + (unit - 1)) hunit
  have hsplit := Nat.div_add_mod' (size + (unit - 1)) unit
  omega

theorem roundUpWord_pos (hunit : 0 < unit) (hsize : 0 < size)
    (hfits : size + (unit - 1) < 2 ^ width) :
    0 < roundUpWord width unit size :=
  Nat.lt_of_lt_of_le hsize (le_roundUpWord hunit hfits)

/-- A sum that wraps leaves less than one unit. -/
theorem roundUpWord_of_wraps (hunit : 0 < unit) (hsize : size < 2 ^ width)
    (hwraps : ¬size + (unit - 1) < 2 ^ width) (hsmall : unit ≤ 2 ^ width) :
    roundUpWord width unit size = 0 := by
  have hrest : (size + (unit - 1)) % 2 ^ width < unit := by
    rw [Nat.mod_eq_sub_mod (by omega), Nat.mod_eq_of_lt (by omega)]
    omega
  unfold roundUpWord
  rw [Nat.div_eq_of_lt hrest, Nat.zero_mul]

theorem roundUpWord_zero (hunit : 0 < unit) (hsmall : unit ≤ 2 ^ width) :
    roundUpWord width unit 0 = 0 := by
  unfold roundUpWord
  rw [Nat.zero_add, Nat.mod_eq_of_lt (by omega),
    Nat.div_eq_of_lt (by omega), Nat.zero_mul]

/-- The result is positive and large enough for exactly the sizes in the
middle. -/
theorem roundUpWord_sound_iff (hunit : 0 < unit) (hsmall : unit ≤ 2 ^ width)
    (hsize : size < 2 ^ width) :
    (0 < roundUpWord width unit size ∧
        size ≤ roundUpWord width unit size) ↔
      0 < size ∧ size + (unit - 1) < 2 ^ width := by
  constructor
  · rintro ⟨hpositive, _⟩
    constructor
    · apply Nat.pos_of_ne_zero
      rintro rfl
      rw [roundUpWord_zero hunit hsmall] at hpositive
      exact absurd hpositive (Nat.lt_irrefl 0)
    · by_contra hwraps
      rw [roundUpWord_of_wraps hunit hsize hwraps hsmall] at hpositive
      exact absurd hpositive (Nat.lt_irrefl 0)
  · rintro ⟨hpositive, hfits⟩
    exact ⟨roundUpWord_pos hunit hpositive hfits,
      le_roundUpWord hunit hfits⟩

end RoundUpWord

end VgpuDriver.Data
