import Mathlib

namespace VgpuDriver.Data

/-! Finite bit maps searched for runs of equal bits. -/

/-- A map of `size` bits; positions from `size` on are not part of the map. -/
structure Bitmap where
  size : Nat
  bit : Nat → Bool

namespace Bitmap

/-- The map whose bits are all clear. -/
def cleared (size : Nat) : Bitmap where
  size := size
  bit := fun _ => false

/-- The `count` bits from `start` on lie inside the map and all equal `value`. -/
def IsRun (map : Bitmap) (value : Bool) (start count : Nat) : Prop :=
  start + count ≤ map.size ∧
    ∀ offset, offset < count → map.bit (start + offset) = value

instance (map : Bitmap) (value : Bool) (start count : Nat) :
    Decidable (map.IsRun value start count) :=
  inferInstanceAs (Decidable (_ ∧ _))

/-- The smallest position from `first` on at which a run starts. -/
def findFrom (map : Bitmap) (value : Bool) (count first : Nat) : Option Nat :=
  (List.range map.size).find? fun start =>
    decide (first ≤ start ∧ map.IsRun value start count)

/-- Search from the hint on and, when nothing is found there, in the whole
map.  A hint outside the map counts as zero. -/
def findRun (map : Bitmap) (value : Bool) (count hint : Nat) : Option Nat :=
  match map.findFrom value count (if hint < map.size then hint else 0) with
  | some start => some start
  | none => map.findFrom value count 0

/-- Give the `count` bits from `start` on one value. -/
def fill (map : Bitmap) (value : Bool) (start count : Nat) : Bitmap where
  size := map.size
  bit := fun position =>
    if start ≤ position ∧ position < start + count then value
    else map.bit position

@[simp] theorem size_fill (map : Bitmap) (value : Bool) (start count : Nat) :
    (map.fill value start count).size = map.size := rfl

theorem bit_fill_inside (map : Bitmap) (value : Bool)
    {start count position : Nat}
    (hlow : start ≤ position) (hhigh : position < start + count) :
    (map.fill value start count).bit position = value :=
  if_pos ⟨hlow, hhigh⟩

theorem bit_fill_outside (map : Bitmap) (value : Bool)
    {start count position : Nat}
    (houtside : ¬(start ≤ position ∧ position < start + count)) :
    (map.fill value start count).bit position = map.bit position :=
  if_neg houtside

@[simp] theorem fill_zero (map : Bitmap) (value : Bool) (start : Nat) :
    map.fill value start 0 = map := by
  cases map with
  | mk size bit =>
      simp only [fill, Nat.add_zero, Bitmap.mk.injEq, true_and]
      funext position
      exact if_neg (by omega)

theorem IsRun.bit_eq {map : Bitmap} {value : Bool} {start count : Nat}
    (hrun : map.IsRun value start count) {position : Nat}
    (hlow : start ≤ position) (hhigh : position < start + count) :
    map.bit position = value := by
  have hoffset := hrun.2 (position - start) (by omega)
  rwa [Nat.add_sub_cancel' hlow] at hoffset

theorem findFrom_eq_some_iff {map : Bitmap} {value : Bool}
    {count first start : Nat} :
    map.findFrom value count first = some start ↔
      start < map.size ∧ first ≤ start ∧ map.IsRun value start count ∧
        ∀ earlier, earlier < start → first ≤ earlier →
          ¬map.IsRun value earlier count := by
  simp only [findFrom, List.find?_range_eq_some, decide_eq_true_eq,
    List.mem_range, Bool.not_eq_true', decide_eq_false_iff_not, not_and]
  constructor
  · rintro ⟨⟨hfirst, hrun⟩, hsize, hleast⟩
    exact ⟨hsize, hfirst, hrun, hleast⟩
  · rintro ⟨hsize, hfirst, hrun, hleast⟩
    exact ⟨⟨hfirst, hrun⟩, hsize, hleast⟩

theorem findFrom_eq_none_iff {map : Bitmap} {value : Bool}
    {count first : Nat} :
    map.findFrom value count first = none ↔
      ∀ start, start < map.size → first ≤ start →
        ¬map.IsRun value start count := by
  simp [findFrom, List.find?_eq_none]

/-- Whatever position the search reports, a run of the wanted bits is there. -/
theorem findRun_isRun {map : Bitmap} {value : Bool} {count hint start : Nat}
    (hfound : map.findRun value count hint = some start) :
    map.IsRun value start count := by
  unfold findRun at hfound
  split at hfound
  · rename_i position hposition
    cases hfound
    exact (findFrom_eq_some_iff.mp hposition).2.2.1
  · exact (findFrom_eq_some_iff.mp hfound).2.2.1

/-- A run that sits exactly at the hint is the one reported. -/
theorem findRun_at_hint {map : Bitmap} {value : Bool} {count hint : Nat}
    (hinside : hint < map.size) (hrun : map.IsRun value hint count) :
    map.findRun value count hint = some hint := by
  have hfound : map.findFrom value count hint = some hint :=
    findFrom_eq_some_iff.mpr
      ⟨hinside, Nat.le_refl hint, hrun, fun _ hearlier hfirst =>
        absurd hfirst (by omega)⟩
  simp [findRun, hinside, hfound]

theorem findRun_eq_none_iff {map : Bitmap} {value : Bool}
    {count hint : Nat} :
    map.findRun value count hint = none ↔
      ∀ start, start < map.size → ¬map.IsRun value start count := by
  unfold findRun
  split
  · rename_i position hposition
    have hspec := findFrom_eq_some_iff.mp hposition
    simp only [reduceCtorEq, false_iff, not_forall, not_not]
    exact ⟨position, hspec.1, hspec.2.2.1⟩
  · simp [findFrom_eq_none_iff]

/-- The number of clear bits of the map. -/
def clearCount (map : Bitmap) : Nat :=
  ((Finset.range map.size).filter fun position =>
    map.bit position = false).card

theorem clearCount_cleared (size : Nat) :
    (cleared size).clearCount = size := by
  simp [clearCount, cleared]

private theorem clearCount_fill_split {map : Bitmap} {start count : Nat}
    (hinside : start + count ≤ map.size) :
    (map.fill false start count).clearCount =
      (map.fill true start count).clearCount + count := by
  have hsplit : (Finset.range map.size).filter
        (fun position => (map.fill false start count).bit position = false) =
      (Finset.range map.size).filter
        (fun position => (map.fill true start count).bit position = false) ∪
        Finset.Ico start (start + count) := by
    ext position
    by_cases hrun : start ≤ position ∧ position < start + count
    · have hbit := bit_fill_inside map false hrun.1 hrun.2
      simp only [Finset.mem_filter, Finset.mem_range, Finset.mem_union,
        Finset.mem_Ico, hbit]
      have : position < map.size := by omega
      simp [hrun, this]
    · simp [bit_fill_outside map _ hrun, hrun]
  have hdisjoint : Disjoint ((Finset.range map.size).filter
        (fun position => (map.fill true start count).bit position = false))
      (Finset.Ico start (start + count)) := by
    rw [Finset.disjoint_left]
    intro position hclear hmem
    have hrun := Finset.mem_Ico.mp hmem
    have hbit := (Finset.mem_filter.mp hclear).2
    rw [bit_fill_inside map true hrun.1 hrun.2] at hbit
    exact absurd hbit (by decide)
  unfold clearCount
  simp only [size_fill]
  rw [hsplit, Finset.card_union_of_disjoint hdisjoint, Nat.card_Ico]
  omega

theorem IsRun.fill_self {map : Bitmap} {value : Bool} {start count : Nat}
    (hrun : map.IsRun value start count) :
    map.fill value start count = map := by
  cases map with
  | mk size bit =>
      simp only [fill, Bitmap.mk.injEq, true_and]
      funext position
      split
      · rename_i hposition
        exact (hrun.bit_eq hposition.1 hposition.2).symm
      · rfl

theorem IsRun.clearCount_set {map : Bitmap} {start count : Nat}
    (hrun : map.IsRun false start count) :
    (map.fill true start count).clearCount + count = map.clearCount := by
  rw [← clearCount_fill_split hrun.1, hrun.fill_self]

theorem IsRun.clearCount_clear {map : Bitmap} {start count : Nat}
    (hrun : map.IsRun true start count) :
    (map.fill false start count).clearCount = map.clearCount + count := by
  rw [clearCount_fill_split hrun.1, hrun.fill_self]

theorem clearCount_le_size (map : Bitmap) : map.clearCount ≤ map.size := by
  simpa [clearCount] using
    Finset.card_filter_le (Finset.range map.size)
      (fun position => map.bit position = false)

end Bitmap

end VgpuDriver.Data
