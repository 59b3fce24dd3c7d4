import VgpuDriver.Data.Bitmap

namespace VgpuDriver.Data

/-! Families of intervals that partition the set bits of a map. -/

/-- The positions `start`, …, `start + length - 1`. -/
structure Interval where
  start : Nat
  length : Nat
  deriving DecidableEq, Repr

namespace Interval

def covers (interval : Interval) (position : Nat) : Bool :=
  decide (interval.start ≤ position ∧
    position < interval.start + interval.length)

theorem covers_iff {interval : Interval} {position : Nat} :
    interval.covers position = true ↔
      interval.start ≤ position ∧
        position < interval.start + interval.length := by
  simp [covers]

/-- No position lies in both intervals. -/
def Disjoint (left right : Interval) : Prop :=
  ∀ position, ¬(left.covers position = true ∧ right.covers position = true)

theorem disjoint_iff {left right : Interval} :
    left.Disjoint right ↔
      min (left.start + left.length) (right.start + right.length) ≤
        max left.start right.start := by
  constructor
  · intro h
    by_contra hcommon
    apply h (max left.start right.start)
    rw [covers_iff, covers_iff]
    omega
  · intro hends position hboth
    rw [covers_iff, covers_iff] at hboth
    omega

instance (left right : Interval) : Decidable (left.Disjoint right) :=
  decidable_of_iff _ disjoint_iff.symm

theorem Disjoint.shorten {left right : Interval} (h : left.Disjoint right)
    {length : Nat} (hlength : length ≤ right.length) :
    left.Disjoint { right with length := length } := by
  intro position hboth
  apply h position
  refine ⟨hboth.1, ?_⟩
  have hright := hboth.2
  rw [covers_iff] at hright ⊢
  dsimp only at hright
  omega

/-- The interval with every position replaced by `unit` ones. -/
def scale (base unit : Nat) (interval : Interval) : Interval where
  start := base + interval.start * unit
  length := interval.length * unit

theorem Disjoint.scale {left right : Interval} (h : left.Disjoint right)
    (base unit : Nat) :
    (left.scale base unit).Disjoint (right.scale base unit) := by
  intro position hboth
  have hcovers : ∀ interval : Interval,
      (interval.scale base unit).covers position = true →
        interval.covers ((position - base) / unit) = true := by
    intro interval hposition
    rw [covers_iff] at hposition ⊢
    obtain ⟨hlow, hhigh⟩ := hposition
    simp only [Interval.scale] at hlow hhigh
    have hunit : 0 < unit := by
      apply Nat.pos_of_ne_zero
      intro hzero
      rw [hzero] at hlow hhigh
      omega
    constructor
    · rw [Nat.le_div_iff_mul_le hunit]
      omega
    · rw [Nat.div_lt_iff_lt_mul hunit, Nat.add_mul]
      omega
  exact h _ ⟨hcovers left hboth.1, hcovers right hboth.2⟩

end Interval

/-- Every set bit is covered by exactly one interval of the family, every
clear bit by none. -/
def Partition (intervals : List Interval) (bit : Nat → Bool) : Prop :=
  ∀ position, intervals.countP (·.covers position) = (bit position).toNat

namespace Partition

variable {intervals : List Interval} {interval : Interval}

private theorem count_cons (interval : Interval) (intervals : List Interval)
    (position : Nat) :
    (interval :: intervals).countP (·.covers position) =
      intervals.countP (·.covers position) +
        if interval.covers position = true then 1 else 0 :=
  List.countP_cons

theorem empty : Partition [] (fun _ => false) := fun _ => rfl

theorem perm {other : List Interval} {bit : Nat → Bool}
    (h : Partition intervals bit) (hperm : intervals.Perm other) :
    Partition other bit := fun position => by
  rw [← hperm.countP_eq]
  exact h position

theorem bit_iff {bit : Nat → Bool} (h : Partition intervals bit)
    (position : Nat) :
    bit position = true ↔
      ∃ interval ∈ intervals, interval.covers position = true := by
  have hcount := h position
  rw [← List.countP_pos_iff, hcount]
  cases bit position <;> simp

/-- Two intervals of the family at different places share no position. -/
theorem pairwise_disjoint {bit : Nat → Bool}
    (h : Partition intervals bit) :
    intervals.Pairwise Interval.Disjoint := by
  have hcount : ∀ position, intervals.countP (·.covers position) ≤ 1 := by
    intro position
    rw [h position]
    cases bit position <;> simp
  clear h
  induction intervals with
  | nil => exact List.Pairwise.nil
  | cons head tail ih =>
      refine List.Pairwise.cons ?_ (ih fun position => ?_)
      · intro other hother position hboth
        have hpositive : 0 < tail.countP (·.covers position) :=
          List.countP_pos_iff.mpr ⟨other, hother, hboth.2⟩
        have hbound := hcount position
        rw [count_cons, if_pos hboth.1] at hbound
        omega
      · exact Nat.le_trans (List.sublist_cons_self head tail).countP_le
          (hcount position)

theorem disjoint_run {map : Bitmap} (run : Interval)
    (h : Partition intervals map.bit) (hinterval : interval ∈ intervals)
    (hrun : map.IsRun false run.start run.length) :
    run.Disjoint interval := by
  intro position hboth
  have hset := (h.bit_iff position).mpr ⟨interval, hinterval, hboth.2⟩
  have hrange := Interval.covers_iff.mp hboth.1
  rw [hrun.bit_eq hrange.1 hrange.2] at hset
  cases hset

theorem isRun_head {map : Bitmap}
    (h : Partition (interval :: intervals) map.bit)
    (hinside : interval.start + interval.length ≤ map.size) :
    map.IsRun true interval.start interval.length := by
  refine ⟨hinside, fun offset hoffset => ?_⟩
  refine (h.bit_iff _).mpr ⟨interval, by simp, ?_⟩
  rw [Interval.covers_iff]
  omega

theorem cons_fill {map : Bitmap} (h : Partition intervals map.bit)
    (hrun : map.IsRun false interval.start interval.length) :
    Partition (interval :: intervals)
      (map.fill true interval.start interval.length).bit := by
  intro position
  by_cases hcovers : interval.covers position = true
  · have hrange := Interval.covers_iff.mp hcovers
    rw [count_cons, if_pos hcovers, h position,
      hrun.bit_eq hrange.1 hrange.2,
      Bitmap.bit_fill_inside _ _ hrange.1 hrange.2]
    rfl
  · rw [count_cons, if_neg hcovers, h position, Bitmap.bit_fill_outside]
    · rfl
    · rwa [← Interval.covers_iff]

/-- Clearing the bits of a part at the end of an interval leaves the family
with that interval shortened. -/
theorem shorten {map : Bitmap} {length : Nat}
    (h : Partition (interval :: intervals) map.bit)
    (hshorter : length ≤ interval.length) :
    Partition ({ interval with length := length } :: intervals)
      (map.fill false (interval.start + length)
        (interval.length - length)).bit := by
  intro position
  have hposition := h position
  by_cases hcut : interval.start + length ≤ position ∧
      position < interval.start + length + (interval.length - length)
  · have hwhole : interval.covers position = true := by
      rw [Interval.covers_iff]; omega
    have hrest : ¬({ interval with length := length } : Interval).covers
        position = true := by
      rw [Interval.covers_iff]; simp only; omega
    have hset : map.bit position = true :=
      (h.bit_iff position).mpr ⟨interval, by simp, hwhole⟩
    rw [count_cons, if_pos hwhole, hset] at hposition
    rw [count_cons, if_neg hrest, Bitmap.bit_fill_inside _ _ hcut.1 hcut.2]
    simpa using hposition
  · have hsame : ({ interval with length := length } : Interval).covers
        position = interval.covers position := by
      rw [Bool.eq_iff_iff, Interval.covers_iff, Interval.covers_iff]
      simp only
      omega
    rw [count_cons] at hposition
    rw [Bitmap.bit_fill_outside _ _ hcut, count_cons, hsame]
    exact hposition

/-! Gaps between the intervals. -/

variable {map : Bitmap} {count : Nat}

/-- A set bit behind a clear one starts an interval. -/
private theorem start_of_rise (h : Partition intervals map.bit)
    {stop : Nat} (hclear : map.bit (stop - 1) = false) (hpositive : 0 < stop)
    (hset : map.bit stop = true) :
    stop ∈ intervals.map Interval.start := by
  obtain ⟨interval, hinterval, hcovers⟩ := (h.bit_iff stop).mp hset
  have hrange := Interval.covers_iff.mp hcovers
  have hstart : interval.start = stop := by
    by_contra hearlier
    have hbefore : map.bit (stop - 1) = true := by
      refine (h.bit_iff _).mpr ⟨interval, hinterval, ?_⟩
      rw [Interval.covers_iff]
      omega
    rw [hclear] at hbefore
    cases hbefore
  exact List.mem_map.mpr ⟨interval, hinterval, hstart⟩

/-- Where the gap ends that a clear bit lies in: at the start of an interval or
at the end of the map, fewer than `count` bits on if the map has no run of
that many clear bits. -/
private theorem exists_gapEnd (h : Partition intervals map.bit)
    (hnone : ∀ start, start < map.size → ¬map.IsRun false start count)
    {position : Nat} (hposition : position < map.size)
    (hclear : map.bit position = false) :
    ∃ stop ∈ map.size :: intervals.map Interval.start,
      position < stop ∧ stop < position + count := by
  have hexists : ∃ stop, position < stop ∧
      (stop = map.size ∨ map.bit stop = true) :=
    ⟨map.size, hposition, .inl rfl⟩
  obtain ⟨stop, ⟨hbehind, hstop⟩, hfirst⟩ :=
    (⟨Nat.find hexists, Nat.find_spec hexists,
        fun _ hbetween => Nat.find_min hexists hbetween⟩ :
      ∃ stop, (position < stop ∧ (stop = map.size ∨ map.bit stop = true)) ∧
        ∀ between, between < stop → ¬(position < between ∧
          (between = map.size ∨ map.bit between = true)))
  have hinside : stop ≤ map.size := by
    by_contra houtside
    exact hfirst map.size (by omega) ⟨hposition, .inl rfl⟩
  have hgap : ∀ between, position ≤ between → between < stop →
      map.bit between = false := by
    intro between hlow hbetween
    rcases Nat.eq_or_lt_of_le hlow with rfl | hlater
    · exact hclear
    · by_contra hset
      exact hfirst between hbetween
        ⟨hlater, .inr (Bool.eq_true_of_not_eq_false hset)⟩
  refine ⟨stop, ?_, hbehind, ?_⟩
  · rcases hstop with rfl | hset
    · exact List.mem_cons_self
    · refine List.mem_cons_of_mem _ (h.start_of_rise ?_ (by omega) hset)
      exact hgap _ (by omega) (by omega)
  · by_contra hlong
    refine hnone position hposition ⟨by omega, fun offset hoffset => ?_⟩
    exact hgap _ (by omega) (by omega)

/-- A map without a run of `count` clear bits is fragmented: in front of each
interval of the family and behind the last one lie fewer clear bits. -/
theorem clearCount_le (h : Partition intervals map.bit)
    (hnone : ∀ start, start < map.size → ¬map.IsRun false start count) :
    map.clearCount ≤ (intervals.length + 1) * (count - 1) := by
  classical
  let stops := (map.size :: intervals.map Interval.start).toFinset
  have hstops : stops.card ≤ intervals.length + 1 := by
    have hcard := List.toFinset_card_le
      (map.size :: intervals.map Interval.start)
    rwa [List.length_cons, List.length_map] at hcard
  have hend : ∀ position ∈ (Finset.range map.size).filter
      (fun position => map.bit position = false),
      ∃ stop ∈ map.size :: intervals.map Interval.start,
        position < stop ∧ stop < position + count := by
    intro position hmem
    obtain ⟨hrange, hclear⟩ := Finset.mem_filter.mp hmem
    exact h.exists_gapEnd hnone (Finset.mem_range.mp hrange) hclear
  choose! stop hmem hbehind hshort using hend
  -- a clear bit is known by the end of its gap and its distance from it
  have hinjective := Finset.card_le_card_of_injOn
    (t := stops ×ˢ Finset.Ico 1 count)
    (fun position => (stop position, stop position - position))
    (by
      intro position hposition
      refine Finset.mem_product.mpr ⟨?_, ?_⟩
      · exact List.mem_toFinset.mpr (hmem position hposition)
      · have hlow := hbehind position hposition
        have hhigh := hshort position hposition
        change stop position - position ∈ Finset.Ico 1 count
        rw [Finset.mem_Ico]
        omega)
    (by
      intro left hleft right hright hsame
      obtain ⟨hstop, hdistance⟩ := Prod.mk.inj hsame
      have hleftBehind := hbehind left hleft
      have hrightBehind := hbehind right hright
      omega)
  rw [Finset.card_product, Nat.card_Ico] at hinjective
  exact Nat.le_trans hinjective (Nat.mul_le_mul_right _ hstops)
end Partition

end VgpuDriver.Data
