import VgpuDriver.Memory

namespace VgpuDriver

open Data

/-! What `FreeVgpuMemory` and `ReallocVgpuMemory` do with a range that is not
reserved any more. -/

/-- The pages from `start` on are given back: all of them, when all are
reserved, and nothing at all otherwise. -/
structure FreesExactly (before : VgpuMemory) (start count : Nat)
    (after : VgpuMemory) : Prop where
  reserved : before.regionBitmap.IsRun true start count →
    after.regionBitmap = before.regionBitmap.fill false start count ∧
      after.availableMemorySize =
        sizeTAdd before.availableMemorySize (count * pageSize)
  detected : ¬before.regionBitmap.IsRun true start count →
    after.regionBitmap = before.regionBitmap ∧
      after.availableMemorySize = before.availableMemorySize

/-- The same of a shrink, which tells by its result whether it gave the pages
back. -/
structure ShrinksExactly (before : VgpuMemory) (start count : Nat)
    (result : Bool × VgpuMemory) : Prop where
  frees : FreesExactly before start count result.2
  reported : result.1 = true ↔ before.regionBitmap.IsRun true start count

/-- Nowhere in the map is there a run of set bits of the length that the
search looks for. -/
def NoSetRun (memory : VgpuMemory) (count : Nat) : Prop :=
  ∀ start < memory.regionBitmap.size,
    ¬memory.regionBitmap.IsRun true start (toUlong count)

section Search

variable {before after : VgpuMemory} {start count hint : Nat}

theorem findRun_of_reserved (hbits : before.regionBitmap.size < 2 ^ 32)
    (hrun : before.regionBitmap.IsRun true start count)
    (hstart : start < before.regionBitmap.size) (hhint : hint = start) :
    toUlong count = count ∧
      before.regionBitmap.findRun true (toUlong count) hint =
        some start := by
  have hinside := hrun.1
  have hcount : toUlong count = count := Nat.mod_eq_of_lt (by omega)
  refine ⟨hcount, ?_⟩
  rw [hcount, hhint]
  exact Bitmap.findRun_at_hint hstart hrun

theorem fill_ne_of_run {map : Bitmap} {position length : Nat}
    (hrun : map.IsRun true position length) (hlength : 0 < length) :
    map.fill false position length ≠ map := by
  intro heq
  have hset : map.bit position = true := by
    have hfirst := hrun.2 0 hlength
    simpa using hfirst
  have hclear : (map.fill false position length).bit position = false :=
    Bitmap.bit_fill_inside map false (Nat.le_refl _) (by omega)
  rw [heq, hset] at hclear
  exact absurd hclear (by decide)

variable (hint) in
/-- A search that is made for a range not reserved must find nothing.  `after`
is the state behind the search. -/
theorem freesExactly_iff (hbits : before.regionBitmap.size < 2 ^ 32)
    (hsize : count * pageSize < 2 ^ 64)
    (hstart : before.regionBitmap.IsRun true start count →
      start < before.regionBitmap.size ∧ hint = start)
    (hempty : count = 0 → start ≤ before.regionBitmap.size)
    (hnone : before.regionBitmap.findRun true (toUlong count) hint = none →
      after.regionBitmap = before.regionBitmap ∧
        after.availableMemorySize = before.availableMemorySize)
    (hsome : ∀ index,
      before.regionBitmap.findRun true (toUlong count) hint = some index →
      after.regionBitmap =
          before.regionBitmap.fill false index (toUlong count) ∧
        after.availableMemorySize =
          sizeTAdd before.availableMemorySize (count * pageSize)) :
    FreesExactly before start count after ↔
      before.regionBitmap.IsRun true start count ∨
        NoSetRun before count := by
  by_cases hrun : before.regionBitmap.IsRun true start count
  · obtain ⟨hinside, hhint⟩ := hstart hrun
    obtain ⟨hcount, hfound⟩ := findRun_of_reserved hbits hrun hinside hhint
    have hafter := hsome start hfound
    rw [hcount] at hafter
    exact iff_of_true ⟨fun _ => hafter, fun hnot => absurd hrun hnot⟩
      (Or.inl hrun)
  · cases hfound : before.regionBitmap.findRun true (toUlong count)
        hint with
    | none =>
        have hnowhere := Bitmap.findRun_eq_none_iff.mp hfound
        exact iff_of_true
          ⟨fun hreserved => absurd hreserved hrun, fun _ => hnone hfound⟩
          (Or.inr hnowhere)
    | some index =>
        have hother := Bitmap.findRun_isRun hfound
        have hafter := hsome index hfound
        refine iff_of_false (fun hexact => ?_) (fun hnowhere => ?_)
        · obtain ⟨hmap, hsame⟩ := hexact.detected hrun
          by_cases hlength : 0 < toUlong count
          · exact fill_ne_of_run hother hlength (hafter.1.symm.trans hmap)
          · -- the length was a multiple of 2 ^ 32 pages
            have hzero : toUlong count = 0 := by omega
            have hpositive : 0 < count := by
              apply Nat.pos_of_ne_zero
              intro hnothing
              exact hrun ⟨by have := hempty hnothing; omega, by omega⟩
            rw [hafter.2] at hsame
            unfold sizeTAdd at hsame
            unfold pageSize at hsize hsame
            omega
        · have hmissing : before.regionBitmap.findRun true (toUlong count)
              hint = none :=
            Bitmap.findRun_eq_none_iff.mpr (hnowhere.resolve_left hrun)
          rw [hfound] at hmissing
          cases hmissing

end Search

section Callers

variable {memory : VgpuMemory} {index count origin target : Nat}

theorem freeVgpuMemory_exact_iff (hbits : memory.regionBitmap.size < 2 ^ 32)
    (hindex : index < memory.regionBitmap.size)
    (hsize : count * pageSize < 2 ^ 64) :
    FreesExactly memory index count
        (freeVgpuMemory (memory.virtualAddress + index * pageSize)
          (count * pageSize) memory) ↔
      memory.regionBitmap.IsRun true index count ∨ NoSetRun memory count := by
  have hpages : count * pageSize / pageSize = count :=
    Nat.mul_div_cancel _ pageSize_pos
  have hhint := pageHint_of_offset memory.virtualAddress index (by omega)
  refine freesExactly_iff index hbits hsize
    (fun _ => ⟨hindex, rfl⟩) (fun _ => by omega) ?_ ?_
  · intro hnone
    simp [freeVgpuMemory, rtlFindSetBitsAndClear, hpages, hhint, hnone]
  · intro found hfound
    rw [← hpages, ← hhint] at hfound
    rw [freeVgpuMemory_of_findRun hfound, hpages]
    exact ⟨rfl, rfl⟩

/-- The hint of a shrink by page multiples. -/
def hintOfShrink (memory : VgpuMemory) (index target : Nat) : Nat :=
  shrinkHint (memory.virtualAddress + index * pageSize) memory.virtualAddress
    (target * pageSize)

/-- What a shrink by page multiples does depends on its search only. -/
theorem reallocVgpuMemory_pages (hshrink : target < origin) :
    reallocVgpuMemory (memory.virtualAddress + index * pageSize)
        (origin * pageSize) (target * pageSize) memory =
      match memory.regionBitmap.findRun true (toUlong (origin - target))
          (hintOfShrink memory index target) with
      | none => (false, memory)
      | some found =>
          (true,
            { memory with
              regionBitmap := memory.regionBitmap.fill false found
                (toUlong (origin - target))
              lastFreeIndex := found
              availableMemorySize := sizeTAdd memory.availableMemorySize
                ((origin - target) * pageSize) }) := by
  have hchange : origin * pageSize - target * pageSize =
      (origin - target) * pageSize :=
    (Nat.sub_mul origin target pageSize).symm
  have hless : target * pageSize < origin * pageSize :=
    Nat.mul_lt_mul_of_pos_right hshrink pageSize_pos
  have hne : origin * pageSize ≠ target * pageSize := by omega
  have hge : ¬origin * pageSize < target * pageSize := by omega
  simp only [reallocVgpuMemory, rtlFindSetBitsAndClear, hne, hge, if_false,
    hchange, Nat.mul_div_cancel _ pageSize_pos, hintOfShrink]
  cases memory.regionBitmap.findRun true (toUlong (origin - target))
      (shrinkHint (memory.virtualAddress + index * pageSize)
        memory.virtualAddress (target * pageSize)) <;> rfl

theorem reallocVgpuMemory_exact_iff
    (hbits : memory.regionBitmap.size < 2 ^ 32) (hshrink : target < origin)
    (hsize : origin * pageSize < 2 ^ 64) :
    ShrinksExactly memory (index + target) (origin - target)
        (reallocVgpuMemory (memory.virtualAddress + index * pageSize)
          (origin * pageSize) (target * pageSize) memory) ↔
      memory.regionBitmap.IsRun true (index + target) (origin - target) ∨
        NoSetRun memory (origin - target) := by
  have hat : memory.regionBitmap.IsRun true (index + target)
      (origin - target) →
      index + target < memory.regionBitmap.size ∧
        hintOfShrink memory index target = index + target := by
    intro hrun
    have hinside := hrun.1
    exact ⟨by omega, shrinkHint_of_offset _ _ _ (by omega)⟩
  have hless : (origin - target) * pageSize ≤ origin * pageSize :=
    Nat.mul_le_mul_right _ (Nat.sub_le _ _)
  have hfrees : FreesExactly memory (index + target) (origin - target)
        (reallocVgpuMemory (memory.virtualAddress + index * pageSize)
          (origin * pageSize) (target * pageSize) memory).2 ↔
      memory.regionBitmap.IsRun true (index + target) (origin - target) ∨
        NoSetRun memory (origin - target) := by
    refine freesExactly_iff (hintOfShrink memory index target) hbits
      (by omega) hat (by omega) ?_ ?_
    · intro hnone
      simp [reallocVgpuMemory_pages hshrink, hnone]
    · intro found hfound
      simp [reallocVgpuMemory_pages hshrink, hfound]
  refine ⟨fun h => hfrees.mp h.frees, fun h => ⟨hfrees.mpr h, ?_⟩⟩
  rw [reallocVgpuMemory_pages hshrink]
  cases hfound : memory.regionBitmap.findRun true (toUlong (origin - target))
      (hintOfShrink memory index target) with
  | none =>
      refine iff_of_false nofun fun hrun => ?_
      obtain ⟨hstart, hhint⟩ := hat hrun
      have hsome := (findRun_of_reserved hbits hrun hstart hhint).2
      rw [hfound] at hsome
      cases hsome
  | some found =>
      refine iff_of_true rfl (h.resolve_right fun hnowhere => ?_)
      rw [Bitmap.findRun_eq_none_iff.mpr hnowhere] at hfound
      cases hfound

end Callers

/-- A bad free touches no foreign pages exactly when the range is reserved or
there is no reserved run of its length anywhere. -/
theorem bad_free_exact_iff (memory : VgpuMemory)
    (index count origin target : Nat)
    (hbits : memory.regionBitmap.size < 2 ^ 32)
    (hindex : index < memory.regionBitmap.size)
    (hcount : count * pageSize < 2 ^ 64) (hshrink : target < origin)
    (horigin : origin * pageSize < 2 ^ 64) :
    (FreesExactly memory index count
          (freeVgpuMemory (memory.virtualAddress + index * pageSize)
            (count * pageSize) memory) ∧
        ShrinksExactly memory (index + target) (origin - target)
          (reallocVgpuMemory (memory.virtualAddress + index * pageSize)
            (origin * pageSize) (target * pageSize) memory)) ↔
      (memory.regionBitmap.IsRun true index count ∨
          NoSetRun memory count) ∧
        (memory.regionBitmap.IsRun true (index + target)
            (origin - target) ∨
          NoSetRun memory (origin - target)) :=
  and_congr (freeVgpuMemory_exact_iff hbits hindex hcount)
    (reallocVgpuMemory_exact_iff hbits hshrink horigin)

/-- Four pages, of which the third one is reserved. -/
def thirdPageReserved : VgpuMemory where
  bInitialize := true
  virtualAddress := 0x10000
  physicalAddress := 0x80000
  availableMemorySize := 0x3000
  regionBitmap := (Bitmap.cleared 4).fill true 2 1
  lastFreeIndex := 3

/-- Freeing the reserved page and shrinking away two free ones. -/
theorem bad_free_exact_third :
    FreesExactly thirdPageReserved 2 1
        (freeVgpuMemory (0x10000 + 2 * pageSize) (1 * pageSize)
          thirdPageReserved) ∧
      ShrinksExactly thirdPageReserved (2 + 0) (2 - 0)
        (reallocVgpuMemory (0x10000 + 2 * pageSize) (2 * pageSize)
          (0 * pageSize) thirdPageReserved) :=
  (bad_free_exact_iff thirdPageReserved 2 1 2 0 (by decide) (by decide)
    (by decide) (by decide) (by decide)).mpr
      ⟨Or.inl (by decide),
        Or.inr (by unfold NoSetRun; decide)⟩

/-- Freeing the first page, which is free already, gives the third one back
while it is in use. -/
theorem bad_free_foreign_page :
    ¬FreesExactly thirdPageReserved 0 1
      (freeVgpuMemory (0x10000 + 0 * pageSize) (1 * pageSize)
        thirdPageReserved) := by
  intro h
  have hsame := (h.detected (by decide)).1
  have hbit := congrArg (fun map => map.bit 2) hsame
  exact absurd hbit (by decide +kernel)

end VgpuDriver
