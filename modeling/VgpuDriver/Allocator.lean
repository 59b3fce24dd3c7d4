import VgpuDriver.Memory

namespace VgpuDriver

open Data

/-! The allocator seen as a family of regions: which regions are handed out is
the abstract state, the bitmap and the accounting field represent it. -/

/-- A piece of the vgpu memory: its first virtual address and its size. -/
structure Region where
  address : Nat
  size : Nat
  deriving DecidableEq, Repr

namespace Region

/-- The bits of the region in the bitmap of a memory at `base`. -/
def pages (base : Nat) (region : Region) : Interval where
  start := (region.address - base) / pageSize
  length := region.size / pageSize

def Placed (memory : VgpuMemory) (region : Region) : Prop :=
  ∃ index count,
    region.address = memory.virtualAddress + index * pageSize ∧
      region.size = count * pageSize ∧
      index + count ≤ memory.regionBitmap.size

@[simp] theorem pages_of_index (base index count : Nat) :
    pages base ⟨base + index * pageSize, count * pageSize⟩ =
      ⟨index, count⟩ := by
  simp [pages, Nat.mul_div_cancel _ pageSize_pos]

end Region

/-- `live` are exactly the regions handed out. -/
structure Owns (memory : VgpuMemory) (live : List Region) : Prop where
  placed : ∀ region ∈ live, region.Placed memory
  pages : Partition (live.map (Region.pages memory.virtualAddress))
    memory.regionBitmap.bit
  available : memory.availableMemorySize =
    memory.regionBitmap.clearCount * pageSize
  balance : memory.availableMemorySize + (live.map Region.size).sum =
    memory.regionBitmap.size * pageSize
  bounded : memory.regionBitmap.size ≤ 2 ^ 28
  lastFree : memory.lastFreeIndex ≤ memory.regionBitmap.size

namespace Owns

variable {memory : VgpuMemory} {live : List Region} {region : Region}

theorem perm {other : List Region} (h : Owns memory live)
    (hperm : live.Perm other) : Owns memory other where
  placed := fun region hregion => h.placed region (hperm.mem_iff.mpr hregion)
  pages := h.pages.perm (hperm.map _)
  available := h.available
  balance := by
    rw [← (hperm.map Region.size).sum_eq]
    exact h.balance
  bounded := h.bounded
  lastFree := h.lastFree

theorem initial {virtualAddress physicalAddress size : Nat}
    (hpages : size % pageSize = 0) (hsize : size ≤ 2 ^ 40)
    (memory : VgpuMemory) :
    Owns (initializeVgpuMemory true virtualAddress physicalAddress size
      memory) [] := by
  have hcount : toUlong (size / pageSize) = size / pageSize := by
    unfold toUlong pageSize
    omega
  refine ⟨by simp, Partition.empty, ?_, ?_, ?_, Nat.zero_le _⟩
  · simp only [initializeVgpuMemory, if_true, Bitmap.clearCount_cleared,
      hcount]
    exact (Nat.div_mul_cancel (Nat.dvd_of_mod_eq_zero hpages)).symm
  · simp only [initializeVgpuMemory, if_true, Bitmap.cleared, hcount,
      List.map_nil, List.sum_nil, Nat.add_zero]
    exact (Nat.div_mul_cancel (Nat.dvd_of_mod_eq_zero hpages)).symm
  · simp only [initializeVgpuMemory, if_true, Bitmap.cleared, hcount]
    unfold pageSize
    omega

private theorem available_small (h : Owns memory live) :
    memory.availableMemorySize ≤ 2 ^ 40 := by
  have hclear := memory.regionBitmap.clearCount_le_size
  have hbounded := h.bounded
  rw [h.available]
  unfold pageSize
  omega

private theorem sizes_small (h : Owns memory live) :
    memory.availableMemorySize + (live.map Region.size).sum ≤ 2 ^ 40 := by
  have hbounded := h.bounded
  rw [h.balance]
  unfold pageSize
  omega

/-- The locked section hands out a region that was free, also when the test
of the accounting field was made in an earlier state. -/
theorem allocate_locked {count : Nat} {descriptor : MemoryDescriptor}
    {next : VgpuMemory} (h : Owns memory live) (hcount : count < 2 ^ 32)
    (halloc : allocateLocked (count * pageSize) memory =
      some (descriptor, next)) :
    Owns next (⟨descriptor.virtualAddress, count * pageSize⟩ :: live) ∧
      ∃ index,
        memory.regionBitmap.IsRun false index count ∧
          descriptor.virtualAddress =
            memory.virtualAddress + index * pageSize ∧
          descriptor.physicalAddress =
            memory.physicalAddress + index * pageSize := by
  have hulong : toUlong (count * pageSize / pageSize) = count := by
    rw [Nat.mul_div_cancel _ pageSize_pos]
    exact Nat.mod_eq_of_lt hcount
  rw [allocateLocked_eq_some_iff, hulong] at halloc
  obtain ⟨index, hfound, rfl, rfl⟩ := halloc
  have hrun := Bitmap.findRun_isRun hfound
  have htaken := hrun.clearCount_set
  have havailable := h.available
  have hsmall := h.available_small
  have hbounded := h.bounded
  have henough : count * pageSize ≤ memory.availableMemorySize := by
    rw [havailable]
    exact Nat.mul_le_mul_right _ (by omega)
  have hsub := sizeTSub_of_le henough (by omega)
  refine ⟨⟨?_, ?_, ?_, ?_, hbounded, ?_⟩, index, hrun, rfl, rfl⟩
  · intro region hregion
    rcases List.mem_cons.mp hregion with rfl | hold
    · exact ⟨index, count, rfl, rfl, hrun.1⟩
    · exact h.placed region hold
  · rw [List.map_cons, Region.pages_of_index]
    exact h.pages.cons_fill hrun
  · have hsplit : memory.availableMemorySize =
        (memory.regionBitmap.fill true index count).clearCount * pageSize +
          count * pageSize := by
      rw [havailable, ← htaken, Nat.add_mul]
    simp only [hsub]
    omega
  · have hbalance := h.balance
    simp only [hsub, List.map_cons, List.sum_cons, Bitmap.size_fill]
    omega
  · have hinside := hrun.1
    simp only [toUlong, Bitmap.size_fill]
    omega

theorem allocate {size : Nat} {descriptor : MemoryDescriptor}
    {next : VgpuMemory} (h : Owns memory live) (hpages : size % pageSize = 0)
    (halloc : allocateVgpuMemory size memory = some (descriptor, next)) :
    Owns next (⟨descriptor.virtualAddress, size⟩ :: live) ∧
      ∃ index,
        memory.regionBitmap.IsRun false index (size / pageSize) ∧
          descriptor.virtualAddress =
            memory.virtualAddress + index * pageSize ∧
          descriptor.physicalAddress =
            memory.physicalAddress + index * pageSize := by
  obtain ⟨henough, hlocked⟩ := allocateVgpuMemory_eq_some halloc
  have hsmall := h.available_small
  have hsize : size / pageSize * pageSize = size :=
    Nat.div_mul_cancel (Nat.dvd_of_mod_eq_zero hpages)
  have hcount : size / pageSize < 2 ^ 32 := by
    unfold pageSize
    omega
  rw [← hsize] at hlocked
  have hlocked := h.allocate_locked hcount hlocked
  rwa [hsize] at hlocked

theorem of_empty {address : Nat} (h : Owns memory (⟨address, 0⟩ :: live)) :
    Owns memory live where
  placed := fun region hregion =>
    h.placed region (List.mem_cons_of_mem _ hregion)
  pages := fun position => by
    have hcount := h.pages position
    rw [List.map_cons, List.countP_cons_of_neg] at hcount
    · exact hcount
    · rw [Interval.covers_iff]
      simp only [Region.pages, Nat.zero_div]
      omega
  available := h.available
  balance := by simpa using h.balance
  bounded := h.bounded
  lastFree := h.lastFree

private theorem clear_tail (kept : Nat) {index count lastFreeIndex : Nat}
    (h : Owns memory
      (⟨memory.virtualAddress + index * pageSize, count * pageSize⟩ :: live))
    (hkept : kept ≤ count) (hinside : index + count ≤ memory.regionBitmap.size)
    (hlast : lastFreeIndex ≤ memory.regionBitmap.size) :
    Owns
      { memory with
        regionBitmap := memory.regionBitmap.fill false (index + kept)
          (count - kept)
        lastFreeIndex := lastFreeIndex
        availableMemorySize :=
          sizeTAdd memory.availableMemorySize ((count - kept) * pageSize) }
      (⟨memory.virtualAddress + index * pageSize, kept * pageSize⟩ ::
        live) := by
  have hpages := h.pages
  rw [List.map_cons, Region.pages_of_index] at hpages
  have hrun : memory.regionBitmap.IsRun true (index + kept)
      (count - kept) := by
    have hwhole := hpages.isRun_head hinside
    refine ⟨by omega, fun offset hoffset => ?_⟩
    exact hwhole.bit_eq (by simp only; omega) (by simp only; omega)
  have hclear := hrun.clearCount_clear
  have havailable := h.available
  have hbalance := h.balance
  have hsizes := h.sizes_small
  simp only [List.map_cons, List.sum_cons] at hbalance hsizes
  have hsplit : count * pageSize =
      kept * pageSize + (count - kept) * pageSize := by
    rw [← Nat.add_mul, Nat.add_sub_cancel' hkept]
  have hadd : sizeTAdd memory.availableMemorySize
      ((count - kept) * pageSize) =
        memory.availableMemorySize + (count - kept) * pageSize :=
    sizeTAdd_of_lt (by omega)
  refine ⟨?_, ?_, ?_, ?_, h.bounded, hlast⟩
  · intro region hregion
    rcases List.mem_cons.mp hregion with rfl | hold
    · exact ⟨index, kept, rfl, rfl, by simp only [Bitmap.size_fill]; omega⟩
    · exact h.placed region (List.mem_cons_of_mem _ hold)
  · rw [List.map_cons, Region.pages_of_index]
    exact hpages.shorten hkept
  · simp only [hadd, hclear, Nat.add_mul]
    omega
  · simp only [hadd, List.map_cons, List.sum_cons, Bitmap.size_fill]
    omega

theorem free (h : Owns memory (region :: live)) :
    Owns (freeVgpuMemory region.address region.size memory) live := by
  obtain ⟨index, count, haddress, hsize, hinside⟩ :=
    h.placed region List.mem_cons_self
  cases region with
  | mk address size =>
      simp only at haddress hsize
      subst haddress hsize
      have hbounded := h.bounded
      have hulong : toUlong (count * pageSize / pageSize) = count := by
        rw [Nat.mul_div_cancel _ pageSize_pos]
        exact Nat.mod_eq_of_lt (by omega)
      have hhint := pageHint_of_offset memory.virtualAddress index (by omega)
      rcases Nat.eq_zero_or_pos count with hzero | hpositive
      · subst hzero
        have hrest : Owns memory live := of_empty (by simpa using h)
        have hsmall := h.available_small
        obtain ⟨lastFreeIndex, hfree, hlast⟩ := freeVgpuMemory_zero
          (memory.virtualAddress + index * pageSize) memory (by omega)
        simp only [Nat.zero_mul, hfree]
        refine ⟨hrest.placed, hrest.pages, hrest.available, hrest.balance,
          hrest.bounded, ?_⟩
        rcases hlast with hsame | hbound
        · exact hsame ▸ hrest.lastFree
        · exact hbound
      · have hpages := h.pages
        rw [List.map_cons, Region.pages_of_index] at hpages
        have hrun := hpages.isRun_head hinside
        have hfound := Bitmap.findRun_at_hint
          (Nat.lt_of_lt_of_le (Nat.lt_add_of_pos_right hpositive) hinside)
          hrun
        rw [freeVgpuMemory_of_findRun (by rw [hulong, hhint]; exact hfound),
          hulong]
        have hcleared := clear_tail 0 h (Nat.zero_le count) hinside
          (Nat.le_trans (Nat.le_add_right index count) hinside)
        exact of_empty (by simpa using hcleared)

theorem shrink {target : Nat} (h : Owns memory (region :: live))
    (hpages : target % pageSize = 0) (hsmaller : target < region.size) :
    ∃ next,
      reallocVgpuMemory region.address region.size target memory =
          (true, next) ∧
        Owns next (⟨region.address, target⟩ :: live) := by
  obtain ⟨index, count, haddress, hsize, hinside⟩ :=
    h.placed region List.mem_cons_self
  cases region with
  | mk address size =>
      simp only at haddress hsize hsmaller
      subst haddress hsize
      obtain ⟨kept, rfl⟩ : ∃ kept, target = kept * pageSize :=
        ⟨target / pageSize,
          (Nat.div_mul_cancel (Nat.dvd_of_mod_eq_zero hpages)).symm⟩
      have hless : kept < count := Nat.lt_of_mul_lt_mul_right hsmaller
      have hbounded := h.bounded
      have hchange : count * pageSize - kept * pageSize =
          (count - kept) * pageSize := (Nat.sub_mul _ _ _).symm
      have hulong : toUlong ((count * pageSize - kept * pageSize) /
          pageSize) = count - kept := by
        rw [hchange, Nat.mul_div_cancel _ pageSize_pos]
        exact Nat.mod_eq_of_lt (by omega)
      have hhint := shrinkHint_of_offset memory.virtualAddress index kept
        (by omega)
      have hrun : memory.regionBitmap.IsRun true (index + kept)
          (count - kept) := by
        have hlive := h.pages
        rw [List.map_cons, Region.pages_of_index] at hlive
        have hwhole := hlive.isRun_head hinside
        refine ⟨by omega, fun offset hoffset => ?_⟩
        exact hwhole.bit_eq (by simp only; omega) (by simp only; omega)
      have hfound := Bitmap.findRun_at_hint (by omega) hrun
      refine ⟨_, reallocVgpuMemory_of_findRun hsmaller
        (by rw [hulong, hhint]; exact hfound), ?_⟩
      rw [hulong, hchange]
      exact clear_tail kept h (Nat.le_of_lt hless) hinside (by omega)

end Owns

end VgpuDriver
