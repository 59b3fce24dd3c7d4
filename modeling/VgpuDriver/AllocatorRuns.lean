import VgpuDriver.Allocator
import VgpuDriver.Data.Transition

namespace VgpuDriver

open Data

/-! Runs of the allocator in which callers hold what they were given. -/

structure Allocation where
  memory : MemoryDescriptor
  size : Nat
  deriving DecidableEq, Repr

namespace Allocation

def region (allocation : Allocation) : Region where
  address := allocation.memory.virtualAddress
  size := allocation.size

/-- `address` is the address of a byte of the allocation. -/
def Contains (allocation : Allocation) (address : Nat) : Prop :=
  allocation.memory.virtualAddress ≤ address ∧
    address < allocation.memory.virtualAddress + allocation.size

end Allocation

/-- `passed` are the sizes of the calls that are between the unlocked test of
`AvailableMemorySize` and the locked section. -/
structure AllocatorState where
  memory : VgpuMemory
  live : List Allocation
  passed : List Nat

inductive AllocatorAction
  | allocate (size : Nat)
  | test (size : Nat)
  | commit (slot : Nat)
  | free (slot : Nat)
  | shrink (slot targetSize : Nat)
  deriving DecidableEq, Repr

namespace AllocatorState

def start (virtualAddress physicalAddress size : Nat) : AllocatorState where
  memory := initializeVgpuMemory true virtualAddress physicalAddress size
    VgpuMemory.zeroed
  live := []
  passed := []

def receive (state : AllocatorState) (size : Nat) :
    Option (MemoryDescriptor × VgpuMemory) → AllocatorState
  | none => state
  | some (descriptor, memory) =>
      { state with
        memory := memory
        live := ⟨descriptor, size⟩ :: state.live }

def step (state : AllocatorState) : AllocatorAction → AllocatorState
  | .allocate size =>
      state.receive size (allocateVgpuMemory size state.memory)
  | .test size =>
      if state.memory.availableMemorySize < size then state
      else { state with passed := size :: state.passed }
  | .commit slot =>
      match state.passed[slot]? with
      | none => state
      | some size =>
          { state with passed := state.passed.eraseIdx slot }.receive size
            (allocateLocked size state.memory)
  | .free slot =>
      match state.live[slot]? with
      | none => state
      | some allocation =>
          { state with
            memory := freeVgpuMemory allocation.memory.virtualAddress
              allocation.size state.memory
            live := state.live.eraseIdx slot }
  | .shrink slot targetSize =>
      match state.live[slot]? with
      | none => state
      | some allocation =>
          match reallocVgpuMemory allocation.memory.virtualAddress
              allocation.size targetSize state.memory with
          | (false, memory) => { state with memory := memory }
          | (true, memory) =>
              { state with
                memory := memory
                live := { allocation with size := targetSize } ::
                  state.live.eraseIdx slot }

/-- Sizes are positive multiples of the page size, new sizes are multiples. -/
def Legal (_ : AllocatorState) : AllocatorAction → Prop
  | .allocate size | .test size => 0 < size ∧ size % pageSize = 0
  | .commit _ | .free _ => True
  | .shrink _ targetSize => targetSize % pageSize = 0

instance (state : AllocatorState) (action : AllocatorAction) :
    Decidable (state.Legal action) := by
  cases action <;> unfold Legal <;> infer_instance

/-- The state of the allocator and its callers for the memory of `size` bytes
at `virtualAddress`. -/
structure Sound (virtualAddress physicalAddress size : Nat)
    (state : AllocatorState) : Prop where
  aligned : virtualAddress % pageSize = 0 →
    ∀ allocation ∈ state.live,
      allocation.memory.virtualAddress % pageSize = 0
  wholePages : ∀ allocation ∈ state.live, allocation.size % pageSize = 0
  inside : ∀ allocation ∈ state.live,
    virtualAddress ≤ allocation.memory.virtualAddress ∧
      allocation.memory.virtualAddress + allocation.size ≤
        virtualAddress + size
  disjoint : state.live.Pairwise fun left right =>
    ∀ address, ¬(left.Contains address ∧ right.Contains address)
  setBits : ∀ page,
    state.memory.regionBitmap.bit page = true ↔
      ∃ allocation ∈ state.live,
        allocation.Contains (virtualAddress + page * pageSize)
  sameOffset : ∀ allocation ∈ state.live,
    physicalAddress ≤ allocation.memory.physicalAddress ∧
      allocation.memory.virtualAddress - virtualAddress =
        allocation.memory.physicalAddress - physicalAddress
  accounting : state.memory.availableMemorySize +
    (state.live.map Allocation.size).sum = size
  hint : state.memory.lastFreeIndex ≤ size / pageSize

/-- The invariant of the runs: the regions of the callers are what the
allocator owns, each at the same offset in both address spaces, and no call
waits with a size larger than the memory. -/
structure Invariant (virtualAddress physicalAddress size : Nat)
    (state : AllocatorState) : Prop where
  owns : Owns state.memory (state.live.map Allocation.region)
  base : state.memory.virtualAddress = virtualAddress
  physicalBase : state.memory.physicalAddress = physicalAddress
  pages : state.memory.regionBitmap.size * pageSize = size
  offset : ∀ allocation ∈ state.live, ∃ index,
    allocation.memory.virtualAddress = virtualAddress + index * pageSize ∧
      allocation.memory.physicalAddress = physicalAddress + index * pageSize
  passed : ∀ waiting ∈ state.passed,
    waiting % pageSize = 0 ∧ waiting ≤ 2 ^ 40

variable {virtualAddress physicalAddress size : Nat}
variable {state : AllocatorState}

theorem start_invariant (hsize : size % (pageSize * 8) = 0)
    (hlimit : size ≤ 2 ^ 40) :
    Invariant virtualAddress physicalAddress size
      (start virtualAddress physicalAddress size) := by
  have hpages : size % pageSize = 0 := by
    unfold pageSize at *
    omega
  have hcount : toUlong (size / pageSize) = size / pageSize := by
    unfold toUlong pageSize
    omega
  refine ⟨Owns.initial hpages hlimit VgpuMemory.zeroed, rfl, rfl, ?_, ?_, ?_⟩
  · simp only [start, initializeVgpuMemory, if_true, Bitmap.cleared, hcount]
    exact Nat.div_mul_cancel (Nat.dvd_of_mod_eq_zero hpages)
  · simp [start]
  · simp [start]

theorem Invariant.receive {request : Nat}
    (h : Invariant virtualAddress physicalAddress size state)
    (hpages : request % pageSize = 0) (hlimit : request ≤ 2 ^ 40) :
    Invariant virtualAddress physicalAddress size
      (state.receive request (allocateLocked request state.memory)) := by
  cases halloc : allocateLocked request state.memory with
  | none => exact h
  | some result =>
      obtain ⟨descriptor, next⟩ := result
      obtain ⟨hbase, hphysical, hbits⟩ := allocateLocked_frame halloc
      obtain ⟨count, rfl⟩ : ∃ count, request = count * pageSize :=
        ⟨request / pageSize,
          (Nat.div_mul_cancel (Nat.dvd_of_mod_eq_zero hpages)).symm⟩
      have hcount : count < 2 ^ 32 := by
        unfold pageSize at hlimit
        omega
      obtain ⟨howns, index, _, hvirtual, hphysicalIndex⟩ :=
        h.owns.allocate_locked hcount halloc
      refine ⟨howns, hbase.trans h.base, hphysical.trans h.physicalBase,
        hbits.symm ▸ h.pages, ?_, h.passed⟩
      intro allocation hallocation
      rcases List.mem_cons.mp hallocation with rfl | hold
      · exact ⟨index, h.base ▸ hvirtual, h.physicalBase ▸ hphysicalIndex⟩
      · exact h.offset allocation hold

private theorem perm_of_getElem? {slot : Nat} {allocation : Allocation}
    {live : List Allocation} (hslot : live[slot]? = some allocation) :
    (allocation :: live.eraseIdx slot).Perm live := by
  obtain ⟨hlength, rfl⟩ := List.getElem?_eq_some_iff.mp hslot
  exact List.getElem_cons_eraseIdx_perm hlength

theorem Invariant.step (h : Invariant virtualAddress physicalAddress size state)
    (hsize : size ≤ 2 ^ 40) {action : AllocatorAction}
    (hlegal : state.Legal action) :
    Invariant virtualAddress physicalAddress size (state.step action) := by
  have havailable : state.memory.availableMemorySize ≤ size := by
    have hbalance := h.owns.balance
    rw [h.pages] at hbalance
    omega
  cases action with
  | allocate request =>
      simp only [AllocatorState.step, allocateVgpuMemory]
      split
      · exact h
      · exact h.receive hlegal.2 (by omega)
  | test request =>
      simp only [AllocatorState.step]
      split
      · exact h
      · refine ⟨h.owns, h.base, h.physicalBase, h.pages, h.offset, ?_⟩
        intro waiting hwaiting
        rcases List.mem_cons.mp hwaiting with rfl | hold
        · exact ⟨hlegal.2, by omega⟩
        · exact h.passed waiting hold
  | commit slot =>
      simp only [AllocatorState.step]
      split
      · exact h
      · rename_i request hrequest
        have hwaiting := h.passed request (List.mem_of_getElem? hrequest)
        have herased : Invariant virtualAddress physicalAddress size
            { state with passed := state.passed.eraseIdx slot } :=
          ⟨h.owns, h.base, h.physicalBase, h.pages, h.offset,
            fun waiting hmem =>
              h.passed waiting (List.mem_of_mem_eraseIdx hmem)⟩
        exact herased.receive hwaiting.1 hwaiting.2
  | free slot =>
      simp only [AllocatorState.step]
      split
      · exact h
      · rename_i allocation hallocation
        have hperm := perm_of_getElem? hallocation
        obtain ⟨hbase, hphysical, hbits⟩ := freeVgpuMemory_frame
          allocation.memory.virtualAddress allocation.size state.memory
        have howns : Owns state.memory (allocation.region ::
            (state.live.eraseIdx slot).map Allocation.region) :=
          h.owns.perm (hperm.map Allocation.region).symm
        refine ⟨howns.free, hbase.trans h.base, hphysical.trans h.physicalBase,
          hbits.symm ▸ h.pages, ?_, h.passed⟩
        · exact fun other hother =>
            h.offset other (List.mem_of_mem_eraseIdx hother)
  | shrink slot targetSize =>
      simp only [AllocatorState.step]
      split
      · exact h
      · rename_i allocation hallocation
        have hperm := perm_of_getElem? hallocation
        by_cases hsmaller : targetSize < allocation.size
        · have howns : Owns state.memory (allocation.region ::
              (state.live.eraseIdx slot).map Allocation.region) :=
            h.owns.perm (hperm.map Allocation.region).symm
          obtain ⟨next, hrealloc, hnext⟩ := howns.shrink hlegal hsmaller
          obtain ⟨hbase, hphysical, hbits⟩ := reallocVgpuMemory_frame hrealloc
          simp only [Allocation.region] at hrealloc
          simp only [hrealloc]
          refine ⟨hnext, hbase.trans h.base, hphysical.trans h.physicalBase,
            hbits.symm ▸ h.pages, ?_, h.passed⟩
          · intro other hother
            rcases List.mem_cons.mp hother with rfl | hold
            · exact h.offset allocation (hperm.mem_iff.mp List.mem_cons_self)
            · exact h.offset other (List.mem_of_mem_eraseIdx hold)
        · rw [reallocVgpuMemory_of_le (by omega)]
          exact h

theorem Invariant.sound
    (h : Invariant virtualAddress physicalAddress size state) :
    state.Sound virtualAddress physicalAddress size := by
  have hregion : ∀ allocation ∈ state.live, ∃ index count,
      allocation.memory.virtualAddress = virtualAddress + index * pageSize ∧
        allocation.size = count * pageSize ∧
        index + count ≤ state.memory.regionBitmap.size := by
    intro allocation hallocation
    have hplaced := h.owns.placed allocation.region
      (List.mem_map_of_mem hallocation)
    rw [Region.Placed, h.base] at hplaced
    exact hplaced
  have hcovers : ∀ allocation ∈ state.live, ∀ page,
      (allocation.region.pages virtualAddress).covers page = true ↔
        allocation.Contains (virtualAddress + page * pageSize) := by
    intro allocation hallocation page
    obtain ⟨index, count, haddress, hcount, _⟩ := hregion _ hallocation
    have hpages : allocation.region.pages virtualAddress =
        ⟨index, count⟩ := by
      rw [← Region.pages_of_index virtualAddress index count, ← haddress,
        ← hcount]
      rfl
    rw [hpages, Interval.covers_iff, Allocation.Contains, haddress, hcount]
    simp only [pageSize]
    omega
  have hpartition := h.owns.pages
  rw [h.base, List.map_map] at hpartition
  constructor
  · intro hbase allocation hallocation
    obtain ⟨index, count, haddress, _, _⟩ := hregion _ hallocation
    rw [haddress, Nat.add_mul_mod_self_right]
    exact hbase
  · intro allocation hallocation
    obtain ⟨index, count, _, hcount, _⟩ := hregion _ hallocation
    rw [hcount, Nat.mul_mod_left]
  · intro allocation hallocation
    obtain ⟨index, count, haddress, hcount, hinside⟩ := hregion _ hallocation
    have hend := Nat.mul_le_mul_right pageSize hinside
    rw [h.pages, Nat.add_mul] at hend
    omega
  · have hdisjoint := hpartition.pairwise_disjoint
    rw [List.pairwise_map] at hdisjoint
    refine hdisjoint.imp_of_mem ?_
    intro left right hleft hright hapart address hboth
    have hpage : ∀ allocation ∈ state.live, allocation.Contains address →
        (allocation.region.pages virtualAddress).covers
          ((address - virtualAddress) / pageSize) = true := by
      intro allocation hallocation hcontains
      rw [hcovers allocation hallocation]
      obtain ⟨index, count, haddress, hcount, _⟩ := hregion _ hallocation
      rw [Allocation.Contains, haddress, hcount] at hcontains ⊢
      simp only [pageSize] at hcontains ⊢
      omega
    exact hapart _ ⟨hpage left hleft hboth.1, hpage right hright hboth.2⟩
  · intro page
    rw [hpartition.bit_iff]
    constructor
    · rintro ⟨interval, hinterval, hpage⟩
      obtain ⟨allocation, hallocation, rfl⟩ := List.mem_map.mp hinterval
      exact ⟨allocation, hallocation,
        (hcovers allocation hallocation page).mp hpage⟩
    · rintro ⟨allocation, hallocation, hcontains⟩
      exact ⟨_, List.mem_map_of_mem hallocation,
        (hcovers allocation hallocation page).mpr hcontains⟩
  · intro allocation hallocation
    obtain ⟨index, hvirtual, hphysical⟩ := h.offset allocation hallocation
    omega
  · have hbalance := h.owns.balance
    rw [h.pages, List.map_map] at hbalance
    exact hbalance
  · have hhint := h.owns.lastFree
    rw [← h.pages, Nat.mul_div_cancel _ pageSize_pos]
    exact hhint

end AllocatorState

/-- The allocator keeps its callers apart: whatever sequence of allocations,
frees and shrinks is made, calls that were tested earlier and enter the locked
section later included. -/
theorem allocator_sound (virtualAddress physicalAddress size : Nat)
    (hsize : size % (pageSize * 8) = 0) (hlimit : size ≤ 2 ^ 40)
    (actions : List AllocatorAction)
    (hlegal : Along AllocatorState.step AllocatorState.Legal
      (AllocatorState.start virtualAddress physicalAddress size) actions) :
    (runFrom AllocatorState.step
      (AllocatorState.start virtualAddress physicalAddress size)
      actions).Sound virtualAddress physicalAddress size :=
  (hlegal.invariant
    (fun _ _ hinvariant hstep => hinvariant.step hlimit hstep)
    (AllocatorState.start_invariant hsize hlimit)).sound

/-- The first call is tested before the second allocation, the first region is
shrunk and the second one freed. -/
theorem allocator_sound_split_call :
    (runFrom AllocatorState.step
      (AllocatorState.start 0x100000 0x40000000 0x8000)
      [.test 0x3000, .allocate 0x2000, .commit 0, .shrink 0 0x1000,
        .free 1]).Sound 0x100000 0x40000000 0x8000 :=
  allocator_sound 0x100000 0x40000000 0x8000 (by decide) (by decide)
    [.test 0x3000, .allocate 0x2000, .commit 0, .shrink 0 0x1000, .free 1]
    (by decide)

end VgpuDriver
