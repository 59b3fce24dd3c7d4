import VgpuDriver.AllocatorRuns

namespace VgpuDriver

open Data

/-! When `AllocateVgpuMemory` fails: never because of where the search starts,
and only in a memory that is almost full or fragmented. -/

namespace AllocatorState

variable {virtualAddress physicalAddress size : Nat}
variable {state : AllocatorState}

/-- The allocator can serve a request of so many bytes: somewhere in the
memory there are enough free pages in a row. -/
def HasRoom (state : AllocatorState) (request : Nat) : Prop :=
  ∃ page, state.memory.regionBitmap.IsRun false page (request / pageSize)

/-- The request is refused exactly when there is no room; a refusal tells that
at most so many pages are free behind and between the live regions. -/
structure RefusesOnlyFull (state : AllocatorState) (request : Nat) : Prop where
  refused_iff : allocateVgpuMemory request state.memory = none ↔
    ¬state.HasRoom request
  fragmented : allocateVgpuMemory request state.memory = none →
    state.memory.availableMemorySize / pageSize ≤
      (state.live.length + 1) * (request / pageSize - 1)

theorem HasRoom.pages_le {request : Nat} (h : state.HasRoom request) :
    request / pageSize ≤ state.memory.regionBitmap.clearCount := by
  obtain ⟨page, hrun⟩ := h
  have hset := hrun.clearCount_set
  omega

/-- The hint does not matter: what the search from it misses is found by the
search of the whole map. -/
theorem locked_eq_none_iff {request : Nat}
    (hsmall : request / pageSize < 2 ^ 32)
    (hpositive : 0 < request / pageSize) :
    allocateLocked request state.memory = none ↔ ¬state.HasRoom request := by
  have hpages : toUlong (request / pageSize) = request / pageSize :=
    Nat.mod_eq_of_lt hsmall
  have hsearch : allocateLocked request state.memory = none ↔
      state.memory.regionBitmap.findRun false (request / pageSize)
        state.memory.lastFreeIndex = none := by
    cases hfound : state.memory.regionBitmap.findRun false
        (request / pageSize) state.memory.lastFreeIndex with
    | none => simp [allocateLocked, rtlFindClearBitsAndSet, hpages, hfound]
    | some index =>
        simp [allocateLocked, rtlFindClearBitsAndSet, hpages, hfound]
  rw [hsearch, Bitmap.findRun_eq_none_iff]
  constructor
  · rintro hnone ⟨page, hrun⟩
    have hinside := hrun.1
    exact hnone page (by omega) hrun
  · intro hfull page _ hrun
    exact hfull ⟨page, hrun⟩

theorem Invariant.refused_iff
    (h : Invariant virtualAddress physicalAddress size state)
    {request : Nat} (hpositive : 0 < request)
    (hpages : request % pageSize = 0) :
    allocateVgpuMemory request state.memory = none ↔
      ¬state.HasRoom request := by
  have havailable := h.owns.available
  have hbounded := h.owns.bounded
  have hclear := state.memory.regionBitmap.clearCount_le_size
  unfold allocateVgpuMemory
  split
  · -- fewer clear bits than pages asked for
    rename_i hless
    refine iff_of_true rfl fun hroom => ?_
    have hroomPages := hroom.pages_le
    unfold pageSize at *
    omega
  · rename_i henough
    refine locked_eq_none_iff ?_ ?_
    · unfold pageSize at *
      omega
    · unfold pageSize at *
      omega

theorem Invariant.refusesOnlyFull
    (h : Invariant virtualAddress physicalAddress size state)
    {request : Nat} (hpositive : 0 < request)
    (hpages : request % pageSize = 0) : state.RefusesOnlyFull request where
  refused_iff := h.refused_iff hpositive hpages
  fragmented := by
    intro hrefused
    have hfull := (h.refused_iff hpositive hpages).mp hrefused
    have hgaps := h.owns.pages.clearCount_le
      fun page _ hrun => hfull ⟨page, hrun⟩
    rw [h.owns.available, Nat.mul_div_cancel _ pageSize_pos]
    simpa using hgaps

end AllocatorState

/-- In every state that the allocator can reach, a request for whole pages is
refused only when no run of free pages is long enough for it. -/
theorem allocation_refused_only_when_full
    (virtualAddress physicalAddress size : Nat)
    (hsize : size % (pageSize * 8) = 0) (hlimit : size ≤ 2 ^ 40)
    (actions : List AllocatorAction)
    (hlegal : Along AllocatorState.step AllocatorState.Legal
      (AllocatorState.start virtualAddress physicalAddress size) actions)
    (request : Nat) (hpositive : 0 < request)
    (hpages : request % pageSize = 0) :
    (runFrom AllocatorState.step
      (AllocatorState.start virtualAddress physicalAddress size)
      actions).RefusesOnlyFull request := by
  have hend := hlegal.invariant
    (fun _ _ hinvariant hstep => hinvariant.step hlimit hstep)
    (AllocatorState.start_invariant hsize hlimit)
  exact hend.refusesOnlyFull hpositive hpages

/-- Eight pages, of which two single ones are live: a hole of one page is too
small for a request of three, the five pages behind are not. -/
theorem allocation_refused_only_when_full_holes :
    (runFrom AllocatorState.step
      (AllocatorState.start 0x100000 0x40000000 0x8000)
      [.allocate 0x1000, .allocate 0x1000, .allocate 0x1000,
        .free 1]).RefusesOnlyFull 0x3000 :=
  allocation_refused_only_when_full 0x100000 0x40000000 0x8000 (by decide)
    (by decide)
    [.allocate 0x1000, .allocate 0x1000, .allocate 0x1000, .free 1]
    (by decide) 0x3000 (by decide) (by decide)

end VgpuDriver
