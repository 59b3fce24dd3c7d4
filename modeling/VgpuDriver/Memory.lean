import VgpuDriver.Data.Partition
import VgpuDriver.Global

namespace VgpuDriver

open Data

/-! The allocator of `memory.c`.  `SIZE_T` arithmetic is modulo `2 ^ 64`, the
casts to `ULONG` are modulo `2 ^ 32`. -/

structure VgpuMemory where
  bInitialize : Bool
  virtualAddress : Nat
  physicalAddress : Nat
  availableMemorySize : Nat
  regionBitmap : Bitmap
  lastFreeIndex : Nat

def toUlong (value : Nat) : Nat := value % 2 ^ 32

def sizeTAdd (left right : Nat) : Nat := (left + right) % 2 ^ 64

def sizeTSub (left right : Nat) : Nat := (left + (2 ^ 64 - right)) % 2 ^ 64

theorem sizeTAdd_of_lt {left right : Nat} (hsum : left + right < 2 ^ 64) :
    sizeTAdd left right = left + right :=
  Nat.mod_eq_of_lt hsum

theorem sizeTSub_of_le {left right : Nat} (hle : right ≤ left)
    (hleft : left < 2 ^ 64) : sizeTSub left right = left - right := by
  unfold sizeTSub
  omega

/-- `none` stands for `BITMAP_FAILED`, the map being left as it was. -/
def rtlFindClearBitsAndSet (map : Bitmap) (count hint : Nat) :
    Option (Nat × Bitmap) :=
  (map.findRun false count hint).map fun index =>
    (index, map.fill true index count)

def rtlFindSetBitsAndClear (map : Bitmap) (count hint : Nat) :
    Option (Nat × Bitmap) :=
  (map.findRun true count hint).map fun index =>
    (index, map.fill false index count)

namespace VgpuMemory

/-- The zeroed `static VGPU_MEMORY`. -/
def zeroed : VgpuMemory where
  bInitialize := false
  virtualAddress := 0
  physicalAddress := 0
  availableMemorySize := 0
  regionBitmap := Bitmap.cleared 0
  lastFreeIndex := 0

end VgpuMemory

/-- `poolBlock` tells whether `ExAllocatePool2` gives the bitmap buffer. -/
def initializeVgpuMemory (poolBlock : Bool)
    (virtualAddress physicalAddress size : Nat) (memory : VgpuMemory) :
    VgpuMemory :=
  if poolBlock then
    { bInitialize := true
      virtualAddress := virtualAddress
      physicalAddress := physicalAddress
      availableMemorySize := size
      regionBitmap := Bitmap.cleared (toUlong (size / pageSize))
      lastFreeIndex := 0 }
  else memory

/-- The part of `AllocateVgpuMemory` after the test of
`AvailableMemorySize`, which is made outside the spin lock. -/
def allocateLocked (size : Nat) (memory : VgpuMemory) :
    Option (MemoryDescriptor × VgpuMemory) :=
  let page := toUlong (size / pageSize)
  match rtlFindClearBitsAndSet memory.regionBitmap page
      memory.lastFreeIndex with
  | none => none
  | some (index, bitmap) =>
      some
        ({ virtualAddress := memory.virtualAddress + index * pageSize
           physicalAddress := memory.physicalAddress + index * pageSize },
         { memory with
           regionBitmap := bitmap
           lastFreeIndex := toUlong (index + page)
           availableMemorySize :=
             sizeTSub memory.availableMemorySize size })

def allocateVgpuMemory (size : Nat) (memory : VgpuMemory) :
    Option (MemoryDescriptor × VgpuMemory) :=
  if memory.availableMemorySize < size then none
  else allocateLocked size memory

/-- `(ULONG)((VitrualAddress - base) / PAGE_SIZE)`: the pointer difference is
signed and the division truncates. -/
def pageHint (virtualAddress base : Nat) : Nat :=
  ((((virtualAddress : Int) - base).tdiv pageSize) % 2 ^ 32).toNat

def freeVgpuMemory (virtualAddress size : Nat) (memory : VgpuMemory) :
    VgpuMemory :=
  match rtlFindSetBitsAndClear memory.regionBitmap
      (toUlong (size / pageSize))
      (pageHint virtualAddress memory.virtualAddress) with
  | none => memory
  | some (index, bitmap) =>
      { memory with
        regionBitmap := bitmap
        lastFreeIndex := index
        availableMemorySize := sizeTAdd memory.availableMemorySize size }

/-- `(ULONG)((VitrualAddress - base + TargetSize) / PAGE_SIZE)`: the sum has
type `SIZE_T`. -/
def shrinkHint (virtualAddress base targetSize : Nat) : Nat :=
  toUlong
    ((((virtualAddress : Int) - base + targetSize) % 2 ^ 64).toNat / pageSize)

def reallocVgpuMemory (virtualAddress originSize targetSize : Nat)
    (memory : VgpuMemory) : Bool × VgpuMemory :=
  if originSize = targetSize then (false, memory)
  else if originSize < targetSize then (false, memory)
  else
    let change := originSize - targetSize
    match rtlFindSetBitsAndClear memory.regionBitmap
        (toUlong (change / pageSize))
        (shrinkHint virtualAddress memory.virtualAddress targetSize) with
    | none => (false, memory)
    | some (index, bitmap) =>
        (true,
          { memory with
            regionBitmap := bitmap
            lastFreeIndex := index
            availableMemorySize :=
              sizeTAdd memory.availableMemorySize change })

/-! What one call can do to the state of the allocator. -/

theorem allocateLocked_eq_some_iff {size : Nat} {memory next : VgpuMemory}
    {descriptor : MemoryDescriptor} :
    allocateLocked size memory = some (descriptor, next) ↔
      ∃ index,
        memory.regionBitmap.findRun false (toUlong (size / pageSize))
            memory.lastFreeIndex = some index ∧
          descriptor =
            { virtualAddress := memory.virtualAddress + index * pageSize
              physicalAddress :=
                memory.physicalAddress + index * pageSize } ∧
          next =
            { memory with
              regionBitmap := memory.regionBitmap.fill true index
                (toUlong (size / pageSize))
              lastFreeIndex := toUlong (index + toUlong (size / pageSize))
              availableMemorySize :=
                sizeTSub memory.availableMemorySize size } := by
  cases hfound : memory.regionBitmap.findRun false (toUlong (size / pageSize))
      memory.lastFreeIndex with
  | none => simp [allocateLocked, rtlFindClearBitsAndSet, hfound]
  | some index =>
      simp only [allocateLocked, rtlFindClearBitsAndSet, hfound,
        Option.map_some, Option.some.injEq, Prod.mk.injEq, exists_eq_left']
      exact and_congr eq_comm eq_comm

theorem allocateVgpuMemory_eq_some {size : Nat} {memory : VgpuMemory}
    {result : MemoryDescriptor × VgpuMemory}
    (hresult : allocateVgpuMemory size memory = some result) :
    size ≤ memory.availableMemorySize ∧
      allocateLocked size memory = some result := by
  unfold allocateVgpuMemory at hresult
  split at hresult
  · cases hresult
  · exact ⟨by omega, hresult⟩

theorem freeVgpuMemory_of_findRun {virtualAddress size index : Nat}
    {memory : VgpuMemory}
    (hfound : memory.regionBitmap.findRun true (toUlong (size / pageSize))
      (pageHint virtualAddress memory.virtualAddress) = some index) :
    freeVgpuMemory virtualAddress size memory =
      { memory with
        regionBitmap := memory.regionBitmap.fill false index
          (toUlong (size / pageSize))
        lastFreeIndex := index
        availableMemorySize :=
          sizeTAdd memory.availableMemorySize size } := by
  simp [freeVgpuMemory, rtlFindSetBitsAndClear, hfound]

theorem reallocVgpuMemory_of_findRun
    {virtualAddress originSize targetSize index : Nat} {memory : VgpuMemory}
    (hshrink : targetSize < originSize)
    (hfound : memory.regionBitmap.findRun true
      (toUlong ((originSize - targetSize) / pageSize))
      (shrinkHint virtualAddress memory.virtualAddress targetSize) =
        some index) :
    reallocVgpuMemory virtualAddress originSize targetSize memory =
      (true,
        { memory with
          regionBitmap := memory.regionBitmap.fill false index
            (toUlong ((originSize - targetSize) / pageSize))
          lastFreeIndex := index
          availableMemorySize :=
            sizeTAdd memory.availableMemorySize
              (originSize - targetSize) }) := by
  have hne : originSize ≠ targetSize := by omega
  have hge : ¬originSize < targetSize := by omega
  simp [reallocVgpuMemory, rtlFindSetBitsAndClear, hne, hge, hfound]

theorem freeVgpuMemory_zero (virtualAddress : Nat) (memory : VgpuMemory)
    (hsize : memory.availableMemorySize < 2 ^ 64) :
    ∃ lastFreeIndex,
      freeVgpuMemory virtualAddress 0 memory =
          { memory with lastFreeIndex := lastFreeIndex } ∧
        (lastFreeIndex = memory.lastFreeIndex ∨
          lastFreeIndex ≤ memory.regionBitmap.size) := by
  have hulong : toUlong (0 / pageSize) = 0 := by decide
  cases hfound : memory.regionBitmap.findRun true (toUlong (0 / pageSize))
      (pageHint virtualAddress memory.virtualAddress) with
  | none =>
      refine ⟨memory.lastFreeIndex, ?_, Or.inl rfl⟩
      simp only [freeVgpuMemory, rtlFindSetBitsAndClear, hfound,
        Option.map_none]
  | some index =>
      have hinside := (Bitmap.findRun_isRun hfound).1
      refine ⟨index, ?_, Or.inr (by omega)⟩
      rw [freeVgpuMemory_of_findRun hfound, hulong, Bitmap.fill_zero,
        sizeTAdd_of_lt (by omega), Nat.add_zero]

/-! No call moves the region or changes its number of pages. -/

theorem allocateLocked_frame {size : Nat} {memory next : VgpuMemory}
    {descriptor : MemoryDescriptor}
    (halloc : allocateLocked size memory = some (descriptor, next)) :
    next.virtualAddress = memory.virtualAddress ∧
      next.physicalAddress = memory.physicalAddress ∧
      next.regionBitmap.size = memory.regionBitmap.size := by
  obtain ⟨index, _, _, rfl⟩ := allocateLocked_eq_some_iff.mp halloc
  exact ⟨rfl, rfl, rfl⟩

theorem freeVgpuMemory_frame (virtualAddress size : Nat)
    (memory : VgpuMemory) :
    (freeVgpuMemory virtualAddress size memory).virtualAddress =
        memory.virtualAddress ∧
      (freeVgpuMemory virtualAddress size memory).physicalAddress =
        memory.physicalAddress ∧
      (freeVgpuMemory virtualAddress size memory).regionBitmap.size =
        memory.regionBitmap.size := by
  unfold freeVgpuMemory rtlFindSetBitsAndClear
  cases memory.regionBitmap.findRun true (toUlong (size / pageSize))
      (pageHint virtualAddress memory.virtualAddress) with
  | none => exact ⟨rfl, rfl, rfl⟩
  | some index => exact ⟨rfl, rfl, rfl⟩

theorem reallocVgpuMemory_of_le {virtualAddress originSize targetSize : Nat}
    (hle : originSize ≤ targetSize) (memory : VgpuMemory) :
    reallocVgpuMemory virtualAddress originSize targetSize memory =
      (false, memory) := by
  rcases Nat.eq_or_lt_of_le hle with heq | hlt
  · simp [reallocVgpuMemory, heq]
  · simp [reallocVgpuMemory, hlt, Nat.ne_of_lt hlt]

theorem reallocVgpuMemory_frame {virtualAddress originSize targetSize : Nat}
    {memory next : VgpuMemory} {shrunk : Bool}
    (hrealloc : reallocVgpuMemory virtualAddress originSize targetSize memory =
      (shrunk, next)) :
    next.virtualAddress = memory.virtualAddress ∧
      next.physicalAddress = memory.physicalAddress ∧
      next.regionBitmap.size = memory.regionBitmap.size := by
  by_cases hshrink : targetSize < originSize
  · cases hfound : memory.regionBitmap.findRun true
        (toUlong ((originSize - targetSize) / pageSize))
        (shrinkHint virtualAddress memory.virtualAddress targetSize) with
    | none =>
        have hne : originSize ≠ targetSize := by omega
        have hge : ¬originSize < targetSize := by omega
        simp only [reallocVgpuMemory, rtlFindSetBitsAndClear, hne, hge,
          if_false, hfound, Option.map_none, Prod.mk.injEq] at hrealloc
        obtain ⟨rfl, rfl⟩ := hrealloc
        exact ⟨rfl, rfl, rfl⟩
    | some index =>
        rw [reallocVgpuMemory_of_findRun hshrink hfound] at hrealloc
        obtain ⟨rfl, rfl⟩ := Prod.mk.inj hrealloc
        exact ⟨rfl, rfl, rfl⟩
  · rw [reallocVgpuMemory_of_le (by omega)] at hrealloc
    obtain ⟨rfl, rfl⟩ := Prod.mk.inj hrealloc
    exact ⟨rfl, rfl, rfl⟩

theorem pageHint_of_offset (base index : Nat) (hindex : index < 2 ^ 32) :
    pageHint (base + index * pageSize) base = index := by
  have hoffset : ((base + index * pageSize : Nat) : Int) - base =
      (index : Int) * (pageSize : Int) := by
    push_cast
    ring
  unfold pageHint
  rw [hoffset, Int.mul_tdiv_cancel _ (by decide)]
  omega

theorem shrinkHint_of_offset (base index count : Nat)
    (hsum : index + count < 2 ^ 32) :
    shrinkHint (base + index * pageSize) base (count * pageSize) =
      index + count := by
  have hoffset : ((base + index * pageSize : Nat) : Int) - base +
      (count * pageSize : Nat) = ((index + count) * pageSize : Nat) := by
    push_cast
    ring
  have hsmall : (index + count) * pageSize < 2 ^ 64 := by
    unfold pageSize
    omega
  have hmod : (((index + count) * pageSize : Nat) : Int) % 2 ^ 64 =
      ((index + count) * pageSize : Nat) :=
    Int.emod_eq_of_lt (by omega) (by omega)
  unfold shrinkHint toUlong
  rw [hoffset, hmod, Int.toNat_natCast,
    Nat.mul_div_cancel _ pageSize_pos, Nat.mod_eq_of_lt hsum]

end VgpuDriver
