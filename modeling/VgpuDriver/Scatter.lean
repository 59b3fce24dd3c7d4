import VgpuDriver.Data.Chunks
import VgpuDriver.Global

namespace VgpuDriver

open Data

/-! The scatter lists of `command.c`.  `frame` is the page mapping behind
`MmGetPhysicalAddress`. -/

/-- `SGLIST_SIZE` -/
def sglistSize : Nat := 4

/-- `BuildSGElement`: the elements that it counts for its caller, none when
the list overflows.  The test lets one element more through than
`MaxSgCount`. -/
def buildSGElement (frame : Nat → Nat) (maxSgCount pBuf size : Nat) :
    List Chunk :=
  (chunksOf frame pageSize (maxSgCount + 1) pBuf size).getD []

/-- `sizeof(struct virtio_gpu_get_capset)` -/
def getCapsetSize : Nat := 32

/-- `resp_size` of `GetCaps`: the header and the capset data. -/
def respCapsetSize (maxSize : UInt32) : Nat := 24 + maxSize.toNat

/-- The out and in elements of `GetCaps` for the block at `pBuf`. -/
def getCapsElements (frame : Nat → Nat) (pBuf : Nat) (maxSize : UInt32) :
    List Chunk × List Chunk :=
  let out := buildSGElement frame sglistSize pBuf getCapsetSize
  (out,
    buildSGElement frame (sglistSize - out.length) (pBuf + getCapsetSize)
      (respCapsetSize maxSize))

/-- Where `ExAllocatePool2` may put a block: from one page on page aligned,
else within one page. -/
def PoolBlock (pBuf size : Nat) : Prop :=
  if pageSize ≤ size then pBuf % pageSize = 0
  else pBuf % pageSize + size ≤ pageSize

instance (pBuf size : Nat) : Decidable (PoolBlock pBuf size) := by
  unfold PoolBlock
  infer_instance

/-- The reply fits the elements that are left behind the command. -/
def ReplyFits (maxSize : UInt32) : Prop :=
  respCapsetSize maxSize ≤ (sglistSize - 1) * pageSize

instance (maxSize : UInt32) : Decidable (ReplyFits maxSize) :=
  inferInstanceAs (Decidable (_ ≤ _))

/-- The frames of the pages of the block follow each other. -/
def ConsecutiveFrames (frame : Nat → Nat) (pBuf size : Nat) : Prop :=
  ∀ index, (index + 1) * pageSize < size →
    frame (pBuf / pageSize + index + 1) =
      frame (pBuf / pageSize + index) + 1

section Block

variable {frame : Nat → Nat} {pBuf : Nat} {maxSize : UInt32}

theorem getCapsetSize_fits
    (hpool : PoolBlock pBuf (getCapsetSize + respCapsetSize maxSize)) :
    pBuf % pageSize + getCapsetSize ≤ pageSize := by
  unfold PoolBlock at hpool
  split at hpool
  · rw [hpool]
    decide
  · omega

/-- The command takes one element. -/
theorem command_element
    (hpool : PoolBlock pBuf (getCapsetSize + respCapsetSize maxSize)) :
    buildSGElement frame sglistSize pBuf getCapsetSize =
        [{ start := translate frame pageSize pBuf
           length := getCapsetSize }] ∧
      Enumerates frame pageSize pBuf getCapsetSize
        (buildSGElement frame sglistSize pBuf getCapsetSize) := by
  have hsingle : buildSGElement frame sglistSize pBuf getCapsetSize =
      [{ start := translate frame pageSize pBuf
         length := getCapsetSize }] := by
    rfl
  refine ⟨hsingle, ?_⟩
  rw [hsingle, enumerates_cons_iff (Nat.le_refl _)]
  constructor
  · have hfits := getCapsetSize_fits hpool
    rw [straight_iff pageSize_pos (by decide)]
    omega
  · simp [Enumerates, Chunk.bytes]

/-- The chunks of the reply are straight exactly when the frames of the block
follow each other. -/
theorem reply_straight_iff
    (hpool : PoolBlock pBuf (getCapsetSize + respCapsetSize maxSize)) :
    (∀ index, index * pageSize < respCapsetSize maxSize →
        Straight frame pageSize (pBuf + getCapsetSize + index * pageSize)
          (min (respCapsetSize maxSize - index * pageSize) pageSize)) ↔
      ConsecutiveFrames frame pBuf
        (getCapsetSize + respCapsetSize maxSize) := by
  refine forall_congr' fun index => ?_
  rw [straight_iff pageSize_pos (Nat.min_le_right _ _)]
  have hunit : 32 < pageSize := by decide
  have hreply : 24 ≤ respCapsetSize maxSize := Nat.le_add_right _ _
  unfold PoolBlock at hpool
  generalize respCapsetSize maxSize = size at hpool hreply ⊢
  by_cases hlarge : pageSize ≤ getCapsetSize + size
  · rw [if_pos hlarge] at hpool
    simp only [getCapsetSize] at hpool hlarge ⊢
    have hoffset : (pBuf + 32 + index * pageSize) % pageSize = 32 := by
      unfold pageSize at hpool ⊢
      omega
    have hpage : (pBuf + 32 + index * pageSize) / pageSize =
        pBuf / pageSize + index := by
      unfold pageSize at hpool ⊢
      omega
    rw [hoffset, hpage]
    constructor
    · intro hstraight hnext
      rw [Nat.add_mul, Nat.one_mul] at hnext
      apply hstraight
      · omega
      · omega
    · intro hframes _ hcrosses
      apply hframes
      rw [Nat.add_mul, Nat.one_mul]
      omega
  · rw [if_neg hlarge] at hpool
    simp only [getCapsetSize] at hpool hlarge ⊢
    -- the whole block lies in one page
    refine iff_of_true (fun hindex hcrosses => ?_) (fun hnext => ?_)
    · have hoffset : (pBuf + 32 + index * pageSize) % pageSize =
          pBuf % pageSize + 32 := by
        unfold pageSize at hpool hlarge ⊢
        omega
      rw [hoffset] at hcrosses
      unfold pageSize at hpool hcrosses hindex
      omega
    · rw [Nat.add_mul, Nat.one_mul] at hnext
      omega

/-- The reply is enumerated exactly when the frames follow each other. -/
theorem reply_enumerates_iff
    (hpool : PoolBlock pBuf (getCapsetSize + respCapsetSize maxSize))
    (hfits : ReplyFits maxSize) :
    Enumerates frame pageSize (pBuf + getCapsetSize) (respCapsetSize maxSize)
        (buildSGElement frame (sglistSize - 1) (pBuf + getCapsetSize)
          (respCapsetSize maxSize)) ↔
      ConsecutiveFrames frame pBuf
        (getCapsetSize + respCapsetSize maxSize) := by
  have hroom : respCapsetSize maxSize ≤ (sglistSize - 1 + 1) * pageSize :=
    Nat.le_trans hfits (Nat.mul_le_mul_right _ (Nat.le_succ _))
  obtain ⟨chunks, hchunks, hiff⟩ := chunksOf_enumerates_iff hroom
  unfold buildSGElement
  rw [hchunks, Option.getD_some, hiff]
  exact reply_straight_iff hpool

end Block

/-- The elements of `GetCaps` describe the bytes of the command and then those
of the reply. -/
def DescribesBuffer (frame : Nat → Nat) (pBuf : Nat) (maxSize : UInt32) :
    Prop :=
  Enumerates frame pageSize pBuf getCapsetSize
      (getCapsElements frame pBuf maxSize).1 ∧
    Enumerates frame pageSize (pBuf + getCapsetSize) (respCapsetSize maxSize)
      (getCapsElements frame pBuf maxSize).2

theorem getCapsElements_eq {frame : Nat → Nat} {pBuf : Nat}
    {maxSize : UInt32}
    (hpool : PoolBlock pBuf (getCapsetSize + respCapsetSize maxSize)) :
    (getCapsElements frame pBuf maxSize).2 =
      buildSGElement frame (sglistSize - 1) (pBuf + getCapsetSize)
        (respCapsetSize maxSize) := by
  unfold getCapsElements
  dsimp only
  rw [(command_element hpool).1]
  rfl

theorem describesBuffer_iff {frame : Nat → Nat} {pBuf : Nat}
    {maxSize : UInt32}
    (hpool : PoolBlock pBuf (getCapsetSize + respCapsetSize maxSize))
    (hfits : ReplyFits maxSize) :
    DescribesBuffer frame pBuf maxSize ↔
      ConsecutiveFrames frame pBuf
        (getCapsetSize + respCapsetSize maxSize) := by
  unfold DescribesBuffer
  rw [getCapsElements_eq hpool, reply_enumerates_iff hpool hfits]
  exact and_iff_right (command_element hpool).2

/-- The scatter lists of `GetCaps` describe the buffer's real memory exactly
when the pages of the block lie in consecutive frames. -/
theorem scatter_describes_iff (frame : Nat → Nat) (pBuf : Nat)
    (maxSize : UInt32)
    (hpool : PoolBlock pBuf (getCapsetSize + respCapsetSize maxSize))
    (hfits : ReplyFits maxSize) :
    DescribesBuffer frame pBuf maxSize ↔
      ConsecutiveFrames frame pBuf
        (getCapsetSize + respCapsetSize maxSize) :=
  describesBuffer_iff hpool hfits

/-- Three pages of a block in the frames 0x50, 0x51 and 0x52. -/
def consecutiveFrames (page : Nat) : Nat := page + 0x40

/-- The reply ends on the third page. -/
theorem scatter_describes_consecutive :
    DescribesBuffer consecutiveFrames 0x10000 8168 :=
  (scatter_describes_iff consecutiveFrames 0x10000 8168 (by decide)
    (by decide)).mpr fun index _ => by
      unfold consecutiveFrames
      omega

/-- Two pages of a block in the frames 5 and 9. -/
def scatteredFrames (page : Nat) : Nat := if page = 0x10 then 5 else 9

/-- The end of a reply of one page is written to frame 6. -/
theorem scatter_crosses_page :
    ¬DescribesBuffer scatteredFrames 0x10000 4072 := by
  rw [describesBuffer_iff (by decide) (by decide)]
  intro hframes
  exact absurd (hframes 0 (by decide)) (by decide)

end VgpuDriver
