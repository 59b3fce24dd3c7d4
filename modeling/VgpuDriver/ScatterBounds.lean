import VgpuDriver.Scatter

namespace VgpuDriver

open Data

/-! Where the loop of `BuildSGElement` writes: the guard is tested before the
element is written and the counter moves behind it. -/

/-- The loop from the counter `sgCount` on: the value returned, and the
elements written with their indices.  The counter is a `UINT32`, the sizes are
of type `SIZE_T`. -/
def sgLoop (frame : Nat → Nat) (maxSgCount pBuf size : Nat)
    (sgCount : UInt32) : UInt32 × List (UInt32 × Chunk) :=
  if size = 0 then (sgCount, [])
  else if sgCount.toNat > maxSgCount then (0, [])
  else
    let length := min size pageSize
    let rest := sgLoop frame maxSgCount (pBuf + length) (size - length)
      (sgCount + 1)
    (rest.1,
      (sgCount, { start := translate frame pageSize pBuf, length := length }) ::
        rest.2)
termination_by size
decreasing_by
  have hunit := pageSize_pos
  omega

/-- `BuildSGElement` -/
def buildSG (frame : Nat → Nat) (maxSgCount pBuf size : Nat) :
    UInt32 × List (UInt32 × Chunk) :=
  sgLoop frame maxSgCount pBuf size 0

/-- The elements that `GetCaps` writes, with their indices in `sg`; the room
for the reply is a `UINT32` difference. -/
def getCapsWrites (frame : Nat → Nat) (pBuf : Nat) (maxSize : UInt32) :
    List (Nat × Chunk) :=
  let out := buildSG frame sglistSize pBuf getCapsetSize
  let reply := buildSG frame (UInt32.ofNat sglistSize - out.1).toNat
    (pBuf + getCapsetSize) (respCapsetSize maxSize)
  (out.2.map fun write => (write.1.toNat, write.2)) ++
    reply.2.map fun write => (out.1.toNat + write.1.toNat, write.2)

/-- The elements are written inside the list; their number is returned when it
is not larger than the list, and they are not empty, at most one page long and
cover the buffer; otherwise 0 is returned. -/
structure StaysInside (frame : Nat → Nat) (maxSgCount pBuf size : Nat) :
    Prop where
  inside : ∀ write ∈ (buildSG frame maxSgCount pBuf size).2,
    write.1.toNat < maxSgCount
  fits : size ⌈/⌉ pageSize ≤ maxSgCount →
    (buildSG frame maxSgCount pBuf size).1.toNat = size ⌈/⌉ pageSize ∧
      (∀ write ∈ (buildSG frame maxSgCount pBuf size).2,
        0 < write.2.length ∧ write.2.length ≤ pageSize) ∧
      ((buildSG frame maxSgCount pBuf size).2.map fun write =>
        write.2.length).sum = size
  overflows : maxSgCount < size ⌈/⌉ pageSize →
    (buildSG frame maxSgCount pBuf size).1 = 0

/-- The buffer needs no more elements than the list has, and the counter can
count them; a list that is longer than the counter can count is not exceeded
when the number of elements wraps to 0. -/
def FitsList (maxSgCount size : Nat) : Prop :=
  if size ⌈/⌉ pageSize ≤ maxSgCount then size ⌈/⌉ pageSize < 2 ^ 32
  else 2 ^ 32 ≤ maxSgCount ∧ 2 ^ 32 ∣ size ⌈/⌉ pageSize

/-- `GetCaps` writes inside `sg`. -/
def GetCapsInside (frame : Nat → Nat) (pBuf : Nat) (maxSize : UInt32) :
    Prop :=
  ∀ write ∈ getCapsWrites frame pBuf maxSize, write.1 < sglistSize

section Loop

variable {frame : Nat → Nat} {maxSgCount pBuf size count : Nat}
variable {sgCount : UInt32}

theorem sgLoop_end : sgLoop frame maxSgCount pBuf 0 sgCount = (sgCount, []) := by
  rw [sgLoop, if_pos rfl]

theorem sgLoop_full (hsize : 0 < size) (hfull : maxSgCount < sgCount.toNat) :
    sgLoop frame maxSgCount pBuf size sgCount = (0, []) := by
  rw [sgLoop, if_neg (Nat.ne_of_gt hsize), if_pos hfull]

theorem sgLoop_write (hsize : 0 < size) (hroom : sgCount.toNat ≤ maxSgCount) :
    sgLoop frame maxSgCount pBuf size sgCount =
      ((sgLoop frame maxSgCount (pBuf + min size pageSize)
          (size - min size pageSize) (sgCount + 1)).1,
        (sgCount,
          { start := translate frame pageSize pBuf
            length := min size pageSize }) ::
          (sgLoop frame maxSgCount (pBuf + min size pageSize)
            (size - min size pageSize) (sgCount + 1)).2) := by
  rw [sgLoop, if_neg (Nat.ne_of_gt hsize), if_neg (Nat.not_lt.mpr hroom)]

theorem toNat_succ (sgCount : UInt32) (hsmall : sgCount.toNat + 1 < 2 ^ 32) :
    (sgCount + 1).toNat = sgCount.toNat + 1 := by
  rw [UInt32.toNat_add]
  exact Nat.mod_eq_of_lt hsmall

/-- The guard stops no turn of the loop. -/
def Unhindered (maxSgCount count : Nat) (sgCount : UInt32) : Prop :=
  2 ^ 32 ≤ maxSgCount + 1 ∨ sgCount.toNat + count ≤ maxSgCount + 1

theorem Unhindered.room (h : Unhindered maxSgCount (count + 1) sgCount) :
    sgCount.toNat ≤ maxSgCount := by
  have hcounter := sgCount.toNat_lt
  unfold Unhindered at h
  omega

theorem Unhindered.next (h : Unhindered maxSgCount (count + 1) sgCount) :
    Unhindered maxSgCount count (sgCount + 1) := by
  unfold Unhindered at h ⊢
  by_cases hsmall : sgCount.toNat + 1 < 2 ^ 32
  · rw [toNat_succ sgCount hsmall]
    omega
  · left
    omega

variable (frame maxSgCount pBuf size sgCount)

/-- When the guard never stops the loop, all chunks of the buffer are written
and counted. -/
theorem sgLoop_unhindered (hcount : size ⌈/⌉ pageSize = count)
    (hfree : Unhindered maxSgCount count sgCount) :
    (sgLoop frame maxSgCount pBuf size sgCount).1 =
        sgCount + UInt32.ofNat count ∧
      (sgLoop frame maxSgCount pBuf size sgCount).2.length = count ∧
      ∀ room, count ≤ room →
        chunksOf frame pageSize room pBuf size =
          some ((sgLoop frame maxSgCount pBuf size sgCount).2.map Prod.snd) := by
  induction count generalizing pBuf size sgCount with
  | zero =>
      obtain rfl := (ceilDiv_eq_zero pageSize_pos).mp hcount
      rw [sgLoop_end]
      refine ⟨(UInt32.add_zero sgCount).symm, rfl, fun room _ => ?_⟩
      cases room <;> rfl
  | succ count ih =>
      obtain ⟨hsize, hrest⟩ := ceilDiv_succ pageSize_pos hcount
      obtain ⟨hreturned, hlength, hchunks⟩ :=
        ih (pBuf + min size pageSize) _ (sgCount + 1) hrest hfree.next
      rw [sgLoop_write hsize hfree.room]
      refine ⟨?_, ?_, fun room hroom => ?_⟩
      · rw [hreturned, UInt32.ofNat_add, UInt32.add_assoc]
        congr 1
        exact UInt32.add_comm _ _
      · rw [List.length_cons, hlength]
      · cases room with
        | zero => cases hroom
        | succ room =>
            rw [chunksOf_step hsize, hchunks room (by omega)]
            rfl

/-- The guard stops the loop behind the element `maxSgCount`. -/
theorem sgLoop_hindered (hcount : size ⌈/⌉ pageSize = count)
    (hlimit : maxSgCount + 1 < 2 ^ 32)
    (hcounter : sgCount.toNat ≤ maxSgCount + 1)
    (hlarge : maxSgCount + 1 < sgCount.toNat + count) :
    (sgLoop frame maxSgCount pBuf size sgCount).1 = 0 := by
  induction count generalizing pBuf size sgCount with
  | zero => omega
  | succ count ih =>
      obtain ⟨hsize, hrest⟩ := ceilDiv_succ pageSize_pos hcount
      by_cases hroom : sgCount.toNat ≤ maxSgCount
      · have hnext := toNat_succ sgCount (by omega)
        rw [sgLoop_write hsize hroom]
        exact ih _ _ _ hrest (by omega) (by omega)
      · rw [sgLoop_full hsize (by omega)]

/-- An element more than the list has is written at its end. -/
theorem sgLoop_writes_behind (hcount : size ⌈/⌉ pageSize = count)
    (hlimit : maxSgCount < 2 ^ 32) (hcounter : sgCount.toNat ≤ maxSgCount)
    (hlarge : maxSgCount < sgCount.toNat + count) :
    ∃ write ∈ (sgLoop frame maxSgCount pBuf size sgCount).2,
      write.1.toNat = maxSgCount := by
  induction count generalizing pBuf size sgCount with
  | zero => omega
  | succ count ih =>
      obtain ⟨hsize, hrest⟩ := ceilDiv_succ pageSize_pos hcount
      rw [sgLoop_write hsize hcounter]
      by_cases hlast : sgCount.toNat = maxSgCount
      · exact ⟨_, List.mem_cons_self, hlast⟩
      · have hnext := toNat_succ sgCount (by omega)
        obtain ⟨write, hwrite, hindex⟩ :=
          ih (pBuf + min size pageSize) _ (sgCount + 1) hrest (by omega)
            (by omega)
        exact ⟨write, List.mem_cons_of_mem _ hwrite, hindex⟩

theorem sgLoop_index_lt (hcount : size ⌈/⌉ pageSize = count)
    (hlimit : sgCount.toNat + count ≤ 2 ^ 32) :
    ∀ write ∈ (sgLoop frame maxSgCount pBuf size sgCount).2,
      write.1.toNat < sgCount.toNat + count := by
  induction count generalizing pBuf size sgCount with
  | zero =>
      obtain rfl := (ceilDiv_eq_zero pageSize_pos).mp hcount
      rw [sgLoop_end]
      exact nofun
  | succ count ih =>
      obtain ⟨hsize, hrest⟩ := ceilDiv_succ pageSize_pos hcount
      by_cases hroom : sgCount.toNat ≤ maxSgCount
      · rw [sgLoop_write hsize hroom]
        intro write hwrite
        cases hwrite with
        | head =>
            dsimp only
            omega
        | tail _ hmem =>
            rcases Nat.eq_zero_or_pos count with hzero | hpositive
            · subst hzero
              obtain hnone := (ceilDiv_eq_zero pageSize_pos).mp hrest
              rw [hnone, sgLoop_end] at hmem
              cases hmem
            · have hnext := toNat_succ sgCount (by omega)
              have hlt := ih _ _ _ hrest (by omega) write hmem
              omega
      · rw [sgLoop_full hsize (by omega)]
        exact nofun

end Loop

section Bounds

variable {frame : Nat → Nat} {maxSgCount pBuf size : Nat} {maxSize : UInt32}

theorem buildSGElement_eq (hcounter : size ⌈/⌉ pageSize < 2 ^ 32) :
    buildSGElement frame maxSgCount pBuf size =
      ((buildSG frame maxSgCount pBuf size).2.take
        (buildSG frame maxSgCount pBuf size).1.toNat).map Prod.snd := by
  unfold buildSGElement buildSG
  by_cases hroom : size ⌈/⌉ pageSize ≤ maxSgCount + 1
  · have hfree : Unhindered maxSgCount (size ⌈/⌉ pageSize) 0 :=
      Or.inr (by rwa [UInt32.toNat_zero, Nat.zero_add])
    obtain ⟨hreturned, hlength, hchunks⟩ :=
      sgLoop_unhindered frame maxSgCount pBuf size 0 rfl hfree
    have hcount : (0 + UInt32.ofNat (size ⌈/⌉ pageSize)).toNat =
        size ⌈/⌉ pageSize := by
      rw [UInt32.zero_add, UInt32.toNat_ofNat']
      exact Nat.mod_eq_of_lt hcounter
    rw [hchunks _ hroom, hreturned, hcount, ← hlength, List.take_length]
    rfl
  · have hnone : chunksOf frame pageSize (maxSgCount + 1) pBuf size = none :=
      chunksOf_eq_none pageSize_pos (Nat.lt_of_not_le hroom)
    have hstopped := sgLoop_hindered frame maxSgCount pBuf size 0 rfl
      (by omega) (Nat.zero_le _) (by rw [UInt32.toNat_zero]; omega)
    rw [hnone, hstopped]
    rfl

theorem staysInside_iff :
    StaysInside frame maxSgCount pBuf size ↔ FitsList maxSgCount size := by
  have hfree (h : 2 ^ 32 ≤ maxSgCount + 1 ∨
      size ⌈/⌉ pageSize ≤ maxSgCount + 1) :
      Unhindered maxSgCount (size ⌈/⌉ pageSize) 0 := by
    unfold Unhindered
    rwa [UInt32.toNat_zero, Nat.zero_add]
  have hreturned (h : 2 ^ 32 ≤ maxSgCount + 1 ∨
      size ⌈/⌉ pageSize ≤ maxSgCount + 1) :
      (buildSG frame maxSgCount pBuf size).1.toNat =
        size ⌈/⌉ pageSize % 2 ^ 32 := by
    unfold buildSG
    rw [(sgLoop_unhindered frame maxSgCount pBuf size 0 rfl (hfree h)).1,
      UInt32.zero_add]
    exact UInt32.toNat_ofNat'
  constructor
  · intro h
    unfold FitsList
    split
    · rename_i hle
      have hcount := (h.fits hle).1
      rw [hreturned (Or.inr (Nat.le_succ_of_le hle))] at hcount
      omega
    · rename_i hlarge
      have hlong : 2 ^ 32 ≤ maxSgCount := by
        by_contra hshort
        obtain ⟨write, hwrite, hindex⟩ := sgLoop_writes_behind frame
          maxSgCount pBuf size 0 rfl (by omega) (Nat.zero_le _)
          (by rw [UInt32.toNat_zero]; omega)
        have hinside := h.inside write hwrite
        omega
      refine ⟨hlong, ?_⟩
      have hzero := congrArg UInt32.toNat (h.overflows (by omega))
      rw [hreturned (Or.inl (by omega)), UInt32.toNat_zero] at hzero
      exact Nat.dvd_of_mod_eq_zero hzero
  · intro h
    unfold FitsList at h
    split at h
    · rename_i hle
      have hroom := Nat.le_succ_of_le hle
      obtain ⟨_, _, hchunks⟩ :=
        sgLoop_unhindered frame maxSgCount pBuf size 0 rfl
          (hfree (Or.inr hroom))
      obtain ⟨hlengths, hsum⟩ :=
        chunksOf_lengths pageSize_pos (hchunks _ (Nat.le_refl _))
      refine ⟨?_, fun _ => ⟨?_, ?_, ?_⟩, fun hlarge => by omega⟩
      · intro write hwrite
        have hindex := sgLoop_index_lt frame maxSgCount pBuf size 0 rfl
          (by rw [UInt32.toNat_zero]; omega) write hwrite
        rw [UInt32.toNat_zero] at hindex
        omega
      · rw [hreturned (Or.inr hroom)]
        exact Nat.mod_eq_of_lt h
      · exact fun write hwrite =>
          hlengths write.2 (List.mem_map_of_mem hwrite)
      · rw [List.map_map] at hsum
        exact hsum
    · refine ⟨?_, fun hle => by omega, fun _ => ?_⟩
      · intro write _
        exact Nat.lt_of_lt_of_le write.1.toNat_lt h.1
      · apply UInt32.toNat_inj.mp
        rw [hreturned (Or.inl (by omega))]
        exact Nat.mod_eq_zero_of_dvd h.2

theorem getCapsInside_iff :
    GetCapsInside frame pBuf maxSize ↔ ReplyFits maxSize := by
  have hcommand : getCapsetSize ⌈/⌉ pageSize = 1 := rfl
  have hreply : ReplyFits maxSize ↔
      respCapsetSize maxSize ⌈/⌉ pageSize ≤ 3 := by
    rw [ceilDiv_le_iff_le_mul pageSize_pos, Nat.mul_comm]
    exact Iff.rfl
  have hout : (buildSG frame sglistSize pBuf getCapsetSize).1 = 1 :=
    (sgLoop_unhindered frame sglistSize pBuf getCapsetSize 0 hcommand
      (Or.inr (by decide))).1
  have hroom : (UInt32.ofNat sglistSize - 1).toNat = 3 := rfl
  unfold GetCapsInside getCapsWrites
  dsimp only
  rw [hout, hroom, hreply]
  constructor
  · intro hinside
    by_contra hlarge
    obtain ⟨write, hwrite, hindex⟩ := sgLoop_writes_behind frame 3
      (pBuf + getCapsetSize) (respCapsetSize maxSize) 0 rfl (by decide)
      (Nat.zero_le _) (by rw [UInt32.toNat_zero]; omega)
    have hlast := hinside _ (List.mem_append_right _
      (List.mem_map_of_mem hwrite))
    simp only [hindex] at hlast
    exact absurd hlast (by decide)
  · intro hfits write hwrite
    rcases List.mem_append.mp hwrite with hfirst | hsecond
    · obtain ⟨element, helement, rfl⟩ := List.mem_map.mp hfirst
      have hindex := sgLoop_index_lt frame sglistSize pBuf getCapsetSize 0
        hcommand (by decide) element helement
      exact Nat.lt_trans hindex (by decide)
    · obtain ⟨element, helement, rfl⟩ := List.mem_map.mp hsecond
      have hindex := sgLoop_index_lt frame 3 (pBuf + getCapsetSize)
        (respCapsetSize maxSize) 0 rfl (by rw [UInt32.toNat_zero]; omega)
        element helement
      rw [UInt32.toNat_zero] at hindex
      change (1 : UInt32).toNat + element.1.toNat < 4
      rw [UInt32.toNat_one]
      omega

end Bounds

/-- `BuildSGElement` stays inside its list exactly when the buffer fits it;
for the reply of `GetCaps` that is a bound on the size the host reports. -/
theorem scatter_list_bounded_iff (frame : Nat → Nat)
    (maxSgCount pBuf size : Nat) (maxSize : UInt32) :
    (StaysInside frame maxSgCount pBuf size ↔ FitsList maxSgCount size) ∧
      (GetCapsInside frame pBuf maxSize ↔ ReplyFits maxSize) :=
  ⟨staysInside_iff, getCapsInside_iff⟩

/-- Four elements in a list of three, and the reply of `GetCaps` one byte
longer than the three elements left in `sg`. -/
theorem scatter_list_exceeded :
    ¬StaysInside (fun page => page) 3 0x10020 0x3001 ∧
      ¬GetCapsInside (fun page => page) 0x10000 12265 := by
  constructor
  · intro hinside
    have hfits := staysInside_iff.mp hinside
    unfold FitsList at hfits
    rw [if_neg (by decide +kernel)] at hfits
    exact absurd hfits.1 (by decide)
  · intro hinside
    exact absurd (getCapsInside_iff.mp hinside) (by decide)

end VgpuDriver
