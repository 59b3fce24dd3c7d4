import Mathlib

namespace VgpuDriver.Data

/-! A range of virtual addresses described by chunks, each of which starts at
the physical address of its first byte. -/

/-- The physical address, when `frame` maps pages of `unit` bytes. -/
def translate (frame : Nat → Nat) (unit address : Nat) : Nat :=
  frame (address / unit) * unit + address % unit

/-- `length` bytes from the physical address `start` on. -/
structure Chunk where
  start : Nat
  length : Nat
  deriving DecidableEq, Repr

namespace Chunk

/-- The physical addresses that the chunks describe, in their order. -/
def bytes (chunks : List Chunk) : List Nat :=
  chunks.flatMap fun chunk =>
    (List.range chunk.length).map fun offset => chunk.start + offset

end Chunk

/-- Cut the range into chunks of `unit` bytes, at most `room` of them. -/
def chunksOf (frame : Nat → Nat) (unit : Nat) :
    (room address size : Nat) → Option (List Chunk)
  | _, _, 0 => some []
  | 0, _, _ + 1 => none
  | room + 1, address, size + 1 =>
      (chunksOf frame unit room (address + min (size + 1) unit)
        (size + 1 - min (size + 1) unit)).map fun rest =>
          { start := translate frame unit address
            length := min (size + 1) unit } :: rest

section Chunks

variable {frame : Nat → Nat} {unit : Nat}

theorem translate_same_page {address offset : Nat}
    (hsame : address % unit + offset < unit) :
    translate frame unit (address + offset) =
      translate frame unit address + offset := by
  have hunit : 0 < unit := by omega
  have hsplit : address + offset =
      (address % unit + offset) + unit * (address / unit) := by
    have hdivision := Nat.mod_add_div address unit
    omega
  unfold translate
  rw [hsplit, Nat.add_mul_div_left _ _ hunit, Nat.div_eq_of_lt hsame,
    Nat.zero_add, Nat.add_mul_mod_self_left, Nat.mod_eq_of_lt hsame,
    Nat.add_assoc]

theorem translate_next_page {address offset : Nat}
    (hnext : unit ≤ address % unit + offset)
    (hshort : address % unit + offset < 2 * unit) :
    translate frame unit (address + offset) =
      frame (address / unit + 1) * unit +
        (address % unit + offset - unit) := by
  have hunit : 0 < unit := by omega
  have hsplit : address + offset =
      (address % unit + offset - unit) + unit * (address / unit + 1) := by
    have hdivision := Nat.mod_add_div address unit
    rw [Nat.mul_add, Nat.mul_one]
    omega
  have hsmall : address % unit + offset - unit < unit := by omega
  unfold translate
  rw [hsplit, Nat.add_mul_div_left _ _ hunit, Nat.div_eq_of_lt hsmall,
    Nat.zero_add, Nat.add_mul_mod_self_left, Nat.mod_eq_of_lt hsmall]

/-- The bytes of a chunk at `address` are where its start says. -/
def Straight (frame : Nat → Nat) (unit address length : Nat) : Prop :=
  ∀ offset < length,
    translate frame unit (address + offset) =
      translate frame unit address + offset

/-- A chunk that reaches into a second page needs the frames to follow each
other. -/
theorem straight_iff {address length : Nat} (hunit : 0 < unit)
    (hlength : length ≤ unit) :
    Straight frame unit address length ↔
      (unit < address % unit + length →
        frame (address / unit + 1) = frame (address / unit) + 1) := by
  constructor
  · intro hstraight hcrosses
    have hrest : address % unit < unit := Nat.mod_lt _ hunit
    have hfirst := hstraight (unit - address % unit) (by omega)
    rw [translate_next_page (by omega) (by omega)] at hfirst
    unfold translate at hfirst
    have hframes : frame (address / unit + 1) * unit =
        (frame (address / unit) + 1) * unit := by
      rw [Nat.add_mul, Nat.one_mul]
      omega
    exact Nat.eq_of_mul_eq_mul_right hunit hframes
  · intro hframes offset hoffset
    by_cases hsame : address % unit + offset < unit
    · exact translate_same_page hsame
    · have hrest : address % unit < unit := Nat.mod_lt _ hunit
      rw [translate_next_page (by omega) (by omega), hframes (by omega)]
      unfold translate
      rw [Nat.add_mul, Nat.one_mul]
      omega

/-- The chunks describe the range byte for byte. -/
def Enumerates (frame : Nat → Nat) (unit address size : Nat)
    (chunks : List Chunk) : Prop :=
  Chunk.bytes chunks =
    (List.range size).map fun offset =>
      translate frame unit (address + offset)

theorem enumerates_cons_iff {address size length : Nat} {rest : List Chunk}
    (hlength : length ≤ size) :
    Enumerates frame unit address size
        ({ start := translate frame unit address, length := length } ::
          rest) ↔
      Straight frame unit address length ∧
        Enumerates frame unit (address + length) (size - length) rest := by
  have hrange : (List.range size).map (fun offset =>
      translate frame unit (address + offset)) =
      (List.range length).map (fun offset =>
        translate frame unit (address + offset)) ++
      (List.range (size - length)).map (fun offset =>
        translate frame unit (address + length + offset)) := by
    have hsize : size = length + (size - length) := by omega
    conv_lhs => rw [hsize, List.range_add, List.map_append, List.map_map]
    simp only [Function.comp_def, Nat.add_assoc]
  unfold Enumerates
  rw [hrange]
  simp only [Chunk.bytes, List.flatMap_cons]
  rw [List.append_eq_append_iff_of_size_eq_left (by simp)]
  refine and_congr ?_ Iff.rfl
  rw [List.map_inj_left]
  simp only [List.mem_range, Straight]
  exact forall_congr' fun offset => imp_congr_right fun _ => eq_comm

theorem straight_chunks_cons {address size : Nat} :
    (∀ index, index * unit < size →
        Straight frame unit (address + index * unit)
          (min (size - index * unit) unit)) ↔
      (0 < size → Straight frame unit address (min size unit)) ∧
        ∀ index, index * unit < size - min size unit →
          Straight frame unit (address + min size unit + index * unit)
            (min (size - min size unit - index * unit) unit) := by
  constructor
  · intro h
    refine ⟨fun hsize => by simpa using h 0 (by omega), ?_⟩
    intro index hindex
    by_cases hlast : size ≤ unit
    · rw [Nat.min_eq_left hlast] at hindex
      omega
    · rw [Nat.min_eq_right (by omega)] at hindex ⊢
      have hnext := h (index + 1) (by rw [Nat.add_mul]; omega)
      have haddress : address + (index + 1) * unit =
          address + unit + index * unit := by
        rw [Nat.add_mul]
        omega
      have hrest : size - (index + 1) * unit =
          size - unit - index * unit := by
        rw [Nat.add_mul]
        omega
      rwa [haddress, hrest] at hnext
  · rintro ⟨hfirst, hrest⟩ index hindex
    cases index with
    | zero => simpa using hfirst (by omega)
    | succ index =>
        have hlarge : unit < size := by
          rw [Nat.add_mul] at hindex
          omega
        have hnext := hrest index (by
          rw [Nat.min_eq_right (by omega)]
          rw [Nat.add_mul] at hindex
          omega)
        rw [Nat.min_eq_right (by omega : unit ≤ size)] at hnext
        have haddress : address + (index + 1) * unit =
            address + unit + index * unit := by
          rw [Nat.add_mul]
          omega
        have hshort : size - (index + 1) * unit =
            size - unit - index * unit := by
          rw [Nat.add_mul]
          omega
        rwa [haddress, hshort]

/-- With room for the range, the chunks describe it exactly when each of them
is straight. -/
theorem chunksOf_enumerates_iff {room address size : Nat}
    (hroom : size ≤ room * unit) :
    ∃ chunks, chunksOf frame unit room address size = some chunks ∧
      (Enumerates frame unit address size chunks ↔
        ∀ index, index * unit < size →
          Straight frame unit (address + index * unit)
            (min (size - index * unit) unit)) := by
  induction room generalizing address size with
  | zero =>
      have hempty : size = 0 := by omega
      subst hempty
      exact ⟨[], by simp [chunksOf], by simp [Enumerates, Chunk.bytes]⟩
  | succ room ih =>
      cases size with
      | zero =>
          exact ⟨[], by simp [chunksOf], by simp [Enumerates, Chunk.bytes]⟩
      | succ size =>
          rw [Nat.add_mul, Nat.one_mul] at hroom
          have hleft : size + 1 - min (size + 1) unit ≤ room * unit := by
            omega
          obtain ⟨rest, hrest, hiff⟩ :=
            @ih (address + min (size + 1) unit) _ hleft
          refine ⟨_, by rw [chunksOf, hrest]; rfl, ?_⟩
          have hfirst : Straight frame unit address (min (size + 1) unit) ↔
              (0 < size + 1 →
                Straight frame unit address (min (size + 1) unit)) := by
            simp
          exact (enumerates_cons_iff (Nat.min_le_left _ _)).trans
            ((and_congr hfirst hiff).trans straight_chunks_cons.symm)

/-! The number of the chunks and their lengths. -/

theorem ceilDiv_eq_zero (hunit : 0 < unit) {size : Nat} :
    size ⌈/⌉ unit = 0 ↔ size = 0 := by
  rw [← Nat.le_zero, ceilDiv_le_iff_le_mul hunit, Nat.mul_zero, Nat.le_zero]

theorem ceilDiv_succ (hunit : 0 < unit) {size count : Nat}
    (hcount : size ⌈/⌉ unit = count + 1) :
    0 < size ∧ (size - min size unit) ⌈/⌉ unit = count := by
  have hpositive : 0 < size := by
    apply Nat.pos_of_ne_zero
    intro hzero
    rw [(ceilDiv_eq_zero hunit).mpr hzero] at hcount
    cases hcount
  refine ⟨hpositive, Nat.le_antisymm ?_ ?_⟩
  · have hle := (ceilDiv_le_iff_le_mul hunit).mp (Nat.le_of_eq hcount)
    rw [ceilDiv_le_iff_le_mul hunit]
    rw [Nat.mul_add, Nat.mul_one] at hle
    omega
  · have hle := (ceilDiv_le_iff_le_mul hunit).mp
      (Nat.le_refl ((size - min size unit) ⌈/⌉ unit))
    generalize (size - min size unit) ⌈/⌉ unit = rest at hle
    have hall : size ⌈/⌉ unit ≤ rest + 1 := by
      rw [ceilDiv_le_iff_le_mul hunit, Nat.mul_add, Nat.mul_one]
      omega
    omega

theorem chunksOf_step {room address size : Nat} (hsize : 0 < size) :
    chunksOf frame unit (room + 1) address size =
      (chunksOf frame unit room (address + min size unit)
        (size - min size unit)).map fun rest =>
          { start := translate frame unit address
            length := min size unit } :: rest := by
  cases size with
  | zero => cases hsize
  | succ size => rfl

theorem chunksOf_eq_none (hunit : 0 < unit) {room address size : Nat}
    (hroom : room < size ⌈/⌉ unit) :
    chunksOf frame unit room address size = none := by
  induction room generalizing address size with
  | zero =>
      cases size with
      | zero =>
          rw [(ceilDiv_eq_zero hunit).mpr rfl] at hroom
          cases hroom
      | succ size => rfl
  | succ room ih =>
      obtain ⟨count, hcount⟩ := Nat.exists_eq_succ_of_ne_zero
        (Nat.ne_zero_of_lt hroom)
      obtain ⟨hsize, hrest⟩ := ceilDiv_succ hunit hcount
      rw [chunksOf_step hsize, ih (by omega)]
      rfl

theorem chunksOf_lengths (hunit : 0 < unit) {room address size : Nat}
    {chunks : List Chunk}
    (hchunks : chunksOf frame unit room address size = some chunks) :
    (∀ chunk ∈ chunks, 0 < chunk.length ∧ chunk.length ≤ unit) ∧
      (chunks.map Chunk.length).sum = size := by
  induction room generalizing address size chunks with
  | zero =>
      cases size with
      | zero =>
          cases hchunks
          exact ⟨nofun, rfl⟩
      | succ size => cases hchunks
  | succ room ih =>
      rcases Nat.eq_zero_or_pos size with hzero | hsize
      · subst hzero
        rw [chunksOf] at hchunks
        cases hchunks
        exact ⟨nofun, rfl⟩
      · rw [chunksOf_step hsize] at hchunks
        obtain ⟨rest, hrest, rfl⟩ := Option.map_eq_some_iff.mp hchunks
        obtain ⟨hlengths, hsum⟩ := ih hrest
        constructor
        · intro chunk hchunk
          cases hchunk with
          | head =>
              dsimp only
              omega
          | tail _ hmem => exact hlengths chunk hmem
        · rw [List.map_cons, List.sum_cons, hsum]
          dsimp only
          omega

end Chunks

end VgpuDriver.Data
