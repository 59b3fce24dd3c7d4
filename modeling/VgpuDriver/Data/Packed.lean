import Mathlib

namespace VgpuDriver.Data

/-! Packed structures: little-endian words and fields laid out one behind the
other, and what a pointer to such a structure reads. -/

/-- The `width` bytes of a number, the lowest first. -/
def storeWord : Nat → Nat → List UInt8
  | 0, _ => []
  | width + 1, value => UInt8.ofNat value :: storeWord width (value / 256)

def loadWord (bytes : List UInt8) : Nat :=
  Nat.ofDigits 256 (bytes.map UInt8.toNat)

@[simp] theorem storeWord_length (width value : Nat) :
    (storeWord width value).length = width := by
  induction width generalizing value with
  | zero => rfl
  | succ width ih => exact congrArg (· + 1) (ih (value / 256))

theorem loadWord_storeWord (width value : Nat) :
    loadWord (storeWord width value) = value % 256 ^ width := by
  induction width generalizing value with
  | zero => simp [storeWord, loadWord, Nat.mod_one]
  | succ width ih =>
      have hrest := ih (value / 256)
      simp only [loadWord, storeWord, List.map_cons, Nat.ofDigits_cons]
        at hrest ⊢
      rw [hrest, UInt8.toNat_ofNat', pow_succ' 256 width]
      exact Nat.mod_mul.symm

/-- Values of the type take `size` bytes, and what was stored is what is
loaded. -/
structure Packed (α : Type) where
  size : Nat
  store : α → List UInt8
  load : List UInt8 → α
  length_store : ∀ value, (store value).length = size
  load_store : ∀ value, load (store value) = value

namespace Packed

variable {α β : Type}

/-- Read the structure at an offset of a block. -/
def peek (packed : Packed α) (offset : Nat) (bytes : List UInt8) : α :=
  packed.load ((bytes.drop offset).take packed.size)

def word (width : Nat) (toNat : α → Nat) (ofNat : Nat → α)
    (hinverse : ∀ value, ofNat (toNat value % 256 ^ width) = value) :
    Packed α where
  size := width
  store := fun value => storeWord width (toNat value)
  load := fun bytes => ofNat (loadWord bytes)
  length_store := fun value => storeWord_length width (toNat value)
  load_store := fun value => by rw [loadWord_storeWord, hinverse]

def u32 : Packed UInt32 :=
  word 4 UInt32.toNat UInt32.ofNat fun value => by
    have hbound : value.toNat < 256 ^ 4 := value.toNat_lt
    rw [Nat.mod_eq_of_lt hbound, UInt32.ofNat_toNat]

def u64 : Packed UInt64 :=
  word 8 UInt64.toNat UInt64.ofNat fun value => by
    have hbound : value.toNat < 256 ^ 8 := value.toNat_lt
    rw [Nat.mod_eq_of_lt hbound, UInt64.ofNat_toNat]

/-- Bytes that hold the same content in every value; a reader ignores
them. -/
def literal (bytes : List UInt8) : Packed Unit where
  size := bytes.length
  store := fun _ => bytes
  load := fun _ => ()
  length_store := fun _ => rfl
  load_store := fun _ => rfl

/-- Bytes that stay zero. -/
def zeros (count : Nat) : Packed Unit :=
  literal (List.replicate count 0)

/-- One structure behind the other. -/
def seq (first : Packed α) (second : Packed β) : Packed (α × β) where
  size := first.size + second.size
  store := fun value => first.store value.1 ++ second.store value.2
  load := fun bytes =>
    (first.load (bytes.take first.size), second.load (bytes.drop first.size))
  length_store := fun value => by
    rw [List.length_append, first.length_store, second.length_store]
  load_store := fun value => by
    rw [List.take_left' (first.length_store _),
      List.drop_left' (first.length_store _), first.load_store,
      second.load_store]

/-- The same bytes read as a record. -/
def record (packed : Packed α) (toRecord : α → β) (ofRecord : β → α)
    (hinverse : ∀ value, toRecord (ofRecord value) = value) : Packed β where
  size := packed.size
  store := fun value => packed.store (ofRecord value)
  load := fun bytes => toRecord (packed.load bytes)
  length_store := fun value => packed.length_store (ofRecord value)
  load_store := fun value => by rw [packed.load_store, hinverse]

@[simp] theorem peek_store_append (packed : Packed α) (value : α)
    (rest : List UInt8) :
    packed.peek 0 (packed.store value ++ rest) = value := by
  rw [peek, List.drop_zero, List.take_left' (packed.length_store value),
    packed.load_store]

/-- A pointer to a structure is a pointer to its first member. -/
@[simp] theorem peek_seq_store_append (first : Packed α) (second : Packed β)
    (value : α × β) (rest : List UInt8) :
    first.peek 0 ((first.seq second).store value ++ rest) = value.1 := by
  change first.peek 0
    ((first.store value.1 ++ second.store value.2) ++ rest) = value.1
  rw [List.append_assoc, peek_store_append]

/-- What lies behind a block of bytes. -/
theorem peek_length_append (packed : Packed α) (block rest : List UInt8) :
    packed.peek block.length (block ++ rest) = packed.peek 0 rest := by
  rw [peek, List.drop_left, peek, List.drop_zero]

end Packed

end VgpuDriver.Data
