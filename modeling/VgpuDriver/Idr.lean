import Mathlib

namespace VgpuDriver

/-! The id generators of `idr.c`.  Ids are 64-bit counters handed out as their
low `size` bytes. -/

/-- `IDRANDOM`; the ghost `drawn` counts the fresh ids taken from `id`. -/
structure Idr where
  id : Nat
  freeIdList : List Nat
  drawn : Nat
  deriving DecidableEq, Repr

/-- `InitializeIdr` on one entry: 0 is reserved. -/
def initializeIdr : Idr where
  id := 1
  freeIdList := []
  drawn := 0

/-- The low `size` bytes that `RtlCopyMemory` moves. -/
def lowBytes (size value : Nat) : Nat := value % 2 ^ (8 * size)

def getIdFromIdrWithoutCache (size : Nat) (idr : Idr) : Nat × Idr :=
  (lowBytes size idr.id,
    { idr with id := (idr.id + 1) % 2 ^ 64, drawn := idr.drawn + 1 })

def getIdFromIdr (size : Nat) (idr : Idr) : Nat × Idr :=
  match idr.freeIdList with
  | [] => getIdFromIdrWithoutCache size idr
  | free :: rest => (lowBytes size free, { idr with freeIdList := rest })

def putIdToIdr (size id : Nat) (idr : Idr) : Idr :=
  { idr with freeIdList := lowBytes size id :: idr.freeIdList }

/-- While the counter has not wrapped it is one more than the ids drawn. -/
def Idr.Counted (idr : Idr) : Prop :=
  idr.id = (1 + idr.drawn) % 2 ^ 64

theorem initializeIdr_counted : initializeIdr.Counted := rfl

theorem Idr.Counted.getIdFromIdrWithoutCache {idr : Idr} (h : idr.Counted)
    (size : Nat) : (getIdFromIdrWithoutCache size idr).2.Counted := by
  unfold Idr.Counted at *
  simp only [VgpuDriver.getIdFromIdrWithoutCache, h]
  rw [Nat.add_mod, Nat.mod_mod, ← Nat.add_mod, Nat.add_assoc]

end VgpuDriver
