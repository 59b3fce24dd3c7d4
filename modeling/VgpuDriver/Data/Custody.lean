import Mathlib

namespace VgpuDriver.Data

/-! Assets that are acquired and have to be given back, each held at most
once, and what is acquired or released out of turn. -/

structure Custody (Asset : Type) where
  held : List Asset
  misused : List Asset
  deriving DecidableEq, Repr

namespace Custody

variable {Asset : Type}

def empty : Custody Asset where
  held := []
  misused := []

/-- Exactly these assets are held, each once, and nothing was out of turn. -/
structure Exactly (custody : Custody Asset) (assets : List Asset) :
    Prop where
  nodup : assets.Nodup
  held : custody.held.Perm assets
  misused : custody.misused = []

variable [DecidableEq Asset]

/-- An asset that is held may not be acquired again. -/
def acquire (custody : Custody Asset) (asset : Asset) : Custody Asset :=
  if asset ∈ custody.held then
    { custody with misused := asset :: custody.misused }
  else { custody with held := asset :: custody.held }

/-- An asset that is not held may not be released. -/
def release (custody : Custody Asset) (asset : Asset) : Custody Asset :=
  if asset ∈ custody.held then
    { custody with held := custody.held.erase asset }
  else { custody with misused := asset :: custody.misused }

/-- Only what is held may be used. -/
def use (custody : Custody Asset) (asset : Asset) : Custody Asset :=
  if asset ∈ custody.held then custody
  else { custody with misused := asset :: custody.misused }

/-- Acquire one after the other. -/
def acquireAll (custody : Custody Asset) (assets : List Asset) :
    Custody Asset :=
  assets.foldl acquire custody

/-- Release one after the other. -/
def releaseAll (custody : Custody Asset) (assets : List Asset) :
    Custody Asset :=
  assets.foldl release custody

section Sequences

variable (custody : Custody Asset) (asset : Asset) (assets : List Asset)

@[simp] theorem acquireAll_nil : custody.acquireAll [] = custody := rfl

@[simp] theorem acquireAll_cons :
    custody.acquireAll (asset :: assets) =
      (custody.acquire asset).acquireAll assets := rfl

@[simp] theorem releaseAll_nil : custody.releaseAll [] = custody := rfl

@[simp] theorem releaseAll_cons :
    custody.releaseAll (asset :: assets) =
      (custody.release asset).releaseAll assets := rfl

theorem releaseAll_append (first second : List Asset) :
    custody.releaseAll (first ++ second) =
      (custody.releaseAll first).releaseAll second :=
  List.foldl_append

end Sequences

namespace Exactly

variable {custody : Custody Asset} {asset : Asset}
variable {assets others rest : List Asset}

omit [DecidableEq Asset] in
theorem empty : (Custody.empty : Custody Asset).Exactly [] where
  nodup := List.nodup_nil
  held := .nil
  misused := rfl

omit [DecidableEq Asset] in
theorem perm (h : custody.Exactly assets) (hperm : assets.Perm others) :
    custody.Exactly others where
  nodup := hperm.nodup_iff.mp h.nodup
  held := h.held.trans hperm
  misused := h.misused

omit [DecidableEq Asset] in
theorem held_eq_nil (h : custody.Exactly assets) :
    custody.held = [] ↔ assets = [] := by
  constructor
  · intro hnil
    have hheld := h.held
    rw [hnil] at hheld
    exact hheld.nil_eq.symm
  · rintro rfl
    exact h.held.eq_nil

theorem acquire (h : custody.Exactly assets) (hnew : asset ∉ assets) :
    (custody.acquire asset).Exactly (asset :: assets) := by
  have hnot : asset ∉ custody.held := fun hheld =>
    hnew (h.held.mem_iff.mp hheld)
  unfold Custody.acquire
  rw [if_neg hnot]
  exact ⟨List.nodup_cons.mpr ⟨hnew, h.nodup⟩, h.held.cons asset, h.misused⟩

theorem release (h : custody.Exactly (asset :: rest)) :
    (custody.release asset).Exactly rest := by
  have hheld : asset ∈ custody.held :=
    h.held.mem_iff.mpr List.mem_cons_self
  unfold Custody.release
  rw [if_pos hheld]
  refine ⟨(List.nodup_cons.mp h.nodup).2, ?_, h.misused⟩
  have herased := h.held.erase asset
  rwa [List.erase_cons_head] at herased

theorem use (h : custody.Exactly assets) (hasset : asset ∈ assets) :
    custody.use asset = custody := by
  unfold Custody.use
  exact if_pos (h.held.mem_iff.mpr hasset)

theorem use_misused (h : custody.Exactly assets) (hnot : asset ∉ assets) :
    (custody.use asset).misused ≠ [] := by
  have hheld : asset ∉ custody.held := fun hmem =>
    hnot (h.held.mem_iff.mp hmem)
  unfold Custody.use
  rw [if_neg hheld]
  exact List.cons_ne_nil _ _

theorem acquireAll (h : custody.Exactly rest)
    (hnew : (assets ++ rest).Nodup) :
    (custody.acquireAll assets).Exactly (assets ++ rest) := by
  induction assets generalizing custody rest with
  | nil => exact h
  | cons head tail ih =>
      have hmiddle : (head :: (tail ++ rest)).Perm (tail ++ head :: rest) :=
        List.perm_middle.symm
      have hnodup : (tail ++ head :: rest).Nodup :=
        hmiddle.nodup_iff.mp hnew
      have hhead : head ∉ rest := fun hmem =>
        (List.nodup_cons.mp hnew).1 (List.mem_append_right tail hmem)
      exact (ih (h.acquire hhead) hnodup).perm hmiddle.symm

theorem releaseAll (h : custody.Exactly (assets ++ rest)) :
    (custody.releaseAll assets).Exactly rest := by
  induction assets generalizing custody with
  | nil => exact h
  | cons head tail ih => exact ih h.release

theorem release_misused (h : custody.Exactly assets)
    (hnot : asset ∉ assets) : (custody.release asset).misused ≠ [] := by
  have hheld : asset ∉ custody.held := fun hmem =>
    hnot (h.held.mem_iff.mp hmem)
  unfold Custody.release
  rw [if_neg hheld]
  exact List.cons_ne_nil _ _

end Exactly

/-! What was out of turn stays recorded. -/

theorem release_keeps_misused {custody : Custody Asset} {asset : Asset}
    (hmisused : custody.misused ≠ []) :
    (custody.release asset).misused ≠ [] := by
  unfold release
  split
  · exact hmisused
  · exact List.cons_ne_nil _ _

theorem acquire_keeps_misused {custody : Custody Asset} {asset : Asset}
    (hmisused : custody.misused ≠ []) :
    (custody.acquire asset).misused ≠ [] := by
  unfold acquire
  split
  · exact List.cons_ne_nil _ _
  · exact hmisused

theorem acquireAll_keeps_misused {custody : Custody Asset}
    (hmisused : custody.misused ≠ []) (assets : List Asset) :
    (custody.acquireAll assets).misused ≠ [] := by
  induction assets generalizing custody with
  | nil => exact hmisused
  | cons head tail ih => exact ih (acquire_keeps_misused hmisused)

theorem use_keeps_misused {custody : Custody Asset} {asset : Asset}
    (hmisused : custody.misused ≠ []) : (custody.use asset).misused ≠ [] := by
  unfold use
  split
  · exact hmisused
  · exact List.cons_ne_nil _ _

theorem releaseAll_keeps_misused {custody : Custody Asset}
    (hmisused : custody.misused ≠ []) (assets : List Asset) :
    (custody.releaseAll assets).misused ≠ [] := by
  induction assets generalizing custody with
  | nil => exact hmisused
  | cons head tail ih => exact ih (release_keeps_misused hmisused)

/-- A release of several assets, one of which is not held, is out of turn. -/
theorem Exactly.releaseAll_misused {custody : Custody Asset}
    {assets others : List Asset} {asset : Asset}
    (h : custody.Exactly others) (hasset : asset ∈ assets)
    (hnot : asset ∉ others) : (custody.releaseAll assets).misused ≠ [] := by
  induction assets generalizing custody others with
  | nil => cases hasset
  | cons head tail ih =>
      by_cases hhead : head ∈ others
      · have hperm := List.perm_cons_erase hhead
        have hne : asset ≠ head := fun heq => hnot (heq ▸ hhead)
        apply ih (h.perm hperm).release
        · exact (List.mem_cons.mp hasset).resolve_left hne
        · exact fun hmem => hnot (List.mem_of_mem_erase hmem)
      · exact releaseAll_keeps_misused (h.release_misused hhead) tail

end Custody

end VgpuDriver.Data
