import Mathlib

namespace VgpuDriver.Data

/-! Folds of commuting, idempotent updates: only the set of the arguments
matters. -/

section SetFold

variable {α β : Type} {f : β → α → β}

theorem foldl_behind (hcomm : ∀ state first second,
      f (f state first) second = f (f state second) first)
    (list : List α) (state : β) (entry : α) :
    f (list.foldl f state) entry = list.foldl f (f state entry) := by
  induction list generalizing state with
  | nil => rfl
  | cons head tail ih =>
      rw [List.foldl_cons, List.foldl_cons, ih, hcomm]

theorem foldl_absorbs (hcomm : ∀ state first second,
      f (f state first) second = f (f state second) first)
    (hidem : ∀ state entry, f (f state entry) entry = f state entry)
    {list : List α} {entry : α} (hmem : entry ∈ list) (state : β) :
    f (list.foldl f state) entry = list.foldl f state := by
  induction list generalizing state with
  | nil => cases hmem
  | cons head tail ih =>
      cases hmem with
      | head =>
          rw [List.foldl_cons, foldl_behind hcomm, hidem]
      | tail _ htail =>
          rw [List.foldl_cons]
          exact ih htail (f state head)

theorem foldl_of_absorbed {list : List α} {state : β}
    (habsorbed : ∀ entry ∈ list, f state entry = state) :
    list.foldl f state = state := by
  induction list with
  | nil => rfl
  | cons head tail ih =>
      rw [List.foldl_cons, habsorbed head List.mem_cons_self]
      exact ih fun entry hentry =>
        habsorbed entry (List.mem_cons_of_mem head hentry)

/-- Two folds agree when each of them absorbs the updates of the other. -/
theorem foldl_eq_of_absorbed (hcomm : ∀ state first second,
      f (f state first) second = f (f state second) first)
    {left right : List α} {state : β}
    (hleft : ∀ entry ∈ right, f (left.foldl f state) entry =
      left.foldl f state)
    (hright : ∀ entry ∈ left, f (right.foldl f state) entry =
      right.foldl f state) :
    left.foldl f state = right.foldl f state := by
  have hswap : (left ++ right).foldl f state =
      (right ++ left).foldl f state := by
    apply List.perm_append_comm.foldl_eq'
    intro first _ second _ current
    exact hcomm current first second
  rw [List.foldl_append, List.foldl_append] at hswap
  rw [← foldl_of_absorbed hleft, hswap, foldl_of_absorbed hright]

end SetFold

end VgpuDriver.Data
