import Mathlib

namespace VgpuDriver.Data

/-! A history, its newest event first, checked by a partial function on states:
`none` when the history has an event that the state before it does not
allow. -/

section Replay

variable {Event State : Type} (apply : Event → State → Option State)

/-- The state after the history. -/
def replay (start : State) : List Event → Option State
  | [] => some start
  | event :: older => (replay start older).bind (apply event)

@[simp] theorem replay_nil (start : State) :
    replay apply start [] = some start := rfl

@[simp] theorem replay_cons (start : State) (event : Event)
    (older : List Event) :
    replay apply start (event :: older) =
      (replay apply start older).bind (apply event) := rfl

variable {apply}

/-- An event that leaves every state as it is may be left out. -/
theorem replay_cons_of_fixed {event : Event}
    (hfixed : ∀ state, apply event state = some state) (start : State)
    (older : List Event) :
    replay apply start (event :: older) = replay apply start older := by
  rw [replay_cons]
  cases replay apply start older with
  | none => rfl
  | some state => exact hfixed state

theorem replay_append_of_fixed {new : List Event}
    (hfixed : ∀ event ∈ new, ∀ state, apply event state = some state)
    (start : State) (older : List Event) :
    replay apply start (new ++ older) = replay apply start older := by
  induction new with
  | nil => rfl
  | cons event new ih =>
      rw [List.cons_append,
        replay_cons_of_fixed (hfixed event List.mem_cons_self)]
      exact ih fun event hevent =>
        hfixed event (List.mem_cons_of_mem _ hevent)

theorem replay_cons_of_some {start state next : State} {event : Event}
    {older : List Event} (holder : replay apply start older = some state)
    (hevent : apply event state = some next) :
    replay apply start (event :: older) = some next := by
  rw [replay_cons, holder]
  exact hevent

end Replay

end VgpuDriver.Data
