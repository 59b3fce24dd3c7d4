import Mathlib

namespace VgpuDriver.Data

/-! Runs of a step function, invariants of runs, and runs all of whose steps
meet a condition on the state before the step. -/

section Runs

variable {State Action : Type} (step : State → Action → State)

/-- The state reached from `state` by a list of actions. -/
def runFrom (state : State) (actions : List Action) : State :=
  actions.foldl step state

@[simp] theorem runFrom_nil (state : State) :
    runFrom step state [] = state := rfl

@[simp] theorem runFrom_cons (state : State) (action : Action)
    (actions : List Action) :
    runFrom step state (action :: actions) =
      runFrom step (step state action) actions := rfl

theorem runFrom_append (state : State) (first second : List Action) :
    runFrom step state (first ++ second) =
      runFrom step (runFrom step state first) second :=
  List.foldl_append

/-- Every step of the run meets `guard` in the state before it. -/
def Along (guard : State → Action → Prop) : State → List Action → Prop
  | _, [] => True
  | state, action :: actions =>
      guard state action ∧ Along guard (step state action) actions

@[simp] theorem along_nil (guard : State → Action → Prop) (state : State) :
    Along step guard state [] := trivial

@[simp] theorem along_cons (guard : State → Action → Prop) (state : State)
    (action : Action) (actions : List Action) :
    Along step guard state (action :: actions) ↔
      guard state action ∧ Along step guard (step state action) actions :=
  Iff.rfl

theorem along_append (guard : State → Action → Prop) (state : State)
    (first second : List Action) :
    Along step guard state (first ++ second) ↔
      Along step guard state first ∧
        Along step guard (runFrom step state first) second := by
  induction first generalizing state with
  | nil => simp
  | cons action rest ih => simp [ih, and_assoc]

instance along_decidable (guard : State → Action → Prop)
    [∀ state action, Decidable (guard state action)] :
    (state : State) → (actions : List Action) →
      Decidable (Along step guard state actions)
  | _, [] => inferInstanceAs (Decidable True)
  | state, action :: actions =>
      have := along_decidable guard (step state action) actions
      inferInstanceAs (Decidable (guard state action ∧ _))

variable {step}

theorem Along.and {left right : State → Action → Prop}
    {state : State} {actions : List Action}
    (hleft : Along step left state actions)
    (hright : Along step right state actions) :
    Along step (fun state action => left state action ∧ right state action)
      state actions := by
  induction actions generalizing state with
  | nil => trivial
  | cons action rest ih =>
      exact ⟨⟨hleft.1, hright.1⟩, ih hleft.2 hright.2⟩

/-- What holds at the start and is kept by every step that meets the guard
holds at the end of every run whose steps meet it. -/
theorem Along.invariant {guard : State → Action → Prop}
    {invariant : State → Prop}
    (hstep : ∀ state action, invariant state → guard state action →
      invariant (step state action))
    {state : State} {actions : List Action}
    (halong : Along step guard state actions) (hstart : invariant state) :
    invariant (runFrom step state actions) := by
  induction actions generalizing state with
  | nil => exact hstart
  | cons action rest ih =>
      exact ih halong.2 (hstep _ _ hstart halong.1)

/-- A guard that an invariant provides at every step holds along the run. -/
theorem Along.of_invariant {guard : State → Action → Prop}
    {invariant : State → Prop}
    (hstep : ∀ state action, invariant state → guard state action →
      invariant (step state action))
    {derived : State → Action → Prop}
    (hderived : ∀ state action, invariant state → guard state action →
      derived state action)
    {state : State} {actions : List Action}
    (halong : Along step guard state actions) (hstart : invariant state) :
    Along step derived state actions := by
  induction actions generalizing state with
  | nil => trivial
  | cons action rest ih =>
      exact ⟨hderived _ _ hstart halong.1,
        ih halong.2 (hstep _ _ hstart halong.1)⟩

/-- Two conditions that agree while an invariant holds, which one of them
keeps, hold along the same runs. -/
theorem along_iff {left right : State → Action → Prop}
    (invariant : State → Prop)
    (hiff : ∀ state action, invariant state →
      (left state action ↔ right state action))
    (hstep : ∀ state action, invariant state → right state action →
      invariant (step state action))
    {state : State} {actions : List Action} (hstart : invariant state) :
    Along step left state actions ↔ Along step right state actions := by
  induction actions generalizing state with
  | nil => exact Iff.rfl
  | cons action rest ih =>
      rw [along_cons, along_cons, hiff state action hstart]
      exact and_congr_right fun hright => ih (hstep _ _ hstart hright)

/-- What holds of every action of a run holds along it. -/
theorem along_of_mem {guard : Action → Prop} {state : State}
    {actions : List Action} (hactions : ∀ action ∈ actions, guard action) :
    Along step (fun _ action => guard action) state actions := by
  induction actions generalizing state with
  | nil => trivial
  | cons action rest ih =>
      refine ⟨hactions action List.mem_cons_self, ih ?_⟩
      exact fun other hother => hactions other (List.mem_cons_of_mem _ hother)

/-- What a step cannot bring about held before when it holds at the end. -/
theorem of_runFrom (holds : State → Prop)
    (hback : ∀ state action, holds (step state action) → holds state)
    {state : State} {actions : List Action}
    (hend : holds (runFrom step state actions)) : holds state := by
  induction actions generalizing state with
  | nil => exact hend
  | cons action rest ih => exact hback state action (ih hend)

theorem along_of_end (holds : State → Prop)
    (hback : ∀ state action, holds (step state action) → holds state)
    {state : State} {actions : List Action}
    (hend : holds (runFrom step state actions)) :
    Along step (fun state action => holds (step state action)) state
      actions := by
  induction actions generalizing state with
  | nil => trivial
  | cons action rest ih => exact ⟨of_runFrom holds hback hend, ih hend⟩

/-- A number that no step lowers is below a bound along the run when it is at
the end. -/
theorem along_of_le {measure : State → Nat} {bound : Nat}
    (hmono : ∀ state action, measure state ≤ measure (step state action))
    {state : State} {actions : List Action}
    (hend : measure (runFrom step state actions) < bound) :
    Along step (fun state action => measure (step state action) < bound)
      state actions := by
  refine along_of_end (fun state => measure state < bound) ?_ hend
  intro state action hbound
  exact Nat.lt_of_le_of_lt (hmono state action) hbound

variable (step)

/-- Every state of the run is good, the first and the last included. -/
def Always (good : State → Prop) : State → List Action → Prop
  | state, [] => good state
  | state, action :: actions =>
      good state ∧ Always good (step state action) actions

variable {step}

/-- When a step keeps the state good exactly if it meets the guard, the runs
through good states are those along the guard. -/
theorem always_iff_along {good invariant : State → Prop}
    {guard : State → Action → Prop}
    (hinvariant : ∀ state action, invariant state →
      invariant (step state action))
    (hgood : ∀ state action, invariant state → good state →
      (good (step state action) ↔ guard state action))
    {state : State} {actions : List Action} (hstart : invariant state)
    (hfirst : good state) :
    Always step good state actions ↔ Along step guard state actions := by
  induction actions generalizing state with
  | nil => simp [Always, hfirst]
  | cons action rest ih =>
      have hstep := hgood state action hstart hfirst
      constructor
      · intro halways
        have hnext : good (step state action) := by
          cases rest with
          | nil => exact halways.2
          | cons _ _ => exact halways.2.1
        exact ⟨hstep.mp hnext,
          (ih (hinvariant _ _ hstart) hnext).mp halways.2⟩
      · intro halong
        have hnext := hstep.mpr halong.1
        exact ⟨hfirst, (ih (hinvariant _ _ hstart) hnext).mpr halong.2⟩

/-- Where every state that is not at the end has a step that lowers a measure
and keeps the invariant, a run of such steps leads to the end. -/
theorem exists_run_to_end {step : State → Action → State}
    {invariant ended : State → Prop} {allowed : Action → Prop}
    (measure : State → Nat)
    (hstep : ∀ state, invariant state → ¬ended state →
      ∃ action, allowed action ∧ invariant (step state action) ∧
        measure (step state action) < measure state)
    {state : State} (hstart : invariant state) :
    ∃ actions : List Action, (∀ action ∈ actions, allowed action) ∧
      invariant (runFrom step state actions) ∧
      ended (runFrom step state actions) := by
  induction hmeasure : measure state using Nat.strong_induction_on
    generalizing state with
  | _ bound ih =>
      by_cases hended : ended state
      · exact ⟨[], fun action haction => absurd haction List.not_mem_nil,
          hstart, hended⟩
      · obtain ⟨action, hallowed, hnext, hless⟩ := hstep state hstart hended
        obtain ⟨actions, hactions, hend⟩ :=
          ih _ (hmeasure ▸ hless) hnext rfl
        refine ⟨action :: actions, ?_, hend⟩
        intro other hother
        rcases List.mem_cons.mp hother with rfl | hlater
        · exact hallowed
        · exact hactions other hlater

end Runs

end VgpuDriver.Data
