import Mathlib

namespace VgpuDriver.Data

/-! A pool of threads as the list of the stages they are at: a thread is
started at the end of the pool and moves by replacing its stage. -/

section Pool

variable {Stage : Type} {pool : List Stage} {thread other : Nat}
variable {stage new : Stage}

/-- After a move a thread is the one that moved, or it is where it was. -/
theorem getElem?_set_cases (hstage : (pool.set thread new)[other]? = some stage) :
    (other = thread ∧ stage = new) ∨
      (other ≠ thread ∧ pool[other]? = some stage) := by
  rw [List.getElem?_set] at hstage
  split at hstage
  · rename_i heq
    split at hstage
    · exact .inl ⟨heq.symm, (Option.some.inj hstage).symm⟩
    · exact absurd hstage nofun
  · rename_i hne
    exact .inr ⟨fun heq => hne heq.symm, hstage⟩

theorem getElem?_start_cases (hstage : (pool ++ [new])[other]? = some stage) :
    (other = pool.length ∧ stage = new) ∨ pool[other]? = some stage := by
  rw [List.getElem?_append] at hstage
  split at hstage
  · exact .inr hstage
  · rename_i hlength
    obtain ⟨hlast, rfl⟩ := List.getElem?_eq_some_iff.mp hstage
    rw [List.length_singleton] at hlast
    exact .inl ⟨by omega, by simp⟩

theorem getElem?_set_moved (hthread : pool[thread]? = some stage) :
    (pool.set thread new)[thread]? = some new := by
  obtain ⟨hlength, _⟩ := List.getElem?_eq_some_iff.mp hthread
  exact List.getElem?_set_self hlength

theorem getElem?_set_other (hne : other ≠ thread) :
    (pool.set thread new)[other]? = pool[other]? :=
  List.getElem?_set_ne fun heq => hne heq.symm

theorem mem_set_of_ne (hthread : pool[thread]? = some stage)
    {old : Stage} (hold : old ∈ pool) (hne : stage ≠ old) :
    old ∈ pool.set thread new := by
  obtain ⟨other, hother⟩ := List.mem_iff_getElem?.mp hold
  refine List.mem_of_getElem? (i := other) ?_
  refine (getElem?_set_other fun heq => ?_).trans hother
  subst heq
  exact hne (Option.some.inj (hthread.symm.trans hother))

theorem forall_mem_set {holds : Stage → Prop}
    (hpool : ∀ stage ∈ pool, holds stage) (hnew : holds new) :
    ∀ stage ∈ pool.set thread new, holds stage := by
  intro stage hstage
  rcases List.mem_or_eq_of_mem_set hstage with hold | rfl
  · exact hpool stage hold
  · exact hnew

theorem forall_mem_start {holds : Stage → Prop}
    (hpool : ∀ stage ∈ pool, holds stage) (hnew : holds new) :
    ∀ stage ∈ pool ++ [new], holds stage := by
  intro stage hstage
  rcases List.mem_append.mp hstage with hold | hlast
  · exact hpool stage hold
  · rw [List.mem_singleton.mp hlast]
    exact hnew

/-! What the stages of the threads claim. -/

variable {Claim : Type} {claim : Stage → Option Claim} {value : Claim}

/-- Some thread claims the value. -/
def Claimed (claim : Stage → Option Claim) (pool : List Stage)
    (value : Claim) : Prop :=
  ∃ stage ∈ pool, claim stage = some value

instance [DecidableEq Claim] : Decidable (Claimed claim pool value) :=
  inferInstanceAs (Decidable (∃ stage ∈ _, _))

namespace Claimed

theorem set_iff (hthread : pool[thread]? = some stage)
    (hsame : claim new = some value ↔ claim stage = some value) :
    Claimed claim (pool.set thread new) value ↔
      Claimed claim pool value := by
  constructor
  · rintro ⟨moved, hmoved, hclaim⟩
    rcases List.mem_or_eq_of_mem_set hmoved with hold | rfl
    · exact ⟨moved, hold, hclaim⟩
    · exact ⟨stage, List.mem_of_getElem? hthread, hsame.mp hclaim⟩
  · rintro ⟨old, hold, hclaim⟩
    obtain ⟨other, hother⟩ := List.mem_iff_getElem?.mp hold
    by_cases heq : other = thread
    · subst heq
      obtain rfl := Option.some.inj (hthread.symm.trans hother)
      exact ⟨new, List.mem_of_getElem? (getElem?_set_moved hthread),
        hsame.mpr hclaim⟩
    · refine ⟨old, List.mem_of_getElem? (i := other) ?_, hclaim⟩
      rw [getElem?_set_other heq]
      exact hother

theorem imp {other : Stage → Option Claim} (h : Claimed claim pool value)
    (himplies : ∀ stage, claim stage = some value →
      other stage = some value) : Claimed other pool value := by
  obtain ⟨stage, hstage, hclaim⟩ := h
  exact ⟨stage, hstage, himplies stage hclaim⟩

theorem of_thread (hthread : pool[thread]? = some stage)
    (hclaim : claim stage = some value) : Claimed claim pool value :=
  ⟨stage, List.mem_of_getElem? hthread, hclaim⟩

theorem set (hthread : pool[thread]? = some stage)
    (hnew : claim new = some value) :
    Claimed claim (pool.set thread new) value :=
  of_thread (getElem?_set_moved hthread) hnew

theorem of_set (h : Claimed claim (pool.set thread new) value) :
    claim new = some value ∨ Claimed claim pool value := by
  obtain ⟨moved, hmoved, hclaim⟩ := h
  rcases List.mem_or_eq_of_mem_set hmoved with hold | rfl
  · exact .inr ⟨moved, hold, hclaim⟩
  · exact .inl hclaim

theorem start_iff (hnone : claim new = none) :
    Claimed claim (pool ++ [new]) value ↔ Claimed claim pool value := by
  constructor
  · rintro ⟨stage, hstage, hclaim⟩
    rcases List.mem_append.mp hstage with hold | hlast
    · exact ⟨stage, hold, hclaim⟩
    · rw [List.mem_singleton.mp hlast, hnone] at hclaim
      exact absurd hclaim nofun
  · rintro ⟨stage, hstage, hclaim⟩
    exact ⟨stage, List.mem_append_left _ hstage, hclaim⟩

end Claimed

/-- No two threads claim the same. -/

def Alone (claim : Stage → Option Claim) (pool : List Stage) : Prop :=
  ∀ (first second : Nat) (stage stage' : Stage) (value : Claim),
    pool[first]? = some stage → pool[second]? = some stage' →
    claim stage = some value → claim stage' = some value → first = second

namespace Alone

theorem nil : Alone claim [] := by
  intro first second stage stage' value hfirst
  exact absurd hfirst (by simp)

/-- A thread claims nothing new when it moves. -/
theorem set (hpool : Alone claim pool) (hthread : pool[thread]? = some stage)
    (hkept : claim new = none ∨ claim new = claim stage) :
    Alone claim (pool.set thread new) := by
  have hclaim : ∀ {other : Nat} {moved : Stage} {value : Claim},
      (pool.set thread new)[other]? = some moved →
      claim moved = some value →
      ∃ old, pool[other]? = some old ∧ claim old = some value := by
    intro other moved value hmoved hvalue
    rcases getElem?_set_cases hmoved with ⟨rfl, rfl⟩ | ⟨_, hold⟩
    · rcases hkept with hnone | hsame
      · exact absurd (hnone.symm.trans hvalue) nofun
      · exact ⟨stage, hthread, hsame ▸ hvalue⟩
    · exact ⟨moved, hold, hvalue⟩
  intro first second one two value hone htwo hfirst hsecond
  obtain ⟨_, hold, hfirst⟩ := hclaim hone hfirst
  obtain ⟨_, hold', hsecond⟩ := hclaim htwo hsecond
  exact hpool _ _ _ _ _ hold hold' hfirst hsecond

theorem set_fresh (hpool : Alone claim pool)
    (hfresh : ∀ value, claim new = some value →
      ¬Claimed claim pool value) :
    Alone claim (pool.set thread new) := by
  intro first second one two value hone htwo hfirst hsecond
  rcases getElem?_set_cases hone with ⟨rfl, rfl⟩ | ⟨_, hold⟩
  · rcases getElem?_set_cases htwo with ⟨rfl, _⟩ | ⟨_, htwo⟩
    · rfl
    · exact absurd ⟨two, List.mem_of_getElem? htwo, hsecond⟩
        (hfresh value hfirst)
  · rcases getElem?_set_cases htwo with ⟨rfl, rfl⟩ | ⟨_, htwo⟩
    · exact absurd ⟨one, List.mem_of_getElem? hold, hfirst⟩
        (hfresh value hsecond)
    · exact hpool _ _ _ _ _ hold htwo hfirst hsecond

theorem start (hpool : Alone claim pool) (hnone : claim new = none) :
    Alone claim (pool ++ [new]) := by
  have hclaim : ∀ {other : Nat} {moved : Stage} {value : Claim},
      (pool ++ [new])[other]? = some moved → claim moved = some value →
      pool[other]? = some moved := by
    intro other moved value hmoved hvalue
    rcases getElem?_start_cases hmoved with ⟨_, rfl⟩ | hold
    · exact absurd (hnone.symm.trans hvalue) nofun
    · exact hold
  intro first second one two value hone htwo hfirst hsecond
  exact hpool _ _ _ _ _ (hclaim hone hfirst) (hclaim htwo hsecond) hfirst
    hsecond

theorem released (hpool : Alone claim pool)
    (hthread : pool[thread]? = some stage) (hvalue : claim stage = some value)
    (hgiven : claim new ≠ some value) :
    ¬Claimed claim (pool.set thread new) value := by
  rintro ⟨other, hother, hclaim⟩
  obtain ⟨slot, hslot⟩ := List.mem_iff_getElem?.mp hother
  rcases getElem?_set_cases hslot with ⟨_, rfl⟩ | ⟨hne, hold⟩
  · exact hgiven hclaim
  · exact hne (hpool _ _ _ _ _ hold hthread hclaim hvalue)

end Alone

end Pool

end VgpuDriver.Data
