import Mathlib

namespace VgpuDriver.Data

/-! Programs that take locks and call routines, on a processor with an
interrupt level: a lock raises the level to `raised` unless it is there
already, and its release restores the saved level if that was lower. -/

inductive Op (Lock Routine : Type)
  | acquire (lock : Lock)
  | release (lock : Lock)
  | call (routine : Routine)
  deriving DecidableEq, Repr

/-- The level and the levels saved by the locks held, the last one first. -/
structure Cpu (Lock : Type) where
  level : Nat
  saved : List (Lock × Nat)
  deriving DecidableEq, Repr

section Execution

variable {Lock Routine : Type} (raised : Nat) (limit : Routine → Nat)

def Cpu.acquire (lock : Lock) (cpu : Cpu Lock) : Cpu Lock where
  level := if cpu.level < raised then raised else cpu.level
  saved := (lock, cpu.level) :: cpu.saved

def Cpu.release (cpu : Cpu Lock) : Cpu Lock :=
  match cpu.saved with
  | [] => cpu
  | (_, level) :: rest =>
      { level := if level < raised then level else cpu.level
        saved := rest }

def Op.exec (cpu : Cpu Lock) : Op Lock Routine → Cpu Lock
  | .acquire lock => cpu.acquire raised lock
  | .release _ => cpu.release raised
  | .call _ => cpu

/-- The processor after the program. -/
def exec (ops : List (Op Lock Routine)) (cpu : Cpu Lock) : Cpu Lock :=
  ops.foldl (Op.exec raised) cpu

/-- Every routine is called at a level within its limit. -/
def Within : List (Op Lock Routine) → Cpu Lock → Prop
  | [], _ => True
  | .call routine :: ops, cpu =>
      cpu.level ≤ limit routine ∧ Within ops cpu
  | .acquire lock :: ops, cpu => Within ops (cpu.acquire raised lock)
  | .release _ :: ops, cpu => Within ops (cpu.release raised)

/-- Every lock is released, the last one taken first. -/
inductive Nested : List (Op Lock Routine) → Prop
  | nil : Nested []
  | call (routine : Routine) {rest : List (Op Lock Routine)}
      (hrest : Nested rest) : Nested (.call routine :: rest)
  | locked (lock : Lock) {body rest : List (Op Lock Routine)}
      (hbody : Nested body) (hrest : Nested rest) :
      Nested (.acquire lock :: (body ++ .release lock :: rest))

/-- A critical section. -/
def locked (lock : Lock) (body : List (Op Lock Routine)) :
    List (Op Lock Routine) :=
  .acquire lock :: (body ++ [.release lock])

def Op.IsCall : Op Lock Routine → Bool
  | .call _ => true
  | _ => false

/-- No routine with a limit is called. -/
def Callless (ops : List (Op Lock Routine)) : Prop :=
  ∀ op ∈ ops, op.IsCall = false

instance decidableWithin :
    (ops : List (Op Lock Routine)) → (cpu : Cpu Lock) →
      Decidable (Within raised limit ops cpu)
  | [], _ => inferInstanceAs (Decidable True)
  | .call routine :: ops, cpu =>
      have := decidableWithin ops cpu
      inferInstanceAs
        (Decidable (cpu.level ≤ limit routine ∧ Within raised limit ops cpu))
  | .acquire lock :: ops, cpu => decidableWithin ops (cpu.acquire raised lock)
  | .release _ :: ops, cpu => decidableWithin ops (cpu.release raised)

variable {raised limit}
variable {ops first second body : List (Op Lock Routine)} {cpu : Cpu Lock}

@[simp] theorem exec_nil :
    exec raised ([] : List (Op Lock Routine)) cpu = cpu := rfl

@[simp] theorem exec_cons (op : Op Lock Routine) :
    exec raised (op :: ops) cpu = exec raised ops (op.exec raised cpu) := rfl

@[simp] theorem exec_append :
    exec raised (first ++ second) cpu =
      exec raised second (exec raised first cpu) :=
  List.foldl_append

@[simp] theorem within_append :
    Within raised limit (first ++ second) cpu ↔
      Within raised limit first cpu ∧
        Within raised limit second (exec raised first cpu) := by
  induction first generalizing cpu with
  | nil => simp [Within]
  | cons op rest ih =>
      cases op with
      | acquire lock => exact ih
      | release lock => exact ih
      | call routine =>
          simp only [List.cons_append, Within, ih, and_assoc]
          rfl

theorem Cpu.release_acquire (lock : Lock) :
    (cpu.acquire raised lock).release raised = cpu := by
  unfold acquire release
  dsimp only
  split
  · rfl
  · rfl

namespace Nested

/-- A nested program leaves the processor as it found it. -/
theorem exec (h : Nested ops) (cpu : Cpu Lock) :
    exec raised ops cpu = cpu := by
  induction h generalizing cpu with
  | nil => rfl
  | call routine hrest ih => exact ih cpu
  | locked lock hbody hrest ihbody ihrest =>
      rw [exec_cons, exec_append, exec_cons, Op.exec, ihbody, Op.exec,
        Cpu.release_acquire, ihrest]

theorem append (hfirst : Nested first) (hsecond : Nested second) :
    Nested (first ++ second) := by
  induction hfirst with
  | nil => exact hsecond
  | call routine hrest ih => exact .call routine ih
  | locked lock hbody hrest ihbody ihrest =>
      have hboth := Nested.locked lock hbody ihrest
      simpa using hboth

theorem locked_section (lock : Lock) (hbody : Nested body) :
    Nested (Data.locked lock body) := by
  have hsection := Nested.locked lock hbody Nested.nil
  exact hsection

theorem flatMap {α : Type} {items : List α}
    {program : α → List (Op Lock Routine)}
    (hprogram : ∀ item ∈ items, Nested (program item)) :
    Nested (items.flatMap program) := by
  induction items with
  | nil => exact .nil
  | cons item rest ih =>
      refine (hprogram item List.mem_cons_self).append (ih ?_)
      exact fun other hother => hprogram other (List.mem_cons_of_mem _ hother)

end Nested

theorem Callless.within (h : Callless ops) :
    Within raised limit ops cpu := by
  induction ops generalizing cpu with
  | nil => trivial
  | cons op rest ih =>
      have hrest : Callless rest := fun other hother =>
        h other (List.mem_cons_of_mem _ hother)
      cases op with
      | acquire lock => exact ih hrest
      | release lock => exact ih hrest
      | call routine => exact absurd (h _ List.mem_cons_self) nofun

/-- In a critical section the level is at least the raised one. -/
theorem within_locked {lock : Lock} :
    Within raised limit (locked lock body) cpu ↔
      Within raised limit body (cpu.acquire raised lock) := by
  unfold locked
  rw [Within, within_append]
  exact ⟨fun h => h.1, fun h => ⟨h, trivial⟩⟩

/-- At a level above all limits exactly the programs without calls are
within them. -/
theorem within_iff_callless (hlimit : ∀ routine, limit routine < raised)
    (hlevel : raised ≤ cpu.level) (hops : Nested ops) :
    Within raised limit ops cpu ↔ Callless ops := by
  refine ⟨fun h => ?_, Callless.within⟩
  induction hops generalizing cpu with
  | nil => exact fun op hop => absurd hop (List.not_mem_nil)
  | call routine hrest ih =>
      have hbelow := hlimit routine
      have hwithin := h.1
      omega
  | locked lock hbody hrest ihbody ihrest =>
      rw [Within, within_append, hbody.exec] at h
      have hraised : raised ≤ (cpu.acquire raised lock).level := by
        unfold Cpu.acquire
        dsimp only
        split
        · exact Nat.le_refl _
        · exact hlevel
      have hinside := ihbody hraised h.1
      have hafter := h.2
      rw [Within, Cpu.release_acquire] at hafter
      have houtside := ihrest hlevel hafter
      intro op hop
      rcases List.mem_cons.mp hop with rfl | hop
      · rfl
      · rcases List.mem_append.mp hop with hop | hop
        · exact hinside op hop
        · rcases List.mem_cons.mp hop with rfl | hop
          · rfl
          · exact houtside op hop

variable (raised limit) in
/-- Nested, and within the limits wherever the level is at most `low`. -/
structure SafeBelow (low : Nat) (ops : List (Op Lock Routine)) : Prop where
  nested : Nested ops
  within : ∀ cpu : Cpu Lock, cpu.level ≤ low → Within raised limit ops cpu

namespace SafeBelow

variable {low : Nat}

theorem nil : SafeBelow raised limit low ([] : List (Op Lock Routine)) where
  nested := .nil
  within := fun _ _ => trivial

theorem call {routine : Routine} (hlimit : low ≤ limit routine) :
    SafeBelow raised limit low
      ([.call routine] : List (Op Lock Routine)) where
  nested := .call routine .nil
  within := fun _ hlevel => ⟨Nat.le_trans hlevel hlimit, trivial⟩

theorem section_of_callless {lock : Lock} (hbody : Nested body)
    (hcallless : Callless body) :
    SafeBelow raised limit low (locked lock body) where
  nested := .locked_section lock hbody
  within := fun _ _ => within_locked.mpr hcallless.within

theorem append (hfirst : SafeBelow raised limit low first)
    (hsecond : SafeBelow raised limit low second) :
    SafeBelow raised limit low (first ++ second) where
  nested := hfirst.nested.append hsecond.nested
  within := by
    intro cpu hlevel
    rw [within_append, hfirst.nested.exec]
    exact ⟨hfirst.within cpu hlevel, hsecond.within cpu hlevel⟩

theorem flatMap {α : Type} {items : List α}
    {program : α → List (Op Lock Routine)}
    (hprogram : ∀ item ∈ items,
      SafeBelow raised limit low (program item)) :
    SafeBelow raised limit low (items.flatMap program) := by
  induction items with
  | nil => exact .nil
  | cons item rest ih =>
      refine (hprogram item List.mem_cons_self).append (ih ?_)
      exact fun other hother => hprogram other (List.mem_cons_of_mem _ hother)

end SafeBelow

end Execution

end VgpuDriver.Data
