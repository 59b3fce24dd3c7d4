import VgpuDriver.Data.Pool
import VgpuDriver.Data.Transition

namespace VgpuDriver.Data

/-! Latched notifications.  A line that is rung stays rung until it is
acknowledged; that schedules a pass, which visits the sources that the line
serves one after the other.  Passes overlap in any way. -/

structure Doorbells (Line Source : Type) where
  rung : Finset Line
  scheduled : Finset Line
  passes : List (List Source)

namespace Doorbells

variable {Line Source : Type} [DecidableEq Line]

def silent : Doorbells Line Source where
  rung := ∅
  scheduled := ∅
  passes := []

def ring (line : Line) (bells : Doorbells Line Source) :
    Doorbells Line Source :=
  { bells with rung := insert line bells.rung }

def acknowledge (line : Line) (bells : Doorbells Line Source) :
    Doorbells Line Source :=
  { bells with
    rung := bells.rung.erase line
    scheduled := insert line bells.scheduled }

/-- Start the pass of a line that has one scheduled. -/
def start (serves : Line → List Source) (line : Line)
    (bells : Doorbells Line Source) : Doorbells Line Source :=
  if line ∈ bells.scheduled then
    { bells with
      scheduled := bells.scheduled.erase line
      passes := bells.passes ++ [serves line] }
  else bells

/-- The pass at `slot` goes on to its next source. -/
def leave (slot : Nat) (bells : Doorbells Line Source) :
    Doorbells Line Source :=
  match bells.passes[slot]? with
  | none => bells
  | some pass => { bells with passes := bells.passes.set slot pass.tail }

/-- Nothing is to be acknowledged or started and no pass is under way. -/
def Idle (bells : Doorbells Line Source) : Prop :=
  bells.rung = ∅ ∧ bells.scheduled = ∅ ∧ ∀ pass ∈ bells.passes, pass = []

/-- Some pass, under way or still to come, visits the source. -/
def Covers (serves : Line → List Source) (bells : Doorbells Line Source)
    (source : Source) : Prop :=
  (∃ line, (line ∈ bells.rung ∨ line ∈ bells.scheduled) ∧
      source ∈ serves line) ∨
    ∃ pass ∈ bells.passes, source ∈ pass

/-- A bound on the steps to the end; `width` bounds the sources of a line. -/
def work (width : Nat) (bells : Doorbells Line Source) : Nat :=
  (width + 2) * bells.rung.card + (width + 1) * bells.scheduled.card +
    (bells.passes.map List.length).sum

section Cover

variable {serves : Line → List Source} {bells : Doorbells Line Source}
variable {source : Source} {line : Line}

omit [DecidableEq Line] in
theorem silent_idle : (silent : Doorbells Line Source).Idle :=
  ⟨rfl, rfl, fun _ hpass => absurd hpass List.not_mem_nil⟩

theorem covers_ring (hserves : source ∈ serves line) :
    (bells.ring line).Covers serves source :=
  Or.inl ⟨line, Or.inl (Finset.mem_insert_self line _), hserves⟩

theorem Covers.ring (h : bells.Covers serves source) (line : Line) :
    (bells.ring line).Covers serves source := by
  rcases h with ⟨other, hother, hserves⟩ | hpass
  · exact Or.inl ⟨other, hother.imp_left Finset.mem_insert_of_mem, hserves⟩
  · exact Or.inr hpass

theorem Covers.acknowledge (h : bells.Covers serves source) (line : Line) :
    (bells.acknowledge line).Covers serves source := by
  rcases h with ⟨other, hother, hserves⟩ | hpass
  · refine Or.inl ⟨other, ?_, hserves⟩
    by_cases hsame : other = line
    · exact Or.inr (hsame ▸ Finset.mem_insert_self other _)
    · exact hother.imp (Finset.mem_erase_of_ne_of_mem hsame)
        Finset.mem_insert_of_mem
  · exact Or.inr hpass

theorem Covers.start (h : bells.Covers serves source) (line : Line) :
    (bells.start serves line).Covers serves source := by
  unfold Doorbells.start
  split
  · rcases h with ⟨other, hother, hserves⟩ | ⟨pass, hpass, hsource⟩
    · by_cases hsame : other = line
      · subst hsame
        exact Or.inr ⟨_, List.mem_append_right _ List.mem_cons_self, hserves⟩
      · exact Or.inl ⟨other,
          hother.imp_right (Finset.mem_erase_of_ne_of_mem hsame), hserves⟩
    · exact Or.inr ⟨pass, List.mem_append_left _ hpass, hsource⟩
  · exact h

omit [DecidableEq Line] in
/-- Only the source that the pass leaves may lose its cover. -/
theorem Covers.leave (h : bells.Covers serves source) {slot : Nat}
    {left : Source} {rest : List Source}
    (hslot : bells.passes[slot]? = some (left :: rest))
    (hother : source ≠ left) :
    (bells.leave slot).Covers serves source := by
  simp only [Doorbells.leave, hslot, List.tail_cons]
  rcases h with hline | ⟨pass, hpass, hsource⟩
  · exact Or.inl hline
  · by_cases hsame : pass = left :: rest
    · subst hsame
      refine Or.inr ⟨rest, List.mem_of_getElem? (getElem?_set_moved hslot), ?_⟩
      exact (List.mem_cons.mp hsource).resolve_left hother
    · exact Or.inr ⟨pass, mem_set_of_ne hslot hpass (Ne.symm hsame), hsource⟩

omit [DecidableEq Line] in
theorem Idle.not_covers (h : bells.Idle) : ¬bells.Covers serves source := by
  obtain ⟨hrung, hscheduled, hpasses⟩ := h
  rintro (⟨line, hline | hline, _⟩ | ⟨pass, hpass, hsource⟩)
  · rw [hrung] at hline
    exact absurd hline (Finset.notMem_empty line)
  · rw [hscheduled] at hline
    exact absurd hline (Finset.notMem_empty line)
  · rw [hpasses pass hpass] at hsource
    exact absurd hsource List.not_mem_nil

end Cover

section Work

variable {width : Nat} {bells : Doorbells Line Source} {line : Line}

omit [DecidableEq Line] in
/-- What there is to do unless everything is idle. -/
theorem exists_of_not_idle (h : ¬bells.Idle) :
    (∃ line, line ∈ bells.rung) ∨ (∃ line, line ∈ bells.scheduled) ∨
      ∃ (slot : Nat) (source : Source) (rest : List Source),
        bells.passes[slot]? = some (source :: rest) := by
  by_contra hnone
  push Not at hnone
  obtain ⟨hrung, hscheduled, hpasses⟩ := hnone
  refine h ⟨Finset.eq_empty_of_forall_notMem hrung,
    Finset.eq_empty_of_forall_notMem hscheduled, ?_⟩
  intro pass hpass
  obtain ⟨slot, hslot⟩ := List.mem_iff_getElem?.mp hpass
  cases pass with
  | nil => rfl
  | cons source rest => exact absurd hslot (hpasses slot source rest)

theorem work_ring : (bells.ring line).work width ≤ bells.work width + width + 2 := by
  have hcard := Finset.card_insert_le line bells.rung
  have hmul := Nat.mul_le_mul_left (width + 2) hcard
  rw [Nat.mul_add, Nat.mul_one] at hmul
  unfold work ring
  dsimp only
  omega

theorem work_acknowledge (hline : line ∈ bells.rung) :
    (bells.acknowledge line).work width < bells.work width := by
  have hrung := congrArg ((width + 2) * ·) (Finset.card_erase_add_one hline)
  have hscheduled := Nat.mul_le_mul_left (width + 1)
    (Finset.card_insert_le line bells.scheduled)
  simp only [Nat.mul_add (_ + _), Nat.mul_one] at hrung hscheduled
  unfold work acknowledge
  dsimp only
  omega

theorem work_start {serves : Line → List Source}
    (hline : line ∈ bells.scheduled)
    (hwidth : (serves line).length ≤ width) :
    (bells.start serves line).work width < bells.work width := by
  have hscheduled := congrArg ((width + 1) * ·)
    (Finset.card_erase_add_one hline)
  simp only [Nat.mul_add (_ + _), Nat.mul_one] at hscheduled
  simp only [start, if_pos hline, work, List.map_append, List.sum_append,
    List.map_cons, List.map_nil, List.sum_cons, List.sum_nil]
  omega

omit [DecidableEq Line] in
theorem work_leave {slot : Nat} {source : Source} {rest : List Source}
    (hslot : bells.passes[slot]? = some (source :: rest)) :
    (bells.leave slot).work width < bells.work width := by
  obtain ⟨hlength, hget⟩ := List.getElem?_eq_some_iff.mp hslot
  have hpasses : bells.passes = bells.passes.take slot ++
      (source :: rest) :: bells.passes.drop (slot + 1) := by
    rw [← hget, ← List.drop_eq_getElem_cons hlength, List.take_append_drop]
  have hsum := congrArg (fun passes => (passes.map List.length).sum) hpasses
  simp only [List.map_append, List.sum_append, List.map_cons, List.sum_cons,
    List.length_cons] at hsum
  simp only [leave, hslot, List.tail_cons, work,
    List.set_eq_take_append_cons_drop, if_pos hlength, List.map_append,
    List.sum_append, List.map_cons, List.sum_cons]
  omega

end Work

end Doorbells

end VgpuDriver.Data
