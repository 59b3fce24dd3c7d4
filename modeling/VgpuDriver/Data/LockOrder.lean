import VgpuDriver.Data.Levels
import VgpuDriver.Data.Pool
import VgpuDriver.Data.Transition

namespace VgpuDriver.Data

/-! Threads and interrupts on several processors that take spin locks in the
order of a rank: whoever waits for a lock waits for a processor that runs, and
everything can be brought to its end. -/

variable {Lock Routine : Type}

/-- A thread or an interrupt: the state of its processor while it runs, and
what it still executes. -/
structure Frame (Lock Routine : Type) where
  cpu : Cpu Lock
  rest : List (Op Lock Routine)

def Frame.held (frame : Frame Lock Routine) : List Lock :=
  frame.cpu.saved.map Prod.fst

/-- The first frame of a processor runs and has interrupted the ones behind
it; `ready` are the threads that no processor runs. -/
structure Machine (Lock Routine : Type) where
  processors : List (List (Frame Lock Routine))
  ready : List (Frame Lock Routine)

inductive MachineAction (Lock Routine : Type)
  | arrive (level : Nat) (program : List (Op Lock Routine))
  | dispatch (processor slot : Nat)
  | preempt (processor : Nat)
  | interrupt (processor : Nat) (program : List (Op Lock Routine))
  | advance (processor : Nat)

/-- The program that enters the machine. -/
def MachineAction.program :
    MachineAction Lock Routine → Option (List (Op Lock Routine))
  | .arrive _ program => some program
  | .interrupt _ program => some program
  | _ => none

/-- Nothing new enters the machine. -/
def MachineAction.GoesOn : MachineAction Lock Routine → Prop
  | .dispatch _ _ | .advance _ => True
  | _ => False

/-- The next operation neither waits for one of the locks nor blocks. -/
def Frame.Unhindered (blocks : Routine → Bool) (held : List Lock)
    (frame : Frame Lock Routine) : Prop :=
  match frame.rest with
  | [] => False
  | .acquire lock :: _ => lock ∉ held
  | .release _ :: _ => True
  | .call routine :: _ => blocks routine = false

namespace Machine

def frames (machine : Machine Lock Routine) : List (Frame Lock Routine) :=
  machine.processors.flatten ++ machine.ready

/-- All locks that are held. -/
def held (machine : Machine Lock Routine) : List Lock :=
  machine.frames.flatMap Frame.held

def idle (count : Nat) : Machine Lock Routine where
  processors := List.replicate count []
  ready := []

def setStack (processor : Nat) (stack : List (Frame Lock Routine))
    (machine : Machine Lock Routine) : Machine Lock Routine :=
  { machine with processors := machine.processors.set processor stack }

section Step

variable [DecidableEq Lock] (raised : Nat)

/-- The first frame of the processor executes one operation, or it has ended
and the one it interrupted goes on.  A lock that is held is waited for. -/
def advance (processor : Nat) (machine : Machine Lock Routine) :
    Machine Lock Routine :=
  match machine.processors[processor]? with
  | some (⟨_, []⟩ :: below) => machine.setStack processor below
  | some (⟨cpu, .acquire lock :: rest⟩ :: below) =>
      if lock ∈ machine.held then machine
      else
        machine.setStack processor (⟨cpu.acquire raised lock, rest⟩ :: below)
  | some (⟨cpu, .release _ :: rest⟩ :: below) =>
      machine.setStack processor (⟨cpu.release raised, rest⟩ :: below)
  | some (⟨cpu, .call _ :: rest⟩ :: below) =>
      machine.setStack processor (⟨cpu, rest⟩ :: below)
  | _ => machine

/-- Threads start below the raised level, where they can be interrupted and
the processor can be given to another one; interrupts start at it. -/
def step (machine : Machine Lock Routine) :
    MachineAction Lock Routine → Machine Lock Routine
  | .arrive level program =>
      if level < raised then
        { machine with ready := ⟨⟨level, []⟩, program⟩ :: machine.ready }
      else machine
  | .dispatch processor slot =>
      match machine.processors[processor]?, machine.ready[slot]? with
      | some [], some frame =>
          { machine.setStack processor [frame] with
            ready := machine.ready.eraseIdx slot }
      | _, _ => machine
  | .preempt processor =>
      match machine.processors[processor]? with
      | some [frame] =>
          if frame.cpu.level < raised then
            { machine.setStack processor [] with
              ready := frame :: machine.ready }
          else machine
      | _ => machine
  | .interrupt processor program =>
      match machine.processors[processor]? with
      | some stack =>
          if ∀ frame ∈ stack, frame.cpu.level < raised then
            machine.setStack processor (⟨⟨raised, []⟩, program⟩ :: stack)
          else machine
      | none => machine
  | .advance processor => machine.advance raised processor

end Step

end Machine

section Order

variable (rank : Lock → Nat) (blocks : Routine → Bool)

/-- From `held` on, locks are taken upwards in rank and released last one
first, and no routine that blocks is called with a lock held. -/
def Climbs : List Lock → List (Op Lock Routine) → Prop
  | held, [] => held = []
  | held, .acquire lock :: ops =>
      (∀ other ∈ held, rank other < rank lock) ∧ Climbs (lock :: held) ops
  | held, .release lock :: ops =>
      ∃ others, held = lock :: others ∧ Climbs others ops
  | held, .call routine :: ops =>
      (held = [] ∨ blocks routine = false) ∧ Climbs held ops

/-- The piece of program keeps the order wherever `held` is held. -/
def KeepsOrder (held : List Lock) (ops : List (Op Lock Routine)) : Prop :=
  ∀ next, Climbs rank blocks held next → Climbs rank blocks held (ops ++ next)

namespace KeepsOrder

variable {rank blocks} {held : List Lock}
variable {ops first second body : List (Op Lock Routine)}

theorem climbs (h : KeepsOrder rank blocks [] ops) :
    Climbs rank blocks [] ops := by
  have hops := h [] rfl
  rwa [List.append_nil] at hops

theorem nil : KeepsOrder rank blocks held ([] : List (Op Lock Routine)) :=
  fun _ hnext => hnext

theorem append (hfirst : KeepsOrder rank blocks held first)
    (hsecond : KeepsOrder rank blocks held second) :
    KeepsOrder rank blocks held (first ++ second) := by
  intro next hnext
  rw [List.append_assoc]
  exact hfirst _ (hsecond _ hnext)

theorem call {routine : Routine} (hcall : held = [] ∨ blocks routine = false) :
    KeepsOrder rank blocks held ([.call routine] : List (Op Lock Routine)) :=
  fun _ hnext => ⟨hcall, hnext⟩

theorem locked_section {lock : Lock}
    (hrank : ∀ other ∈ held, rank other < rank lock)
    (hbody : KeepsOrder rank blocks (lock :: held) body) :
    KeepsOrder rank blocks held (locked lock body) := by
  intro next hnext
  have hrelease : Climbs rank blocks (lock :: held)
      (.release lock :: next) := ⟨held, rfl, hnext⟩
  refine ⟨hrank, ?_⟩
  change Climbs rank blocks (lock :: held) (body ++ [.release lock] ++ next)
  rw [List.append_assoc]
  exact hbody _ hrelease

theorem flatMap {α : Type} {items : List α}
    {program : α → List (Op Lock Routine)}
    (hprogram : ∀ item ∈ items, KeepsOrder rank blocks held (program item)) :
    KeepsOrder rank blocks held (items.flatMap program) := by
  induction items with
  | nil => exact nil
  | cons item rest ih =>
      refine (hprogram item List.mem_cons_self).append (ih ?_)
      exact fun other hother => hprogram other (List.mem_cons_of_mem _ hother)

end KeepsOrder

/-- The level is raised while a lock is held, and was when the inner ones of
several were taken. -/
def Guarded (raised : Nat) : Nat → List (Lock × Nat) → Prop
  | _, [] => True
  | level, (_, before) :: saved => raised ≤ level ∧ Guarded raised before saved

namespace Frame

variable (raised : Nat)

structure Ordered (frame : Frame Lock Routine) : Prop where
  climbs : Climbs rank blocks frame.held frame.rest
  guarded : Guarded raised frame.cpu.level frame.cpu.saved

/-- The frame does not run, and holds no lock. -/
structure Rests (frame : Frame Lock Routine) : Prop where
  climbs : Climbs rank blocks [] frame.rest
  unlocked : frame.cpu.saved = []

variable {rank blocks raised}
variable {cpu : Cpu Lock} {op : Op Lock Routine} {lock : Lock}
variable {rest : List (Op Lock Routine)} {frame : Frame Lock Routine}

theorem Rests.held_eq (h : frame.Rests rank blocks) : frame.held = [] := by
  rw [Frame.held, h.unlocked]
  rfl

theorem Rests.ordered (h : frame.Rests rank blocks) :
    frame.Ordered rank blocks raised where
  climbs := h.held_eq ▸ h.climbs
  guarded := h.unlocked ▸ trivial

/-- Below the raised level no lock is held. -/
theorem Ordered.rests (h : frame.Ordered rank blocks raised)
    (hlevel : frame.cpu.level < raised) : frame.Rests rank blocks := by
  have hunlocked : frame.cpu.saved = [] := by
    have hguarded := h.guarded
    cases hsaved : frame.cpu.saved with
    | nil => rfl
    | cons last saved =>
        rw [hsaved] at hguarded
        have hraised := hguarded.1
        omega
  refine ⟨?_, hunlocked⟩
  have hclimbs := h.climbs
  rwa [Frame.held, hunlocked] at hclimbs

theorem Ordered.acquire
    (h : Ordered rank blocks raised ⟨cpu, .acquire lock :: rest⟩) :
    Ordered rank blocks raised ⟨cpu.acquire raised lock, rest⟩ where
  climbs := h.climbs.2
  guarded := by
    refine ⟨?_, h.guarded⟩
    unfold Cpu.acquire
    dsimp only
    split
    · exact Nat.le_refl _
    · omega

/-- A release gives back the lock taken last. -/
theorem Ordered.release
    (h : Ordered rank blocks raised ⟨cpu, .release lock :: rest⟩) :
    Ordered rank blocks raised ⟨cpu.release raised, rest⟩ ∧
      Frame.held ⟨cpu, .release lock :: rest⟩ =
        lock :: Frame.held (⟨cpu.release raised, rest⟩ : Frame Lock Routine) := by
  obtain ⟨level, saved⟩ := cpu
  obtain ⟨others, hheld, hclimbs⟩ := h.climbs
  cases saved with
  | nil => cases hheld
  | cons last saved =>
      obtain ⟨taken, before⟩ := last
      obtain ⟨rfl, rfl⟩ := List.cons.inj hheld
      refine ⟨⟨hclimbs, ?_⟩, rfl⟩
      have hguarded := h.guarded
      cases saved with
      | nil => trivial
      | cons inner saved =>
          obtain ⟨hraised, hbefore, hinner⟩ := hguarded
          refine ⟨?_, hinner⟩
          change raised ≤ if before < raised then before else level
          rw [if_neg (by omega)]
          exact hraised

theorem Ordered.call {routine : Routine}
    (h : Ordered rank blocks raised ⟨cpu, .call routine :: rest⟩) :
    Ordered rank blocks raised ⟨cpu, rest⟩ where
  climbs := h.climbs.2
  guarded := h.guarded

theorem Ordered.held_of_end (h : Ordered rank blocks raised ⟨cpu, []⟩) :
    Frame.held (⟨cpu, []⟩ : Frame Lock Routine) = [] := h.climbs

end Frame

end Order

namespace Machine

section Frames

variable {machine : Machine Lock Routine} {processor slot : Nat}
variable {stack : List (Frame Lock Routine)} {frame : Frame Lock Routine}

/-- The frames of the other processors and the threads no processor runs. -/
def others (processor : Nat) (machine : Machine Lock Routine) :
    List (Frame Lock Routine) :=
  (machine.processors.eraseIdx processor).flatten ++ machine.ready

theorem frames_perm (hstack : machine.processors[processor]? = some stack) :
    machine.frames.Perm (stack ++ machine.others processor) := by
  obtain ⟨hlength, rfl⟩ := List.getElem?_eq_some_iff.mp hstack
  unfold frames others
  rw [← List.append_assoc]
  refine List.Perm.append_right _ ?_
  exact (List.getElem_cons_eraseIdx_perm hlength).symm.flatten

theorem frames_setStack (hstack : machine.processors[processor]? = some stack)
    (new : List (Frame Lock Routine)) :
    (machine.setStack processor new).frames.Perm
      (new ++ machine.others processor) := by
  obtain ⟨hlength, _⟩ := List.getElem?_eq_some_iff.mp hstack
  unfold frames others setStack
  rw [← List.append_assoc]
  refine List.Perm.append_right _ ?_
  exact (List.set_perm_cons_eraseIdx hlength new).flatten

/-- A thread that gets a processor, and one that loses it, stays a frame. -/
theorem frames_dispatch (hstack : machine.processors[processor]? = some [])
    (hready : machine.ready[slot]? = some frame) :
    ({ machine.setStack processor [frame] with
        ready := machine.ready.eraseIdx slot } :
      Machine Lock Routine).frames.Perm machine.frames := by
  obtain ⟨hlength, rfl⟩ := List.getElem?_eq_some_iff.mp hready
  let taken := { machine with ready := machine.ready.eraseIdx slot }
  have htaken : taken.processors[processor]? = some [] := hstack
  have hprocessors := frames_setStack htaken [machine.ready[slot]]
  refine hprocessors.trans (.trans ?_ (frames_perm hstack).symm)
  unfold others
  rw [List.nil_append, List.singleton_append]
  refine List.perm_middle.symm.trans (List.Perm.append_left _ ?_)
  exact List.getElem_cons_eraseIdx_perm hlength

theorem frames_preempt (hstack : machine.processors[processor]? = some [frame]) :
    ({ machine.setStack processor [] with
        ready := frame :: machine.ready } :
      Machine Lock Routine).frames.Perm machine.frames := by
  let given := { machine with ready := frame :: machine.ready }
  have hgiven : given.processors[processor]? = some [frame] := hstack
  have hprocessors := frames_setStack hgiven []
  refine hprocessors.trans (.trans ?_ (frames_perm hstack).symm)
  exact List.perm_middle

theorem held_perm {other : Machine Lock Routine}
    (h : machine.frames.Perm other.frames) : machine.held.Perm other.held :=
  h.flatMap_right Frame.held

end Frames

section Order

variable (rank : Lock → Nat) (blocks : Routine → Bool) (raised : Nat)

/-- The frames that were interrupted rest. -/
def StackOrdered : List (Frame Lock Routine) → Prop
  | [] => True
  | top :: below => top.Ordered rank blocks raised ∧
      ∀ frame ∈ below, frame.Rests rank blocks

/-- Only running frames hold locks, and no two of them the same one. -/
structure Ordered (machine : Machine Lock Routine) : Prop where
  processors : ∀ stack ∈ machine.processors, StackOrdered rank blocks raised stack
  ready : ∀ frame ∈ machine.ready, frame.Rests rank blocks
  exclusive : machine.held.Nodup

variable {rank blocks raised}
variable {machine : Machine Lock Routine} {processor : Nat}
variable {frame : Frame Lock Routine} {stack : List (Frame Lock Routine)}

theorem stackOrdered_of_rests
    (h : ∀ frame ∈ stack, frame.Rests rank blocks) :
    StackOrdered rank blocks raised stack := by
  cases stack with
  | nil => trivial
  | cons top below =>
      exact ⟨(h top List.mem_cons_self).ordered,
        fun frame hframe => h frame (List.mem_cons_of_mem _ hframe)⟩

theorem idle_ordered (count : Nat) :
    (idle count : Machine Lock Routine).Ordered rank blocks raised where
  processors := by
    intro stack hstack
    rw [List.eq_of_mem_replicate hstack]
    trivial
  ready := fun frame hframe => absurd hframe List.not_mem_nil
  exclusive := by simp [held, frames, idle]

namespace Ordered

/-- Replace the frames of a processor. -/
theorem setStack (h : machine.Ordered rank blocks raised)
    {new : List (Frame Lock Routine)}
    (hstack : machine.processors[processor]? = some stack)
    (hnew : StackOrdered rank blocks raised new)
    (hexclusive : (new.flatMap Frame.held ++
      (machine.others processor).flatMap Frame.held).Nodup) :
    (machine.setStack processor new).Ordered rank blocks raised where
  processors := forall_mem_set h.processors hnew
  ready := h.ready
  exclusive := by
    have hframes := (frames_setStack hstack new).flatMap_right Frame.held
    rw [List.flatMap_append] at hframes
    exact hframes.nodup_iff.mpr hexclusive

theorem exclusive_of_stack (h : machine.Ordered rank blocks raised)
    (hstack : machine.processors[processor]? = some stack) :
    (stack.flatMap Frame.held ++
      (machine.others processor).flatMap Frame.held).Nodup := by
  have hframes := (frames_perm hstack).flatMap_right Frame.held
  rw [List.flatMap_append] at hframes
  exact hframes.nodup_iff.mp h.exclusive

theorem stackOrdered (h : machine.Ordered rank blocks raised)
    (hstack : machine.processors[processor]? = some stack) :
    StackOrdered rank blocks raised stack :=
  h.processors stack (List.mem_of_getElem? hstack)

section Step

variable [DecidableEq Lock]

theorem advance (h : machine.Ordered rank blocks raised) (processor : Nat) :
    (machine.advance raised processor).Ordered rank blocks raised := by
  unfold Machine.advance
  split
  · rename_i cpu below hstack
    have hordered := h.stackOrdered hstack
    have hexclusive := h.exclusive_of_stack hstack
    rw [List.flatMap_cons, hordered.1.held_of_end, List.nil_append]
      at hexclusive
    exact h.setStack hstack (stackOrdered_of_rests hordered.2) hexclusive
  · rename_i cpu lock rest below hstack
    split
    · exact h
    · rename_i hfree
      have hordered := h.stackOrdered hstack
      refine h.setStack hstack ⟨hordered.1.acquire, hordered.2⟩ ?_
      refine List.nodup_cons.mpr ⟨fun hmem => hfree ?_,
        h.exclusive_of_stack hstack⟩
      have hframes := (frames_perm hstack).flatMap_right Frame.held
      rw [List.flatMap_append] at hframes
      exact hframes.mem_iff.mpr hmem
  · rename_i cpu lock rest below hstack
    have hordered := h.stackOrdered hstack
    obtain ⟨hreleased, hheld⟩ := hordered.1.release
    refine h.setStack hstack ⟨hreleased, hordered.2⟩ ?_
    have hexclusive := h.exclusive_of_stack hstack
    rw [List.flatMap_cons, hheld] at hexclusive
    exact (List.nodup_cons.mp hexclusive).2
  · rename_i cpu routine rest below hstack
    have hordered := h.stackOrdered hstack
    have hexclusive := h.exclusive_of_stack hstack
    exact h.setStack hstack ⟨hordered.1.call, hordered.2⟩ hexclusive
  · exact h

theorem step (h : machine.Ordered rank blocks raised)
    {action : MachineAction Lock Routine}
    (haction : ∀ program ∈ action.program, Climbs rank blocks [] program) :
    (machine.step raised action).Ordered rank blocks raised := by
  cases action with
  | arrive level program =>
      simp only [Machine.step]
      split
      · refine ⟨h.processors, ?_, ?_⟩
        · intro frame hframe
          rcases List.mem_cons.mp hframe with rfl | hold
          · exact ⟨haction program rfl, rfl⟩
          · exact h.ready frame hold
        · have hexclusive := h.exclusive
          simp only [held, frames, List.flatMap_append, List.flatMap_cons]
            at hexclusive ⊢
          exact hexclusive
      · exact h
  | dispatch processor slot =>
      simp only [Machine.step]
      split
      · rename_i frame hstack hready
        have hrests := h.ready frame (List.mem_of_getElem? hready)
        refine ⟨?_, ?_, ?_⟩
        · refine forall_mem_set h.processors ⟨hrests.ordered, ?_⟩
          exact fun other hother => absurd hother List.not_mem_nil
        · exact fun other hother =>
            h.ready other (List.mem_of_mem_eraseIdx hother)
        · exact (held_perm (frames_dispatch hstack hready)).nodup_iff.mpr
            h.exclusive
      · exact h
  | preempt processor =>
      simp only [Machine.step]
      split
      · rename_i frame hstack
        split
        · rename_i hlevel
          have hrests := (h.stackOrdered hstack).1.rests hlevel
          refine ⟨forall_mem_set h.processors trivial, ?_, ?_⟩
          · intro other hother
            rcases List.mem_cons.mp hother with rfl | hold
            · exact hrests
            · exact h.ready other hold
          · exact (held_perm (frames_preempt hstack)).nodup_iff.mpr
              h.exclusive
        · exact h
      · exact h
  | interrupt processor program =>
      simp only [Machine.step]
      split
      · rename_i stack hstack
        split
        · rename_i hlevels
          have hexclusive := h.exclusive_of_stack hstack
          refine h.setStack hstack ⟨⟨haction program rfl, trivial⟩, ?_⟩
            hexclusive
          intro frame hframe
          have hordered := h.stackOrdered hstack
          cases stack with
          | nil => exact absurd hframe List.not_mem_nil
          | cons top below =>
              rcases List.mem_cons.mp hframe with rfl | hbelow
              · exact hordered.1.rests (hlevels _ hframe)
              · exact hordered.2 frame hbelow
        · exact h
      · exact h
  | advance processor => exact h.advance processor

end Step

/-- Who holds a lock runs. -/
theorem exists_processor (h : machine.Ordered rank blocks raised)
    {lock : Lock} (hlock : lock ∈ machine.held) :
    ∃ (processor : Nat) (frame : Frame Lock Routine)
        (below : List (Frame Lock Routine)),
      machine.processors[processor]? = some (frame :: below) ∧
        lock ∈ frame.held := by
  obtain ⟨frame, hframe, hholds⟩ := List.mem_flatMap.mp hlock
  rcases List.mem_append.mp hframe with hrunning | hready
  · obtain ⟨stack, hstack, hmem⟩ := List.mem_flatten.mp hrunning
    obtain ⟨processor, hprocessor⟩ := List.mem_iff_getElem?.mp hstack
    have hordered := h.processors stack hstack
    cases stack with
    | nil => exact absurd hmem List.not_mem_nil
    | cons top below =>
        rcases List.mem_cons.mp hmem with rfl | hbelow
        · exact ⟨processor, frame, below, hprocessor, hholds⟩
        · rw [(hordered.2 frame hbelow).held_eq] at hholds
          exact absurd hholds List.not_mem_nil
  · rw [(h.ready frame hready).held_eq] at hholds
    exact absurd hholds List.not_mem_nil

/-- The holder of the lock of highest rank waits for nothing. -/
theorem exists_unhindered (h : machine.Ordered rank blocks raised)
    (hheld : machine.held ≠ []) :
    ∃ (processor : Nat) (frame : Frame Lock Routine)
        (below : List (Frame Lock Routine)),
      machine.processors[processor]? = some (frame :: below) ∧
        frame.held ≠ [] ∧ frame.Unhindered blocks machine.held := by
  classical
  obtain ⟨lock, hlock, hhighest⟩ :=
    Finset.exists_max_image machine.held.toFinset rank
      (List.toFinset_nonempty_iff machine.held |>.mpr hheld)
  obtain ⟨processor, frame, below, hstack, hholds⟩ :=
    h.exists_processor (List.mem_toFinset.mp hlock)
  have hnonempty : frame.held ≠ [] := List.ne_nil_of_mem hholds
  refine ⟨processor, frame, below, hstack, hnonempty, ?_⟩
  have hclimbs := (h.stackOrdered hstack).1.climbs
  unfold Frame.Unhindered
  split
  · rename_i hrest
    rw [hrest] at hclimbs
    exact hnonempty hclimbs
  · rename_i wanted rest hrest
    rw [hrest] at hclimbs
    intro hwanted
    have hhigher := hclimbs.1 lock hholds
    have hlower := hhighest wanted (List.mem_toFinset.mpr hwanted)
    omega
  · trivial
  · rename_i routine rest hrest
    rw [hrest] at hclimbs
    exact hclimbs.1.resolve_left hnonempty

end Ordered

end Order

section Drain

variable {rank : Lock → Nat} {blocks : Routine → Bool} {raised : Nat}
variable {machine : Machine Lock Routine}

/-- What is left to do; a ready thread has to be given a processor too. -/
def work (machine : Machine Lock Routine) : Nat :=
  (machine.frames.map fun frame => 2 * (frame.rest.length + 1)).sum +
    machine.ready.length

theorem work_setStack {processor : Nat}
    {top : Frame Lock Routine} {below new : List (Frame Lock Routine)}
    (hstack : machine.processors[processor]? = some (top :: below))
    (hless : (new.map fun frame => frame.rest.length + 1).sum <
      ((top :: below).map fun frame => frame.rest.length + 1).sum) :
    (machine.setStack processor new).work < machine.work := by
  have hbefore := (frames_perm hstack).map
    fun frame : Frame Lock Routine => 2 * (frame.rest.length + 1)
  have hafter := (frames_setStack hstack new).map
    fun frame : Frame Lock Routine => 2 * (frame.rest.length + 1)
  have hdouble : ∀ stack : List (Frame Lock Routine),
      (stack.map fun frame => 2 * (frame.rest.length + 1)).sum =
        2 * (stack.map fun frame => frame.rest.length + 1).sum :=
    fun stack => List.sum_map_mul_left stack
      (fun frame => frame.rest.length + 1) 2
  unfold work
  rw [hbefore.sum_eq, hafter.sum_eq]
  simp only [List.map_append, List.sum_append, hdouble]
  change _ + machine.ready.length < _
  omega

variable [DecidableEq Lock]

/-- A processor whose first frame waits for no lock goes on. -/
theorem work_advance {processor : Nat} {top : Frame Lock Routine}
    {below : List (Frame Lock Routine)}
    (hstack : machine.processors[processor]? = some (top :: below))
    (hfree : ∀ lock rest, top.rest = .acquire lock :: rest →
      lock ∉ machine.held) :
    (machine.advance raised processor).work < machine.work := by
  obtain ⟨cpu, ops⟩ := top
  cases ops with
  | nil =>
      simp only [advance, hstack]
      exact work_setStack hstack (by simp)
  | cons op rest =>
      cases op with
      | acquire lock =>
          simp only [advance, hstack, if_neg (hfree lock rest rfl)]
          exact work_setStack hstack (by simp)
      | release lock =>
          simp only [advance, hstack]
          exact work_setStack hstack (by simp)
      | call routine =>
          simp only [advance, hstack]
          exact work_setStack hstack (by simp)

theorem work_dispatch {processor slot : Nat} {frame : Frame Lock Routine}
    (hstack : machine.processors[processor]? = some [])
    (hready : machine.ready[slot]? = some frame) :
    (machine.step raised (.dispatch processor slot)).work < machine.work := by
  have hframes := (frames_dispatch hstack hready).map
    fun frame : Frame Lock Routine => 2 * (frame.rest.length + 1)
  obtain ⟨hslot, _⟩ := List.getElem?_eq_some_iff.mp hready
  simp only [step, hstack, hready]
  unfold work
  rw [hframes.sum_eq]
  simp only [List.length_eraseIdx_of_lt hslot]
  omega

/-- Unless everything has ended something can be done. -/
theorem Ordered.exists_less_work
    (h : machine.Ordered rank blocks raised)
    (hprocessors : machine.processors ≠ []) (hframes : machine.frames ≠ []) :
    ∃ action : MachineAction Lock Routine, action.GoesOn ∧
      (machine.step raised action).work < machine.work := by
  by_cases hheld : machine.held = []
  · by_cases hrunning : machine.processors.flatten = []
    · have hready : machine.ready ≠ [] := by
        intro hnone
        apply hframes
        rw [frames, hrunning, hnone]
        rfl
      refine ⟨.dispatch 0 0, trivial, ?_⟩
      obtain ⟨first, others, hfirst⟩ := List.exists_cons_of_ne_nil hprocessors
      obtain ⟨frame, threads, hframe⟩ := List.exists_cons_of_ne_nil hready
      have hempty : first = [] :=
        List.flatten_eq_nil_iff.mp hrunning first
          (hfirst ▸ List.mem_cons_self)
      have hidle : machine.processors[0]? = some [] := by
        rw [hfirst, hempty]
        rfl
      have hslot : machine.ready[0]? = some frame := by
        rw [hframe]
        rfl
      exact work_dispatch hidle hslot
    · obtain ⟨frame, hframe⟩ := List.exists_mem_of_ne_nil _ hrunning
      obtain ⟨stack, hstack, hmem⟩ := List.mem_flatten.mp hframe
      obtain ⟨processor, hprocessor⟩ := List.mem_iff_getElem?.mp hstack
      obtain ⟨top, below, rfl⟩ :=
        List.exists_cons_of_ne_nil (List.ne_nil_of_mem hmem)
      refine ⟨.advance processor, trivial, work_advance hprocessor ?_⟩
      intro lock rest _ hlock
      rw [hheld] at hlock
      exact List.not_mem_nil hlock
  · obtain ⟨processor, frame, below, hstack, hholds, hunhindered⟩ :=
      h.exists_unhindered hheld
    refine ⟨.advance processor, trivial, work_advance hstack ?_⟩
    intro lock rest hrest
    unfold Frame.Unhindered at hunhindered
    rwa [hrest] at hunhindered

theorem processors_length (machine : Machine Lock Routine)
    (action : MachineAction Lock Routine) :
    (machine.step raised action).processors.length =
      machine.processors.length := by
  cases action with
  | arrive level program => simp only [step]; split <;> rfl
  | dispatch processor slot =>
      simp only [step]
      split
      · exact List.length_set
      · rfl
  | preempt processor =>
      simp only [step]
      split
      · split
        · exact List.length_set
        · rfl
      · rfl
  | interrupt processor program =>
      simp only [step]
      split
      · split
        · exact List.length_set
        · rfl
      · rfl
  | advance processor =>
      simp only [step, advance]
      split
      · exact List.length_set
      · split
        · rfl
        · exact List.length_set
      · exact List.length_set
      · exact List.length_set
      · rfl

/-- Without anything new everything can be brought to its end. -/
theorem Ordered.exists_drained (h : machine.Ordered rank blocks raised)
    (hprocessors : machine.processors ≠ []) :
    ∃ actions : List (MachineAction Lock Routine),
      (∀ action ∈ actions, action.GoesOn) ∧
        (runFrom (Machine.step raised) machine actions).frames = [] := by
  have hstep : ∀ machine : Machine Lock Routine,
      machine.Ordered rank blocks raised ∧ machine.processors ≠ [] →
      ¬machine.frames = [] →
      ∃ action : MachineAction Lock Routine, action.GoesOn ∧
        ((machine.step raised action).Ordered rank blocks raised ∧
          (machine.step raised action).processors ≠ []) ∧
        (machine.step raised action).work < machine.work := by
    intro machine ⟨h, hprocessors⟩ hframes
    obtain ⟨action, hgoes, hless⟩ := h.exists_less_work hprocessors hframes
    refine ⟨action, hgoes, ⟨?_, ?_⟩, hless⟩
    · refine h.step fun program hprogram => ?_
      cases action with
      | dispatch processor slot => cases hprogram
      | advance processor => cases hprogram
      | arrive level program => exact hgoes.elim
      | preempt processor => exact hgoes.elim
      | interrupt processor program => exact hgoes.elim
    · rw [← List.length_pos_iff, processors_length]
      exact List.length_pos_iff.mpr hprocessors
  obtain ⟨actions, hactions, _, hdrained⟩ :=
    exists_run_to_end work hstep ⟨h, hprocessors⟩
  exact ⟨actions, hactions, hdrained⟩

end Drain

end Machine

end VgpuDriver.Data
