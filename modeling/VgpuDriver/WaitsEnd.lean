import VgpuDriver.Interrupts

namespace VgpuDriver

open Data

/-! Waits come to an end: once the host has returned everything and the
interrupts are served, no resource is busy, and from every state the host and
the interrupts alone lead there. -/

namespace InterruptWorld

/-- What the run is promised, see `World.Promised`. -/
def Promised (world : InterruptWorld) (action : InterruptAction) : Prop :=
  ∀ inner ∈ world.worldActions action, world.world.Promised inner

instance (world : InterruptWorld) (action : InterruptAction) :
    Decidable (world.Promised action) :=
  inferInstanceAs (Decidable (∀ inner ∈ _, _))

/-- The host and the interrupt routines go on; no process does anything. -/
def IsService : InterruptAction → Prop
  | .request _ _ => False
  | .processExit _ => False
  | .host _ _ _ => True
  | .isr _ => True
  | .dpc _ => True
  | .read _ mapAddress => mapAddress ≠ none

/-- Everything that was pushed has come back and has been completed. -/
def Settled (world : InterruptWorld) : Prop :=
  world.Idle ∧ ∀ queue, world.world.driver.inFlight queue = []

end InterruptWorld

/-- Steps that the buffers of one queue still take: being returned, with the
interrupt and the pass for it, and being completed. -/
def Virtqueue.load (queue : Virtqueue) : Nat :=
  6 * queue.avail.length + queue.used.length

namespace InterruptWorld

def load (world : InterruptWorld) : Nat :=
  (world.world.driver.virtQueues .command).load +
    (world.world.driver.virtQueues .control).load + world.bells.work 2

end InterruptWorld

theorem InterruptSetup.dpcQueues_length (setup : InterruptSetup)
    (interrupt : Nat) : (setup.dpcQueues interrupt).length ≤ 2 := by
  have hall : ∀ number : Nat,
      ((List.range number).filterMap Queue.ofIndex).length ≤ 2 := by
    intro number
    have hnodup : ((List.range number).filterMap Queue.ofIndex).Nodup := by
      refine List.Nodup.filterMap ?_ List.nodup_range
      intro first second queue hfirst hsecond
      rw [Queue.ofIndex_eq_some.mp hfirst, Queue.ofIndex_eq_some.mp hsecond]
    exact hnodup.length_le_card
  unfold dpcQueues
  dsimp only
  split
  · cases Queue.ofIndex (setup.info interrupt).messageNumber with
    | none => exact Nat.zero_le 2
    | some queue => exact Nat.le_succ 1
  · exact hall setup.numVirtQueues

theorem host_load (addBuf : Nat → Bool) {world : World} {queue : Queue}
    (info : MapInfo)
    (havail : (world.driver.virtQueues queue).avail ≠ []) :
    ((World.step addBuf world (.host queue 0 info)).driver.virtQueues
        queue).load + 5 = (world.driver.virtQueues queue).load ∧
      ∀ other, other ≠ queue →
        (World.step addBuf world (.host queue 0 info)).driver.virtQueues
          other = world.driver.virtQueues other := by
  obtain ⟨buffer, rest, hsplit⟩ := List.exists_cons_of_ne_nil havail
  have hslot : (world.driver.virtQueues queue).avail[0]? = some buffer := by
    rw [hsplit]
    rfl
  simp only [World.step, hslot]
  constructor
  · simp only [Driver.returnBuffer, if_true, Virtqueue.load, hsplit,
      List.eraseIdx_cons_zero, List.length_append, List.length_cons,
      List.length_nil]
    omega
  · intro other hother
    simp [Driver.returnBuffer, hother]

theorem read_load {driver : Driver} {queue : Queue}
    (mapAddress : Option Nat)
    (hused : (driver.virtQueues queue).used ≠ []) :
    ((readOneFromQueue queue mapAddress driver).virtQueues queue).load + 1 =
        (driver.virtQueues queue).load ∧
      ∀ other, other ≠ queue →
        (readOneFromQueue queue mapAddress driver).virtQueues other =
          driver.virtQueues other := by
  obtain ⟨⟨buffer, info⟩, rest, hsplit⟩ := List.exists_cons_of_ne_nil hused
  simp only [readOneFromQueue, hsplit]
  rw [(completeBuffer_frame buffer info mapAddress _).2.2.2.1]
  constructor
  · simp only [takeUsed, if_true, Virtqueue.load, hsplit, List.length_cons]
    omega
  · intro other hother
    simp [takeUsed, hother]

/-- A change of one queue counts in the sum over both. -/
private theorem load_lt {before after : Queue → Virtqueue} {queue : Queue}
    {spare : Nat} (hqueue : (after queue).load + spare = (before queue).load)
    (hothers : ∀ other, other ≠ queue → after other = before other) :
    (after .command).load + (after .control).load + spare =
      (before .command).load + (before .control).load := by
  cases queue with
  | command =>
      rw [hothers .control (by decide)]
      omega
  | control =>
      rw [hothers .command (by decide)]
      omega

/-- No resource is busy and no request would have to wait. -/
def Driver.NothingWaits (addBuf : Nat → Bool) (driver : Driver) : Prop :=
  (∀ entry ∈ driver.live, entry.2.stateEvent = true) ∧
    ∀ processId request owner,
      (virtioVgpuIoControl addBuf processId driver request).1 ≠
        .waiting owner

theorem WakeupInvariant.nothingWaits {driver : Driver}
    (h : WakeupInvariant driver) (addBuf : Nat → Bool)
    (hreturned : ∀ queue, driver.inFlight queue = []) :
    driver.NothingWaits addBuf := by
  have hidle : ∀ entry ∈ driver.live, entry.2.stateEvent = true := by
    intro entry hentry
    by_contra hbusy
    obtain ⟨buffer, hbuffer, _⟩ :=
      h.awaited entry hentry (Bool.not_eq_true _ ▸ hbusy)
    rw [hreturned] at hbuffer
    exact List.not_mem_nil hbuffer
  refine ⟨hidle, ?_⟩
  intro processId request owner hwaiting
  obtain ⟨entry, hentry, _, hbusy⟩ :=
    driver_waitersBusy addBuf driver processId request owner hwaiting
  rw [hidle entry hentry] at hbusy
  cases hbusy

namespace InterruptWorld

variable {addBuf : Nat → Bool} {setup : InterruptSetup}
variable {world : InterruptWorld}

theorem service_promised {action : InterruptAction} (h : IsService action) :
    world.Promised action := by
  cases action with
  | request processId request => exact h.elim
  | processExit processId => exact h.elim
  | host queue slot info =>
      intro inner hinner
      rw [List.mem_singleton.mp hinner]
      trivial
  | isr interrupt => exact fun inner hinner => absurd hinner List.not_mem_nil
  | dpc interrupt => exact fun inner hinner => absurd hinner List.not_mem_nil
  | read slot mapAddress =>
      intro inner hinner
      simp only [worldActions] at hinner
      split at hinner
      · split at hinner
        · exact absurd hinner List.not_mem_nil
        · rw [List.mem_singleton.mp hinner]
          exact h
      · exact absurd hinner List.not_mem_nil

theorem step_wakeupInvariant (h : WakeupInvariant world.world.driver)
    (hpush : ∀ serial, addBuf serial = true) {action : InterruptAction}
    (hpromised : world.Promised action) :
    WakeupInvariant (world.step addBuf setup action).world.driver := by
  have hsingle : world.worldActions action = [] ∨
      ∃ inner, world.worldActions action = [inner] := by
    cases action with
    | request processId request => exact Or.inr ⟨_, rfl⟩
    | processExit processId => exact Or.inr ⟨_, rfl⟩
    | host queue slot info => exact Or.inr ⟨_, rfl⟩
    | isr interrupt => exact Or.inl rfl
    | dpc interrupt => exact Or.inl rfl
    | read slot mapAddress =>
        simp only [worldActions]
        split
        · split
          · exact Or.inl rfl
          · exact Or.inr ⟨_, rfl⟩
        · exact Or.inl rfl
  unfold InterruptWorld.step
  rcases hsingle with hnone | ⟨inner, hinner⟩
  · rw [hnone]
    exact h
  · rw [hinner]
    exact h.step hpush (hpromised inner (hinner ▸ List.mem_singleton_self _))

/-- Until everything is settled there is a service step to take. -/
theorem Covered.exists_service (addBuf : Nat → Bool) (h : world.Covered setup)
    (hunsettled : ¬world.Settled) :
    ∃ action, IsService action ∧
      (world.step addBuf setup action).load < world.load := by
  by_cases havail : ∀ queue, (world.world.driver.virtQueues queue).avail = []
  · by_cases hidle : world.Idle
    · refine absurd ⟨hidle, fun queue => ?_⟩ hunsettled
      unfold Driver.inFlight Virtqueue.inFlight
      rw [h.idle hidle, havail]
      rfl
    · rcases Doorbells.exists_of_not_idle hidle with
        ⟨line, hline⟩ | ⟨line, hline⟩ | ⟨slot, queue, rest, hslot⟩
      · refine ⟨.isr line, trivial, ?_⟩
        have hwork : (world.bells.acknowledge line).work 2 <
            world.bells.work 2 := Doorbells.work_acknowledge hline
        simp only [load, InterruptWorld.step, worldActions, runFrom_nil,
          stepBells, if_pos (Or.inr hline)]
        omega
      · refine ⟨.dpc line, trivial, ?_⟩
        have hwork := Doorbells.work_start hline
          (setup.dpcQueues_length line)
        simp only [load, InterruptWorld.step, worldActions, runFrom_nil,
          stepBells]
        omega
      · refine ⟨.read slot (some 0), Option.some_ne_none 0, ?_⟩
        simp only [load, InterruptWorld.step, worldActions, stepBells, hslot]
        by_cases hused : (world.world.driver.virtQueues queue).used = []
        · have hwork : (world.bells.leave slot).work 2 <
              world.bells.work 2 := Doorbells.work_leave hslot
          simp only [if_pos hused, runFrom_nil]
          omega
        · obtain ⟨hqueue, hothers⟩ := read_load (some 0) hused
          have hload := load_lt hqueue hothers
          simp only [if_neg hused, runFrom_cons, runFrom_nil, World.step]
          omega
  · push Not at havail
    obtain ⟨queue, hqueue⟩ := havail
    refine ⟨.host queue 0 { gpa := 0, size := 0 }, trivial, ?_⟩
    obtain ⟨hreturned, hothers⟩ :=
      host_load addBuf { gpa := 0, size := 0 } hqueue
    have hload := load_lt hreturned hothers
    have hbells : (world.stepBells setup
        (.host queue 0 { gpa := 0, size := 0 })).work 2 ≤
        world.bells.work 2 + 4 := by
      rw [stepBells_host _ _ _ _ (List.length_pos_iff.mpr hqueue)]
      split
      · exact Nat.le_add_right _ 4
      · exact Doorbells.work_ring
    simp only [load, InterruptWorld.step, worldActions, runFrom_cons,
      runFrom_nil]
    omega

/-- The host and the interrupts alone lead to a settled state, and to one with
whatever their steps keep. -/
theorem Covered.exists_settled (addBuf : Nat → Bool)
    {invariant : InterruptWorld → Prop} (hserves : setup.Serves)
    (hkept : ∀ world action, invariant world → IsService action →
      invariant (world.step addBuf setup action))
    (h : world.Covered setup) (hstart : invariant world) :
    ∃ service : List InterruptAction,
      (∀ action ∈ service, IsService action) ∧
        invariant (runFrom (InterruptWorld.step addBuf setup) world
          service) ∧
        (runFrom (InterruptWorld.step addBuf setup) world
          service).Settled := by
  have hservice : ∀ world : InterruptWorld,
      world.Covered setup ∧ invariant world → ¬world.Settled →
      ∃ action, IsService action ∧
        ((world.step addBuf setup action).Covered setup ∧
          invariant (world.step addBuf setup action)) ∧
        (world.step addBuf setup action).load < world.load := by
    intro world h hunsettled
    obtain ⟨action, haction, hless⟩ := h.1.exists_service addBuf hunsettled
    exact ⟨action, haction,
      ⟨h.1.step hserves action, hkept world action h.2 haction⟩, hless⟩
  obtain ⟨service, hactions, hend, hsettled⟩ :=
    exists_run_to_end load hservice ⟨h, hstart⟩
  exact ⟨service, hactions, hend.2, hsettled⟩

end InterruptWorld

/-- With the interrupts served and nothing refused, a settled state has no
waits, and from every state that a run reaches the host and the interrupts
alone lead to a settled state. -/
theorem waits_end (addBuf : Nat → Bool) (setup : InterruptSetup)
    (virtualAddress physicalAddress memorySize : Nat) (capsets : Capsets)
    (actions : List InterruptAction) (hserves : setup.Serves)
    (hpush : ∀ serial, addBuf serial = true)
    (hpromised : Along (InterruptWorld.step addBuf setup)
      InterruptWorld.Promised
      (InterruptWorld.start (World.start virtualAddress physicalAddress
        memorySize capsets)) actions) :
    ((InterruptWorld.reach addBuf setup virtualAddress physicalAddress
          memorySize capsets actions).Settled →
        (InterruptWorld.reach addBuf setup virtualAddress physicalAddress
          memorySize capsets actions).world.driver.NothingWaits addBuf) ∧
      ∃ service : List InterruptAction,
        (∀ action ∈ service, InterruptWorld.IsService action) ∧
          (InterruptWorld.reach addBuf setup virtualAddress physicalAddress
            memorySize capsets (actions ++ service)).Settled ∧
          (InterruptWorld.reach addBuf setup virtualAddress physicalAddress
            memorySize capsets
            (actions ++ service)).world.driver.NothingWaits addBuf := by
  have hstep : ∀ (world : InterruptWorld) (action : InterruptAction),
      WakeupInvariant world.world.driver → world.Promised action →
      WakeupInvariant (world.step addBuf setup action).world.driver :=
    fun world action h hguard =>
      InterruptWorld.step_wakeupInvariant h hpush hguard
  have hreached := Along.invariant hstep hpromised
    (start_wakeupInvariant virtualAddress physicalAddress memorySize capsets)
  refine ⟨fun hsettled => hreached.nothingWaits addBuf hsettled.2, ?_⟩
  obtain ⟨service, hactions, hend, hsettled⟩ :=
    (InterruptWorld.reach_covered addBuf hserves virtualAddress
      physicalAddress memorySize capsets actions).exists_settled addBuf hserves
      (fun world action h haction => hstep world action h
        (InterruptWorld.service_promised haction)) hreached
  refine ⟨service, hactions, ?_⟩
  unfold InterruptWorld.reach at hend hsettled ⊢
  rw [runFrom_append]
  exact ⟨hsettled, hend.nothingWaits addBuf hsettled.2⟩

/-- A transfer has made the resource busy, and the pass for what the host has
returned is under way. -/
def busyRun : List InterruptAction :=
  [.request 7 .initContext, .request 7 (.create 1),
   .request 7 (.transfer 1), .host .command 0 { gpa := 0, size := 0 },
   .isr 0, .dpc 0]

theorem waits_end_busyRun :
    ((InterruptWorld.reach (fun _ => true) (InterruptSetup.messages 2 id)
          0x10000 0x80000 0x8000 .oneCapset
          busyRun).Settled →
        (InterruptWorld.reach (fun _ => true) (InterruptSetup.messages 2 id)
          0x10000 0x80000 0x8000 .oneCapset
          busyRun).world.driver.NothingWaits fun _ => true) ∧
      ∃ service : List InterruptAction,
        (∀ action ∈ service, InterruptWorld.IsService action) ∧
          (InterruptWorld.reach (fun _ => true) (InterruptSetup.messages 2 id)
            0x10000 0x80000 0x8000 .oneCapset (busyRun ++ service)).Settled ∧
          (InterruptWorld.reach (fun _ => true) (InterruptSetup.messages 2 id)
            0x10000 0x80000 0x8000 .oneCapset
            (busyRun ++ service)).world.driver.NothingWaits fun _ => true :=
  waits_end (fun _ => true) (InterruptSetup.messages 2 id) 0x10000 0x80000
    0x8000 .oneCapset
    busyRun
    ((InterruptSetup.messages_serves_iff (Nat.le_refl 2)).mpr fun _ =>
      Or.inl rfl)
    (fun _ => rfl) (by decide +kernel)

end VgpuDriver
