import VgpuDriver.Data.Doorbells
import VgpuDriver.Pending
import VgpuDriver.WakeupRuns

namespace VgpuDriver

open Data

/-! The interrupt routines of `vgpu.c` around the system: the device raises an
interrupt when it returns a buffer, the ISR queues a DPC, and passes of the
DPC read the queues, on several processors at a time. -/

/-- `WDF_INTERRUPT_INFO` -/
structure InterruptInfo where
  messageSignaled : Bool
  messageNumber : Nat
  deriving DecidableEq, Repr

def Queue.index : Queue → Nat
  | .command => 0
  | .control => 1

/-- The queues beyond these two get no commands. -/
def Queue.ofIndex : Nat → Option Queue
  | 0 => some .command
  | 1 => some .control
  | _ => none

/-- `NumVirtQueues` and what `WdfInterruptGetInfo` tells of the elements of
`WdfInterrupt`.  `raises` is the framework and the virtio library: which of
these interrupts comes when a buffer of the queue is returned. -/
structure InterruptSetup where
  numVirtQueues : Nat
  info : Nat → InterruptInfo
  raises : Queue → Option Nat

namespace InterruptSetup

/-- The queues that `VirtioVgpuInterruptDpc` reads. -/
def dpcQueues (setup : InterruptSetup) (interrupt : Nat) : List Queue :=
  let info := setup.info interrupt
  if info.messageSignaled = true ∧
      info.messageNumber < setup.numVirtQueues then
    (Queue.ofIndex info.messageNumber).toList
  else (List.range setup.numVirtQueues).filterMap Queue.ofIndex

/-- Each queue is read by the DPC of the interrupt that is raised for it. -/
def Serves (setup : InterruptSetup) : Prop :=
  ∀ queue, ∃ interrupt, setup.raises queue = some interrupt ∧
    queue ∈ setup.dpcQueues interrupt

/-- One line for the whole device. -/
def line (numVirtQueues : Nat) : InterruptSetup where
  numVirtQueues := numVirtQueues
  info := fun _ => { messageSignaled := false, messageNumber := 0 }
  raises := fun _ => some 0

/-- `VirtioVgpuDeviceD0Entry` binds the queue with an index to the interrupt
with that index; `messageNumber` is what the framework gave each of them. -/
def messages (numVirtQueues : Nat) (messageNumber : Nat → Nat) :
    InterruptSetup where
  numVirtQueues := numVirtQueues
  info := fun interrupt =>
    { messageSignaled := true, messageNumber := messageNumber interrupt }
  raises := fun queue => some queue.index

end InterruptSetup

theorem Queue.ofIndex_eq_some {index : Nat} {queue : Queue} :
    Queue.ofIndex index = some queue ↔ index = queue.index := by
  constructor
  · intro hindex
    match index, hindex with
    | 0, rfl => rfl
    | 1, rfl => rfl
  · rintro rfl
    cases queue <;> rfl

theorem mem_allQueues {numVirtQueues : Nat} {queue : Queue} :
    queue ∈ (List.range numVirtQueues).filterMap Queue.ofIndex ↔
      queue.index < numVirtQueues := by
  simp only [List.mem_filterMap, List.mem_range, Queue.ofIndex_eq_some]
  exact ⟨fun ⟨_, hbound, hindex⟩ => hindex ▸ hbound,
    fun hbound => ⟨queue.index, hbound, rfl⟩⟩

namespace InterruptSetup

variable {numVirtQueues : Nat} {messageNumber : Nat → Nat}

theorem line_serves_iff : (line numVirtQueues).Serves ↔ 2 ≤ numVirtQueues := by
  have hmem : ∀ queue : Queue,
      queue ∈ (line numVirtQueues).dpcQueues 0 ↔
        queue.index < numVirtQueues := fun _ => mem_allQueues
  constructor
  · intro hserves
    obtain ⟨interrupt, hraises, hreads⟩ := hserves .control
    have hline : 0 = interrupt := Option.some.inj hraises
    subst hline
    exact (hmem .control).mp hreads
  · intro hnumber queue
    refine ⟨0, rfl, (hmem queue).mpr ?_⟩
    cases queue with
    | command => exact Nat.lt_of_lt_of_le (by decide) hnumber
    | control => exact hnumber

/-- The message of a queue has its own number, or one beyond all queues. -/
theorem messages_serves_iff (hnumber : 2 ≤ numVirtQueues) :
    (messages numVirtQueues messageNumber).Serves ↔
      ∀ queue : Queue, messageNumber queue.index = queue.index ∨
        numVirtQueues ≤ messageNumber queue.index := by
  have hmem : ∀ queue : Queue,
      queue ∈ (messages numVirtQueues messageNumber).dpcQueues queue.index ↔
        messageNumber queue.index = queue.index ∨
          numVirtQueues ≤ messageNumber queue.index := by
    intro queue
    have hall : queue.index < numVirtQueues := by
      cases queue with
      | command => exact Nat.lt_of_lt_of_le (by decide) hnumber
      | control => exact hnumber
    unfold dpcQueues messages
    simp only [true_and]
    split
    · rename_i hbound
      rw [Option.mem_toList, Queue.ofIndex_eq_some]
      exact ⟨Or.inl, fun h => h.resolve_right (Nat.not_le.mpr hbound)⟩
    · rename_i hbound
      rw [mem_allQueues]
      exact ⟨fun _ => Or.inr (Nat.not_lt.mp hbound), fun _ => hall⟩
  constructor
  · intro hserves queue
    obtain ⟨interrupt, hraises, hreads⟩ := hserves queue
    have hbound : queue.index = interrupt := Option.some.inj hraises
    subst hbound
    exact (hmem queue).mp hreads
  · intro hnumbers queue
    exact ⟨queue.index, rfl, (hmem queue).mpr (hnumbers queue)⟩

end InterruptSetup

structure InterruptWorld where
  world : World
  bells : Doorbells Nat Queue

/-- `isr` and `dpc` are the calls of the two routines for an interrupt,
`read` is one iteration of `VirtioVgpuReadFromQueue` in a pass under way. -/
inductive InterruptAction
  | request (processId : UInt32) (request : IoRequest)
  | processExit (processId : UInt32)
  | host (queue : Queue) (slot : Nat) (info : MapInfo)
  | isr (interrupt : Nat)
  | dpc (interrupt : Nat)
  | read (slot : Nat) (mapAddress : Option Nat)

namespace InterruptWorld

variable (addBuf : Nat → Bool) (setup : InterruptSetup)

/-- The step of the system that the action contains. -/
def worldActions (world : InterruptWorld) :
    InterruptAction → List Action
  | .request processId request => [.request processId request]
  | .processExit processId => [.processExit processId]
  | .host queue slot info => [.host queue slot info]
  | .isr _ => []
  | .dpc _ => []
  | .read slot mapAddress =>
      match world.bells.passes[slot]? with
      | some (queue :: _) =>
          if (world.world.driver.virtQueues queue).used = [] then []
          else [.dpc queue mapAddress]
      | _ => []

def stepBells (world : InterruptWorld) :
    InterruptAction → Doorbells Nat Queue
  | .request _ _ => world.bells
  | .processExit _ => world.bells
  | .host queue slot _ =>
      if slot < (world.world.driver.virtQueues queue).avail.length then
        match setup.raises queue with
        | none => world.bells
        | some interrupt => world.bells.ring interrupt
      else world.bells
  | .isr interrupt =>
      -- the status register is asked for a line only
      if (setup.info interrupt).messageSignaled = true ∨
          interrupt ∈ world.bells.rung then
        world.bells.acknowledge interrupt
      else world.bells
  | .dpc interrupt => world.bells.start setup.dpcQueues interrupt
  | .read slot _ =>
      match world.bells.passes[slot]? with
      | some (queue :: _) =>
          if (world.world.driver.virtQueues queue).used = [] then
            world.bells.leave slot
          else world.bells
      | _ => world.bells

def step (world : InterruptWorld) (action : InterruptAction) :
    InterruptWorld where
  world := runFrom (World.step addBuf) world.world
    (world.worldActions action)
  bells := world.stepBells setup action

def start (world : World) : InterruptWorld where
  world := world
  bells := .silent

/-- The state after a run since the start of the device. -/
def reach (virtualAddress physicalAddress memorySize : Nat)
    (capsets : Capsets) (actions : List InterruptAction) : InterruptWorld :=
  runFrom (step addBuf setup)
    (start (World.start virtualAddress physicalAddress memorySize capsets))
    actions

def Idle (world : InterruptWorld) : Prop := world.bells.Idle

/-- Every queue with a returned buffer is still going to be visited. -/
def Covered (world : InterruptWorld) : Prop :=
  ∀ queue, (world.world.driver.virtQueues queue).used ≠ [] →
    world.bells.Covers setup.dpcQueues queue

end InterruptWorld

/-! What the steps of the system do to the rings. -/

section Rings

variable {addBuf : Nat → Bool}

theorem request_used (processId : UInt32) (request : IoRequest)
    (driver : Driver) (queue : Queue) :
    ((virtioVgpuIoControl addBuf processId driver request).2.virtQueues
        queue).used = (driver.virtQueues queue).used := by
  obtain ⟨new, hsends⟩ :=
    virtioVgpuIoControl_sends addBuf processId driver request
  rw [hsends.queued.virtQueues queue]

theorem processExit_used (processId : UInt32) (driver : Driver)
    (queue : Queue) :
    ((processNotify addBuf processId driver).virtQueues queue).used =
      (driver.virtQueues queue).used := by
  obtain ⟨new, hsends⟩ := processNotify_sends addBuf processId driver
  rw [hsends.queued.virtQueues queue]

theorem readOneFromQueue_used_subset (queue other : Queue)
    (mapAddress : Option Nat) (driver : Driver)
    (hused : ((readOneFromQueue queue mapAddress driver).virtQueues
      other).used ≠ []) :
    (driver.virtQueues other).used ≠ [] := by
  rcases readOneFromQueue_cases queue mapAddress driver with
    hsame | ⟨buffer, info, rest, hhead, hread, _⟩
  · rwa [hsame] at hused
  · by_cases hother : other = queue
    · subst hother
      rw [hhead]
      exact List.cons_ne_nil _ _
    · rw [hread, (completeBuffer_frame buffer info mapAddress _).2.2.2.1]
        at hused
      simpa [takeUsed, hother] using hused

/-- The host changes only the ring of its queue. -/
theorem host_used (world : World) (queue other : Queue) (slot : Nat)
    (info : MapInfo)
    (hused : ((World.step addBuf world (.host queue slot info)).driver.virtQueues
      other).used ≠ []) :
    (other = queue ∧ slot < (world.driver.virtQueues queue).avail.length) ∨
      (world.driver.virtQueues other).used ≠ [] := by
  simp only [World.step] at hused
  split at hused
  · exact Or.inr hused
  · rename_i buffer hslot
    obtain ⟨hlength, _⟩ := List.getElem?_eq_some_iff.mp hslot
    by_cases hother : other = queue
    · exact Or.inl ⟨hother, hlength⟩
    · exact Or.inr (by simpa [Driver.returnBuffer, hother] using hused)

end Rings

namespace InterruptWorld

variable {addBuf : Nat → Bool} {setup : InterruptSetup}
variable {world : InterruptWorld}

theorem stepBells_host (world : InterruptWorld) (setup : InterruptSetup)
    {queue : Queue} (slot : Nat) (info : MapInfo)
    (hslot : slot < (world.world.driver.virtQueues queue).avail.length) :
    world.stepBells setup (.host queue slot info) =
      match setup.raises queue with
      | none => world.bells
      | some interrupt => world.bells.ring interrupt :=
  if_pos hslot

theorem Covered.step (h : world.Covered setup) (hserves : setup.Serves)
    (action : InterruptAction) :
    (world.step addBuf setup action).Covered setup := by
  intro queue hused
  cases action with
  | request processId request =>
      refine h queue ?_
      simp only [InterruptWorld.step, worldActions, runFrom_cons, runFrom_nil,
        World.step] at hused
      rwa [request_used] at hused
  | processExit processId =>
      refine h queue ?_
      simp only [InterruptWorld.step, worldActions, runFrom_cons, runFrom_nil,
        World.step] at hused
      rwa [processExit_used] at hused
  | host served slot info =>
      obtain ⟨interrupt, hraises, hreads⟩ := hserves served
      simp only [InterruptWorld.step, worldActions, runFrom_cons, runFrom_nil]
        at hused
      simp only [InterruptWorld.step, stepBells, hraises]
      rcases host_used world.world served queue slot info hused with
        ⟨rfl, hslot⟩ | hbefore
      · rw [if_pos hslot]
        exact Doorbells.covers_ring hreads
      · split
        · exact (h queue hbefore).ring interrupt
        · exact h queue hbefore
  | isr interrupt =>
      simp only [InterruptWorld.step, stepBells]
      split
      · exact (h queue hused).acknowledge interrupt
      · exact h queue hused
  | dpc interrupt => exact (h queue hused).start interrupt
  | read slot mapAddress =>
      simp only [InterruptWorld.step, worldActions, stepBells] at hused ⊢
      split at hused
      · rename_i first rest hslot
        split at hused
        · rename_i hempty
          rw [if_pos hempty]
          refine (h queue hused).leave hslot ?_
          intro hsame
          exact hused (hsame ▸ hempty)
        · rename_i hreturned
          rw [if_neg hreturned]
          exact h queue
            (readOneFromQueue_used_subset first queue mapAddress _ hused)
      · exact h queue hused

theorem Covered.idle (h : world.Covered setup) (hidle : world.Idle)
    (queue : Queue) : (world.world.driver.virtQueues queue).used = [] := by
  by_contra hused
  exact hidle.not_covers (h queue hused)

theorem start_covered {start : World}
    (hused : ∀ queue, (start.driver.virtQueues queue).used = []) :
    (InterruptWorld.start start).Covered setup :=
  fun queue hne => absurd (hused queue) hne

theorem reach_covered (addBuf : Nat → Bool) (hserves : setup.Serves)
    (virtualAddress physicalAddress memorySize : Nat) (capsets : Capsets)
    (actions : List InterruptAction) :
    (reach addBuf setup virtualAddress physicalAddress memorySize capsets
      actions).Covered setup := by
  have hstep : ∀ (world : InterruptWorld) (action : InterruptAction),
      world.Covered setup → True →
      (world.step addBuf setup action).Covered setup :=
    fun world action h _ => h.step hserves action
  refine Along.invariant hstep (along_of_mem fun _ _ => trivial) ?_
  exact start_covered fun _ => rfl

/-- The run of the system inside a run with interrupts. -/
def systemRun (addBuf : Nat → Bool) (setup : InterruptSetup) :
    InterruptWorld → List InterruptAction → List Action
  | _, [] => []
  | world, action :: actions =>
      world.worldActions action ++
        systemRun addBuf setup (world.step addBuf setup action) actions

theorem runFrom_world (world : InterruptWorld)
    (actions : List InterruptAction) :
    (runFrom (InterruptWorld.step addBuf setup) world actions).world =
      runFrom (World.step addBuf) world.world
        (systemRun addBuf setup world actions) := by
  induction actions generalizing world with
  | nil => rfl
  | cons action rest ih =>
      simp only [runFrom_cons, systemRun, runFrom_append]
      exact ih (world.step addBuf setup action)

end InterruptWorld

/-! A buffer whose queue is not served is never read. -/

/-- A command is pushed to the queue and returned. -/
def lostRequests : Queue → List InterruptAction
  | .command =>
      [.request 7 .initContext, .request 7 (.create 1),
        .host .command 0 { gpa := 0, size := 0 }]
  | .control =>
      [.request 7 .initContext, .host .control 0 { gpa := 0, size := 0 }]

/-- What the interrupt for the queue, if one comes, leads to. -/
def lostInterrupts (setup : InterruptSetup) (queue : Queue) :
    List InterruptAction :=
  match setup.raises queue with
  | none => []
  | some interrupt =>
      [.isr interrupt, .dpc interrupt] ++
        List.replicate (setup.dpcQueues interrupt).length (.read 0 none)

def lostStart : World :=
  World.start 0x10000 0x80000 0x10000 .oneCapset

/-- The system of the run: only the ring of `queue` has a buffer. -/
theorem lostRequests_used (setup : InterruptSetup) (queue other : Queue) :
    ((runFrom (InterruptWorld.step (fun _ => true) setup)
        (InterruptWorld.start lostStart)
        (lostRequests queue)).world.driver.virtQueues other).used ≠ [] ↔
      other = queue := by
  have hcommand : ∀ other,
      ((runFrom (World.step fun _ => true) lostStart
        [.request 7 .initContext, .request 7 (.create 1),
          .host .command 0 { gpa := 0, size := 0 }]).driver.virtQueues
        other).used ≠ [] ↔ other = .command := by
    decide +kernel
  have hcontrol : ∀ other,
      ((runFrom (World.step fun _ => true) lostStart
        [.request 7 .initContext,
          .host .control 0 { gpa := 0, size := 0 }]).driver.virtQueues
        other).used ≠ [] ↔ other = .control := by
    decide +kernel
  cases queue with
  | command => exact hcommand other
  | control => exact hcontrol other

theorem lostRequests_bells (setup : InterruptSetup) (queue : Queue) :
    (runFrom (InterruptWorld.step (fun _ => true) setup)
        (InterruptWorld.start lostStart) (lostRequests queue)).bells =
      match setup.raises queue with
      | none => .silent
      | some interrupt => Doorbells.silent.ring interrupt := by
  cases queue with
  | command =>
      have havail : 0 < ((runFrom (World.step fun _ => true) lostStart
          [.request 7 .initContext, .request 7 (.create 1)]).driver.virtQueues
          .command).avail.length := by
        decide +kernel
      exact InterruptWorld.stepBells_host
        (runFrom (InterruptWorld.step (fun _ => true) setup)
          (InterruptWorld.start lostStart)
          [.request 7 .initContext, .request 7 (.create 1)])
        setup 0 { gpa := 0, size := 0 } havail
  | control =>
      have havail : 0 < ((runFrom (World.step fun _ => true) lostStart
          [.request 7 .initContext]).driver.virtQueues
          .control).avail.length := by
        decide +kernel
      exact InterruptWorld.stepBells_host
        (runFrom (InterruptWorld.step (fun _ => true) setup)
          (InterruptWorld.start lostStart) [.request 7 .initContext])
        setup 0 { gpa := 0, size := 0 } havail

/-- A pass over empty queues ends without a change. -/
theorem InterruptWorld.run_pass (addBuf : Nat → Bool)
    (setup : InterruptSetup) (world : World) (pass : List Queue)
    (hempty : ∀ queue ∈ pass, (world.driver.virtQueues queue).used = []) :
    runFrom (InterruptWorld.step addBuf setup)
        { world := world
          bells := { rung := ∅, scheduled := ∅, passes := [pass] } }
        (List.replicate pass.length (.read 0 none)) =
      { world := world
        bells := { rung := ∅, scheduled := ∅, passes := [[]] } } := by
  induction pass with
  | nil => rfl
  | cons queue rest ih =>
      have hused := hempty queue List.mem_cons_self
      rw [List.length_cons, List.replicate_succ, runFrom_cons]
      refine Eq.trans ?_
        (ih fun other hother => hempty other (List.mem_cons_of_mem _ hother))
      apply congrArg (fun world => runFrom _ world _)
      simp [InterruptWorld.step, worldActions, stepBells, Doorbells.leave,
        hused]

theorem lostInterrupts_idle (setup : InterruptSetup) (queue : Queue)
    (hlost : ∀ interrupt, setup.raises queue = some interrupt →
      queue ∉ setup.dpcQueues interrupt) :
    ∃ world : InterruptWorld,
      world = runFrom (InterruptWorld.step (fun _ => true) setup)
        (InterruptWorld.start lostStart)
        (lostRequests queue ++ lostInterrupts setup queue) ∧
      world.Idle ∧ (world.world.driver.virtQueues queue).used ≠ [] := by
  have hused := lostRequests_used setup queue
  have hbells := lostRequests_bells setup queue
  refine ⟨_, rfl, ?_⟩
  rw [runFrom_append]
  generalize runFrom (InterruptWorld.step (fun _ => true) setup)
    (InterruptWorld.start lostStart) (lostRequests queue) = reached
    at hused hbells
  obtain ⟨world, bells⟩ := reached
  unfold lostInterrupts
  cases hraises : setup.raises queue with
  | none =>
      rw [hraises] at hbells
      dsimp only at hbells
      subst hbells
      exact ⟨Doorbells.silent_idle, (hused queue).mpr rfl⟩
  | some interrupt =>
      rw [hraises] at hbells
      dsimp only at hbells
      subst hbells
      have hpass := InterruptWorld.run_pass (fun _ => true) setup world
        (setup.dpcQueues interrupt) (by
          intro other hother
          by_contra hreturned
          exact hlost interrupt hraises ((hused other).mp hreturned ▸ hother))
      have hstarted : runFrom (InterruptWorld.step (fun _ => true) setup)
          { world := world, bells := Doorbells.silent.ring interrupt }
          [.isr interrupt, .dpc interrupt] =
          { world := world
            bells :=
              { rung := ∅, scheduled := ∅
                passes := [setup.dpcQueues interrupt] } } := by
        simp [InterruptWorld.step, InterruptWorld.worldActions,
          InterruptWorld.stepBells, Doorbells.ring, Doorbells.silent,
          Doorbells.acknowledge, Doorbells.start]
      rw [runFrom_append, hstarted, hpass]
      refine ⟨⟨rfl, rfl, ?_⟩, (hused queue).mpr rfl⟩
      intro pass hpass
      exact List.mem_singleton.mp hpass

/-- No returned buffer is left unread when all interrupts are served: exactly
if the DPC of the interrupt that is raised for a queue reads that queue. -/
theorem returned_buffers_read_iff (setup : InterruptSetup) :
    setup.Serves ↔
      ∀ (addBuf : Nat → Bool) (virtualAddress physicalAddress memorySize : Nat)
        (capsets : Capsets) (actions : List InterruptAction),
        (InterruptWorld.reach addBuf setup virtualAddress physicalAddress
            memorySize capsets actions).Idle →
          ∀ queue, ((InterruptWorld.reach addBuf setup virtualAddress
            physicalAddress memorySize capsets actions).world.driver.virtQueues
              queue).used = [] := by
  constructor
  · intro hserves addBuf virtualAddress physicalAddress memorySize capsets
      actions hidle
    exact (InterruptWorld.reach_covered addBuf hserves virtualAddress
      physicalAddress memorySize capsets actions).idle hidle
  · intro hread queue
    by_contra hunserved
    push Not at hunserved
    obtain ⟨world, rfl, hidle, hused⟩ :=
      lostInterrupts_idle setup queue hunserved
    exact hused (hread _ _ _ _ _ _ hidle queue)

end VgpuDriver
