import VgpuDriver.Data.LockOrder
import VgpuDriver.Irql

namespace VgpuDriver

open Data

/-! No deadlock: handlers, process callbacks and DPCs on any number of
processors never wait for each other's spin locks in a circle, and nobody
sleeps with a spin lock held. -/

/-- The order in which the locks are taken: the resources of a context are
deleted under the lock of its list. -/
def SpinLock.rank : SpinLock → Nat
  | .virglContextList => 0
  | .resourceList _ => 1
  | .vgpuMemory => 2
  | .idr _ => 2
  | .virtQueue _ => 2

def Routine.blocks : Routine → Bool
  | .keWaitForSingleObject => true
  | _ => false

/-- The program keeps the order of the locks when `held` is held. -/
abbrev OrderedProgram (held : List SpinLock) : Program → Prop :=
  KeepsOrder SpinLock.rank Routine.blocks held

namespace Irql

variable {held : List SpinLock}

theorem orders_lock (lock : SpinLock)
    (hrank : ∀ other ∈ held, other.rank < lock.rank) :
    OrderedProgram held (locked lock []) :=
  .locked_section hrank .nil

theorem orders_first (lock : SpinLock) : OrderedProgram [] (locked lock []) :=
  orders_lock lock fun _ hother => absurd hother List.not_mem_nil

/-- Without a lock every routine may be called. -/
theorem orders_call (routine : Routine) :
    OrderedProgram [] [.call routine] :=
  .call (.inl rfl)

theorem orders_fetched {α : Type} {fetch : Fetch α} {next : α → Program}
    (hnext : ∀ contents, OrderedProgram held (next contents)) :
    OrderedProgram held (fetched fetch next) := by
  cases fetch with
  | ok contents => exact hnext contents
  | failed code => exact .nil
  | rejected => exact .nil

theorem orders_found {α : Type} {result : Option α} {next : α → Program}
    (hnext : ∀ contents, OrderedProgram held (next contents)) :
    OrderedProgram held (found result next) := by
  cases result with
  | some contents => exact hnext contents
  | none => exact .nil

theorem orders_ite {condition : Prop} [Decidable condition]
    {first second : Program} (hfirst : OrderedProgram held first)
    (hsecond : OrderedProgram held second) :
    OrderedProgram held (if condition then first else second) := by
  split
  · exact hfirst
  · exact hsecond

theorem orders_allocateVgpuMemory (size : Nat) (memory : VgpuMemory) :
    OrderedProgram [] (allocateVgpuMemory size memory) :=
  orders_ite .nil (orders_first _)

/-- Unmapping does not block. -/
theorem orders_deleteUserShareMemory (share : ShareDescriptor) :
    OrderedProgram held (deleteUserShareMemory share) := by
  unfold deleteUserShareMemory
  split
  · exact .call (.inr rfl)
  · exact .nil

/-- A resource may be deleted without a lock or under the lock of a list. -/
theorem orders_deleteResource (resource : VirglResource)
    (hheld : ∀ other ∈ held, other.rank < 2) :
    OrderedProgram held (deleteResource resource) := by
  have hqueue : OrderedProgram held (pushQueue .command) :=
    orders_lock _ hheld
  have hmemory : OrderedProgram held freeVgpuMemory :=
    orders_lock _ hheld
  refine KeepsOrder.append (orders_ite ?_ .nil) hqueue
  refine KeepsOrder.append
    (orders_ite (orders_deleteUserShareMemory _) .nil) ?_
  exact orders_ite hqueue (hqueue.append hmemory)

theorem orders_ctlDestroyVirglContext (context : VirglContext) :
    OrderedProgram [] (ctlDestroyVirglContext context) := by
  refine ((orders_first _).append ?_).append (orders_first _)
  refine .locked_section (fun _ hother => absurd hother List.not_mem_nil) ?_
  refine .flatMap fun resource _ => orders_deleteResource resource ?_
  intro other hother
  rw [List.mem_singleton.mp hother]
  exact Nat.one_lt_two

theorem orders_ctlInitVirglContext (contextId : UInt32)
    (request : ContextInitRequest) (driver : Driver) :
    OrderedProgram [] (ctlInitVirglContext contextId request driver) := by
  refine KeepsOrder.append (orders_first _) ?_
  split
  · exact .nil
  · refine orders_fetched fun init => orders_fetched fun params => ?_
    refine orders_ite .nil (orders_ite .nil ?_)
    exact (orders_first _).append (orders_first _)

theorem orders_ctlGetParams (driver : Driver) :
    OrderedProgram [] (ctlGetParams driver) := by
  refine orders_ite (.flatMap fun _ _ => ?_) .nil
  exact (orders_first _).append (orders_call _)

theorem orders_ctlGetCaps (input : Fetch (UInt32 × UInt32))
    (output : Fetch Nat) (driver : Driver) :
    OrderedProgram [] (ctlGetCaps input output driver) := by
  refine orders_fetched fun wanted => orders_found fun capset =>
    orders_fetched fun size => orders_ite .nil ?_
  exact (orders_first _).append (orders_call _)

theorem orders_ctlCreateResource (contextId : UInt32)
    (request : ResourceCreateRequest) (driver : Driver) :
    OrderedProgram [] (ctlCreateResource contextId request driver) := by
  refine orders_fetched fun create => orders_fetched fun _ =>
    orders_found fun context => orders_found fun _ => ?_
  refine ((orders_first _).append (orders_first _)).append ?_
  refine orders_ite ?_ (orders_first _)
  refine (orders_allocateVgpuMemory _ _).append ?_
  exact orders_found fun _ => (orders_first _).append (orders_first _)

theorem orders_ctlCreateBlobResource (contextId : UInt32)
    (request : BlobResourceCreateRequest) (driver : Driver) :
    OrderedProgram [] (ctlCreateBlobResource contextId request driver) := by
  refine orders_fetched fun _ => orders_fetched fun _ =>
    orders_found fun context => orders_found fun _ => ?_
  exact (((orders_first _).append (orders_first _)).append
    (orders_first _)).append (orders_first _)

theorem orders_ctlCloseResource (contextId : UInt32)
    (input : Fetch DrmGemClose) (driver : Driver) :
    OrderedProgram [] (ctlCloseResource contextId input driver) := by
  refine orders_fetched fun close => orders_found fun context => ?_
  refine KeepsOrder.append (orders_first _) (orders_found fun resource => ?_)
  exact (orders_first _).append (orders_deleteResource resource
    fun _ hother => absurd hother List.not_mem_nil)

theorem orders_ctlWait (contextId : UInt32) (request : WaitRequest)
    (driver : Driver) :
    OrderedProgram [] (ctlWait contextId request driver) := by
  refine orders_fetched fun cmd => orders_fetched fun _ =>
    orders_found fun context => orders_found fun _ => ?_
  exact orders_ite .nil (orders_call _)

theorem orders_ctlMap (contextId : UInt32) (request : MapRequest)
    (woken : VirglResource → VirglResource) (driver : Driver) :
    OrderedProgram [] (ctlMap contextId request woken driver) := by
  refine orders_fetched fun cmd => orders_fetched fun _ =>
    orders_found fun context => ?_
  refine KeepsOrder.append (orders_first _) (orders_found fun resource => ?_)
  refine orders_ite .nil (orders_ite .nil ?_)
  refine KeepsOrder.append (orders_ite (orders_call _) .nil) ?_
  unfold createUserShareMemory
  refine orders_ite .nil ?_
  split
  · exact .nil
  · exact orders_call _

theorem orders_ctlTransferHost (contextId : UInt32)
    (request : TransferRequest) (driver : Driver) :
    OrderedProgram [] (ctlTransferHost contextId request driver) :=
  orders_fetched fun _ => orders_found fun _ => orders_found fun _ =>
    orders_first _

theorem orders_submitPages (cmd : DrmVirtgpuExecbuffer)
    (request : ExecbufferRequest) (outFence : Option Nat)
    (driver : Driver) :
    OrderedProgram [] (submitPages cmd request outFence driver) := by
  refine (orders_allocateVgpuMemory _ _).append (orders_found fun _ => ?_)
  refine KeepsOrder.append (orders_ite (orders_first _) .nil) ?_
  refine orders_ite (orders_fetched fun _ => ?_) (orders_first _)
  exact orders_ite .nil (orders_first _)

theorem orders_ctlSubmitCommand (contextId : UInt32)
    (request : ExecbufferRequest) (driver : Driver) :
    OrderedProgram [] (ctlSubmitCommand contextId request driver) := by
  refine orders_fetched fun cmd => orders_found fun _ => ?_
  refine KeepsOrder.append ?_ (orders_ite .nil ?_)
  · unfold waitInFence
    refine orders_ite ?_ .nil
    split
    · exact .nil
    · exact orders_call _
  · split
    · exact .nil
    · exact orders_fetched fun _ => orders_submitPages cmd request _ driver

theorem orders_destroy (processId : UInt32) (driver : Driver) :
    OrderedProgram [] (processNotify processId driver) :=
  (orders_first _).append (orders_found orders_ctlDestroyVirglContext)

theorem orders_virtioVgpuIoControl (processId : UInt32)
    (woken : VirglResource → VirglResource) (driver : Driver)
    (request : IoRequest) :
    OrderedProgram []
      (virtioVgpuIoControl processId woken driver request) := by
  cases request with
  | contextInit request =>
      exact orders_ctlInitVirglContext processId request driver
  | destroyContext => exact orders_destroy processId driver
  | resourceCreate request =>
      exact orders_ctlCreateResource processId request driver
  | blobResourceCreate request =>
      exact orders_ctlCreateBlobResource processId request driver
  | resourceClose input =>
      exact orders_ctlCloseResource processId input driver
  | wait request => exact orders_ctlWait processId request driver
  | map request => exact orders_ctlMap processId request woken driver
  | execbuffer request =>
      exact orders_ctlSubmitCommand processId request driver
  | transferHost toHost request =>
      exact orders_ctlTransferHost processId request driver

theorem orders_virtioVgpuReadFromQueue (driver : Driver) (queue : Queue) :
    OrderedProgram [] (virtioVgpuReadFromQueue driver queue) := by
  refine KeepsOrder.append (.flatMap fun buffer _ => ?_) (orders_first _)
  refine KeepsOrder.append (orders_first _) ?_
  split
  · exact orders_first _
  · exact .nil

end Irql

theorem EntryPoint.orders (entry : EntryPoint) (driver : Driver) :
    OrderedProgram [] (entry.program driver) := by
  cases entry with
  | ioControl processId request woken =>
      exact Irql.orders_virtioVgpuIoControl processId woken driver request
  | getParams => exact Irql.orders_ctlGetParams driver
  | getCaps input output => exact Irql.orders_ctlGetCaps input output driver
  | unsupported => exact .nil
  | processNotify processId => exact Irql.orders_destroy processId driver
  | interruptDpc queues =>
      exact .flatMap fun queue _ =>
        Irql.orders_virtioVgpuReadFromQueue driver queue

/-! The processors.  Each call has the driver state that its own reads find,
whatever the others do meanwhile. -/

inductive ProcessorAction
  | enter (level : Nat) (driver : Driver) (entry : EntryPoint)
  | dispatch (processor slot : Nat)
  | preempt (processor : Nat)
  | interrupt (processor : Nat) (driver : Driver) (queues : List Queue)
  | advance (processor : Nat)

abbrev Processors := Machine SpinLock Routine

def ProcessorAction.act : ProcessorAction → MachineAction SpinLock Routine
  | .enter level driver entry => .arrive level (entry.program driver)
  | .dispatch processor slot => .dispatch processor slot
  | .preempt processor => .preempt processor
  | .interrupt processor driver queues =>
      .interrupt processor ((EntryPoint.interruptDpc queues).program driver)
  | .advance processor => .advance processor

def Processors.step (processors : Processors) (action : ProcessorAction) :
    Processors :=
  Machine.step dispatchLevel processors action.act

/-- A spin lock has one holder, which does not ask for it again and does not
sleep; while one is held some holder runs and waits for nothing; and all
calls can be brought to their end. -/
structure Processors.NeverStuck (processors : Processors) : Prop where
  exclusive : processors.held.Nodup
  noReentry : ∀ frame ∈ processors.frames, ∀ lock rest,
    frame.rest = .acquire lock :: rest → lock ∉ frame.held
  noSleep : ∀ frame ∈ processors.frames, ∀ rest,
    frame.rest = .call .keWaitForSingleObject :: rest → frame.held = []
  holderRuns : processors.held ≠ [] →
    ∃ (processor : Nat) (frame : Frame SpinLock Routine)
        (below : List (Frame SpinLock Routine)),
      processors.processors[processor]? = some (frame :: below) ∧
        frame.held ≠ [] ∧ frame.Unhindered Routine.blocks processors.held
  canEnd : ∃ actions : List (MachineAction SpinLock Routine),
    (∀ action ∈ actions, action.GoesOn) ∧
      (runFrom (Machine.step dispatchLevel) processors actions).frames = []

abbrev Processors.InOrder : Processors → Prop :=
  Machine.Ordered SpinLock.rank Routine.blocks dispatchLevel

theorem Processors.InOrder.step {processors : Processors}
    (h : processors.InOrder) (action : ProcessorAction) :
    (processors.step action).InOrder := by
  refine Machine.Ordered.step h fun program hprogram => ?_
  cases action with
  | enter level driver entry =>
      rw [← Option.some.inj hprogram]
      exact (entry.orders driver).climbs
  | interrupt processor driver queues =>
      rw [← Option.some.inj hprogram]
      exact ((EntryPoint.interruptDpc queues).orders driver).climbs
  | dispatch processor slot => cases hprogram
  | preempt processor => cases hprogram
  | advance processor => cases hprogram

theorem Processors.InOrder.frame_climbs {processors : Processors}
    (h : processors.InOrder) {frame : Frame SpinLock Routine}
    (hframe : frame ∈ processors.frames) :
    Climbs SpinLock.rank Routine.blocks frame.held frame.rest := by
  rcases List.mem_append.mp hframe with hrunning | hready
  · obtain ⟨stack, hstack, hmem⟩ := List.mem_flatten.mp hrunning
    have hordered := h.processors stack hstack
    cases stack with
    | nil => exact absurd hmem List.not_mem_nil
    | cons top below =>
        rcases List.mem_cons.mp hmem with rfl | hbelow
        · exact hordered.1.climbs
        · have hrests := hordered.2 frame hbelow
          exact hrests.held_eq ▸ hrests.climbs
  · have hrests := h.ready frame hready
    exact hrests.held_eq ▸ hrests.climbs

theorem Processors.InOrder.neverStuck {processors : Processors}
    (h : processors.InOrder) (hprocessors : processors.processors ≠ []) :
    processors.NeverStuck where
  exclusive := h.exclusive
  noReentry := by
    intro frame hframe lock rest hrest hheld
    have hclimbs := h.frame_climbs hframe
    rw [hrest] at hclimbs
    exact Nat.lt_irrefl _ (hclimbs.1 lock hheld)
  noSleep := by
    intro frame hframe rest hrest
    have hclimbs := h.frame_climbs hframe
    rw [hrest] at hclimbs
    exact hclimbs.1.resolve_right (by decide)
  holderRuns := h.exists_unhindered
  canEnd := h.exists_drained hprocessors

/-- Whatever calls come in on however many processors, and however they are
scheduled and interrupted. -/
theorem spin_locks_never_stuck (count : Nat)
    (actions : List ProcessorAction) :
    (runFrom Processors.step (Machine.idle (count + 1))
      actions).NeverStuck := by
  have hstart : Processors.InOrder (Machine.idle (count + 1)) :=
    Machine.idle_ordered (count + 1)
  have halways : Along Processors.step (fun _ _ => True)
      (Machine.idle (count + 1)) actions :=
    along_of_mem fun _ _ => trivial
  have hstep : ∀ (processors : Processors) (action : ProcessorAction),
      processors.InOrder ∧ processors.processors.length = count + 1 →
      True → (processors.step action).InOrder ∧
        (processors.step action).processors.length = count + 1 := by
    intro processors action hinvariant _
    refine ⟨hinvariant.1.step action, ?_⟩
    exact (Machine.processors_length processors action.act).trans hinvariant.2
  have hend := halways.invariant hstep ⟨hstart, List.length_replicate⟩
  refine hend.1.neverStuck fun hnone => ?_
  have hlength := hend.2
  rw [hnone] at hlength
  cases hlength

end VgpuDriver
