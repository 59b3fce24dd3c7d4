import VgpuDriver.Irql

namespace VgpuDriver

open Data

/-! The routines are called within their IRQL limits, and the IRQL is restored
on return, unless a context with a mapped resource is destroyed. -/

/-- On a processor at `level` the entry point keeps the limits and returns at
the same level with no lock held. -/
def EntryPoint.KeepsIrql (entry : EntryPoint) (driver : Driver)
    (level : Nat) : Prop :=
  Within dispatchLevel Routine.limit (entry.program driver)
      { level := level, saved := [] } ∧
    exec dispatchLevel (entry.program driver)
      { level := level, saved := [] } = { level := level, saved := [] }

instance (entry : EntryPoint) (driver : Driver) (level : Nat) :
    Decidable (entry.KeepsIrql driver level) := by
  unfold EntryPoint.KeepsIrql
  have := decidableWithin dispatchLevel Routine.limit (entry.program driver)
    { level := level, saved := [] }
  infer_instance

/-- Handlers and the process callback start below DISPATCH_LEVEL, the DPC at
it. -/
def EntryPoint.StartsAt (level : Nat) : EntryPoint → Prop
  | .interruptDpc _ => level = dispatchLevel
  | _ => level ≤ apcLevel

instance (level : Nat) (entry : EntryPoint) :
    Decidable (entry.StartsAt level) := by
  cases entry <;> unfold EntryPoint.StartsAt <;> infer_instance

/-- The process whose context the entry point destroys. -/
def EntryPoint.destroys : EntryPoint → Option UInt32
  | .ioControl processId .destroyContext _ => some processId
  | .processNotify processId => some processId
  | _ => none

/-- The entry point destroys a context with a resource that is mapped. -/
def EntryPoint.DestroysMapped (entry : EntryPoint) (driver : Driver) : Prop :=
  ∃ processId ∈ entry.destroys,
    ∃ context ∈ getVirglContextFromListUnsafe driver.virglContextList
        processId,
      ∃ resource ∈ context.resourceList, resource.IsUserMapped = true

instance (entry : EntryPoint) (driver : Driver) :
    Decidable (entry.DestroysMapped driver) := by
  unfold EntryPoint.DestroysMapped
  infer_instance

/-- Within the limits at every level below DISPATCH_LEVEL. -/
abbrev SafeProgram : Program → Prop :=
  SafeBelow dispatchLevel Routine.limit apcLevel

namespace Irql

theorem safe_nil : SafeProgram [] := SafeBelow.nil

theorem safe_call (routine : Routine) : SafeProgram [.call routine] := by
  apply SafeBelow.call
  cases routine with
  | mmMapLockedPagesSpecifyCache => exact Nat.le_refl _
  | mmUnmapLockedPages => exact Nat.le_refl _
  | keWaitForSingleObject => exact Nat.le_refl _

/-- The lock is held for list and bitmap operations only. -/
theorem safe_lock (lock : SpinLock) : SafeProgram (locked lock []) :=
  .section_of_callless .nil fun _ hop => absurd hop List.not_mem_nil

theorem safe_fetched {α : Type} {fetch : Fetch α} {next : α → Program}
    (hnext : ∀ contents, SafeProgram (next contents)) :
    SafeProgram (fetched fetch next) := by
  cases fetch with
  | ok contents => exact hnext contents
  | failed code => exact safe_nil
  | rejected => exact safe_nil

theorem safe_found {α : Type} {result : Option α} {next : α → Program}
    (hnext : ∀ contents, SafeProgram (next contents)) :
    SafeProgram (found result next) := by
  cases result with
  | some contents => exact hnext contents
  | none => exact safe_nil

theorem safe_ite {condition : Prop} [Decidable condition]
    {first second : Program} (hfirst : SafeProgram first)
    (hsecond : SafeProgram second) :
    SafeProgram (if condition then first else second) := by
  split
  · exact hfirst
  · exact hsecond

theorem safe_allocateVgpuMemory (size : Nat) (memory : VgpuMemory) :
    SafeProgram (allocateVgpuMemory size memory) :=
  safe_ite safe_nil (safe_lock _)

theorem safe_deleteUserShareMemory (share : ShareDescriptor) :
    SafeProgram (deleteUserShareMemory share) := by
  unfold deleteUserShareMemory
  split
  · exact safe_call _
  · exact safe_nil

theorem safe_deleteResource (resource : VirglResource) :
    SafeProgram (deleteResource resource) := by
  refine SafeBelow.append (safe_ite ?_ safe_nil) (safe_lock _)
  refine SafeBelow.append
    (safe_ite (safe_deleteUserShareMemory _) safe_nil) ?_
  exact safe_ite (safe_lock _) (.append (safe_lock _) (safe_lock _))

/-- Deleting a resource calls a routine with a limit exactly when the resource
is mapped. -/
theorem callless_deleteResource (resource : VirglResource) :
    Callless (deleteResource resource) ↔ resource.IsUserMapped = false := by
  unfold Callless deleteResource VirglResource.IsUserMapped
  cases hbuffer : resource.bForBuffer with
  | false => simp [pushQueue, locked, Op.IsCall]
  | true =>
      cases hmdl : resource.buffer.share.pMdl with
      | none =>
          cases resource.bForBlob with
          | true => simp [pushQueue, locked, Op.IsCall]
          | false => simp [pushQueue, freeVgpuMemory, locked, Op.IsCall]
      | some mdl =>
          cases haddress : resource.buffer.share.userAddress with
          | none =>
              cases resource.bForBlob with
              | true =>
                  simp [deleteUserShareMemory, haddress, pushQueue, locked,
                    Op.IsCall]
              | false =>
                  simp [deleteUserShareMemory, haddress, pushQueue,
                    freeVgpuMemory, locked, Op.IsCall]
          | some address =>
              simp [deleteUserShareMemory, haddress, hmdl, Op.IsCall]

theorem callless_flatMap {resources : List VirglResource} :
    Callless (resources.flatMap deleteResource) ↔
      ∀ resource ∈ resources, resource.IsUserMapped = false := by
  constructor
  · intro h resource hresource
    refine (callless_deleteResource resource).mp fun op hop => ?_
    exact h op (List.mem_flatMap.mpr ⟨resource, hresource, hop⟩)
  · intro h op hop
    obtain ⟨resource, hresource, hmem⟩ := List.mem_flatMap.mp hop
    exact (callless_deleteResource resource).mpr (h resource hresource) op
      hmem

theorem nested_deletions (resources : List VirglResource) :
    Nested (resources.flatMap deleteResource) :=
  .flatMap fun resource _ => (safe_deleteResource resource).nested

theorem nested_ctlDestroyVirglContext (context : VirglContext) :
    Nested (ctlDestroyVirglContext context) :=
  ((safe_lock _).nested.append
    (.locked_section _ (nested_deletions _))).append (safe_lock _).nested

/-- The resources are deleted under the lock of their list. -/
theorem within_ctlDestroyVirglContext (context : VirglContext)
    {cpu : Cpu SpinLock} (hlevel : cpu.level ≤ apcLevel) :
    Within dispatchLevel Routine.limit (ctlDestroyVirglContext context)
        cpu ↔
      ∀ resource ∈ context.resourceList, resource.IsUserMapped = false := by
  have hlow : cpu.level < dispatchLevel := Nat.lt_succ_of_le hlevel
  have hlimit : ∀ routine : Routine, routine.limit < dispatchLevel := by
    intro routine
    cases routine <;> decide
  have hraised : dispatchLevel ≤ (cpu.acquire dispatchLevel
      (.resourceList context.id)).level := by
    simp [Cpu.acquire, hlow]
  have hdeletions : Within dispatchLevel Routine.limit
      (locked (.resourceList context.id)
        (context.resourceList.reverse.flatMap deleteResource)) cpu ↔
      ∀ resource ∈ context.resourceList,
        resource.IsUserMapped = false := by
    rw [within_locked,
      within_iff_callless hlimit hraised (nested_deletions _),
      callless_flatMap]
    simp only [List.mem_reverse]
  have hlock : ∀ lock : SpinLock, Within dispatchLevel Routine.limit
      (locked lock [] : Program) cpu :=
    fun lock => (safe_lock lock).within cpu hlevel
  have hexec : exec dispatchLevel
      (locked (.resourceList context.id)
        (context.resourceList.reverse.flatMap deleteResource)) cpu = cpu :=
    (Nested.locked_section _ (nested_deletions _)).exec cpu
  unfold ctlDestroyVirglContext
  rw [within_append, within_append, exec_append,
    (safe_lock SpinLock.virglContextList).nested.exec, hexec, hdeletions]
  constructor
  · exact fun h => h.1.2
  · exact fun h => ⟨⟨hlock _, h⟩, hlock _⟩

theorem safe_ctlInitVirglContext (contextId : UInt32)
    (request : ContextInitRequest) (driver : Driver) :
    SafeProgram (ctlInitVirglContext contextId request driver) := by
  refine SafeBelow.append (safe_lock _) ?_
  split
  · exact safe_nil
  · refine safe_fetched fun init => safe_fetched fun params => ?_
    refine safe_ite safe_nil (safe_ite safe_nil ?_)
    exact .append (safe_lock _) (safe_lock _)

theorem safe_ctlGetParams (driver : Driver) :
    SafeProgram (ctlGetParams driver) := by
  refine safe_ite (.flatMap fun _ _ => ?_) safe_nil
  exact .append (safe_lock _) (safe_call _)

theorem safe_ctlGetCaps (input : Fetch (UInt32 × UInt32))
    (output : Fetch Nat) (driver : Driver) :
    SafeProgram (ctlGetCaps input output driver) := by
  refine safe_fetched fun wanted => safe_found fun capset =>
    safe_fetched fun size => safe_ite safe_nil ?_
  exact .append (safe_lock _) (safe_call _)

theorem safe_ctlCreateResource (contextId : UInt32)
    (request : ResourceCreateRequest) (driver : Driver) :
    SafeProgram (ctlCreateResource contextId request driver) := by
  refine safe_fetched fun create => safe_fetched fun _ =>
    safe_found fun context => safe_found fun _ => ?_
  refine SafeBelow.append (.append (safe_lock _) (safe_lock _)) ?_
  refine safe_ite ?_ (safe_lock _)
  refine SafeBelow.append (safe_allocateVgpuMemory _ _) ?_
  exact safe_found fun _ => .append (safe_lock _) (safe_lock _)

theorem safe_ctlCreateBlobResource (contextId : UInt32)
    (request : BlobResourceCreateRequest) (driver : Driver) :
    SafeProgram (ctlCreateBlobResource contextId request driver) := by
  refine safe_fetched fun _ => safe_fetched fun _ =>
    safe_found fun context => safe_found fun _ => ?_
  exact .append (.append (.append (safe_lock _) (safe_lock _))
    (safe_lock _)) (safe_lock _)

theorem safe_ctlCloseResource (contextId : UInt32)
    (input : Fetch DrmGemClose) (driver : Driver) :
    SafeProgram (ctlCloseResource contextId input driver) := by
  refine safe_fetched fun close => safe_found fun context => ?_
  refine SafeBelow.append (safe_lock _) (safe_found fun resource => ?_)
  exact .append (safe_lock _) (safe_deleteResource resource)

theorem safe_ctlWait (contextId : UInt32) (request : WaitRequest)
    (driver : Driver) : SafeProgram (ctlWait contextId request driver) := by
  refine safe_fetched fun cmd => safe_fetched fun _ =>
    safe_found fun context => safe_found fun _ => ?_
  exact safe_ite safe_nil (safe_call _)

theorem safe_ctlMap (contextId : UInt32) (request : MapRequest)
    (woken : VirglResource → VirglResource) (driver : Driver) :
    SafeProgram (ctlMap contextId request woken driver) := by
  refine safe_fetched fun cmd => safe_fetched fun _ =>
    safe_found fun context => ?_
  refine SafeBelow.append (safe_lock _) (safe_found fun resource => ?_)
  refine safe_ite safe_nil (safe_ite safe_nil ?_)
  refine SafeBelow.append (safe_ite (safe_call _) safe_nil) ?_
  unfold createUserShareMemory
  refine safe_ite safe_nil ?_
  split
  · exact safe_nil
  · exact safe_call _

theorem safe_ctlTransferHost (contextId : UInt32) (request : TransferRequest)
    (driver : Driver) :
    SafeProgram (ctlTransferHost contextId request driver) :=
  safe_fetched fun _ => safe_found fun _ => safe_found fun _ => safe_lock _

theorem safe_submitPages (cmd : DrmVirtgpuExecbuffer)
    (request : ExecbufferRequest) (outFence : Option Nat)
    (driver : Driver) :
    SafeProgram (submitPages cmd request outFence driver) := by
  refine SafeBelow.append (safe_allocateVgpuMemory _ _)
    (safe_found fun _ => ?_)
  refine SafeBelow.append (safe_ite (safe_lock _) safe_nil) ?_
  refine safe_ite (safe_fetched fun _ => ?_) (safe_lock _)
  exact safe_ite safe_nil (safe_lock _)

theorem safe_ctlSubmitCommand (contextId : UInt32)
    (request : ExecbufferRequest) (driver : Driver) :
    SafeProgram (ctlSubmitCommand contextId request driver) := by
  refine safe_fetched fun cmd => safe_found fun _ => ?_
  refine SafeBelow.append ?_ (safe_ite safe_nil ?_)
  · unfold waitInFence
    refine safe_ite ?_ safe_nil
    split
    · exact safe_nil
    · exact safe_call _
  · split
    · exact safe_nil
    · exact safe_fetched fun _ => safe_submitPages cmd request _ driver

/-- The completion handler calls no routine with a limit. -/
theorem callless_virtioVgpuReadFromQueue (driver : Driver) (queue : Queue) :
    Nested (virtioVgpuReadFromQueue driver queue) ∧
      Callless (virtioVgpuReadFromQueue driver queue) := by
  have hlock : ∀ lock : SpinLock, Nested (locked lock [] : Program) ∧
      Callless (locked lock [] : Program) := by
    intro lock
    refine ⟨(safe_lock lock).nested, ?_⟩
    simp [Callless, locked, Op.IsCall]
  have hbuffer : ∀ buffer : VgpuBuffer,
      Nested (completeBuffer queue buffer) ∧
        Callless (completeBuffer queue buffer) := by
    intro buffer
    unfold completeBuffer
    split
    · have hfree := hlock .vgpuMemory
      refine ⟨(hlock _).1.append hfree.1, ?_⟩
      intro op hop
      rcases List.mem_append.mp hop with hget | hpages
      · exact (hlock _).2 op hget
      · exact hfree.2 op hpages
    · rw [List.append_nil]
      exact hlock _
  constructor
  · exact (Nested.flatMap fun buffer _ => (hbuffer buffer).1).append
      (hlock _).1
  · intro op hop
    rcases List.mem_append.mp hop with hloop | hlast
    · obtain ⟨buffer, _, hmem⟩ := List.mem_flatMap.mp hloop
      exact (hbuffer buffer).2 op hmem
    · exact (hlock _).2 op hlast

end Irql

private theorem keepsIrql_of_lookup {driver : Driver} {processId : UInt32}
    {level : Nat} (hlevel : level ≤ apcLevel) :
    (Within dispatchLevel Routine.limit
        (Irql.processNotify processId driver)
        { level := level, saved := [] } ∧
      exec dispatchLevel (Irql.processNotify processId driver)
        { level := level, saved := [] } =
          { level := level, saved := [] }) ↔
      ¬∃ context ∈ getVirglContextFromListUnsafe driver.virglContextList
          processId,
        ∃ resource ∈ context.resourceList,
          resource.IsUserMapped = true := by
  have hlookup : SafeProgram Irql.getVirglContextFromList := Irql.safe_lock _
  unfold Irql.processNotify
  rw [within_append, exec_append, hlookup.nested.exec]
  cases getVirglContextFromListUnsafe driver.virglContextList processId with
  | none =>
      have hwithin := hlookup.within { level := level, saved := [] } hlevel
      simp [Irql.found, hwithin, Within]
  | some context =>
      have hwithin := hlookup.within { level := level, saved := [] } hlevel
      have hdestroy : Within dispatchLevel Routine.limit
          (Irql.ctlDestroyVirglContext context)
          { level := level, saved := [] } ↔
          ∀ resource ∈ context.resourceList,
            resource.IsUserMapped = false :=
        Irql.within_ctlDestroyVirglContext context hlevel
      simp only [Irql.found, hwithin, true_and,
        (Irql.nested_ctlDestroyVirglContext context).exec, and_true,
        Option.mem_some_iff, exists_eq_left']
      rw [hdestroy]
      push Not
      simp only [ne_eq, Bool.not_eq_true]

private theorem SafeBelow.keepsIrql {driver : Driver} {entry : EntryPoint}
    {level : Nat} (hsafe : SafeProgram (entry.program driver))
    (hlevel : level ≤ apcLevel) : entry.KeepsIrql driver level :=
  ⟨hsafe.within _ hlevel, hsafe.nested.exec _⟩

/-- The discipline is kept exactly when no context is destroyed while one of
its resources is mapped. -/
theorem irql_kept (driver : Driver) (entry : EntryPoint) (level : Nat)
    (hstart : entry.StartsAt level) :
    entry.KeepsIrql driver level ↔ ¬entry.DestroysMapped driver := by
  have hsafe : SafeProgram (entry.program driver) → level ≤ apcLevel →
      entry.destroys = none →
      (entry.KeepsIrql driver level ↔ ¬entry.DestroysMapped driver) := by
    intro hprogram hlevel hnone
    have hkeeps := SafeBelow.keepsIrql hprogram hlevel
    simp [hkeeps, EntryPoint.DestroysMapped, hnone]
  have hdestroys : ∀ processId, level ≤ apcLevel →
      entry.program driver = Irql.processNotify processId driver →
      entry.destroys = some processId →
      (entry.KeepsIrql driver level ↔ ¬entry.DestroysMapped driver) := by
    intro processId hlevel hprogram hsome
    unfold EntryPoint.KeepsIrql EntryPoint.DestroysMapped
    rw [hprogram, hsome, keepsIrql_of_lookup hlevel]
    simp
  cases entry with
  | ioControl processId request woken =>
      cases request with
      | destroyContext => exact hdestroys processId hstart rfl rfl
      | contextInit request =>
          exact hsafe (Irql.safe_ctlInitVirglContext _ _ _) hstart rfl
      | resourceCreate request =>
          exact hsafe (Irql.safe_ctlCreateResource _ _ _) hstart rfl
      | blobResourceCreate request =>
          exact hsafe (Irql.safe_ctlCreateBlobResource _ _ _) hstart rfl
      | resourceClose input =>
          exact hsafe (Irql.safe_ctlCloseResource _ _ _) hstart rfl
      | wait request => exact hsafe (Irql.safe_ctlWait _ _ _) hstart rfl
      | map request => exact hsafe (Irql.safe_ctlMap _ _ _ _) hstart rfl
      | execbuffer request =>
          exact hsafe (Irql.safe_ctlSubmitCommand _ _ _) hstart rfl
      | transferHost toHost request =>
          exact hsafe (Irql.safe_ctlTransferHost _ _ _) hstart rfl
  | getParams => exact hsafe (Irql.safe_ctlGetParams driver) hstart rfl
  | getCaps input output =>
      exact hsafe (Irql.safe_ctlGetCaps input output driver) hstart rfl
  | unsupported => exact hsafe Irql.safe_nil hstart rfl
  | processNotify processId => exact hdestroys processId hstart rfl rfl
  | interruptDpc queues =>
      have hnested : Nested (queues.flatMap
          (Irql.virtioVgpuReadFromQueue driver)) :=
        .flatMap fun queue _ =>
          (Irql.callless_virtioVgpuReadFromQueue driver queue).1
      have hcallless : Callless (queues.flatMap
          (Irql.virtioVgpuReadFromQueue driver)) := by
        intro op hop
        obtain ⟨queue, _, hmem⟩ := List.mem_flatMap.mp hop
        exact (Irql.callless_virtioVgpuReadFromQueue driver queue).2 op hmem
      have hkeeps : (EntryPoint.interruptDpc queues).KeepsIrql driver
          level := ⟨hcallless.within, hnested.exec _⟩
      simp [hkeeps, EntryPoint.DestroysMapped, EntryPoint.destroys]

/-- A context with a resource that is mapped. -/
def userMappedRun : List Action :=
  [.request 7 .initContext, .request 7 (.create 1),
   .request 7 (.create 0x1000), .request 7 (.mapAt 2 0x7000)]

/-- Closing the mapped resource unmaps it below DISPATCH_LEVEL. -/
theorem irql_kept_closedMapped :
    (EntryPoint.ioControl 7 (.close 2) id).KeepsIrql
      (runFrom (World.step fun _ => true)
        World.eightPages userMappedRun).driver apcLevel :=
  (irql_kept _ _ _ (by decide)).mpr (by decide +kernel)

theorem not_keepsIrql_userMappedRun :
    (EntryPoint.processNotify 7).StartsAt 0 ∧
      ¬(EntryPoint.processNotify 7).KeepsIrql
        (runFrom (World.step fun _ => true)
          World.eightPages userMappedRun).driver 0 := by
  decide +kernel

end VgpuDriver
