import VgpuDriver.Submission

namespace VgpuDriver

open Data

/-! What a failed submission or transfer leaves behind. -/

namespace Driver

/-- How often the object is referenced; no reference is given back. -/
def references (object : Nat) (driver : Driver) : Nat :=
  driver.history.count (.objectReferenced object)

/-- `StateEvent` and `FenceId` of every resource. -/
def states (driver : Driver) :
    List (UInt32 × List (UInt32 × Bool × UInt64)) :=
  driver.virglContextList.map fun context =>
    (context.id, context.resourceList.map fun resource =>
      (resource.id, resource.stateEvent, resource.fenceId))

end Driver

/-- The parts of the state that a failed call must not change. -/
structure Untouched (before after : Driver) : Prop where
  bitmap : after.vgpuMemory.regionBitmap = before.vgpuMemory.regionBitmap
  available : after.vgpuMemory.availableMemorySize =
    before.vgpuMemory.availableMemorySize
  states : after.states = before.states
  references : ∀ object, after.references object = before.references object

theorem Untouched.refl (driver : Driver) : Untouched driver driver :=
  ⟨rfl, rfl, rfl, fun _ => rfl⟩

section References

variable (addBuf : Nat → Bool) {driver : Driver} {object : Nat}

theorem references_log {event : Event}
    (hother : event ≠ .objectReferenced object) :
    (driver.log event).references object = driver.references object :=
  List.count_cons_of_ne hother

theorem references_pushQueue (queue : Queue) (buffer : VgpuBuffer) :
    (pushQueue addBuf queue buffer driver).2.references object =
      driver.references object := by
  unfold Driver.references pushQueue
  dsimp only
  cases addBuf driver.pushCount with
  | true => exact List.count_cons_of_ne (by nofun)
  | false => rfl

theorem references_submitCommand (virglContextId : UInt32)
    (command : MemoryDescriptor) (commandBufSize : Nat)
    (commandSize : UInt32) (resourceIds : Option (List UInt32))
    (fenceId : UInt64) (fenceObject : Option Nat) :
    (submitCommand addBuf virglContextId command commandBufSize commandSize
      resourceIds fenceId fenceObject driver).2.references object =
        driver.references object :=
  (references_pushQueue addBuf .command _).trans (references_log (by nofun))

theorem references_reference (objects : List Nat) :
    (driver.reference objects).references object =
      objects.count object + driver.references object := by
  have hinjective : Function.Injective Event.objectReferenced :=
    fun _ _ heq => Event.objectReferenced.inj heq
  unfold Driver.references Driver.reference
  rw [List.count_append, List.count_map_of_injective _ _ hinjective]

theorem SubmitEnd.references {addBuf : Nat → Bool}
    {request : ExecbufferRequest} {prepared : PreparedSubmit}
    {result : Reply × Driver}
    (hend : SubmitEnd addBuf request prepared result) :
    result.2.references object = prepared.driver.references object := by
  have hfenced (memory : MemoryDescriptor) (vgpuMemory : VgpuMemory) :
      (prepared.fenced memory vgpuMemory).2.references object =
        prepared.driver.references object := by
    unfold Driver.references
    rw [fenced_history]
    exact List.count_cons_of_ne (by nofun)
  cases hend with
  | exhausted halloc => rfl
  | unread memory vgpuMemory status halloc hlisted hhandles hstatus =>
      exact hfenced memory vgpuMemory
  | uncopied memory vgpuMemory reads halloc hlisted hhandles hblock =>
      exact hfenced memory vgpuMemory
  | listed memory vgpuMemory reads halloc hlisted hhandles hblock status
      after hsubmitted =>
      have hafter := congrArg Prod.snd hsubmitted
      dsimp only at hafter ⊢
      rw [← hafter, references_submitCommand]
      unfold markedCommand
      rw [references_log (by nofun)]
      exact hfenced memory vgpuMemory
  | unlisted memory vgpuMemory halloc hunlisted status after hsubmitted =>
      have hafter := congrArg Prod.snd hsubmitted
      dsimp only at hafter ⊢
      rw [← hafter, references_submitCommand]
      exact hfenced memory vgpuMemory

end References

section States

variable {driver : Driver} {contextId : UInt32} {context : VirglContext}
variable {ids : List UInt32}

theorem eventOf_eq_of_states {before after : Driver}
    (hstates : after.states = before.states)
    (contextId resourceId : UInt32) :
    after.eventOf contextId resourceId =
      before.eventOf contextId resourceId := by
  have hevent (driver : Driver) : driver.eventOf contextId resourceId =
      (driver.states.find? fun entry =>
        decide (entry.1 = contextId)).bind fun entry =>
          (entry.2.find? fun state =>
            decide (state.1 = resourceId)).map fun state => state.2.1 := by
    unfold Driver.eventOf Driver.states getVirglContextFromListUnsafe
      getResourceFromListUnsafe
    rw [List.find?_map, Option.bind_map]
    refine congrArg (Option.bind _) ?_
    funext context
    simp only [Function.comp_apply, List.find?_map, Option.map_map]
    rfl
  rw [hevent after, hevent before, hstates]

/-- The listed resources that the context has are busy already. -/
def AllBusy (context : VirglContext) (ids : List UInt32) : Prop :=
  ∀ id ∈ ids, ∀ resource,
    getResourceFromListUnsafe context id = some resource →
      resource.stateEvent = false

theorem updateResourceState_of_busy (hbusy : AllBusy context ids) :
    updateResourceState ids true 0 context = context := by
  induction ids with
  | nil => rfl
  | cons head tail ih =>
      have hhead : context.modifyResource head
          (VirglResource.updateState true 0) = context := by
        unfold VirglContext.modifyResource
        rw [modifyFirst_of_fixed]
        intro resource hfound
        have hevent := hbusy head List.mem_cons_self resource hfound
        cases resource
        subst hevent
        rfl
      unfold updateResourceState
      rw [List.foldl_cons, hhead]
      exact ih fun id hid => hbusy id (List.mem_cons_of_mem _ hid)

theorem marked_states_iff
    (hcontext : getVirglContextFromListUnsafe driver.virglContextList
      contextId = some context) :
    (driver.modifyContext contextId
        (updateResourceState ids true 0)).states = driver.states ↔
      AllBusy context ids := by
  constructor
  · intro hstates id hid resource hfound
    have hevent := eventOf_eq_of_states hstates contextId id
    have hmarked : getVirglContextFromListUnsafe
        (driver.modifyContext contextId
          (updateResourceState ids true 0)).virglContextList contextId =
        some (updateResourceState ids true 0 context) := by
      rw [lookup_modifyContext (updateResourceState_id ids true 0), hcontext]
      rfl
    unfold Driver.eventOf at hevent
    rw [hmarked, hcontext] at hevent
    simp only [Option.bind_some,
      getResourceFromListUnsafe_updateResourceState, hid, if_true, hfound,
      Option.map_some, Option.some.injEq] at hevent
    rw [← hevent, VirglResource.updateState_stateEvent (Or.inl rfl)]
    rfl
  · intro hbusy
    have hfixed : (driver.modifyContext contextId
        (updateResourceState ids true 0)).virglContextList =
        driver.virglContextList := by
      refine modifyFirst_of_fixed fun entry hentry => ?_
      have hsame : entry = context :=
        Option.some.inj (hentry.symm.trans hcontext)
      rw [hsame]
      exact updateResourceState_of_busy hbusy
    unfold Driver.states
    rw [hfixed]

end States

section Fetched

variable {cmd : DrmVirtgpuExecbuffer} {request : ExecbufferRequest}
variable {driver : Driver}

/-- The status with which the submission leaves its in-fence. -/
def inFenceStatus (cmd : DrmVirtgpuExecbuffer)
    (request : ExecbufferRequest) : NtStatus :=
  if cmd.flags &&& execbufFenceFdIn ≠ 0 then
    match request.inFence with
    | .error status => status
    | .ok _ => request.waitStatus
  else .success

/-- The out-fence is referenced or not asked for. -/
def OutFenceTaken (cmd : DrmVirtgpuExecbuffer)
    (request : ExecbufferRequest) : Prop :=
  cmd.flags &&& execbufFenceFdOut ≠ 0 →
    ∃ object, request.outFence = .ok object

/-- The objects that a submission references, whether it fails or not. -/
def referencedObjects (cmd : DrmVirtgpuExecbuffer)
    (request : ExecbufferRequest) : List Nat :=
  (if inFenceStatus cmd request = .success then outFenceObjects cmd request
    else []) ++ inFenceObjects cmd request

/-- The submission gets as far as the reservation of its pages. -/
def FetchesCommand (cmd : DrmVirtgpuExecbuffer)
    (request : ExecbufferRequest) : Prop :=
  inFenceStatus cmd request = .success ∧ OutFenceTaken cmd request ∧
    request.command = .ok ()

theorem waitInFence_status :
    (waitInFence cmd request driver).1 = inFenceStatus cmd request := by
  unfold waitInFence inFenceStatus
  split
  · cases request.inFence <;> rfl
  · rfl

theorem referenceOutFence_ok (htaken : OutFenceTaken cmd request) :
    (referenceOutFence cmd request driver).1 =
      .ok (outFenceObjects cmd request).head? := by
  unfold referenceOutFence outFenceObjects
  split
  · rename_i hflag
    obtain ⟨object, hobject⟩ := htaken hflag
    rw [hobject]
    rfl
  · rfl

theorem referenceOutFence_error (hfails : request.outFence ≠ .error .success)
    (htaken : ¬OutFenceTaken cmd request) :
    ∃ status, status ≠ .success ∧
      (referenceOutFence cmd request driver).1 = .error status := by
  unfold OutFenceTaken at htaken
  push Not at htaken
  obtain ⟨hflag, hno⟩ := htaken
  unfold referenceOutFence
  rw [if_pos hflag]
  cases hout : request.outFence with
  | error status =>
      exact ⟨status, fun hzero => hfails (hzero ▸ hout), rfl⟩
  | ok object => exact absurd hout (hno object)

theorem prepareSubmit_found {contextId : UInt32} {context : VirglContext}
    (hinput : request.input = .ok cmd)
    (hcontext : getVirglContextFromListUnsafe driver.virglContextList
      contextId = some context)
    (hfails : request.outFence ≠ .error .success) :
    (∃ status, status ≠ .success ∧ ¬FetchesCommand cmd request ∧
      prepareSubmit contextId request driver =
        .error (status,
          driver.reference (referencedObjects cmd request))) ∨
    (FetchesCommand cmd request ∧
      prepareSubmit contextId request driver =
        .ok
          { context := context
            cmd := cmd
            outFence := (outFenceObjects cmd request).head?
            driver :=
              driver.reference (referencedObjects cmd request) }) := by
  have hin := waitInFence_driver cmd request driver
  have hstatus := @waitInFence_status cmd request driver
  unfold prepareSubmit
  simp only [hinput, hcontext]
  by_cases hwaited : inFenceStatus cmd request = .success
  · have hobjects : referencedObjects cmd request =
        outFenceObjects cmd request ++ inFenceObjects cmd request := by
      unfold referencedObjects
      rw [if_pos hwaited]
    have hout := referenceOutFence_driver cmd request
      (waitInFence cmd request driver).2
    rw [hin, Driver.reference_reference, ← hobjects, ← hin] at hout
    rw [if_neg (not_not.mpr (hstatus.trans hwaited))]
    by_cases htaken : OutFenceTaken cmd request
    · have hok := @referenceOutFence_ok cmd request
        (waitInFence cmd request driver).2 htaken
      rw [← Prod.mk.eta (p := referenceOutFence cmd request
        (waitInFence cmd request driver).2), hok, hout]
      cases hcommand : request.command with
      | failed code =>
          exact Or.inl ⟨.other code, nofun,
            fun h => by simp [h.2.2] at hcommand, rfl⟩
      | rejected =>
          exact Or.inl ⟨.unsuccessful, nofun,
            fun h => by simp [h.2.2] at hcommand, rfl⟩
      | ok _ => exact Or.inr ⟨⟨hwaited, htaken, hcommand⟩, rfl⟩
    · obtain ⟨status, hne, herror⟩ := @referenceOutFence_error cmd request
        (waitInFence cmd request driver).2 hfails htaken
      rw [← Prod.mk.eta (p := referenceOutFence cmd request
        (waitInFence cmd request driver).2), herror, hout]
      exact Or.inl ⟨status, hne, fun h => htaken h.2.1, rfl⟩
  · have hobjects : referencedObjects cmd request =
        inFenceObjects cmd request := by
      unfold referencedObjects
      rw [if_neg hwaited, List.nil_append]
    rw [if_pos (fun h => hwaited (hstatus.symm.trans h))]
    refine Or.inl ⟨_, hwaited, fun h => hwaited h.1, ?_⟩
    rw [← hstatus, hobjects, ← hin]

end Fetched

theorem marks_of_listed {request : ExecbufferRequest}
    {prepared : PreparedSubmit} {context : VirglContext}
    (hreserved : (allocateVgpuMemory (commandPagesSize prepared.cmd)
      prepared.driver.vgpuMemory).isSome = true) :
    AllBusy context (prepared.marks request) ↔
      ∀ reads, request.handles = .ok reads →
        AllBusy context (markedIds prepared.cmd reads) := by
  obtain ⟨grant, halloc⟩ := Option.isSome_iff_exists.mp hreserved
  unfold PreparedSubmit.marks
  rw [halloc]
  dsimp only
  split
  · cases request.handles with
    | ok reads => simp
    | _ => simp [AllBusy]
  · rename_i hunlisted
    have hempty : prepared.cmd.numBoHandles = 0 := by
      simpa [UInt32.pos_iff_ne_zero] using hunlisted
    simp [AllBusy, markedIds, hempty]

theorem reserved_iff {size : Nat} {memory next : VgpuMemory}
    {descriptor : MemoryDescriptor}
    (halloc : allocateVgpuMemory size memory = some (descriptor, next))
    (hsize : memory.availableMemorySize < 2 ^ 64) :
    (next.regionBitmap = memory.regionBitmap ∧
      next.availableMemorySize = memory.availableMemorySize) ↔
      size = 0 := by
  obtain ⟨hle, hlocked⟩ := allocateVgpuMemory_eq_some halloc
  obtain ⟨index, _, _, rfl⟩ := allocateLocked_eq_some_iff.mp hlocked
  dsimp only
  rw [sizeTSub_of_le hle hsize]
  constructor
  · intro hsame
    omega
  · intro hzero
    subst hzero
    exact ⟨Bitmap.fill_zero _ _ _, rfl⟩

section NoTrace

variable (addBuf : Nat → Bool) (contextId : UInt32) (driver : Driver)

/-- A submission that returns an error leaves no trace. -/
def SubmitLeavesNoTrace (request : ExecbufferRequest) : Prop :=
  (ctlSubmitCommand addBuf contextId request driver).1 ≠
      .complete .success none →
    Untouched driver (ctlSubmitCommand addBuf contextId request driver).2

/-- The pages of the command can be reserved. -/
def Reservable (cmd : DrmVirtgpuExecbuffer) : Prop :=
  (allocateVgpuMemory (commandPagesSize cmd) driver.vgpuMemory).isSome = true

/-- The submission goes through: every routine that it calls succeeds. -/
def GoesThrough (cmd : DrmVirtgpuExecbuffer) (request : ExecbufferRequest) :
    Prop :=
  FetchesCommand cmd request ∧ Reservable driver cmd ∧
    (0 < cmd.numBoHandles →
      request.handlesBlock = true ∧ ∃ reads, request.handles = .ok reads) ∧
    addBuf driver.pushCount = true

/-- The submission references no object, and if it reserves its pages these
are none and it marks no idle resource. -/
def TakesNothing (context : VirglContext) (cmd : DrmVirtgpuExecbuffer)
    (request : ExecbufferRequest) : Prop :=
  referencedObjects cmd request = [] ∧
    (FetchesCommand cmd request → Reservable driver cmd →
      commandPagesSize cmd = 0 ∧
        ∀ reads, request.handles = .ok reads →
          AllBusy context (markedIds cmd reads))

/-- The submission goes through or fails before it takes anything. -/
def FailsBeforeTaking (request : ExecbufferRequest) : Prop :=
  ∀ cmd context, request.input = .ok cmd →
    getVirglContextFromListUnsafe driver.virglContextList contextId =
      some context →
    GoesThrough addBuf driver cmd request ∨
      TakesNothing driver context cmd request

variable {addBuf contextId driver} {cmd : DrmVirtgpuExecbuffer}
variable {request : ExecbufferRequest} {context : VirglContext}

theorem referenced_iff (objects : List Nat) :
    (∀ object, (driver.reference objects).references object =
      driver.references object) ↔ objects = [] := by
  rw [List.eq_nil_iff_forall_not_mem]
  refine forall_congr' fun object => ?_
  rw [references_reference, ← List.count_eq_zero]
  omega

theorem untouched_reference_iff (objects : List Nat) :
    Untouched driver (driver.reference objects) ↔ objects = [] := by
  constructor
  · intro huntouched
    exact (referenced_iff objects).mp huntouched.references
  · intro hempty
    subst hempty
    exact .refl driver

theorem SubmitEnd.untouched_iff {result : Reply × Driver}
    {prepared : PreparedSubmit}
    (hend : SubmitEnd addBuf request prepared result)
    (hcontext : getVirglContextFromListUnsafe driver.virglContextList
      contextId = some prepared.context)
    (hfence : prepared.outFence =
      (outFenceObjects prepared.cmd request).head?)
    (hfetches : FetchesCommand prepared.cmd request)
    (hdriver : prepared.driver =
      driver.reference (referencedObjects prepared.cmd request))
    (hsize : driver.vgpuMemory.availableMemorySize < 2 ^ 64) :
    Untouched driver result.2 ↔
      TakesNothing driver prepared.context prepared.cmd request := by
  have hid := context_id_of_lookup hcontext
  have hreferences : (∀ object, result.2.references object =
      driver.references object) ↔
      referencedObjects prepared.cmd request = [] := by
    rw [← @referenced_iff driver, ← hdriver]
    exact forall_congr' fun object => by rw [hend.references]
  have hmemory := hend.memory
  have hcontexts := hend.contexts
  have hsame : prepared.driver.vgpuMemory = driver.vgpuMemory := by
    rw [hdriver]
    rfl
  rw [hsame] at hmemory
  -- without an out-fence the marks are unfenced
  have hunfenced : referencedObjects prepared.cmd request = [] →
      prepared.fenceId = 0 := by
    intro hempty
    have hout : outFenceObjects prepared.cmd request = [] := by
      unfold referencedObjects at hempty
      rw [if_pos hfetches.1] at hempty
      exact (List.append_eq_nil_iff.mp hempty).1
    unfold PreparedSubmit.fenceId
    rw [hfence, hout]
    rfl
  have hmarked : referencedObjects prepared.cmd request = [] →
      (result.2.states = driver.states ↔
        AllBusy prepared.context (prepared.marks request)) := by
    intro hempty
    rw [← @marked_states_iff driver contextId _ _ hcontext]
    unfold Driver.states
    rw [hcontexts, hunfenced hempty, hid, hdriver]
    rfl
  unfold TakesNothing Reservable
  cases halloc : allocateVgpuMemory (commandPagesSize prepared.cmd)
      driver.vgpuMemory with
  | none =>
      rw [halloc] at hmemory
      dsimp only at hmemory
      constructor
      · intro huntouched
        exact ⟨hreferences.mp huntouched.references, nofun⟩
      · intro htakes
        refine ⟨by rw [hmemory], by rw [hmemory], ?_,
          hreferences.mpr htakes.1⟩
        rw [hmarked htakes.1]
        unfold PreparedSubmit.marks
        rw [hsame, halloc]
        nofun
  | some grant =>
      obtain ⟨descriptor, next⟩ := grant
      rw [halloc] at hmemory
      dsimp only at hmemory
      have hreserved := reserved_iff halloc hsize
      have hlisted := @marks_of_listed request prepared prepared.context
        (by rw [hsame, halloc]; rfl)
      constructor
      · intro huntouched
        have hempty := hreferences.mp huntouched.references
        refine ⟨hempty, fun _ _ => ⟨hreserved.mp ⟨?_, ?_⟩, ?_⟩⟩
        · rw [← hmemory]
          exact huntouched.bitmap
        · rw [← hmemory]
          exact huntouched.available
        · exact hlisted.mp ((hmarked hempty).mp huntouched.states)
      · rintro ⟨hempty, htakes⟩
        obtain ⟨hzero, hbusy⟩ := htakes hfetches rfl
        obtain ⟨hbitmap, havailable⟩ := hreserved.mpr hzero
        refine ⟨by rw [hmemory, hbitmap], by rw [hmemory, havailable], ?_,
          hreferences.mpr hempty⟩
        exact (hmarked hempty).mpr (hlisted.mpr hbusy)

theorem submitLeavesNoTrace_iff
    (hfails : request.outFence ≠ .error .success)
    (hsize : driver.vgpuMemory.availableMemorySize < 2 ^ 64) :
    SubmitLeavesNoTrace addBuf contextId driver request ↔
      FailsBeforeTaking addBuf contextId driver request := by
  unfold SubmitLeavesNoTrace FailsBeforeTaking
  rw [ctlSubmitCommand_eq]
  cases hinput : request.input with
  | failed code => simp [prepareSubmit, hinput, Untouched.refl]
  | rejected => simp [prepareSubmit, hinput, Untouched.refl]
  | ok cmd =>
      cases hcontext : getVirglContextFromListUnsafe driver.virglContextList
          contextId with
      | none => simp [prepareSubmit, hinput, hcontext, Untouched.refl]
      | some context =>
          have hfound : (∀ found entry, Fetch.ok cmd = .ok found →
              some context = some entry →
              GoesThrough addBuf driver found request ∨
                TakesNothing driver entry found request) ↔
              GoesThrough addBuf driver cmd request ∨
                TakesNothing driver context cmd request := by
            constructor
            · intro h
              exact h cmd context rfl rfl
            · intro h found entry hcmd hentry
              cases hcmd
              cases hentry
              exact h
          rw [hfound]
          rcases prepareSubmit_found hinput hcontext hfails with
            ⟨status, hne, hearly, herror⟩ | ⟨hfetches, hready⟩
          · rw [herror]
            dsimp only
            rw [untouched_reference_iff]
            constructor
            · intro hempty
              exact Or.inr ⟨hempty (by simpa using hne),
                fun hfetches => absurd hfetches hearly⟩
            · rintro (hthrough | htakes) _
              · exact absurd hthrough.1 hearly
              · exact htakes.1
          · rw [hready]
            dsimp only
            have hend := submitPages_end addBuf request
              { context := context
                cmd := cmd
                outFence := (outFenceObjects cmd request).head?
                driver :=
                  driver.reference (referencedObjects cmd request) }
            have hstatus := hend.status
            rw [hend.untouched_iff hcontext rfl hfetches rfl hsize]
            have hthrough : GoesThrough addBuf driver cmd request ↔
                _ := (and_iff_right hfetches).trans hstatus.symm
            rw [hthrough]
            exact imp_iff_not_or.trans (or_congr not_not Iff.rfl)

end NoTrace

section Transfer

variable (addBuf : Nat → Bool) (contextId : UInt32) (toHost : Bool)
variable (request : TransferRequest) (driver : Driver)

/-- The command of the transfer is refused by the queue. -/
def TransferRefused (resourceId : UInt32) : Prop :=
  ∃ cmd context resource, request.input = .ok cmd ∧
    getVirglContextFromListUnsafe driver.virglContextList contextId =
      some context ∧
    getResourceFromListUnsafe context cmd.boHandle = some resource ∧
    resource.id = resourceId ∧ addBuf driver.pushCount = false

/-- A transfer that the queue refuses leaves the event and tells the
caller. -/
def TransferLeavesNoTrace : Prop :=
  ∀ resourceId,
    TransferRefused addBuf contextId request driver resourceId →
      (ctlTransferHost addBuf contextId toHost request driver).2.eventOf
          contextId resourceId = driver.eventOf contextId resourceId ∧
        (ctlTransferHost addBuf contextId toHost request driver).1 ≠
          .complete .success none

theorem transferLeavesNoTrace_iff :
    TransferLeavesNoTrace addBuf contextId toHost request driver ↔
      ∀ resourceId,
        ¬TransferRefused addBuf contextId request driver resourceId := by
  refine forall_congr' fun resourceId => ⟨fun hnotrace hrefused => ?_,
    fun hno hrefused => absurd hrefused hno⟩
  refine (hnotrace hrefused).2 ?_
  obtain ⟨cmd, context, resource, hinput, hcontext, hresource, _, _⟩ :=
    hrefused
  unfold ctlTransferHost
  simp only [hinput, Fetch.andThen, hcontext, hresource]

end Transfer

/-- Exactly when failed submissions and transfers leave no trace. -/
theorem failed_calls_leave_no_trace_iff (addBuf : Nat → Bool)
    (contextId : UInt32) (driver : Driver)
    (hsize : driver.vgpuMemory.availableMemorySize < 2 ^ 64) :
    (∀ request : ExecbufferRequest, request.outFence ≠ .error .success →
      (SubmitLeavesNoTrace addBuf contextId driver request ↔
        FailsBeforeTaking addBuf contextId driver request)) ∧
    ∀ toHost request,
      (TransferLeavesNoTrace addBuf contextId toHost request driver ↔
        ∀ resourceId,
          ¬TransferRefused addBuf contextId request driver resourceId) :=
  ⟨fun _ hfails => submitLeavesNoTrace_iff hfails hsize,
    fun toHost request =>
      transferLeavesNoTrace_iff addBuf contextId toHost request driver⟩

/-- Process 7 has the idle resource 1; the queues take two commands. -/
def nearlyFull : Driver :=
  (runFrom (World.step fun call => decide (call < 2)) World.eightPages
    [.request 7 .initContext, .request 7 (.create 1)]).driver

/-- A submission of resource 1 with the object 3 as out-fence. -/
def signalingSubmission (command : Fetch Unit) (flags : UInt32) :
    ExecbufferRequest where
  input := .ok { flags := flags, size := 64, numBoHandles := 1 }
  inFence := .error .unsuccessful
  waitStatus := .success
  outFence := .ok 3
  command := command
  handles := .ok fun _ => { marked := 1, copied := 1 }
  handlesBlock := true

/-- A submission without fences whose command cannot be locked. -/
theorem failed_calls_leave_no_trace_unlocked :
    SubmitLeavesNoTrace (fun call => decide (call < 2)) 7 nearlyFull
      (signalingSubmission .rejected 0) :=
  ((failed_calls_leave_no_trace_iff (fun call => decide (call < 2)) 7
      nearlyFull (by decide +kernel)).1 _
        (by simp [signalingSubmission])).mpr
    fun cmd context hinput _ => by
      cases hinput
      exact Or.inr ⟨rfl, fun hfetches => nomatch hfetches.2.2⟩

/-- The queue refuses the submission and the transfer. -/
theorem refused_calls_leave_traces :
    ¬SubmitLeavesNoTrace (fun call => decide (call < 2)) 7 nearlyFull
        (signalingSubmission (.ok ()) execbufFenceFdOut) ∧
      ¬TransferLeavesNoTrace (fun call => decide (call < 2)) 7 true
        { input := .ok
            { boHandle := 1
              box := { x := 0, y := 0, z := 0, w := 1, h := 1, d := 1 }
              level := 0
              offset := 0
              stride := 0
              layerStride := 0 } } nearlyFull := by
  constructor
  · rw [submitLeavesNoTrace_iff (by simp [signalingSubmission])
      (by decide +kernel)]
    intro hearly
    rcases hearly _ { id := 7, resourceList := _ } rfl rfl with
      hthrough | htakes
    · exact absurd hthrough.2.2.2 (by decide +kernel)
    · exact absurd htakes.1 (by decide)
  · rw [transferLeavesNoTrace_iff]
    intro haccepted
    exact haccepted 1 ⟨_, { id := 7, resourceList := _ }, _, rfl, rfl, rfl,
      by decide +kernel, by decide +kernel⟩

end VgpuDriver
