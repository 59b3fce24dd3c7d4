import VgpuDriver.Outcome
import VgpuDriver.Sent

namespace VgpuDriver

open Data

/-! `CtlSubmitCommand` in its two halves: what it fetches and references, and
what it reserves, marks and sends. -/

/-- A submission that is ready to reserve its pages. -/
structure PreparedSubmit where
  context : VirglContext
  cmd : DrmVirtgpuExecbuffer
  outFence : Option Nat
  driver : Driver

/-- The first half: the fences and the command buffer. -/
def prepareSubmit (contextId : UInt32) (request : ExecbufferRequest)
    (driver : Driver) : Except (NtStatus × Driver) PreparedSubmit :=
  match request.input with
  | .failed code => .error (.other code, driver)
  | .rejected => .error (.unsuccessful, driver)
  | .ok cmd =>
      match getVirglContextFromListUnsafe driver.virglContextList
          contextId with
      | none => .error (.unsuccessful, driver)
      | some context =>
          let waited := waitInFence cmd request driver
          if waited.1 ≠ .success then .error waited
          else
            match referenceOutFence cmd request waited.2 with
            | (.error status, driver) => .error (status, driver)
            | (.ok outFence, driver) =>
                match request.command with
                | .failed code => .error (.other code, driver)
                | .rejected => .error (.unsuccessful, driver)
                | .ok _ =>
                    .ok
                      { context := context
                        cmd := cmd
                        outFence := outFence
                        driver := driver }

variable (addBuf : Nat → Bool)

theorem ctlSubmitCommand_eq (contextId : UInt32) (request : ExecbufferRequest)
    (driver : Driver) :
    ctlSubmitCommand addBuf contextId request driver =
      match prepareSubmit contextId request driver with
      | .error (status, driver) => (.complete status none, driver)
      | .ok prepared =>
          submitPages addBuf prepared.context prepared.cmd request
            prepared.outFence prepared.driver := by
  unfold ctlSubmitCommand prepareSubmit
  cases request.input with
  | failed code => rfl
  | rejected => rfl
  | ok cmd =>
      simp only [Fetch.andThen]
      cases getVirglContextFromListUnsafe driver.virglContextList
          contextId with
      | none => rfl
      | some context =>
          dsimp only
          by_cases hwaited : (waitInFence cmd request driver).1 ≠ .success
          · rw [if_pos hwaited, if_pos hwaited]
          · rw [if_neg hwaited, if_neg hwaited]
            cases hout : referenceOutFence cmd request
                (waitInFence cmd request driver).2 with
            | mk fence referenced =>
                cases fence with
                | error status => rfl
                | ok outFence => cases request.command <;> rfl

/-- What a submission that is ready has found. -/
structure PreparedSubmit.From (prepared : PreparedSubmit)
    (contextId : UInt32) (request : ExecbufferRequest) (driver : Driver) :
    Prop where
  input : request.input = .ok prepared.cmd
  context : getVirglContextFromListUnsafe driver.virglContextList contextId =
    some prepared.context
  waited : (waitInFence prepared.cmd request driver).1 = .success
  outFence : (referenceOutFence prepared.cmd request
    (waitInFence prepared.cmd request driver).2).1 = .ok prepared.outFence
  command : request.command = .ok ()
  driver : prepared.driver = driver.reference
    (outFenceObjects prepared.cmd request ++
      inFenceObjects prepared.cmd request)

theorem prepareSubmit_ok {contextId : UInt32} {request : ExecbufferRequest}
    {driver : Driver} {prepared : PreparedSubmit}
    (hprepared : prepareSubmit contextId request driver = .ok prepared) :
    prepared.From contextId request driver := by
  unfold prepareSubmit at hprepared
  cases hinput : request.input with
  | failed code => simp [hinput] at hprepared
  | rejected => simp [hinput] at hprepared
  | ok cmd =>
      simp only [hinput] at hprepared
      cases hcontext : getVirglContextFromListUnsafe driver.virglContextList
          contextId with
      | none => simp [hcontext] at hprepared
      | some context =>
          simp only [hcontext] at hprepared
          by_cases hwaited : (waitInFence cmd request driver).1 ≠ .success
          · simp [hwaited] at hprepared
          · rw [if_neg hwaited] at hprepared
            have hreferenced := referenceOutFence_driver cmd request
              (waitInFence cmd request driver).2
            cases hout : referenceOutFence cmd request
                (waitInFence cmd request driver).2 with
            | mk fence referenced =>
                simp only [hout] at hprepared hreferenced
                cases fence with
                | error status => cases hprepared
                | ok outFence =>
                    cases hcommand : request.command with
                    | failed code => simp [hcommand] at hprepared
                    | rejected => simp [hcommand] at hprepared
                    | ok _ =>
                        simp only [hcommand, Except.ok.injEq] at hprepared
                        subst hprepared
                        refine ⟨hinput, hcontext, not_not.mp hwaited,
                          by rw [hout], hcommand, ?_⟩
                        rw [hreferenced, waitInFence_driver,
                          Driver.reference_reference]

theorem PreparedSubmit.From.ready {contextId : UInt32}
    {request : ExecbufferRequest} {driver : Driver}
    {prepared : PreparedSubmit} (h : prepared.From contextId request driver) :
    prepareSubmit contextId request driver = .ok prepared := by
  have hdriver := h.driver
  have houtFence := h.outFence
  have hreferenced := referenceOutFence_driver prepared.cmd request
    (waitInFence prepared.cmd request driver).2
  rw [waitInFence_driver, Driver.reference_reference, ← hdriver,
    ← waitInFence_driver] at hreferenced
  unfold prepareSubmit
  rw [h.input]
  dsimp only
  rw [h.context]
  dsimp only
  rw [if_neg (not_not.mpr h.waited)]
  cases hout : referenceOutFence prepared.cmd request
      (waitInFence prepared.cmd request driver).2 with
  | mk fence referenced =>
      rw [hout] at houtFence hreferenced
      obtain ⟨rfl, rfl⟩ := And.intro houtFence hreferenced
      rw [h.command]

theorem prepareSubmit_error {contextId : UInt32}
    {request : ExecbufferRequest} {driver after : Driver} {status : NtStatus}
    (hprepared : prepareSubmit contextId request driver =
      .error (status, after)) :
    ∃ objects, after = driver.reference objects := by
  unfold prepareSubmit at hprepared
  split at hprepared
  · cases hprepared
    exact ⟨[], rfl⟩
  · cases hprepared
    exact ⟨[], rfl⟩
  · rename_i cmd _
    split at hprepared
    · cases hprepared
      exact ⟨[], rfl⟩
    · dsimp only at hprepared
      have hin := waitInFence_driver cmd request driver
      split at hprepared
      · obtain ⟨rfl, rfl⟩ := Prod.mk.inj (Except.error.inj hprepared)
        exact ⟨_, hin⟩
      · have hout := referenceOutFence_driver cmd request
          (waitInFence cmd request driver).2
        split at hprepared
        · rename_i heq
          cases hprepared
          rw [heq, hin, Driver.reference_reference] at hout
          exact ⟨_, hout⟩
        · rename_i heq
          rw [heq, hin, Driver.reference_reference] at hout
          split at hprepared
          · cases hprepared
            exact ⟨_, hout⟩
          · cases hprepared
            exact ⟨_, hout⟩
          · cases hprepared

/-- The size of the pages of the command. -/
def commandPagesSize (cmd : DrmVirtgpuExecbuffer) : Nat :=
  (roundUp cmd.size 0x1000).toNat

/-- The state with the pages reserved and the fence id drawn. -/
def PreparedSubmit.fenced (prepared : PreparedSubmit)
    (memory : MemoryDescriptor) (vgpuMemory : VgpuMemory) : UInt64 × Driver :=
  fencedCommand prepared.outFence prepared.cmd memory vgpuMemory
    prepared.driver

/-- How the second half ends, with what it found on the way. -/
inductive SubmitEnd (request : ExecbufferRequest)
    (prepared : PreparedSubmit) : Reply × Driver → Prop
  | exhausted
      (halloc : allocateVgpuMemory (commandPagesSize prepared.cmd)
        prepared.driver.vgpuMemory = none) :
      SubmitEnd request prepared
        (.complete .unsuccessful none, prepared.driver)
  | unread (memory : MemoryDescriptor) (vgpuMemory : VgpuMemory)
      (status : NtStatus)
      (halloc : allocateVgpuMemory (commandPagesSize prepared.cmd)
        prepared.driver.vgpuMemory = some (memory, vgpuMemory))
      (hlisted : 0 < prepared.cmd.numBoHandles)
      (hhandles : ∀ reads, request.handles ≠ .ok reads)
      (hstatus : status ≠ .success) :
      SubmitEnd request prepared
        (.complete status none, (prepared.fenced memory vgpuMemory).2)
  | uncopied (memory : MemoryDescriptor) (vgpuMemory : VgpuMemory)
      (reads : Nat → HandleRead)
      (halloc : allocateVgpuMemory (commandPagesSize prepared.cmd)
        prepared.driver.vgpuMemory = some (memory, vgpuMemory))
      (hlisted : 0 < prepared.cmd.numBoHandles)
      (hhandles : request.handles = .ok reads)
      (hblock : request.handlesBlock = false) :
      SubmitEnd request prepared
        (.complete .insufficientResources none,
          (prepared.fenced memory vgpuMemory).2.modifyContext
            prepared.context.id
            (updateResourceState (markedIds prepared.cmd reads) true
              (prepared.fenced memory vgpuMemory).1))
  | listed (memory : MemoryDescriptor) (vgpuMemory : VgpuMemory)
      (reads : Nat → HandleRead)
      (halloc : allocateVgpuMemory (commandPagesSize prepared.cmd)
        prepared.driver.vgpuMemory = some (memory, vgpuMemory))
      (hlisted : 0 < prepared.cmd.numBoHandles)
      (hhandles : request.handles = .ok reads)
      (hblock : request.handlesBlock = true) (status : NtStatus)
      (after : Driver)
      (hsubmitted : submitCommand addBuf prepared.context.id memory
        (commandPagesSize prepared.cmd) prepared.cmd.size
        (some (copiedIds prepared.cmd reads))
        (prepared.fenced memory vgpuMemory).1 prepared.outFence
        (markedCommand prepared.context prepared.cmd reads
          (prepared.fenced memory vgpuMemory)) = (status, after)) :
      SubmitEnd request prepared (.complete status none, after)
  | unlisted (memory : MemoryDescriptor) (vgpuMemory : VgpuMemory)
      (halloc : allocateVgpuMemory (commandPagesSize prepared.cmd)
        prepared.driver.vgpuMemory = some (memory, vgpuMemory))
      (hunlisted : ¬0 < prepared.cmd.numBoHandles) (status : NtStatus)
      (after : Driver)
      (hsubmitted : submitCommand addBuf prepared.context.id memory
        (commandPagesSize prepared.cmd) prepared.cmd.size none
        (prepared.fenced memory vgpuMemory).1 prepared.outFence
        (prepared.fenced memory vgpuMemory).2 = (status, after)) :
      SubmitEnd request prepared (.complete status none, after)

theorem submitPages_end (request : ExecbufferRequest)
    (prepared : PreparedSubmit) :
    SubmitEnd addBuf request prepared
      (submitPages addBuf prepared.context prepared.cmd request
        prepared.outFence prepared.driver) := by
  unfold submitPages
  dsimp only
  cases halloc : allocateVgpuMemory (roundUp prepared.cmd.size 0x1000).toNat
      prepared.driver.vgpuMemory with
  | none => exact .exhausted halloc
  | some grant =>
      obtain ⟨memory, vgpuMemory⟩ := grant
      dsimp only
      split
      · rename_i hlisted
        cases hhandles : request.handles with
        | failed code =>
            exact .unread memory vgpuMemory _ halloc hlisted
              (by simp [hhandles]) nofun
        | rejected =>
            exact .unread memory vgpuMemory _ halloc hlisted
              (by simp [hhandles]) nofun
        | ok reads =>
            simp only [Fetch.andThen]
            split
            · rename_i hblock
              exact .uncopied memory vgpuMemory reads halloc hlisted hhandles
                (by simpa using hblock)
            · rename_i hblock
              exact .listed memory vgpuMemory reads halloc hlisted hhandles
                (by simpa using hblock) _ _ rfl
      · rename_i hunlisted
        exact .unlisted memory vgpuMemory halloc hunlisted _ _ rfl

/-- The queue decides about the status of a submission. -/
theorem submitCommand_status (virglContextId : UInt32)
    (command : MemoryDescriptor) (commandBufSize : Nat)
    (commandSize : UInt32) (resourceIds : Option (List UInt32))
    (fenceId : UInt64) (fenceObject : Option Nat) (driver : Driver) :
    (submitCommand addBuf virglContextId command commandBufSize commandSize
      resourceIds fenceId fenceObject driver).1 = .success ↔
      addBuf driver.pushCount = true := by
  change (if addBuf driver.pushCount then NtStatus.success
    else .unsuccessful) = .success ↔ _
  cases addBuf driver.pushCount <;> simp

/-- The ids that the second half passes to `UpdateResourceState`. -/
def PreparedSubmit.marks (prepared : PreparedSubmit)
    (request : ExecbufferRequest) : List UInt32 :=
  match allocateVgpuMemory (commandPagesSize prepared.cmd)
      prepared.driver.vgpuMemory with
  | none => []
  | some _ =>
      if 0 < prepared.cmd.numBoHandles then
        match request.handles with
        | .ok reads => markedIds prepared.cmd reads
        | _ => []
      else []

/-- The fence id that the second half draws. -/
def PreparedSubmit.fenceId (prepared : PreparedSubmit) : UInt64 :=
  (drawFenceId prepared.outFence prepared.driver).1

/-- The ids that a submission passes to `UpdateResourceState`. -/
def submitMarks (contextId : UInt32) (request : ExecbufferRequest)
    (driver : Driver) : List UInt32 :=
  match prepareSubmit contextId request driver with
  | .error _ => []
  | .ok prepared => prepared.marks request

section Fenced

variable {prepared : PreparedSubmit}

@[simp] theorem fenced_fenceId (memory : MemoryDescriptor)
    (vgpuMemory : VgpuMemory) :
    (prepared.fenced memory vgpuMemory).1 = prepared.fenceId := by
  unfold PreparedSubmit.fenced PreparedSubmit.fenceId fencedCommand
  cases prepared.outFence <;> rfl

@[simp] theorem fenced_contexts (memory : MemoryDescriptor)
    (vgpuMemory : VgpuMemory) :
    (prepared.fenced memory vgpuMemory).2.virglContextList =
      prepared.driver.virglContextList := by
  simp [PreparedSubmit.fenced, fencedCommand]

@[simp] theorem fenced_vgpuMemory (memory : MemoryDescriptor)
    (vgpuMemory : VgpuMemory) :
    (prepared.fenced memory vgpuMemory).2.vgpuMemory = vgpuMemory := by
  simp [PreparedSubmit.fenced, fencedCommand]

@[simp] theorem fenced_pushCount (memory : MemoryDescriptor)
    (vgpuMemory : VgpuMemory) :
    (prepared.fenced memory vgpuMemory).2.pushCount =
      prepared.driver.pushCount := by
  simp [PreparedSubmit.fenced, fencedCommand]

@[simp] theorem fenced_history (memory : MemoryDescriptor)
    (vgpuMemory : VgpuMemory) :
    (prepared.fenced memory vgpuMemory).2.history =
      .copied memory.virtualAddress prepared.cmd.size.toNat ::
        .granted prepared.driver.pushCount memory
          (commandPagesSize prepared.cmd) :: prepared.driver.history := by
  simp [PreparedSubmit.fenced, fencedCommand, commandPagesSize]

theorem fenced_sends (memory : MemoryDescriptor) (vgpuMemory : VgpuMemory) :
    Sends [] prepared.driver (prepared.fenced memory vgpuMemory).2 := by
  refine .of_frame ?_ ?_ (fenced_pushCount memory vgpuMemory)
  · rw [fenced_history]
    exact (List.filterMap_cons_none rfl).trans
      (List.filterMap_cons_none rfl)
  · simp [PreparedSubmit.fenced, fencedCommand]

/-- The marking loop sends nothing. -/
theorem marked_sends (memory : MemoryDescriptor) (vgpuMemory : VgpuMemory)
    (reads : Nat → HandleRead) :
    Sends [] prepared.driver
      (markedCommand prepared.context prepared.cmd reads
        (prepared.fenced memory vgpuMemory)) :=
  (fenced_sends memory vgpuMemory).trans (.of_frame rfl rfl rfl)

theorem marked_pushCount (memory : MemoryDescriptor)
    (vgpuMemory : VgpuMemory) (reads : Nat → HandleRead) :
    (markedCommand prepared.context prepared.cmd reads
      (prepared.fenced memory vgpuMemory)).pushCount =
        prepared.driver.pushCount :=
  fenced_pushCount memory vgpuMemory

end Fenced

theorem modifyContext_nothing (contextId : UInt32) (busy : Bool)
    (fenceId : UInt64) (driver : Driver) :
    (driver.modifyContext contextId
        (updateResourceState [] busy fenceId)).virglContextList =
      driver.virglContextList :=
  modifyFirst_of_fixed fun _ _ => rfl

namespace SubmitEnd

variable {addBuf} {request : ExecbufferRequest} {prepared : PreparedSubmit}
variable {result : Reply × Driver}

theorem status (hend : SubmitEnd addBuf request prepared result) :
    result.1 = .complete .success none ↔
      (allocateVgpuMemory (commandPagesSize prepared.cmd)
        prepared.driver.vgpuMemory).isSome = true ∧
      (0 < prepared.cmd.numBoHandles →
        request.handlesBlock = true ∧
          ∃ reads, request.handles = .ok reads) ∧
      addBuf prepared.driver.pushCount = true := by
  cases hend with
  | exhausted halloc => simp [halloc]
  | unread memory vgpuMemory status halloc hlisted hhandles hstatus =>
      simp [hlisted, hhandles, hstatus]
  | uncopied memory vgpuMemory reads halloc hlisted hhandles hblock =>
      simp [hlisted, hblock]
  | listed memory vgpuMemory reads halloc hlisted hhandles hblock status
      after hsubmitted =>
      have hstatus := submitCommand_status addBuf prepared.context.id memory
        (commandPagesSize prepared.cmd) prepared.cmd.size
        (some (copiedIds prepared.cmd reads))
        (prepared.fenced memory vgpuMemory).1 prepared.outFence
        (markedCommand prepared.context prepared.cmd reads
          (prepared.fenced memory vgpuMemory))
      rw [hsubmitted] at hstatus
      simp only [Reply.complete.injEq, and_true, halloc, hlisted, hhandles,
        hblock, hstatus]
      simp [markedCommand]
  | unlisted memory vgpuMemory halloc hunlisted status after hsubmitted =>
      have hstatus := submitCommand_status addBuf prepared.context.id memory
        (commandPagesSize prepared.cmd) prepared.cmd.size none
        (prepared.fenced memory vgpuMemory).1 prepared.outFence
        (prepared.fenced memory vgpuMemory).2
      rw [hsubmitted] at hstatus
      simp only [Reply.complete.injEq, and_true, halloc, hunlisted, hstatus]
      simp

theorem memory (hend : SubmitEnd addBuf request prepared result) :
    result.2.vgpuMemory =
      match allocateVgpuMemory (commandPagesSize prepared.cmd)
          prepared.driver.vgpuMemory with
      | none => prepared.driver.vgpuMemory
      | some (_, vgpuMemory) => vgpuMemory := by
  cases hend with
  | exhausted halloc => rw [halloc]
  | unread memory vgpuMemory status halloc hlisted hhandles hstatus =>
      rw [halloc]
      exact fenced_vgpuMemory memory vgpuMemory
  | uncopied memory vgpuMemory reads halloc hlisted hhandles hblock =>
      rw [halloc]
      exact fenced_vgpuMemory memory vgpuMemory
  | listed memory vgpuMemory reads halloc hlisted hhandles hblock status
      after hsubmitted =>
      have hafter := congrArg Prod.snd hsubmitted
      rw [halloc]
      dsimp only at hafter ⊢
      rw [← hafter, (submitCommand_frame ..).2.1]
      exact fenced_vgpuMemory memory vgpuMemory
  | unlisted memory vgpuMemory halloc hunlisted status after hsubmitted =>
      have hafter := congrArg Prod.snd hsubmitted
      rw [halloc]
      dsimp only at hafter ⊢
      rw [← hafter, (submitCommand_frame ..).2.1]
      exact fenced_vgpuMemory memory vgpuMemory

theorem contexts (hend : SubmitEnd addBuf request prepared result) :
    result.2.virglContextList =
      (prepared.driver.modifyContext prepared.context.id
        (updateResourceState (prepared.marks request) true
          prepared.fenceId)).virglContextList := by
  cases hend with
  | exhausted halloc =>
      simp only [PreparedSubmit.marks, halloc, modifyContext_nothing]
  | unread memory vgpuMemory status halloc hlisted hhandles hstatus =>
      cases hfetch : request.handles with
      | ok reads => exact absurd hfetch (hhandles reads)
      | _ =>
          simp only [PreparedSubmit.marks, halloc, hlisted, hfetch, if_true,
            modifyContext_nothing, fenced_contexts]
  | uncopied memory vgpuMemory reads halloc hlisted hhandles hblock =>
      simp only [PreparedSubmit.marks, halloc, hlisted, hhandles, if_true,
        Driver.modifyContext, fenced_contexts, fenced_fenceId]
  | listed memory vgpuMemory reads halloc hlisted hhandles hblock status
      after hsubmitted =>
      have hafter := congrArg Prod.snd hsubmitted
      dsimp only at hafter ⊢
      rw [← hafter, (submitCommand_frame ..).1]
      simp only [PreparedSubmit.marks, halloc, hlisted, hhandles, if_true,
        markedCommand, Driver.modifyContext, Driver.log, fenced_contexts,
        fenced_fenceId]
  | unlisted memory vgpuMemory halloc hunlisted status after hsubmitted =>
      have hafter := congrArg Prod.snd hsubmitted
      dsimp only at hafter ⊢
      rw [← hafter, (submitCommand_frame ..).1]
      simp only [PreparedSubmit.marks, halloc, hunlisted, if_false,
        modifyContext_nothing, fenced_contexts]

end SubmitEnd

theorem submitMarks_contexts (contextId : UInt32)
    (request : ExecbufferRequest) (driver : Driver) :
    ∃ fenceId,
      (ctlSubmitCommand addBuf contextId request driver).2.virglContextList =
        (driver.modifyContext contextId (updateResourceState
          (submitMarks contextId request driver) true
          fenceId)).virglContextList := by
  rw [ctlSubmitCommand_eq]
  unfold submitMarks
  cases hprepared : prepareSubmit contextId request driver with
  | error failure =>
      obtain ⟨status, after⟩ := failure
      obtain ⟨objects, rfl⟩ := prepareSubmit_error hprepared
      exact ⟨0, (modifyContext_nothing contextId true 0 driver).symm⟩
  | ok prepared =>
      have hfrom := prepareSubmit_ok hprepared
      have hend := submitPages_end addBuf request prepared
      refine ⟨prepared.fenceId, hend.contexts.trans ?_⟩
      rw [context_id_of_lookup hfrom.context, hfrom.driver]
      rfl

end VgpuDriver
