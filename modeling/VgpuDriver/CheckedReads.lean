import VgpuDriver.ContextInit
import VgpuDriver.Submission

namespace VgpuDriver

open Data

/-! User arrays that the handlers read more than once.  The process may
change them between two reads. -/

section Submission

variable {addBuf : Nat → Bool} {contextId : UInt32}
variable {request : ExecbufferRequest} {driver : Driver}
variable {prepared : PreparedSubmit}

theorem PreparedSubmit.From.sends (h : prepared.From contextId request driver) :
    Sends [] driver prepared.driver := by
  rw [h.driver]
  exact .of_frame (reference_history _ _) rfl rfl

/-- The driver with this resource as the only one of the context. -/
def Driver.withOnly (contextId : UInt32) (resource : VirglResource)
    (driver : Driver) : Driver :=
  driver.modifyContext contextId fun context =>
    { context with resourceList := [resource] }

/-- The id is in the copy of the handle array that the buffer carries. -/
def VgpuBuffer.Stores (buffer : VgpuBuffer) (id : UInt32) : Prop :=
  ∃ ids, buffer.resourceIds = some ids ∧ id ∈ ids

/-- Whatever has happened in between, the completion sets a resource with this
id idle, unless a newer fence has taken it. -/
def VgpuBuffer.SetsIdle (buffer : VgpuBuffer) (id : UInt32) : Prop :=
  ∀ (later : Driver) (info : MapInfo) (mapAddress : Option Nat)
    (context : VirglContext) (resource : VirglResource),
    getVirglContextFromListUnsafe later.virglContextList
        buffer.pBuf.hdr.ctxId = some context →
      getResourceFromListUnsafe context id = some resource →
      resource.Accepts buffer.pBuf.hdr.fenceId →
        (completeBuffer buffer info mapAddress later).eventOf
          buffer.pBuf.hdr.ctxId id = some true

/-- The event after `UpdateResourceState`, by the lookup before it. -/
theorem eventOf_updateResourceState (contextId id : UInt32)
    (ids : List UInt32) (busy : Bool) (fenceId : UInt64) (driver : Driver) :
    (driver.modifyContext contextId
        (updateResourceState ids busy fenceId)).eventOf contextId id =
      (getVirglContextFromListUnsafe driver.virglContextList
        contextId).bind fun context =>
          (getResourceFromListUnsafe context id).map fun resource =>
            (if id ∈ ids then resource.updateState busy fenceId
              else resource).stateEvent := by
  unfold Driver.eventOf
  rw [lookup_modifyContext (updateResourceState_id ids busy fenceId),
    Option.bind_map]
  congr 1
  funext context
  simp only [Function.comp_apply,
    getResourceFromListUnsafe_updateResourceState]
  split
  · rw [Option.map_map]
    rfl
  · rfl

theorem eventOf_of_contexts {before after : Driver}
    (hcontexts : after.virglContextList = before.virglContextList)
    (contextId id : UInt32) :
    after.eventOf contextId id = before.eventOf contextId id := by
  unfold Driver.eventOf
  rw [hcontexts]

/-- The completion of a SUBMIT_3D sets idle what its buffer stores. -/
theorem setsIdle_iff {buffer : VgpuBuffer} {size : UInt32}
    (hbody : buffer.pBuf.body = .submit3d size) (id : UInt32) :
    buffer.SetsIdle id ↔ buffer.Stores id := by
  have hupdated : buffer.updatedIds = buffer.resourceIds.getD [] := by
    simp [VgpuBuffer.updatedIds, hbody]
  have hstores : buffer.Stores id ↔ id ∈ buffer.updatedIds := by
    rw [hupdated]
    unfold VgpuBuffer.Stores
    cases buffer.resourceIds <;> simp
  have hevent : ∀ (later : Driver) (info : MapInfo)
      (mapAddress : Option Nat),
      (completeBuffer buffer info mapAddress later).eventOf
          buffer.pBuf.hdr.ctxId id =
        (later.modifyContext buffer.pBuf.hdr.ctxId
          (updateResourceState buffer.updatedIds false
            buffer.pBuf.hdr.fenceId)).eventOf buffer.pBuf.hdr.ctxId id := by
    intro later info mapAddress
    have hcompletion : buffer.completion info mapAddress =
        updateResourceState buffer.updatedIds false
          buffer.pBuf.hdr.fenceId := by
      simp [VgpuBuffer.completion, VgpuBuffer.mappedId, hbody]
    refine eventOf_of_contexts ?_ _ _
    rw [completeBuffer_contexts, hcompletion]
  rw [hstores]
  constructor
  · intro h
    by_contra hmissing
    -- a busy resource that no fence has taken stays busy
    have hidle := h
      { World.eightPages.driver with
        virglContextList :=
          [{ id := buffer.pBuf.hdr.ctxId
             resourceList := [{ IoRequest.poolRecord with id := id }] }] }
      { gpa := 0, size := 0 } none _ _ (List.find?_cons_of_pos (by simp))
      (List.find?_cons_of_pos (by simp)) (Or.inr UInt64.zero_le)
    rw [hevent, eventOf_updateResourceState] at hidle
    simp [getVirglContextFromListUnsafe, getResourceFromListUnsafe, hmissing,
      IoRequest.poolRecord] at hidle
  · intro hmem later info mapAddress context resource hcontext hresource
      haccepts
    rw [hevent, eventOf_updateResourceState, hcontext, Option.bind_some,
      hresource, Option.map_some, if_pos hmem,
      VirglResource.updateState_stateEvent haccepts]
    rfl

/-- The ids that the second half copies for the completion. -/
def PreparedSubmit.copies (prepared : PreparedSubmit)
    (request : ExecbufferRequest) : List UInt32 :=
  match allocateVgpuMemory (commandPagesSize prepared.cmd)
      prepared.driver.vgpuMemory with
  | none => []
  | some _ =>
      if 0 < prepared.cmd.numBoHandles then
        match request.handles with
        | .ok reads => copiedIds prepared.cmd reads
        | _ => []
      else []

theorem SubmitEnd.sends {result : Reply × Driver}
    (hend : SubmitEnd addBuf request prepared result) :
    ∃ new, Sends new prepared.driver result.2 ∧
      (∀ push ∈ new, ∃ size, push.2.pBuf.body = .submit3d size) ∧
      ∀ id, (∃ push ∈ new, push.2.Stores id) ↔
        id ∈ if addBuf prepared.driver.pushCount = true ∧
            request.handlesBlock = true then
          prepared.copies request
        else [] := by
  cases hend with
  | exhausted halloc =>
      refine ⟨[], .of_frame rfl rfl rfl, List.forall_mem_nil _, ?_⟩
      simp [PreparedSubmit.copies, halloc]
  | unread memory vgpuMemory status halloc hlisted hhandles hstatus =>
      refine ⟨[], fenced_sends memory vgpuMemory, List.forall_mem_nil _, ?_⟩
      cases hfetch : request.handles with
      | ok reads => exact absurd hfetch (hhandles reads)
      | _ => simp [PreparedSubmit.copies, halloc, hfetch]
  | uncopied memory vgpuMemory reads halloc hlisted hhandles hblock =>
      refine ⟨[], ?_, List.forall_mem_nil _, by simp [hblock]⟩
      exact (fenced_sends memory vgpuMemory).trans (.of_frame rfl rfl rfl)
  | listed memory vgpuMemory reads halloc hlisted hhandles hblock status
      after hsubmitted =>
      have hsends := (@marked_sends prepared memory vgpuMemory
        reads).trans (submitCommand_sends addBuf
        prepared.context.id memory (commandPagesSize prepared.cmd)
        prepared.cmd.size (some (copiedIds prepared.cmd reads))
        (prepared.fenced memory vgpuMemory).1 prepared.outFence _)
      rw [hsubmitted] at hsends
      rw [marked_pushCount] at hsends
      refine ⟨_, hsends, ?_, ?_⟩
      · intro push hpush
        have hmem := List.mem_of_mem_filter hpush
        rw [List.mem_singleton] at hmem
        rw [hmem]
        exact ⟨_, rfl⟩
      · intro id
        cases hpush : addBuf prepared.driver.pushCount with
        | false => simp [acceptedOf, submitBuffer, hpush]
        | true =>
            simp [acceptedOf, submitBuffer, hpush, halloc, hhandles, hlisted,
              hblock, VgpuBuffer.Stores, PreparedSubmit.copies]
  | unlisted memory vgpuMemory halloc hunlisted status after hsubmitted =>
      have hsends := (@fenced_sends prepared memory
        vgpuMemory).trans (submitCommand_sends addBuf prepared.context.id
          memory (commandPagesSize prepared.cmd) prepared.cmd.size none
          (prepared.fenced memory vgpuMemory).1 prepared.outFence _)
      rw [hsubmitted] at hsends
      have hpushed : ∀ push ∈ acceptedOf addBuf [(Queue.command,
          submitBuffer prepared.context.id memory
            (commandPagesSize prepared.cmd) prepared.cmd.size none
            (prepared.fenced memory vgpuMemory).1 prepared.outFence
            (prepared.fenced memory vgpuMemory).2.pushCount)],
          push.2.pBuf.body = .submit3d prepared.cmd.size ∧
            push.2.resourceIds = none := by
        intro push hpush
        have hmem := List.mem_of_mem_filter hpush
        rw [List.mem_singleton] at hmem
        rw [hmem]
        exact ⟨rfl, rfl⟩
      refine ⟨_, hsends, fun push hpush => ⟨_, (hpushed push hpush).1⟩, ?_⟩
      intro id
      simp only [PreparedSubmit.copies, halloc, hunlisted, if_false, ite_self]
      refine iff_of_false ?_ List.not_mem_nil
      rintro ⟨push, hpush, ids, hids, _⟩
      rw [(hpushed push hpush).2] at hids
      cases hids

theorem prepareSubmit_error_sends {after : Driver} {status : NtStatus}
    (hprepared : prepareSubmit contextId request driver =
      .error (status, after)) : Sends [] driver after := by
  obtain ⟨objects, rfl⟩ := prepareSubmit_error hprepared
  exact .of_frame (reference_history _ _) rfl rfl

theorem mem_markedIds {cmd : DrmVirtgpuExecbuffer} {reads : Nat → HandleRead}
    {id : UInt32} :
    id ∈ markedIds cmd reads ↔
      ∃ slot < cmd.numBoHandles.toNat, (reads slot).marked = id := by
  simp [markedIds]

theorem mem_copiedIds {cmd : DrmVirtgpuExecbuffer} {reads : Nat → HandleRead}
    {id : UInt32} :
    id ∈ copiedIds cmd reads ↔
      ∃ slot < cmd.numBoHandles.toNat, (reads slot).copied = id := by
  simp [copiedIds]

theorem waitInFence_status_congr (cmd : DrmVirtgpuExecbuffer)
    (request : ExecbufferRequest) (before after : Driver) :
    (waitInFence cmd request after).1 = (waitInFence cmd request before).1 := by
  unfold waitInFence
  split
  · cases request.inFence <;> rfl
  · rfl

theorem referenceOutFence_object_congr (cmd : DrmVirtgpuExecbuffer)
    (request : ExecbufferRequest) (before after : Driver) :
    (referenceOutFence cmd request after).1 =
      (referenceOutFence cmd request before).1 := by
  unfold referenceOutFence
  split
  · cases request.outFence <;> rfl
  · rfl

theorem mem_submitMarks {id : UInt32} :
    id ∈ submitMarks contextId request driver ↔
      ∃ prepared : PreparedSubmit, prepared.From contextId request driver ∧
        id ∈ prepared.marks request := by
  unfold submitMarks
  constructor
  · intro hmem
    split at hmem
    · cases hmem
    · rename_i prepared hprepared
      exact ⟨prepared, prepareSubmit_ok hprepared, hmem⟩
  · rintro ⟨prepared, hfrom, hmem⟩
    rw [hfrom.ready]
    exact hmem

/-- Up to the marking loop a submission looks at its context and at the vgpu
memory only. -/
theorem mem_submitMarks_of {before after : Driver} {id : UInt32}
    (hcontext : ∀ context,
      getVirglContextFromListUnsafe before.virglContextList contextId =
          some context →
        ∃ other, getVirglContextFromListUnsafe after.virglContextList
          contextId = some other)
    (hmemory : after.vgpuMemory = before.vgpuMemory)
    (hmem : id ∈ submitMarks contextId request before) :
    id ∈ submitMarks contextId request after := by
  obtain ⟨prepared, hfrom, hmarks⟩ := mem_submitMarks.mp hmem
  obtain ⟨other, hother⟩ := hcontext prepared.context hfrom.context
  let moved : PreparedSubmit :=
    { prepared with
      context := other
      driver := after.reference
        (outFenceObjects prepared.cmd request ++
          inFenceObjects prepared.cmd request) }
  have hmoved : moved.From contextId request after :=
    { input := hfrom.input
      context := hother
      waited := (waitInFence_status_congr ..).trans hfrom.waited
      outFence := (referenceOutFence_object_congr ..).trans hfrom.outFence
      command := hfrom.command
      driver := rfl }
  have hsame : moved.driver.vgpuMemory = prepared.driver.vgpuMemory := by
    rw [hfrom.driver]
    exact hmemory
  refine mem_submitMarks.mpr ⟨moved, hmoved, ?_⟩
  unfold PreparedSubmit.marks at hmarks ⊢
  rw [hsame]
  exact hmarks

theorem lookup_withOnly (contextId : UInt32) (resource : VirglResource)
    (driver : Driver) :
    getVirglContextFromListUnsafe
        (driver.withOnly contextId resource).virglContextList contextId =
      (getVirglContextFromListUnsafe driver.virglContextList contextId).map
        fun context => { context with resourceList := [resource] } :=
  lookup_modifyContext fun _ => rfl

theorem mem_submitMarks_withOnly (resource : VirglResource) {id : UInt32} :
    id ∈ submitMarks contextId request
        (driver.withOnly contextId resource) ↔
      id ∈ submitMarks contextId request driver := by
  have hlookup := lookup_withOnly contextId resource driver
  constructor
  · refine mem_submitMarks_of (fun context hcontext => ?_) rfl
    rw [hlookup] at hcontext
    obtain ⟨other, hother, _⟩ := Option.map_eq_some_iff.mp hcontext
    exact ⟨other, hother⟩
  · refine mem_submitMarks_of (fun context hcontext => ?_) rfl
    rw [hlookup, hcontext]
    exact ⟨_, rfl⟩

variable (addBuf contextId request driver)

/-- The call makes an idle resource with this id busy; as many ids have no
resource, this is asked of one put there. -/
def MarksBusy (id : UInt32) : Prop :=
  ∀ resource : VirglResource, resource.id = id → resource.fenceId = 0 →
    resource.stateEvent = true →
      (ctlSubmitCommand addBuf contextId request
        (driver.withOnly contextId resource)).2.eventOf contextId id =
          some false

/-- The ids marked busy are those stored for the completion, and the
completion sets just these idle. -/
def MarksCompleted : Prop :=
  ∀ new, (ctlSubmitCommand addBuf contextId request driver).2.pushes =
      driver.pushes ++ new →
    (∀ id, MarksBusy addBuf contextId request driver id ↔
        ∃ push ∈ new, push.2.Stores id) ∧
      ∀ push ∈ new, ∀ id, push.2.Stores id ↔ push.2.SetsIdle id

theorem marksBusy_iff (id : UInt32) :
    MarksBusy addBuf contextId request driver id ↔
      id ∈ submitMarks contextId request driver := by
  have hevent : ∀ resource : VirglResource, resource.id = id →
      resource.fenceId = 0 →
      (ctlSubmitCommand addBuf contextId request
        (driver.withOnly contextId resource)).2.eventOf contextId id =
      (getVirglContextFromListUnsafe driver.virglContextList
        contextId).map fun _ =>
          if id ∈ submitMarks contextId request driver then false
          else resource.stateEvent := by
    intro resource hid hfence
    obtain ⟨fenceId, hcontexts⟩ := submitMarks_contexts addBuf contextId
      request (driver.withOnly contextId resource)
    rw [eventOf_of_contexts hcontexts, eventOf_updateResourceState,
      lookup_withOnly]
    simp only [mem_submitMarks_withOnly]
    cases getVirglContextFromListUnsafe driver.virglContextList contextId with
    | none => rfl
    | some context =>
        have hfound : getResourceFromListUnsafe
            { context with resourceList := [resource] } id =
              some resource := List.find?_cons_of_pos (by simpa using hid)
        have haccepts : resource.Accepts fenceId :=
          Or.inr (hfence ▸ UInt64.zero_le)
        simp only [Option.map_some, Option.bind_some, hfound]
        split
        · rw [VirglResource.updateState_stateEvent haccepts]
          rfl
        · rfl
  constructor
  · intro h
    by_contra hmissing
    have hkept := h
      { IoRequest.poolRecord with id := id, stateEvent := true } rfl rfl rfl
    rw [hevent _ rfl rfl] at hkept
    simp [hmissing] at hkept
  · intro hmem resource hid hfence _
    obtain ⟨prepared, hfrom, _⟩ := mem_submitMarks.mp hmem
    rw [hevent resource hid hfence, hfrom.context, Option.map_some,
      if_pos hmem]

/-- A submission that gets to the marking loop with handles also gets to the
queue, and both passes over the handle array see the same set of ids. -/
def HandlesStable : Prop :=
  ∀ prepared, prepareSubmit contextId request driver = .ok prepared →
    (allocateVgpuMemory (commandPagesSize prepared.cmd)
      prepared.driver.vgpuMemory).isSome = true →
    0 < prepared.cmd.numBoHandles →
    ∀ reads, request.handles = .ok reads →
      request.handlesBlock = true ∧ addBuf driver.pushCount = true ∧
        ∀ id, (∃ slot < prepared.cmd.numBoHandles.toNat,
            (reads slot).marked = id) ↔
          ∃ slot < prepared.cmd.numBoHandles.toNat,
            (reads slot).copied = id

theorem marksCompleted_iff {new : List (Queue × VgpuBuffer)}
    (hsends : Sends new driver
      (ctlSubmitCommand addBuf contextId request driver).2)
    (hsubmits : ∀ push ∈ new, ∃ size, push.2.pBuf.body = .submit3d size) :
    MarksCompleted addBuf contextId request driver ↔
      ∀ id, id ∈ submitMarks contextId request driver ↔
        ∃ push ∈ new, push.2.Stores id := by
  constructor
  · intro h id
    rw [← marksBusy_iff addBuf]
    exact (h new hsends.pushes).1 id
  · intro h other hother
    rw [hsends.pushes] at hother
    rw [← List.append_cancel_left hother]
    refine ⟨fun id => ?_, fun push hpush id => ?_⟩
    · rw [marksBusy_iff]
      exact h id
    · obtain ⟨size, hbody⟩ := hsubmits push hpush
      exact (setsIdle_iff hbody id).symm

theorem marks_completed_iff :
    MarksCompleted addBuf contextId request driver ↔
      HandlesStable addBuf contextId request driver := by
  have heq := ctlSubmitCommand_eq addBuf contextId request driver
  cases hprepared : prepareSubmit contextId request driver with
  | error failure =>
      obtain ⟨status, after⟩ := failure
      simp only [hprepared] at heq
      have hsends := prepareSubmit_error_sends hprepared
      have hnew : Sends [] driver
          (ctlSubmitCommand addBuf contextId request driver).2 := by
        rw [heq]
        exact hsends
      rw [marksCompleted_iff addBuf contextId request driver hnew
        (List.forall_mem_nil _)]
      refine iff_of_true ?_ ?_
      · simp [submitMarks, hprepared]
      · intro prepared hok
        rw [hprepared] at hok
        cases hok
  | ok prepared =>
      simp only [hprepared] at heq
      have hfrom := prepareSubmit_ok hprepared
      obtain ⟨new, hsends, hsubmits, hids⟩ :=
        (submitPages_end addBuf request prepared).sends
      have hall := hfrom.sends.trans hsends
      rw [← heq, List.nil_append] at hall
      have hcount : prepared.driver.pushCount = driver.pushCount := by
        rw [hfrom.driver]
        rfl
      rw [hcount] at hids
      rw [marksCompleted_iff addBuf contextId request driver hall hsubmits]
      simp only [hids]
      have hstable : HandlesStable addBuf contextId request driver ↔
          ((allocateVgpuMemory (commandPagesSize prepared.cmd)
            prepared.driver.vgpuMemory).isSome = true →
          0 < prepared.cmd.numBoHandles →
          ∀ reads, request.handles = .ok reads →
            request.handlesBlock = true ∧ addBuf driver.pushCount = true ∧
              ∀ id, id ∈ markedIds prepared.cmd reads ↔
                id ∈ copiedIds prepared.cmd reads) := by
        simp [HandlesStable, hprepared, mem_markedIds, mem_copiedIds]
      rw [hstable]
      simp only [submitMarks, hprepared, PreparedSubmit.marks,
        PreparedSubmit.copies]
      cases halloc : allocateVgpuMemory (commandPagesSize prepared.cmd)
          prepared.driver.vgpuMemory with
      | none => simp
      | some grant =>
          by_cases hlisted : 0 < prepared.cmd.numBoHandles
          · cases hhandles : request.handles with
            | ok reads =>
                simp only [hlisted, if_true]
                by_cases hsent : addBuf driver.pushCount = true ∧
                    request.handlesBlock = true
                · simp [hsent]
                · -- something is marked and nothing is sent
                  have hmarked : (reads 0).marked ∈
                      markedIds prepared.cmd reads :=
                    mem_markedIds.mpr
                      ⟨0, UInt32.lt_iff_toNat_lt.mp hlisted, rfl⟩
                  rw [if_neg hsent]
                  refine iff_of_false (fun h => ?_) (fun h => ?_)
                  · exact absurd ((h _).mp hmarked) List.not_mem_nil
                  · obtain ⟨hblock, hpush, _⟩ := h rfl trivial reads rfl
                    exact hsent ⟨hpush, hblock⟩
            | _ => simp
          · simp [hlisted]

end Submission

section ContextInit

variable (addBuf : Nat → Bool) (contextId : UInt32)
variable (request : ContextInitRequest) (driver : Driver)

/-- Every value that the loop ORs into `contextInit` passes both tests, and
these values are what the CTX_CREATE carries. -/
def ValuesChecked : Prop :=
  getVirglContextFromListUnsafe driver.virglContextList contextId = none →
    ∀ reads, request.reads = some reads → ∀ values,
      (contextInitParams driver.capsets.capsetIdMask reads).values = values →
      (∀ value ∈ values, value ≤ maxCapsetId ∧
          capsetAllowed driver.capsets.capsetIdMask value = true) ∧
        ∀ new, (ctlInitVirglContext addBuf contextId request
            driver).2.pushes = driver.pushes ++ new →
          ∀ push ∈ new, ∃ contextInit,
            push.2.pBuf.body = .ctxCreate contextInit ∧
              contextInit = orValues values 0

/-- In an entry whose first reads pass the tests the last read finds a value
that passes them too. -/
def ValuesStable : Prop :=
  getVirglContextFromListUnsafe driver.virglContextList contextId = none →
    ∀ reads, request.reads = some reads → ∀ read ∈ reads,
      read.Passes driver.capsets.capsetIdMask →
        read.stored ≤ maxCapsetId ∧
          capsetAllowed driver.capsets.capsetIdMask read.stored = true

/-- The CTX_CREATE carries what the loop has put together. -/
theorem ctlInitVirglContext_sent {reads : List ContextParamRead}
    {new : List (Queue × VgpuBuffer)} (hreads : request.reads = some reads)
    (hpushes : (ctlInitVirglContext addBuf contextId request
      driver).2.pushes = driver.pushes ++ new)
    {push : Queue × VgpuBuffer} (hpush : push ∈ new) :
    push.2.pBuf.body = .ctxCreate
      (orValues (storedValues driver.capsets.capsetIdMask reads) 0) := by
  by_cases haccepted : InitAccepted contextId request driver reads
  · have hissues := openedContext_issues addBuf contextId driver reads
    rw [ctlInitVirglContext_of_accepted addBuf haccepted,
      hissues.sends.pushes] at hpushes
    rw [← List.append_cancel_left hpushes] at hpush
    have hmem := List.mem_of_mem_filter hpush
    simp only [numbered, List.mem_singleton] at hmem
    rw [hmem]
    rfl
  · have hnone : ∀ other, ¬InitAccepted contextId request driver other := by
      intro other hother
      cases hreads.symm.trans hother.fetched
      exact haccepted hother
    have hrefused := ctlInitVirglContext_of_not_accepted addBuf hnone
    rw [hrefused.2, List.self_eq_append_right] at hpushes
    rw [hpushes] at hpush
    cases hpush

theorem values_checked_iff :
    ValuesChecked addBuf contextId request driver ↔
      ValuesStable contextId request driver := by
  have hmem : ∀ reads value,
      value ∈ (contextInitParams driver.capsets.capsetIdMask reads).values ↔
        ∃ read ∈ reads, read.Passes driver.capsets.capsetIdMask ∧
          read.stored = value := by
    intro reads value
    rw [contextInitParams_values]
    simp [storedValues, and_assoc]
  constructor
  · intro h hnew reads hreads read hread hpasses
    refine (h hnew reads hreads _ rfl).1 read.stored ?_
    exact (hmem reads read.stored).mpr ⟨read, hread, hpasses, rfl⟩
  · rintro h hnew reads hreads values rfl
    refine ⟨fun value hvalue => ?_, fun new hpushes push hpush => ?_⟩
    · obtain ⟨read, hread, hpasses, rfl⟩ := (hmem reads value).mp hvalue
      exact h hnew reads hreads read hread hpasses
    · refine ⟨_, ctlInitVirglContext_sent addBuf contextId request driver
        hreads hpushes hpush, ?_⟩
      rw [contextInitParams_values]

end ContextInit

/-- User memory is used as it was checked exactly when the reads of the same
entry agree in what matters. -/
theorem user_memory_used_as_checked_iff (addBuf : Nat → Bool)
    (contextId : UInt32) (driver : Driver) (submission : ExecbufferRequest)
    (init : ContextInitRequest) :
    (MarksCompleted addBuf contextId submission driver ∧
        ValuesChecked addBuf contextId init driver) ↔
      HandlesStable addBuf contextId submission driver ∧
        ValuesStable contextId init driver :=
  and_congr (marks_completed_iff addBuf contextId submission driver)
    (values_checked_iff addBuf contextId init driver)

/-- A submission of one handle, which reads 1 first and 2 then. -/
def changingSubmission : ExecbufferRequest where
  input := .ok { flags := 0, size := 64, numBoHandles := 1 }
  inFence := .error .unsuccessful
  waitStatus := .success
  outFence := .error .unsuccessful
  command := .ok ()
  handles := .ok fun _ => { marked := 1, copied := 2 }
  handlesBlock := true

/-- One capset parameter, which reads 1 in both tests and 5 then. -/
def changingInit : ContextInitRequest where
  input := .ok { numParams := 1 }
  params := .ok fun _ =>
    { param := contextParamCapsetId, compared := 1, shifted := 1
      stored := 5 }
  contextBlock := true

/-- Process 7 has the resources 1 and 2, process 8 opens its context. -/
theorem user_memory_changed :
    let driver := (runFrom (World.step fun _ => true) World.eightPages
      [.request 7 .initContext, .request 7 (.create 1),
        .request 7 (.create 1)]).driver
    ¬MarksCompleted (fun _ => true) 7 changingSubmission driver ∧
      ¬ValuesChecked (fun _ => true) 8 changingInit driver := by
  intro driver
  constructor
  · rw [marks_completed_iff]
    intro hstable
    obtain ⟨_, _, hids⟩ := hstable _ rfl (by decide +kernel)
      (by decide +kernel) _ rfl
    obtain ⟨slot, _, hcopied⟩ := (hids 1).mp ⟨0, by decide +kernel, rfl⟩
    exact absurd hcopied (by decide)
  · rw [values_checked_iff]
    intro hstable
    have hpasses := hstable rfl _ rfl _ List.mem_cons_self
      (by decide +kernel)
    exact absurd hpasses.2 (by decide +kernel)

end VgpuDriver
