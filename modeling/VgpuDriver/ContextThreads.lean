import VgpuDriver.Data.Pool
import VgpuDriver.Data.Transition
import VgpuDriver.TraceSteps

namespace VgpuDriver

open Data

/-! `VirglContextList` under requests and process callbacks that run in
parallel.  Each critical section of the list, each push and each release of a
record is one step of a thread; the resources of a context are left out. -/

/-- A `VIRGL_CONTEXT`; the number stands for its address. -/
structure ContextRecord where
  number : Nat
  id : UInt32
  deriving DecidableEq, Repr

inductive ContextCommand
  | ctxCreate
  | ctxDestroy
  deriving DecidableEq, Repr

inductive ContextEvent
  | pushed (contextId : UInt32) (command : ContextCommand)
  | unlinked (record : ContextRecord)
  | freed (record : ContextRecord)
  deriving DecidableEq, Repr

/-- Where a call of `CtlInitVirglContext` or `CtlDestroyVirglContext` is;
`onExit` says that `ProcessNotify` made the call. -/
inductive ContextStage
  | checking (contextId : UInt32) (request : ContextInitRequest)
  | inserted (record : ContextRecord) (contextInit : UInt32)
  | found (record : ContextRecord) (onExit : Bool)
  | unlinked (record : ContextRecord) (onExit : Bool)
  | pushed (record : ContextRecord) (onExit : Bool)
  | returned

/-- `exited` holds the processes whose exit `ProcessNotify` has handled and
whose id no new process has got since; `pushCount` counts the calls of
`PushQueue`; the history is newest first. -/
structure ContextSession where
  virglContextList : List ContextRecord
  allocated : Nat
  threads : List ContextStage
  exited : List UInt32
  pushCount : Nat
  history : List ContextEvent

inductive ContextAction
  | init (processId : UInt32) (request : ContextInitRequest)
  | destroy (processId : UInt32)
  | notify (processId : UInt32) (create : Bool)
  | advance (thread : Nat)

/-- What `CtlInitVirglContext` does between the lookup and the insertion:
`contextInit`, or nothing when it returns there. -/
def ContextInitRequest.prepared (mask : UInt64)
    (request : ContextInitRequest) : Option UInt32 :=
  match request.input, request.params with
  | .ok init, .ok params =>
      let loop := contextInitParams mask
        ((List.range init.numParams.toNat).map params)
      if loop.status ≠ .success then none
      else if !request.contextBlock then none
      else some loop.contextInit
  | _, _ => none

def ContextEvent.push : ContextEvent → Option (UInt32 × ContextCommand)
  | .pushed contextId command => some (contextId, command)
  | _ => none

namespace ContextSession

def getVirglContextFromList (id : UInt32) (session : ContextSession) :
    Option ContextRecord :=
  session.virglContextList.find? fun record => decide (record.id = id)

/-- A call returns or reaches its first step behind the lookup. -/
def call (stage : ContextStage) (session : ContextSession) :
    ContextSession :=
  { session with threads := session.threads ++ [stage] }

def move (thread : Nat) (stage : ContextStage) (session : ContextSession) :
    ContextSession :=
  { session with threads := session.threads.set thread stage }

def log (event : ContextEvent) (session : ContextSession) :
    ContextSession :=
  { session with history := event :: session.history }

/-- `ExInterlockedInsertHeadList` of a new record. -/
def insertRecord (record : ContextRecord) (session : ContextSession) :
    ContextSession :=
  { session with
    virglContextList := record :: session.virglContextList
    allocated := session.allocated + 1 }

/-- `RemoveEntryListUnsafe`; it does not look whether the entry is still in
the list. -/
def removeRecord (record : ContextRecord) (session : ContextSession) :
    ContextSession :=
  { session with
    virglContextList := session.virglContextList.eraseP fun other =>
      decide (other.number = record.number) }

/-- `ProcessNotify` returns. -/
def report (processId : UInt32) (session : ContextSession) :
    ContextSession :=
  { session with exited := processId :: session.exited }

/-- The queue has taken the command. -/
def accept (contextId : UInt32) (command : ContextCommand)
    (session : ContextSession) : ContextSession :=
  { session.log (.pushed contextId command) with
    pushCount := session.pushCount + 1 }

variable (addBuf : Nat → Bool)

/-- `PushQueue`; the callers drop what it returns. -/
def push (contextId : UInt32) (command : ContextCommand)
    (session : ContextSession) : ContextSession :=
  if addBuf session.pushCount then session.accept contextId command
  else { session with pushCount := session.pushCount + 1 }

/-- The next step of a thread. -/
def advance (mask : UInt64) (thread : Nat) (session : ContextSession) :
    ContextStage → ContextSession
  | .checking contextId request =>
      match request.prepared mask with
      | none => session.move thread .returned
      | some contextInit =>
          let record := { number := session.allocated, id := contextId }
          (session.insertRecord record).move thread
            (.inserted record contextInit)
  | .inserted record _ =>
      (session.push addBuf record.id .ctxCreate).move thread .returned
  | .found record onExit =>
      ((session.removeRecord record).log (.unlinked record)).move thread
        (.unlinked record onExit)
  | .unlinked record onExit =>
      (session.push addBuf record.id .ctxDestroy).move thread
        (.pushed record onExit)
  | .pushed record onExit =>
      let freed := (session.log (.freed record)).move thread .returned
      if onExit then freed.report record.id else freed
  | .returned => session

def step (mask : UInt64) (session : ContextSession) :
    ContextAction → ContextSession
  | .init processId request =>
      match session.getVirglContextFromList processId with
      | some _ => session
      | none => session.call (.checking processId request)
  | .destroy processId =>
      match session.getVirglContextFromList processId with
      | none => session
      | some record => session.call (.found record false)
  | .notify processId create =>
      if create then
        { session with exited := session.exited.filter (· ≠ processId) }
      else
        match session.getVirglContextFromList processId with
        | none => session.report processId
        | some record => session.call (.found record true)
  | .advance thread =>
      match session.threads[thread]? with
      | none => session
      | some stage => session.advance addBuf mask thread stage

def start : ContextSession where
  virglContextList := []
  allocated := 0
  threads := []
  exited := []
  pushCount := 0
  history := []

end ContextSession

/-! A call whose steps no other thread interrupts changes the list, and pushes
the commands, as the handler of the sequential model does. -/

namespace ContextSession

def contextIds (session : ContextSession) : List UInt32 :=
  session.virglContextList.map ContextRecord.id

/-- What has been pushed, the oldest command first. -/
def pushes (session : ContextSession) : List (UInt32 × ContextCommand) :=
  (session.history.filterMap ContextEvent.push).reverse

end ContextSession

def CommandBody.contextCommand : CommandBody → Option ContextCommand
  | .ctxCreate _ => some .ctxCreate
  | .ctxDestroy => some .ctxDestroy
  | _ => none

/-- A CTX_CREATE or CTX_DESTROY and the context that it names. -/
def contextPush (push : Queue × VgpuBuffer) :
    Option (UInt32 × ContextCommand) :=
  push.2.pBuf.body.contextCommand.map fun command =>
    (push.2.pBuf.hdr.ctxId, command)

def Driver.contextCommands (driver : Driver) :
    List (UInt32 × ContextCommand) :=
  driver.pushes.filterMap contextPush

/-- The commands of `DeleteResource` for the whole list come before the
CTX_DESTROY. -/
def Driver.destroySerial (driver : Driver) (context : VirglContext) : Nat :=
  driver.pushCount + (context.resourceList.reverse.flatMap
    (deletionCommands context.id)).length

/-- The session lists the contexts of the driver and has pushed the same
commands for them. -/
structure ContextSession.Mirrors (session : ContextSession)
    (driver : Driver) : Prop where
  contextIds : session.contextIds = driver.contextIds
  pushes : session.pushes = driver.contextCommands

section Alone

variable {session : ContextSession} {driver : Driver}
variable {processId : UInt32} {accepts addBuf : Nat → Bool}

theorem ContextSession.lookup_none_iff :
    session.getVirglContextFromList processId = none ↔
      processId ∉ session.contextIds := by
  simp [getVirglContextFromList, contextIds]

theorem Driver.lookup_none_iff :
    getVirglContextFromListUnsafe driver.virglContextList processId = none ↔
      processId ∉ driver.contextIds := by
  simp [getVirglContextFromListUnsafe, Driver.contextIds]

/-- Both lookups find a context or neither does. -/
theorem ContextSession.Mirrors.lookup_none_iff (h : session.Mirrors driver) :
    session.getVirglContextFromList processId = none ↔
      getVirglContextFromListUnsafe driver.virglContextList processId =
        none := by
  rw [ContextSession.lookup_none_iff, Driver.lookup_none_iff, h.contextIds]

theorem map_eraseP_id {Entry : Type} (key : Entry → UInt32)
    (entries : List Entry) :
    (entries.eraseP fun entry => decide (key entry = processId)).map key =
      (entries.map key).erase processId := by
  induction entries with
  | nil => rfl
  | cons head tail ih =>
      by_cases hhead : key head = processId
      · rw [List.eraseP_cons_of_pos (by simpa using hhead), List.map_cons,
          hhead, List.erase_cons_head]
      · rw [List.eraseP_cons_of_neg (by simpa using hhead), List.map_cons,
          List.map_cons, ih, List.erase_cons_tail (by simpa using hhead)]

theorem ContextSession.removeRecord_contextIds {record : ContextRecord}
    (hnumbers : (session.virglContextList.map ContextRecord.number).Nodup)
    (hfound : session.getVirglContextFromList processId = some record) :
    (session.removeRecord record).contextIds =
      session.contextIds.erase processId := by
  obtain ⟨hid, front, back, hlist, hfront⟩ :=
    List.find?_eq_some_iff_append.mp hfound
  have hfresh : ∀ other ∈ front, other.number ≠ record.number := by
    intro other hother heq
    rw [hlist, List.map_append, List.map_cons] at hnumbers
    have hdisjoint := List.disjoint_of_nodup_append hnumbers
    refine hdisjoint (List.mem_map_of_mem hother) ?_
    rw [heq]
    exact List.mem_cons_self
  have hback : (record :: back).eraseP (fun entry =>
      decide (entry.id = processId)) = back := List.eraseP_cons_of_pos hid
  unfold contextIds removeRecord
  dsimp only
  rw [← map_eraseP_id, hlist,
    List.eraseP_append_right _ (by simpa using hfresh),
    List.eraseP_append_right _ (by simpa using hfront),
    List.eraseP_cons_of_pos (by simp), hback]

theorem ContextSession.step_advance {mask : UInt64} {thread : Nat}
    {stage : ContextStage} (hthread : session.threads[thread]? = some stage) :
    session.step accepts mask (.advance thread) =
      session.advance accepts mask thread stage := by
  simp only [step, hthread]

/-! The handlers of the sequential model. -/

/-- What the checks of `CtlInitVirglContext` decide. -/
theorem ctlInitVirglContext_eq (request : ContextInitRequest) :
    (ctlInitVirglContext addBuf processId request driver).2 =
      match getVirglContextFromListUnsafe driver.virglContextList processId,
          request.prepared driver.capsets.capsetIdMask with
      | none, some contextInit =>
          createVirglContext addBuf processId contextInit
            { driver with
              virglContextList :=
                { id := processId, resourceList := [] } ::
                  driver.virglContextList }
      | _, _ => driver := by
  unfold ctlInitVirglContext ContextInitRequest.prepared
  cases getVirglContextFromListUnsafe driver.virglContextList processId with
  | some context => rfl
  | none =>
      cases request.input with
      | failed code => rfl
      | rejected => rfl
      | ok init =>
          cases request.params with
          | failed code => rfl
          | rejected => rfl
          | ok params =>
              simp only [Fetch.andThen]
              split
              · rfl
              · split
                · rfl
                · rfl

theorem Issues.contextCommands {commands : List (Queue × Command)}
    {before after : Driver} (h : Issues addBuf commands before after) :
    after.contextCommands = before.contextCommands ++
      (acceptedOf addBuf (numbered before.pushCount commands)).filterMap
        contextPush := by
  unfold Driver.contextCommands
  rw [h.sends.pushes, List.filterMap_append]

/-- What one push of such a command adds. -/
theorem contextPush_accepted {body : CommandBody} {command : ContextCommand}
    (hbody : body.contextCommand = some command) (queue : Queue)
    (serial : Nat) :
    (acceptedOf addBuf
        (numbered serial [(queue, ⟨ctrlHdr processId 0, body⟩)])).filterMap
          contextPush =
      if addBuf serial then [(processId, command)] else [] := by
  cases hpush : addBuf serial with
  | false => simp [acceptedOf, numbered, commandBuffer, hpush]
  | true =>
      simp [acceptedOf, numbered, commandBuffer, contextPush, hpush, hbody]

theorem contextPush_deletion {contextId : UInt32} {serial : Nat}
    {resources : List VirglResource} {push : Queue × VgpuBuffer}
    (hpush : push ∈ numbered serial
      (resources.flatMap (deletionCommands contextId))) :
    contextPush push = none := by
  obtain ⟨resource, _, hmem⟩ :=
    List.mem_flatMap.mp (mem_numbered hpush).1
  unfold contextPush
  unfold deletionCommands at hmem
  rw [Option.map_eq_none_iff]
  rcases List.mem_append.mp hmem with hbacking | hunref
  · split at hbacking
    · split at hbacking
      · have hpushed := List.mem_singleton.mp hbacking
        rw [congrArg (fun pushed => pushed.2.body) hpushed]
        rfl
      · have hpushed := List.mem_singleton.mp hbacking
        rw [congrArg (fun pushed => pushed.2.body) hpushed]
        rfl
    · cases hbacking
  · have hpushed := List.mem_singleton.mp hunref
    rw [congrArg (fun pushed => pushed.2.body) hpushed]
    rfl

theorem createVirglContext_contextCommands (contextInit : UInt32)
    (before : Driver) :
    (createVirglContext addBuf processId contextInit before).contextCommands =
      before.contextCommands ++
        if addBuf before.pushCount then [(processId, .ctxCreate)]
        else [] := by
  have hissues := sendCommand_issues addBuf .control (ctrlHdr processId 0)
    (.ctxCreate contextInit) before
  refine hissues.contextCommands.trans ?_
  rw [contextPush_accepted rfl]

theorem ctlDestroyVirglContext_contextCommands (context : VirglContext) :
    (ctlDestroyVirglContext addBuf context driver).contextCommands =
      driver.contextCommands ++
        if addBuf (driver.destroySerial context) then
          [(context.id, .ctxDestroy)]
        else [] := by
  have hissues := ctlDestroyVirglContext_issues addBuf context driver
  rw [hissues.contextCommands, numbered_append, acceptedOf_append,
    List.filterMap_append, contextPush_accepted rfl]
  have hdeletions : (acceptedOf addBuf (numbered driver.pushCount
      (context.resourceList.reverse.flatMap
        (deletionCommands context.id)))).filterMap contextPush = [] :=
    List.filterMap_eq_nil_iff.mpr fun push hpush =>
      contextPush_deletion (List.mem_of_mem_filter hpush)
  rw [hdeletions, List.nil_append]
  rfl

theorem ctlDestroyVirglContext_contextIds (context : VirglContext) :
    (ctlDestroyVirglContext addBuf context driver).contextIds =
      driver.contextIds.erase context.id := by
  unfold Driver.contextIds
  rw [← map_eraseP_id, (ctlDestroyVirglContext_frame addBuf context
    driver).1]

/-! The steps of a thread. -/

namespace ContextSession

variable {mask : UInt64} {thread : Nat}

theorem push_contextIds (contextId : UInt32) (command : ContextCommand) :
    (session.push accepts contextId command).contextIds =
      session.contextIds := by
  unfold push
  split
  · rfl
  · rfl

theorem push_threads (contextId : UInt32) (command : ContextCommand) :
    (session.push accepts contextId command).threads = session.threads := by
  unfold push
  split
  · rfl
  · rfl

theorem push_pushes (contextId : UInt32) (command : ContextCommand) :
    (session.push accepts contextId command).pushes =
      session.pushes ++
        if accepts session.pushCount then [(contextId, command)] else [] := by
  unfold push
  split
  · exact List.reverse_cons
  · exact (List.append_nil _).symm

theorem thread_pushed {old new : ContextStage}
    (hthread : session.threads[thread]? = some old) (contextId : UInt32)
    (command : ContextCommand) :
    ((session.push accepts contextId command).move thread new).threads[
      thread]? = some new := by
  unfold move
  rw [push_threads]
  exact getElem?_set_moved hthread

/-- A thread that has found a record unlinks it, pushes its CTX_DESTROY and
frees it. -/
theorem destroy_steps {record : ContextRecord} {onExit : Bool}
    (hthread : session.threads[thread]? = some (.found record onExit)) :
    let after := runFrom (step accepts mask) session
      [.advance thread, .advance thread, .advance thread]
    after.contextIds = (session.removeRecord record).contextIds ∧
      after.pushes = session.pushes ++
        if accepts session.pushCount then [(record.id, .ctxDestroy)]
        else [] := by
  have hunlinked : (session.threads.set thread (.unlinked record onExit))[
      thread]? = some (.unlinked record onExit) := getElem?_set_moved hthread
  let unlinked := ((session.removeRecord record).log
    (.unlinked record)).move thread (.unlinked record onExit)
  have hpushed := @thread_pushed unlinked accepts thread _
    (.pushed record onExit) hunlinked record.id .ctxDestroy
  have hrun : runFrom (step accepts mask) session
      [.advance thread, .advance thread, .advance thread] =
        ((unlinked.push accepts record.id .ctxDestroy).move thread
          (.pushed record onExit)).advance accepts mask thread
            (.pushed record onExit) := by
    rw [runFrom_cons, step_advance hthread, runFrom_cons,
      step_advance hunlinked, runFrom_cons, runFrom_nil]
    exact step_advance hpushed
  dsimp only
  rw [hrun]
  have hids := @push_contextIds unlinked accepts record.id .ctxDestroy
  have hpushes := @push_pushes unlinked accepts record.id .ctxDestroy
  cases onExit with
  | false => exact ⟨hids, hpushes⟩
  | true => exact ⟨hids, hpushes⟩

end ContextSession

/-- CONTEXT_INIT by itself. -/
theorem contextInit_alone (h : session.Mirrors driver)
    (hpush : accepts session.pushCount = addBuf driver.pushCount)
    (request : ContextInitRequest) :
    (runFrom (ContextSession.step accepts driver.capsets.capsetIdMask)
      session [.init processId request, .advance session.threads.length,
        .advance session.threads.length]).Mirrors
      (ctlInitVirglContext addBuf processId request driver).2 := by
  have hidle : session.threads[session.threads.length]? = none := by simp
  rw [ctlInitVirglContext_eq]
  cases hlookup : getVirglContextFromListUnsafe driver.virglContextList
      processId with
  | some context =>
      obtain ⟨record, hfound⟩ : ∃ record,
          session.getVirglContextFromList processId = some record := by
        rw [← Option.ne_none_iff_exists', ne_eq, h.lookup_none_iff, hlookup]
        exact Option.some_ne_none context
      simp only [runFrom_cons, runFrom_nil, ContextSession.step, hfound,
        hidle]
      exact h
  | none =>
      have hnone := h.lookup_none_iff.mpr hlookup
      have hcall : session.step accepts driver.capsets.capsetIdMask
          (.init processId request) =
            session.call (.checking processId request) := by
        simp only [ContextSession.step, hnone]
      have hchecking : (session.call (.checking processId request)).threads[
          session.threads.length]? = some (.checking processId request) :=
        List.getElem?_concat_length
      rw [runFrom_cons, hcall, runFrom_cons,
        ContextSession.step_advance hchecking]
      simp only [ContextSession.advance]
      cases hprepared : request.prepared driver.capsets.capsetIdMask with
      | none =>
          rw [runFrom_cons,
            ContextSession.step_advance (getElem?_set_moved hchecking)]
          exact ⟨h.contextIds, h.pushes⟩
      | some contextInit =>
          rw [runFrom_cons,
            ContextSession.step_advance (getElem?_set_moved hchecking),
            runFrom_nil]
          constructor
          · refine (ContextSession.push_contextIds processId
              .ctxCreate).trans ?_
            exact congrArg (processId :: ·) h.contextIds
          · refine (ContextSession.push_pushes processId
              .ctxCreate).trans ?_
            rw [createVirglContext_contextCommands]
            exact congrArg₂ (· ++ ·) h.pushes
              (by rw [← hpush]; rfl)

/-- A destruction by itself, behind the lookup. -/
theorem destruction_alone {mask : UInt64} {context : VirglContext}
    {record : ContextRecord} {onExit : Bool} (h : session.Mirrors driver)
    (hnumbers : (session.virglContextList.map ContextRecord.number).Nodup)
    (hlookup : getVirglContextFromListUnsafe driver.virglContextList
      processId = some context)
    (hfound : session.getVirglContextFromList processId = some record)
    (hpush : accepts session.pushCount =
      addBuf (driver.destroySerial context)) :
    (runFrom (ContextSession.step accepts mask)
      (session.call (.found record onExit))
      [.advance session.threads.length, .advance session.threads.length,
        .advance session.threads.length]).Mirrors
      (ctlDestroyVirglContext addBuf context driver) := by
  have hthread : (session.call (.found record onExit)).threads[
      session.threads.length]? = some (.found record onExit) :=
    List.getElem?_concat_length
  obtain ⟨hids, hpushes⟩ := @ContextSession.destroy_steps _ accepts mask _
    record onExit hthread
  have hid : context.id = processId := by
    simpa using List.find?_some hlookup
  have hrecord : record.id = processId := by
    simpa using List.find?_some hfound
  constructor
  · refine hids.trans ?_
    refine (ContextSession.removeRecord_contextIds hnumbers hfound).trans ?_
    rw [ctlDestroyVirglContext_contextIds, h.contextIds, hid]
  · refine hpushes.trans ?_
    rw [ctlDestroyVirglContext_contextCommands, hid, hrecord]
    exact congrArg₂ (· ++ ·) h.pushes (by rw [← hpush]; rfl)

/-- A request or callback that looks a context up and destroys it. -/
theorem destroy_alone {mask : UInt64} {action : ContextAction}
    {idle : ContextSession} {onExit : Bool} (h : session.Mirrors driver)
    (hnumbers : (session.virglContextList.map ContextRecord.number).Nodup)
    (hpush : ∀ context, getVirglContextFromListUnsafe
        driver.virglContextList processId = some context →
      accepts session.pushCount = addBuf (driver.destroySerial context))
    (hstep : session.step accepts mask action =
      match session.getVirglContextFromList processId with
      | none => idle
      | some record => session.call (.found record onExit))
    (hidle : idle.Mirrors driver)
    (hthreads : idle.threads = session.threads) :
    (runFrom (ContextSession.step accepts mask) session
      [action, .advance session.threads.length,
        .advance session.threads.length,
        .advance session.threads.length]).Mirrors
      (processNotify addBuf processId driver) := by
  unfold processNotify
  rw [runFrom_cons, hstep]
  cases hlookup : getVirglContextFromListUnsafe driver.virglContextList
      processId with
  | none =>
      have hthread : idle.threads[session.threads.length]? = none := by
        rw [hthreads]
        simp
      rw [h.lookup_none_iff.mpr hlookup]
      simp only [runFrom_cons, runFrom_nil, ContextSession.step, hthread]
      exact hidle
  | some context =>
      obtain ⟨record, hfound⟩ := Option.ne_none_iff_exists'.mp
        (fun hnone : session.getVirglContextFromList processId = none => by
          rw [h.lookup_none_iff.mp hnone] at hlookup
          cases hlookup)
      rw [hfound]
      exact destruction_alone h hnumbers hlookup hfound (hpush _ hlookup)

/-- DESTROY_CONTEXT by itself. -/
theorem ioctlDestroyContext_alone (mask : UInt64) (h : session.Mirrors driver)
    (hnumbers : (session.virglContextList.map ContextRecord.number).Nodup)
    (hpush : ∀ context, getVirglContextFromListUnsafe
        driver.virglContextList processId = some context →
      accepts session.pushCount = addBuf (driver.destroySerial context)) :
    (runFrom (ContextSession.step accepts mask) session
      [.destroy processId, .advance session.threads.length,
        .advance session.threads.length,
        .advance session.threads.length]).Mirrors
      (ioctlDestroyContext addBuf processId driver).2 := by
  have hsame : (ioctlDestroyContext addBuf processId driver).2 =
      processNotify addBuf processId driver := by
    unfold ioctlDestroyContext processNotify
    cases getVirglContextFromListUnsafe driver.virglContextList
        processId with
    | none => rfl
    | some context => rfl
  rw [hsame]
  exact destroy_alone h hnumbers hpush rfl h rfl

/-- `ProcessNotify` by itself. -/
theorem processNotify_alone (mask : UInt64) (h : session.Mirrors driver)
    (hnumbers : (session.virglContextList.map ContextRecord.number).Nodup)
    (hpush : ∀ context, getVirglContextFromListUnsafe
        driver.virglContextList processId = some context →
      accepts session.pushCount = addBuf (driver.destroySerial context)) :
    (runFrom (ContextSession.step accepts mask) session
      [.notify processId false, .advance session.threads.length,
        .advance session.threads.length,
        .advance session.threads.length]).Mirrors
      (processNotify addBuf processId driver) :=
  @destroy_alone session driver processId accepts addBuf mask _
    (session.report processId) true h hnumbers hpush rfl
    ⟨h.contextIds, h.pushes⟩ rfl

end Alone

end VgpuDriver
