import VgpuDriver.Data.Pool
import VgpuDriver.Irql
import VgpuDriver.Submission

namespace VgpuDriver

open Data

/-! The completion of WDF requests: their handlers run next to
`VirtioVgpuIoStop`. -/

/-- `NT_SUCCESS` -/
def ntSuccess (code : UInt32) : Bool := code < 0x80000000

def NtStatus.code : NtStatus → UInt32
  | .success => 0
  | .unsuccessful => 0xC0000001
  | .insufficientResources => 0xC000009A
  | .notSupported => 0xC00000BB
  | .other code => code

/-- `STATUS_PENDING` -/
def statusPending : UInt32 := 0x103

/-- A status that is handed through from a failing routine is an error. -/
def NtStatus.IsDefinite : NtStatus → Prop
  | .other code => ntSuccess code = false
  | _ => True

theorem NtStatus.IsDefinite.code_ne_pending {status : NtStatus}
    (h : status.IsDefinite) : status.code ≠ statusPending := by
  cases status with
  | other code =>
      rintro rfl
      have hfails : ntSuccess statusPending = false := h
      exact absurd hfails (by decide)
  | _ => decide

/-- The status when the handler has waited, if it has to: waits that are not
alertable and have no timeout succeed. -/
def Reply.status : Reply → NtStatus
  | .complete status _ => status
  | .waiting _ => .success

/-! The requests that `IoRequest` leaves out. -/

def Fetch.reply {α : Type} (fetch : Fetch α) (next : α → Reply) : Reply :=
  match fetch with
  | .failed code => .complete (.other code) none
  | .rejected => .complete .unsuccessful none
  | .ok contents => next contents

/-- `output` holds what the output buffer contains at the time, `staging` is
the byte that `VirtIOWdfDeviceGet` reads. -/
structure GetParamRequest where
  input : Fetch UInt64
  output : Fetch UInt64
  staging : UInt8
  deriving DecidableEq, Repr

/-- `VIRTGPU_PARAM_SUPPORTED_CAPSET_IDs` -/
def paramSupportedCapsetIds : UInt64 := 7

/-- `CtlGetParams` behind the discovery of the capsets; the staging byte
replaces the lowest byte of the output only. -/
def ctlGetParams (capabilities : UInt64) (capsets : Capsets)
    (request : GetParamRequest) : Reply :=
  request.input.reply fun param =>
  request.output.reply fun output =>
    .complete .success (some
      (if param = 0x1000 then
        (output &&& 0xFFFFFFFFFFFFFF00 ||| request.staging.toUInt64).toNat
      else if param = paramSupportedCapsetIds then
        capsets.capsetIdMask.toNat
      else if capabilities &&& (1 <<< ((param - 1) % 64)) ≠ 0 then 1
      else 0))

/-- `CtlGetCaps`; the output buffer is filled by the host's answer. -/
def ctlGetCaps (capsets : Capsets) (input : Fetch (UInt32 × UInt32))
    (output : Fetch Nat) : Reply :=
  input.reply fun wanted =>
    match (capsets.data.take capsets.numCaps.toNat).find? fun capset =>
        capset.id = wanted.1 && wanted.2 ≤ capset.maxVersion with
    | none => .complete .unsuccessful none
    | some capset =>
        output.reply fun size =>
          if size ≠ capset.maxSize.toNat then .complete .unsuccessful none
          else .complete .success none

/-- The request codes of `VirtioVgpuIoControl`. -/
inductive DeviceControl
  | io (request : IoRequest) (woken : VirglResource → VirglResource)
  | getParams (request : GetParamRequest)
  | getCaps (input : Fetch (UInt32 × UInt32)) (output : Fetch Nat)
  | unsupported

namespace DeviceControl

/-- What the handler of the request does, its waits included. -/
def program (processId : UInt32) (driver : Driver) :
    DeviceControl → Program
  | .io request woken =>
      (EntryPoint.ioControl processId request woken).program driver
  | .getParams _ => EntryPoint.getParams.program driver
  | .getCaps input output => (EntryPoint.getCaps input output).program driver
  | .unsupported => EntryPoint.unsupported.program driver

/-- The resource that `CtlMap` maps. -/
def mapTarget (processId : UInt32) (request : MapRequest)
    (driver : Driver) : Option VirglResource :=
  match request.input with
  | .ok cmd =>
      (getVirglContextFromListUnsafe driver.virglContextList
        processId).bind fun context =>
          getResourceFromListUnsafe context cmd.handle
  | _ => none

/-- The status that the handler returns; `after` is the state when it goes on
after a wait. -/
def status (addBuf : Nat → Bool) (capabilities : UInt64)
    (processId : UInt32) (before after : Driver) :
    DeviceControl → NtStatus
  | .io (.execbuffer request) _ =>
      match prepareSubmit processId request before with
      | .error (status, _) => status
      | .ok prepared =>
          (submitPages addBuf prepared.context prepared.cmd request
            prepared.outFence after).1.status
  | .io (.map request) woken =>
      match (ctlMap processId request before).1 with
      | .complete status _ => status
      | .waiting _ =>
          match mapTarget processId request before with
          | none => .unsuccessful
          | some resource =>
              (mapResource processId (woken resource) request
                after).1.status
  | .io request _ =>
      (virtioVgpuIoControl addBuf processId before request).1.status
  | .getParams request =>
      (ctlGetParams capabilities after.capsets request).status
  | .getCaps input output =>
      (ctlGetCaps before.capsets input output).status
  | .unsupported => .notSupported

end DeviceControl

/-! Failing routines of the system return error codes. -/

def Fetch.FailsWithError {α : Type} : Fetch α → Prop
  | .failed code => ntSuccess code = false
  | _ => True

/-- The object is referenced or the status is an error. -/
def ReferenceFailsWithError : Except NtStatus Nat → Prop
  | .error status => status.IsDefinite
  | .ok _ => True

def IoRequest.FailsWithError : IoRequest → Prop
  | .contextInit request =>
      request.input.FailsWithError ∧ request.params.FailsWithError
  | .destroyContext => True
  | .resourceCreate request =>
      request.input.FailsWithError ∧ request.output.FailsWithError
  | .blobResourceCreate request =>
      request.input.FailsWithError ∧ request.output.FailsWithError
  | .resourceClose input => input.FailsWithError
  | .wait request =>
      request.input.FailsWithError ∧ request.output.FailsWithError
  | .map request =>
      request.input.FailsWithError ∧ request.output.FailsWithError
  | .execbuffer request =>
      request.input.FailsWithError ∧
        ReferenceFailsWithError request.inFence ∧
        request.waitStatus.IsDefinite ∧
        ReferenceFailsWithError request.outFence ∧
        request.command.FailsWithError ∧ request.handles.FailsWithError
  | .transferHost _ request => request.input.FailsWithError

def DeviceControl.FailsWithError : DeviceControl → Prop
  | .io request _ => request.FailsWithError
  | .getParams request =>
      request.input.FailsWithError ∧ request.output.FailsWithError
  | .getCaps input output => input.FailsWithError ∧ output.FailsWithError
  | .unsupported => True

section Definite

variable (addBuf : Nat → Bool) {processId : UInt32} {driver : Driver}

theorem Fetch.andThen_definite {α : Type} {fetch : Fetch α}
    {next : α → Reply × Driver} (hfetch : fetch.FailsWithError)
    (hnext : ∀ contents, (next contents).1.status.IsDefinite) :
    (fetch.andThen driver next).1.status.IsDefinite := by
  cases fetch with
  | failed code => exact hfetch
  | rejected => trivial
  | ok contents => exact hnext contents

theorem Fetch.reply_definite {α : Type} {fetch : Fetch α} {next : α → Reply}
    (hfetch : fetch.FailsWithError)
    (hnext : ∀ contents, (next contents).status.IsDefinite) :
    (fetch.reply next).status.IsDefinite := by
  cases fetch with
  | failed code => exact hfetch
  | rejected => trivial
  | ok contents => exact hnext contents

/-- A handler that has looked its context up. -/
theorem lookup_definite {contexts : List VirglContext}
    {next : VirglContext → Reply × Driver}
    (hnext : ∀ context, (next context).1.status.IsDefinite) :
    (match getVirglContextFromListUnsafe contexts processId with
      | none => (Reply.complete .unsuccessful none, driver)
      | some context => next context).1.status.IsDefinite := by
  split
  · trivial
  · exact hnext _

/-- A handler that has looked its resource up too. -/
theorem lookups_definite {contexts : List VirglContext} {handle : UInt32}
    {next : VirglContext → VirglResource → Reply × Driver}
    (hnext : ∀ context resource,
      (next context resource).1.status.IsDefinite) :
    (match getVirglContextFromListUnsafe contexts processId with
      | none => (Reply.complete .unsuccessful none, driver)
      | some context =>
          match getResourceFromListUnsafe context handle with
          | none => (Reply.complete .unsuccessful none, driver)
          | some resource =>
              next context resource).1.status.IsDefinite := by
  apply lookup_definite
  intro context
  split
  · trivial
  · exact hnext context _

theorem contextInitParams_definite (mask : UInt64)
    (reads : List ContextParamRead) :
    (contextInitParams mask reads).status.IsDefinite := by
  have hloop : ∀ loop : ContextInitLoop, loop.status.IsDefinite →
      (reads.foldl (contextInitParam mask) loop).status.IsDefinite := by
    induction reads with
    | nil => exact fun loop hloop => hloop
    | cons read rest ih =>
        intro loop hloop
        apply ih
        unfold contextInitParam
        split
        · split
          · trivial
          · split
            · trivial
            · exact hloop
        · trivial
  exact hloop _ trivial

theorem mapResource_definite (contextId : UInt32) (resource : VirglResource)
    (request : MapRequest) :
    (mapResource contextId resource request driver).1.status.IsDefinite := by
  unfold mapResource
  dsimp only
  split
  · trivial
  · trivial

theorem submitPages_definite {request : ExecbufferRequest}
    (hhandles : request.handles.FailsWithError) (context : VirglContext)
    (cmd : DrmVirtgpuExecbuffer) (outFence : Option Nat) :
    (submitPages addBuf context cmd request outFence
      driver).1.status.IsDefinite := by
  have hsubmit (status : NtStatus × Driver)
      (hstatus : status.1 = .success ∨ status.1 = .unsuccessful) :
      (Reply.complete status.1 none).status.IsDefinite := by
    rcases hstatus with heq | heq
    · rw [heq]
      trivial
    · rw [heq]
      trivial
  have hpushed (queue : Queue) (buffer : VgpuBuffer) (before : Driver) :
      (pushQueue addBuf queue buffer before).1 = .success ∨
        (pushQueue addBuf queue buffer before).1 = .unsuccessful := by
    unfold pushQueue
    dsimp only
    split
    · exact Or.inl rfl
    · exact Or.inr rfl
  unfold submitPages
  dsimp only
  split
  · trivial
  · split
    · apply Fetch.andThen_definite hhandles
      intro reads
      split
      · trivial
      · exact hsubmit _ (hpushed ..)
    · exact hsubmit _ (hpushed ..)

theorem prepareSubmit_definite {request : ExecbufferRequest}
    (hrequest : (IoRequest.execbuffer request).FailsWithError)
    {status : NtStatus} {after : Driver}
    (herror : prepareSubmit processId request driver =
      .error (status, after)) : status.IsDefinite := by
  obtain ⟨hinput, hin, hwait, hout, hcommand, _⟩ := hrequest
  have hwaited (cmd : DrmVirtgpuExecbuffer) :
      (waitInFence cmd request driver).1.IsDefinite := by
    unfold waitInFence
    split
    · cases hfence : request.inFence with
      | error status =>
          rw [hfence] at hin
          exact hin
      | ok object => exact hwait
    · trivial
  have hreferenced (cmd : DrmVirtgpuExecbuffer) (before referenced : Driver)
      (status : NtStatus)
      (hfence : referenceOutFence cmd request before =
        (.error status, referenced)) : status.IsDefinite := by
    unfold referenceOutFence at hfence
    split at hfence
    · cases hobject : request.outFence with
      | error failed =>
          rw [hobject] at hfence hout
          cases hfence
          exact hout
      | ok object =>
          rw [hobject] at hfence
          cases hfence
    · cases hfence
  unfold prepareSubmit at herror
  split at herror
  · rename_i code hfailed
    cases herror
    rw [hfailed] at hinput
    exact hinput
  · cases herror
    trivial
  · rename_i cmd _
    split at herror
    · cases herror
      trivial
    · dsimp only at herror
      split at herror
      · have hstatus := congrArg Prod.fst (Except.error.inj herror)
        dsimp only at hstatus
        rw [← hstatus]
        exact hwaited cmd
      · split at herror
        · rename_i hfence
          cases herror
          exact hreferenced _ _ _ _ hfence
        · split at herror
          · rename_i code hfailed
            cases herror
            rw [hfailed] at hcommand
            exact hcommand
          · cases herror
            trivial
          · cases herror

theorem virtioVgpuIoControl_definite {request : IoRequest}
    (hrequest : request.FailsWithError) :
    (virtioVgpuIoControl addBuf processId driver
      request).1.status.IsDefinite := by
  cases request with
  | contextInit request =>
      simp only [virtioVgpuIoControl, ctlInitVirglContext]
      split
      · trivial
      · apply Fetch.andThen_definite hrequest.1
        intro init
        apply Fetch.andThen_definite hrequest.2
        intro params
        split
        · exact contextInitParams_definite _ _
        · split
          · trivial
          · trivial
  | destroyContext => exact lookup_definite fun _ => trivial
  | resourceCreate request =>
      apply Fetch.andThen_definite hrequest.1
      intro create
      apply Fetch.andThen_definite hrequest.2
      intro _
      apply lookup_definite
      intro context
      unfold createResource
      split
      · trivial
      · dsimp only
        split
        · split
          · trivial
          · trivial
        · trivial
  | blobResourceCreate request =>
      apply Fetch.andThen_definite hrequest.1
      intro create
      apply Fetch.andThen_definite hrequest.2
      intro _
      apply lookup_definite
      intro context
      unfold createBlob
      split
      · trivial
      · trivial
  | resourceClose input =>
      apply Fetch.andThen_definite hrequest
      intro close
      exact lookups_definite fun _ _ => trivial
  | wait request =>
      apply Fetch.andThen_definite hrequest.1
      intro cmd
      apply Fetch.andThen_definite hrequest.2
      intro _
      apply lookups_definite
      intro context resource
      split
      · trivial
      · split
        · trivial
        · trivial
  | map request =>
      apply Fetch.andThen_definite hrequest.1
      intro cmd
      apply Fetch.andThen_definite hrequest.2
      intro _
      apply lookups_definite
      intro context resource
      split
      · trivial
      · split
        · trivial
        · split
          · trivial
          · exact mapResource_definite _ _ _
  | execbuffer request =>
      change (ctlSubmitCommand addBuf processId request
        driver).1.status.IsDefinite
      rw [ctlSubmitCommand_eq]
      cases hprepared : prepareSubmit processId request driver with
      | error failure => exact prepareSubmit_definite hrequest hprepared
      | ok prepared =>
          exact submitPages_definite addBuf hrequest.2.2.2.2.2 _ _ _
  | transferHost toHost request =>
      apply Fetch.andThen_definite hrequest
      intro cmd
      exact lookups_definite fun _ _ => trivial

/-- No handler returns STATUS_PENDING. -/
theorem DeviceControl.status_definite {control : DeviceControl}
    (hcontrol : control.FailsWithError) (capabilities : UInt64)
    (before after : Driver) :
    (control.status addBuf capabilities processId before
      after).IsDefinite := by
  cases control with
  | io request woken =>
      cases request with
      | execbuffer request =>
          unfold status
          dsimp only
          cases hprepared : prepareSubmit processId request before with
          | error failure => exact prepareSubmit_definite hcontrol hprepared
          | ok prepared =>
              exact submitPages_definite addBuf hcontrol.2.2.2.2.2 _ _ _
      | map request =>
          have hreply : (ctlMap processId request
              before).1.status.IsDefinite :=
            @virtioVgpuIoControl_definite addBuf processId before
              (.map request) hcontrol
          unfold status
          dsimp only
          cases hmap : (ctlMap processId request before).1 with
          | complete status output =>
              rw [hmap] at hreply
              exact hreply
          | waiting owner =>
              dsimp only
              split
              · trivial
              · exact mapResource_definite _ _ _
      | _ => exact virtioVgpuIoControl_definite addBuf hcontrol
  | getParams request =>
      apply Fetch.reply_definite hcontrol.1
      intro param
      apply Fetch.reply_definite hcontrol.2
      intro _
      trivial
  | getCaps input output =>
      apply Fetch.reply_definite hcontrol.1
      intro wanted
      split
      · trivial
      · apply Fetch.reply_definite hcontrol.2
        intro size
        split
        · trivial
        · trivial
  | unsupported => trivial

end Definite

/-! The handlers of several requests and the stop callback. -/

/-- `WdfRequestStopActionSuspend` -/
def stopActionSuspend : UInt32 := 1

/-- `WdfRequestStopActionPurge` -/
def stopActionPurge : UInt32 := 2

/-- `WdfRequestStopRequestCancelable` -/
def stopRequestCancelable : UInt32 := 0x10000000

/-- Whether `VirtioVgpuIoStop` completes the request; `unmarked` tells whether
`WdfRequestUnmarkCancelable` returns STATUS_CANCELLED. -/
def virtioVgpuIoStop (actionFlags : UInt32) (unmarked : Bool) : Bool :=
  let bCancellable := actionFlags &&& stopRequestCancelable != 0
  if actionFlags &&& stopActionSuspend ≠ 0 then !bCancellable || !unmarked
  else if actionFlags &&& stopActionPurge ≠ 0 then
    !bCancellable || !unmarked
  else false

/-- The rest of what the handler does and the status it will return. -/
inductive HandlerStage
  | running (rest : Program) (status : NtStatus)
  | returned
  deriving DecidableEq

/-- `completed` has an entry for each call of `WdfRequestComplete` and of
`WdfRequestCompleteWithInformation`. -/
structure RequestSession where
  handlers : List HandlerStage
  completed : List Nat

inductive RequestAction
  | deliver (processId : UInt32) (control : DeviceControl)
      (before after : Driver)
  | advance (request : Nat)
  | stop (request : Nat) (actionFlags : UInt32) (unmarked : Bool)

namespace RequestSession

/-- The request has been delivered and not been completed. -/
def Owned (session : RequestSession) (request : Nat) : Prop :=
  request < session.handlers.length ∧ request ∉ session.completed

instance (session : RequestSession) (request : Nat) :
    Decidable (session.Owned request) :=
  inferInstanceAs (Decidable (_ ∧ _))

/-- The handler moves on, a wait included, or returns. -/
def advance (request : Nat) (session : RequestSession) : RequestSession :=
  match session.handlers[request]? with
  | some (.running (_ :: rest) status) =>
      { session with
        handlers := session.handlers.set request (.running rest status) }
  | some (.running [] status) =>
      { handlers := session.handlers.set request .returned
        completed :=
          if status.code ≠ statusPending then request :: session.completed
          else session.completed }
  | _ => session

def step (addBuf : Nat → Bool) (capabilities : UInt64)
    (session : RequestSession) : RequestAction → RequestSession
  | .deliver processId control before after =>
      { session with
        handlers := session.handlers ++
          [.running (control.program processId before)
            (control.status addBuf capabilities processId before after)] }
  | .advance request => session.advance request
  | .stop request actionFlags unmarked =>
      if session.Owned request ∧ virtioVgpuIoStop actionFlags unmarked then
        { session with completed := request :: session.completed }
      else session

def start : RequestSession where
  handlers := []
  completed := []

/-- Every request is completed once by the time its handler returns. -/
def CompletedOnce (session : RequestSession) : Prop :=
  ∀ request, session.handlers[request]? = some .returned →
    session.completed.count request = 1

/-- `VirtioVgpuIoStop` does not complete a request that the driver owns. -/
def Undisturbed (session : RequestSession) : RequestAction → Prop
  | .stop request actionFlags unmarked =>
      session.Owned request →
        virtioVgpuIoStop actionFlags unmarked = false
  | _ => True

end RequestSession

def RequestAction.FailsWithError : RequestAction → Prop
  | .deliver _ control _ _ => control.FailsWithError
  | _ => True

namespace RequestSession

variable {addBuf : Nat → Bool} {capabilities : UInt64}
variable {session : RequestSession}

/-- No running handler is about to return STATUS_PENDING. -/
def Definite (session : RequestSession) : Prop :=
  ∀ rest status, .running rest status ∈ session.handlers →
    status.IsDefinite

/-- Each handler that has returned has completed its request, no other one
has been completed. -/
structure Sound (session : RequestSession) : Prop where
  definite : session.Definite
  returned : ∀ request, session.handlers[request]? = some .returned →
    session.completed.count request = 1
  others : ∀ request, session.handlers[request]? ≠ some .returned →
    session.completed.count request = 0

/-- The request has been completed already when its handler completes it. -/
structure Disturbed (request : Nat) (session : RequestSession) : Prop where
  definite : session.Definite
  delivered : request < session.handlers.length
  running : 1 ≤ session.completed.count request
  returned : session.handlers[request]? = some .returned →
    2 ≤ session.completed.count request

theorem step_definite (h : session.Definite) {action : RequestAction}
    (hfails : action.FailsWithError) :
    (step addBuf capabilities session action).Definite := by
  cases action with
  | deliver processId control before after =>
      intro rest status hmem
      rcases List.mem_append.mp hmem with hold | hnew
      · exact h rest status hold
      · cases List.mem_singleton.mp hnew
        exact DeviceControl.status_definite addBuf hfails capabilities
          before after
  | advance request =>
      intro rest status hmem
      unfold step advance at hmem
      dsimp only at hmem
      split at hmem
      · rename_i op others status' hthread
        rcases List.mem_or_eq_of_mem_set hmem with hold | heq
        · exact h rest status hold
        · cases heq
          exact h _ _ (List.mem_of_getElem? hthread)
      · rcases List.mem_or_eq_of_mem_set hmem with hold | heq
        · exact h rest status hold
        · cases heq
      · exact h rest status hmem
  | stop request actionFlags unmarked =>
      simp only [step]
      split
      · exact h
      · exact h

/-- How a handler moves. -/
theorem advance_cases (h : session.Definite) (request : Nat) :
    session.advance request = session ∨
    (∃ stage rest status, session.handlers[request]? = some stage ∧
      stage ≠ .returned ∧
      session.advance request =
        { session with
          handlers := session.handlers.set request
            (.running rest status) }) ∨
    ∃ status, session.handlers[request]? = some (.running [] status) ∧
      session.advance request =
        { handlers := session.handlers.set request .returned
          completed := request :: session.completed } := by
  unfold advance
  split
  · rename_i op rest status hthread
    exact Or.inr (Or.inl ⟨_, rest, status, hthread, nofun, rfl⟩)
  · rename_i status hthread
    have hpending := (h _ _ (List.mem_of_getElem? hthread)).code_ne_pending
    rw [if_pos hpending]
    exact Or.inr (Or.inr ⟨status, hthread, rfl⟩)
  · exact Or.inl rfl

theorem Sound.of_same (h : session.Sound) {after : RequestSession}
    {request : Nat}
    (hhandler : after.handlers[request]? = some .returned ↔
      session.handlers[request]? = some .returned)
    (hcompleted : after.completed.count request =
      session.completed.count request) :
    (after.handlers[request]? = some .returned →
      after.completed.count request = 1) ∧
    (after.handlers[request]? ≠ some .returned →
      after.completed.count request = 0) := by
  rw [hcompleted]
  constructor
  · intro hreturned
    exact h.returned request (hhandler.mp hreturned)
  · intro hrunning
    exact h.others request fun hreturned => hrunning (hhandler.mpr hreturned)

theorem Sound.step (h : session.Sound) {action : RequestAction}
    (hfails : action.FailsWithError)
    (hundisturbed : session.Undisturbed action) :
    (RequestSession.step addBuf capabilities session action).Sound := by
  have hdefinite : (RequestSession.step addBuf capabilities session
      action).Definite := step_definite h.definite hfails
  suffices hcounts : ∀ other,
      ((RequestSession.step addBuf capabilities session
          action).handlers[other]? = some .returned →
        (RequestSession.step addBuf capabilities session
          action).completed.count other = 1) ∧
      ((RequestSession.step addBuf capabilities session
          action).handlers[other]? ≠ some .returned →
        (RequestSession.step addBuf capabilities session
          action).completed.count other = 0) from
    ⟨hdefinite, fun other => (hcounts other).1, fun other => (hcounts other).2⟩
  intro other
  cases action with
  | deliver processId control before after =>
      apply h.of_same
      · simp only [RequestSession.step]
        rw [List.getElem?_append]
        split
        · rfl
        · rename_i hlength
          rw [List.getElem?_eq_none (by omega : session.handlers.length ≤ other)]
          constructor
          · intro hreturned
            cases List.mem_singleton.mp (List.mem_of_getElem? hreturned)
          · intro hreturned
            cases hreturned
      · rfl
  | advance request =>
      simp only [RequestSession.step]
      rcases advance_cases h.definite request with
        hsame | ⟨stage, rest, status, hthread, hne, heq⟩ |
        ⟨status, hthread, heq⟩
      · rw [hsame]
        exact h.of_same Iff.rfl rfl
      · rw [heq]
        apply h.of_same
        · by_cases hthis : other = request
          · subst hthis
            rw [getElem?_set_moved hthread, hthread]
            constructor
            · intro hreturned
              cases hreturned
            · intro hreturned
              exact absurd (Option.some.inj hreturned) hne
          · rw [getElem?_set_other hthis]
        · rfl
      · rw [heq]
        by_cases hthis : other = request
        · subst hthis
          have hzero := h.others other (by rw [hthread]; nofun)
          dsimp only
          rw [getElem?_set_moved hthread, List.count_cons_self, hzero]
          exact ⟨fun _ => rfl, fun hrunning => absurd rfl hrunning⟩
        · apply h.of_same
          · rw [getElem?_set_other hthis]
          · exact List.count_cons_of_ne (Ne.symm hthis)
  | stop request actionFlags unmarked =>
      have hsame : RequestSession.step addBuf capabilities session
          (.stop request actionFlags unmarked) = session := by
        apply if_neg
        rintro ⟨howned, hstops⟩
        rw [hundisturbed howned] at hstops
        cases hstops
      rw [hsame]
      exact h.of_same Iff.rfl rfl

theorem Disturbed.step {request : Nat} (h : session.Disturbed request)
    {action : RequestAction} (hfails : action.FailsWithError) :
    (RequestSession.step addBuf capabilities session action).Disturbed
      request := by
  have hdefinite : (RequestSession.step addBuf capabilities session
      action).Definite := step_definite h.definite hfails
  have hrunning := h.running
  cases action with
  | deliver processId control before after =>
      refine ⟨hdefinite, ?_, hrunning, fun hreturned => ?_⟩
      · simp only [RequestSession.step, List.length_append]
        exact Nat.lt_add_right _ h.delivered
      · simp only [RequestSession.step] at hreturned ⊢
        rw [List.getElem?_append_left h.delivered] at hreturned
        exact h.returned hreturned
  | advance other =>
      simp only [RequestSession.step] at hdefinite ⊢
      rcases advance_cases h.definite other with
        hsame | ⟨stage, rest, status, hthread, hne, heq⟩ |
        ⟨status, hthread, heq⟩
      · rw [hsame]
        exact h
      · rw [heq] at hdefinite ⊢
        refine ⟨hdefinite, ?_, hrunning, fun hreturned => ?_⟩
        · rw [List.length_set]
          exact h.delivered
        · dsimp only at hreturned ⊢
          by_cases hthis : request = other
          · subst hthis
            rw [getElem?_set_moved hthread] at hreturned
            cases hreturned
          · rw [getElem?_set_other hthis] at hreturned
            exact h.returned hreturned
      · rw [heq] at hdefinite ⊢
        refine ⟨hdefinite, ?_, ?_, fun hreturned => ?_⟩
        · rw [List.length_set]
          exact h.delivered
        · exact Nat.le_trans hrunning List.count_le_count_cons
        · dsimp only at hreturned ⊢
          by_cases hthis : request = other
          · subst hthis
            rw [List.count_cons_self]
            omega
          · rw [getElem?_set_other hthis] at hreturned
            rw [List.count_cons_of_ne (Ne.symm hthis)]
            exact h.returned hreturned
  | stop other actionFlags unmarked =>
      simp only [RequestSession.step] at hdefinite ⊢
      split
      · refine ⟨h.definite, h.delivered, ?_, fun hreturned => ?_⟩
        · exact Nat.le_trans hrunning List.count_le_count_cons
        · exact Nat.le_trans (h.returned hreturned)
            List.count_le_count_cons
      · exact h

theorem Sound.disturbed (h : session.Sound) {request : Nat}
    {actionFlags : UInt32} {unmarked : Bool}
    (howned : session.Owned request)
    (hstops : virtioVgpuIoStop actionFlags unmarked = true) :
    (RequestSession.step addBuf capabilities session
      (.stop request actionFlags unmarked)).Disturbed request := by
  have hzero := List.count_eq_zero.mpr howned.2
  simp only [RequestSession.step]
  rw [if_pos ⟨howned, hstops⟩]
  refine ⟨h.definite, howned.1, ?_, fun hreturned => ?_⟩
  · rw [List.count_cons_self]
    omega
  · rw [h.returned request hreturned] at hzero
    cases hzero

theorem Sound.completedOnce (h : session.Sound) : session.CompletedOnce :=
  h.returned

theorem start_sound : start.Sound where
  definite := fun _ _ hmem => absurd hmem List.not_mem_nil
  returned := fun _ hreturned => by cases hreturned
  others := fun _ _ => rfl

theorem sound_of_along {actions : List RequestAction} (h : session.Sound)
    (hfails : ∀ action ∈ actions, action.FailsWithError)
    (hundisturbed : Along (step addBuf capabilities) Undisturbed session
      actions) :
    (runFrom (step addBuf capabilities) session actions).Sound :=
  ((along_of_mem hfails).and hundisturbed).invariant
    (fun _ _ hsound hguard => hsound.step hguard.1 hguard.2) h

theorem Disturbed.run {request : Nat} {actions : List RequestAction}
    (h : session.Disturbed request)
    (hfails : ∀ action ∈ actions, action.FailsWithError) :
    (runFrom (RequestSession.step addBuf capabilities) session
      actions).Disturbed request := by
  induction actions generalizing session with
  | nil => exact h
  | cons action rest ih =>
      rw [runFrom_cons]
      exact ih (h.step (hfails action List.mem_cons_self))
        fun other hother => hfails other (List.mem_cons_of_mem _ hother)

/-- When all handlers have returned, a disturbance shows. -/
theorem along_of_completedOnce {actions : List RequestAction}
    (h : session.Sound)
    (hfails : ∀ action ∈ actions, action.FailsWithError)
    (hreturned : ∀ stage ∈ (runFrom (step addBuf capabilities) session
      actions).handlers, stage = .returned)
    (honce : (runFrom (step addBuf capabilities) session
      actions).CompletedOnce) :
    Along (step addBuf capabilities) Undisturbed session actions := by
  induction actions generalizing session with
  | nil => trivial
  | cons action rest ih =>
      have hfirst := hfails action List.mem_cons_self
      have hrest : ∀ action ∈ rest, action.FailsWithError :=
        fun other hother => hfails other (List.mem_cons_of_mem _ hother)
      have hguard : session.Undisturbed action := by
        cases action with
        | stop request actionFlags unmarked =>
            intro howned
            by_contra hstops
            rw [Bool.not_eq_false] at hstops
            -- the request has been completed twice at the end
            have hdisturbed : (runFrom (RequestSession.step addBuf
                capabilities) (RequestSession.step addBuf capabilities session
                  (.stop request actionFlags unmarked)) rest).Disturbed
                request :=
              (h.disturbed howned hstops).run hrest
            have hlength := hdisturbed.delivered
            have hlast := List.getElem?_eq_getElem hlength
            rw [hreturned _ (List.getElem_mem hlength)] at hlast
            have htwice := hdisturbed.returned hlast
            have hone := honce request hlast
            rw [runFrom_cons] at hone
            omega
        | _ => trivial
      exact ⟨hguard, ih (h.step hfirst hguard) hrest hreturned honce⟩

end RequestSession

/-- Every request is completed once when `VirtioVgpuIoStop` completes none that
the driver owns, and only then if all handlers return. -/
theorem requests_completed_once (addBuf : Nat → Bool)
    (capabilities : UInt64) (actions : List RequestAction)
    (hfails : ∀ action ∈ actions, action.FailsWithError) :
    (Along (RequestSession.step addBuf capabilities)
        RequestSession.Undisturbed RequestSession.start actions →
      (runFrom (RequestSession.step addBuf capabilities)
        RequestSession.start actions).CompletedOnce) ∧
    ((∀ stage ∈ (runFrom (RequestSession.step addBuf capabilities)
        RequestSession.start actions).handlers, stage = .returned) →
      (runFrom (RequestSession.step addBuf capabilities)
        RequestSession.start actions).CompletedOnce →
      Along (RequestSession.step addBuf capabilities)
        RequestSession.Undisturbed RequestSession.start actions) :=
  ⟨fun hundisturbed => (RequestSession.sound_of_along
      RequestSession.start_sound hfails hundisturbed).completedOnce,
    fun hreturned honce => RequestSession.along_of_completedOnce
      RequestSession.start_sound hfails hreturned honce⟩

/-- The device while the host has not answered a submission of process 7 that
names its resource. -/
def busyWorld : World :=
  runFrom (World.step fun _ => true) World.eightPages
    [.request 7 .initContext, .request 7 (.create 0x1000),
      .request 7 (.submit [1] none)]

def DeviceControl.waitFor (handle : UInt32) : DeviceControl :=
  .io (.wait { input := .ok { handle := handle, flags := 0 }
               output := .ok () }) fun resource =>
    { resource with stateEvent := true }

/-- A wait for a busy resource, with what happens while it is blocked. -/
def waitRun (meanwhile : List RequestAction) : List RequestAction :=
  [.deliver 7 (.waitFor 1) busyWorld.driver busyWorld.driver] ++ meanwhile ++
    [.advance 0, .advance 0]

theorem waitRun_failsWithError {meanwhile : List RequestAction}
    (h : ∀ action ∈ meanwhile, action.FailsWithError) :
    ∀ action ∈ waitRun meanwhile, action.FailsWithError := by
  intro action haction
  rcases List.mem_append.mp haction with hfirst | hlast
  · rcases List.mem_append.mp hfirst with hdeliver | hmeanwhile
    · cases List.mem_singleton.mp hdeliver
      exact ⟨trivial, trivial⟩
    · exact h action hmeanwhile
  · cases hlast with
    | head => trivial
    | tail _ hlast =>
        cases List.mem_singleton.mp hlast
        trivial

/-- Nothing stops the queue while the wait is blocked. -/
theorem requests_completed_once_unstopped :
    (runFrom (RequestSession.step (fun _ => true) 0) RequestSession.start
      (waitRun [])).CompletedOnce :=
  (requests_completed_once (fun _ => true) 0 (waitRun [])
    (waitRun_failsWithError fun _ hmem => absurd hmem List.not_mem_nil)).1
    ⟨trivial, trivial, trivial, trivial⟩

/-- The queue stops while the wait is blocked, which then succeeds. -/
theorem stopped_wait_completed_twice :
    ¬(runFrom (RequestSession.step (fun _ => true) 0) RequestSession.start
      (waitRun [.stop 0 stopActionSuspend false])).CompletedOnce := by
  intro honce
  have hone := honce 0 (by decide +kernel)
  exact absurd hone (by decide +kernel)

end VgpuDriver
