import VgpuDriver.Data.Pool
import VgpuDriver.Data.Transition
import VgpuDriver.Effects

namespace VgpuDriver

open Data

/-! Fenced submissions that run in parallel: drawing the fence id, marking the
resources and pushing the SUBMIT_3D are one step each, and completions come in
between. -/

/-- A SUBMIT_3D with a fence: the handles that were marked and the copy of
them that the completion uses. -/
structure Submission where
  contextId : UInt32
  fenceId : UInt64
  marked : List UInt32
  copied : List UInt32
  deriving DecidableEq, Repr

/-- How far `CtlSubmitCommand` is; `copies` says that the handles could be
copied. -/
inductive FenceStage
  | started (contextId : UInt32) (cmd : DrmVirtgpuExecbuffer)
      (request : ExecbufferRequest)
  | drawn (contextId : UInt32) (fenceId : UInt64)
      (cmd : DrmVirtgpuExecbuffer) (request : ExecbufferRequest)
  | marked (submission : Submission) (copies : Bool)
  | returned

/-- `inFlight` holds the submissions pushed and not completed, the oldest
first, and `pushed` the fence ids in the order of the pushes, the newest
first. -/
structure FenceSession where
  virglContextList : List VirglContext
  fenceIds : Idr
  threads : List FenceStage
  inFlight : List Submission
  pushed : List UInt64
  pushCount : Nat

inductive FenceAction
  | submit (contextId : UInt32) (cmd : DrmVirtgpuExecbuffer)
      (request : ExecbufferRequest)
  | advance (thread : Nat)
  | complete (slot : Nat)

namespace FenceSession

variable (session : FenceSession)

def call (stage : FenceStage) : FenceSession :=
  { session with threads := session.threads ++ [stage] }

def move (thread : Nat) (stage : FenceStage) : FenceSession :=
  { session with threads := session.threads.set thread stage }

/-- `UpdateResourceState` on the context with the id. -/
def update (contextId : UInt32) (resourceIds : List UInt32) (busy : Bool)
    (fenceId : UInt64) : FenceSession :=
  { session with
    virglContextList := modifyFirst
      (fun context => decide (context.id = contextId))
      (updateResourceState resourceIds busy fenceId)
      session.virglContextList }

variable (addBuf : Nat → Bool)

def push (submission : Submission) : FenceSession :=
  if addBuf session.pushCount then
    { session with
      inFlight := session.inFlight ++ [submission]
      pushed := submission.fenceId :: session.pushed
      pushCount := session.pushCount + 1 }
  else { session with pushCount := session.pushCount + 1 }

def advance (thread : Nat) : FenceStage → FenceSession
  | .started contextId cmd request =>
      let drawn := getIdFromIdrWithoutCache 8 session.fenceIds
      ({ session with fenceIds := drawn.2 } : FenceSession).move thread
        (.drawn contextId (UInt64.ofNat drawn.1) cmd request)
  | .drawn contextId fenceId cmd request =>
      if cmd.numBoHandles > 0 then
        match request.handles with
        | .ok reads =>
            (session.update contextId (markedIds cmd reads) true
              fenceId).move thread
                (.marked
                  { contextId := contextId
                    fenceId := fenceId
                    marked := markedIds cmd reads
                    copied := copiedIds cmd reads }
                  request.handlesBlock)
        | _ => session.move thread .returned
      else
        session.move thread
          (.marked
            { contextId := contextId
              fenceId := fenceId
              marked := []
              copied := [] }
            true)
  | .marked submission copies =>
      if copies then
        (session.push addBuf submission).move thread .returned
      else session.move thread .returned
  | .returned => session

def step : FenceAction → FenceSession
  | .submit contextId cmd request =>
      match getVirglContextFromListUnsafe session.virglContextList
          contextId with
      | none => session
      | some _ => session.call (.started contextId cmd request)
  | .advance thread =>
      match session.threads[thread]? with
      | none => session
      | some stage => session.advance addBuf thread stage
  | .complete slot =>
      match session.inFlight[slot]? with
      | none => session
      | some submission =>
          { session.update submission.contextId submission.copied false
              submission.fenceId with
            inFlight := session.inFlight.eraseIdx slot }

/-! A submission whose steps nothing interrupts does to the resources and the
counter what `CtlSubmitCommand` does in the sequential model. -/

section Alone

variable {session} {addBuf}

theorem step_advance {thread : Nat} {stage : FenceStage}
    (hthread : session.threads[thread]? = some stage) :
    session.step addBuf (.advance thread) =
      session.advance addBuf thread stage := by
  simp only [step, hthread]

@[simp] theorem push_frame (submission : Submission) :
    (session.push addBuf submission).virglContextList =
        session.virglContextList ∧
      (session.push addBuf submission).fenceIds = session.fenceIds := by
  unfold push
  split
  · exact ⟨rfl, rfl⟩
  · exact ⟨rfl, rfl⟩

theorem submitPages_alone {driver : Driver} {context : VirglContext}
    {cmd : DrmVirtgpuExecbuffer} {request : ExecbufferRequest}
    {object : Nat} {memory : MemoryDescriptor} {vgpuMemory : VgpuMemory}
    (hcontexts : session.virglContextList = driver.virglContextList)
    (hids : session.fenceIds = driver.fenceIds)
    (hfound : getVirglContextFromListUnsafe driver.virglContextList
      context.id = some context)
    (hpages : VgpuDriver.allocateVgpuMemory (roundUp cmd.size 0x1000).toNat
      driver.vgpuMemory = some (memory, vgpuMemory)) :
    let after := runFrom (fun session => step session addBuf) session
      [.submit context.id cmd request, .advance session.threads.length,
        .advance session.threads.length, .advance session.threads.length]
    let expected :=
      (submitPages addBuf context cmd request (some object) driver).2
    after.virglContextList = expected.virglContextList ∧
      after.fenceIds = expected.fenceIds := by
  have hcall : session.step addBuf (.submit context.id cmd request) =
      session.call (.started context.id cmd request) := by
    simp only [step, hcontexts, hfound]
  have hstarted : (session.call
      (.started context.id cmd request)).threads[session.threads.length]? =
        some (.started context.id cmd request) := List.getElem?_concat_length
  have hdrawn : ((session.call (.started context.id cmd
      request)).threads.set session.threads.length
        (.drawn context.id
          (UInt64.ofNat (getIdFromIdrWithoutCache 8 session.fenceIds).1) cmd
          request))[session.threads.length]? = some _ :=
    getElem?_set_moved hstarted
  rw [runFrom_cons, hcall, runFrom_cons, step_advance hstarted, runFrom_cons,
    step_advance hdrawn, runFrom_cons, runFrom_nil]
  have hnext : (getIdFromIdrWithoutCache 8 session.fenceIds).2 =
      (getIdFromIdrWithoutCache 8 driver.fenceIds).2 := by rw [hids]
  have hmarked : ∀ ids, (session.update context.id ids true
      (UInt64.ofNat
        (getIdFromIdrWithoutCache 8 session.fenceIds).1)).virglContextList =
      (driver.modifyContext context.id (updateResourceState ids true
        (UInt64.ofNat
          (getIdFromIdrWithoutCache 8 driver.fenceIds).1))).virglContextList
      := by
    intro ids
    unfold update Driver.modifyContext
    dsimp only
    rw [hids, hcontexts]
  unfold submitPages
  simp only [hpages, drawFenceId, advance]
  by_cases hhandles : cmd.numBoHandles > 0
  · rw [if_pos hhandles, if_pos hhandles]
    cases request.handles with
    | failed code =>
        rw [step_advance (getElem?_set_moved hdrawn)]
        exact ⟨hcontexts, hnext⟩
    | rejected =>
        rw [step_advance (getElem?_set_moved hdrawn)]
        exact ⟨hcontexts, hnext⟩
    | ok reads =>
        simp only [Fetch.andThen]
        rw [step_advance (getElem?_set_moved hdrawn)]
        simp only [advance]
        cases request.handlesBlock with
        | false => exact ⟨hmarked _, hnext⟩
        | true =>
            simp only [Bool.not_true, Bool.false_eq_true, if_false, if_true]
            exact ⟨(push_frame _).1.trans (hmarked _),
              (push_frame _).2.trans hnext⟩
  · rw [if_neg hhandles, if_neg hhandles,
      step_advance (getElem?_set_moved hdrawn)]
    simp only [advance, if_true]
    exact ⟨(push_frame _).1.trans hcontexts, (push_frame _).2.trans hnext⟩

end Alone

end FenceSession

end VgpuDriver
