import VgpuDriver.WaitsEnd

namespace VgpuDriver

open Data

/-! The fence object of a submission is signaled for the completion of its
SUBMIT_3D and for nothing else. -/

def Event.IsSignal : Event → Bool
  | .objectSignaled _ => true
  | _ => false

/-- A SUBMIT_3D whose completion signals the object. -/
def VgpuBuffer.Fences (object : Nat) (buffer : VgpuBuffer) : Bool :=
  buffer.IsSubmit && buffer.fenceObject = some object

namespace Driver

/-- The calls of `KeSetEvent` on fence objects, the newest one first. -/
def signals (driver : Driver) : List Event :=
  driver.history.filter Event.IsSignal

def signaled (driver : Driver) (object : Nat) : Nat :=
  driver.signals.count (.objectSignaled object)

/-- The submissions that carry the object and were accepted. -/
def fenced (driver : Driver) (object : Nat) : Nat :=
  driver.pushes.countP fun push => push.2.Fences object

/-- Those that are still in flight. -/
def unsignaled (driver : Driver) (object : Nat) : Nat :=
  (driver.inFlight .command).countP (VgpuBuffer.Fences object) +
    (driver.inFlight .control).countP (VgpuBuffer.Fences object)

end Driver

/-! No request signals a fence object. -/

section Requests

variable {addBuf : Nat → Bool} {contextId : UInt32}
variable {before after driver : Driver}

theorem log_signals {event : Event} (hother : event.IsSignal = false) :
    (driver.log event).signals = driver.signals :=
  List.filter_cons_of_neg (by simp [hother])

theorem pushQueue_signals (queue : Queue) (buffer : VgpuBuffer) :
    (pushQueue addBuf queue buffer driver).2.signals = driver.signals := by
  unfold Driver.signals pushQueue
  dsimp only
  cases addBuf driver.pushCount with
  | true => exact List.filter_cons_of_neg (by simp [Event.IsSignal])
  | false => rfl

theorem sendCommand_signals (queue : Queue) (hdr : CtrlHdr)
    (body : CommandBody) :
    (sendCommand addBuf queue hdr body driver).signals = driver.signals :=
  (pushQueue_signals queue _).trans (log_signals rfl)

theorem submitCommand_signals (virglContextId : UInt32)
    (command : MemoryDescriptor) (commandBufSize : Nat)
    (commandSize : UInt32) (resourceIds : Option (List UInt32))
    (fenceId : UInt64) (fenceObject : Option Nat) :
    (submitCommand addBuf virglContextId command commandBufSize commandSize
      resourceIds fenceId fenceObject driver).2.signals = driver.signals :=
  (pushQueue_signals .command _).trans (log_signals rfl)

theorem reference_signals (objects : List Nat) :
    (driver.reference objects).signals = driver.signals := by
  unfold Driver.signals Driver.reference
  induction objects with
  | nil => rfl
  | cons object objects ih => exact ih

theorem fencedCommand_signals (outFence : Option Nat)
    (cmd : DrmVirtgpuExecbuffer) (memory : MemoryDescriptor)
    (vgpuMemory : VgpuMemory) (objects : List Nat) :
    (fencedCommand outFence cmd memory vgpuMemory
      (driver.reference objects)).2.signals = driver.signals := by
  refine Eq.trans ?_ (reference_signals objects)
  cases outFence with
  | none => exact List.filter_cons_of_neg (by simp [Event.IsSignal])
  | some object => exact List.filter_cons_of_neg (by simp [Event.IsSignal])

theorem grantBacking_signals (resource : VirglResource)
    (vgpuMemory : VgpuMemory) :
    (grantBacking contextId resource vgpuMemory driver).signals =
      driver.signals :=
  (List.filter_cons_of_neg (by simp [Event.IsSignal])).trans
    (List.filter_cons_of_neg (by simp [Event.IsSignal]))

theorem deleteAndRelease_signals (resource : VirglResource) :
    (deleteAndRelease addBuf contextId driver resource).signals =
      driver.signals := by
  have hshare : (if resource.buffer.share.pMdl.isSome then
      deleteUserShareMemory resource driver else driver).signals =
        driver.signals := by
    split
    · unfold deleteUserShareMemory
      split
      · exact log_signals rfl
      · rfl
    · rfl
  have hreleased : ∀ current : Driver,
      (current.releaseRecord resource).signals = current.signals :=
    fun current => List.filter_cons_of_neg (by simp [Event.IsSignal])
  unfold deleteAndRelease deleteResource
  rw [hreleased]
  refine (sendCommand_signals _ _ _).trans ?_
  cases resource.bForBuffer with
  | false => rfl
  | true =>
      cases resource.bForBlob with
      | true =>
          refine (log_signals rfl).trans ?_
          exact (sendCommand_signals _ _ _).trans hshare
      | false =>
          refine (log_signals rfl).trans ?_
          exact (sendCommand_signals _ _ _).trans hshare

theorem ctlDestroyVirglContext_signals (context : VirglContext) :
    (ctlDestroyVirglContext addBuf context driver).signals =
      driver.signals := by
  have hdeleted : ∀ (resources : List VirglResource) (current : Driver),
      (resources.foldl (deleteAndRelease addBuf context.id)
        current).signals = current.signals := by
    intro resources
    induction resources with
    | nil => exact fun _ => rfl
    | cons resource resources ih =>
        exact fun current => (ih _).trans (deleteAndRelease_signals resource)
  exact (sendCommand_signals _ _ _).trans (hdeleted _ _)

theorem mapResource_signals (resource : VirglResource) (request : MapRequest) :
    (mapResource contextId resource request driver).2.signals =
      driver.signals := by
  obtain ⟨share, history, hmap, hhistory⟩ :=
    mapResource_frame contextId resource request driver
  rw [hmap]
  unfold Driver.signals
  rcases hhistory with rfl | ⟨address, mdl, rfl⟩
  · exact List.filter_cons_of_neg (by simp [Event.IsSignal])
  · exact (List.filter_cons_of_neg (by simp [Event.IsSignal])).trans
      (List.filter_cons_of_neg (by simp [Event.IsSignal]))

theorem RequestOutcome.signals {request : IoRequest}
    (houtcome : RequestOutcome addBuf contextId before request after) :
    after.signals = before.signals := by
  cases houtcome with
  | unchanged => rfl
  | opened request contextInit hnew => exact sendCommand_signals _ _ _
  | destroyed context hcontext => exact ctlDestroyVirglContext_signals context
  | exhausted request context create record records hcontext hnone =>
      exact sendCommand_signals _ _ _
  | bare request context create record records hcontext hbuffer =>
      exact sendCommand_signals _ _ _
  | backed request context create record records memory vgpuMemory resource
      hcontext hbuffer halloc hresource =>
      refine (sendCommand_signals _ _ _).trans ?_
      exact (grantBacking_signals resource vgpuMemory).trans
        (sendCommand_signals _ _ _)
  | blobCreated request context create record records hcontext =>
      exact (sendCommand_signals _ _ _).trans (sendCommand_signals _ _ _)
  | closed close context resource hcontext hresource =>
      exact deleteAndRelease_signals resource
  | mapped request context resource handle hcontext hresource hbuffer hidle =>
      exact mapResource_signals resource request
  | referenced request objects => exact reference_signals objects
  | unread request cmd outFence objects memory vgpuMemory halloc hhandles =>
      exact fencedCommand_signals outFence cmd memory vgpuMemory objects
  | uncopied request context cmd outFence objects memory vgpuMemory reads
      hcontext halloc hblock =>
      exact fencedCommand_signals outFence cmd memory vgpuMemory objects
  | listed request context cmd outFence objects memory vgpuMemory reads fenced
      hinput hcontext halloc hreads hfenced =>
      subst hfenced
      refine (submitCommand_signals _ _ _ _ _ _ _).trans ?_
      refine (log_signals rfl).trans ?_
      exact fencedCommand_signals outFence cmd memory vgpuMemory objects
  | unlisted request context cmd outFence objects memory vgpuMemory fenced
      hcontext halloc hfenced =>
      subst hfenced
      exact (submitCommand_signals _ _ _ _ _ _ _).trans
        (fencedCommand_signals outFence cmd memory vgpuMemory objects)
  | transferred toHost request context resource transfer hcontext hresource
      htransfer => exact sendCommand_signals _ _ _

theorem processNotify_signals (processId : UInt32) :
    (processNotify addBuf processId driver).signals = driver.signals := by
  unfold processNotify
  split
  · rfl
  · exact ctlDestroyVirglContext_signals _

end Requests

/-- What the completion of a buffer signals. -/
def VgpuBuffer.signalEvents (buffer : VgpuBuffer) : List Event :=
  if buffer.IsSubmit then
    (buffer.fenceObject.map Event.objectSignaled).toList
  else []

theorem VgpuBuffer.count_signalEvents (buffer : VgpuBuffer) (object : Nat) :
    buffer.signalEvents.count (.objectSignaled object) =
      if buffer.Fences object then 1 else 0 := by
  unfold signalEvents Fences
  cases buffer.IsSubmit with
  | false => rfl
  | true =>
      cases buffer.fenceObject with
      | none => rfl
      | some other => simp [List.count_singleton]

theorem completeBuffer_signals (buffer : VgpuBuffer) (info : MapInfo)
    (mapAddress : Option Nat) (driver : Driver) :
    (completeBuffer buffer info mapAddress driver).signals =
      buffer.signalEvents ++ driver.signals := by
  have hresources : ∀ (ids : List UInt32) (fenceId : UInt64),
      (completeResources buffer.pBuf.hdr.ctxId ids fenceId driver).signals =
        driver.signals := by
    intro ids fenceId
    unfold completeResources
    split
    · rfl
    · rfl
  have hfreed : ∀ current : Driver,
      (freeCommandBuffer buffer current).signals = current.signals :=
    fun current => log_signals rfl
  have hidle : ∀ current : Driver,
      (current.log (.handlesFreed buffer.serial)).signals = current.signals :=
    fun current => log_signals rfl
  have hsignaled : ∀ (object : Nat) (current : Driver),
      (current.log (.objectSignaled object)).signals =
        .objectSignaled object :: current.signals := fun _ _ => rfl
  have hpages : ∀ (virtualAddress size : Nat) (current : Driver),
      (freePages virtualAddress size current).signals = current.signals :=
    fun _ _ _ => rfl
  cases hbody : buffer.pBuf.body with
  | submit3d size =>
      have hsubmit : buffer.IsSubmit = true := by
        simp [VgpuBuffer.IsSubmit, hbody]
      cases hids : buffer.resourceIds <;> cases hfence : buffer.fenceObject <;>
        simp [completeBuffer, hbody, hids, hfence, hfreed, hpages, hsignaled,
          hidle, hresources, VgpuBuffer.signalEvents, hsubmit]
  | resourceMapBlob id =>
      have hnone : buffer.signalEvents = [] := by
        simp [VgpuBuffer.signalEvents, VgpuBuffer.IsSubmit, hbody]
      rw [hnone]
      simp only [completeBuffer, hbody, hfreed]
      split
      · rfl
      · unfold mapBlobResourceCallback
        split
        · rfl
        · split
          · rfl
          · exact log_signals rfl
  | _ =>
      have hnone : buffer.signalEvents = [] := by
        simp [VgpuBuffer.signalEvents, VgpuBuffer.IsSubmit, hbody]
      rw [hnone]
      simp only [completeBuffer, hbody, hfreed, hresources]
      rfl

theorem completeBuffer_signaled (buffer : VgpuBuffer) (info : MapInfo)
    (mapAddress : Option Nat) (driver : Driver) (object : Nat) :
    (completeBuffer buffer info mapAddress driver).signaled object =
      (if buffer.Fences object then 1 else 0) + driver.signaled object := by
  unfold Driver.signaled
  rw [completeBuffer_signals, List.count_append,
    VgpuBuffer.count_signalEvents]

namespace Driver

/-- Each accepted submission has signaled its object or is in flight. -/
def FencesBalanced (driver : Driver) : Prop :=
  ∀ object, driver.signaled object + driver.unsignaled object =
    driver.fenced object

end Driver

section Balance

variable {addBuf : Nat → Bool} {before after driver : Driver}

theorem countP_onQueue (holds : VgpuBuffer → Bool)
    (pushes : List (Queue × VgpuBuffer)) :
    (onQueue .command pushes).countP holds +
        (onQueue .control pushes).countP holds =
      pushes.countP fun push => holds push.2 := by
  induction pushes with
  | nil => rfl
  | cons push rest ih =>
      obtain ⟨queue, buffer⟩ := push
      simp only [onQueue] at ih
      cases queue with
      | command =>
          simp only [onQueue, List.filterMap_cons, if_true, reduceCtorEq,
            if_false, List.countP_cons, ← ih]
          omega
      | control =>
          simp only [onQueue, List.filterMap_cons, if_true, reduceCtorEq,
            if_false, List.countP_cons, ← ih]
          omega

theorem Driver.FencesBalanced.sends (h : before.FencesBalanced)
    {new : List (Queue × VgpuBuffer)} (hsends : Sends new before after)
    (hsignals : after.signals = before.signals) : after.FencesBalanced := by
  intro object
  have hbefore := h object
  have hnew := countP_onQueue (VgpuBuffer.Fences object) new
  unfold Driver.signaled Driver.unsignaled Driver.fenced at hbefore ⊢
  rw [hsignals, hsends.pushes, hsends.inFlight, hsends.inFlight]
  simp only [List.countP_append]
  omega

theorem Driver.FencesBalanced.returnBuffer (h : driver.FencesBalanced)
    {queue : Queue} {slot : Nat} {buffer : VgpuBuffer} (info : MapInfo)
    (hslot : (driver.virtQueues queue).avail[slot]? = some buffer) :
    (driver.returnBuffer queue slot buffer info).FencesBalanced := by
  intro object
  have hpushes : (driver.returnBuffer queue slot buffer info).pushes =
      driver.pushes := (returnBuffer_idles queue slot buffer info driver).pushes
  have hsignals : (driver.returnBuffer queue slot buffer info).signals =
      driver.signals := log_signals rfl
  have hperm := returnBuffer_inFlight_perm info hslot
  unfold Driver.signaled Driver.unsignaled Driver.fenced
  rw [hpushes, hsignals, (hperm .command).countP_eq,
    (hperm .control).countP_eq]
  exact h object

theorem Driver.FencesBalanced.read (h : driver.FencesBalanced)
    (queue : Queue) (mapAddress : Option Nat) :
    (readOneFromQueue queue mapAddress driver).FencesBalanced := by
  have hpushes : (readOneFromQueue queue mapAddress driver).pushes =
      driver.pushes := (readOneFromQueue_idles queue mapAddress driver).pushes
  rcases readOneFromQueue_cases queue mapAddress driver with
    hsame | ⟨buffer, info, rest, _, hread, hcompletes⟩
  · rwa [hsame]
  · intro object
    have hbefore := h object
    have hsignaled : (readOneFromQueue queue mapAddress driver).signaled
        object = _ := hread ▸ completeBuffer_signaled buffer info mapAddress
          (takeUsed queue rest driver) object
    have htaken : (takeUsed queue rest driver).signaled object =
        driver.signaled object := rfl
    unfold Driver.unsignaled Driver.fenced at hbefore ⊢
    rw [hsignaled, hpushes, htaken]
    cases queue with
    | command =>
        rw [hcompletes.head, List.countP_cons] at hbefore
        rw [hcompletes.others .control (by decide)]
        omega
    | control =>
        rw [hcompletes.head, List.countP_cons] at hbefore
        rw [hcompletes.others .command (by decide)]
        omega

theorem World.step_fencesBalanced {world : World}
    (h : world.driver.FencesBalanced) (action : Action) :
    (World.step addBuf world action).driver.FencesBalanced := by
  cases action with
  | request processId request =>
      obtain ⟨new, hsends⟩ :=
        virtioVgpuIoControl_sends addBuf processId world.driver request
      exact h.sends hsends
        (virtioVgpuIoControl_outcome processId world.driver request).signals
  | processExit processId =>
      obtain ⟨new, hsends⟩ := processNotify_sends addBuf processId world.driver
      exact h.sends hsends (processNotify_signals processId)
  | host queue slot info =>
      simp only [World.step]
      split
      · exact h
      · rename_i buffer hslot
        exact h.returnBuffer info hslot
  | dpc queue mapAddress => exact h.read queue mapAddress

end Balance

namespace InterruptWorld

variable {addBuf : Nat → Bool} {setup : InterruptSetup}
variable {world : InterruptWorld}

theorem service_pushes {action : InterruptAction} (h : IsService action) :
    (world.step addBuf setup action).world.driver.pushes =
      world.world.driver.pushes := by
  cases action with
  | request processId request => exact h.elim
  | processExit processId => exact h.elim
  | host queue slot info =>
      simp only [InterruptWorld.step, worldActions, runFrom_cons, runFrom_nil,
        World.step]
      split
      · rfl
      · exact (returnBuffer_idles queue slot _ info _).pushes
  | isr interrupt => rfl
  | dpc interrupt => rfl
  | read slot mapAddress =>
      simp only [InterruptWorld.step, worldActions]
      split
      · split
        · rfl
        · exact (readOneFromQueue_idles _ mapAddress _).pushes
      · rfl

end InterruptWorld

/-- In every run no fence object is signaled more often than submissions with
it were accepted, and with the interrupts served the host and the interrupts
alone lead to where each of these submissions has signaled it once. -/
theorem fences_signaled (addBuf : Nat → Bool) (setup : InterruptSetup)
    (virtualAddress physicalAddress memorySize : Nat) (capsets : Capsets)
    (actions : List InterruptAction) (hserves : setup.Serves) :
    (∀ object,
        (InterruptWorld.reach addBuf setup virtualAddress physicalAddress
          memorySize capsets actions).world.driver.signaled object ≤
        (InterruptWorld.reach addBuf setup virtualAddress physicalAddress
          memorySize capsets actions).world.driver.fenced object) ∧
      ∃ service : List InterruptAction,
        (∀ action ∈ service, InterruptWorld.IsService action) ∧
          ∀ object,
            (InterruptWorld.reach addBuf setup virtualAddress physicalAddress
              memorySize capsets
              (actions ++ service)).world.driver.signaled object =
            (InterruptWorld.reach addBuf setup virtualAddress physicalAddress
              memorySize capsets actions).world.driver.fenced object := by
  have hbalanced : ∀ run : List InterruptAction,
      (InterruptWorld.reach addBuf setup virtualAddress physicalAddress
        memorySize capsets run).world.driver.FencesBalanced := by
    intro run
    unfold InterruptWorld.reach
    rw [InterruptWorld.runFrom_world]
    have hstep : ∀ (world : World) (action : Action),
        world.driver.FencesBalanced → True →
        (World.step addBuf world action).driver.FencesBalanced :=
      fun world action h _ => World.step_fencesBalanced h action
    refine Along.invariant hstep (along_of_mem fun _ _ => trivial) ?_
    exact fun object => rfl
  refine ⟨fun object => ?_, ?_⟩
  · have hsum := hbalanced actions object
    omega
  · have hkept : ∀ (world : InterruptWorld) (action : InterruptAction),
        world.world.driver.pushes =
          (InterruptWorld.reach addBuf setup virtualAddress physicalAddress
            memorySize capsets actions).world.driver.pushes →
        InterruptWorld.IsService action →
        (world.step addBuf setup action).world.driver.pushes =
          (InterruptWorld.reach addBuf setup virtualAddress physicalAddress
            memorySize capsets actions).world.driver.pushes :=
      fun world action h haction =>
        (InterruptWorld.service_pushes haction).trans h
    obtain ⟨service, hactions, hpushes, hsettled⟩ :=
      (InterruptWorld.reach_covered addBuf hserves virtualAddress
        physicalAddress memorySize capsets actions).exists_settled addBuf
        hserves hkept rfl
    have hreach : InterruptWorld.reach addBuf setup virtualAddress
        physicalAddress memorySize capsets (actions ++ service) =
        runFrom (InterruptWorld.step addBuf setup)
          (InterruptWorld.reach addBuf setup virtualAddress physicalAddress
            memorySize capsets actions) service := runFrom_append _ _ _ _
    refine ⟨service, hactions, fun object => ?_⟩
    have hsum := hbalanced (actions ++ service) object
    rw [hreach] at hsum ⊢
    unfold Driver.unsignaled Driver.fenced at hsum
    rw [hsettled.2, hsettled.2, hpushes] at hsum
    exact hsum

/-- Two submissions carry the same object. -/
def fencedRun : List InterruptAction :=
  [.request 7 .initContext, .request 7 (.create 1),
   .request 7 (.submit [1] (some 100)), .request 7 (.submit [1] (some 100)),
   .host .command 2 { gpa := 0, size := 0 }, .isr 0]

theorem fences_signaled_fencedRun :
    (∀ object,
        (InterruptWorld.reach (fun _ => true) (InterruptSetup.line 2) 0x10000
          0x80000 0x8000 .oneCapset
          fencedRun).world.driver.signaled object ≤
        (InterruptWorld.reach (fun _ => true) (InterruptSetup.line 2) 0x10000
          0x80000 0x8000 .oneCapset
          fencedRun).world.driver.fenced object) ∧
      ∃ service : List InterruptAction,
        (∀ action ∈ service, InterruptWorld.IsService action) ∧
          ∀ object,
            (InterruptWorld.reach (fun _ => true) (InterruptSetup.line 2)
              0x10000 0x80000 0x8000 .oneCapset
              (fencedRun ++ service)).world.driver.signaled object =
            (InterruptWorld.reach (fun _ => true) (InterruptSetup.line 2)
              0x10000 0x80000 0x8000 .oneCapset
              fencedRun).world.driver.fenced object :=
  fences_signaled (fun _ => true) (InterruptSetup.line 2) 0x10000 0x80000
    0x8000 .oneCapset fencedRun
    (InterruptSetup.line_serves_iff.mpr (Nat.le_refl 2))

end VgpuDriver
