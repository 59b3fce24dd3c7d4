import VgpuDriver.Outcome
import VgpuDriver.Sent

namespace VgpuDriver

open Data

/-! What the commands hold until they are completed: the record with its block,
and the copy of the handle array. -/

/-- GET_CAPSET and GET_CAPSET_INFO: the caller waits and frees the buffer. -/
def VgpuBuffer.IsSync (buffer : VgpuBuffer) : Bool :=
  match buffer.pBuf.body with
  | .getCapset _ _ | .getCapsetInfo _ => true
  | _ => false

/-- `VGPU_BUFFER` with its `pBuf`, and its `ResourceIds`. -/
inductive Holding
  | record
  | handles
  deriving DecidableEq

namespace Holding

def taken : Holding → Nat → Event
  | .record => .bufferTaken
  | .handles => .handlesTaken

def freed : Holding → Nat → Event
  | .record => .bufferFreed
  | .handles => .handlesFreed

/-- The completion of the buffer gives it back. -/
def of (buffer : VgpuBuffer) : Holding → Bool
  | .record => !buffer.IsSync
  | .handles => buffer.IsSubmit && buffer.resourceIds.isSome

end Holding

def Event.IsHolding : Event → Bool
  | .bufferTaken _ | .bufferFreed _ | .handlesTaken _ | .handlesFreed _ =>
      true
  | _ => false

/-- The commands of the list that hold it under the serial. -/
def heldIn (holding : Holding) (serial : Nat) (buffers : List VgpuBuffer) :
    Nat :=
  buffers.countP fun buffer => buffer.serial = serial && holding.of buffer

namespace Driver

def takes (driver : Driver) (holding : Holding) (serial : Nat) : Nat :=
  driver.history.count (holding.taken serial)

def frees (driver : Driver) (holding : Holding) (serial : Nat) : Nat :=
  driver.history.count (holding.freed serial)

/-- The commands in flight that hold it. -/
def holds (driver : Driver) (holding : Holding) (serial : Nat) : Nat :=
  heldIn holding serial (driver.inFlight .command) +
    heldIn holding serial (driver.inFlight .control)

/-- The events about holdings, the newest one first. -/
def holdings (driver : Driver) : List Event :=
  driver.history.filter Event.IsHolding

end Driver

/-- The serial was given out between the two states. -/
def drawn (before after : Driver) (serial : Nat) : Nat :=
  if before.pushCount ≤ serial ∧ serial < after.pushCount then 1 else 0

/-- Whatever was taken is held by a new command in flight. -/
structure Fills (before after : Driver) : Prop where
  count : before.pushCount ≤ after.pushCount
  takes : ∀ holding serial, after.takes holding serial ≤
    before.takes holding serial + drawn before after serial
  frees : ∀ holding serial,
    after.frees holding serial = before.frees holding serial
  holds : ∀ holding serial,
    after.holds holding serial + before.takes holding serial =
      before.holds holding serial + after.takes holding serial

section Counts

variable {before middle after driver : Driver} {holding : Holding}
variable {serial : Nat}

theorem takes_of_holdings (h : after.holdings = before.holdings) :
    after.takes holding serial = before.takes holding serial := by
  have htaken : (holding.taken serial).IsHolding = true := by
    cases holding <;> rfl
  unfold Driver.takes
  rw [← List.count_filter htaken]
  rw [← List.count_filter (l := before.history) htaken]
  exact congrArg _ h

theorem frees_of_holdings (h : after.holdings = before.holdings) :
    after.frees holding serial = before.frees holding serial := by
  have hfreed : (holding.freed serial).IsHolding = true := by
    cases holding <;> rfl
  unfold Driver.frees
  rw [← List.count_filter hfreed]
  rw [← List.count_filter (l := before.history) hfreed]
  exact congrArg _ h

theorem holds_of_perm
    (h : ∀ queue, (after.inFlight queue).Perm (before.inFlight queue)) :
    after.holds holding serial = before.holds holding serial := by
  unfold Driver.holds heldIn
  rw [(h .command).countP_eq, (h .control).countP_eq]

theorem heldIn_append (front back : List VgpuBuffer) :
    heldIn holding serial (front ++ back) =
      heldIn holding serial front + heldIn holding serial back :=
  List.countP_append

theorem heldIn_cons (buffer : VgpuBuffer) (buffers : List VgpuBuffer) :
    heldIn holding serial (buffer :: buffers) =
      heldIn holding serial buffers +
        if buffer.serial = serial ∧ holding.of buffer = true then 1
        else 0 := by
  unfold heldIn
  rw [List.countP_cons]
  simp

theorem holds_of_extends {queue : Queue} {buffer : VgpuBuffer}
    {addBuf : Nat → Bool} (haccepted : addBuf buffer.serial = true)
    (h : Extends (accepted addBuf queue buffer) before after) :
    after.holds holding serial = before.holds holding serial +
      if buffer.serial = serial ∧ holding.of buffer = true then 1
      else 0 := by
  have hone : heldIn holding serial [buffer] =
      if buffer.serial = serial ∧ holding.of buffer = true then 1 else 0 := by
    rw [heldIn_cons]
    exact Nat.zero_add _
  unfold Driver.holds
  rw [h.inFlight, h.inFlight, heldIn_append, heldIn_append]
  cases queue with
  | command =>
      simp only [accepted, haccepted, and_self, if_true, reduceCtorEq,
        false_and, if_false, hone]
      simp only [heldIn, List.countP_nil]
      omega
  | control =>
      simp only [accepted, haccepted, and_self, if_true, reduceCtorEq,
        false_and, if_false, hone]
      simp only [heldIn, List.countP_nil]
      omega

end Counts

namespace Fills

variable {addBuf : Nat → Bool} {before middle after : Driver}

theorem trans (hfirst : Fills before middle) (hsecond : Fills middle after) :
    Fills before after where
  count := Nat.le_trans hfirst.count hsecond.count
  takes := by
    intro holding serial
    have hcount := hfirst.count
    have hcount' := hsecond.count
    have htakes := hfirst.takes holding serial
    have htakes' := hsecond.takes holding serial
    have hdrawn : drawn before after serial =
        drawn before middle serial + drawn middle after serial := by
      unfold drawn
      split_ifs <;> omega
    omega
  frees := fun holding serial =>
    (hsecond.frees holding serial).trans (hfirst.frees holding serial)
  holds := by
    intro holding serial
    have hholds := hfirst.holds holding serial
    have hholds' := hsecond.holds holding serial
    omega

theorem of_frame (hholdings : after.holdings = before.holdings)
    (hqueues : after.virtQueues = before.virtQueues)
    (hcount : after.pushCount = before.pushCount) : Fills before after where
  count := Nat.le_of_eq hcount.symm
  takes := by
    intro holding serial
    rw [takes_of_holdings hholdings]
    exact Nat.le_add_right _ _
  frees := fun holding serial => frees_of_holdings hholdings
  holds := by
    intro holding serial
    rw [takes_of_holdings hholdings]
    unfold Driver.holds Driver.inFlight
    rw [hqueues]

theorem from_frame (h : Fills middle after)
    (hholdings : middle.holdings = before.holdings)
    (hqueues : middle.virtQueues = before.virtQueues)
    (hcount : middle.pushCount = before.pushCount) : Fills before after :=
  (Fills.of_frame hholdings hqueues hcount).trans h

theorem to_frame (h : Fills before middle)
    (hholdings : after.holdings = middle.holdings)
    (hqueues : after.virtQueues = middle.virtQueues)
    (hcount : after.pushCount = middle.pushCount) : Fills before after :=
  h.trans (.of_frame hholdings hqueues hcount)

/-- A command is pushed, and what it holds was taken for it. -/
theorem of_push {queue : Queue} {buffer : VgpuBuffer}
    (haccepted : addBuf buffer.serial = true)
    (hextends : Extends (accepted addBuf queue buffer) before after)
    (hserial : buffer.serial = before.pushCount)
    (hcount : after.pushCount = before.pushCount + 1)
    (htakes : ∀ holding serial, after.takes holding serial =
      before.takes holding serial +
        if buffer.serial = serial ∧ holding.of buffer = true then 1 else 0)
    (hfrees : ∀ holding serial,
      after.frees holding serial = before.frees holding serial) :
    Fills before after where
  count := hextends.pushCount
  takes := by
    intro holding serial
    rw [htakes]
    unfold drawn
    split_ifs <;> omega
  frees := hfrees
  holds := by
    intro holding serial
    rw [htakes, holds_of_extends haccepted hextends]
    omega

end Fills

section Operations

variable {addBuf : Nat → Bool}

theorem sendCommand_takes (hpush : ∀ serial, addBuf serial = true)
    (queue : Queue) (hdr : CtrlHdr) (body : CommandBody) (driver : Driver)
    (holding : Holding) (serial : Nat) :
    (sendCommand addBuf queue hdr body driver).takes holding serial =
      driver.takes holding serial +
        if driver.pushCount = serial ∧ holding = .record then 1 else 0 := by
  unfold Driver.takes sendCommand pushQueue allocateCommandBuffer Driver.log
  cases holding <;> simp [hpush, Holding.taken, List.count_cons]

theorem sendCommand_frees (hpush : ∀ serial, addBuf serial = true)
    (queue : Queue) (hdr : CtrlHdr) (body : CommandBody) (driver : Driver)
    (holding : Holding) (serial : Nat) :
    (sendCommand addBuf queue hdr body driver).frees holding serial =
      driver.frees holding serial := by
  unfold Driver.frees sendCommand pushQueue allocateCommandBuffer Driver.log
  cases holding <;> simp [hpush, Holding.freed]

theorem sendCommand_fills (hpush : ∀ serial, addBuf serial = true)
    (queue : Queue) (hdr : CtrlHdr) (body : CommandBody)
    (hasync : (commandBuffer hdr body 0).IsSync = false) (driver : Driver) :
    Fills driver (sendCommand addBuf queue hdr body driver) := by
  refine Fills.of_push (hpush _)
    (sendCommand_extends addBuf queue hdr body driver) rfl rfl ?_ ?_
  · intro holding serial
    rw [sendCommand_takes hpush]
    have hserial : (commandBuffer hdr body driver.pushCount).serial =
        driver.pushCount := rfl
    have hsync : (commandBuffer hdr body driver.pushCount).IsSync = false :=
      hasync
    have hids : (commandBuffer hdr body
        driver.pushCount).resourceIds.isSome = false := rfl
    cases holding with
    | record => simp [Holding.of, hserial, hsync]
    | handles => simp [Holding.of, hids]
  · intro holding serial
    exact sendCommand_frees hpush queue hdr body driver holding serial

theorem sendCommand_holds_sync (hpush : ∀ serial, addBuf serial = true)
    (queue : Queue) (hdr : CtrlHdr) (body : CommandBody)
    (hsync : (commandBuffer hdr body 0).IsSync = true) (driver : Driver)
    (holding : Holding) (serial : Nat) :
    (sendCommand addBuf queue hdr body driver).holds holding serial =
      driver.holds holding serial := by
  rw [holds_of_extends (hpush _)
    (sendCommand_extends addBuf queue hdr body driver), if_neg]
  · exact Nat.add_zero _
  · rintro ⟨_, hof⟩
    have hsync' : (commandBuffer hdr body driver.pushCount).IsSync = true :=
      hsync
    cases holding with
    | record =>
        rw [Holding.of, hsync'] at hof
        cases hof
    | handles => simp [Holding.of, commandBuffer] at hof

private theorem submitCommand_frees (hpush : ∀ serial, addBuf serial = true)
    (virglContextId : UInt32) (command : MemoryDescriptor)
    (commandBufSize : Nat) (commandSize : UInt32)
    (ids : Option (List UInt32)) (fenceId : UInt64)
    (fenceObject : Option Nat) (driver : Driver) (holding : Holding)
    (serial : Nat) :
    (submitCommand addBuf virglContextId command commandBufSize commandSize
      ids fenceId fenceObject driver).2.frees holding serial =
        driver.frees holding serial := by
  unfold Driver.frees submitCommand pushQueue allocateCommandBuffer Driver.log
  cases holding <;> simp [hpush, Holding.freed]

theorem submitCommand_fills (hpush : ∀ serial, addBuf serial = true)
    (virglContextId : UInt32) (command : MemoryDescriptor)
    (commandBufSize : Nat) (commandSize : UInt32) (ids : List UInt32)
    (fenceId : UInt64) (fenceObject : Option Nat) (driver : Driver) :
    Fills driver (submitCommand addBuf virglContextId command commandBufSize
      commandSize (some ids) fenceId fenceObject
      (driver.log (.handlesTaken driver.pushCount))).2 := by
  have hextends := submitCommand_extends addBuf virglContextId command
    commandBufSize commandSize (some ids) fenceId fenceObject
    (driver.log (.handlesTaken driver.pushCount))
  refine Fills.of_push (hpush _) (hextends.from_frame rfl rfl) rfl rfl ?_ ?_
  · intro holding serial
    unfold Driver.takes submitCommand pushQueue allocateCommandBuffer
      Driver.log
    cases holding <;>
      simp [hpush, Holding.taken, Holding.of, submitBuffer,
        VgpuBuffer.IsSync, VgpuBuffer.IsSubmit, List.count_cons]
  · intro holding serial
    have hlogged : (driver.log (.handlesTaken driver.pushCount)).frees holding
        serial = driver.frees holding serial := by
      unfold Driver.frees Driver.log
      cases holding <;> simp [Holding.freed]
    exact (submitCommand_frees hpush virglContextId command commandBufSize
      commandSize (some ids) fenceId fenceObject _ holding serial).trans
        hlogged

theorem submitCommand_bare_fills (hpush : ∀ serial, addBuf serial = true)
    (virglContextId : UInt32) (command : MemoryDescriptor)
    (commandBufSize : Nat) (commandSize : UInt32) (fenceId : UInt64)
    (fenceObject : Option Nat) (driver : Driver) :
    Fills driver (submitCommand addBuf virglContextId command commandBufSize
      commandSize none fenceId fenceObject driver).2 := by
  refine Fills.of_push (hpush _)
    (submitCommand_extends addBuf virglContextId command commandBufSize
      commandSize none fenceId fenceObject driver) rfl rfl ?_ ?_
  · intro holding serial
    unfold Driver.takes submitCommand pushQueue allocateCommandBuffer
      Driver.log
    cases holding <;>
      simp [hpush, Holding.taken, Holding.of, submitBuffer,
        VgpuBuffer.IsSync, VgpuBuffer.IsSubmit, List.count_cons]
  · exact submitCommand_frees hpush virglContextId command commandBufSize
      commandSize none fenceId fenceObject driver

/-! The deletion of resources. -/

private theorem share_fills (resource : VirglResource) (driver : Driver) :
    Fills driver
      (if resource.buffer.share.pMdl.isSome then
        deleteUserShareMemory resource driver else driver) := by
  split
  · unfold deleteUserShareMemory
    split
    · exact .of_frame rfl rfl rfl
    · exact .of_frame rfl rfl rfl
  · exact .of_frame rfl rfl rfl

theorem deleteAndRelease_fills (hpush : ∀ serial, addBuf serial = true)
    (contextId : UInt32) (resource : VirglResource) (driver : Driver) :
    Fills driver (deleteAndRelease addBuf contextId driver resource) := by
  have hshare := share_fills resource driver
  have hunref : ∀ before : Driver, Fills before
      ((unrefResource addBuf contextId resource.id
        before).releaseRecord resource) := fun before =>
    (sendCommand_fills hpush _ _ _ rfl before).to_frame rfl rfl rfl
  unfold deleteAndRelease deleteResource
  cases resource.bForBuffer with
  | false => exact hunref _
  | true =>
      cases resource.bForBlob with
      | true =>
          have hunmap := hshare.trans (sendCommand_fills hpush .command
            (ctrlHdr contextId 0) (.resourceUnmapBlob resource.id) rfl _)
          refine Fills.trans ?_ (hunref _)
          exact hunmap.to_frame rfl rfl rfl
      | false =>
          have hdetach := hshare.trans (sendCommand_fills hpush .command
            (ctrlHdr 0 0) (.resourceDetachBacking resource.id) rfl _)
          refine Fills.trans ?_ (hunref _)
          exact hdetach.to_frame rfl rfl rfl

theorem ctlDestroyVirglContext_fills (hpush : ∀ serial, addBuf serial = true)
    (context : VirglContext) (driver : Driver) :
    Fills driver (ctlDestroyVirglContext addBuf context driver) := by
  have hfold : ∀ (resources : List VirglResource) (before : Driver),
      Fills before (resources.foldl (deleteAndRelease addBuf context.id)
        before) := by
    intro resources
    induction resources with
    | nil => exact fun before => .of_frame rfl rfl rfl
    | cons head tail ih =>
        intro before
        exact (deleteAndRelease_fills hpush context.id head before).trans
          (ih _)
  have hunlinked : Fills driver
      (context.resourceList.reverse.foldl
        (deleteAndRelease addBuf context.id)
        { driver with
          virglContextList := driver.virglContextList.eraseP fun other =>
            decide (other.id = context.id) }) :=
    (hfold _ _).from_frame rfl rfl rfl
  exact hunlinked.trans (sendCommand_fills hpush _ _ _ rfl _)

theorem processNotify_fills (hpush : ∀ serial, addBuf serial = true)
    (processId : UInt32) (driver : Driver) :
    Fills driver (processNotify addBuf processId driver) := by
  unfold processNotify
  split
  · exact .of_frame rfl rfl rfl
  · exact ctlDestroyVirglContext_fills hpush _ driver

/-! The requests. -/

private theorem reference_holdings (objects : List Nat) (driver : Driver) :
    (driver.reference objects).holdings = driver.holdings := by
  unfold Driver.holdings Driver.reference
  induction objects with
  | nil => rfl
  | cons object objects ih => exact ih

private theorem fencedCommand_fills (outFence : Option Nat)
    (cmd : DrmVirtgpuExecbuffer) (memory : MemoryDescriptor)
    (vgpuMemory : VgpuMemory) (objects : List Nat) (driver : Driver) :
    Fills driver (fencedCommand outFence cmd memory vgpuMemory
      (driver.reference objects)).2 := by
  have hobjects := reference_holdings objects driver
  cases outFence with
  | none => exact .of_frame hobjects rfl rfl
  | some object => exact .of_frame hobjects rfl rfl

private theorem mapResource_fills (contextId : UInt32)
    (resource : VirglResource) (request : MapRequest) (driver : Driver) :
    Fills driver (mapResource contextId resource request driver).2 := by
  obtain ⟨share, history, hmap, hhistory⟩ := mapResource_frame contextId
    resource request driver
  rw [hmap]
  rcases hhistory with rfl | ⟨address, mdl, rfl⟩
  · exact .of_frame rfl rfl rfl
  · exact .of_frame rfl rfl rfl

private theorem RequestOutcome.fills
    (hpush : ∀ serial, addBuf serial = true) {contextId : UInt32}
    {before after : Driver} {request : IoRequest}
    (h : RequestOutcome addBuf contextId before request after) :
    Fills before after := by
  cases h with
  | unchanged => exact .of_frame rfl rfl rfl
  | opened request contextInit hnew =>
      exact (sendCommand_fills hpush _ _ _ rfl _).from_frame rfl rfl rfl
  | destroyed context hcontext =>
      exact ctlDestroyVirglContext_fills hpush context before
  | exhausted request context create record records hcontext hnone =>
      exact (sendCommand_fills hpush _ _ _ rfl _).from_frame rfl rfl rfl
  | bare request context create record records hcontext hbuffer =>
      exact ((sendCommand_fills hpush _ _ _ rfl _).from_frame rfl rfl
        rfl).to_frame rfl rfl rfl
  | backed request context create record records memory vgpuMemory resource
      hcontext hbuffer halloc hresource =>
      have hcreated : Fills before
          (created3d addBuf context create record records before) :=
        (sendCommand_fills hpush _ _ _ rfl _).from_frame rfl rfl rfl
      have hgranted : Fills before
          (grantBacking context.id resource vgpuMemory
            (created3d addBuf context create record records before)) :=
        hcreated.to_frame rfl rfl rfl
      have hattached : Fills before
          (attachResourceBacking addBuf context.id resource
            (grantBacking context.id resource vgpuMemory
              (created3d addBuf context create record records before))) :=
        hgranted.trans (sendCommand_fills hpush _ _ _ rfl _)
      exact hattached.to_frame rfl rfl rfl
  | blobCreated request context create record records hcontext =>
      have hcreated : Fills before
          (createBlobResource addBuf context.id (nameBlob before record).id
            (blobParam create) 0 (takeRecord records before)) :=
        (sendCommand_fills hpush _ _ _ rfl _).from_frame rfl rfl rfl
      have hinserted : Fills before
          ((createBlobResource addBuf context.id (nameBlob before record).id
            (blobParam create) 0 (takeRecord records before)).insertResource
              context.id (nameBlob before record)) :=
        hcreated.to_frame rfl rfl rfl
      exact hinserted.trans (sendCommand_fills hpush _ _ _ rfl _)
  | closed close context resource hcontext hresource =>
      exact (deleteAndRelease_fills hpush context.id resource _).from_frame
        rfl rfl rfl
  | mapped request context resource handle hcontext hresource hbuffer
      hidle => exact mapResource_fills context.id resource request before
  | referenced request objects =>
      exact .of_frame (reference_holdings objects before) rfl rfl
  | unread request cmd outFence objects memory vgpuMemory halloc hhandles =>
      exact fencedCommand_fills outFence cmd memory vgpuMemory objects before
  | uncopied request context cmd outFence objects memory vgpuMemory reads
      hcontext halloc hblock =>
      exact (fencedCommand_fills outFence cmd memory vgpuMemory objects
        before).to_frame rfl rfl rfl
  | listed request context cmd outFence objects memory vgpuMemory reads
      fenced hinput hcontext halloc hreads hfenced =>
      subst hfenced
      have hfenced := fencedCommand_fills outFence cmd memory vgpuMemory
        objects before
      have hmarked : Fills before
          ((fencedCommand outFence cmd memory vgpuMemory
            (before.reference objects)).2.modifyContext context.id
              (updateResourceState (markedIds cmd reads) true
                (fencedCommand outFence cmd memory vgpuMemory
                  (before.reference objects)).1)) :=
        hfenced.to_frame rfl rfl rfl
      exact hmarked.trans (submitCommand_fills hpush _ _ _ _ _ _ _ _)
  | unlisted request context cmd outFence objects memory vgpuMemory fenced
      hcontext halloc hfenced =>
      subst hfenced
      exact (fencedCommand_fills outFence cmd memory vgpuMemory objects
        before).trans (submitCommand_bare_fills hpush _ _ _ _ _ _ _)
  | transferred toHost request context resource transfer hcontext hresource
      htransfer =>
      exact (sendCommand_fills hpush _ _ _ rfl _).from_frame rfl rfl rfl

theorem virtioVgpuIoControl_fills (hpush : ∀ serial, addBuf serial = true)
    (processId : UInt32) (driver : Driver) (request : IoRequest) :
    Fills driver
      (virtioVgpuIoControl addBuf processId driver request).2 :=
  (virtioVgpuIoControl_outcome processId driver request).fills hpush

end Operations

/-! The completion. -/

/-- What the completion of the buffer gives back, the last one first. -/
def VgpuBuffer.freedEvents (buffer : VgpuBuffer) : List Event :=
  (if Holding.record.of buffer then [.bufferFreed buffer.serial] else []) ++
    if Holding.handles.of buffer then [.handlesFreed buffer.serial] else []

theorem VgpuBuffer.count_freedEvents (buffer : VgpuBuffer)
    (holding : Holding) (serial : Nat) :
    buffer.freedEvents.count (holding.freed serial) =
      if buffer.serial = serial ∧ holding.of buffer = true then 1 else 0 := by
  unfold VgpuBuffer.freedEvents
  rw [List.count_append]
  cases holding with
  | record =>
      cases Holding.record.of buffer <;> cases Holding.handles.of buffer <;>
        simp [Holding.freed, List.count_cons]
  | handles =>
      cases Holding.record.of buffer <;> cases Holding.handles.of buffer <;>
        simp [Holding.freed, List.count_cons]

theorem VgpuBuffer.count_freedEvents_taken (buffer : VgpuBuffer)
    (holding : Holding) (serial : Nat) :
    buffer.freedEvents.count (holding.taken serial) = 0 := by
  unfold VgpuBuffer.freedEvents
  cases holding <;> cases Holding.record.of buffer <;>
    cases Holding.handles.of buffer <;> simp [Holding.taken]

private theorem completeResources_holdings (ctxId : UInt32)
    (ids : List UInt32) (fenceId : UInt64) (driver : Driver) :
    (completeResources ctxId ids fenceId driver).holdings =
      driver.holdings := by
  unfold completeResources
  split
  · rfl
  · rfl

private theorem mapBlobResourceCallback_holdings (context : VirglContext)
    (id : UInt32) (size : Nat) (mapAddress : Option Nat) (driver : Driver) :
    (mapBlobResourceCallback context id size mapAddress driver).holdings =
      driver.holdings := by
  unfold mapBlobResourceCallback
  split
  · rfl
  · split
    · rfl
    · rfl

private theorem log_holdings (event : Event) (driver : Driver) :
    (driver.log event).holdings =
      if event.IsHolding then event :: driver.holdings
      else driver.holdings :=
  List.filter_cons

private theorem freePages_holdings (virtualAddress size : Nat)
    (driver : Driver) :
    (freePages virtualAddress size driver).holdings = driver.holdings := rfl

theorem completeBuffer_holdings (buffer : VgpuBuffer) (info : MapInfo)
    (mapAddress : Option Nat) (driver : Driver) :
    (completeBuffer buffer info mapAddress driver).holdings =
      buffer.freedEvents ++ driver.holdings := by
  cases hbody : buffer.pBuf.body with
  | submit3d size =>
      have hrecord : Holding.record.of buffer = true := by
        simp [Holding.of, VgpuBuffer.IsSync, hbody]
      have hhandles : Holding.handles.of buffer =
          buffer.resourceIds.isSome := by
        simp [Holding.of, VgpuBuffer.IsSubmit, hbody]
      cases hids : buffer.resourceIds <;>
        cases hfence : buffer.fenceObject <;>
        simp [completeBuffer, hbody, hids, hfence, freeCommandBuffer,
          log_holdings, freePages_holdings, completeResources_holdings,
          Event.IsHolding, VgpuBuffer.freedEvents, hrecord, hhandles]
  | resourceMapBlob id =>
      have hevents : buffer.freedEvents = [.bufferFreed buffer.serial] := by
        simp [VgpuBuffer.freedEvents, Holding.of, VgpuBuffer.IsSync,
          VgpuBuffer.IsSubmit, hbody]
      simp only [completeBuffer, hbody, freeCommandBuffer, log_holdings,
        Event.IsHolding, if_true]
      rw [hevents]
      split
      · rfl
      · rw [mapBlobResourceCallback_holdings]
        rfl
  | _ =>
      simp [completeBuffer, hbody, freeCommandBuffer, log_holdings,
        completeResources_holdings, Event.IsHolding, VgpuBuffer.freedEvents,
        Holding.of, VgpuBuffer.IsSync, VgpuBuffer.IsSubmit]

/-- The head of the queue, if there is one, gives back what it holds. -/
structure Drains (before after : Driver) : Prop where
  count : after.pushCount = before.pushCount
  takes : ∀ holding serial,
    after.takes holding serial = before.takes holding serial
  holds : ∀ holding serial,
    after.frees holding serial + after.holds holding serial =
      before.frees holding serial + before.holds holding serial

theorem Drains.of_same {before after : Driver}
    (hcount : after.pushCount = before.pushCount)
    (hholdings : after.holdings = before.holdings)
    (hinFlight : ∀ queue,
      (after.inFlight queue).Perm (before.inFlight queue)) :
    Drains before after where
  count := hcount
  takes := fun _ _ => takes_of_holdings hholdings
  holds := fun _ _ => by
    rw [frees_of_holdings hholdings, holds_of_perm hinFlight]

theorem readOneFromQueue_drains (queue : Queue) (mapAddress : Option Nat)
    (driver : Driver) :
    Drains driver (readOneFromQueue queue mapAddress driver) := by
  rcases readOneFromQueue_cases queue mapAddress driver with
    hsame | ⟨buffer, info, rest, hused, hread, hcompletes⟩
  · rw [hsame]
    exact Drains.of_same rfl rfl fun _ => List.Perm.refl _
  · have hholdings : (readOneFromQueue queue mapAddress driver).holdings =
        buffer.freedEvents ++ driver.holdings := by
      rw [hread, completeBuffer_holdings]
      rfl
    have hcount : ∀ (event : Event), event.IsHolding = true →
        (readOneFromQueue queue mapAddress driver).history.count event =
          buffer.freedEvents.count event + driver.history.count event := by
      intro event hevent
      rw [← List.count_filter hevent]
      rw [← List.count_filter (l := driver.history) hevent]
      have hfilter := congrArg (List.count event) hholdings
      rw [List.count_append] at hfilter
      exact hfilter
    refine ⟨hcompletes.pushCount, fun holding serial => ?_,
      fun holding serial => ?_⟩
    · have htaken := hcount (holding.taken serial) (by cases holding <;> rfl)
      rw [buffer.count_freedEvents_taken, Nat.zero_add] at htaken
      exact htaken
    · have hfreed := hcount (holding.freed serial) (by cases holding <;> rfl)
      rw [buffer.count_freedEvents] at hfreed
      have hheld : driver.holds holding serial =
          (readOneFromQueue queue mapAddress driver).holds holding serial +
            if buffer.serial = serial ∧ holding.of buffer = true then 1
            else 0 := by
        unfold Driver.holds
        cases queue with
        | command =>
            rw [hcompletes.head, heldIn_cons,
              hcompletes.others .control (by decide)]
            omega
        | control =>
            rw [hcompletes.head, heldIn_cons,
              hcompletes.others .command (by decide)]
            omega
      unfold Driver.frees
      rw [hfreed, hheld]
      omega

end VgpuDriver
