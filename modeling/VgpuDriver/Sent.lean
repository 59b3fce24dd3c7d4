import VgpuDriver.Live

namespace VgpuDriver

open Data

/-! The commands that were accepted by the queues, in the order of the calls,
and which commands the operations of the driver send. -/

def Event.push : Event → Option (Queue × VgpuBuffer)
  | .pushed queue buffer => some (queue, buffer)
  | _ => none

/-- The accepted commands of both queues, the oldest one first. -/
def Driver.pushes (driver : Driver) : List (Queue × VgpuBuffer) :=
  (driver.history.filterMap Event.push).reverse

def onQueue (queue : Queue) (pushes : List (Queue × VgpuBuffer)) :
    List VgpuBuffer :=
  pushes.filterMap fun push => if push.1 = queue then some push.2 else none

/-- The accepted commands of one queue. -/
def Driver.sent (driver : Driver) (queue : Queue) : List VgpuBuffer :=
  onQueue queue driver.pushes

/-- The records of commands that are pushed one after the other. -/
def numbered (serial : Nat) :
    List (Queue × Command) → List (Queue × VgpuBuffer)
  | [] => []
  | (queue, command) :: commands =>
      (queue, commandBuffer command.hdr command.body serial) ::
        numbered (serial + 1) commands

/-- Those of the records that the queues accept. -/
def acceptedOf (addBuf : Nat → Bool) (pushes : List (Queue × VgpuBuffer)) :
    List (Queue × VgpuBuffer) :=
  pushes.filter fun push => addBuf push.2.serial

/-- After some pushes: the commands `new` were accepted. -/
structure Sends (new : List (Queue × VgpuBuffer)) (before after : Driver) :
    Prop where
  pushes : after.pushes = before.pushes ++ new
  queued : Extends (fun queue => onQueue queue new) before after

/-- The driver tried to push `commands`, all of them without data buffer. -/
structure Issues (addBuf : Nat → Bool) (commands : List (Queue × Command))
    (before after : Driver) : Prop where
  sends : Sends (acceptedOf addBuf (numbered before.pushCount commands))
    before after
  count : after.pushCount = before.pushCount + commands.length

@[simp] theorem onQueue_nil (queue : Queue) : onQueue queue [] = [] := rfl

@[simp] theorem onQueue_append (queue : Queue)
    (first second : List (Queue × VgpuBuffer)) :
    onQueue queue (first ++ second) =
      onQueue queue first ++ onQueue queue second :=
  List.filterMap_append

theorem mem_onQueue {queue : Queue} {buffer : VgpuBuffer}
    {pushes : List (Queue × VgpuBuffer)} :
    buffer ∈ onQueue queue pushes ↔ (queue, buffer) ∈ pushes := by
  simp only [onQueue, List.mem_filterMap, Option.ite_none_right_eq_some,
    Option.some.injEq]
  constructor
  · rintro ⟨⟨other, pushed⟩, hmem, rfl, rfl⟩
    exact hmem
  · intro hmem
    exact ⟨(queue, buffer), hmem, rfl, rfl⟩

@[simp] theorem numbered_append (serial : Nat)
    (first second : List (Queue × Command)) :
    numbered serial (first ++ second) =
      numbered serial first ++ numbered (serial + first.length) second := by
  induction first generalizing serial with
  | nil => rfl
  | cons head tail ih =>
      have hserial : serial + (tail.length + 1) = serial + 1 + tail.length := by
        omega
      simp only [List.cons_append, numbered, ih, List.length_cons, hserial]

theorem mem_numbered {serial : Nat} {commands : List (Queue × Command)}
    {push : Queue × VgpuBuffer} (hpush : push ∈ numbered serial commands) :
    (push.1, push.2.pBuf) ∈ commands ∧
      push.2 = commandBuffer push.2.pBuf.hdr push.2.pBuf.body push.2.serial := by
  induction commands generalizing serial with
  | nil => cases hpush
  | cons head tail ih =>
      rcases List.mem_cons.mp hpush with rfl | htail
      · exact ⟨List.mem_cons_self, rfl⟩
      · exact ⟨List.mem_cons_of_mem _ (ih htail).1, (ih htail).2⟩

theorem map_numbered (serial : Nat) (commands : List (Queue × Command)) :
    (numbered serial commands).map (fun push => (push.1, push.2.pBuf)) =
      commands := by
  induction commands generalizing serial with
  | nil => rfl
  | cons head tail ih => simp [numbered, commandBuffer, ih]

theorem acceptedOf_append (addBuf : Nat → Bool)
    (first second : List (Queue × VgpuBuffer)) :
    acceptedOf addBuf (first ++ second) =
      acceptedOf addBuf first ++ acceptedOf addBuf second :=
  List.filter_append _ _

theorem acceptedOf_eq_self {addBuf : Nat → Bool}
    (hpush : ∀ serial, addBuf serial = true)
    (pushes : List (Queue × VgpuBuffer)) :
    acceptedOf addBuf pushes = pushes :=
  List.filter_eq_self.mpr fun push _ => hpush push.2.serial

section Histories

variable {addBuf : Nat → Bool} {before middle after driver : Driver}

theorem pushes_of_history
    (hhistory : after.history.filterMap Event.push =
      before.history.filterMap Event.push) :
    after.pushes = before.pushes := by
  unfold Driver.pushes
  rw [hhistory]

theorem log_pushes {event : Event} (hevent : event.push = none) :
    (driver.log event).pushes = driver.pushes :=
  pushes_of_history (List.filterMap_cons_none hevent)

theorem reference_history (objects : List Nat) (history : List Event) :
    (objects.map Event.objectReferenced ++ history).filterMap Event.push =
      history.filterMap Event.push := by
  induction objects with
  | nil => rfl
  | cons object objects ih =>
      exact (List.filterMap_cons_none rfl).trans ih

theorem pushQueue_pushes_eq (queue : Queue) (buffer : VgpuBuffer)
    (hserial : buffer.serial = driver.pushCount) :
    (pushQueue addBuf queue buffer driver).2.pushes =
      driver.pushes ++ acceptedOf addBuf [(queue, buffer)] := by
  unfold Driver.pushes pushQueue acceptedOf
  cases haccepted : addBuf driver.pushCount with
  | true => simp [Event.push, hserial, haccepted]
  | false => simp [hserial, haccepted]

theorem accepted_eq_onQueue (queue : Queue) (buffer : VgpuBuffer) :
    accepted addBuf queue buffer =
      fun other => onQueue other (acceptedOf addBuf [(queue, buffer)]) := by
  funext other
  unfold accepted acceptedOf
  cases haccepted : addBuf buffer.serial with
  | true =>
      by_cases hother : other = queue
      · simp [onQueue, haccepted, hother]
      · simp [onQueue, haccepted, hother, Ne.symm hother]
  | false => simp [haccepted]

namespace Sends

variable {new more : List (Queue × VgpuBuffer)}

theorem of_frame
    (hhistory : after.history.filterMap Event.push =
      before.history.filterMap Event.push)
    (hqueues : after.virtQueues = before.virtQueues)
    (hcount : after.pushCount = before.pushCount) :
    Sends [] before after where
  pushes := by simp [pushes_of_history hhistory]
  queued := .of_frame hqueues hcount

theorem trans (hfirst : Sends new before middle)
    (hsecond : Sends more middle after) :
    Sends (new ++ more) before after where
  pushes := by rw [hsecond.pushes, hfirst.pushes, List.append_assoc]
  queued := by
    have hboth := hfirst.queued.trans hsecond.queued
    simpa only [onQueue_append] using hboth

theorem sent (h : Sends new before after) (queue : Queue) :
    after.sent queue = before.sent queue ++ onQueue queue new := by
  unfold Driver.sent
  rw [h.pushes, onQueue_append]

theorem inFlight (h : Sends new before after) (queue : Queue) :
    after.inFlight queue = before.inFlight queue ++ onQueue queue new :=
  h.queued.inFlight queue

end Sends

variable (addBuf) in
theorem submitCommand_sends (virglContextId : UInt32)
    (command : MemoryDescriptor) (commandBufSize : Nat)
    (commandSize : UInt32) (resourceIds : Option (List UInt32))
    (fenceId : UInt64) (fenceObject : Option Nat) (driver : Driver) :
    Sends (acceptedOf addBuf
      [(.command, submitBuffer virglContextId command commandBufSize
        commandSize resourceIds fenceId fenceObject driver.pushCount)])
      driver
      (submitCommand addBuf virglContextId command commandBufSize commandSize
        resourceIds fenceId fenceObject driver).2 where
  pushes := pushQueue_pushes_eq .command _ rfl
  queued := by
    rw [← accepted_eq_onQueue]
    exact submitCommand_extends addBuf virglContextId command commandBufSize
      commandSize resourceIds fenceId fenceObject driver

namespace Issues

variable {commands more : List (Queue × Command)}

theorem of_frame
    (hhistory : after.history.filterMap Event.push =
      before.history.filterMap Event.push)
    (hqueues : after.virtQueues = before.virtQueues)
    (hcount : after.pushCount = before.pushCount) :
    Issues addBuf [] before after where
  sends := .of_frame hhistory hqueues hcount
  count := hcount

theorem trans (hfirst : Issues addBuf commands before middle)
    (hsecond : Issues addBuf more middle after) :
    Issues addBuf (commands ++ more) before after where
  sends := by
    have hboth := hfirst.sends.trans hsecond.sends
    rwa [hfirst.count, ← acceptedOf_append, ← numbered_append] at hboth
  count := by
    rw [hsecond.count, hfirst.count, List.length_append]
    omega

theorem from_frame (h : Issues addBuf commands middle after)
    (hhistory : middle.history.filterMap Event.push =
      before.history.filterMap Event.push)
    (hqueues : middle.virtQueues = before.virtQueues)
    (hcount : middle.pushCount = before.pushCount) :
    Issues addBuf commands before after :=
  (Issues.of_frame hhistory hqueues hcount).trans h

theorem to_frame (h : Issues addBuf commands before middle)
    (hhistory : after.history.filterMap Event.push =
      middle.history.filterMap Event.push)
    (hqueues : after.virtQueues = middle.virtQueues)
    (hcount : after.pushCount = middle.pushCount) :
    Issues addBuf commands before after := by
  have hboth := h.trans (Issues.of_frame hhistory hqueues hcount)
  rwa [List.append_nil] at hboth

theorem sent (h : Issues addBuf commands before after)
    (hpush : ∀ serial, addBuf serial = true) (queue : Queue) :
    (after.sent queue).map VgpuBuffer.pBuf =
      (before.sent queue).map VgpuBuffer.pBuf ++
        commands.filterMap fun command =>
          if command.1 = queue then some command.2 else none := by
  rw [h.sends.sent, acceptedOf_eq_self hpush, List.map_append]
  congr 1
  have hcommands := map_numbered before.pushCount commands
  conv_rhs => rw [← hcommands]
  unfold onQueue
  rw [List.map_filterMap, List.filterMap_map]
  refine List.filterMap_congr fun push _ => ?_
  by_cases hqueue : push.1 = queue
  · simp [hqueue]
  · simp [hqueue]

end Issues

variable (addBuf) in
theorem sendCommand_issues (queue : Queue) (hdr : CtrlHdr)
    (body : CommandBody) (driver : Driver) :
    Issues addBuf [(queue, { hdr := hdr, body := body })] driver
      (sendCommand addBuf queue hdr body driver) where
  sends :=
    { pushes := pushQueue_pushes_eq queue _ rfl
      queued := by
        have hextends := sendCommand_extends addBuf queue hdr body driver
        rwa [accepted_eq_onQueue] at hextends }
  count := rfl

variable (addBuf) in
theorem created3d_issues (context : VirglContext)
    (create : DrmVirtgpuResourceCreate) (record : VirglResource)
    (records : LookAsideList VirglResource) (driver : Driver) :
    Issues addBuf
      [(.command,
        ⟨ctrlHdr context.id 0,
          .resourceCreate3d (nextResourceId driver) create.param⟩)]
      driver (created3d addBuf context create record records driver) :=
  (sendCommand_issues addBuf .command _ _
    (takeRecord records driver)).from_frame rfl rfl rfl

variable (addBuf) in
theorem backed_issues (context : VirglContext)
    (create : DrmVirtgpuResourceCreate) (record : VirglResource)
    (records : LookAsideList VirglResource) (vgpuMemory : VgpuMemory)
    (resource : VirglResource) (driver : Driver) :
    Issues addBuf
      [(.command, ⟨ctrlHdr context.id 0,
          .resourceCreate3d (nextResourceId driver) create.param⟩),
        (.command, ⟨ctrlHdr context.id 0,
          .resourceAttachBacking resource.id
            resource.buffer.memory.physicalAddress
            (UInt32.ofNat resource.buffer.size)⟩)]
      driver
      ((attachResourceBacking addBuf context.id resource
        (grantBacking context.id resource vgpuMemory
          (created3d addBuf context create record records
            driver))).insertResource context.id resource) := by
  have hcreated := created3d_issues addBuf context create record records
    driver
  have hgranted : Issues addBuf _ driver
      (grantBacking context.id resource vgpuMemory
        (created3d addBuf context create record records driver)) :=
    hcreated.to_frame rfl rfl rfl
  exact (hgranted.trans (sendCommand_issues addBuf .command _ _
    _)).to_frame rfl rfl rfl

variable (addBuf) in
theorem blob_issues (context : VirglContext)
    (create : DrmVirtgpuResourceCreateBlob) (record : VirglResource)
    (records : LookAsideList VirglResource) (driver : Driver) :
    Issues addBuf
      [(.command, ⟨ctrlHdr context.id 0, .resourceCreateBlob
          (nameBlob driver record).id (blobParam create)⟩),
        (.command, ⟨ctrlHdr context.id 0,
          .resourceMapBlob (nameBlob driver record).id⟩)]
      driver
      (mapBlobResource addBuf context.id (nameBlob driver record).id 0
        ((createBlobResource addBuf context.id (nameBlob driver record).id
          (blobParam create) 0
          (takeRecord records driver)).insertResource context.id
            (nameBlob driver record))) := by
  have hcreated : Issues addBuf
      [(.command, ⟨ctrlHdr context.id 0, .resourceCreateBlob
        (nameBlob driver record).id (blobParam create)⟩)] driver
      (createBlobResource addBuf context.id (nameBlob driver record).id
        (blobParam create) 0 (takeRecord records driver)) :=
    (sendCommand_issues addBuf .command _ _ _).from_frame rfl rfl rfl
  have hinserted : Issues addBuf _ driver
      ((createBlobResource addBuf context.id (nameBlob driver record).id
        (blobParam create) 0
        (takeRecord records driver)).insertResource context.id
          (nameBlob driver record)) := hcreated.to_frame rfl rfl rfl
  exact hinserted.trans (sendCommand_issues addBuf .command _ _ _)

end Histories

/-- What `DeleteResource` tells the host. -/
def deletionCommands (contextId : UInt32) (resource : VirglResource) :
    List (Queue × Command) :=
  (if resource.bForBuffer then
    if resource.bForBlob then
      [(.command, ⟨ctrlHdr contextId 0, .resourceUnmapBlob resource.id⟩)]
    else
      [(.command, ⟨ctrlHdr 0 0, .resourceDetachBacking resource.id⟩)]
  else []) ++
    [(.command, ⟨ctrlHdr contextId 0, .resourceUnref resource.id⟩)]

section Deletion

variable (addBuf : Nat → Bool)

private theorem share_pushes (resource : VirglResource) (driver : Driver) :
    Issues addBuf [] driver
      (if resource.buffer.share.pMdl.isSome then
        deleteUserShareMemory resource driver else driver) := by
  split
  · unfold deleteUserShareMemory
    split
    · exact .of_frame rfl rfl rfl
    · exact .of_frame rfl rfl rfl
  · exact .of_frame rfl rfl rfl

theorem deleteAndRelease_issues (contextId : UInt32)
    (resource : VirglResource) (driver : Driver) :
    Issues addBuf (deletionCommands contextId resource) driver
      (deleteAndRelease addBuf contextId driver resource) := by
  have hshare := share_pushes addBuf resource driver
  have hunref : ∀ before : Driver,
      Issues addBuf
        [(.command, ⟨ctrlHdr contextId 0, .resourceUnref resource.id⟩)]
        before
        ((unrefResource addBuf contextId resource.id
          before).releaseRecord resource) := fun before =>
    (sendCommand_issues addBuf _ _ _ before).to_frame rfl rfl rfl
  unfold deleteAndRelease deleteResource deletionCommands
  cases hbuffer : resource.bForBuffer with
  | false => exact (Issues.of_frame rfl rfl rfl).trans (hunref _)
  | true =>
      cases hblob : resource.bForBlob with
      | true =>
          have hunmap := hshare.trans (sendCommand_issues addBuf .command
            (ctrlHdr contextId 0) (.resourceUnmapBlob resource.id) _)
          refine Issues.trans ?_ (hunref _)
          exact hunmap.to_frame rfl rfl rfl
      | false =>
          have hdetach := hshare.trans (sendCommand_issues addBuf .command
            (ctrlHdr 0 0) (.resourceDetachBacking resource.id) _)
          refine Issues.trans ?_ (hunref _)
          exact hdetach.to_frame rfl rfl rfl

theorem foldl_deleteAndRelease_issues (contextId : UInt32)
    (resources : List VirglResource) (driver : Driver) :
    Issues addBuf (resources.flatMap (deletionCommands contextId)) driver
      (resources.foldl (deleteAndRelease addBuf contextId) driver) := by
  induction resources generalizing driver with
  | nil => exact .of_frame rfl rfl rfl
  | cons head tail ih =>
      have hhead := deleteAndRelease_issues addBuf contextId head driver
      exact hhead.trans (ih _)

theorem ctlDestroyVirglContext_issues (context : VirglContext)
    (driver : Driver) :
    Issues addBuf
      (context.resourceList.reverse.flatMap (deletionCommands context.id) ++
        [(.control, ⟨ctrlHdr context.id 0, .ctxDestroy⟩)]) driver
      (ctlDestroyVirglContext addBuf context driver) := by
  have hdelete := foldl_deleteAndRelease_issues addBuf context.id
    context.resourceList.reverse
    { driver with
      virglContextList := driver.virglContextList.eraseP fun other =>
        decide (other.id = context.id) }
  have hunlinked : Issues addBuf
      (context.resourceList.reverse.flatMap (deletionCommands context.id))
      driver _ := hdelete.from_frame rfl rfl rfl
  exact hunlinked.trans (sendCommand_issues addBuf _ _ _ _)

end Deletion

end VgpuDriver
