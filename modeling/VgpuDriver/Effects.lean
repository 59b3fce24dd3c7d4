import VgpuDriver.Allocator
import VgpuDriver.Outcome

namespace VgpuDriver

open Data

/-! What the operations of the driver leave as it is, and which commands they
put behind those already in the queues. -/

section Frame

variable (addBuf : Nat → Bool) (driver : Driver)

@[simp] theorem pushQueue_frame (queue : Queue) (buffer : VgpuBuffer) :
    (pushQueue addBuf queue buffer driver).2.virglContextList =
        driver.virglContextList ∧
      (pushQueue addBuf queue buffer driver).2.vgpuMemory =
        driver.vgpuMemory ∧
      (pushQueue addBuf queue buffer driver).2.resourceIds =
        driver.resourceIds ∧
      (pushQueue addBuf queue buffer driver).2.fenceIds = driver.fenceIds ∧
      (pushQueue addBuf queue buffer driver).2.pushCount =
        driver.pushCount + 1 :=
  ⟨rfl, rfl, rfl, rfl, rfl⟩

@[simp] theorem sendCommand_frame (queue : Queue) (hdr : CtrlHdr)
    (body : CommandBody) :
    (sendCommand addBuf queue hdr body driver).virglContextList =
        driver.virglContextList ∧
      (sendCommand addBuf queue hdr body driver).vgpuMemory =
        driver.vgpuMemory ∧
      (sendCommand addBuf queue hdr body driver).resourceIds =
        driver.resourceIds ∧
      (sendCommand addBuf queue hdr body driver).fenceIds =
        driver.fenceIds ∧
      (sendCommand addBuf queue hdr body driver).pushCount =
        driver.pushCount + 1 :=
  ⟨rfl, rfl, rfl, rfl, rfl⟩

@[simp] theorem log_frame (event : Event) :
    (driver.log event).virglContextList = driver.virglContextList ∧
      (driver.log event).vgpuMemory = driver.vgpuMemory ∧
      (driver.log event).resourceIds = driver.resourceIds ∧
      (driver.log event).fenceIds = driver.fenceIds ∧
      (driver.log event).virtQueues = driver.virtQueues ∧
      (driver.log event).pushCount = driver.pushCount ∧
      (driver.log event).history = event :: driver.history :=
  ⟨rfl, rfl, rfl, rfl, rfl, rfl, rfl⟩

@[simp] theorem reference_frame (objects : List Nat) :
    (driver.reference objects).virglContextList = driver.virglContextList ∧
      (driver.reference objects).vgpuMemory = driver.vgpuMemory ∧
      (driver.reference objects).resourceIds = driver.resourceIds ∧
      (driver.reference objects).fenceIds = driver.fenceIds ∧
      (driver.reference objects).virtQueues = driver.virtQueues ∧
      (driver.reference objects).pushCount = driver.pushCount ∧
      (driver.reference objects).history =
        objects.map .objectReferenced ++ driver.history :=
  ⟨rfl, rfl, rfl, rfl, rfl, rfl, rfl⟩

@[simp] theorem modifyContext_frame (id : UInt32)
    (change : VirglContext → VirglContext) :
    (driver.modifyContext id change).vgpuMemory = driver.vgpuMemory ∧
      (driver.modifyContext id change).resourceIds = driver.resourceIds ∧
      (driver.modifyContext id change).fenceIds = driver.fenceIds ∧
      (driver.modifyContext id change).virtQueues = driver.virtQueues ∧
      (driver.modifyContext id change).pushCount = driver.pushCount ∧
      (driver.modifyContext id change).history = driver.history :=
  ⟨rfl, rfl, rfl, rfl, rfl, rfl⟩

@[simp] theorem insertResource_frame (id : UInt32)
    (resource : VirglResource) :
    (driver.insertResource id resource).vgpuMemory = driver.vgpuMemory ∧
      (driver.insertResource id resource).resourceIds =
        driver.resourceIds ∧
      (driver.insertResource id resource).fenceIds = driver.fenceIds ∧
      (driver.insertResource id resource).virtQueues = driver.virtQueues ∧
      (driver.insertResource id resource).pushCount = driver.pushCount ∧
      (driver.insertResource id resource).history = driver.history :=
  ⟨rfl, rfl, rfl, rfl, rfl, rfl⟩

@[simp] theorem removeResource_frame (id resourceId : UInt32) :
    (driver.removeResource id resourceId).vgpuMemory = driver.vgpuMemory ∧
      (driver.removeResource id resourceId).resourceIds =
        driver.resourceIds ∧
      (driver.removeResource id resourceId).fenceIds = driver.fenceIds ∧
      (driver.removeResource id resourceId).virtQueues =
        driver.virtQueues ∧
      (driver.removeResource id resourceId).pushCount = driver.pushCount ∧
      (driver.removeResource id resourceId).history = driver.history :=
  ⟨rfl, rfl, rfl, rfl, rfl, rfl⟩

@[simp] theorem takeRecord_frame (records : LookAsideList VirglResource) :
    (takeRecord records driver).virglContextList =
        driver.virglContextList ∧
      (takeRecord records driver).vgpuMemory = driver.vgpuMemory ∧
      (takeRecord records driver).resourceIds =
        (getIdFromIdrWithoutCache 4 driver.resourceIds).2 ∧
      (takeRecord records driver).fenceIds = driver.fenceIds ∧
      (takeRecord records driver).virtQueues = driver.virtQueues ∧
      (takeRecord records driver).pushCount = driver.pushCount ∧
      (takeRecord records driver).history = driver.history :=
  ⟨rfl, rfl, rfl, rfl, rfl, rfl, rfl⟩

@[simp] theorem grantBacking_frame (contextId : UInt32)
    (resource : VirglResource) (vgpuMemory : VgpuMemory) :
    (grantBacking contextId resource vgpuMemory driver).virglContextList =
        driver.virglContextList ∧
      (grantBacking contextId resource vgpuMemory driver).vgpuMemory =
        vgpuMemory ∧
      (grantBacking contextId resource vgpuMemory driver).resourceIds =
        driver.resourceIds ∧
      (grantBacking contextId resource vgpuMemory driver).fenceIds =
        driver.fenceIds ∧
      (grantBacking contextId resource vgpuMemory driver).virtQueues =
        driver.virtQueues ∧
      (grantBacking contextId resource vgpuMemory driver).pushCount =
        driver.pushCount :=
  ⟨rfl, rfl, rfl, rfl, rfl, rfl⟩

@[simp] theorem grantCommand_frame (memory : MemoryDescriptor)
    (size copied : Nat) (vgpuMemory : VgpuMemory) :
    (grantCommand memory size copied vgpuMemory driver).virglContextList =
        driver.virglContextList ∧
      (grantCommand memory size copied vgpuMemory driver).vgpuMemory =
        vgpuMemory ∧
      (grantCommand memory size copied vgpuMemory driver).resourceIds =
        driver.resourceIds ∧
      (grantCommand memory size copied vgpuMemory driver).fenceIds =
        driver.fenceIds ∧
      (grantCommand memory size copied vgpuMemory driver).virtQueues =
        driver.virtQueues ∧
      (grantCommand memory size copied vgpuMemory driver).pushCount =
        driver.pushCount ∧
      (grantCommand memory size copied vgpuMemory driver).history =
        .copied memory.virtualAddress copied ::
          .granted driver.pushCount memory size :: driver.history :=
  ⟨rfl, rfl, rfl, rfl, rfl, rfl, rfl⟩

@[simp] theorem freePages_frame (virtualAddress size : Nat) :
    (freePages virtualAddress size driver).virglContextList =
        driver.virglContextList ∧
      (freePages virtualAddress size driver).vgpuMemory =
        freeVgpuMemory virtualAddress size driver.vgpuMemory ∧
      (freePages virtualAddress size driver).resourceIds =
        driver.resourceIds ∧
      (freePages virtualAddress size driver).fenceIds = driver.fenceIds ∧
      (freePages virtualAddress size driver).virtQueues =
        driver.virtQueues ∧
      (freePages virtualAddress size driver).pushCount =
        driver.pushCount ∧
      (freePages virtualAddress size driver).history = driver.history :=
  ⟨rfl, rfl, rfl, rfl, rfl, rfl, rfl⟩

@[simp] theorem drawFenceId_frame (outFence : Option Nat) :
    (drawFenceId outFence driver).2.virglContextList =
        driver.virglContextList ∧
      (drawFenceId outFence driver).2.vgpuMemory = driver.vgpuMemory ∧
      (drawFenceId outFence driver).2.resourceIds = driver.resourceIds ∧
      (drawFenceId outFence driver).2.virtQueues = driver.virtQueues ∧
      (drawFenceId outFence driver).2.pushCount = driver.pushCount ∧
      (drawFenceId outFence driver).2.history = driver.history := by
  cases outFence with
  | none => exact ⟨rfl, rfl, rfl, rfl, rfl, rfl⟩
  | some object => exact ⟨rfl, rfl, rfl, rfl, rfl, rfl⟩

theorem fencedCommand_frame (outFence : Option Nat)
    (cmd : DrmVirtgpuExecbuffer) (memory : MemoryDescriptor)
    (vgpuMemory : VgpuMemory) (objects : List Nat) :
    (fencedCommand outFence cmd memory vgpuMemory
        (driver.reference objects)).2.virglContextList =
          driver.virglContextList ∧
      (fencedCommand outFence cmd memory vgpuMemory
        (driver.reference objects)).2.vgpuMemory = vgpuMemory ∧
      (fencedCommand outFence cmd memory vgpuMemory
        (driver.reference objects)).2.virtQueues = driver.virtQueues ∧
      (fencedCommand outFence cmd memory vgpuMemory
        (driver.reference objects)).2.pushCount = driver.pushCount := by
  simp [fencedCommand]

end Frame

attribute [simp] createVirglContext destroyVirglContext transferHost3d
  create3dResource createBlobResource mapBlobResource unMapBlobResource
  attachResourceBacking detachResourceBacking unrefResource

/-- The completion of the command changes no resource and gives no page
back. -/
def VgpuBuffer.Neutral (buffer : VgpuBuffer) : Prop :=
  buffer.updatedIds = [] ∧ buffer.mappedId = none ∧ buffer.IsSubmit = false

/-- After some pushes: the commands that were accepted stand, in the order of
their serials, behind those already in the queues. -/
structure Extends (new : Queue → List VgpuBuffer) (before after : Driver) :
    Prop where
  virtQueues : ∀ queue, after.virtQueues queue =
    { before.virtQueues queue with
      avail := (before.virtQueues queue).avail ++ new queue }
  pushCount : before.pushCount ≤ after.pushCount
  serials : ∀ queue, ∀ buffer ∈ new queue,
    before.pushCount ≤ buffer.serial ∧ buffer.serial < after.pushCount
  ordered : ∀ queue,
    (new queue).Pairwise fun first second => first.serial < second.serial

namespace Extends

variable {new more : Queue → List VgpuBuffer} {before middle after : Driver}

theorem of_frame (hqueues : after.virtQueues = before.virtQueues)
    (hcount : after.pushCount = before.pushCount) :
    Extends (fun _ => []) before after where
  virtQueues := fun queue => by simp [hqueues]
  pushCount := Nat.le_of_eq hcount.symm
  serials := fun queue buffer hbuffer => by simp at hbuffer
  ordered := fun _ => List.Pairwise.nil

theorem inFlight (h : Extends new before after) (queue : Queue) :
    after.inFlight queue = before.inFlight queue ++ new queue := by
  simp [Driver.inFlight, Virtqueue.inFlight, h.virtQueues queue]

theorem trans (hfirst : Extends new before middle)
    (hsecond : Extends more middle after) :
    Extends (fun queue => new queue ++ more queue) before after where
  virtQueues := fun queue => by
    rw [hsecond.virtQueues queue, hfirst.virtQueues queue]
    simp
  pushCount := Nat.le_trans hfirst.pushCount hsecond.pushCount
  serials := by
    intro queue buffer hbuffer
    have hcounts := hfirst.pushCount
    have hcounts' := hsecond.pushCount
    rcases List.mem_append.mp hbuffer with hnew | hmore
    · have hserial := hfirst.serials queue buffer hnew
      omega
    · have hserial := hsecond.serials queue buffer hmore
      omega
  ordered := by
    intro queue
    rw [List.pairwise_append]
    refine ⟨hfirst.ordered queue, hsecond.ordered queue, ?_⟩
    intro first hnew second hmore
    have hlow := (hfirst.serials queue first hnew).2
    have hhigh := (hsecond.serials queue second hmore).1
    omega

theorem from_frame (h : Extends new middle after)
    (hqueues : middle.virtQueues = before.virtQueues)
    (hcount : middle.pushCount = before.pushCount) :
    Extends new before after where
  virtQueues := hqueues ▸ h.virtQueues
  pushCount := hcount ▸ h.pushCount
  serials := hcount ▸ h.serials
  ordered := h.ordered

end Extends

section Pushes

variable (addBuf : Nat → Bool)

/-- The buffer if the push with its serial is accepted. -/
def accepted (queue : Queue) (buffer : VgpuBuffer) (other : Queue) :
    List VgpuBuffer :=
  if other = queue ∧ addBuf buffer.serial = true then [buffer] else []

variable {addBuf} in
theorem mem_accepted {queue other : Queue} {buffer pushed : VgpuBuffer}
    (hmem : pushed ∈ accepted addBuf queue buffer other) :
    other = queue ∧ pushed = buffer := by
  unfold accepted at hmem
  split at hmem
  · rename_i haccepted
    exact ⟨haccepted.1, by simpa using hmem⟩
  · simp at hmem

theorem pushQueue_extends {queue : Queue} {buffer : VgpuBuffer}
    {driver : Driver} (hserial : buffer.serial = driver.pushCount) :
    Extends (accepted addBuf queue buffer) driver
      (pushQueue addBuf queue buffer driver).2 where
  virtQueues := by
    intro other
    unfold accepted
    simp only [pushQueue, hserial]
    split
    · rfl
    · simp
  pushCount := by simp
  serials := by
    intro other pushed hpushed
    obtain ⟨_, rfl⟩ := mem_accepted hpushed
    simp [hserial]
  ordered := by
    intro other
    unfold accepted
    split <;> simp

theorem sendCommand_extends (queue : Queue) (hdr : CtrlHdr)
    (body : CommandBody) (driver : Driver) :
    Extends (accepted addBuf queue (commandBuffer hdr body driver.pushCount))
      driver (sendCommand addBuf queue hdr body driver) :=
  have hpush : Extends
      (accepted addBuf queue (commandBuffer hdr body driver.pushCount))
      (allocateCommandBuffer driver)
      (sendCommand addBuf queue hdr body driver) :=
    pushQueue_extends addBuf rfl
  { virtQueues := hpush.virtQueues
    pushCount := hpush.pushCount
    serials := hpush.serials
    ordered := hpush.ordered }

theorem submitCommand_extends (virglContextId : UInt32)
    (command : MemoryDescriptor) (commandBufSize : Nat)
    (commandSize : UInt32) (resourceIds : Option (List UInt32))
    (fenceId : UInt64) (fenceObject : Option Nat) (driver : Driver) :
    Extends
      (accepted addBuf .command (submitBuffer virglContextId command
        commandBufSize commandSize resourceIds fenceId fenceObject
        driver.pushCount)) driver
      (submitCommand addBuf virglContextId command commandBufSize commandSize
        resourceIds fenceId fenceObject driver).2 := by
  have hpush : Extends
      (accepted addBuf .command (submitBuffer virglContextId command
        commandBufSize commandSize resourceIds fenceId fenceObject
        driver.pushCount)) (allocateCommandBuffer driver)
      (submitCommand addBuf virglContextId command commandBufSize commandSize
        resourceIds fenceId fenceObject driver).2 :=
    pushQueue_extends addBuf rfl
  exact hpush.from_frame rfl rfl

@[simp] theorem submitCommand_frame (virglContextId : UInt32)
    (command : MemoryDescriptor) (commandBufSize : Nat)
    (commandSize : UInt32) (resourceIds : Option (List UInt32))
    (fenceId : UInt64) (fenceObject : Option Nat) (driver : Driver) :
    (submitCommand addBuf virglContextId command commandBufSize commandSize
        resourceIds fenceId fenceObject driver).2.virglContextList =
          driver.virglContextList ∧
      (submitCommand addBuf virglContextId command commandBufSize commandSize
        resourceIds fenceId fenceObject driver).2.vgpuMemory =
          driver.vgpuMemory ∧
      (submitCommand addBuf virglContextId command commandBufSize commandSize
        resourceIds fenceId fenceObject driver).2.resourceIds =
          driver.resourceIds ∧
      (submitCommand addBuf virglContextId command commandBufSize commandSize
        resourceIds fenceId fenceObject driver).2.fenceIds =
          driver.fenceIds ∧
      (submitCommand addBuf virglContextId command commandBufSize commandSize
        resourceIds fenceId fenceObject driver).2.pushCount =
          driver.pushCount + 1 :=
  ⟨rfl, rfl, rfl, rfl, rfl⟩

/-- All commands pushed satisfy `kind`. -/
def Pushes (kind : Queue → VgpuBuffer → Prop) (before after : Driver) :
    Prop :=
  ∃ new, Extends new before after ∧
    ∀ queue, ∀ buffer ∈ new queue, kind queue buffer

namespace Pushes

variable {kind other : Queue → VgpuBuffer → Prop}
variable {before middle after : Driver}

theorem of_frame (hqueues : after.virtQueues = before.virtQueues)
    (hcount : after.pushCount = before.pushCount) :
    Pushes kind before after :=
  ⟨_, .of_frame hqueues hcount, fun _ _ hbuffer => by simp at hbuffer⟩

theorem mono (h : Pushes kind before after)
    (himplies : ∀ queue buffer, kind queue buffer → other queue buffer) :
    Pushes other before after := by
  obtain ⟨new, hextends, hnew⟩ := h
  exact ⟨new, hextends, fun queue buffer hbuffer =>
    himplies queue buffer (hnew queue buffer hbuffer)⟩

theorem trans (hfirst : Pushes kind before middle)
    (hsecond : Pushes kind middle after) : Pushes kind before after := by
  obtain ⟨new, hextends, hnew⟩ := hfirst
  obtain ⟨more, hextends', hmore⟩ := hsecond
  refine ⟨_, hextends.trans hextends', fun queue buffer hbuffer => ?_⟩
  rcases List.mem_append.mp hbuffer with hmem | hmem
  · exact hnew queue buffer hmem
  · exact hmore queue buffer hmem

theorem mem_inFlight (h : Pushes kind before after) {queue : Queue}
    {buffer : VgpuBuffer} (hbuffer : buffer ∈ before.inFlight queue) :
    buffer ∈ after.inFlight queue := by
  obtain ⟨new, hextends, _⟩ := h
  rw [hextends.inFlight]
  exact List.mem_append_left _ hbuffer

theorem of_mem_inFlight (h : Pushes kind before after) {queue : Queue}
    {buffer : VgpuBuffer} (hbuffer : buffer ∈ after.inFlight queue) :
    buffer ∈ before.inFlight queue ∨ kind queue buffer := by
  obtain ⟨new, hextends, hnew⟩ := h
  rw [hextends.inFlight] at hbuffer
  exact (List.mem_append.mp hbuffer).imp_right (hnew queue buffer)

theorem pushCount_le (h : Pushes kind before after) :
    before.pushCount ≤ after.pushCount := by
  obtain ⟨new, hextends, _⟩ := h
  exact hextends.pushCount

theorem from_frame (h : Pushes kind middle after)
    (hqueues : middle.virtQueues = before.virtQueues)
    (hcount : middle.pushCount = before.pushCount) :
    Pushes kind before after :=
  Pushes.trans (.of_frame hqueues hcount) h

theorem to_frame (h : Pushes kind before middle)
    (hqueues : after.virtQueues = middle.virtQueues)
    (hcount : after.pushCount = middle.pushCount) :
    Pushes kind before after :=
  h.trans (.of_frame hqueues hcount)

end Pushes

theorem pushQueue_pushes {kind : Queue → VgpuBuffer → Prop} {queue : Queue}
    {buffer : VgpuBuffer} {driver : Driver}
    (hserial : buffer.serial = driver.pushCount)
    (hkind : kind queue buffer) :
    Pushes kind driver (pushQueue addBuf queue buffer driver).2 := by
  refine ⟨_, pushQueue_extends addBuf hserial, fun other pushed hpushed => ?_⟩
  obtain ⟨rfl, rfl⟩ := mem_accepted hpushed
  exact hkind

theorem sendCommand_pushes {kind : Queue → VgpuBuffer → Prop}
    {queue : Queue} {hdr : CtrlHdr} {body : CommandBody} {driver : Driver}
    (hkind : kind queue (commandBuffer hdr body driver.pushCount)) :
    Pushes kind driver (sendCommand addBuf queue hdr body driver) := by
  refine ⟨_, sendCommand_extends addBuf queue hdr body driver,
    fun other pushed hpushed => ?_⟩
  obtain ⟨rfl, rfl⟩ := mem_accepted hpushed
  exact hkind

theorem sendCommand_inFlight {queue : Queue} (hdr : CtrlHdr)
    (body : CommandBody) {driver : Driver}
    (hpush : addBuf driver.pushCount = true) :
    commandBuffer hdr body driver.pushCount ∈
      (sendCommand addBuf queue hdr body driver).inFlight queue := by
  rw [(sendCommand_extends addBuf queue hdr body driver).inFlight queue]
  have haccepted : addBuf
      (commandBuffer hdr body driver.pushCount).serial = true := hpush
  simp [accepted, haccepted]

theorem mapResource_frame (contextId : UInt32) (resource : VirglResource)
    (request : MapRequest) (driver : Driver) :
    ∃ share history,
      (mapResource contextId resource request driver).2 =
        { driver.modifyContext contextId fun context =>
            context.modifyResource resource.id fun resource =>
              { resource with
                buffer := { resource.buffer with share := share } } with
          history := history ++
            .shared resource.serial resource.buffer.memory.virtualAddress
              resource.buffer.size :: driver.history } ∧
      (history = [] ∨
        ∃ address mdl,
          history = [.userMapped resource.serial address mdl]) := by
  unfold mapResource
  dsimp only
  split
  · exact ⟨_, [_], rfl, Or.inr ⟨_, _, rfl⟩⟩
  · exact ⟨_, [], rfl, Or.inl rfl⟩

end Pushes

/-! The deletion of resources. -/

section Deletion

variable (addBuf : Nat → Bool)

/-- The commands that `DeleteResource` pushes. -/
def DeletionCommand (contextId : UInt32) (resource : VirglResource)
    (queue : Queue) (buffer : VgpuBuffer) : Prop :=
  queue = .command ∧
    ∃ hdr body, buffer = commandBuffer hdr body buffer.serial ∧
      ((hdr = ctrlHdr contextId 0 ∧ body = .resourceUnmapBlob resource.id) ∨
        (hdr = ctrlHdr 0 0 ∧ body = .resourceDetachBacking resource.id) ∨
        (hdr = ctrlHdr contextId 0 ∧ body = .resourceUnref resource.id))

variable {addBuf} in
theorem DeletionCommand.neutral {contextId : UInt32}
    {resource : VirglResource} {queue : Queue} {buffer : VgpuBuffer}
    (h : DeletionCommand contextId resource queue buffer) :
    buffer.Neutral := by
  obtain ⟨_, hdr, body, hbuffer, hbody⟩ := h
  rw [hbuffer]
  rcases hbody with ⟨_, rfl⟩ | ⟨_, rfl⟩ | ⟨_, rfl⟩
  · exact ⟨rfl, rfl, rfl⟩
  · exact ⟨rfl, rfl, rfl⟩
  · exact ⟨rfl, rfl, rfl⟩

/-- A resource whose backing is a piece of the vgpu memory. -/
def VirglResource.IsPlain (resource : VirglResource) : Bool :=
  resource.bForBuffer && !resource.bForBlob

def VirglResource.region (resource : VirglResource) : Region where
  address := resource.buffer.memory.virtualAddress
  size := resource.buffer.size

private theorem share_frame (resource : VirglResource) (driver : Driver) :
    ∃ history,
      (if resource.buffer.share.pMdl.isSome then
        deleteUserShareMemory resource driver else driver) =
          { driver with history := history } := by
  split
  · unfold deleteUserShareMemory
    split
    · exact ⟨_, rfl⟩
    · exact ⟨_, rfl⟩
  · exact ⟨_, rfl⟩

theorem deleteAndRelease_frame (contextId : UInt32)
    (resource : VirglResource) (driver : Driver) :
    (deleteAndRelease addBuf contextId driver resource).virglContextList =
        driver.virglContextList ∧
      (deleteAndRelease addBuf contextId driver resource).resourceIds =
        driver.resourceIds ∧
      (deleteAndRelease addBuf contextId driver resource).fenceIds =
        driver.fenceIds ∧
      (deleteAndRelease addBuf contextId driver resource).vgpuMemory =
        if resource.IsPlain then
          freeVgpuMemory resource.region.address resource.region.size
            driver.vgpuMemory
        else driver.vgpuMemory := by
  obtain ⟨history, hshare⟩ := share_frame resource driver
  unfold deleteAndRelease deleteResource Driver.releaseRecord
  rw [hshare]
  cases hbuffer : resource.bForBuffer with
  | false => simp [VirglResource.IsPlain, hbuffer]
  | true =>
      cases hblob : resource.bForBlob with
      | true => simp [VirglResource.IsPlain, hbuffer, hblob]
      | false =>
          simp [VirglResource.IsPlain, VirglResource.region, hbuffer, hblob]

theorem deleteAndRelease_pushes (contextId : UInt32)
    (resource : VirglResource) (driver : Driver) :
    Pushes (DeletionCommand contextId resource) driver
      (deleteAndRelease addBuf contextId driver resource) := by
  obtain ⟨history, hshare⟩ := share_frame resource driver
  have hunref : ∀ before : Driver,
      Pushes (DeletionCommand contextId resource) before
        (unrefResource addBuf contextId resource.id before) := fun before =>
    sendCommand_pushes addBuf
      ⟨rfl, _, _, rfl, Or.inr (Or.inr ⟨rfl, rfl⟩)⟩
  have hrelease : ∀ before : Driver,
      Pushes (DeletionCommand contextId resource) before
        (before.releaseRecord resource) := fun before =>
    .of_frame rfl rfl
  unfold deleteAndRelease deleteResource
  rw [hshare]
  refine Pushes.trans ?_ (hrelease _)
  refine Pushes.trans ?_ (hunref _)
  have hcommand : ∀ (hdr : CtrlHdr) (body : CommandBody),
      ((hdr = ctrlHdr contextId 0 ∧ body = .resourceUnmapBlob resource.id) ∨
        (hdr = ctrlHdr 0 0 ∧ body = .resourceDetachBacking resource.id) ∨
        (hdr = ctrlHdr contextId 0 ∧ body = .resourceUnref resource.id)) →
      Pushes (DeletionCommand contextId resource) driver
        (sendCommand addBuf .command hdr body
          { driver with history := history }) := fun hdr body hkind =>
    (sendCommand_pushes addBuf ⟨rfl, hdr, body, rfl, hkind⟩).from_frame
      rfl rfl
  split
  · split
    · exact (hcommand _ _ (Or.inl ⟨rfl, rfl⟩)).to_frame rfl rfl
    · exact (hcommand _ _ (Or.inr (Or.inl ⟨rfl, rfl⟩))).to_frame rfl rfl
  · exact .of_frame rfl rfl

/-- The deletion of several resources does to the contexts and the queues what
the deletion of one does. -/
theorem foldl_deleteAndRelease (contextId : UInt32)
    (resources : List VirglResource) (driver : Driver) :
    (resources.foldl (deleteAndRelease addBuf contextId)
        driver).virglContextList = driver.virglContextList ∧
      (resources.foldl (deleteAndRelease addBuf contextId)
        driver).resourceIds = driver.resourceIds ∧
      (resources.foldl (deleteAndRelease addBuf contextId)
        driver).fenceIds = driver.fenceIds ∧
      Pushes (fun queue buffer => ∃ resource ∈ resources,
          DeletionCommand contextId resource queue buffer)
        driver (resources.foldl (deleteAndRelease addBuf contextId)
          driver) := by
  induction resources generalizing driver with
  | nil => exact ⟨rfl, rfl, rfl, .of_frame rfl rfl⟩
  | cons head tail ih =>
      have hhead := deleteAndRelease_frame addBuf contextId head driver
      have hpushes := deleteAndRelease_pushes addBuf contextId head driver
      obtain ⟨hcontexts, hids, hfences, htail⟩ :=
        ih (deleteAndRelease addBuf contextId driver head)
      simp only [List.foldl_cons]
      refine ⟨hcontexts.trans hhead.1, hids.trans hhead.2.1,
        hfences.trans hhead.2.2.1, Pushes.trans (hpushes.mono ?_)
          (htail.mono ?_)⟩
      · intro queue buffer hkind
        exact ⟨head, List.mem_cons_self, hkind⟩
      · rintro queue buffer ⟨resource, hmem, hkind⟩
        exact ⟨resource, List.mem_cons_of_mem _ hmem, hkind⟩

theorem ctlDestroyVirglContext_frame (context : VirglContext)
    (driver : Driver) :
    (ctlDestroyVirglContext addBuf context driver).virglContextList =
        (driver.virglContextList.eraseP fun other =>
          decide (other.id = context.id)) ∧
      (ctlDestroyVirglContext addBuf context driver).resourceIds =
        driver.resourceIds ∧
      (ctlDestroyVirglContext addBuf context driver).fenceIds =
        driver.fenceIds := by
  have hframe := foldl_deleteAndRelease addBuf context.id
    context.resourceList.reverse
    { driver with
      virglContextList := driver.virglContextList.eraseP fun other =>
        decide (other.id = context.id) }
  exact ⟨hframe.1, hframe.2.1, hframe.2.2.1⟩

theorem ctlDestroyVirglContext_pushes {kind : Queue → VgpuBuffer → Prop}
    (context : VirglContext) (driver : Driver)
    (hdeletion : ∀ resource queue buffer,
      DeletionCommand context.id resource queue buffer → kind queue buffer)
    (hdestroy : ∀ serial,
      kind .control (commandBuffer (ctrlHdr context.id 0) .ctxDestroy
        serial)) :
    Pushes kind driver (ctlDestroyVirglContext addBuf context driver) := by
  have hpushes := (foldl_deleteAndRelease addBuf context.id
    context.resourceList.reverse
    { driver with
      virglContextList := driver.virglContextList.eraseP fun other =>
        decide (other.id = context.id) }).2.2.2
  have hdeleted : Pushes kind driver _ :=
    (hpushes.mono fun queue buffer ⟨resource, _, hkind⟩ =>
      hdeletion resource queue buffer hkind).from_frame rfl rfl
  exact hdeleted.trans (sendCommand_pushes addBuf (hdestroy _))

/-- What holds with a list of resources still to be deleted, and is kept when
the first one is deleted, holds when all are deleted. -/
theorem foldl_deleteAndRelease_invariant
    {invariant : List VirglResource → Driver → Prop} {contextId : UInt32}
    (hdelete : ∀ resource rest driver, invariant (resource :: rest) driver →
      invariant rest (deleteAndRelease addBuf contextId driver resource))
    {resources : List VirglResource} {driver : Driver}
    (hstart : invariant resources driver) :
    invariant [] (resources.foldl (deleteAndRelease addBuf contextId)
      driver) := by
  induction resources generalizing driver with
  | nil => exact hstart
  | cons head tail ih => exact ih (hdelete head tail driver hstart)

end Deletion

end VgpuDriver
