import VgpuDriver.Creation
import VgpuDriver.HeldPages
import VgpuDriver.Pending
import VgpuDriver.Submission

namespace VgpuDriver

open Data

/-! Pages that are given back and handed out again while the host may still
use them. -/

namespace Event

/-- The guest physical bytes that the event hands out. -/
def grant : Event → Option Interval
  | .granted _ memory size =>
      some { start := memory.physicalAddress, length := size }
  | _ => none

def backing : Event → Option Backing
  | .backed backing => some backing
  | _ => none

/-- The resource and the serial of its DETACH_BACKING. -/
def detach : Event → Option (Nat × Nat)
  | .unbacked serial detachSerial => some (serial, detachSerial)
  | _ => none

end Event

namespace Driver

/-- What `AllocateVgpuMemory` has handed out, the newest first. -/
def grants (driver : Driver) : List Interval :=
  driver.notable.filterMap Event.grant

/-- The backings that resources have had. -/
def backings (driver : Driver) : List Backing :=
  driver.notable.filterMap Event.backing

/-- The resources deleted with a backing. -/
def detaches (driver : Driver) : List (Nat × Nat) :=
  driver.notable.filterMap Event.detach

/-- The serial of the DETACH_BACKING for the resource, once it is deleted. -/
def detachOf (driver : Driver) (serial : Nat) : Option Nat :=
  (driver.detaches.find? fun entry => entry.1 = serial).map Prod.snd

/-- COMMAND_QUEUE accepted the command with this serial and the host has taken
it. -/
def HostTook (driver : Driver) (serial : Nat) : Prop :=
  serial ∈ (driver.sent .command).map VgpuBuffer.serial ∧
    serial ∉ (driver.virtQueues .command).avail.map VgpuBuffer.serial

instance (driver : Driver) (serial : Nat) :
    Decidable (driver.HostTook serial) :=
  inferInstanceAs (Decidable (_ ∧ _))

end Driver

/-- The guest physical bytes of the backing. -/
def Backing.bytes (backing : Backing) : Interval where
  start := backing.memory.physicalAddress
  length := backing.size

namespace VgpuBuffer

/-- What a RESOURCE_ATTACH_BACKING makes the backing. -/
def attachedBytes (buffer : VgpuBuffer) : Option Interval :=
  match buffer.pBuf.body with
  | .resourceAttachBacking _ gpa size =>
      some { start := gpa, length := size.toNat }
  | _ => none

/-- The resource ids that a transfer, a SUBMIT_3D or a DETACH_BACKING
names. -/
def namedIds (buffer : VgpuBuffer) : List UInt32 :=
  match buffer.pBuf.body with
  | .resourceDetachBacking resourceId => [resourceId]
  | _ => buffer.updatedIds

/-- The command names the resource of the backing and was pushed while it
lived, at the latest when it was deleted. -/
def RefersToBacking (driver : Driver) (buffer : VgpuBuffer)
    (backing : Backing) : Prop :=
  backing.resourceId ∈ buffer.namedIds ∧ backing.serial < buffer.serial ∧
    ∀ detach ∈ driver.detachOf backing.serial, buffer.serial ≤ detach

instance (driver : Driver) (buffer : VgpuBuffer) (backing : Backing) :
    Decidable (buffer.RefersToBacking driver backing) :=
  inferInstanceAs (Decidable (_ ∧ _ ∧ _))

end VgpuBuffer

namespace World

/-- What `AllocateVgpuMemory` hands out in the step. -/
def granted (addBuf : Nat → Bool) (world : World) (action : Action) :
    List Interval :=
  (World.step addBuf world action).driver.grants.take
    ((World.step addBuf world action).driver.grants.length -
      world.driver.grants.length)

/-- The host has no backing on the pages that the step hands out, and no
command that waits refers to a resource that had them. -/
def GrantsUnused (addBuf : Nat → Bool) (world : World) (action : Action) :
    Prop :=
  ∀ pages ∈ world.granted addBuf action,
    (∀ attach ∈ world.host.backings, ∀ bytes ∈ attach.attachedBytes,
      pages.Disjoint bytes) ∧
    ∀ buffer ∈ (world.driver.virtQueues .command).avail,
      ∀ backing ∈ world.driver.backings,
        buffer.RefersToBacking world.driver backing →
          pages.Disjoint backing.bytes

instance (addBuf : Nat → Bool) (world : World) (action : Action) :
    Decidable (world.GrantsUnused addBuf action) := by
  unfold GrantsUnused
  infer_instance

end World

/-- The size that the request asks `AllocateVgpuMemory` for, if it gets
there. -/
def IoRequest.pagesWanted (processId : UInt32) (driver : Driver) :
    IoRequest → Option Nat
  | .resourceCreate request =>
      match startCreate processId request.input request.output request.record
          driver with
      | none => none
      | some started =>
          if started.create.size = 1 then none
          else some (resourceBufferSize started.create.size)
  | .execbuffer request =>
      match prepareSubmit processId request driver with
      | .error _ => none
      | .ok prepared => some (commandPagesSize prepared.cmd)
  | _ => none

/-- The free pages that the search from `LastFreeIndex` finds. -/
def VgpuMemory.foundPages (memory : VgpuMemory) (size : Nat) :
    Option Interval :=
  if memory.availableMemorySize < size then none
  else
    (memory.regionBitmap.findRun false (toUlong (size / pageSize))
      memory.lastFreeIndex).map fun index =>
        { start := memory.physicalAddress + index * pageSize, length := size }

namespace World

/-- The free pages that the search for the request finds. -/
def searched (world : World) : Action → Option Interval
  | .request processId request =>
      (request.pagesWanted processId world.driver).bind
        world.driver.vgpuMemory.foundPages
  | _ => none

/-- The search finds no page of a deleted resource before the host has
processed the DETACH_BACKING of the resource. -/
def FindsDetached (world : World) (action : Action) : Prop :=
  ∀ pages ∈ world.searched action, ∀ backing ∈ world.driver.backings,
    ∀ detach ∈ world.driver.detachOf backing.serial,
      ¬pages.Disjoint backing.bytes → world.driver.HostTook detach

instance (world : World) (action : Action) :
    Decidable (world.FindsDetached action) := by
  unfold FindsDetached
  infer_instance

end World

/-! The step hands out what the search finds. -/

theorem foundPages_eq (memory : VgpuMemory) (size : Nat) :
    memory.foundPages size =
      (allocateVgpuMemory size memory).map fun grant =>
        { start := grant.1.physicalAddress, length := size } := by
  unfold VgpuMemory.foundPages allocateVgpuMemory
  split
  · rfl
  · cases hfound : memory.regionBitmap.findRun false
        (toUlong (size / pageSize)) memory.lastFreeIndex with
    | none => simp [allocateLocked, rtlFindClearBitsAndSet, hfound]
    | some index => simp [allocateLocked, rtlFindClearBitsAndSet, hfound]

theorem grants_append {before after : Driver} (new : List Event)
    (hnotable : after.notable = new ++ before.notable) :
    after.grants = new.filterMap Event.grant ++ before.grants := by
  unfold Driver.grants
  rw [hnotable, List.filterMap_append]

theorem grants_of_notable {before after : Driver}
    (hnotable : after.notable = before.notable) :
    after.grants = before.grants := by
  unfold Driver.grants
  rw [hnotable]

section Grants

variable {addBuf : Nat → Bool} {driver : Driver}

theorem deletionEvents_grant (resource : VirglResource) (pushCount : Nat) :
    (deletionEvents resource pushCount).filterMap Event.grant = [] := by
  unfold deletionEvents
  split
  · split
    · rfl
    · rfl
  · rfl

variable (addBuf) in
theorem foldl_deleteAndRelease_grants (contextId : UInt32)
    (resources : List VirglResource) (driver : Driver) :
    (resources.foldl (deleteAndRelease addBuf contextId) driver).grants =
      driver.grants := by
  induction resources generalizing driver with
  | nil => rfl
  | cons head tail ih =>
      rw [List.foldl_cons, ih]
      have hnotable := deleteAndRelease_notable addBuf driver contextId head
      rw [← List.cons_append] at hnotable
      rw [grants_append _ hnotable, List.filterMap_cons_none rfl,
        deletionEvents_grant]
      rfl

variable (addBuf) in
theorem ctlDestroyVirglContext_grants (context : VirglContext)
    (driver : Driver) :
    (ctlDestroyVirglContext addBuf context driver).grants =
      driver.grants := by
  have hfold := foldl_deleteAndRelease_grants addBuf context.id
    context.resourceList.reverse
    { driver with
      virglContextList := driver.virglContextList.eraseP fun other =>
        decide (other.id = context.id) }
  have hsent := grants_of_notable (sendCommand_notable addBuf
    (context.resourceList.reverse.foldl (deleteAndRelease addBuf context.id)
      { driver with
        virglContextList := driver.virglContextList.eraseP fun other =>
          decide (other.id = context.id) })
    .control (ctrlHdr context.id 0) .ctxDestroy)
  exact hsent.trans hfold

theorem RequestOutcome.grants {contextId : UInt32} {request : IoRequest}
    {after : Driver}
    (houtcome : RequestOutcome addBuf contextId driver request after)
    (hcreate : ∀ create, request ≠ .resourceCreate create)
    (hsubmit : ∀ submit, request ≠ .execbuffer submit) :
    after.grants = driver.grants := by
  cases houtcome with
  | unchanged => rfl
  | opened request contextInit hnew =>
      exact grants_of_notable (sendCommand_notable addBuf _ _ _ _)
  | destroyed context hcontext =>
      exact ctlDestroyVirglContext_grants addBuf context driver
  | blobCreated request context create record records hcontext =>
      apply grants_of_notable
      refine (sendCommand_notable addBuf _ _ _ _).trans ?_
      exact sendCommand_notable addBuf (takeRecord records driver) _ _ _
  | closed close context resource hcontext hresource =>
      exact foldl_deleteAndRelease_grants addBuf context.id [resource]
        (driver.removeResource context.id close.handle)
  | mapped request context resource handle hcontext hresource hbuffer hidle =>
      have hnotable := mapResource_notable driver context.id resource request
      exact grants_append [_] hnotable
  | transferred toHost request context resource transfer hcontext hresource
      htransfer =>
      exact grants_of_notable (sendCommand_notable addBuf _ _ _ _)
  | exhausted create => exact absurd rfl (hcreate create)
  | bare create => exact absurd rfl (hcreate create)
  | backed create => exact absurd rfl (hcreate create)
  | referenced submit => exact absurd rfl (hsubmit submit)
  | unread submit => exact absurd rfl (hsubmit submit)
  | uncopied submit => exact absurd rfl (hsubmit submit)
  | listed submit => exact absurd rfl (hsubmit submit)
  | unlisted submit => exact absurd rfl (hsubmit submit)

theorem created3d_grants (context : VirglContext)
    (create : DrmVirtgpuResourceCreate) (record : VirglResource)
    (records : LookAsideList VirglResource) (driver : Driver) :
    (created3d addBuf context create record records driver).grants =
      driver.grants :=
  grants_of_notable (sendCommand_notable addBuf (takeRecord records driver)
    .command _ _)

theorem ctlCreateResource_grants (contextId : UInt32)
    (request : ResourceCreateRequest) (driver : Driver) :
    (ctlCreateResource addBuf contextId request driver).2.grants =
      (((IoRequest.resourceCreate request).pagesWanted contextId
        driver).bind driver.vgpuMemory.foundPages).toList ++
          driver.grants := by
  have hwanted : (IoRequest.resourceCreate request).pagesWanted contextId
      driver =
        match startCreate contextId request.input request.output
          request.record driver with
        | none => none
        | some started =>
            if started.create.size = 1 then none
            else some (resourceBufferSize started.create.size) := rfl
  rw [hwanted]
  cases hstarted : startCreate contextId request.input request.output
      request.record driver with
  | none =>
      obtain ⟨_, _, hsame⟩ := ctlCreateResource_of_none addBuf hstarted
      rw [hsame]
      rfl
  | some started =>
      have hend := ctlCreateResource_end addBuf hstarted
      generalize ctlCreateResource addBuf contextId request driver = result
        at hend
      cases hend with
      | exhausted hbuffer halloc =>
          simp only [if_neg hbuffer, Option.bind_some, foundPages_eq, halloc]
          exact created3d_grants started.context started.create
            started.record started.records driver
      | backed memory vgpuMemory resource hbuffer halloc hresource =>
          have hmemory : resource.buffer.memory = memory := by
            rw [hresource]
            rfl
          have hsize : resource.buffer.size =
              resourceBufferSize started.create.size := by
            rw [hresource]
            rfl
          simp only [if_neg hbuffer, Option.bind_some, foundPages_eq, halloc]
          have hsent := sendCommand_notable addBuf
            (grantBacking started.context.id resource vgpuMemory
              (created3d addBuf started.context started.create
                started.record started.records driver))
            .command (ctrlHdr started.context.id 0)
            (.resourceAttachBacking resource.id
              resource.buffer.memory.physicalAddress
              (UInt32.ofNat resource.buffer.size))
          rw [grantBacking_notable] at hsent
          refine (grants_append [_, _] hsent).trans ?_
          rw [created3d_grants, hmemory, hsize]
          rfl
      | bare hbuffer =>
          simp only [if_pos hbuffer]
          exact created3d_grants started.context started.create
            started.record started.records driver

theorem prepared_grants {contextId : UInt32} {request : ExecbufferRequest}
    {prepared : PreparedSubmit}
    (hprepared : prepareSubmit contextId request driver = .ok prepared)
    (memory : MemoryDescriptor) (vgpuMemory : VgpuMemory) :
    (prepared.fenced memory vgpuMemory).2.grants =
      { start := memory.physicalAddress
        length := commandPagesSize prepared.cmd } :: driver.grants := by
  have hnotable := fencedCommand_notable driver prepared.outFence
    prepared.cmd memory vgpuMemory (outFenceObjects prepared.cmd request ++
      inFenceObjects prepared.cmd request)
  rw [← (prepareSubmit_ok hprepared).driver] at hnotable
  exact grants_append [_] hnotable

theorem ctlSubmitCommand_grants (contextId : UInt32)
    (request : ExecbufferRequest) (driver : Driver) :
    (ctlSubmitCommand addBuf contextId request driver).2.grants =
      (((IoRequest.execbuffer request).pagesWanted contextId driver).bind
        driver.vgpuMemory.foundPages).toList ++ driver.grants := by
  rw [ctlSubmitCommand_eq]
  have hwanted : (IoRequest.execbuffer request).pagesWanted contextId
      driver =
        match prepareSubmit contextId request driver with
        | .error _ => none
        | .ok prepared => some (commandPagesSize prepared.cmd) := rfl
  rw [hwanted]
  cases hprepared : prepareSubmit contextId request driver with
  | error result =>
      obtain ⟨objects, hsame⟩ := prepareSubmit_error hprepared
      dsimp only
      rw [hsame]
      exact grants_of_notable (reference_notable driver objects)
  | ok prepared =>
      have hfrom := prepareSubmit_ok hprepared
      have hmemory : prepared.driver.vgpuMemory = driver.vgpuMemory := by
        rw [hfrom.driver]
        rfl
      have hend := submitPages_end addBuf request prepared
      dsimp only
      generalize submitPages addBuf prepared.context prepared.cmd request
        prepared.outFence prepared.driver = result at hend
      rw [Option.bind_some, foundPages_eq]
      cases hend with
      | exhausted halloc =>
          rw [hmemory] at halloc
          rw [halloc, hfrom.driver]
          exact grants_of_notable (reference_notable driver _)
      | unread memory vgpuMemory status halloc hlisted hhandles hstatus =>
          rw [hmemory] at halloc
          rw [halloc]
          exact prepared_grants hprepared memory vgpuMemory
      | uncopied memory vgpuMemory reads halloc hlisted hhandles hblock =>
          rw [hmemory] at halloc
          rw [halloc]
          exact prepared_grants hprepared memory vgpuMemory
      | listed memory vgpuMemory reads halloc hlisted hhandles hblock status
          after hsubmitted =>
          rw [hmemory] at halloc
          rw [halloc]
          have hsent := submitCommand_notable addBuf
            (markedCommand prepared.context prepared.cmd reads
              (prepared.fenced memory vgpuMemory)) prepared.context.id memory
            (commandPagesSize prepared.cmd) prepared.cmd.size
            (some (copiedIds prepared.cmd reads))
            (prepared.fenced memory vgpuMemory).1 prepared.outFence
          rw [hsubmitted] at hsent
          exact (grants_of_notable hsent).trans
            (prepared_grants hprepared memory vgpuMemory)
      | unlisted memory vgpuMemory halloc hunlisted status after
          hsubmitted =>
          rw [hmemory] at halloc
          rw [halloc]
          have hsent := submitCommand_notable addBuf
            (prepared.fenced memory vgpuMemory).2 prepared.context.id memory
            (commandPagesSize prepared.cmd) prepared.cmd.size none
            (prepared.fenced memory vgpuMemory).1 prepared.outFence
          rw [hsubmitted] at hsent
          exact (grants_of_notable hsent).trans
            (prepared_grants hprepared memory vgpuMemory)

variable (addBuf) in
theorem virtioVgpuIoControl_grants (contextId : UInt32) (driver : Driver)
    (request : IoRequest) :
    (virtioVgpuIoControl addBuf contextId driver request).2.grants =
      ((request.pagesWanted contextId driver).bind
        driver.vgpuMemory.foundPages).toList ++ driver.grants := by
  by_cases hcreate : ∃ create, request = .resourceCreate create
  · obtain ⟨create, rfl⟩ := hcreate
    exact ctlCreateResource_grants contextId create driver
  · by_cases hsubmit : ∃ submit, request = .execbuffer submit
    · obtain ⟨submit, rfl⟩ := hsubmit
      exact ctlSubmitCommand_grants contextId submit driver
    · have hnone : request.pagesWanted contextId driver = none := by
        cases request with
        | resourceCreate create => exact absurd ⟨create, rfl⟩ hcreate
        | execbuffer submit => exact absurd ⟨submit, rfl⟩ hsubmit
        | _ => rfl
      rw [hnone]
      exact (virtioVgpuIoControl_outcome contextId driver request).grants
        (fun create hsame => hcreate ⟨create, hsame⟩)
        (fun submit hsame => hsubmit ⟨submit, hsame⟩)

/-- What a step hands out is what the search finds in the state before it. -/
theorem World.granted_eq (addBuf : Nat → Bool) (world : World)
    (action : Action) :
    world.granted addBuf action = (world.searched action).toList := by
  have hgrants : (World.step addBuf world action).driver.grants =
      (world.searched action).toList ++ world.driver.grants := by
    cases action with
    | request processId request =>
        exact virtioVgpuIoControl_grants addBuf processId world.driver request
    | processExit processId =>
        change (processNotify addBuf processId world.driver).grants = _
        unfold processNotify
        split
        · rfl
        · exact ctlDestroyVirglContext_grants addBuf _ world.driver
    | host queue slot info =>
        simp only [World.step]
        split
        · rfl
        · exact grants_of_notable (returnBuffer_notable _ _ _ _ _)
    | dpc queue mapAddress =>
        change (readOneFromQueue queue mapAddress world.driver).grants = _
        rcases readOneFromQueue_step queue mapAddress world.driver with
          hsame | ⟨buffer, info, rest, _, hstep, _⟩
        · rw [hsame]
          rfl
        · cases hstep with
          | updated hlive hnotable => exact grants_of_notable hnotable
          | mapped resource address front back htarget haddress hbefore
              hlive hnotable =>
              exact grants_append [_] hnotable
  unfold World.granted
  rw [hgrants, List.length_append, Nat.add_sub_cancel]
  exact List.take_left

end Grants

end VgpuDriver
