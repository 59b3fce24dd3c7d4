import VgpuDriver.Live

namespace VgpuDriver

open Data

/-! The events about memory: which of them the operations of the driver
record. -/

/-- Events about pages, backings and mappings. -/
def Event.Notable : Event → Bool
  | .granted _ _ _ | .backed _ | .unbacked _ _ | .ioMapped _ _ _
  | .ioUnmapped _ _ _ | .shared _ _ _ | .released _ => true
  | _ => false

/-- The notable events, the newest one first. -/
def Driver.notable (driver : Driver) : List Event :=
  driver.history.filter Event.Notable

/-- Some reply to a RESOURCE_MAP_BLOB was mapped for the resource. -/
def HasMapped (owner : Nat) (events : List Event) : Prop :=
  ∃ event ∈ events, ∃ address size, event = .ioMapped owner address size

def Event.mappedOwner : Event → Option Nat
  | .ioMapped owner _ _ => some owner
  | _ => none

theorem hasMapped_iff {owner : Nat} {events : List Event} :
    HasMapped owner events ↔ ∃ event ∈ events,
      event.mappedOwner = some owner := by
  constructor
  · rintro ⟨event, hevent, address, size, rfl⟩
    exact ⟨_, hevent, rfl⟩
  · rintro ⟨event, hevent, howner⟩
    cases event with
    | ioMapped other address size =>
        cases howner
        exact ⟨_, hevent, address, size, rfl⟩
    | _ => cases howner

instance (owner : Nat) (events : List Event) :
    Decidable (HasMapped owner events) :=
  decidable_of_iff _ hasMapped_iff.symm

section Operations

variable (addBuf : Nat → Bool) (driver : Driver)

@[simp] theorem pushQueue_notable (queue : Queue) (buffer : VgpuBuffer) :
    (pushQueue addBuf queue buffer driver).2.notable = driver.notable := by
  unfold Driver.notable pushQueue
  dsimp only
  split
  · exact List.filter_cons_of_neg (by simp [Event.Notable])
  · rfl

@[simp] theorem log_notable (event : Event) :
    (driver.log event).notable =
      if event.Notable then event :: driver.notable else driver.notable := by
  unfold Driver.notable Driver.log
  exact List.filter_cons

@[simp] theorem sendCommand_notable (queue : Queue) (hdr : CtrlHdr)
    (body : CommandBody) :
    (sendCommand addBuf queue hdr body driver).notable =
      driver.notable := by
  simp [sendCommand, allocateCommandBuffer, Event.Notable]

@[simp] theorem submitCommand_notable (virglContextId : UInt32)
    (command : MemoryDescriptor) (commandBufSize : Nat)
    (commandSize : UInt32) (resourceIds : Option (List UInt32))
    (fenceId : UInt64) (fenceObject : Option Nat) :
    (submitCommand addBuf virglContextId command commandBufSize commandSize
      resourceIds fenceId fenceObject driver).2.notable =
        driver.notable := by
  simp [submitCommand, allocateCommandBuffer, Event.Notable]

@[simp] theorem freePages_notable (virtualAddress size : Nat) :
    (freePages virtualAddress size driver).notable = driver.notable := rfl

theorem reference_notable (objects : List Nat) :
    (driver.reference objects).notable = driver.notable := by
  unfold Driver.notable Driver.reference
  rw [List.filter_append]
  have hnone : (objects.map Event.objectReferenced).filter
      Event.Notable = [] := by
    rw [List.filter_eq_nil_iff]
    intro event hevent
    obtain ⟨object, _, rfl⟩ := List.mem_map.mp hevent
    simp [Event.Notable]
  rw [hnone, List.nil_append]

theorem fencedCommand_notable (outFence : Option Nat)
    (cmd : DrmVirtgpuExecbuffer) (memory : MemoryDescriptor)
    (vgpuMemory : VgpuMemory) (objects : List Nat) :
    (fencedCommand outFence cmd memory vgpuMemory
        (driver.reference objects)).2.notable =
      .granted driver.pushCount memory (roundUp cmd.size 0x1000).toNat ::
        driver.notable := by
  rw [← reference_notable driver objects]
  have hcopied : ¬ (Event.copied memory.virtualAddress
      cmd.size.toNat).Notable = true := by simp [Event.Notable]
  cases outFence with
  | none =>
      exact (List.filter_cons_of_neg hcopied).trans
        (List.filter_cons_of_pos rfl)
  | some object =>
      exact (List.filter_cons_of_neg hcopied).trans
        (List.filter_cons_of_pos rfl)

theorem mapResource_notable (contextId : UInt32) (resource : VirglResource)
    (request : MapRequest) :
    (mapResource contextId resource request driver).2.notable =
      .shared resource.serial resource.buffer.memory.virtualAddress
        resource.buffer.size :: driver.notable := by
  obtain ⟨share, history, hmap, hhistory⟩ := mapResource_frame contextId
    resource request driver
  rw [hmap]
  unfold Driver.notable
  rcases hhistory with rfl | ⟨address, mdl, rfl⟩
  · exact List.filter_cons_of_pos rfl
  · exact (List.filter_cons_of_neg (by simp [Event.Notable])).trans
      (List.filter_cons_of_pos rfl)

/-- What `DeleteResource` records besides the release of the record. -/
def deletionEvents (resource : VirglResource) (pushCount : Nat) :
    List Event :=
  if resource.bForBuffer then
    if resource.bForBlob then
      [.ioUnmapped resource.serial resource.buffer.memory.virtualAddress
        resource.buffer.size]
    else [.unbacked resource.serial pushCount]
  else []

theorem deleteAndRelease_notable (contextId : UInt32)
    (resource : VirglResource) :
    (deleteAndRelease addBuf contextId driver resource).notable =
      .released resource.serial ::
        (deletionEvents resource driver.pushCount ++ driver.notable) := by
  have hshare : ∀ before : Driver,
      (if resource.buffer.share.pMdl.isSome then
        deleteUserShareMemory resource before else before).notable =
          before.notable ∧
      (if resource.buffer.share.pMdl.isSome then
        deleteUserShareMemory resource before else before).pushCount =
          before.pushCount := by
    intro before
    split
    · unfold deleteUserShareMemory
      split
      · simp [Event.Notable]
      · exact ⟨rfl, rfl⟩
    · exact ⟨rfl, rfl⟩
  have hrelease : ∀ before : Driver,
      (before.releaseRecord resource).notable =
        .released resource.serial :: before.notable := fun before =>
    List.filter_cons_of_pos rfl
  unfold deleteAndRelease deleteResource deletionEvents
  rw [hrelease]
  simp only [unrefResource, sendCommand_notable]
  cases hbuffer : resource.bForBuffer with
  | false => simp
  | true =>
      cases hblob : resource.bForBlob with
      | true => simp [Event.Notable, hshare driver]
      | false =>
          simp [Event.Notable, hshare driver]

theorem grantBacking_notable (contextId : UInt32) (resource : VirglResource)
    (vgpuMemory : VgpuMemory) :
    (grantBacking contextId resource vgpuMemory driver).notable =
      .backed (backingOf contextId resource) ::
        .granted resource.serial resource.buffer.memory
          resource.buffer.size :: driver.notable :=
  (List.filter_cons_of_pos rfl).trans
    (congrArg _ (List.filter_cons_of_pos rfl))

@[simp] theorem returnBuffer_notable (queue : Queue) (slot : Nat)
    (buffer : VgpuBuffer) (info : MapInfo) :
    (driver.returnBuffer queue slot buffer info).notable =
      driver.notable :=
  List.filter_cons_of_neg (by simp [Event.Notable])

/-- The resource that `MapBlobResourceCallback` finds for the reply. -/
def Driver.mapTarget (buffer : VgpuBuffer) : Option VirglResource :=
  match buffer.mappedId with
  | none => none
  | some id =>
      match getVirglContextFromListUnsafe driver.virglContextList
          buffer.pBuf.hdr.ctxId with
      | none => none
      | some context => getResourceFromListUnsafe context id

/-- What the completion of a command records. -/
def mappingEvents (target : Option VirglResource) (info : MapInfo)
    (mapAddress : Option Nat) : List Event :=
  match target, mapAddress with
  | some resource, some address =>
      [.ioMapped resource.serial address info.size]
  | _, _ => []

theorem completeBuffer_notable (buffer : VgpuBuffer) (info : MapInfo)
    (mapAddress : Option Nat) :
    (completeBuffer buffer info mapAddress driver).notable =
      mappingEvents (driver.mapTarget buffer) info mapAddress ++
        driver.notable := by
  have hresources : ∀ (ids : List UInt32) (fenceId : UInt64),
      (completeResources buffer.pBuf.hdr.ctxId ids fenceId driver).notable =
        driver.notable := by
    intro ids fenceId
    unfold completeResources
    split
    · rfl
    · rfl
  cases hbody : buffer.pBuf.body with
  | submit3d size =>
      have htarget : driver.mapTarget buffer = none := by
        simp [Driver.mapTarget, VgpuBuffer.mappedId, hbody]
      rw [htarget]
      cases hids : buffer.resourceIds <;> cases hfence : buffer.fenceObject <;>
        simp [completeBuffer, hbody, hids, hfence, freeCommandBuffer,
          hresources, mappingEvents, Event.Notable]
  | resourceMapBlob id =>
      have hmapped : buffer.mappedId = some id := by
        simp [VgpuBuffer.mappedId, hbody]
      simp only [completeBuffer, hbody, freeCommandBuffer, log_notable,
        Event.Notable, Bool.false_eq_true, if_false, Driver.mapTarget,
        hmapped]
      cases hcontext : getVirglContextFromListUnsafe driver.virglContextList
          buffer.pBuf.hdr.ctxId with
      | none => simp [mappingEvents]
      | some context =>
          cases hresource : getResourceFromListUnsafe context id with
          | none =>
              simp [mapBlobResourceCallback, hresource, mappingEvents]
          | some resource =>
              cases mapAddress with
              | none =>
                  simp [mapBlobResourceCallback, hresource, mappingEvents]
              | some address =>
                  simp only [mapBlobResourceCallback, hresource,
                    mappingEvents]
                  exact List.filter_cons_of_pos rfl
  | transferHost3d toHost transfer =>
      have htarget : driver.mapTarget buffer = none := by
        simp [Driver.mapTarget, VgpuBuffer.mappedId, hbody]
      rw [htarget]
      simp [completeBuffer, hbody, freeCommandBuffer, hresources,
        mappingEvents, Event.Notable]
  | _ =>
      have htarget : driver.mapTarget buffer = none := by
        simp [Driver.mapTarget, VgpuBuffer.mappedId, hbody]
      rw [htarget]
      simp [completeBuffer, hbody, freeCommandBuffer, mappingEvents,
        Event.Notable]

end Operations

end VgpuDriver
