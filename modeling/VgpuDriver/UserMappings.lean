import VgpuDriver.Serials

namespace VgpuDriver

open Data

/-! The user mappings that `CtlMap` has made and `DeleteUserShareMemory` has
not removed are those in the records of the live resources. -/

/-- The pages of the MDL at a user address; `owner` is the serial number of the
resource. -/
structure UserMapping where
  owner : Nat
  address : Nat
  mdl : Mdl
  deriving DecidableEq, Repr

def Event.mapsUser : Event → Option UserMapping
  | .userMapped owner address mdl => some ⟨owner, address, mdl⟩
  | _ => none

def Event.unmapsUser : Event → Option UserMapping
  | .userUnmapped owner address mdl => some ⟨owner, address, mdl⟩
  | _ => none

/-- The mapping that `DeleteResource` removes. -/
def VirglResource.userMapping (resource : VirglResource) :
    Option UserMapping :=
  if resource.bForBuffer then
    match resource.buffer.share.userAddress, resource.buffer.share.pMdl with
    | some address, some mdl => some ⟨resource.serial, address, mdl⟩
    | _, _ => none
  else none

namespace Driver

/-- The user mappings that were made. -/
def userMapped (driver : Driver) : List UserMapping :=
  driver.history.filterMap Event.mapsUser

/-- The user mappings that were removed. -/
def userUnmapped (driver : Driver) : List UserMapping :=
  driver.history.filterMap Event.unmapsUser

/-- The mappings of the live resources. -/
def userMappings (driver : Driver) : List UserMapping :=
  driver.live.filterMap fun entry => entry.2.userMapping

end Driver

/-- The mappings that were made are those removed, those of the resources still
to be deleted and those of the live ones. -/
def MappingsListed (pending : List VirglResource) (driver : Driver) : Prop :=
  driver.userMapped.Perm
    (driver.userUnmapped ++
      (pending.filterMap VirglResource.userMapping ++ driver.userMappings))

theorem Remarked.userMapping {before after : UInt32 × VirglResource}
    (h : Remarked before after) :
    after.2.userMapping = before.2.userMapping := by
  obtain ⟨_, _, rfl, _⟩ := h
  rfl

theorem Signaled.userMapping {buffer : VgpuBuffer}
    {before after : UInt32 × VirglResource}
    (h : Signaled buffer before after) :
    after.2.userMapping = before.2.userMapping := by
  rcases h with rfl | ⟨_, rfl⟩
  · rfl
  · obtain ⟨_, _, hstate⟩ := VirglResource.updateState_eq false
      buffer.pBuf.hdr.fenceId before.2
    rw [hstate]
    rfl

theorem userMappings_of_forall₂ {before after : Driver}
    {relation : UInt32 × VirglResource → UInt32 × VirglResource → Prop}
    (hrelation : ∀ {old new}, relation old new →
      new.2.userMapping = old.2.userMapping)
    (hlive : List.Forall₂ relation before.live after.live) :
    after.userMappings = before.userMappings :=
  filterMap_eq_of_forall₂
    (g := fun entry : UInt32 × VirglResource => entry.2.userMapping)
    hrelation hlive

/-- The MDL covers the memory up to 4 GiB. -/
theorem createUserShareMemory_mapped {mdl : Option Nat}
    {userAddress : Option (Option Nat)} {share : ShareDescriptor}
    (hmapped : (createUserShareMemory mdl userAddress share).1 = true) :
    ∃ shown address,
      (createUserShareMemory mdl userAddress share).2.pMdl = some shown ∧
        (createUserShareMemory mdl userAddress share).2.userAddress =
          some address ∧
        shown.address = share.kernelAddress ∧
        shown.byteCount = toUlong share.size := by
  unfold createUserShareMemory at hmapped ⊢
  split at hmapped
  · cases hmapped
  · rename_i hsize
    rw [if_neg hsize]
    cases mdl with
    | none => cases hmapped
    | some mdl =>
        cases userAddress with
        | none => cases hmapped
        | some address =>
            cases address with
            | none => cases hmapped
            | some address => exact ⟨_, address, rfl, rfl, rfl, rfl⟩

namespace MappingsListed

variable {addBuf : Nat → Bool} {contextId : UInt32}
variable {pending rest : List VirglResource} {before after driver : Driver}

theorem of_perm (h : MappingsListed pending before)
    (hmapped : after.userMapped = before.userMapped)
    (hunmapped : after.userUnmapped = before.userUnmapped)
    (hlisted : (rest.filterMap VirglResource.userMapping ++
      after.userMappings).Perm
        (pending.filterMap VirglResource.userMapping ++
          before.userMappings)) : MappingsListed rest after := by
  unfold MappingsListed
  rw [hmapped, hunmapped]
  exact h.trans (hlisted.symm.append_left _)

theorem of_frame (h : MappingsListed pending before)
    (hmapped : after.userMapped = before.userMapped)
    (hunmapped : after.userUnmapped = before.userUnmapped)
    (hlisted : after.userMappings = before.userMappings) :
    MappingsListed pending after :=
  h.of_perm hmapped hunmapped (by rw [hlisted])

private theorem pushQueue (h : MappingsListed pending driver) (queue : Queue)
    (buffer : VgpuBuffer) :
    MappingsListed pending
      (VgpuDriver.pushQueue addBuf queue buffer driver).2 := by
  cases haccepted : addBuf driver.pushCount with
  | true =>
      refine h.of_frame ?_ ?_ rfl
      · simp only [Driver.userMapped, VgpuDriver.pushQueue, haccepted]
        rfl
      · simp only [Driver.userUnmapped, VgpuDriver.pushQueue, haccepted]
        rfl
  | false =>
      refine h.of_frame ?_ ?_ rfl
      · simp only [Driver.userMapped, VgpuDriver.pushQueue, haccepted]
        rfl
      · simp only [Driver.userUnmapped, VgpuDriver.pushQueue, haccepted]
        rfl

variable (addBuf) in
theorem sendCommand (h : MappingsListed pending driver) (queue : Queue)
    (hdr : CtrlHdr) (body : CommandBody) :
    MappingsListed pending
      (VgpuDriver.sendCommand addBuf queue hdr body driver) := by
  have htaken : MappingsListed pending (allocateCommandBuffer driver) :=
    h.of_frame rfl rfl rfl
  exact htaken.pushQueue queue _

variable (addBuf) in
theorem submitCommand (h : MappingsListed pending driver)
    (virglContextId : UInt32) (command : MemoryDescriptor)
    (commandBufSize : Nat) (commandSize : UInt32)
    (resourceIds : Option (List UInt32)) (fenceId : UInt64)
    (fenceObject : Option Nat) :
    MappingsListed pending
      (VgpuDriver.submitCommand addBuf virglContextId command commandBufSize
        commandSize resourceIds fenceId fenceObject driver).2 := by
  have htaken : MappingsListed pending (allocateCommandBuffer driver) :=
    h.of_frame rfl rfl rfl
  exact htaken.pushQueue .command _

private theorem unshare {resource : VirglResource}
    (h : MappingsListed (resource :: rest) driver)
    (hbuffer : resource.bForBuffer = true) :
    MappingsListed rest
      (if resource.buffer.share.pMdl.isSome then
        deleteUserShareMemory resource driver else driver) := by
  cases hmdl : resource.buffer.share.pMdl with
  | none =>
      have hnone : resource.userMapping = none := by
        simp [VirglResource.userMapping, hmdl]
      unfold MappingsListed at h
      rw [List.filterMap_cons_none hnone] at h
      exact h
  | some mdl =>
      cases haddress : resource.buffer.share.userAddress with
      | none =>
          have hnone : resource.userMapping = none := by
            simp [VirglResource.userMapping, haddress]
          unfold MappingsListed at h
          rw [List.filterMap_cons_none hnone] at h
          simp only [Option.isSome_some, if_true, deleteUserShareMemory,
            haddress]
          exact h
      | some address =>
          have hsome : resource.userMapping =
              some ⟨resource.serial, address, mdl⟩ := by
            simp [VirglResource.userMapping, hbuffer, hmdl, haddress]
          unfold MappingsListed at h
          rw [List.filterMap_cons_some hsome] at h
          simp only [Option.isSome_some, if_true, deleteUserShareMemory, hmdl,
            haddress]
          exact h.trans List.perm_middle

variable (addBuf) in
theorem delete {resource : VirglResource}
    (h : MappingsListed (resource :: rest) driver) (contextId : UInt32) :
    MappingsListed rest
      (deleteAndRelease addBuf contextId driver resource) := by
  have hunref : ∀ current : Driver, MappingsListed rest current →
      MappingsListed rest
        ((unrefResource addBuf contextId resource.id
          current).releaseRecord resource) := fun current hcurrent =>
    (hcurrent.sendCommand addBuf _ _ _).of_frame rfl rfl rfl
  unfold deleteAndRelease deleteResource
  cases hbuffer : resource.bForBuffer with
  | false =>
      have hnone : resource.userMapping = none := by
        simp [VirglResource.userMapping, hbuffer]
      unfold MappingsListed at h
      rw [List.filterMap_cons_none hnone] at h
      exact hunref _ h
  | true =>
      have hshare := h.unshare hbuffer
      cases resource.bForBlob with
      | true =>
          have hunmap := hshare.sendCommand addBuf .command
            (ctrlHdr contextId 0) (.resourceUnmapBlob resource.id)
          exact hunref _ (hunmap.of_frame rfl rfl rfl)
      | false =>
          have hdetach := hshare.sendCommand addBuf .command
            (ctrlHdr 0 0) (.resourceDetachBacking resource.id)
          exact hunref _ (hdetach.of_frame rfl rfl rfl)

private theorem ctlDestroyVirglContext {context : VirglContext}
    (h : MappingsListed [] driver)
    (hcontext : getVirglContextFromListUnsafe driver.virglContextList
      contextId = some context) :
    MappingsListed []
      (VgpuDriver.ctlDestroyVirglContext addBuf context driver) := by
  have hunlinked : MappingsListed context.resourceList.reverse
      { driver with
        virglContextList := driver.virglContextList.eraseP fun other =>
          decide (other.id = context.id) } := by
    refine h.of_perm rfl rfl ?_
    have hlive := (live_eraseContext hcontext).filterMap fun entry =>
      entry.2.userMapping
    rw [List.filterMap_append, List.filterMap_map] at hlive
    refine List.Perm.trans ?_ hlive.symm
    exact ((List.reverse_perm _).filterMap _).append_right _
  have hdeleted := foldl_deleteAndRelease_invariant addBuf
    (fun resource rest driver hpending =>
      delete addBuf hpending context.id) hunlinked
  exact hdeleted.sendCommand addBuf _ _ _

theorem processNotify (h : MappingsListed [] driver) (processId : UInt32) :
    MappingsListed []
      (VgpuDriver.processNotify addBuf processId driver) := by
  unfold VgpuDriver.processNotify
  split
  · exact h
  · rename_i context hcontext
    exact h.ctlDestroyVirglContext hcontext

/-! The requests. -/

private theorem insertResource {context : VirglContext}
    {resource : VirglResource} (h : MappingsListed [] driver)
    (hcontext : getVirglContextFromListUnsafe driver.virglContextList
      contextId = some context)
    (hnone : resource.userMapping = none) :
    MappingsListed [] (driver.insertResource context.id resource) := by
  refine h.of_perm rfl rfl ?_
  have hperm : (driver.insertResource context.id resource).live.Perm
      ((context.id, resource) :: driver.live) := live_insertResource hcontext
  have hlive := hperm.filterMap fun entry => entry.2.userMapping
  simp only [List.filterMap_cons, hnone] at hlive
  exact hlive

private theorem markBusy (h : MappingsListed [] driver) (id : UInt32)
    (ids : List UInt32) (fenceId : UInt64) :
    MappingsListed []
      (driver.modifyContext id (updateResourceState ids true fenceId)) :=
  h.of_frame rfl rfl
    (userMappings_of_forall₂ Remarked.userMapping
      (marked_remarked driver id ids fenceId))

private theorem reference (h : MappingsListed [] driver)
    (objects : List Nat) : MappingsListed [] (driver.reference objects) := by
  refine h.of_frame ?_ ?_ rfl
  · unfold Driver.userMapped Driver.reference
    induction objects with
    | nil => rfl
    | cons object objects ih => exact ih
  · unfold Driver.userUnmapped Driver.reference
    induction objects with
    | nil => rfl
    | cons object objects ih => exact ih

private theorem fencedCommand (h : MappingsListed [] driver)
    (outFence : Option Nat) (cmd : DrmVirtgpuExecbuffer)
    (memory : MemoryDescriptor) (vgpuMemory : VgpuMemory)
    (objects : List Nat) :
    MappingsListed [] (VgpuDriver.fencedCommand outFence cmd memory vgpuMemory
      (driver.reference objects)).2 := by
  have hreferenced := h.reference objects
  cases outFence with
  | none => exact hreferenced.of_frame rfl rfl rfl
  | some object => exact hreferenced.of_frame rfl rfl rfl

private theorem stored {context : VirglContext} {resource : VirglResource}
    (hcontext : getVirglContextFromListUnsafe driver.virglContextList
      contextId = some context)
    (hresource : getResourceFromListUnsafe context resource.id =
      some resource)
    (hnone : resource.userMapping = none) (share : ShareDescriptor) :
    (driver.modifyContext context.id fun context =>
      context.modifyResource resource.id fun resource =>
        { resource with
          buffer := { resource.buffer with
            share := share } }).userMappings.Perm
      ((VirglResource.userMapping { resource with
          buffer := { resource.buffer with share := share } }).toList ++
        driver.userMappings) := by
  obtain ⟨front, back, hbefore, hafter⟩ := live_modifyResource
    (fun resource =>
      { resource with buffer := { resource.buffer with share := share } })
    hcontext hresource
  unfold Driver.userMappings
  rw [hbefore, hafter]
  simp only [List.filterMap_append, List.filterMap_cons, hnone]
  cases VirglResource.userMapping { resource with
    buffer := { resource.buffer with share := share } } with
  | none => exact List.Perm.refl _
  | some mapping => exact List.perm_middle

private theorem mapResource {context : VirglContext}
    {resource : VirglResource} (h : MappingsListed [] driver)
    (hcontext : getVirglContextFromListUnsafe driver.virglContextList
      contextId = some context)
    (hresource : getResourceFromListUnsafe context resource.id =
      some resource)
    (hbuffer : resource.bForBuffer = true)
    (hmdl : resource.buffer.share.pMdl = none) (request : MapRequest) :
    MappingsListed []
      (VgpuDriver.mapResource context.id resource request driver).2 := by
  have hnone : resource.userMapping = none := by
    simp [VirglResource.userMapping, hmdl]
  have hstored := stored hcontext hresource hnone
  unfold VgpuDriver.mapResource
  dsimp only
  cases hmapped : (createUserShareMemory request.mdl request.userAddress
      { resource.buffer.share with
        kernelAddress := resource.buffer.memory.virtualAddress
        size := resource.buffer.size }).1 with
  | true =>
      obtain ⟨mdl, address, hshare, haddress, _⟩ :=
        createUserShareMemory_mapped hmapped
      have hnew : VirglResource.userMapping { resource with
          buffer := { resource.buffer with
            share := (createUserShareMemory request.mdl request.userAddress
              { resource.buffer.share with
                kernelAddress := resource.buffer.memory.virtualAddress
                size := resource.buffer.size }).2 } } =
          some ⟨resource.serial, address, mdl⟩ := by
        simp [VirglResource.userMapping, hbuffer, hshare, haddress]
      have hlisted := hstored (createUserShareMemory request.mdl
        request.userAddress
        { resource.buffer.share with
          kernelAddress := resource.buffer.memory.virtualAddress
          size := resource.buffer.size }).2
      rw [hnew] at hlisted
      simp only [if_true, haddress, hshare]
      have hmade : (⟨resource.serial, address, mdl⟩ :: driver.userMapped).Perm
          (driver.userUnmapped ++
            ⟨resource.serial, address, mdl⟩ :: driver.userMappings) :=
        (List.Perm.cons _ h).trans List.perm_middle.symm
      exact hmade.trans (hlisted.symm.append_left _)
  | false =>
      have hnew : VirglResource.userMapping { resource with
          buffer := { resource.buffer with
            share := { (createUserShareMemory request.mdl
              request.userAddress { resource.buffer.share with
                kernelAddress := resource.buffer.memory.virtualAddress
                size := resource.buffer.size }).2 with pMdl := none } } } =
          none := by
        simp [VirglResource.userMapping]
      have hlisted := hstored { (createUserShareMemory request.mdl
        request.userAddress { resource.buffer.share with
          kernelAddress := resource.buffer.memory.virtualAddress
          size := resource.buffer.size }).2 with pMdl := none }
      rw [hnew] at hlisted
      exact h.of_perm rfl rfl hlisted

private theorem ctlMap_mappings (h : MappingsListed [] driver)
    (request : MapRequest) :
    MappingsListed [] (ctlMap contextId request driver).2 := by
  unfold ctlMap
  cases request.input with
  | failed code => exact h
  | rejected => exact h
  | ok cmd =>
      cases request.output with
      | failed code => exact h
      | rejected => exact h
      | ok _ =>
          dsimp only [Fetch.andThen]
          split
          · exact h
          · rename_i context hcontext
            split
            · exact h
            · rename_i resource hresource
              have hid : resource.id = cmd.handle := by
                simpa using List.find?_some hresource
              split
              · exact h
              · rename_i hbuffer
                split
                · exact h
                · rename_i hmdl
                  split
                  · exact h
                  · exact h.mapResource hcontext (hid ▸ hresource)
                      (by simpa using hbuffer) (by simpa using hmdl) request

private theorem outcome (h : MappingsListed [] before) {request : IoRequest}
    (hrequest : ∀ map, request ≠ .map map)
    (houtcome : RequestOutcome addBuf contextId before request after) :
    MappingsListed [] after := by
  cases houtcome with
  | unchanged => exact h
  | opened request contextInit hnew =>
      exact MappingsListed.sendCommand addBuf
        (h.of_frame rfl rfl (by simp [Driver.userMappings, Driver.live])) _ _
        _
  | destroyed context hcontext => exact h.ctlDestroyVirglContext hcontext
  | exhausted request context create record records hcontext hnone =>
      exact MappingsListed.sendCommand addBuf
        (h.of_frame rfl rfl rfl) _ _ _
  | bare request context create record records hcontext hbuffer =>
      have hcreated : MappingsListed []
          (created3d addBuf context create record records before) :=
        MappingsListed.sendCommand addBuf (h.of_frame rfl rfl rfl) _ _ _
      refine hcreated.insertResource hcontext ?_
      simp [VirglResource.userMapping, hbuffer]
  | backed request context create record records memory vgpuMemory resource
      hcontext hbuffer halloc hresource =>
      have hcreated : MappingsListed []
          (created3d addBuf context create record records before) :=
        MappingsListed.sendCommand addBuf (h.of_frame rfl rfl rfl) _ _ _
      have hgranted : MappingsListed []
          (grantBacking context.id resource vgpuMemory
            (created3d addBuf context create record records before)) :=
        hcreated.of_frame rfl rfl rfl
      have hattached : MappingsListed []
          (attachResourceBacking addBuf context.id resource
            (grantBacking context.id resource vgpuMemory
              (created3d addBuf context create record records before))) :=
        hgranted.sendCommand addBuf _ _ _
      refine hattached.insertResource hcontext ?_
      rw [hresource]
      simp [VirglResource.userMapping, giveBacking]
  | blobCreated request context create record records hcontext =>
      have hcreated : MappingsListed []
          (createBlobResource addBuf context.id (nameBlob before record).id
            (blobParam create) 0 (takeRecord records before)) :=
        MappingsListed.sendCommand addBuf (h.of_frame rfl rfl rfl) _ _ _
      refine MappingsListed.sendCommand addBuf
        (hcreated.insertResource hcontext ?_) _ _ _
      simp [VirglResource.userMapping, nameBlob]
  | closed close context resource hcontext hresource =>
      have hunlinked : MappingsListed [resource]
          (before.removeResource context.id close.handle) := by
        refine h.of_perm rfl rfl ?_
        have hlive := (live_removeResource hcontext hresource).filterMap
          fun entry => entry.2.userMapping
        rw [List.filterMap_cons] at hlive
        refine List.Perm.trans ?_ hlive.symm
        rw [List.filterMap_cons]
        cases resource.userMapping with
        | none => exact List.Perm.refl _
        | some mapping => exact List.Perm.refl _
      exact hunlinked.delete addBuf context.id
  | mapped request context resource handle hcontext hresource hbuffer hidle =>
      exact absurd rfl (hrequest request)
  | referenced request objects => exact h.reference objects
  | unread request cmd outFence objects memory vgpuMemory halloc hhandles =>
      exact h.fencedCommand outFence cmd memory vgpuMemory objects
  | uncopied request context cmd outFence objects memory vgpuMemory reads
      hcontext halloc hblock =>
      exact (h.fencedCommand outFence cmd memory vgpuMemory
        objects).markBusy _ _ _
  | listed request context cmd outFence objects memory vgpuMemory reads fenced
      hinput hcontext halloc hreads hfenced =>
      subst hfenced
      have hmarked := (h.fencedCommand outFence cmd memory vgpuMemory
        objects).markBusy context.id (markedIds cmd reads)
          (VgpuDriver.fencedCommand outFence cmd memory vgpuMemory
            (before.reference objects)).1
      have htaken : MappingsListed [] (markedCommand context cmd reads
          (VgpuDriver.fencedCommand outFence cmd memory vgpuMemory
            (before.reference objects))) := hmarked.of_frame rfl rfl rfl
      exact htaken.submitCommand addBuf _ _ _ _ _ _ _
  | unlisted request context cmd outFence objects memory vgpuMemory fenced
      hcontext halloc hfenced =>
      subst hfenced
      exact (h.fencedCommand outFence cmd memory vgpuMemory
        objects).submitCommand addBuf _ _ _ _ _ _ _
  | transferred toHost request context resource transfer hcontext hresource
      htransfer =>
      exact (h.markBusy context.id [transfer.resourceId] 0).sendCommand addBuf
        _ _ _

theorem virtioVgpuIoControl (h : MappingsListed [] driver)
    (processId : UInt32) (request : IoRequest) :
    MappingsListed []
      (VgpuDriver.virtioVgpuIoControl addBuf processId driver request).2 := by
  have houtcome : RequestOutcome addBuf processId driver request
      (VgpuDriver.virtioVgpuIoControl addBuf processId driver request).2 :=
    virtioVgpuIoControl_outcome processId driver request
  cases request with
  | map request => exact h.ctlMap_mappings request
  | _ => exact h.outcome (by nofun) houtcome

/-! The completion. -/

private theorem completeBuffer_filterMap {select : Event → Option UserMapping}
    (hfreed : ∀ serial, select (.bufferFreed serial) = none)
    (hhandles : ∀ serial, select (.handlesFreed serial) = none)
    (hsignaled : ∀ object, select (.objectSignaled object) = none)
    (hmapped : ∀ owner address size,
      select (.ioMapped owner address size) = none)
    (buffer : VgpuBuffer) (info : MapInfo) (mapAddress : Option Nat)
    (driver : Driver) :
    (completeBuffer buffer info mapAddress driver).history.filterMap select =
      driver.history.filterMap select := by
  have hlog : ∀ (event : Event) (current : Driver), select event = none →
      (current.log event).history.filterMap select =
        current.history.filterMap select :=
    fun event current hevent => List.filterMap_cons_none hevent
  have hresources : ∀ (ctxId : UInt32) (ids : List UInt32)
      (fenceId : UInt64),
      (completeResources ctxId ids fenceId driver).history =
        driver.history := by
    intro ctxId ids fenceId
    unfold completeResources
    split
    · rfl
    · rfl
  cases hbody : buffer.pBuf.body with
  | submit3d size =>
      cases hids : buffer.resourceIds <;>
        cases hfence : buffer.fenceObject <;>
        simp [completeBuffer, hbody, hids, hfence, freeCommandBuffer,
          hresources, hfreed, hhandles, hsignaled]
  | resourceMapBlob id =>
      simp only [completeBuffer, hbody, freeCommandBuffer]
      rw [hlog _ _ (hfreed _)]
      split
      · rfl
      · unfold mapBlobResourceCallback
        split
        · rfl
        · split
          · rfl
          · exact hlog _ _ (hmapped _ _ _)
  | _ =>
      simp [completeBuffer, hbody, freeCommandBuffer, hresources, hfreed]

theorem readOneFromQueue (h : MappingsListed [] driver) (queue : Queue)
    (mapAddress : Option Nat) :
    MappingsListed []
      (VgpuDriver.readOneFromQueue queue mapAddress driver) := by
  rcases readOneFromQueue_step queue mapAddress driver with
    hsame | ⟨buffer, info, rest, hused, hstep, hcompletes⟩
  · rw [hsame]
    exact h
  · have hread : VgpuDriver.readOneFromQueue queue mapAddress driver =
        completeBuffer buffer info mapAddress (takeUsed queue rest driver) := by
      simp [VgpuDriver.readOneFromQueue, hused]
    refine h.of_frame ?_ ?_ ?_
    · rw [hread]
      exact completeBuffer_filterMap (fun _ => rfl) (fun _ => rfl)
        (fun _ => rfl) (fun _ _ _ => rfl) _ _ _ _
    · rw [hread]
      exact completeBuffer_filterMap (fun _ => rfl) (fun _ => rfl)
        (fun _ => rfl) (fun _ _ _ => rfl) _ _ _ _
    · cases hstep with
      | updated hlive hnotable =>
          exact userMappings_of_forall₂ Signaled.userMapping hlive
      | mapped resource address front back htarget haddress hbefore hlive
          hnotable =>
          unfold Driver.userMappings
          rw [hbefore, hlive]
          simp only [List.filterMap_append, List.filterMap_cons]
          rfl

theorem step (h : MappingsListed [] driver) {world : World}
    (hworld : world.driver = driver) (action : Action) :
    MappingsListed [] (World.step addBuf world action).driver := by
  subst hworld
  cases action with
  | request processId request => exact h.virtioVgpuIoControl processId request
  | processExit processId => exact h.processNotify processId
  | host queue slot info =>
      simp only [World.step]
      split
      · exact h
      · exact h.of_frame rfl rfl rfl
  | dpc queue mapAddress => exact h.readOneFromQueue queue mapAddress

end MappingsListed

end VgpuDriver
