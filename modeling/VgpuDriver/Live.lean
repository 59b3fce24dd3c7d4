import VgpuDriver.Effects
import VgpuDriver.System

namespace VgpuDriver

open Data

/-! The live resources of all contexts as one list, and what the operations
on the two kinds of linked lists do to it. -/

def liveIn (contexts : List VirglContext) : List (UInt32 × VirglResource) :=
  contexts.flatMap fun context =>
    context.resourceList.map (Prod.mk context.id)

/-- The live resources, each with the id of its context. -/
def Driver.live (driver : Driver) : List (UInt32 × VirglResource) :=
  liveIn driver.virglContextList

@[simp] theorem liveIn_append (front back : List VirglContext) :
    liveIn (front ++ back) = liveIn front ++ liveIn back :=
  List.flatMap_append

@[simp] theorem liveIn_cons (context : VirglContext)
    (contexts : List VirglContext) :
    liveIn (context :: contexts) =
      context.resourceList.map (Prod.mk context.id) ++ liveIn contexts := rfl

theorem mem_liveIn {contexts : List VirglContext}
    {entry : UInt32 × VirglResource} :
    entry ∈ liveIn contexts ↔
      ∃ context ∈ contexts, context.id = entry.1 ∧
        entry.2 ∈ context.resourceList := by
  cases entry with
  | mk id resource =>
      simp only [liveIn, List.mem_flatMap, List.mem_map, Prod.mk.injEq]
      constructor
      · rintro ⟨context, hcontext, other, hother, hid, rfl⟩
        exact ⟨context, hcontext, hid, hother⟩
      · rintro ⟨context, hcontext, hid, hresource⟩
        exact ⟨context, hcontext, resource, hresource, hid, rfl⟩

/-- The event of the resource that the lookups find. -/
def Driver.eventOf (contextId resourceId : UInt32) (driver : Driver) :
    Option Bool :=
  (getVirglContextFromListUnsafe driver.virglContextList contextId).bind
    fun context =>
      (getResourceFromListUnsafe context resourceId).map
        VirglResource.stateEvent

section Lookups

variable {driver : Driver} {contextId : UInt32} {context : VirglContext}

theorem context_id_of_lookup
    (hcontext : getVirglContextFromListUnsafe driver.virglContextList
      contextId = some context) : context.id = contextId := by
  simpa using List.find?_some hcontext

theorem mem_live_of_lookup {resource : VirglResource}
    (hcontext : getVirglContextFromListUnsafe driver.virglContextList
      contextId = some context)
    (hresource : resource ∈ context.resourceList) :
    (contextId, resource) ∈ driver.live :=
  mem_liveIn.mpr ⟨context, List.mem_of_find?_eq_some hcontext,
    context_id_of_lookup hcontext, hresource⟩

theorem lookup_modifyContext {change : VirglContext → VirglContext}
    (hid : ∀ context, (change context).id = context.id) :
    getVirglContextFromListUnsafe
        (driver.modifyContext contextId change).virglContextList contextId =
      (getVirglContextFromListUnsafe driver.virglContextList contextId).map
        change :=
  (find?_modifyFirst_key hid contextId contextId).trans (if_pos rfl)

/-- The context that a lookup finds stands at one place of the list; changes
and the removal happen there. -/
theorem context_split (change : VirglContext → VirglContext)
    (hcontext : getVirglContextFromListUnsafe driver.virglContextList
      contextId = some context) :
    ∃ front back,
      driver.virglContextList = front ++ context :: back ∧
        (driver.modifyContext context.id change).virglContextList =
          front ++ change context :: back ∧
        driver.virglContextList.eraseP
            (fun other => decide (other.id = context.id)) =
          front ++ back := by
  have hid := context_id_of_lookup hcontext
  obtain ⟨front, back, hlist, _, _, hmodified, herased⟩ :=
    exists_split_of_find? (f := change) hcontext
  subst hid
  exact ⟨front, back, hlist, hmodified, herased⟩

theorem live_insertResource {resource : VirglResource}
    (hcontext : getVirglContextFromListUnsafe driver.virglContextList
      contextId = some context) :
    (driver.insertResource context.id resource).live.Perm
      ((context.id, resource) :: driver.live) := by
  obtain ⟨front, back, hlist, hmodified, _⟩ := context_split
    (fun context =>
      { context with resourceList := resource :: context.resourceList })
    hcontext
  unfold Driver.live Driver.insertResource
  rw [hmodified, hlist]
  simp only [liveIn_append, liveIn_cons, List.map_cons, List.cons_append]
  exact List.perm_middle

theorem live_removeResource {resource : VirglResource} {handle : UInt32}
    (hcontext : getVirglContextFromListUnsafe driver.virglContextList
      contextId = some context)
    (hresource : getResourceFromListUnsafe context handle = some resource) :
    driver.live.Perm
      ((context.id, resource) ::
        (driver.removeResource context.id handle).live) := by
  obtain ⟨front, back, hlist, hmodified, _⟩ := context_split
    (fun context =>
      { context with
        resourceList := context.resourceList.eraseP fun resource =>
          decide (resource.id = handle) })
    hcontext
  obtain ⟨before, behind, hresources, _, _, _, herased⟩ :=
    exists_split_of_find? (f := fun resource => resource) hresource
  unfold Driver.live Driver.removeResource
  rw [hmodified, hlist]
  simp only [liveIn_append, liveIn_cons, herased]
  simp only [hresources, List.map_append, List.map_cons]
  have hmiddle : ((liveIn front ++ before.map (Prod.mk context.id)) ++
      (context.id, resource) ::
        (behind.map (Prod.mk context.id) ++ liveIn back)).Perm _ :=
    List.perm_middle
  simpa only [List.append_assoc, List.cons_append] using hmiddle

theorem live_eraseContext
    (hcontext : getVirglContextFromListUnsafe driver.virglContextList
      contextId = some context) :
    driver.live.Perm
      (context.resourceList.map (Prod.mk context.id) ++
        liveIn (driver.virglContextList.eraseP fun other =>
          decide (other.id = context.id))) := by
  obtain ⟨front, back, hlist, _, herased⟩ :=
    context_split (fun context => context) hcontext
  unfold Driver.live
  rw [herased, hlist]
  simp only [liveIn_append, liveIn_cons]
  rw [← List.append_assoc, ← List.append_assoc]
  exact List.perm_append_comm.append_right _

theorem live_modifyResource {resource : VirglResource} {handle : UInt32}
    (change : VirglResource → VirglResource)
    (hcontext : getVirglContextFromListUnsafe driver.virglContextList
      contextId = some context)
    (hresource : getResourceFromListUnsafe context handle = some resource) :
    ∃ front back,
      driver.live = front ++ (context.id, resource) :: back ∧
        (driver.modifyContext context.id fun context =>
            context.modifyResource handle change).live =
          front ++ (context.id, change resource) :: back := by
  obtain ⟨front, back, hlist, hmodified, _⟩ := context_split
    (fun context => context.modifyResource handle change) hcontext
  obtain ⟨before, behind, hresources, _, _, hchanged, _⟩ :=
    exists_split_of_find? (f := change) hresource
  refine ⟨liveIn front ++ before.map (Prod.mk context.id),
    behind.map (Prod.mk context.id) ++ liveIn back, ?_, ?_⟩
  · unfold Driver.live
    rw [hlist]
    simp [hresources]
  · unfold Driver.live
    rw [hmodified]
    simp only [liveIn_append, liveIn_cons, VirglContext.modifyResource,
      hchanged]
    simp

theorem live_modifyContext_forall₂ {relation :
    VirglResource → VirglResource → Prop}
    (id : UInt32) (change : VirglContext → VirglContext) (driver : Driver)
    (hid : ∀ context, (change context).id = context.id)
    (hchange : ∀ context, List.Forall₂ relation context.resourceList
      (change context).resourceList) :
    List.Forall₂ (fun before after =>
        after = before ∨
          (before.1 = id ∧ after.1 = id ∧ relation before.2 after.2))
      driver.live (driver.modifyContext id change).live := by
  have hsame : ∀ contexts : List VirglContext,
      List.Forall₂ (fun before after =>
        after = before ∨
          (before.1 = id ∧ after.1 = id ∧ relation before.2 after.2))
        (liveIn contexts) (liveIn contexts) := fun contexts =>
    List.forall₂_same.mpr fun _ _ => Or.inl rfl
  unfold Driver.live Driver.modifyContext
  induction driver.virglContextList with
  | nil => exact List.Forall₂.nil
  | cons head tail ih =>
      simp only [modifyFirst]
      split
      · rename_i hhead
        have hheadId : head.id = id := by simpa using hhead
        simp only [liveIn_cons, hid]
        refine List.rel_append ?_ (hsame tail)
        rw [List.forall₂_map_left_iff, List.forall₂_map_right_iff]
        exact (hchange head).imp fun before after hrelated =>
          Or.inr ⟨hheadId, hheadId, hrelated⟩
      · simp only [liveIn_cons]
        refine List.rel_append ?_ ih
        exact List.forall₂_same.mpr fun _ _ => Or.inl rfl

end Lookups

/-! Contexts and, in each context, resources with distinct ids. -/

structure Driver.Distinct (driver : Driver) : Prop where
  contexts : (driver.virglContextList.map VirglContext.id).Nodup
  resources : ∀ context ∈ driver.virglContextList,
    (context.resourceList.map VirglResource.id).Nodup

namespace Driver.Distinct

variable {driver : Driver} {id : UInt32}
variable {change : VirglContext → VirglContext}

theorem modifyContext (h : driver.Distinct)
    (hid : ∀ context, (change context).id = context.id)
    (hchange : ∀ context ∈ driver.virglContextList, context.id = id →
      ((change context).resourceList.map VirglResource.id).Nodup) :
    (driver.modifyContext id change).Distinct where
  contexts := by
    unfold Driver.modifyContext
    rw [map_modifyFirst hid]
    exact h.contexts
  resources := by
    intro context hcontext
    rcases mem_modifyFirst hcontext with hkept | ⟨found, hfound, rfl⟩
    · exact h.resources context hkept
    · exact hchange found (List.mem_of_find?_eq_some hfound)
        (by simpa using List.find?_some hfound)

theorem live_modifyContext {update : VirglResource → VirglResource}
    (h : driver.Distinct)
    (hid : ∀ context, (change context).id = context.id)
    (hchange : ∀ context ∈ driver.virglContextList,
      (change context).resourceList = context.resourceList.map update) :
    (driver.modifyContext id change).live =
      driver.live.map fun entry =>
        if entry.1 = id then (entry.1, update entry.2) else entry := by
  unfold Driver.live Driver.modifyContext liveIn
  simp only
  rw [modifyFirst_key h.contexts, List.flatMap_map, List.map_flatMap]
  refine List.flatMap_congr fun context hcontext => ?_
  rw [List.map_map]
  by_cases hhere : context.id = id
  · rw [if_pos hhere, hchange context hcontext, hid, List.map_map]
    simp [Function.comp_def, hhere]
  · rw [if_neg hhere]
    simp [Function.comp_def, hhere]

theorem live_updateResourceState (h : driver.Distinct) (ids : List UInt32)
    (busy : Bool) (fenceId : UInt64) :
    (driver.modifyContext id (updateResourceState ids busy fenceId)).live =
      driver.live.map fun entry =>
        if entry.1 = id then
          (entry.1,
            if entry.2.id ∈ ids then entry.2.updateState busy fenceId
            else entry.2)
        else entry :=
  h.live_modifyContext (updateResourceState_id ids busy fenceId)
    fun context hcontext =>
      updateResourceState_resourceList (h.resources context hcontext)

theorem live_modifyResource (h : driver.Distinct) (resourceId : UInt32)
    (update : VirglResource → VirglResource) :
    (driver.modifyContext id fun context =>
        context.modifyResource resourceId update).live =
      driver.live.map fun entry =>
        if entry.1 = id then
          (entry.1,
            if entry.2.id = resourceId then update entry.2 else entry.2)
        else entry := by
  have hchange : ∀ context ∈ driver.virglContextList,
      (context.modifyResource resourceId update).resourceList =
        context.resourceList.map fun resource =>
          if resource.id = resourceId then update resource else resource :=
    fun context hcontext =>
      modifyFirst_key (h.resources context hcontext) resourceId
  have hid : ∀ context : VirglContext,
      (context.modifyResource resourceId update).id = context.id :=
    fun _ => rfl
  exact h.live_modifyContext hid hchange

end Driver.Distinct

/-! The completion of a command. -/

/-- What the completion does to the context with the id in the header. -/
def VgpuBuffer.completion (buffer : VgpuBuffer) (info : MapInfo)
    (mapAddress : Option Nat) : VirglContext → VirglContext :=
  match buffer.mappedId, mapAddress with
  | some id, some address => fun context =>
      context.modifyResource id (VirglResource.mapAt info.size address)
  | _, _ =>
      updateResourceState buffer.updatedIds false buffer.pBuf.hdr.fenceId

@[simp] theorem completion_id (buffer : VgpuBuffer) (info : MapInfo)
    (mapAddress : Option Nat) (context : VirglContext) :
    (buffer.completion info mapAddress context).id = context.id := by
  unfold VgpuBuffer.completion
  cases buffer.mappedId with
  | none => exact updateResourceState_id _ _ _ _
  | some id =>
      cases mapAddress with
      | none => exact updateResourceState_id _ _ _ _
      | some address => rfl

private theorem completeResources_eq (ctxId : UInt32) (ids : List UInt32)
    (fenceId : UInt64) (driver : Driver) :
    completeResources ctxId ids fenceId driver =
      driver.modifyContext ctxId (updateResourceState ids false fenceId) := by
  unfold completeResources
  split
  · rename_i hnone
    have hsame := modifyFirst_of_find?_eq_none
      (f := updateResourceState ids false fenceId) hnone
    cases driver
    simp only [Driver.modifyContext, Driver.mk.injEq, true_and, and_true]
    exact hsame.symm
  · rename_i context hcontext
    rw [context_id_of_lookup hcontext]

theorem completion_neutral {buffer : VgpuBuffer}
    (hupdated : buffer.updatedIds = []) (hmapped : buffer.mappedId = none)
    (info : MapInfo) (mapAddress : Option Nat) (driver : Driver) :
    (driver.modifyContext buffer.pBuf.hdr.ctxId
        (buffer.completion info mapAddress)).virglContextList =
      driver.virglContextList := by
  have hsame : buffer.completion info mapAddress =
      fun context => context := by
    funext context
    simp only [VgpuBuffer.completion, hupdated, hmapped]
    rfl
  rw [hsame]
  exact modifyFirst_of_fixed fun _ _ => rfl

theorem completeBuffer_contexts (buffer : VgpuBuffer) (info : MapInfo)
    (mapAddress : Option Nat) (driver : Driver) :
    (completeBuffer buffer info mapAddress driver).virglContextList =
      (driver.modifyContext buffer.pBuf.hdr.ctxId
        (buffer.completion info mapAddress)).virglContextList := by
  cases hbody : buffer.pBuf.body with
  | submit3d size =>
      cases hids : buffer.resourceIds with
      | none =>
          rw [completion_neutral
            (by simp [VgpuBuffer.updatedIds, hbody, hids])
            (by simp [VgpuBuffer.mappedId, hbody])]
          cases hfence : buffer.fenceObject with
          | none => simp [completeBuffer, hbody, hids, hfence, freeCommandBuffer]
          | some object =>
              simp [completeBuffer, hbody, hids, hfence, freeCommandBuffer]
      | some ids =>
          have hcompletion : buffer.completion info mapAddress =
              updateResourceState ids false buffer.pBuf.hdr.fenceId := by
            simp [VgpuBuffer.completion, VgpuBuffer.mappedId,
              VgpuBuffer.updatedIds, hbody, hids]
          cases hfence : buffer.fenceObject with
          | none =>
              simp [completeBuffer, hbody, hids, hfence, freeCommandBuffer,
                completeResources_eq, hcompletion]
          | some object =>
              simp [completeBuffer, hbody, hids, hfence, freeCommandBuffer,
                completeResources_eq, hcompletion]
  | resourceMapBlob id =>
      simp only [completeBuffer, hbody, freeCommandBuffer, log_frame]
      cases mapAddress with
      | none =>
          have hcompletion : buffer.completion info none =
              fun context => context := by
            funext context
            simp [VgpuBuffer.completion, VgpuBuffer.mappedId,
              VgpuBuffer.updatedIds, hbody, updateResourceState]
          rw [hcompletion]
          split
          · exact (modifyFirst_of_fixed fun _ _ => rfl).symm
          · unfold mapBlobResourceCallback
            split
            · exact (modifyFirst_of_fixed fun _ _ => rfl).symm
            · exact (modifyFirst_of_fixed fun _ _ => rfl).symm
      | some address =>
          have hcompletion : buffer.completion info (some address) =
              fun context => context.modifyResource id
                (VirglResource.mapAt info.size address) := by
            simp [VgpuBuffer.completion, VgpuBuffer.mappedId, hbody]
          rw [hcompletion]
          split
          · rename_i hnone
            exact (modifyFirst_of_find?_eq_none hnone).symm
          · rename_i context hcontext
            unfold mapBlobResourceCallback
            split
            · rename_i hnone
              refine (modifyFirst_of_fixed fun found hfound => ?_).symm
              have hsame : context = found :=
                Option.some.inj (hcontext.symm.trans hfound)
              subst hsame
              simp only [VirglContext.modifyResource,
                modifyFirst_of_find?_eq_none hnone]
            · simp [context_id_of_lookup hcontext]
  | transferHost3d toHost transfer =>
      have hcompletion : buffer.completion info mapAddress =
          updateResourceState [transfer.resourceId] false
            buffer.pBuf.hdr.fenceId := by
        simp [VgpuBuffer.completion, VgpuBuffer.mappedId,
          VgpuBuffer.updatedIds, hbody]
      simp [completeBuffer, hbody, freeCommandBuffer, completeResources_eq,
        hcompletion]
  | _ =>
      rw [completion_neutral
        (by simp [VgpuBuffer.updatedIds, hbody])
        (by simp [VgpuBuffer.mappedId, hbody])]
      simp [completeBuffer, hbody, freeCommandBuffer]

theorem completeBuffer_frame (buffer : VgpuBuffer) (info : MapInfo)
    (mapAddress : Option Nat) (driver : Driver) :
    (completeBuffer buffer info mapAddress driver).vgpuMemory =
        (if buffer.IsSubmit then
          freeVgpuMemory buffer.pDataBuf buffer.dataBufSize driver.vgpuMemory
        else driver.vgpuMemory) ∧
      (completeBuffer buffer info mapAddress driver).resourceIds =
        driver.resourceIds ∧
      (completeBuffer buffer info mapAddress driver).fenceIds =
        driver.fenceIds ∧
      (completeBuffer buffer info mapAddress driver).virtQueues =
        driver.virtQueues ∧
      (completeBuffer buffer info mapAddress driver).pushCount =
        driver.pushCount := by
  cases hbody : buffer.pBuf.body with
  | submit3d size =>
      cases hids : buffer.resourceIds <;> cases hfence : buffer.fenceObject <;>
        simp [completeBuffer, hbody, hids, hfence, freeCommandBuffer,
          completeResources_eq, VgpuBuffer.IsSubmit]
  | resourceMapBlob id =>
      simp only [completeBuffer, hbody, freeCommandBuffer, log_frame,
        VgpuBuffer.IsSubmit, Bool.false_eq_true, if_false]
      split
      · exact ⟨rfl, rfl, rfl, rfl, rfl⟩
      · unfold mapBlobResourceCallback
        split
        · exact ⟨rfl, rfl, rfl, rfl, rfl⟩
        · split
          · exact ⟨rfl, rfl, rfl, rfl, rfl⟩
          · exact ⟨rfl, rfl, rfl, rfl, rfl⟩
  | transferHost3d toHost transfer =>
      simp [completeBuffer, hbody, freeCommandBuffer, completeResources_eq,
        VgpuBuffer.IsSubmit]
  | _ => simp [completeBuffer, hbody, freeCommandBuffer, VgpuBuffer.IsSubmit]

/-- One iteration of the completion loop took `buffer` from `queue`. -/
structure Completes (queue : Queue) (buffer : VgpuBuffer) (info : MapInfo)
    (mapAddress : Option Nat) (before after : Driver) : Prop where
  head : before.inFlight queue = buffer :: after.inFlight queue
  others : ∀ other, other ≠ queue →
    after.inFlight other = before.inFlight other
  contexts : after.virglContextList =
    (before.modifyContext buffer.pBuf.hdr.ctxId
      (buffer.completion info mapAddress)).virglContextList
  vgpuMemory : after.vgpuMemory =
    if buffer.IsSubmit then
      freeVgpuMemory buffer.pDataBuf buffer.dataBufSize before.vgpuMemory
    else before.vgpuMemory
  resourceIds : after.resourceIds = before.resourceIds
  fenceIds : after.fenceIds = before.fenceIds
  pushCount : after.pushCount = before.pushCount

theorem readOneFromQueue_cases (queue : Queue) (mapAddress : Option Nat)
    (driver : Driver) :
    readOneFromQueue queue mapAddress driver = driver ∨
      ∃ buffer info rest,
        (driver.virtQueues queue).used = (buffer, info) :: rest ∧
          readOneFromQueue queue mapAddress driver =
            completeBuffer buffer info mapAddress
              (takeUsed queue rest driver) ∧
          Completes queue buffer info mapAddress driver
            (readOneFromQueue queue mapAddress driver) := by
  cases hused : (driver.virtQueues queue).used with
  | nil => exact Or.inl (by simp [readOneFromQueue, hused])
  | cons head rest =>
      obtain ⟨buffer, info⟩ := head
      have hread : readOneFromQueue queue mapAddress driver =
          completeBuffer buffer info mapAddress
            (takeUsed queue rest driver) := by
        simp [readOneFromQueue, hused]
      have hframe := completeBuffer_frame buffer info mapAddress
        (takeUsed queue rest driver)
      refine Or.inr ⟨buffer, info, rest, rfl, hread, ?_⟩
      rw [hread]
      refine ⟨?_, ?_, ?_, hframe.1, hframe.2.1, hframe.2.2.1,
        hframe.2.2.2.2⟩
      · unfold Driver.inFlight
        rw [hframe.2.2.2.1]
        simp [takeUsed, Virtqueue.inFlight, hused]
      · intro other hother
        unfold Driver.inFlight
        rw [hframe.2.2.2.1]
        simp [takeUsed, hother]
      · rw [completeBuffer_contexts]
        rfl

theorem readOneFromQueue_avail (queue other : Queue)
    (mapAddress : Option Nat) (driver : Driver) :
    ((readOneFromQueue queue mapAddress driver).virtQueues other).avail =
      (driver.virtQueues other).avail := by
  rcases readOneFromQueue_cases queue mapAddress driver with
    hsame | ⟨buffer, info, rest, _, hread, _⟩
  · rw [hsame]
  · rw [hread, (completeBuffer_frame buffer info mapAddress _).2.2.2.1]
    unfold takeUsed
    dsimp only
    split
    · rfl
    · rfl

/-! The host. -/

theorem returnBuffer_inFlight_perm {driver : Driver} {queue : Queue}
    {slot : Nat} {buffer : VgpuBuffer} (info : MapInfo)
    (hslot : (driver.virtQueues queue).avail[slot]? = some buffer)
    (other : Queue) :
    ((driver.returnBuffer queue slot buffer info).inFlight other).Perm
      (driver.inFlight other) := by
  unfold Driver.inFlight Driver.returnBuffer
  by_cases hother : other = queue
  · subst hother
    simp only [if_true, Virtqueue.inFlight, List.map_append, List.map_cons,
      List.map_nil, List.append_assoc, List.singleton_append]
    refine List.Perm.append_left _ ?_
    obtain ⟨hinside, rfl⟩ := List.getElem?_eq_some_iff.mp hslot
    exact (List.getElem_cons_eraseIdx_perm hinside)
  · simp [hother]

theorem returnBuffer_inFlight_fifo {driver : Driver} {queue : Queue}
    {buffer : VgpuBuffer} (info : MapInfo)
    (hslot : (driver.virtQueues queue).avail[0]? = some buffer)
    (other : Queue) :
    (driver.returnBuffer queue 0 buffer info).inFlight other =
      driver.inFlight other := by
  unfold Driver.inFlight Driver.returnBuffer
  by_cases hother : other = queue
  · subst hother
    cases havail : (driver.virtQueues other).avail with
    | nil => simp [havail] at hslot
    | cons head tail =>
        have hhead : head = buffer := by simpa [havail] using hslot
        simp [Virtqueue.inFlight, havail, hhead]
  · simp [hother]

end VgpuDriver
