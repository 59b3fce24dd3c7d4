import VgpuDriver.Data.OwnerTable
import VgpuDriver.HandleSets
import VgpuDriver.HostResources
import VgpuDriver.IdRuns

namespace VgpuDriver

open Data

/-! What the processes see of the resources: a table of the handles that each
of them holds.  The ioctls of the driver keep to it, whatever happens to the
resources behind the handles. -/

/-- The processes with a context, each with its handles. -/
abbrev HandleTable : Type := OwnerTable UInt32 UInt32

def Driver.handles (driver : Driver) : HandleTable :=
  .ofList VirglContext.id
    (fun context => context.resourceList.map VirglResource.id)
    driver.virglContextList

namespace IoRequest

/-- The request asks for a handle. -/
def Creates : IoRequest → Prop
  | .resourceCreate _ | .blobResourceCreate _ => True
  | _ => False

/-- The request names the handle and leaves it as it is. -/
def Uses (handle : UInt32) : IoRequest → Prop
  | .wait request =>
      ∃ cmd, request.input = .ok cmd ∧ request.output = .ok () ∧
        cmd.handle = handle
  | .map request =>
      ∃ cmd, request.input = .ok cmd ∧ request.output = .ok () ∧
        cmd.handle = handle
  | .transferHost _ request =>
      ∃ cmd, request.input = .ok cmd ∧ cmd.boHandle = handle
  | _ => False

end IoRequest

namespace HandleTable

/-- The requests that may not be refused; the others can fail for what the
table does not show. -/
def Grants (table : HandleTable) (processId : UInt32) : IoRequest → Prop
  | .destroyContext => table processId ≠ none
  | .resourceClose input =>
      ∃ close, input = .ok close ∧ table.Holds processId close.handle
  | .wait request =>
      ∃ handle, (IoRequest.wait request).Uses handle ∧
        table.Holds processId handle
  | .transferHost toHost request =>
      ∃ handle, (IoRequest.transferHost toHost request).Uses handle ∧
        table.Holds processId handle
  | _ => False

/-- The answers to a request of the process, each with the table behind it. -/
inductive Answers (table : HandleTable) (processId : UInt32) :
    IoRequest → Reply → HandleTable → Prop
  | opened (request : ContextInitRequest) (hnew : table processId = none) :
      Answers table processId (.contextInit request)
        (.complete .success none) (table.gives processId ∅)
  | destroyed (hopen : table processId ≠ none) :
      Answers table processId .destroyContext (.complete .success none)
        (table.drops processId)
  | created (request : IoRequest) (handles : Finset UInt32) (id : UInt32)
      (hcreates : request.Creates) (hopen : table processId = some handles)
      (hfree : table.Free id) (hnonzero : id ≠ 0) :
      Answers table processId request
        (.complete .success (some id.toNat))
        (table.gives processId (insert id handles))
  | closed (close : DrmGemClose) (handles : Finset UInt32)
      (hopen : table processId = some handles)
      (hheld : close.handle ∈ handles) :
      Answers table processId (.resourceClose (.ok close))
        (.complete .success none)
        (table.gives processId (handles.erase close.handle))
  | used (request : IoRequest) (handle : UInt32) (output : Option Nat)
      (huses : request.Uses handle)
      (hheld : table.Holds processId handle) :
      Answers table processId request (.complete .success output) table
  | waits (request : IoRequest) (handle : UInt32) (owner : Nat)
      (huses : request.Uses handle)
      (hheld : table.Holds processId handle) :
      Answers table processId request (.waiting owner) table
  | submitted (request : ExecbufferRequest) (hopen : table processId ≠ none) :
      Answers table processId (.execbuffer request)
        (.complete .success none) table
  | refused (request : IoRequest) (status : NtStatus)
      (hstatus : status ≠ .success)
      (hrefusable : ¬table.Grants processId request) :
      Answers table processId request (.complete status none) table

theorem Answers.change {table after : HandleTable} {processId : UInt32}
    {request : IoRequest} {reply : Reply}
    (h : table.Answers processId request reply after) :
    OwnerTable.Change table processId after := by
  cases h with
  | opened request hnew => exact .opened hnew
  | destroyed hopen => exact .dropped
  | created request handles id hcreates hopen hfree hnonzero =>
      exact .added handles id hopen hfree
  | closed close handles hopen hheld =>
      exact .removed handles close.handle hopen
  | used request handle output huses hheld => exact .kept
  | waits request handle owner huses hheld => exact .kept
  | submitted request hopen => exact .kept
  | refused request status hstatus hrefusable => exact .kept

end HandleTable

/-! The operations on the lists as operations on the table. -/

section Lists

variable {driver after : Driver} {context : VirglContext}
variable {contextId id : UInt32}

theorem handles_of_contexts
    (hcontexts : after.virglContextList = driver.virglContextList) :
    after.handles = driver.handles := by
  unfold Driver.handles
  rw [hcontexts]

theorem handles_found
    (hcontext : getVirglContextFromListUnsafe driver.virglContextList
      contextId = some context) :
    driver.handles contextId =
      some (context.resourceList.map VirglResource.id).toFinset :=
  OwnerTable.ofList_found hcontext

theorem handles_eq_none :
    driver.handles contextId = none ↔
      getVirglContextFromListUnsafe driver.virglContextList contextId =
        none :=
  OwnerTable.ofList_eq_none

theorem handles_ne_none
    (hcontext : getVirglContextFromListUnsafe driver.virglContextList
      contextId = some context) : driver.handles contextId ≠ none := by
  rw [handles_found hcontext]
  exact Option.some_ne_none _

theorem holds_of_lookup {resource : VirglResource}
    (hcontext : getVirglContextFromListUnsafe driver.virglContextList
      contextId = some context)
    (hresource : getResourceFromListUnsafe context id = some resource) :
    driver.handles.Holds contextId id := by
  refine ⟨_, handles_found hcontext, ?_⟩
  rw [List.mem_toFinset]
  have hid : resource.id = id := by simpa using List.find?_some hresource
  rw [← hid]
  exact List.mem_map_of_mem (List.mem_of_find?_eq_some hresource)

theorem not_holds_of_no_context
    (hnone : getVirglContextFromListUnsafe driver.virglContextList
      contextId = none) : ¬driver.handles.Holds contextId id := by
  rintro ⟨handles, hhandles, _⟩
  rw [handles_eq_none.mpr hnone] at hhandles
  cases hhandles

theorem not_holds_of_no_resource
    (hcontext : getVirglContextFromListUnsafe driver.virglContextList
      contextId = some context)
    (hnone : getResourceFromListUnsafe context id = none) :
    ¬driver.handles.Holds contextId id := by
  rw [OwnerTable.holds_iff (handles_found hcontext), List.mem_toFinset,
    List.mem_map]
  rintro ⟨resource, hresource, hid⟩
  have hother := List.find?_eq_none.mp hnone resource hresource
  exact hother (decide_eq_true hid)

/-- A name that no live resource has is free. -/
theorem handles_free (hfresh : ∀ entry ∈ driver.live, entry.2.id ≠ id) :
    driver.handles.Free id := by
  rintro owner ⟨handles, hhandles, hmem⟩
  cases hcontext : getVirglContextFromListUnsafe driver.virglContextList
      owner with
  | none =>
      rw [handles_eq_none.mpr hcontext] at hhandles
      cases hhandles
  | some context =>
      rw [handles_found hcontext] at hhandles
      rw [← Option.some.inj hhandles, List.mem_toFinset] at hmem
      obtain ⟨resource, hresource, hid⟩ := List.mem_map.mp hmem
      exact hfresh _ (mem_live_of_lookup hcontext hresource) hid

theorem handles_modifyContext {change : VirglContext → VirglContext}
    (hid : ∀ context, (change context).id = context.id)
    (hcontext : getVirglContextFromListUnsafe driver.virglContextList
      contextId = some context) :
    (driver.modifyContext contextId change).handles =
      driver.handles.gives contextId
        ((change context).resourceList.map VirglResource.id).toFinset :=
  OwnerTable.ofList_modifyFirst hid hcontext

theorem handles_modifyContext_same {change : VirglContext → VirglContext}
    (hid : ∀ context, (change context).id = context.id)
    (hids : ∀ context : VirglContext,
      (change context).resourceList.map VirglResource.id =
        context.resourceList.map VirglResource.id) :
    (driver.modifyContext contextId change).handles = driver.handles :=
  OwnerTable.ofList_modifyFirst_same hid hids

theorem handles_updateResourceState (ids : List UInt32) (busy : Bool)
    (fenceId : UInt64) :
    (driver.modifyContext contextId
      (updateResourceState ids busy fenceId)).handles = driver.handles := by
  apply handles_modifyContext_same
  · exact updateResourceState_id ids busy fenceId
  · exact updateResourceState_ids busy fenceId ids

theorem handles_modifyResource {change : VirglResource → VirglResource}
    (hchange : ∀ resource, (change resource).id = resource.id) :
    (driver.modifyContext contextId fun context =>
      context.modifyResource id change).handles = driver.handles := by
  apply handles_modifyContext_same
  · exact fun _ => rfl
  · exact fun _ => map_modifyFirst hchange

theorem handles_insertResource (resource : VirglResource)
    (hcontext : getVirglContextFromListUnsafe driver.virglContextList
      contextId = some context) :
    (driver.insertResource contextId resource).handles =
      driver.handles.gives contextId
        (insert resource.id
          (context.resourceList.map VirglResource.id).toFinset) := by
  unfold Driver.insertResource
  rw [handles_modifyContext ?_ hcontext]
  · rw [List.map_cons, List.toFinset_cons]
  · exact fun _ => rfl

theorem handles_removeResource (h : driver.Distinct)
    (hcontext : getVirglContextFromListUnsafe driver.virglContextList
      contextId = some context) :
    (driver.removeResource contextId id).handles =
      driver.handles.gives contextId
        ((context.resourceList.map VirglResource.id).toFinset.erase id) := by
  unfold Driver.removeResource
  rw [handles_modifyContext ?_ hcontext]
  swap
  · exact fun _ => rfl
  apply congrArg
  ext handle
  have hnodup := h.resources context (List.mem_of_find?_eq_some hcontext)
  rw [eraseP_key hnodup, List.mem_toFinset, Finset.mem_erase,
    List.mem_toFinset, List.mem_map, List.mem_map]
  constructor
  · rintro ⟨resource, hresource, rfl⟩
    have hkept := List.mem_filter.mp hresource
    exact ⟨by simpa using hkept.2, resource, hkept.1, rfl⟩
  · rintro ⟨hother, resource, hresource, rfl⟩
    refine ⟨resource, List.mem_filter.mpr ⟨hresource, ?_⟩, rfl⟩
    exact decide_eq_true hother

theorem handles_eraseContext (h : driver.Distinct)
    (hcontexts : after.virglContextList =
      driver.virglContextList.eraseP fun other =>
        decide (other.id = contextId)) :
    after.handles = driver.handles.drops contextId := by
  unfold Driver.handles
  rw [hcontexts]
  exact OwnerTable.ofList_eraseP h.contexts

theorem handles_openContext
    (hcontexts : after.virglContextList =
      { id := contextId, resourceList := [] } :: driver.virglContextList) :
    after.handles = driver.handles.gives contextId ∅ := by
  unfold Driver.handles
  rw [hcontexts, OwnerTable.ofList_cons]
  rfl

end Lists

section Requests

variable {addBuf : Nat → Bool} {processId : UInt32} {driver : Driver}

private theorem Fetch.andThen_answers {α : Type} {request : IoRequest}
    {fetch : Fetch α} {next : α → Reply × Driver} {current : Driver}
    (hcurrent : current.handles = driver.handles)
    (hrefusable : (∀ contents, fetch ≠ .ok contents) →
      ¬driver.handles.Grants processId request)
    (hnext : ∀ contents, fetch = .ok contents →
      driver.handles.Answers processId request (next contents).1
        (next contents).2.handles) :
    driver.handles.Answers processId request
      (fetch.andThen current next).1
      (fetch.andThen current next).2.handles := by
  cases fetch with
  | failed code =>
      rw [show (Fetch.failed code).andThen current next =
        (.complete (.other code) none, current) from rfl, hcurrent]
      exact .refused request _ (by simp) (hrefusable fun _ => by simp)
  | rejected =>
      rw [show Fetch.rejected.andThen current next =
        (.complete .unsuccessful none, current) from rfl, hcurrent]
      exact .refused request _ (by simp) (hrefusable fun _ => by simp)
  | ok contents => exact hnext contents rfl

private theorem kept_answers {request : IoRequest} {reply : Reply}
    {after : Driver}
    (h : driver.handles.Answers processId request reply driver.handles)
    (hsame : after.handles = driver.handles) :
    driver.handles.Answers processId request reply after.handles := by
  rw [hsame]
  exact h

private theorem opened_answers {after : Driver}
    (request : ContextInitRequest)
    (hnew : getVirglContextFromListUnsafe driver.virglContextList
      processId = none)
    (hafter : after.virglContextList =
      { id := processId, resourceList := [] } :: driver.virglContextList) :
    driver.handles.Answers processId (.contextInit request)
      (.complete .success none) after.handles := by
  rw [handles_openContext hafter]
  exact .opened request (handles_eq_none.mpr hnew)

private theorem ctlInitVirglContext_answers (request : ContextInitRequest) :
    driver.handles.Answers processId (.contextInit request)
      (ctlInitVirglContext addBuf processId request driver).1
      (ctlInitVirglContext addBuf processId request driver).2.handles := by
  unfold ctlInitVirglContext
  split
  · exact .refused _ _ (by simp) id
  · rename_i hnew
    refine Fetch.andThen_answers rfl (fun _ => id) fun init _ => ?_
    refine Fetch.andThen_answers rfl (fun _ => id) fun params _ => ?_
    dsimp only
    split
    · rename_i hstatus
      exact .refused _ _ hstatus id
    · split
      · exact .refused _ _ (by simp) id
      · exact opened_answers request hnew rfl

private theorem ioctlDestroyContext_answers (h : driver.Distinct) :
    driver.handles.Answers processId .destroyContext
      (ioctlDestroyContext addBuf processId driver).1
      (ioctlDestroyContext addBuf processId driver).2.handles := by
  unfold ioctlDestroyContext
  split
  · rename_i hnone
    refine .refused _ _ (by simp) fun hgranted => ?_
    exact hgranted (handles_eq_none.mpr hnone)
  · rename_i context hcontext
    have hframe := ctlDestroyVirglContext_frame addBuf context driver
    rw [context_id_of_lookup hcontext] at hframe
    rw [handles_eraseContext h hframe.1]
    exact .destroyed (handles_ne_none hcontext)

/-- The id that a creation gives is fresh. -/
def NextIdFresh (driver : Driver) : Prop :=
  nextResourceId driver ≠ 0 ∧ driver.handles.Free (nextResourceId driver)

private theorem created_answers {request : IoRequest}
    {context : VirglContext} {resource : VirglResource} {after : Driver}
    (hcreates : request.Creates) (hfresh : NextIdFresh driver)
    (hcontext : getVirglContextFromListUnsafe driver.virglContextList
      processId = some context)
    (hid : resource.id = nextResourceId driver)
    (hafter : after.virglContextList =
      (driver.insertResource context.id resource).virglContextList) :
    driver.handles.Answers processId request
      (.complete .success (some resource.id.toNat)) after.handles := by
  rw [context_id_of_lookup hcontext] at hafter
  rw [handles_of_contexts hafter, handles_insertResource resource hcontext,
    hid]
  exact .created request _ _ hcreates (handles_found hcontext) hfresh.2
    hfresh.1

private theorem ctlCreateResource_answers (request : ResourceCreateRequest)
    (hfresh : (ctlCreateResource addBuf processId request
      driver).2.resourceIds ≠ driver.resourceIds → NextIdFresh driver) :
    driver.handles.Answers processId (.resourceCreate request)
      (ctlCreateResource addBuf processId request driver).1
      (ctlCreateResource addBuf processId request driver).2.handles := by
  cases hstart : startCreate processId request.input request.output
      request.record driver with
  | none =>
      obtain ⟨status, hstatus, hreply⟩ :=
        ctlCreateResource_of_none addBuf hstart
      rw [hreply]
      exact .refused _ status hstatus id
  | some started =>
      have hcontext := (startCreate_some hstart).context
      have hend := ctlCreateResource_end addBuf hstart
      generalize ctlCreateResource addBuf processId request driver = result
        at hend hfresh
      cases hend with
      | exhausted hbuffer halloc =>
          exact .refused _ _ (by simp) id
      | backed memory vgpuMemory resource hbuffer halloc hresource =>
          subst hresource
          exact created_answers trivial (hfresh Agreed.counter_ne) hcontext
            rfl rfl
      | bare hbuffer =>
          exact created_answers trivial (hfresh Agreed.counter_ne) hcontext
            rfl rfl

private theorem ctlCreateBlobResource_answers
    (request : BlobResourceCreateRequest)
    (hfresh : (ctlCreateBlobResource addBuf processId request
      driver).2.resourceIds ≠ driver.resourceIds → NextIdFresh driver) :
    driver.handles.Answers processId (.blobResourceCreate request)
      (ctlCreateBlobResource addBuf processId request driver).1
      (ctlCreateBlobResource addBuf processId request driver).2.handles := by
  unfold ctlCreateBlobResource at hfresh ⊢
  cases hinput : request.input with
  | failed code => exact .refused _ _ (by simp) id
  | rejected => exact .refused _ _ (by simp) id
  | ok create =>
      cases houtput : request.output with
      | failed code => exact .refused _ _ (by simp) id
      | rejected => exact .refused _ _ (by simp) id
      | ok _ =>
          rw [hinput, houtput] at hfresh
          simp only [Fetch.andThen] at hfresh ⊢
          cases hcontext : getVirglContextFromListUnsafe
              driver.virglContextList processId with
          | none => exact .refused _ _ (by simp) id
          | some context =>
              rw [hcontext] at hfresh
              unfold createBlob at hfresh ⊢
              cases hrecord : exAllocateFromLookasideListEx request.record
                  driver.virglResourceLookAsideList with
              | none => exact .refused _ _ (by simp) id
              | some grant =>
                  rw [hrecord] at hfresh
                  exact created_answers trivial
                    (hfresh Agreed.counter_ne) hcontext rfl rfl

private theorem refused_of_no_context {request : IoRequest}
    {handle : UInt32}
    (hholds : driver.handles.Grants processId request →
      driver.handles.Holds processId handle)
    (hnone : getVirglContextFromListUnsafe driver.virglContextList
      processId = none) :
    driver.handles.Answers processId request (.complete .unsuccessful none)
      driver.handles := by
  refine .refused _ _ (by simp) fun hgranted => ?_
  exact not_holds_of_no_context hnone (hholds hgranted)

private theorem refused_of_no_resource {request : IoRequest}
    {handle : UInt32} {context : VirglContext}
    (hholds : driver.handles.Grants processId request →
      driver.handles.Holds processId handle)
    (hcontext : getVirglContextFromListUnsafe driver.virglContextList
      processId = some context)
    (hnone : getResourceFromListUnsafe context handle = none) :
    driver.handles.Answers processId request (.complete .unsuccessful none)
      driver.handles := by
  refine .refused _ _ (by simp) fun hgranted => ?_
  exact not_holds_of_no_resource hcontext hnone (hholds hgranted)

private theorem ctlCloseResource_answers (h : driver.Distinct)
    (input : Fetch DrmGemClose) :
    driver.handles.Answers processId (.resourceClose input)
      (ctlCloseResource addBuf processId input driver).1
      (ctlCloseResource addBuf processId input driver).2.handles := by
  refine Fetch.andThen_answers rfl ?_ fun close hclose => ?_
  · rintro hfailed ⟨close, hclose, _⟩
    exact hfailed close hclose
  · subst hclose
    have hholds : driver.handles.Grants processId
        (.resourceClose (.ok close)) →
          driver.handles.Holds processId close.handle := by
      rintro ⟨other, hother, hheld⟩
      cases hother
      exact hheld
    split
    · rename_i hnone
      exact refused_of_no_context hholds hnone
    · rename_i context hcontext
      split
      · rename_i hnone
        exact refused_of_no_resource hholds hcontext hnone
      · rename_i resource hresource
        have hid := context_id_of_lookup hcontext
        have hframe := deleteAndRelease_frame addBuf context.id resource
          (driver.removeResource context.id close.handle)
        rw [handles_of_contexts hframe.1, hid,
          handles_removeResource h hcontext]
        refine .closed close _ (handles_found hcontext) ?_
        have hheld := holds_of_lookup hcontext hresource
        exact (OwnerTable.holds_iff (handles_found hcontext) _).mp hheld

private theorem ctlWait_answers (request : WaitRequest) :
    driver.handles.Answers processId (.wait request)
      (ctlWait processId request driver).1
      (ctlWait processId request driver).2.handles := by
  refine Fetch.andThen_answers rfl ?_ fun cmd hcmd => ?_
  · rintro hfailed ⟨_, ⟨cmd, hcmd, _⟩, _⟩
    exact hfailed cmd hcmd
  refine Fetch.andThen_answers rfl ?_ fun output houtput => ?_
  · rintro hfailed ⟨_, ⟨_, _, houtput, _⟩, _⟩
    exact hfailed () houtput
  have huses : (IoRequest.wait request).Uses cmd.handle :=
    ⟨cmd, hcmd, houtput, rfl⟩
  have hholds : driver.handles.Grants processId (.wait request) →
      driver.handles.Holds processId cmd.handle := by
    rintro ⟨handle, ⟨other, hother, _, rfl⟩, hheld⟩
    rw [hcmd] at hother
    cases hother
    exact hheld
  split
  · rename_i hnone
    exact refused_of_no_context hholds hnone
  · rename_i context hcontext
    split
    · rename_i hnone
      exact refused_of_no_resource hholds hcontext hnone
    · rename_i resource hresource
      have hheld := holds_of_lookup hcontext hresource
      split
      · exact .used _ _ _ huses hheld
      · split
        · exact .used _ _ _ huses hheld
        · exact .waits _ _ _ huses hheld

private theorem mapResource_answers {request : MapRequest}
    {context : VirglContext} {resource : VirglResource} {handle : UInt32}
    (huses : (IoRequest.map request).Uses handle)
    (hheld : driver.handles.Holds processId handle) :
    driver.handles.Answers processId (.map request)
      (mapResource context.id resource request driver).1
      (mapResource context.id resource request driver).2.handles := by
  have hhandles : (mapResource context.id resource request
      driver).2.handles = driver.handles := by
    obtain ⟨share, history, hmapped, _⟩ :=
      mapResource_frame context.id resource request driver
    rw [hmapped]
    exact handles_modifyResource fun _ => rfl
  rw [hhandles]
  unfold mapResource
  dsimp only
  split
  · exact .used _ _ _ huses hheld
  · exact .refused _ _ (by simp) id

private theorem ctlMap_answers (request : MapRequest) :
    driver.handles.Answers processId (.map request)
      (ctlMap processId request driver).1
      (ctlMap processId request driver).2.handles := by
  refine Fetch.andThen_answers rfl (fun _ => id) fun cmd hcmd => ?_
  refine Fetch.andThen_answers rfl (fun _ => id) fun output houtput => ?_
  have huses : (IoRequest.map request).Uses cmd.handle :=
    ⟨cmd, hcmd, houtput, rfl⟩
  split
  · exact .refused _ _ (by simp) id
  · rename_i context hcontext
    split
    · exact .refused _ _ (by simp) id
    · rename_i resource hresource
      have hheld := holds_of_lookup hcontext hresource
      split
      · exact .refused _ _ (by simp) id
      · split
        · exact .used _ _ _ huses hheld
        · split
          · exact .waits _ _ _ huses hheld
          · exact mapResource_answers huses hheld

private theorem ctlTransferHost_answers (toHost : Bool)
    (request : TransferRequest) :
    driver.handles.Answers processId (.transferHost toHost request)
      (ctlTransferHost addBuf processId toHost request driver).1
      (ctlTransferHost addBuf processId toHost request
        driver).2.handles := by
  refine Fetch.andThen_answers rfl ?_ fun cmd hcmd => ?_
  · rintro hfailed ⟨_, ⟨cmd, hcmd, _⟩, _⟩
    exact hfailed cmd hcmd
  have hholds : driver.handles.Grants processId
      (.transferHost toHost request) →
        driver.handles.Holds processId cmd.boHandle := by
    rintro ⟨handle, ⟨other, hother, rfl⟩, hheld⟩
    rw [hcmd] at hother
    cases hother
    exact hheld
  split
  · rename_i hnone
    exact refused_of_no_context hholds hnone
  · rename_i context hcontext
    split
    · rename_i hnone
      exact refused_of_no_resource hholds hcontext hnone
    · rename_i resource hresource
      have hupdated := @handles_updateResourceState driver context.id
        [resource.id] true 0
      refine kept_answers (.used _ _ _ ⟨cmd, hcmd, rfl⟩ ?_) hupdated
      exact holds_of_lookup hcontext hresource

private theorem execbuffer_answers {request : ExecbufferRequest}
    {context : VirglContext} {after : Driver} (status : NtStatus)
    (hcontext : getVirglContextFromListUnsafe driver.virglContextList
      processId = some context)
    (hsame : after.handles = driver.handles) :
    driver.handles.Answers processId (.execbuffer request)
      (.complete status none) after.handles := by
  refine kept_answers ?_ hsame
  by_cases hstatus : status = .success
  · rw [hstatus]
    exact .submitted request (handles_ne_none hcontext)
  · exact .refused _ status hstatus id

private theorem submitPages_answers {context : VirglContext}
    {cmd : DrmVirtgpuExecbuffer} {request : ExecbufferRequest}
    {current : Driver} (outFence : Option Nat)
    (hcontext : getVirglContextFromListUnsafe driver.virglContextList
      processId = some context)
    (hcurrent : current.handles = driver.handles) :
    driver.handles.Answers processId (.execbuffer request)
      (submitPages addBuf context cmd request outFence current).1
      (submitPages addBuf context cmd request outFence
        current).2.handles := by
  unfold submitPages
  dsimp only
  split
  · exact execbuffer_answers _ hcontext hcurrent
  · rename_i memory vgpuMemory _
    have hfenced : (drawFenceId outFence (grantCommand memory
        (roundUp cmd.size 0x1000).toNat cmd.size.toNat vgpuMemory
          current)).2.handles = driver.handles :=
      (handles_of_contexts (drawFenceId_frame _ outFence).1).trans hcurrent
    split
    · refine Fetch.andThen_answers hfenced (fun _ => id) fun reads _ => ?_
      have hmarked := fun fenceId : UInt64 =>
        (@handles_updateResourceState _ context.id (markedIds cmd reads)
          true fenceId).trans hfenced
      split
      · exact execbuffer_answers _ hcontext (hmarked _)
      · exact execbuffer_answers _ hcontext (hmarked _)
    · exact execbuffer_answers _ hcontext hfenced

private theorem ctlSubmitCommand_answers (request : ExecbufferRequest) :
    driver.handles.Answers processId (.execbuffer request)
      (ctlSubmitCommand addBuf processId request driver).1
      (ctlSubmitCommand addBuf processId request driver).2.handles := by
  refine Fetch.andThen_answers rfl (fun _ => id) fun cmd _ => ?_
  split
  · exact .refused _ _ (by simp) id
  · rename_i context hcontext
    have hwaited : (waitInFence cmd request driver).2.handles =
        driver.handles := by
      rw [waitInFence_driver]
      exact handles_of_contexts rfl
    have hreferenced : (referenceOutFence cmd request
        (waitInFence cmd request driver).2).2.handles = driver.handles := by
      rw [referenceOutFence_driver]
      exact (handles_of_contexts rfl).trans hwaited
    dsimp only
    split
    · exact execbuffer_answers _ hcontext hwaited
    · split
      · rename_i status after heq
        rw [heq] at hreferenced
        exact execbuffer_answers _ hcontext hreferenced
      · rename_i outFence after heq
        rw [heq] at hreferenced
        refine Fetch.andThen_answers hreferenced (fun _ => id) fun _ _ => ?_
        exact submitPages_answers outFence hcontext hreferenced

end Requests

/-! The whole system and its table. -/

section Runs

variable (addBuf : Nat → Bool)

/-- The step does to the table what its request, answered so, does. -/
def World.KeepsToTable (world : World) (action : Action) : Prop :=
  match action with
  | .request processId request =>
      world.driver.handles.Answers processId request
        (virtioVgpuIoControl addBuf processId world.driver request).1
        (World.step addBuf world action).driver.handles
  | .processExit processId =>
      (World.step addBuf world action).driver.handles =
        world.driver.handles.drops processId
  | .host _ _ _ | .dpc _ _ =>
      (World.step addBuf world action).driver.handles = world.driver.handles

variable {addBuf}

theorem virtioVgpuIoControl_answers {processId : UInt32} {driver : Driver}
    {request : IoRequest} (h : driver.Distinct)
    (hfresh : (virtioVgpuIoControl addBuf processId driver
      request).2.resourceIds ≠ driver.resourceIds → NextIdFresh driver) :
    driver.handles.Answers processId request
      (virtioVgpuIoControl addBuf processId driver request).1
      (virtioVgpuIoControl addBuf processId driver request).2.handles := by
  cases request with
  | contextInit request => exact ctlInitVirglContext_answers request
  | destroyContext => exact ioctlDestroyContext_answers h
  | resourceCreate request => exact ctlCreateResource_answers request hfresh
  | blobResourceCreate request =>
      exact ctlCreateBlobResource_answers request hfresh
  | resourceClose input => exact ctlCloseResource_answers h input
  | wait request => exact ctlWait_answers request
  | map request => exact ctlMap_answers request
  | execbuffer request => exact ctlSubmitCommand_answers request
  | transferHost toHost request => exact ctlTransferHost_answers toHost request

theorem processNotify_handles {processId : UInt32} {driver : Driver}
    (h : driver.Distinct) :
    (processNotify addBuf processId driver).handles =
      driver.handles.drops processId := by
  unfold processNotify
  split
  · rename_i hnone
    exact (OwnerTable.drops_of_none (handles_eq_none.mpr hnone)).symm
  · rename_i context hcontext
    have hframe := ctlDestroyVirglContext_frame addBuf context driver
    rw [context_id_of_lookup hcontext] at hframe
    exact handles_eraseContext h hframe.1

theorem readOneFromQueue_handles (queue : Queue) (mapAddress : Option Nat)
    (driver : Driver) :
    (readOneFromQueue queue mapAddress driver).handles = driver.handles := by
  rcases readOneFromQueue_cases queue mapAddress driver with
    hsame | ⟨buffer, info, rest, _, _, hcompletes⟩
  · rw [hsame]
  · rw [handles_of_contexts hcompletes.contexts]
    unfold VgpuBuffer.completion
    split
    · exact handles_modifyResource fun _ => rfl
    · exact handles_updateResourceState _ false _

/-- With fewer than 2^32 ids drawn no resource has the next one. -/
theorem Numbered.next_free {driver : Driver} (h : Numbered driver)
    (hdrawn : driver.resourceIds.drawn < 2 ^ 32) :
    ∀ entry ∈ driver.live, entry.2.id ≠ nextResourceId driver := by
  intro entry hentry heq
  have hbound := h.ids _ (List.mem_map_of_mem hentry)
  simp only [recordOf] at hbound
  rw [heq, nextResourceId_eq h.counted] at hbound
  omega

/-- The lists stand for a table in which no handle has two owners. -/
structure Tabled (driver : Driver) : Prop where
  numbered : Numbered driver
  distinct : driver.Distinct
  exclusive : driver.handles.Exclusive

namespace Tabled

variable {world : World}

theorem keeps (h : Tabled world.driver) {action : Action}
    (hleft : (World.step addBuf world action).driver.resourceIds.drawn <
      2 ^ 32) : world.KeepsToTable addBuf action := by
  cases action with
  | request processId request =>
      refine virtioVgpuIoControl_answers h.distinct fun hchanged => ?_
      have hfresh := h.numbered.givesFreshId hleft hchanged
      exact ⟨hfresh.1, handles_free hfresh.2⟩
  | processExit processId => exact processNotify_handles h.distinct
  | host queue slot info =>
      unfold World.KeepsToTable World.step
      dsimp only
      split
      · rfl
      · exact handles_of_contexts rfl
  | dpc queue mapAddress =>
      exact readOneFromQueue_handles queue mapAddress world.driver

theorem distinct_step (h : Tabled world.driver) (action : Action)
    (hleft : (World.step addBuf world action).driver.resourceIds.drawn <
      2 ^ 32) : (World.step addBuf world action).driver.Distinct := by
  cases action with
  | request processId request =>
      have hfree := h.numbered.next_free
        (Nat.lt_of_le_of_lt (World.drawn_le addBuf world _) hleft)
      apply virtioVgpuIoControl_distinct processId h.distinct
      cases request with
      | resourceCreate request => exact fun entry hentry _ => hfree entry hentry
      | blobResourceCreate request =>
          exact fun entry hentry _ => hfree entry hentry
      | _ => trivial
  | processExit processId => exact processNotify_distinct processId h.distinct
  | host queue slot info =>
      unfold World.step
      dsimp only
      split
      · exact h.distinct
      · exact h.distinct.of_contexts rfl
  | dpc queue mapAddress =>
      unfold World.step
      rcases readOneFromQueue_cases queue mapAddress world.driver with
        hsame | ⟨buffer, info, rest, _, _, hcompletes⟩
      · dsimp only
        rw [hsame]
        exact h.distinct
      · exact h.distinct.completes hcompletes

theorem step (h : Tabled world.driver) (action : Action)
    (hleft : (World.step addBuf world action).driver.resourceIds.drawn <
      2 ^ 32) : Tabled (World.step addBuf world action).driver where
  numbered := h.numbered.step action hleft
  distinct := h.distinct_step action hleft
  exclusive := by
    have hkeeps := h.keeps hleft
    cases action with
    | request processId request => exact hkeeps.change.exclusive h.exclusive
    | processExit processId =>
        have hdropped : _ = world.driver.handles.drops processId := hkeeps
        rw [hdropped]
        exact OwnerTable.Change.dropped.exclusive h.exclusive
    | host queue slot info =>
        have hkept : _ = world.driver.handles := hkeeps
        rw [hkept]
        exact h.exclusive
    | dpc queue mapAddress =>
        have hkept : _ = world.driver.handles := hkeeps
        rw [hkept]
        exact h.exclusive

end Tabled

theorem start_tabled (virtualAddress physicalAddress memorySize : Nat)
    (capsets : Capsets) :
    Tabled (World.start virtualAddress physicalAddress memorySize
      capsets).driver where
  numbered := start_numbered virtualAddress physicalAddress memorySize capsets
  distinct := ⟨List.nodup_nil, by simp [World.start]⟩
  exclusive := by
    rintro first second name ⟨handles, hhandles, _⟩
    cases hhandles

end Runs

/-- With fewer than 2^32 ids drawn the ioctls keep to the table in every
run, and no handle ever has two owners. -/
theorem ioctls_keep_to_table (addBuf : Nat → Bool)
    (virtualAddress physicalAddress memorySize : Nat) (capsets : Capsets)
    (actions : List Action)
    (hleft : (runFrom (World.step addBuf)
      (World.start virtualAddress physicalAddress memorySize capsets)
      actions).driver.resourceIds.drawn < 2 ^ 32) :
    Along (World.step addBuf) (World.KeepsToTable addBuf)
        (World.start virtualAddress physicalAddress memorySize capsets)
        actions ∧
      (runFrom (World.step addBuf)
        (World.start virtualAddress physicalAddress memorySize capsets)
        actions).driver.handles.Exclusive := by
  have halong := along_of_le (World.drawn_le addBuf) hleft
  have hstart := start_tabled virtualAddress physicalAddress memorySize
    capsets
  have hstep : ∀ world action, Tabled world.driver →
      (World.step addBuf world action).driver.resourceIds.drawn < 2 ^ 32 →
      Tabled (World.step addBuf world action).driver :=
    fun world action h hguard => h.step action hguard
  constructor
  · exact halong.of_invariant hstep
      (fun world action h hguard => h.keeps hguard) hstart
  · exact (halong.invariant hstep hstart).exclusive

/-- Two processes, of which the second one tries the handle of the first. -/
def twoOwnersRun : List Action :=
  [.request 7 .initContext, .request 8 .initContext,
   .request 7 (.create 1), .request 8 (.close 1), .request 8 (.create 1),
   .request 7 (.transfer 1), .request 7 (.close 1), .processExit 8]

theorem ioctls_keep_to_table_twoOwners :
    Along (World.step fun _ => true) (World.KeepsToTable fun _ => true)
        World.eightPages twoOwnersRun ∧
      (runFrom (World.step fun _ => true)
        World.eightPages twoOwnersRun).driver.handles.Exclusive :=
  ioctls_keep_to_table (fun _ => true) 0x10000 0x80000 0x8000 _ twoOwnersRun
    (by decide +kernel)

end VgpuDriver
