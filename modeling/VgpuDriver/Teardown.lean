import VgpuDriver.Live

namespace VgpuDriver

open Data

/-! A context torn down at once, and resource by resource. -/

variable (addBuf : Nat → Bool)

/-- `CtlCloseResource` on the resources in their order. -/
def closeAll (contextId : UInt32) (resources : List VirglResource)
    (driver : Driver) : Driver :=
  resources.foldl
    (fun driver resource =>
      (ctlCloseResource addBuf contextId (.ok { handle := resource.id })
        driver).2)
    driver

/-- The closes all find their resource. -/
def ClosesAll (contextId : UInt32) :
    List VirglResource → Driver → Prop
  | [], _ => True
  | resource :: rest, driver =>
      (ctlCloseResource addBuf contextId (.ok { handle := resource.id })
          driver).1 = .complete .success none ∧
        ClosesAll contextId rest
          (ctlCloseResource addBuf contextId (.ok { handle := resource.id })
            driver).2

/-- The driver with another list of contexts. -/
def Driver.withContexts (contexts : List VirglContext) (driver : Driver) :
    Driver :=
  { driver with virglContextList := contexts }

section Contexts

variable {addBuf}

theorem deleteAndRelease_withContexts (contextId : UInt32)
    (contexts : List VirglContext) (driver : Driver)
    (resource : VirglResource) :
    deleteAndRelease addBuf contextId (driver.withContexts contexts)
        resource =
      (deleteAndRelease addBuf contextId driver resource).withContexts
        contexts := by
  unfold deleteAndRelease deleteResource
  by_cases hbuffer : resource.bForBuffer = true
  · simp only [hbuffer, if_true]
    by_cases hblob : resource.bForBlob = true
    · simp only [hblob, if_true]
      split
      · unfold deleteUserShareMemory
        split
        · rfl
        · rfl
      · rfl
    · simp only [hblob, Bool.false_eq_true, if_false]
      split
      · unfold deleteUserShareMemory
        split
        · rfl
        · rfl
      · rfl
  · simp only [hbuffer, Bool.false_eq_true, if_false]
    rfl

end Contexts

section Close

variable {addBuf} {driver : Driver} {context : VirglContext}
variable {resource : VirglResource}

variable (addBuf) in
theorem ctlCloseResource_of_found {contextId : UInt32}
    (hcontext : getVirglContextFromListUnsafe driver.virglContextList
      contextId = some context)
    (hresource : getResourceFromListUnsafe context resource.id =
      some resource) :
    ctlCloseResource addBuf contextId (.ok { handle := resource.id })
        driver =
      (.complete .success none,
        deleteAndRelease addBuf contextId
          (driver.removeResource contextId resource.id) resource) := by
  have hid := context_id_of_lookup hcontext
  simp only [ctlCloseResource, Fetch.andThen, hcontext, hresource, hid]

variable (addBuf) in
theorem lookup_closed {newer : List VirglResource}
    (hcontext : getVirglContextFromListUnsafe driver.virglContextList
      context.id = some context)
    (hlist : context.resourceList = newer ++ [resource])
    (hnodup : (context.resourceList.map VirglResource.id).Nodup) :
    getVirglContextFromListUnsafe
        (deleteAndRelease addBuf context.id
          (driver.removeResource context.id resource.id)
          resource).virglContextList context.id =
      some { context with resourceList := newer } := by
  have hframe := (deleteAndRelease_frame addBuf context.id resource
    (driver.removeResource context.id resource.id)).1
  have herased : context.resourceList.eraseP
      (fun other => decide (other.id = resource.id)) = newer := by
    have hapart : ∀ other ∈ newer, ¬other.id = resource.id := by
      intro other hother heq
      rw [hlist, List.map_append, List.nodup_append] at hnodup
      exact hnodup.2.2 other.id (List.mem_map_of_mem hother) resource.id
        (by simp) heq
    rw [hlist, List.eraseP_append_right _ (by simpa using hapart)]
    simp
  have hkeep : ∀ other : VirglContext, VirglContext.id
      { other with
        resourceList := other.resourceList.eraseP fun entry =>
          decide (entry.id = resource.id) } = VirglContext.id other :=
    fun _ => rfl
  rw [hframe, Driver.removeResource, lookup_modifyContext hkeep, hcontext]
  simp [herased]

/-- Destroying a context is closing its oldest resource and destroying what
is left. -/
theorem ctlDestroyVirglContext_oldest {newer : List VirglResource}
    (hlist : context.resourceList = newer ++ [resource]) :
    ctlDestroyVirglContext addBuf context driver =
      ctlDestroyVirglContext addBuf { context with resourceList := newer }
        (deleteAndRelease addBuf context.id
          (driver.removeResource context.id resource.id) resource) := by
  have hcontexts : (deleteAndRelease addBuf context.id
        (driver.removeResource context.id resource.id)
        resource).virglContextList.eraseP
          (fun other => decide (other.id = context.id)) =
      driver.virglContextList.eraseP
        (fun other => decide (other.id = context.id)) := by
    rw [(deleteAndRelease_frame addBuf context.id resource
      (driver.removeResource context.id resource.id)).1]
    exact eraseP_modifyFirst fun _ => rfl
  have hfirst : deleteAndRelease addBuf context.id
        (driver.withContexts (driver.virglContextList.eraseP
          fun other => decide (other.id = context.id))) resource =
      (deleteAndRelease addBuf context.id
        (driver.removeResource context.id resource.id)
        resource).withContexts (driver.virglContextList.eraseP
          fun other => decide (other.id = context.id)) := by
    rw [← deleteAndRelease_withContexts]
    rfl
  unfold ctlDestroyVirglContext
  simp only [hlist, List.reverse_append, List.reverse_singleton,
    List.singleton_append, List.foldl_cons, hcontexts]
  exact congrArg (fun start => destroyVirglContext addBuf context.id
    (newer.reverse.foldl (deleteAndRelease addBuf context.id) start)) hfirst

end Close

/-- Destroying a context equals closing its resources from the oldest to the
newest and destroying the emptied context. -/
theorem destroy_eq_close_all (driver : Driver) (context : VirglContext)
    (hcontext : getVirglContextFromListUnsafe driver.virglContextList
      context.id = some context)
    (hnodup : (context.resourceList.map VirglResource.id).Nodup) :
    let emptied := closeAll addBuf context.id context.resourceList.reverse
      driver
    ClosesAll addBuf context.id context.resourceList.reverse driver ∧
      getVirglContextFromListUnsafe emptied.virglContextList context.id =
        some { context with resourceList := [] } ∧
      ctlDestroyVirglContext addBuf context driver =
        ctlDestroyVirglContext addBuf { context with resourceList := [] }
          emptied := by
  induction hlist : context.resourceList using List.reverseRecOn
      generalizing driver context with
  | nil =>
      have hsame : context = { context with resourceList := [] } := by
        rw [← hlist]
      exact ⟨trivial, hsame ▸ hcontext, congrArg
        (fun context => ctlDestroyVirglContext addBuf context driver) hsame⟩
  | append_singleton newer resource ih =>
      have hmem : resource ∈ context.resourceList := by simp [hlist]
      have hclose := ctlCloseResource_of_found addBuf hcontext
        (find?_key_of_mem hnodup hmem)
      have hnext := lookup_closed addBuf hcontext hlist hnodup
      have hrest : (newer.map VirglResource.id).Nodup := by
        rw [hlist, List.map_append] at hnodup
        exact (List.nodup_append.mp hnodup).1
      obtain ⟨hcloses, hlookup, hdestroy⟩ := ih _
        { context with resourceList := newer } hnext hrest rfl
      simp only [List.reverse_append, List.reverse_singleton,
        List.singleton_append, ClosesAll, closeAll, List.foldl_cons, hclose]
      refine ⟨⟨trivial, hcloses⟩, hlookup, ?_⟩
      rw [ctlDestroyVirglContext_oldest hlist]
      exact hdestroy

/-- Process 7 has a mapped resource, one without buffer and a mapped blob. -/
def mixedContext : Driver :=
  (runFrom (World.step fun _ => true) World.eightPages
    ([.request 7 .initContext, .request 7 (.create 0x1000),
      .request 7 (.mapAt 1 0x5000), .request 7 (.create 1),
      .request 7 (.createBlobIn (.pool IoRequest.poolRecord))] ++
      List.replicate 5 (.host .command 0 { gpa := 0xe0000000, size := 0x1000 }) ++
      List.replicate 5 (.dpc .command (some 0x70000)) ++
      [.request 7 (.mapAt 3 0x6000)])).driver

theorem destroy_eq_close_all_mixed :
    ∃ context emptied, context.resourceList.map VirglResource.id = [3, 2, 1] ∧
      ctlDestroyVirglContext (fun _ => true) context mixedContext =
        ctlDestroyVirglContext (fun _ => true)
          { context with resourceList := [] } emptied := by
  have hfound : (getVirglContextFromListUnsafe mixedContext.virglContextList
      7).isSome = true := by decide +kernel
  obtain ⟨context, hcontext⟩ := Option.isSome_iff_exists.mp hfound
  have hid := context_id_of_lookup hcontext
  have hids : context.resourceList.map VirglResource.id = [3, 2, 1] := by
    have hall : (getVirglContextFromListUnsafe mixedContext.virglContextList
        7).map (fun context => context.resourceList.map VirglResource.id) =
        some [3, 2, 1] := by decide +kernel
    rw [hcontext] at hall
    exact Option.some.inj hall
  exact ⟨context, _, hids,
    (destroy_eq_close_all (fun _ => true) mixedContext context
      (hid.symm ▸ hcontext) (hids ▸ by decide)).2.2⟩

end VgpuDriver
