import VgpuDriver.TraceRuns

namespace VgpuDriver

open Data

/-! Processes cannot reach each other's resources: a request and the
completion of its commands leave the contexts of all other processes. -/

/-- The contexts of the other processes, with their resources. -/
def Driver.others (driver : Driver) (processId : UInt32) :
    List VirglContext :=
  driver.virglContextList.filter fun context =>
    decide (context.id ≠ processId)

/-- Whatever the state is then, the completion changes no context of another
process. -/
def VgpuBuffer.CompletesFor (buffer : VgpuBuffer) (processId : UInt32) :
    Prop :=
  ∀ info mapAddress driver,
    (completeBuffer buffer info mapAddress driver).others processId =
      driver.others processId

/-- The command names no resource of another process. -/
def VgpuBuffer.NamesOwn (buffer : VgpuBuffer) (processId : UInt32)
    (driver : Driver) : Prop :=
  ∀ id, buffer.pBuf.body.resourceId = some id →
    ∀ entry ∈ driver.live, entry.1 ≠ processId → entry.2.id ≠ id

/-- What a request of the process did. -/
structure Isolated (processId : UInt32) (before after : Driver) : Prop where
  others : after.others processId = before.others processId
  pushes : ∃ new, after.pushes = before.pushes ++ new ∧
    ∀ push ∈ new, push.2.CompletesFor processId ∧
      push.2.NamesOwn processId before ∧ push.2.NamesOwn processId after

section Others

variable {driver before after : Driver} {processId : UInt32}

theorem others_of_contexts
    (hcontexts : after.virglContextList = before.virglContextList) :
    after.others processId = before.others processId := by
  unfold Driver.others
  rw [hcontexts]

theorem modifyContext_others {change : VirglContext → VirglContext}
    (hid : ∀ context, (change context).id = context.id) :
    (driver.modifyContext processId change).others processId =
      driver.others processId := by
  apply filter_modifyFirst
  · intro context hcontext
    simpa using hcontext
  · intro context hcontext
    simpa [hid] using hcontext

theorem mem_live_others {entry : UInt32 × VirglResource} :
    (entry ∈ driver.live ∧ entry.1 ≠ processId) ↔
      ∃ context ∈ driver.others processId, context.id = entry.1 ∧
        entry.2 ∈ context.resourceList := by
  unfold Driver.live
  rw [mem_liveIn]
  constructor
  · rintro ⟨⟨context, hcontext, hid, hresource⟩, hother⟩
    refine ⟨context, List.mem_filter.mpr ⟨hcontext, ?_⟩, hid, hresource⟩
    simpa [hid] using hother
  · rintro ⟨context, hcontext, hid, hresource⟩
    obtain ⟨hmem, hother⟩ := List.mem_filter.mp hcontext
    refine ⟨⟨context, hmem, hid, hresource⟩, ?_⟩
    simpa [hid] using hother

theorem VgpuBuffer.NamesOwn.of_others {buffer : VgpuBuffer}
    (h : buffer.NamesOwn processId before)
    (hothers : after.others processId = before.others processId) :
    buffer.NamesOwn processId after := by
  intro id hid entry hentry hother
  have hafter := mem_live_others.mp ⟨hentry, hother⟩
  rw [hothers] at hafter
  exact h id hid entry (mem_live_others.mpr hafter).1 hother

theorem completesFor_of_ctxId {buffer : VgpuBuffer}
    (hctxId : buffer.pBuf.hdr.ctxId = processId) :
    buffer.CompletesFor processId := by
  intro info mapAddress driver
  rw [others_of_contexts (completeBuffer_contexts buffer info mapAddress
    driver), hctxId]
  exact modifyContext_others (completion_id buffer info mapAddress)

theorem completesFor_of_neutral {buffer : VgpuBuffer}
    (hneutral : buffer.Neutral) : buffer.CompletesFor processId := by
  intro info mapAddress driver
  rw [others_of_contexts (completeBuffer_contexts buffer info mapAddress
    driver)]
  exact others_of_contexts
    (completion_neutral hneutral.1 hneutral.2.1 info mapAddress driver)

end Others

section Requests

variable {addBuf : Nat → Bool} {contextId : UInt32}
variable {driver before after : Driver}

variable (addBuf) in
private theorem ctlDestroyVirglContext_others (context : VirglContext)
    (driver : Driver) :
    (ctlDestroyVirglContext addBuf context driver).others context.id =
      driver.others context.id := by
  unfold Driver.others
  rw [(ctlDestroyVirglContext_frame addBuf context driver).1]
  apply filter_eraseP
  intro other hother
  simpa using hother

private theorem RequestOutcome.others {request : IoRequest}
    (houtcome : RequestOutcome addBuf contextId driver request after) :
    after.others contextId = driver.others contextId := by
  have hupdate : ∀ ids busy fenceId (middle : Driver),
      (middle.modifyContext contextId
        (updateResourceState ids busy fenceId)).others contextId =
          middle.others contextId := fun ids busy fenceId middle =>
    modifyContext_others (updateResourceState_id ids busy fenceId)
  cases houtcome with
  | unchanged => rfl
  | opened request contextInit hnew =>
      exact List.filter_cons_of_neg (by simp)
  | destroyed context hcontext =>
      rw [← context_id_of_lookup hcontext]
      exact ctlDestroyVirglContext_others addBuf context driver
  | exhausted => rfl
  | bare request context create record records hcontext hbuffer =>
      rw [context_id_of_lookup hcontext]
      exact modifyContext_others fun _ => rfl
  | backed request context create record records memory vgpuMemory resource
      hcontext hbuffer halloc hresource =>
      rw [context_id_of_lookup hcontext]
      exact modifyContext_others fun _ => rfl
  | blobCreated request context create record records hcontext =>
      rw [context_id_of_lookup hcontext]
      exact modifyContext_others fun _ => rfl
  | closed close context resource hcontext hresource =>
      have hframe := deleteAndRelease_frame addBuf context.id resource
        (driver.removeResource context.id close.handle)
      rw [others_of_contexts hframe.1, context_id_of_lookup hcontext]
      exact modifyContext_others fun _ => rfl
  | mapped request context resource handle hcontext hresource hbuffer hidle =>
      obtain ⟨share, history, hmap, _⟩ := mapResource_frame context.id
        resource request driver
      rw [hmap, context_id_of_lookup hcontext]
      exact modifyContext_others fun _ => rfl
  | referenced => rfl
  | unread request cmd outFence objects memory vgpuMemory halloc hhandles =>
      exact others_of_contexts (fencedCommand_frame driver outFence cmd
        memory vgpuMemory objects).1
  | uncopied request context cmd outFence objects memory vgpuMemory reads
      hcontext halloc hblock =>
      rw [context_id_of_lookup hcontext, hupdate]
      exact others_of_contexts (fencedCommand_frame driver outFence cmd
        memory vgpuMemory objects).1
  | listed request context cmd outFence objects memory vgpuMemory reads fenced
      hinput hcontext halloc hread hfenced =>
      have hframe := fencedCommand_frame driver outFence cmd memory
        vgpuMemory objects
      rw [← hfenced] at hframe
      have hmarked : (markedCommand context cmd reads fenced).others
          contextId = fenced.2.others contextId := by
        unfold markedCommand
        rw [context_id_of_lookup hcontext]
        exact hupdate _ _ _ _
      have hsubmitted := (submitCommand_frame addBuf context.id memory
        (roundUp cmd.size 0x1000).toNat cmd.size
        (some (copiedIds cmd reads)) fenced.1 outFence
        (markedCommand context cmd reads fenced)).1
      rw [others_of_contexts hsubmitted, hmarked]
      exact others_of_contexts hframe.1
  | unlisted request context cmd outFence objects memory vgpuMemory fenced
      hcontext halloc hfenced =>
      have hframe := fencedCommand_frame driver outFence cmd memory
        vgpuMemory objects
      rw [← hfenced] at hframe
      exact others_of_contexts hframe.1
  | transferred toHost request context resource transfer hcontext hresource
      htransfer =>
      rw [context_id_of_lookup hcontext]
      exact hupdate _ _ _ _

variable (addBuf) in
theorem virtioVgpuIoControl_others (processId : UInt32) (driver : Driver)
    (request : IoRequest) :
    (virtioVgpuIoControl addBuf processId driver request).2.others
        processId = driver.others processId :=
  (virtioVgpuIoControl_outcome processId driver request).others

/-- A command that the process sends: its completion finds the context of the
process or changes nothing, and it names a resource of the process or the one
being created. -/
structure OwnCommand (contextId : UInt32) (before after : Driver)
    (buffer : VgpuBuffer) : Prop where
  addressed : buffer.pBuf.hdr.ctxId = contextId ∨ buffer.Neutral
  named : ∀ id, buffer.pBuf.body.resourceId = some id →
    (id = nextResourceId before ∧ after.resourceIds =
      (getIdFromIdrWithoutCache 4 before.resourceIds).2) ∨
    ∃ record ∈ before.records, record.contextId = contextId ∧
      record.id = id

private theorem Issues.own {commands : List (Queue × Command)}
    (h : Issues addBuf commands before after)
    (hcommands : ∀ command ∈ commands, ∀ serial,
      OwnCommand contextId before after
        (commandBuffer command.2.hdr command.2.body serial)) :
    ∃ new, after.pushes = before.pushes ++ new ∧
      ∀ push ∈ new, OwnCommand contextId before after push.2 := by
  refine ⟨_, h.sends.pushes, fun push hpush => ?_⟩
  obtain ⟨hcommand, hbuffer⟩ := mem_numbered (List.mem_of_mem_filter hpush)
  rw [hbuffer]
  exact hcommands _ hcommand push.2.serial

private theorem deletion_own {resource : VirglResource}
    (hresource : recordOf (contextId, resource) ∈ before.records)
    {command : Queue × Command}
    (hcommand : command ∈ deletionCommands contextId resource)
    (serial : Nat) :
    OwnCommand contextId before after
      (commandBuffer command.2.hdr command.2.body serial) := by
  have hnamed : ∀ hdr body, body.resourceId = some resource.id →
      (hdr.ctxId = contextId ∨ (commandBuffer hdr body serial).Neutral) →
      OwnCommand contextId before after (commandBuffer hdr body serial) := by
    intro hdr body hbody haddressed
    refine ⟨haddressed, fun id hid => Or.inr ⟨_, hresource, rfl, ?_⟩⟩
    exact Option.some.inj (hbody.symm.trans hid)
  unfold deletionCommands at hcommand
  rcases List.mem_append.mp hcommand with hbuffer | hunref
  · split at hbuffer
    · split at hbuffer
      · rw [List.mem_singleton.mp hbuffer]
        exact hnamed _ _ rfl (Or.inl (ctrlHdr_ctxId _ _))
      · rw [List.mem_singleton.mp hbuffer]
        exact hnamed _ _ rfl (Or.inr ⟨rfl, rfl, rfl⟩)
    · cases hbuffer
  · rw [List.mem_singleton.mp hunref]
    exact hnamed _ _ rfl (Or.inl (ctrlHdr_ctxId _ _))

theorem TraceStep.own (h : TraceStep addBuf contextId before after) :
    ∃ new, after.pushes = before.pushes ++ new ∧
      ∀ push ∈ new, OwnCommand contextId before after push.2 := by
  have hcontrol : ∀ body serial, body.resourceId = none →
      OwnCommand contextId before after
        (commandBuffer (ctrlHdr contextId 0) body serial) :=
    fun body serial hnone => ⟨Or.inl (ctrlHdr_ctxId _ _), fun id hid => by
      simp [commandBuffer, hnone] at hid⟩
  cases h with
  | quiet hsame hids hissues =>
      exact hissues.own fun command hcommand => by cases hcommand
  | opened contextInit hnew hcontexts hrecords hids hissues =>
      refine hissues.own fun command hcommand serial => ?_
      rw [List.mem_singleton.mp hcommand]
      exact hcontrol _ _ rfl
  | created resource commands hcontext hcreates hid hserial hcontexts hrecords
      hids hissues =>
      refine hissues.own fun command hcommand serial => ?_
      have hnew : ∀ body, body.resourceId = some resource.id →
          OwnCommand contextId before after
            (commandBuffer (ctrlHdr contextId 0) body serial) := by
        intro body hbody
        refine ⟨Or.inl (ctrlHdr_ctxId _ _), fun id hname => Or.inl ⟨?_, hids⟩⟩
        rw [← hid]
        exact (Option.some.inj (hbody.symm.trans hname)).symm
      cases hcreates with
      | bare create =>
          rw [List.mem_singleton.mp hcommand]
          exact hnew _ rfl
      | backed create gpa size =>
          rcases List.mem_cons.mp hcommand with rfl | hattach
          · exact hnew _ rfl
          · rw [List.mem_singleton.mp hattach]
            exact hnew _ rfl
      | blob create =>
          rcases List.mem_cons.mp hcommand with rfl | hmap
          · exact hnew _ rfl
          · rw [List.mem_singleton.mp hmap]
            exact hnew _ rfl
  | exhausted create hcontext hsame hids hissues =>
      refine hissues.own fun command hcommand serial => ?_
      rw [List.mem_singleton.mp hcommand]
      refine ⟨Or.inl (ctrlHdr_ctxId _ _), fun id hname => Or.inl ⟨?_, hids⟩⟩
      exact (Option.some.inj hname).symm
  | closed resource hcontext hcontexts hrecords hids hissues =>
      refine hissues.own fun command hcommand serial => ?_
      exact deletion_own (hrecords.mem_iff.mpr List.mem_cons_self) hcommand
        serial
  | destroyed resources hcontext hcontexts hrecords hids hissues =>
      refine hissues.own fun command hcommand serial => ?_
      rcases List.mem_append.mp hcommand with hdeletion | hdestroy
      · obtain ⟨resource, hresource, hmem⟩ := List.mem_flatMap.mp hdeletion
        exact deletion_own (hrecords.mem_iff.mpr
          (List.mem_append_left _ (List.mem_map_of_mem hresource))) hmem
          serial
      · rw [List.mem_singleton.mp hdestroy]
        exact hcontrol _ _ rfl
  | transferred resource toHost transfer hcontext hresource htransfer hsame
      hids hissues =>
      refine hissues.own fun command hcommand serial => ?_
      rw [List.mem_singleton.mp hcommand]
      refine ⟨Or.inl (ctrlHdr_ctxId _ _), fun id hname =>
        Or.inr ⟨_, hresource, rfl, ?_⟩⟩
      exact htransfer.symm.trans (Option.some.inj hname)
  | submitted buffer hcontext hsubmit hctxId hserial hsame hids hsends
      hcount =>
      refine ⟨_, hsends.pushes, fun push hpush => ?_⟩
      rw [List.mem_singleton.mp (List.mem_of_mem_filter hpush)]
      refine ⟨Or.inl hctxId, fun id hname => ?_⟩
      unfold VgpuBuffer.IsSubmit at hsubmit
      split at hsubmit
      · rename_i heq
        rw [heq] at hname
        cases hname
      · cases hsubmit

end Requests

theorem OwnCommand.completesFor {contextId : UInt32}
    {before after : Driver} {buffer : VgpuBuffer}
    (h : OwnCommand contextId before after buffer) :
    buffer.CompletesFor contextId :=
  h.addressed.elim completesFor_of_ctxId completesFor_of_neutral

theorem OwnCommand.namesOwn {contextId : UInt32} {before after : Driver}
    {buffer : VgpuBuffer} (h : OwnCommand contextId before after buffer)
    (hnumbered : Numbered before)
    (hleft : after.resourceIds.drawn < 2 ^ 32) :
    buffer.NamesOwn contextId before := by
  intro id hid entry hentry hother heq
  have hrecord : recordOf entry ∈ before.records :=
    List.mem_map_of_mem hentry
  rcases h.named id hid with ⟨hnew, hids⟩ | ⟨record, hown, hcontext, hname⟩
  · obtain ⟨hnext, _⟩ := hnumbered.drawn_id hids hleft
    have hbound := (hnumbered.ids _ hrecord).2
    simp only [recordOf] at hbound
    rw [heq, hnew, hnext] at hbound
    omega
  · have hsame : record = recordOf entry :=
      List.inj_on_of_nodup_map hnumbered.nodup hown hrecord
        (hname.trans heq.symm)
    rw [hsame] at hcontext
    exact hother hcontext

/-- In every reachable state, whatever handles a request of a process gives,
it and the later completions of its commands leave the other contexts, and its
commands name none of their resources. -/
theorem requests_isolated (addBuf : Nat → Bool)
    (virtualAddress physicalAddress memorySize : Nat) (capsets : Capsets)
    (actions : List Action) (processId : UInt32) (request : IoRequest)
    (hleft : (runFrom (World.step addBuf)
      (World.start virtualAddress physicalAddress memorySize capsets)
      (actions ++ [.request processId request])).driver.resourceIds.drawn <
        2 ^ 32) :
    Isolated processId
      (runFrom (World.step addBuf)
        (World.start virtualAddress physicalAddress memorySize capsets)
        actions).driver
      (runFrom (World.step addBuf)
        (World.start virtualAddress physicalAddress memorySize capsets)
        (actions ++ [.request processId request])).driver := by
  rw [runFrom_append] at hleft ⊢
  simp only [runFrom_cons, runFrom_nil, World.step] at hleft ⊢
  have hstep := virtioVgpuIoControl_trace addBuf processId
    (runFrom (World.step addBuf)
      (World.start virtualAddress physicalAddress memorySize capsets)
      actions).driver request
  have hothers := virtioVgpuIoControl_others addBuf processId
    (runFrom (World.step addBuf)
      (World.start virtualAddress physicalAddress memorySize capsets)
      actions).driver request
  have hbefore := Nat.lt_of_le_of_lt (World.drawn_le addBuf _
    (.request processId request)) hleft
  have hnumbered := (run_numbered addBuf virtualAddress physicalAddress
    memorySize capsets hbefore).1
  obtain ⟨new, hpushes, hnew⟩ := hstep.own
  refine ⟨hothers, new, hpushes, fun push hpush => ?_⟩
  have hnames := (hnew push hpush).namesOwn hnumbered hleft
  exact ⟨(hnew push hpush).completesFor, hnames, hnames.of_others hothers⟩

/-- Process 8 lists and closes resources of process 7. -/
theorem requests_isolated_foreignHandles :
    Isolated 8
      (runFrom (World.step fun _ => true) World.eightPages
        [.request 7 .initContext, .request 7 (.create 0x1000),
         .request 8 .initContext, .request 8 (.close 1)]).driver
      (runFrom (World.step fun _ => true) World.eightPages
        ([.request 7 .initContext, .request 7 (.create 0x1000),
          .request 8 .initContext, .request 8 (.close 1)] ++
          [.request 8 (.submit [1, 2] (some 100))])).driver :=
  requests_isolated (fun _ => true) 0x10000 0x80000 0x8000 _ _ 8
    (.submit [1, 2] (some 100)) (by decide +kernel)

end VgpuDriver
