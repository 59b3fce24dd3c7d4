import VgpuDriver.IdRuns

namespace VgpuDriver

open Data

/-! The commands that name one resource, from its creation to its end. -/

/-- The resource that the command names. -/
def CommandBody.resourceId : CommandBody → Option UInt32
  | .resourceCreate2d id _ _ _ | .resourceCreate3d id _
  | .resourceCreateBlob id _ | .resourceMapBlob id | .resourceUnmapBlob id
  | .resourceAttachBacking id _ _ | .resourceDetachBacking id
  | .resourceUnref id | .ctxAttachResource id | .ctxDetachResource id =>
      some id
  | .transferToHost2d transfer => some transfer.resourceId
  | .transferHost3d _ transfer => some transfer.resourceId
  | _ => none

def CommandBody.IsCreate : CommandBody → Bool
  | .resourceCreate3d _ _ | .resourceCreateBlob _ _ => true
  | _ => false

/-- Transfers to or from the resource. -/
def Transfers (id : UInt32) (commands : List CommandBody) : Prop :=
  ∀ body ∈ commands, ∃ toHost transfer,
    body = .transferHost3d toHost transfer ∧ transfer.resourceId = id

/-- All that is sent about a resource that has been removed. -/
inductive FullTrace (id : UInt32) : List CommandBody → Prop
  | bare (create : ResourceCreateParam) (transfers : List CommandBody)
      (htransfers : Transfers id transfers) :
      FullTrace id
        (.resourceCreate3d id create ::
          (transfers ++ [.resourceUnref id]))
  | backed (create : ResourceCreateParam) (gpa : Nat) (size : UInt32)
      (transfers : List CommandBody) (htransfers : Transfers id transfers) :
      FullTrace id
        (.resourceCreate3d id create ::
          .resourceAttachBacking id gpa size ::
            (transfers ++ [.resourceDetachBacking id, .resourceUnref id]))
  | blob (create : BlobResourceCreateParam) (transfers : List CommandBody)
      (htransfers : Transfers id transfers) :
      FullTrace id
        (.resourceCreateBlob id create :: .resourceMapBlob id ::
          (transfers ++ [.resourceUnmapBlob id, .resourceUnref id]))

/-- What has been sent about a live resource; its flags tell which commands
created it. -/
inductive LiveTrace (record : Record) : List CommandBody → Prop
  | bare (create : ResourceCreateParam) (transfers : List CommandBody)
      (hbuffer : record.bForBuffer = false)
      (htransfers : Transfers record.id transfers) :
      LiveTrace record (.resourceCreate3d record.id create :: transfers)
  | backed (create : ResourceCreateParam) (gpa : Nat) (size : UInt32)
      (transfers : List CommandBody)
      (hbuffer : record.bForBuffer = true) (hblob : record.bForBlob = false)
      (htransfers : Transfers record.id transfers) :
      LiveTrace record
        (.resourceCreate3d record.id create ::
          .resourceAttachBacking record.id gpa size :: transfers)
  | blob (create : BlobResourceCreateParam) (transfers : List CommandBody)
      (hbuffer : record.bForBuffer = true) (hblob : record.bForBlob = true)
      (htransfers : Transfers record.id transfers) :
      LiveTrace record
        (.resourceCreateBlob record.id create ::
          .resourceMapBlob record.id :: transfers)

def bodiesFor (id : UInt32) (commands : List Command) : List CommandBody :=
  (commands.map Command.body).filter fun body =>
    decide (body.resourceId = some id)

/-- What was sent on COMMAND_QUEUE about the resource. -/
def Driver.trace (driver : Driver) (id : UInt32) : List CommandBody :=
  bodiesFor id ((driver.sent .command).map VgpuBuffer.pBuf)

/-- The commands of COMMAND_QUEUE among these. -/
def commandsOf (commands : List (Queue × Command)) : List Command :=
  commands.filterMap fun command =>
    if command.1 = .command then some command.2 else none

def Driver.TracesBracketed (driver : Driver) : Prop :=
  (∀ id, ∃ trace, FullTrace id trace ∧ driver.trace id <+: trace) ∧
    ∀ entry ∈ driver.live,
      (∃ body ∈ driver.trace entry.2.id, body.IsCreate = true) ∧
        .resourceUnref entry.2.id ∉ driver.trace entry.2.id

section Bodies

variable {addBuf : Nat → Bool} {before after : Driver} {id : UInt32}

@[simp] theorem bodiesFor_nil : bodiesFor id [] = [] := rfl

theorem bodiesFor_append (first second : List Command) :
    bodiesFor id (first ++ second) =
      bodiesFor id first ++ bodiesFor id second := by
  simp [bodiesFor]

@[simp] theorem commandsOf_nil : commandsOf [] = [] := rfl

theorem commandsOf_append (first second : List (Queue × Command)) :
    commandsOf (first ++ second) = commandsOf first ++ commandsOf second :=
  List.filterMap_append

theorem Issues.trace {commands : List (Queue × Command)}
    (h : Issues addBuf commands before after)
    (hpush : ∀ serial, addBuf serial = true) (id : UInt32) :
    after.trace id =
      before.trace id ++ bodiesFor id (commandsOf commands) := by
  unfold Driver.trace
  rw [h.sent hpush .command, bodiesFor_append]
  rfl

theorem trace_of_submit {buffer : VgpuBuffer}
    (hsends : Sends (acceptedOf addBuf [(.command, buffer)]) before after)
    (hsubmit : buffer.IsSubmit = true) : after.trace id = before.trace id := by
  have hnone : buffer.pBuf.body.resourceId = none := by
    unfold VgpuBuffer.IsSubmit at hsubmit
    split at hsubmit
    · rename_i heq
      rw [heq]
      rfl
    · cases hsubmit
  unfold Driver.trace
  rw [hsends.sent, List.map_append, bodiesFor_append]
  unfold acceptedOf
  cases haccepted : addBuf buffer.serial with
  | true => simp [haccepted, onQueue, bodiesFor, hnone]
  | false => simp [haccepted, onQueue]

theorem bodiesFor_deletion (contextId : UInt32) (resource : VirglResource) :
    bodiesFor id (commandsOf (deletionCommands contextId resource)) =
      if resource.id = id then
        (commandsOf (deletionCommands contextId resource)).map Command.body
      else [] := by
  unfold deletionCommands
  by_cases hid : resource.id = id
  · cases hbuffer : resource.bForBuffer <;> cases hblob : resource.bForBlob <;>
      simp [commandsOf, bodiesFor, CommandBody.resourceId, hid]
  · cases hbuffer : resource.bForBuffer <;> cases hblob : resource.bForBlob <;>
      simp [commandsOf, bodiesFor, CommandBody.resourceId, hid]

theorem bodiesFor_deletions_of_not_mem {contextId : UInt32}
    {resources : List VirglResource}
    (hother : ∀ resource ∈ resources, resource.id ≠ id) :
    bodiesFor id (commandsOf
      (resources.flatMap (deletionCommands contextId))) = [] := by
  induction resources with
  | nil => rfl
  | cons head tail ih =>
      rw [List.flatMap_cons, commandsOf_append, bodiesFor_append,
        bodiesFor_deletion, if_neg (hother head List.mem_cons_self), ih]
      · rfl
      · exact fun resource hresource =>
          hother resource (List.mem_cons_of_mem _ hresource)

theorem bodiesFor_deletions {contextId : UInt32}
    {resources : List VirglResource} {resource : VirglResource}
    (hnodup : (resources.map VirglResource.id).Nodup)
    (hresource : resource ∈ resources) :
    bodiesFor resource.id (commandsOf
        (resources.flatMap (deletionCommands contextId))) =
      (commandsOf (deletionCommands contextId resource)).map
        Command.body := by
  induction resources with
  | nil => cases hresource
  | cons head tail ih =>
      rw [List.map_cons, List.nodup_cons] at hnodup
      rw [List.flatMap_cons, commandsOf_append, bodiesFor_append,
        bodiesFor_deletion]
      rcases List.mem_cons.mp hresource with rfl | htail
      · rw [if_pos rfl, bodiesFor_deletions_of_not_mem, List.append_nil]
        intro other hother heq
        exact hnodup.1 (heq ▸ List.mem_map_of_mem hother)
      · rw [if_neg, ih hnodup.2 htail]
        · rfl
        · intro heq
          exact hnodup.1 (heq ▸ List.mem_map_of_mem htail)

end Bodies

namespace LiveTrace

variable {record : Record} {trace : List CommandBody}

theorem transfer (h : LiveTrace record trace) (toHost : Bool)
    {transfer : TransferHost3dParam}
    (htransfer : transfer.resourceId = record.id) :
    LiveTrace record (trace ++ [.transferHost3d toHost transfer]) := by
  have hmore : ∀ {transfers : List CommandBody},
      Transfers record.id transfers →
      Transfers record.id
        (transfers ++ [.transferHost3d toHost transfer]) := by
    intro transfers htransfers body hbody
    rcases List.mem_append.mp hbody with hold | hnew
    · exact htransfers body hold
    · exact ⟨toHost, transfer, List.mem_singleton.mp hnew, htransfer⟩
  cases h with
  | bare create transfers hbuffer htransfers =>
      exact .bare create _ hbuffer (hmore htransfers)
  | backed create gpa size transfers hbuffer hblob htransfers =>
      exact .backed create gpa size _ hbuffer hblob (hmore htransfers)
  | blob create transfers hbuffer hblob htransfers =>
      exact .blob create _ hbuffer hblob (hmore htransfers)

/-- The branch that the deletion takes is the one of the creation. -/
theorem delete {contextId : UInt32} {resource : VirglResource}
    (h : LiveTrace (recordOf (contextId, resource)) trace)
    (other : UInt32) :
    FullTrace resource.id
      (trace ++ (commandsOf (deletionCommands other resource)).map
        Command.body) := by
  cases h with
  | bare create transfers hbuffer htransfers =>
      have hflag : resource.bForBuffer = false := hbuffer
      have hfull := FullTrace.bare create transfers htransfers
      simpa [deletionCommands, commandsOf, hflag, recordOf] using hfull
  | backed create gpa size transfers hbuffer hblob htransfers =>
      have hflag : resource.bForBuffer = true := hbuffer
      have hflag' : resource.bForBlob = false := hblob
      have hfull := FullTrace.backed create gpa size transfers htransfers
      simpa [deletionCommands, commandsOf, hflag, hflag', recordOf]
        using hfull
  | blob create transfers hbuffer hblob htransfers =>
      have hflag : resource.bForBuffer = true := hbuffer
      have hflag' : resource.bForBlob = true := hblob
      have hfull := FullTrace.blob create transfers htransfers
      simpa [deletionCommands, commandsOf, hflag, hflag', recordOf]
        using hfull

theorem of_creation {contextId : UInt32} {resource : VirglResource}
    {commands : List (Queue × Command)}
    (hcreates : CreationCommands contextId resource commands) :
    LiveTrace (recordOf (contextId, resource))
      (bodiesFor resource.id (commandsOf commands)) := by
  have hnone : Transfers resource.id [] := fun body hbody => by cases hbody
  cases hcreates with
  | bare create hbuffer hblob =>
      have hlive : LiveTrace (recordOf (contextId, resource)) _ :=
        .bare create [] hbuffer hnone
      simpa [commandsOf, bodiesFor, CommandBody.resourceId, recordOf]
        using hlive
  | backed create gpa size hbuffer hblob =>
      have hlive : LiveTrace (recordOf (contextId, resource)) _ :=
        .backed create gpa size [] hbuffer hblob hnone
      simpa [commandsOf, bodiesFor, CommandBody.resourceId, recordOf]
        using hlive
  | blob create hbuffer hblob =>
      have hlive : LiveTrace (recordOf (contextId, resource)) _ :=
        .blob create [] hbuffer hblob hnone
      simpa [commandsOf, bodiesFor, CommandBody.resourceId, recordOf]
        using hlive

theorem exists_full (h : LiveTrace record trace) :
    ∃ full, FullTrace record.id full ∧ trace <+: full := by
  cases h with
  | bare create transfers hbuffer htransfers =>
      refine ⟨_, .bare create transfers htransfers, ?_⟩
      simp
  | backed create gpa size transfers hbuffer hblob htransfers =>
      refine ⟨_, .backed create gpa size transfers htransfers, ?_⟩
      simp
  | blob create transfers hbuffer hblob htransfers =>
      refine ⟨_, .blob create transfers htransfers, ?_⟩
      simp

theorem bracketed (h : LiveTrace record trace) :
    (∃ body ∈ trace, body.IsCreate = true) ∧
      .resourceUnref record.id ∉ trace := by
  have hnot : ∀ {transfers : List CommandBody},
      Transfers record.id transfers →
      .resourceUnref record.id ∉ transfers := by
    intro transfers htransfers hmem
    obtain ⟨_, _, heq, _⟩ := htransfers _ hmem
    cases heq
  cases h with
  | bare create transfers hbuffer htransfers =>
      exact ⟨⟨_, List.mem_cons_self, rfl⟩, by simp [hnot htransfers]⟩
  | backed create gpa size transfers hbuffer hblob htransfers =>
      exact ⟨⟨_, List.mem_cons_self, rfl⟩, by simp [hnot htransfers]⟩
  | blob create transfers hbuffer hblob htransfers =>
      exact ⟨⟨_, List.mem_cons_self, rfl⟩, by simp [hnot htransfers]⟩

end LiveTrace

/-- Nothing was sent for the id, the creation of its resource failed for want
of pages, or the resource has been removed. -/
def EndedTrace (id : UInt32) (trace : List CommandBody) : Prop :=
  trace = [] ∨ (∃ create, trace = [.resourceCreate3d id create]) ∨
    FullTrace id trace

theorem EndedTrace.exists_full {id : UInt32} {trace : List CommandBody}
    (h : EndedTrace id trace) :
    ∃ full, FullTrace id full ∧ trace <+: full := by
  have hnone : Transfers id [] := fun body hbody => by cases hbody
  rcases h with rfl | ⟨create, rfl⟩ | hfull
  · exact ⟨_, .bare IoRequest.resourceParam [] hnone, List.nil_prefix⟩
  · refine ⟨_, .bare create [] hnone, ?_⟩
    simp
  · exact ⟨trace, hfull, List.prefix_refl _⟩

structure TraceInvariant (driver : Driver) : Prop where
  numbered : Numbered driver
  live : ∀ record ∈ driver.records, LiveTrace record (driver.trace record.id)
  ended : ∀ id, id ∉ driver.records.map Record.id →
    EndedTrace id (driver.trace id)
  unused : ∀ id : UInt32, driver.resourceIds.drawn < id.toNat →
    driver.trace id = []

/-- Nothing is sent about an id that is neither live nor drawn. -/
theorem TraceStep.trace_eq {addBuf : Nat → Bool} {contextId : UInt32}
    {before after : Driver} (h : TraceStep addBuf contextId before after)
    (hpush : ∀ serial, addBuf serial = true) {id : UInt32}
    (hid : id ∉ before.records.map Record.id)
    (hnext : id ≠ nextResourceId before) :
    after.trace id = before.trace id := by
  have hlive : ∀ resource : VirglResource,
      recordOf (contextId, resource) ∈ before.records → resource.id ≠ id := by
    rintro resource hresource rfl
    exact hid (List.mem_map_of_mem hresource)
  cases h with
  | quiet hsame hids hissues => simpa using hissues.trace hpush id
  | opened contextInit hnew hcontexts hrecords hids hissues =>
      simpa [commandsOf] using hissues.trace hpush id
  | created resource commands hcontext hcreates hname hserial hcontexts
      hrecords hids hissues =>
      rw [hissues.trace hpush id]
      have hother : resource.id ≠ id := fun heq => hnext (heq ▸ hname)
      cases hcreates <;>
        simp [commandsOf, bodiesFor, CommandBody.resourceId, hother]
  | exhausted create hcontext hsame hids hissues =>
      rw [hissues.trace hpush id]
      simp [commandsOf, bodiesFor, CommandBody.resourceId, Ne.symm hnext]
  | closed resource hcontext hcontexts hrecords hids hissues =>
      rw [hissues.trace hpush id, bodiesFor_deletion, if_neg,
        List.append_nil]
      exact hlive resource (hrecords.mem_iff.mpr List.mem_cons_self)
  | destroyed resources hcontext hcontexts hrecords hids hissues =>
      rw [hissues.trace hpush id, commandsOf_append, bodiesFor_append,
        bodiesFor_deletions_of_not_mem]
      · simp [commandsOf]
      · intro resource hresource
        exact hlive resource (hrecords.mem_iff.mpr
          (List.mem_append_left _ (List.mem_map_of_mem hresource)))
  | transferred resource toHost transfer hcontext hresource htransfer hsame
      hids hissues =>
      rw [hissues.trace hpush id]
      simp [commandsOf, bodiesFor, CommandBody.resourceId, htransfer,
        hlive resource hresource]
  | submitted buffer hcontext hsubmit hctxId hserial hsame hids hsends
      hcount => exact trace_of_submit hsends hsubmit

namespace TraceInvariant

variable {addBuf : Nat → Bool} {contextId : UInt32} {before after : Driver}

private theorem of_same (h : TraceInvariant before)
    (hnumbered : Numbered after) (hrecords : after.records = before.records)
    (htrace : ∀ id, after.trace id = before.trace id)
    (hdrawn : before.resourceIds.drawn ≤ after.resourceIds.drawn) :
    TraceInvariant after where
  numbered := hnumbered
  live := by
    intro record hrecord
    rw [htrace]
    exact h.live record (hrecords ▸ hrecord)
  ended := by
    intro id hid
    rw [htrace]
    exact h.ended id (hrecords ▸ hid)
  unused := by
    intro id hid
    rw [htrace]
    exact h.unused id (Nat.lt_of_le_of_lt hdrawn hid)

private theorem create (h : TraceInvariant before)
    (hnumbered : Numbered after) {resource : VirglResource}
    {commands : List (Queue × Command)}
    (hcreates : CreationCommands contextId resource commands)
    (hrecords : after.records.Perm
      (recordOf (contextId, resource) :: before.records))
    (hissues : Issues addBuf commands before after)
    (hpush : ∀ serial, addBuf serial = true)
    (hid : resource.id.toNat = before.resourceIds.drawn + 1)
    (hdrawn : after.resourceIds.drawn = before.resourceIds.drawn + 1) :
    TraceInvariant after := by
  have htrace := hissues.trace hpush
  have hfresh : before.trace resource.id = [] :=
    h.unused resource.id (by omega)
  have hother : ∀ id, id ≠ resource.id →
      bodiesFor id (commandsOf commands) = [] := by
    intro id hne
    cases hcreates <;>
      simp [commandsOf, bodiesFor, CommandBody.resourceId, Ne.symm hne]
  refine ⟨hnumbered, ?_, ?_, ?_⟩
  · intro record hrecord
    rw [htrace]
    rcases List.mem_cons.mp (hrecords.mem_iff.mp hrecord) with rfl | hold
    · have hlive := LiveTrace.of_creation hcreates
      simp only [recordOf] at hlive ⊢
      rw [hfresh]
      exact hlive
    · rw [hother, List.append_nil]
      · exact h.live record hold
      · intro heq
        have hbound := (h.numbered.ids record hold).2
        rw [heq] at hbound
        omega
  · intro id hmem
    have hnot : id ≠ resource.id ∧ id ∉ before.records.map Record.id := by
      constructor
      · rintro rfl
        exact hmem ((hrecords.map Record.id).mem_iff.mpr
          List.mem_cons_self)
      · intro hold
        exact hmem ((hrecords.map Record.id).mem_iff.mpr
          (List.mem_cons_of_mem _ hold))
    rw [htrace, hother id hnot.1, List.append_nil]
    exact h.ended id hnot.2
  · intro id hlarge
    rw [htrace, hother, List.append_nil]
    · exact h.unused id (by omega)
    · rintro rfl
      omega

private theorem deleted (resources : List VirglResource)
    (h : TraceInvariant before)
    (hrecords : before.records.Perm
      (resources.map (fun resource => recordOf (contextId, resource)) ++
        after.records))
    (htrace : ∀ id, after.trace id = before.trace id ++
      bodiesFor id (commandsOf
        (resources.flatMap (deletionCommands contextId))))
    {id : UInt32} (hlive : id ∈ before.records.map Record.id)
    (hgone : id ∉ after.records.map Record.id) :
    FullTrace id (after.trace id) := by
  have hids := hrecords.map Record.id
  rw [List.map_append, List.map_map] at hids
  have hnodup := (List.nodup_append.mp
    (hids.nodup_iff.mp h.numbered.nodup)).1
  have hmem := (List.mem_append.mp (hids.mem_iff.mp hlive)).resolve_right
    hgone
  obtain ⟨resource, hresource, rfl⟩ := List.mem_map.mp hmem
  have hrecord : recordOf (contextId, resource) ∈ before.records :=
    hrecords.mem_iff.mpr
      (List.mem_append_left _ (List.mem_map_of_mem hresource))
  rw [htrace]
  simp only [Function.comp_apply, recordOf]
  rw [bodiesFor_deletions hnodup hresource]
  exact (h.live _ hrecord).delete contextId

private theorem delete (resources : List VirglResource)
    (h : TraceInvariant before) (hnumbered : Numbered after)
    (hrecords : before.records.Perm
      (resources.map (fun resource => recordOf (contextId, resource)) ++
        after.records))
    (hids : after.resourceIds = before.resourceIds)
    (htrace : ∀ id, after.trace id = before.trace id ++
      bodiesFor id (commandsOf
        (resources.flatMap (deletionCommands contextId)))) :
    TraceInvariant after := by
  have hnodup : (resources.map VirglResource.id ++
      after.records.map Record.id).Nodup := by
    have hboth := (hrecords.map Record.id).nodup_iff.mp h.numbered.nodup
    rwa [List.map_append, List.map_map] at hboth
  have hdisjoint := (List.nodup_append.mp hnodup).2.2
  have hgone : ∀ resource ∈ resources,
      recordOf (contextId, resource) ∈ before.records :=
    fun resource hresource => hrecords.mem_iff.mpr
      (List.mem_append_left _ (List.mem_map_of_mem hresource))
  have hkept : ∀ record ∈ after.records, record ∈ before.records :=
    fun record hrecord =>
      hrecords.mem_iff.mpr (List.mem_append_right _ hrecord)
  have hother : ∀ id, (∀ resource ∈ resources, resource.id ≠ id) →
      after.trace id = before.trace id := by
    intro id hid
    rw [htrace, bodiesFor_deletions_of_not_mem hid, List.append_nil]
  refine ⟨hnumbered, ?_, ?_, ?_⟩
  · intro record hrecord
    rw [hother]
    · exact h.live record (hkept record hrecord)
    · intro resource hresource
      exact hdisjoint _ (List.mem_map_of_mem hresource) _
        (List.mem_map_of_mem hrecord)
  · intro id hid
    by_cases hlive : id ∈ before.records.map Record.id
    · exact Or.inr (Or.inr (h.deleted resources hrecords htrace hlive hid))
    · rw [hother]
      · exact h.ended id hlive
      · rintro resource hresource rfl
        exact hlive (List.mem_map_of_mem (hgone resource hresource))
  · intro id hlarge
    rw [hids] at hlarge
    rw [hother]
    · exact h.unused id hlarge
    · intro resource hresource heq
      have hbound := (h.numbered.ids _ (hgone resource hresource)).2
      simp only [recordOf] at hbound
      rw [heq] at hbound
      omega

theorem trace (h : TraceInvariant before)
    (hpush : ∀ serial, addBuf serial = true)
    (hstep : TraceStep addBuf contextId before after)
    (hleft : after.resourceIds.drawn < 2 ^ 32) : TraceInvariant after := by
  have hnumbered := h.numbered.trace hstep hleft
  have hdrawn := (h.numbered.counted_after hstep.counter).2
  cases hstep with
  | quiet hsame hids hissues =>
      refine h.of_same hnumbered hsame.records (fun id => ?_) hdrawn
      simpa using hissues.trace hpush id
  | opened contextInit hnew hcontexts hrecords hids hissues =>
      refine h.of_same hnumbered hrecords (fun id => ?_) hdrawn
      simpa [commandsOf] using hissues.trace hpush id
  | created resource commands hcontext hcreates hid hserial hcontexts hrecords
      hids hissues =>
      obtain ⟨hnext, hone⟩ := h.numbered.drawn_id hids hleft
      exact h.create hnumbered hcreates hrecords hissues hpush
        (hid ▸ hnext) hone
  | exhausted create hcontext hsame hids hissues =>
      obtain ⟨hnext, hone⟩ := h.numbered.drawn_id hids hleft
      have htrace := hissues.trace hpush
      have hfresh : before.trace (nextResourceId before) = [] :=
        h.unused _ (by omega)
      have hother : ∀ id, id ≠ nextResourceId before →
          after.trace id = before.trace id := by
        intro id hne
        rw [htrace]
        simp [commandsOf, bodiesFor, CommandBody.resourceId, Ne.symm hne]
      refine ⟨hnumbered, ?_, ?_, ?_⟩
      · intro record hrecord
        rw [hsame.records] at hrecord
        rw [hother]
        · exact h.live record hrecord
        · intro heq
          have hbound := (h.numbered.ids record hrecord).2
          rw [heq] at hbound
          omega
      · intro id hid
        rw [hsame.records] at hid
        by_cases hthis : id = nextResourceId before
        · subst hthis
          right
          left
          refine ⟨create, ?_⟩
          rw [htrace, hfresh]
          simp [commandsOf, bodiesFor, CommandBody.resourceId]
        · rw [hother id hthis]
          exact h.ended id hid
      · intro id hlarge
        rw [hother]
        · exact h.unused id (by omega)
        · rintro rfl
          omega
  | closed resource hcontext hcontexts hrecords hids hissues =>
      refine h.delete [resource] hnumbered hrecords hids
        fun id => ?_
      rw [List.flatMap_singleton]
      exact hissues.trace hpush id
  | destroyed resources hcontext hcontexts hrecords hids hissues =>
      refine h.delete resources hnumbered hrecords hids fun id => ?_
      rw [hissues.trace hpush id, commandsOf_append]
      simp [commandsOf]
  | transferred resource toHost transfer hcontext hresource htransfer hsame
      hids hissues =>
      have htrace := hissues.trace hpush
      have hother : ∀ id, id ≠ resource.id →
          after.trace id = before.trace id := by
        intro id hne
        rw [htrace]
        simp [commandsOf, bodiesFor, CommandBody.resourceId, htransfer,
          Ne.symm hne]
      have hbound := (h.numbered.ids _ hresource).2
      refine ⟨hnumbered, ?_, ?_, ?_⟩
      · intro record hrecord
        rw [hsame.records] at hrecord
        by_cases hthis : record.id = resource.id
        · have hlive := (h.live record hrecord).transfer toHost
            (htransfer.trans hthis.symm)
          rw [htrace]
          simpa [commandsOf, bodiesFor, CommandBody.resourceId, htransfer,
            hthis] using hlive
        · rw [hother _ hthis]
          exact h.live record hrecord
      · intro id hid
        rw [hsame.records] at hid
        rw [hother]
        · exact h.ended id hid
        · rintro rfl
          exact hid (List.mem_map_of_mem hresource)
      · intro id hlarge
        rw [hother]
        · exact h.unused id (Nat.lt_of_le_of_lt hdrawn hlarge)
        · rintro rfl
          simp only [recordOf] at hbound
          omega
  | submitted buffer hcontext hsubmit hctxId hserial hsame hids hsends
      hcount =>
      exact h.of_same hnumbered hsame.records
        (fun id => trace_of_submit hsends hsubmit) hdrawn

theorem step {world : World} (h : TraceInvariant world.driver)
    (hpush : ∀ serial, addBuf serial = true) (action : Action)
    (hleft : (World.step addBuf world action).driver.resourceIds.drawn <
      2 ^ 32) :
    TraceInvariant (World.step addBuf world action).driver := by
  rcases World.step_trace addBuf world action with
    ⟨contextId, hstep⟩ | hidles
  · exact h.trace hpush hstep hleft
  · refine h.of_same (h.numbered.step action hleft) hidles.same.records
      (fun id => ?_) (by rw [hidles.resourceIds])
    unfold Driver.trace Driver.sent
    rw [hidles.pushes]

private theorem removed (h : TraceInvariant before)
    (hpush : ∀ serial, addBuf serial = true)
    (hstep : TraceStep addBuf contextId before after) {id : UInt32}
    (hlive : id ∈ before.records.map Record.id)
    (hgone : id ∉ after.records.map Record.id) :
    FullTrace id (after.trace id) := by
  have hsame : after.records = before.records → False := fun hrecords =>
    hgone (hrecords ▸ hlive)
  cases hstep with
  | quiet hobjects => exact (hsame hobjects.records).elim
  | opened contextInit hnew hcontexts hrecords => exact (hsame hrecords).elim
  | created resource commands hcontext hcreates hid hserial hcontexts
      hrecords =>
      refine absurd ?_ hgone
      exact (hrecords.map Record.id).mem_iff.mpr
        (List.mem_cons_of_mem _ hlive)
  | exhausted create hcontext hobjects =>
      exact (hsame hobjects.records).elim
  | closed resource hcontext hcontexts hrecords hids hissues =>
      refine h.deleted [resource] hrecords (fun id => ?_)
        hlive hgone
      rw [List.flatMap_singleton]
      exact hissues.trace hpush id
  | destroyed resources hcontext hcontexts hrecords hids hissues =>
      refine h.deleted resources hrecords (fun id => ?_) hlive hgone
      rw [hissues.trace hpush id, commandsOf_append]
      simp [commandsOf]
  | transferred resource toHost transfer hcontext hresource htransfer
      hobjects => exact (hsame hobjects.records).elim
  | submitted buffer hcontext hsubmit hctxId hserial hobjects =>
      exact (hsame hobjects.records).elim

/-- The resource with this id is live or has been removed. -/
def Settled (id : UInt32) (driver : Driver) : Prop :=
  (0 < id.toNat ∧ id.toNat ≤ driver.resourceIds.drawn) ∧
    (id ∈ driver.records.map Record.id ∨ FullTrace id (driver.trace id))

private theorem settled_trace {id : UInt32} (h : TraceInvariant before)
    (hsettled : Settled id before) (hpush : ∀ serial, addBuf serial = true)
    (hstep : TraceStep addBuf contextId before after)
    (hleft : after.resourceIds.drawn < 2 ^ 32) : Settled id after := by
  have hdrawn := (h.numbered.counted_after hstep.counter).2
  refine ⟨⟨hsettled.1.1, Nat.le_trans hsettled.1.2 hdrawn⟩, ?_⟩
  by_cases hafter : id ∈ after.records.map Record.id
  · exact Or.inl hafter
  · right
    by_cases hbefore : id ∈ before.records.map Record.id
    · exact h.removed hpush hstep hbefore hafter
    · have hnext : id ≠ nextResourceId before := by
        rintro rfl
        have hbound := hsettled.1
        rw [nextResourceId_eq h.numbered.counted] at hbound
        omega
      rw [hstep.trace_eq hpush hbefore hnext]
      exact hsettled.2.resolve_left hbefore

theorem settled_step {id : UInt32} {world : World}
    (h : TraceInvariant world.driver) (hsettled : Settled id world.driver)
    (hpush : ∀ serial, addBuf serial = true) (action : Action)
    (hleft : (World.step addBuf world action).driver.resourceIds.drawn <
      2 ^ 32) :
    Settled id (World.step addBuf world action).driver := by
  rcases World.step_trace addBuf world action with
    ⟨contextId, hstep⟩ | hidles
  · exact h.settled_trace hsettled hpush hstep hleft
  · unfold Settled Driver.trace Driver.sent
    rw [hidles.pushes, hidles.same.records, hidles.resourceIds]
    exact hsettled

theorem tracesBracketed {driver : Driver} (h : TraceInvariant driver) :
    driver.TracesBracketed := by
  constructor
  · intro id
    by_cases hlive : id ∈ driver.records.map Record.id
    · obtain ⟨record, hrecord, rfl⟩ := List.mem_map.mp hlive
      exact (h.live record hrecord).exists_full
    · exact (h.ended id hlive).exists_full
  · intro entry hentry
    exact (h.live _ (List.mem_map_of_mem hentry)).bracketed

end TraceInvariant

theorem start_traceInvariant (virtualAddress physicalAddress memorySize : Nat)
    (capsets : Capsets) :
    TraceInvariant (World.start virtualAddress physicalAddress memorySize
      capsets).driver where
  numbered := start_numbered virtualAddress physicalAddress memorySize capsets
  live := fun record hrecord => by cases hrecord
  ended := fun _ _ => Or.inl rfl
  unused := fun _ _ => rfl

/-- Along a run each id is created, used and ended in order, and a resource
that was live at some time and is no longer live has its full trace. -/
theorem traces_bracketed (addBuf : Nat → Bool)
    (virtualAddress physicalAddress memorySize : Nat) (capsets : Capsets)
    (actions : List Action) (hpush : ∀ serial, addBuf serial = true)
    (hleft : (runFrom (World.step addBuf)
      (World.start virtualAddress physicalAddress memorySize capsets)
      actions).driver.resourceIds.drawn < 2 ^ 32) :
    (runFrom (World.step addBuf)
        (World.start virtualAddress physicalAddress memorySize capsets)
        actions).driver.TracesBracketed ∧
      ∀ first rest, actions = first ++ rest →
        ∀ entry ∈ (runFrom (World.step addBuf)
          (World.start virtualAddress physicalAddress memorySize capsets)
          first).driver.live,
        (∀ other ∈ (runFrom (World.step addBuf)
            (World.start virtualAddress physicalAddress memorySize capsets)
            actions).driver.live, other.2.id ≠ entry.2.id) →
        FullTrace entry.2.id ((runFrom (World.step addBuf)
          (World.start virtualAddress physicalAddress memorySize capsets)
          actions).driver.trace entry.2.id) := by
  have hstep : ∀ world action, TraceInvariant world.driver →
      (World.step addBuf world action).driver.resourceIds.drawn < 2 ^ 32 →
      TraceInvariant (World.step addBuf world action).driver :=
    fun world action h hguard => h.step hpush action hguard
  have halong := along_of_le (World.drawn_le addBuf) hleft
  have hstart := start_traceInvariant virtualAddress physicalAddress
    memorySize capsets
  constructor
  · exact (halong.invariant hstep hstart).tracesBracketed
  · rintro first rest rfl entry hentry hgone
    rw [along_append] at halong
    have hmiddle := halong.1.invariant hstep hstart
    have hlive : entry.2.id ∈ (runFrom (World.step addBuf)
        (World.start virtualAddress physicalAddress memorySize capsets)
        first).driver.records.map Record.id :=
      List.mem_map_of_mem (List.mem_map_of_mem hentry)
    have hbound := hmiddle.numbered.ids _ (List.mem_map_of_mem hentry)
    have hboth : ∀ world action,
        TraceInvariant world.driver ∧
          TraceInvariant.Settled entry.2.id world.driver →
        (World.step addBuf world action).driver.resourceIds.drawn <
          2 ^ 32 →
        TraceInvariant (World.step addBuf world action).driver ∧
          TraceInvariant.Settled entry.2.id
            (World.step addBuf world action).driver :=
      fun world action h hguard => ⟨h.1.step hpush action hguard,
        h.1.settled_step h.2 hpush action hguard⟩
    have hend := (halong.2.invariant hboth
      ⟨hmiddle, hbound, Or.inl hlive⟩).2
    rw [← runFrom_append] at hend
    refine hend.2.resolve_left fun hmem => ?_
    obtain ⟨record, hrecord, heq⟩ := List.mem_map.mp hmem
    obtain ⟨other, hother, rfl⟩ := List.mem_map.mp hrecord
    exact hgone other hother heq

/-- A resource that cannot be backed, a blob and a plain resource of a process
that exits, and the same process again. -/
def bracketedRun : List Action :=
  List.append
    [.request 7 .initContext, .request 7 (.create 0x9000),
     .request 7 (.createBlobIn (.pool IoRequest.poolRecord)),
     .request 7 (.create 0x1000), .request 7 (.transfer 3),
     .request 7 (.submit [2, 3] (some 100)), .processExit 7,
     .request 7 .initContext, .request 7 (.create 1),
     .request 7 (.close 4)]
    (Action.serve 4)

theorem traces_bracketed_bracketedRun :
    (runFrom (World.step fun _ => true) World.eightPages
      bracketedRun).driver.TracesBracketed :=
  (traces_bracketed (fun _ => true) 0x10000 0x80000 0x8000 _ bracketedRun
    (fun _ => rfl) (by decide +kernel)).1

end VgpuDriver
