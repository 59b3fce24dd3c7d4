import VgpuDriver.ResourceThreads
import VgpuDriver.System

namespace VgpuDriver

open Data

/-! Each resource is removed and deleted once, and nobody holds it then, as
long as only unused resources are removed from their list. -/

theorem nodup_deletionSteps (resource : VirglResource) :
    (deletionSteps resource).Nodup := by
  unfold deletionSteps
  cases resource.bForBuffer with
  | false => simp
  | true =>
      cases resource.bForBlob with
      | false => simp
      | true => simp

/-- The record that the request works with until it is done. -/
def ResourceStage.holds : ResourceStage → Option Nat
  | .deleting record todo _ =>
      if .exFreeToLookasideListEx ∈ todo then some record else none
  | stage => stage.uses.map Prod.fst

namespace ResourceSession

/-- No record is released while a request holds it, each is removed once, and
each operation of its deletion is done at most once. -/
structure ReleasedUnheld (session : ResourceSession) : Prop where
  unheld : ∀ stage ∈ session.threads, ∀ record,
    stage.holds = some record →
      (.exFreeToLookasideListEx, record) ∉ session.performed
  removedOnce : session.removed.Nodup
  performedOnce : session.performed.Nodup

/-- What is removed is still in its list. -/
def RemovesListed (session : ResourceSession) : ResourceAction → Prop
  | .advance thread =>
      match session.threads[thread]? with
      | some (.found record context) =>
          ¬session.Locked context →
            record ∈ session.resourceLists context
      | some (.contextFound context) => session.context = some context
      | _ => True
  | _ => True

/-- No other request has looked up what is removed and not finished with
it. -/
def RemovesUnused (session : ResourceSession) : ResourceAction → Prop
  | .advance thread =>
      match session.threads[thread]? with
      | some (.found record context) =>
          ¬session.Locked context →
            ¬Claimed ResourceStage.uses
              (session.threads.set thread .returned) (record, context)
      | some (.destroying context) =>
          ∀ record ∈ (session.resourceLists context).getLast?,
            ¬Claimed ResourceStage.uses session.threads (record, context)
      | some (.contextFound context) => session.context = some context
      | _ => True
  | _ => True

instance (session : ResourceSession) (action : ResourceAction) :
    Decidable (session.RemovesUnused action) := by
  unfold RemovesUnused
  split
  · split
    · infer_instance
    · infer_instance
    · infer_instance
    · infer_instance
  · infer_instance

/-- The fields of the record that only the creation and `CtlMap` write. -/
structure SameRecord (old new : VirglResource) : Prop where
  bForBuffer : new.bForBuffer = old.bForBuffer
  bForBlob : new.bForBlob = old.bForBlob
  share : new.buffer.share = old.buffer.share

theorem SameRecord.rfl {resource : VirglResource} :
    SameRecord resource resource := ⟨.refl _, .refl _, .refl _⟩

/-- What a step does to the state. -/
inductive Moves (before : ResourceSession) :
    ResourceAction → ResourceSession → Prop
  | updates (action : ResourceAction) (context : Option Nat) (contexts : Nat)
      (records : Nat → VirglResource)
      (hrecords : ∀ record,
        SameRecord (before.records record) (records record)) :
      Moves before action
        { before with
          context := context, contexts := contexts, records := records }
  | creates (action : ResourceAction) (resource : VirglResource)
      (context : Nat)
      (hshare : resource.bForBuffer = true →
        resource.buffer.share.pMdl = none) :
      Moves before action
        { before with
          records :=
            Function.update before.records before.allocated resource
          resourceLists := Function.update before.resourceLists context
            (before.allocated :: before.resourceLists context)
          allocated := before.allocated + 1 }
  | calls (action : ResourceAction) (stage : ResourceStage)
      (hremoves : stage.removes = none)
      (huses : ∀ record context, stage.uses = some (record, context) →
        record ∈ before.resourceLists context)
      (hwaits : ∀ record context request,
        stage ≠ .mapWaiting record context request) :
      Moves before action (before.call stage)
  | advances (thread : Nat) (stage new : ResourceStage)
      (context : Option Nat)
      (hthread : before.threads[thread]? = some stage)
      (hdone : ∀ record step todo loop,
        stage ≠ .deleting record (step :: todo) loop)
      (hremoves : new.removes = none)
      (huses : new.uses = none ∨ new.uses = stage.uses)
      (hwaits : ∀ record context request,
        new = .mapWaiting record context request →
          (before.records record).bForBuffer = true) :
      Moves before (.advance thread)
        (({ before with context := context } : ResourceSession).move thread
          new)
  | maps (thread record context : Nat) (request : MapRequest)
      (stage : ResourceStage)
      (hthread : before.threads[thread]? = some stage)
      (hstage : stage = .looked record context request ∧
          (before.records record).bForBuffer = true ∧
          (before.records record).buffer.share.pMdl = none ∨
        stage = .mapWaiting record context request)
      (hevent : (before.records record).stateEvent = true) :
      Moves before (.advance thread)
        ((before.createMapping record request).move thread .returned)
  | removes (thread record context : Nat) (rest : List Nat)
      (stage : ResourceStage) (loop : Option Nat)
      (hthread : before.threads[thread]? = some stage)
      (hstage : stage = .found record context ∧ ¬before.Locked context ∨
        stage = .destroying context ∧
          (before.resourceLists context).getLast? = some record)
      (hrest : (before.resourceLists context).Perm (record :: rest)) :
      Moves before (.advance thread)
        ((before.unlink record context rest).move thread
          (.deleting record (deletionSteps (before.records record)) loop))
  | performs (thread record : Nat) (step : DeletionStep)
      (todo : List DeletionStep) (loop : Option Nat)
      (hthread : before.threads[thread]? =
        some (.deleting record (step :: todo) loop)) :
      Moves before (.advance thread)
        ((before.perform step record).move thread
          (.deleting record todo loop))

variable {before after session : ResourceSession} {action : ResourceAction}

theorem getResourceFromList_mem {handle : UInt32} {record context : Nat}
    (hfound : session.getResourceFromList handle = some (record, context)) :
    record ∈ session.resourceLists context := by
  unfold getResourceFromList at hfound
  cases hcontext : session.context with
  | none =>
      rw [hcontext] at hfound
      exact absurd hfound nofun
  | some listed =>
      rw [hcontext] at hfound
      obtain ⟨other, hother, heq⟩ := Option.map_eq_some_iff.mp hfound
      obtain ⟨rfl, rfl⟩ := Prod.mk.inj heq
      exact List.mem_of_find?_eq_some hother

theorem Moves.stays : Moves session action session :=
  .updates action session.context session.contexts session.records
    fun _ => .rfl

theorem modifyListed_moves (record : Nat)
    (change : VirglResource → VirglResource)
    (hchange : ∀ resource, SameRecord resource (change resource)) :
    Moves session action (session.modifyListed record change) := by
  unfold modifyListed
  split
  · exact .stays
  · split
    · refine .updates action session.context session.contexts _ fun other => ?_
      rw [Function.update_apply]
      split
      · rename_i heq
        rw [heq]
        exact hchange _
      · exact .rfl
    · exact .stays

theorem initialRecord_share (resource : VirglResource)
    (hbuffer : (initialRecord resource).bForBuffer = true) :
    (initialRecord resource).buffer.share.pMdl = none := by
  unfold initialRecord at hbuffer ⊢
  split
  · rfl
  · rename_i hplain
    rw [if_neg hplain] at hbuffer
    exact absurd hbuffer hplain

theorem createRecord_moves (resource : VirglResource) :
    Moves session action (session.createRecord resource) := by
  unfold createRecord
  split
  · exact .stays
  · exact .creates action _ _ (initialRecord_share resource)

theorem advance_moves {thread : Nat} {stage : ResourceStage}
    (hthread : session.threads[thread]? = some stage)
    (hlisted : session.RemovesListed (.advance thread)) :
    Moves session (.advance thread) (session.advance thread stage) := by
  unfold RemovesListed at hlisted
  simp only [hthread] at hlisted
  have hgoes : ∀ new : ResourceStage,
      (∀ record step todo loop,
        stage ≠ .deleting record (step :: todo) loop) →
      new.removes = none → new.uses = none →
      (∀ record context request, new ≠ .mapWaiting record context request) →
      Moves session (.advance thread) (session.move thread new) := by
    intro new hdone hremoves huses hwaits
    exact .advances thread stage new session.context hthread hdone hremoves
      (.inl huses) fun record context request heq =>
        absurd heq (hwaits record context request)
  cases stage with
  | waiting record context =>
      simp only [advance]
      split
      · exact hgoes .returned nofun rfl rfl nofun
      · exact .stays
  | looked record context request =>
      simp only [advance]
      split
      · exact hgoes .returned nofun rfl rfl nofun
      · rename_i hbuffer
        split
        · exact hgoes .returned nofun rfl rfl nofun
        · rename_i hmdl
          have hbuffer : (session.records record).bForBuffer = true := by
            simpa using hbuffer
          split
          · refine .advances thread _ _ session.context hthread nofun rfl
              (.inr rfl) fun other _ _ heq => ?_
            obtain ⟨rfl, _, _⟩ := ResourceStage.mapWaiting.inj heq
            exact hbuffer
          · rename_i hevent
            exact .maps thread record context request _ hthread
              (.inl ⟨rfl, hbuffer, by simpa using hmdl⟩)
              (by simpa using hevent)
  | mapWaiting record context request =>
      simp only [advance]
      split
      · rename_i hevent
        exact .maps thread record context request _ hthread (.inr rfl) hevent
      · exact .stays
  | found record context =>
      simp only [advance]
      split
      · exact .stays
      · rename_i hlocked
        exact .removes thread record context _ _ none hthread
          (.inl ⟨rfl, hlocked⟩)
          (List.perm_cons_erase (hlisted hlocked))
  | deleting record todo loop =>
      cases todo with
      | nil =>
          cases loop with
          | none => exact hgoes .returned nofun rfl rfl nofun
          | some context =>
              exact hgoes (.destroying context) nofun rfl rfl nofun
      | cons step todo => exact .performs thread record step todo loop hthread
  | contextFound context =>
      exact .advances thread _ _ _ hthread nofun rfl (.inl rfl) nofun
  | contextUnlinked context =>
      simp only [advance]
      split
      · exact .stays
      · exact hgoes (.destroying context) nofun rfl rfl nofun
  | destroying context =>
      simp only [advance]
      cases hlast : (session.resourceLists context).getLast? with
      | none => exact hgoes .returned nofun rfl rfl nofun
      | some record =>
          refine .removes thread record context _ _ (some context) hthread
            (.inr ⟨rfl, hlast⟩) ?_
          obtain ⟨rest, hlist⟩ := List.getLast?_eq_some_iff.mp hlast
          rw [hlist, List.dropLast_concat]
          exact List.perm_append_singleton record rest
  | returned => exact .stays

/-- A handler starts with the resource that it has looked up. -/
private theorem calls_found {handle : UInt32} {record context : Nat}
    {stage : ResourceStage}
    (hfound : before.getResourceFromList handle = some (record, context))
    (hremoves : stage.removes = none)
    (huses : stage.uses = some (record, context))
    (hwaits : ∀ record context request,
      stage ≠ .mapWaiting record context request) :
    Moves before action (before.call stage) := by
  apply Moves.calls action stage hremoves ?_ hwaits
  intro used listed heq
  rw [huses] at heq
  cases heq
  exact getResourceFromList_mem hfound

/-- One step, case by case. -/
theorem step_moves (hlisted : before.RemovesListed action) :
    Moves before action (before.step action) := by
  cases action with
  | init =>
      simp only [step]
      split
      · exact .stays
      · exact .updates _ _ _ before.records fun _ => .rfl
  | create resource => exact createRecord_moves resource
  | signal record idle =>
      exact modifyListed_moves record _ fun resource => ⟨rfl, rfl, rfl⟩
  | mapBlob record mapAddress size =>
      exact modifyListed_moves record _ fun resource => ⟨rfl, rfl, rfl⟩
  | wait request =>
      simp only [step]
      split
      · split
        · exact .stays
        · rename_i hfound
          split
          · exact .stays
          · split
            · exact .stays
            · exact calls_found hfound rfl rfl nofun
      · exact .stays
  | map request =>
      simp only [step]
      split
      · split
        · exact .stays
        · rename_i hfound
          exact calls_found hfound rfl rfl nofun
      · exact .stays
  | close input =>
      simp only [step]
      split
      · split
        · exact .stays
        · rename_i hfound
          exact calls_found hfound rfl rfl nofun
      · exact .stays
  | destroy =>
      simp only [step]
      split
      · exact .stays
      · exact .calls _ _ rfl nofun nofun
  | advance thread =>
      cases hthread : before.threads[thread]? with
      | none =>
          simp only [step, hthread]
          exact .stays
      | some stage =>
          simp only [step, hthread]
          exact advance_moves hthread hlisted

/-- What the lists, the threads and the histories have to do with each
other. -/
structure Linked (session : ResourceSession) : Prop where
  nodup : ∀ context, (session.resourceLists context).Nodup
  apart : ∀ record context other,
    record ∈ session.resourceLists context →
      record ∈ session.resourceLists other → context = other
  listed : ∀ record context, record ∈ session.resourceLists context →
    record < session.allocated ∧ record ∉ session.removed
  removed : ∀ record ∈ session.removed, record < session.allocated
  removedOnce : session.removed.Nodup
  alone : Alone ResourceStage.removes session.threads
  deleting : ∀ record todo loop,
    .deleting record todo loop ∈ session.threads →
      record ∈ session.removed ∧
        todo <:+ deletionSteps (session.records record) ∧
        ∀ step ∈ todo, (step, record) ∉ session.performed
  performed : ∀ step record, (step, record) ∈ session.performed →
    record ∈ session.removed ∧
      step ∈ deletionSteps (session.records record)
  performedOnce : session.performed.Nodup

theorem SameRecord.deletionSteps {old new : VirglResource}
    (h : SameRecord old new) :
    VgpuDriver.deletionSteps new = VgpuDriver.deletionSteps old := by
  unfold VgpuDriver.deletionSteps
  rw [h.bForBuffer, h.bForBlob]

/-- `CtlMap` writes the descriptor and the mappings. -/
theorem createMapping_frame (record : Nat) (request : MapRequest) :
    ∃ share mappings, session.createMapping record request =
      { session.modify record fun resource =>
          { resource with buffer := { resource.buffer with share := share } }
        with mappings := mappings } := by
  unfold createMapping
  dsimp only
  split
  · exact ⟨_, _, rfl⟩
  · exact ⟨_, session.mappings, rfl⟩

theorem perform_frame (step : DeletionStep) (record : Nat) :
    ∃ mappings, session.perform step record =
      { session with
        performed := (step, record) :: session.performed
        mappings := mappings } := by
  unfold perform
  cases step with
  | deleteUserShareMemory =>
      dsimp only
      unfold unmap
      dsimp only
      split
      · exact ⟨_, rfl⟩
      · exact ⟨session.mappings, rfl⟩
  | _ => exact ⟨session.mappings, rfl⟩

namespace Linked

theorem keep (h : Linked before)
    (hlists : after.resourceLists = before.resourceLists)
    (hallocated : after.allocated = before.allocated)
    (hremoved : after.removed = before.removed)
    (hperformed : after.performed = before.performed)
    (hsteps : ∀ record, deletionSteps (after.records record) =
      deletionSteps (before.records record))
    (halone : Alone ResourceStage.removes after.threads)
    (hdeleting : ∀ record todo loop,
      .deleting record todo loop ∈ after.threads →
        .deleting record todo loop ∈ before.threads) : Linked after where
  nodup := hlists ▸ h.nodup
  apart := hlists ▸ h.apart
  listed := by rw [hlists, hallocated, hremoved]; exact h.listed
  removed := by rw [hallocated, hremoved]; exact h.removed
  removedOnce := hremoved ▸ h.removedOnce
  alone := halone
  deleting := by
    intro record todo loop hmem
    rw [hremoved, hperformed, hsteps]
    exact h.deleting record todo loop (hdeleting record todo loop hmem)
  performed := by
    intro step record hmem
    rw [hremoved, hsteps]
    rw [hperformed] at hmem
    exact h.performed step record hmem
  performedOnce := hperformed ▸ h.performedOnce

theorem deleting_of_set {threads : List ResourceStage} {thread : Nat}
    {new : ResourceStage} (hnew : new.removes = none) {record : Nat}
    {todo : List DeletionStep} {loop : Option Nat}
    (hmem : .deleting record todo loop ∈ threads.set thread new) :
    .deleting record todo loop ∈ threads := by
  rcases List.mem_or_eq_of_mem_set hmem with hold | rfl
  · exact hold
  · exact absurd hnew nofun

theorem created (h : Linked before) (resource : VirglResource)
    (context : Nat) :
    Linked { before with
      records := Function.update before.records before.allocated resource
      resourceLists := Function.update before.resourceLists context
        (before.allocated :: before.resourceLists context)
      allocated := before.allocated + 1 } := by
  have hfresh : ∀ other, before.allocated ∉ before.resourceLists other :=
    fun other hmem => Nat.lt_irrefl _ (h.listed _ other hmem).1
  have hmem : ∀ record other, record ∈ Function.update before.resourceLists
      context (before.allocated :: before.resourceLists context) other →
      (record = before.allocated ∧ other = context) ∨
        record ∈ before.resourceLists other := by
    intro record other hrecord
    rw [Function.update_apply] at hrecord
    split at hrecord
    · rename_i heq
      subst heq
      rcases List.mem_cons.mp hrecord with rfl | hold
      · exact .inl ⟨rfl, rfl⟩
      · exact .inr hold
    · exact .inr hrecord
  have hsteps : ∀ record ∈ before.removed,
      Function.update before.records before.allocated resource record =
        before.records record := by
    intro record hrecord
    refine Function.update_of_ne (fun heq => ?_) _ _
    exact Nat.lt_irrefl _ (heq ▸ h.removed record hrecord)
  refine ⟨?_, ?_, ?_, ?_, h.removedOnce, h.alone, ?_, ?_, h.performedOnce⟩
  · intro other
    dsimp only
    rw [Function.update_apply]
    split
    · exact List.nodup_cons.mpr ⟨hfresh context, h.nodup context⟩
    · exact h.nodup other
  · intro record first second hfirst hsecond
    rcases hmem record first hfirst with ⟨rfl, rfl⟩ | hfirst
    · rcases hmem _ second hsecond with ⟨_, rfl⟩ | hsecond
      · rfl
      · exact absurd hsecond (hfresh second)
    · rcases hmem record second hsecond with ⟨rfl, _⟩ | hsecond
      · exact absurd hfirst (hfresh first)
      · exact h.apart record first second hfirst hsecond
  · intro record other hrecord
    rcases hmem record other hrecord with ⟨rfl, _⟩ | hold
    · refine ⟨Nat.lt_succ_self _, fun hremoved => ?_⟩
      exact Nat.lt_irrefl _ (h.removed _ hremoved)
    · obtain ⟨hbelow, hkept⟩ := h.listed record other hold
      exact ⟨Nat.lt_succ_of_lt hbelow, hkept⟩
  · exact fun record hrecord => Nat.lt_succ_of_lt (h.removed record hrecord)
  · intro record todo loop hthread
    obtain ⟨hremoved, hsuffix, htodo⟩ := h.deleting record todo loop hthread
    dsimp only
    rw [hsteps record hremoved]
    exact ⟨hremoved, hsuffix, htodo⟩
  · intro step record hdone
    obtain ⟨hremoved, hstep⟩ := h.performed step record hdone
    dsimp only
    rw [hsteps record hremoved]
    exact ⟨hremoved, hstep⟩

theorem unlinked (h : Linked before) {thread record context : Nat}
    {rest : List Nat} {loop : Option Nat}
    (hrest : (before.resourceLists context).Perm (record :: rest)) :
    Linked ((before.unlink record context rest).move thread
      (.deleting record (deletionSteps (before.records record)) loop)) := by
  have hnodup : (record :: rest).Nodup :=
    hrest.nodup_iff.mp (h.nodup context)
  have hmem : record ∈ before.resourceLists context :=
    hrest.mem_iff.mpr List.mem_cons_self
  obtain ⟨hbelow, hnew⟩ := h.listed record context hmem
  have hkept : ∀ other list, other ∈ Function.update before.resourceLists
      context rest list →
      other ∈ before.resourceLists list ∧ other ≠ record := by
    intro other list hother
    rw [Function.update_apply] at hother
    split at hother
    · rename_i heq
      subst heq
      refine ⟨hrest.mem_iff.mpr (List.mem_cons_of_mem _ hother), ?_⟩
      rintro rfl
      exact (List.nodup_cons.mp hnodup).1 hother
    · rename_i hne
      refine ⟨hother, ?_⟩
      rintro rfl
      exact hne (h.apart other list context hother hmem)
  refine ⟨?_, ?_, ?_, ?_, ?_, ?_, ?_, ?_, h.performedOnce⟩
  · intro list
    change (Function.update before.resourceLists context rest list).Nodup
    rw [Function.update_apply]
    split
    · exact (List.nodup_cons.mp hnodup).2
    · exact h.nodup list
  · intro other first second hfirst hsecond
    exact h.apart other first second (hkept other first hfirst).1
      (hkept other second hsecond).1
  · intro other list hother
    obtain ⟨hold, hne⟩ := hkept other list hother
    obtain ⟨hlow, hunremoved⟩ := h.listed other list hold
    exact ⟨hlow, List.not_mem_cons_of_ne_of_not_mem hne hunremoved⟩
  · intro other hother
    rcases List.mem_cons.mp hother with rfl | hother
    · exact hbelow
    · exact h.removed other hother
  · exact List.nodup_cons.mpr ⟨hnew, h.removedOnce⟩
  · refine h.alone.set_fresh fun other hother => ?_
    obtain rfl := Option.some.inj hother
    rintro ⟨stage, hstage, hremoves⟩
    cases stage with
    | deleting other todo loop =>
        obtain rfl := Option.some.inj hremoves
        exact hnew (h.deleting other todo loop hstage).1
    | _ => exact absurd hremoves nofun
  · intro other todo loop' hother
    rcases List.mem_or_eq_of_mem_set hother with hold | heq
    · obtain ⟨hremoved, hsuffix, htodo⟩ := h.deleting other todo loop' hold
      exact ⟨List.mem_cons_of_mem _ hremoved, hsuffix, htodo⟩
    · obtain ⟨rfl, rfl, rfl⟩ := ResourceStage.deleting.inj heq
      refine ⟨List.mem_cons_self, List.suffix_refl _, fun step _ hdone => ?_⟩
      exact hnew (h.performed step other hdone).1
  · intro step other hdone
    obtain ⟨hremoved, hstep⟩ := h.performed step other hdone
    exact ⟨List.mem_cons_of_mem _ hremoved, hstep⟩

theorem performs (h : Linked before) {thread record : Nat}
    {step : DeletionStep} {todo : List DeletionStep} {loop : Option Nat}
    (hthread : before.threads[thread]? =
      some (.deleting record (step :: todo) loop)) :
    Linked ((before.perform step record).move thread
      (.deleting record todo loop)) := by
  obtain ⟨hremoved, hsuffix, htodo⟩ :=
    h.deleting record (step :: todo) loop (List.mem_of_getElem? hthread)
  have hnew := htodo step List.mem_cons_self
  have hnodup : (step :: todo).Nodup :=
    (nodup_deletionSteps _).sublist hsuffix.sublist
  obtain ⟨mappings, heq⟩ := @perform_frame before step record
  rw [heq]
  refine ⟨h.nodup, h.apart, h.listed, h.removed, h.removedOnce,
    h.alone.set hthread (.inr rfl), ?_, ?_, ?_⟩
  · intro other todo' loop' hother
    obtain ⟨slot, hslot⟩ := List.mem_iff_getElem?.mp hother
    rcases getElem?_set_cases hslot with ⟨_, heq⟩ | ⟨hne, hold⟩
    · obtain ⟨rfl, rfl, rfl⟩ := ResourceStage.deleting.inj heq
      refine ⟨hremoved, (List.suffix_cons step todo').trans hsuffix, ?_⟩
      intro next hnext hdone
      rcases List.mem_cons.mp hdone with hsame | hdone
      · obtain ⟨rfl, _⟩ := Prod.mk.inj hsame
        exact (List.nodup_cons.mp hnodup).1 hnext
      · exact htodo next (List.mem_cons_of_mem _ hnext) hdone
    · obtain ⟨hgone, hsuffix', htodo'⟩ :=
        h.deleting other todo' loop' (List.mem_of_getElem? hold)
      refine ⟨hgone, hsuffix', fun next hnext hdone => ?_⟩
      rcases List.mem_cons.mp hdone with hsame | hdone
      · obtain ⟨_, rfl⟩ := Prod.mk.inj hsame
        exact hne (h.alone _ _ _ _ other hold hthread rfl rfl)
      · exact htodo' next hnext hdone
  · intro next other hdone
    rcases List.mem_cons.mp hdone with hsame | hdone
    · obtain ⟨rfl, rfl⟩ := Prod.mk.inj hsame
      exact ⟨hremoved, hsuffix.subset List.mem_cons_self⟩
    · exact h.performed next other hdone
  · exact List.nodup_cons.mpr ⟨hnew, h.performedOnce⟩

theorem step (h : Linked before) (hmoves : Moves before action after) :
    Linked after := by
  cases hmoves with
  | updates _ context contexts records hrecords =>
      exact h.keep rfl rfl rfl rfl (fun record => (hrecords record).deletionSteps)
        h.alone (fun _ _ _ hmem => hmem)
  | creates _ resource context hshare => exact h.created resource context
  | calls _ stage hremoves huses hwaits =>
      refine h.keep rfl rfl rfl rfl (fun _ => rfl) (h.alone.start hremoves) ?_
      intro record todo loop hmem
      rcases List.mem_append.mp hmem with hold | hlast
      · exact hold
      · obtain rfl := List.mem_singleton.mp hlast
        exact absurd hremoves nofun
  | advances thread stage new context hthread hdone hremoves huses hwaits =>
      exact h.keep rfl rfl rfl rfl (fun _ => rfl)
        (h.alone.set hthread (.inl hremoves))
        (fun _ _ _ hmem => deleting_of_set hremoves hmem)
  | maps thread record context request stage hthread hstage hevent =>
      obtain ⟨share, mappings, heq⟩ :=
        @createMapping_frame before record request
      rw [heq]
      refine h.keep rfl rfl rfl rfl (fun other => ?_)
        (h.alone.set hthread (.inl rfl))
        (fun _ _ _ hmem => deleting_of_set rfl hmem)
      change deletionSteps (Function.update before.records record _ other) = _
      rw [Function.update_apply]
      split
      · rename_i hsame
        rw [hsame]
        rfl
      · rfl
  | removes thread record context rest stage loop hthread hstage hrest =>
      exact h.unlinked hrest
  | performs thread record step todo loop hthread => exact h.performs hthread

end Linked

/-- Linked, and what a request holds is in its list. -/
structure HeldListed (session : ResourceSession) : Prop where
  linked : Linked session
  used : ∀ stage ∈ session.threads, ∀ record context,
    stage.uses = some (record, context) →
      record ∈ session.resourceLists context

namespace HeldListed

theorem removesListed (h : HeldListed session)
    (hunused : session.RemovesUnused action) :
    session.RemovesListed action := by
  cases action with
  | advance thread =>
      unfold RemovesListed RemovesUnused at *
      dsimp only at hunused ⊢
      split
      · rename_i record context hthread
        exact fun _ => h.used _ (List.mem_of_getElem? hthread) record context
          rfl
      · rename_i context hthread
        rw [hthread] at hunused
        exact hunused
      · trivial
  | _ => trivial

theorem used_of_set (h : HeldListed session) {thread : Nat}
    {stage new : ResourceStage}
    (hthread : session.threads[thread]? = some stage)
    (huses : new.uses = none ∨ new.uses = stage.uses) :
    ∀ other ∈ session.threads.set thread new, ∀ record context,
      other.uses = some (record, context) →
        record ∈ session.resourceLists context := by
  refine forall_mem_set h.used fun record context hnew => ?_
  rcases huses with hnone | hsame
  · exact absurd (hnone.symm.trans hnew) nofun
  · exact h.used stage (List.mem_of_getElem? hthread) record context
      (hsame ▸ hnew)

theorem unused_of_removes {thread record context : Nat}
    {stage : ResourceStage}
    (hunused : session.RemovesUnused (.advance thread))
    (hthread : session.threads[thread]? = some stage)
    (hstage : stage = .found record context ∧ ¬session.Locked context ∨
      stage = .destroying context ∧
        (session.resourceLists context).getLast? = some record)
    {slot : Nat} {other : ResourceStage} (hne : slot ≠ thread)
    (hother : session.threads[slot]? = some other) :
    other.uses ≠ some (record, context) := by
  intro huses
  unfold RemovesUnused at hunused
  simp only [hthread] at hunused
  rcases hstage with ⟨rfl, hlocked⟩ | ⟨rfl, hlast⟩
  · refine hunused hlocked ?_
    exact .of_thread (by rwa [getElem?_set_other hne]) huses
  · exact hunused record hlast (.of_thread hother huses)

theorem step (h : HeldListed before)
    (hunused : before.RemovesUnused action) :
    HeldListed (before.step action) := by
  have hmoves := step_moves (h.removesListed hunused)
  refine ⟨h.linked.step hmoves, ?_⟩
  generalize before.step action = after at hmoves
  cases hmoves with
  | updates _ context contexts records hrecords => exact h.used
  | creates _ resource context hshare =>
      intro stage hstage record other huses
      have hold := h.used stage hstage record other huses
      dsimp only
      rw [Function.update_apply]
      split
      · rename_i heq
        subst heq
        exact List.mem_cons_of_mem _ hold
      · exact hold
  | calls _ stage hremoves huses hwaits =>
      exact forall_mem_start h.used huses
  | advances thread stage new context hthread hdone hremoves huses hwaits =>
      exact h.used_of_set hthread huses
  | maps thread record context request stage hthread hstage hevent =>
      obtain ⟨share, mappings, heq⟩ :=
        @createMapping_frame before record request
      rw [heq]
      exact h.used_of_set hthread (.inl rfl)
  | removes thread record context rest stage loop hthread hstage hrest =>
      intro other hother record' context' huses
      obtain ⟨slot, hslot⟩ := List.mem_iff_getElem?.mp hother
      rcases getElem?_set_cases hslot with ⟨_, rfl⟩ | ⟨hne, hold⟩
      · exact absurd huses nofun
      · have hlisted := h.used other (List.mem_of_getElem? hold) record'
          context' huses
        have hothers := unused_of_removes hunused hthread hstage hne hold
        change record' ∈ Function.update before.resourceLists context rest
          context'
        rw [Function.update_apply]
        split
        · rename_i heq
          subst heq
          rcases List.mem_cons.mp (hrest.mem_iff.mp hlisted) with rfl | hrest
          · exact absurd huses hothers
          · exact hrest
        · exact hlisted
  | performs thread record step todo loop hthread =>
      obtain ⟨mappings, heq⟩ := @perform_frame before step record
      rw [heq]
      exact h.used_of_set hthread (.inl rfl)

theorem releasedUnheld (h : HeldListed session) : ReleasedUnheld session where
  unheld := by
    intro stage hstage record hholds hdone
    have hgone := (h.linked.performed _ record hdone).1
    have hused : ∀ context, stage.uses = some (record, context) → False := by
      intro context huses
      have hlisted := h.used stage hstage record context huses
      exact (h.linked.listed record context hlisted).2 hgone
    cases stage with
    | waiting other context =>
        obtain rfl := Option.some.inj hholds
        exact hused context rfl
    | looked other context request =>
        obtain rfl := Option.some.inj hholds
        exact hused context rfl
    | mapWaiting other context request =>
        obtain rfl := Option.some.inj hholds
        exact hused context rfl
    | found other context =>
        obtain rfl := Option.some.inj hholds
        exact hused context rfl
    | deleting other todo loop =>
        dsimp only [ResourceStage.holds] at hholds
        split at hholds
        · rename_i htodo
          obtain rfl := Option.some.inj hholds
          exact (h.linked.deleting other todo loop hstage).2.2 _ htodo hdone
        · exact absurd hholds nofun
    | contextFound context => exact absurd hholds nofun
    | contextUnlinked context => exact absurd hholds nofun
    | destroying context => exact absurd hholds nofun
    | returned => exact absurd hholds nofun
  removedOnce := h.linked.removedOnce
  performedOnce := h.linked.performedOnce

end HeldListed

theorem start_linked (records : Nat → VirglResource) :
    Linked (start records) where
  nodup := fun _ => .nil
  apart := fun _ _ _ hmem => absurd hmem List.not_mem_nil
  listed := fun _ _ hmem => absurd hmem List.not_mem_nil
  removed := fun _ hmem => absurd hmem List.not_mem_nil
  removedOnce := .nil
  alone := .nil
  deleting := fun _ _ _ hmem => absurd hmem List.not_mem_nil
  performed := fun _ _ hmem => absurd hmem List.not_mem_nil
  performedOnce := .nil

end ResourceSession

/-- No record is released while a request holds it, in every state of a run
that removes only unused resources. -/
theorem released_unheld (records : Nat → VirglResource)
    (actions : List ResourceAction)
    (hunused : Along ResourceSession.step ResourceSession.RemovesUnused
      (.start records) actions) :
    (runFrom ResourceSession.step (.start records)
      actions).ReleasedUnheld := by
  have hstart : ResourceSession.HeldListed (.start records) :=
    ⟨ResourceSession.start_linked records,
      fun _ hmem => absurd hmem List.not_mem_nil⟩
  exact (hunused.invariant (fun _ _ h hstep => h.step hstep)
    hstart).releasedUnheld

/-- A buffer that is busy or idle. -/
def bufferRecord (id : UInt32) (idle : Bool) : VirglResource :=
  { IoRequest.poolRecord with
    id := id
    bForBuffer := true
    stateEvent := idle
    buffer :=
      { IoRequest.poolRecord.buffer with
        size := 0x1000
        memory := { virtualAddress := 0x10000, physicalAddress := 0 } } }

def waitFor (handle : UInt32) : ResourceAction :=
  .wait { input := .ok { handle := handle, flags := 0 }, output := .ok () }

def mapTo (handle : UInt32) (address : Nat) : ResourceAction :=
  .map
    { input := .ok { handle := handle }
      output := .ok ()
      mdl := some 1
      userAddress := some (some address) }

def closeOf (handle : UInt32) : ResourceAction :=
  .close (.ok { handle := handle })

/-- A wait and a map of a busy resource that end before it is closed, while
the context is destroyed. -/
def patientRun : List ResourceAction :=
  [.init, .create (bufferRecord 1 false), .create (bufferRecord 2 true),
   waitFor 1, mapTo 1 0x7000, .advance 1, mapTo 2 0x8000, .advance 2,
   .signal 0 true, .advance 1, .advance 0, closeOf 1, .advance 3, .destroy,
   .advance 3, .advance 4, .advance 3, .advance 4, .advance 4, .advance 3,
   .advance 3, .advance 3, .advance 3, .advance 4, .advance 4, .advance 4]

theorem released_unheld_patientRun :
    (runFrom ResourceSession.step (.start fun _ => IoRequest.poolRecord)
      patientRun).ReleasedUnheld :=
  released_unheld _ _ (by decide +kernel)

/-- A resource is closed while another request waits for it. -/
def closedInWaitRun : List ResourceAction :=
  [.init, .create (bufferRecord 1 false), waitFor 1, closeOf 1] ++
    List.replicate 6 (.advance 1)

theorem not_releasedUnheld_closedInWaitRun :
    ¬(runFrom ResourceSession.step (.start fun _ => IoRequest.poolRecord)
      closedInWaitRun).ReleasedUnheld := by
  intro h
  have hthread : ResourceStage.waiting 0 0 ∈
      (runFrom ResourceSession.step (.start fun _ => IoRequest.poolRecord)
        closedInWaitRun).threads := List.mem_of_getElem? (i := 0) rfl
  exact h.unheld _ hthread 0 rfl (by decide +kernel)

end VgpuDriver
