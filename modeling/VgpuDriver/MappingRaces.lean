import VgpuDriver.ResourceRemovals

namespace VgpuDriver

open Data

/-! No user mapping outlives its resource, as long as a resource is mapped
only in the state in which `CtlMap` has found it. -/

namespace ResourceSession

/-- Each resource has at most one mapping, its descriptor says whether there
is one, and there is none of pages that have been given back. -/
structure MappingsSound (session : ResourceSession) : Prop where
  single : (session.mappings.map Prod.fst).Nodup
  described : ∀ context, ∀ record ∈ session.resourceLists context,
    (session.records record).bForBuffer = true →
      ((session.records record).buffer.share.pMdl.isSome ↔
        ∃ address, (record, address) ∈ session.mappings)
  gone : ∀ record,
    (.freeVgpuMemory, record) ∈ session.performed ∨
      (.mmUnmapIoSpace, record) ∈ session.performed →
        ∀ address, (record, address) ∉ session.mappings

/-- `CtlMap` maps only a resource that is still in its list and still has no
descriptor. -/
def MapsAsFound (session : ResourceSession) : ResourceAction → Prop
  | .advance thread =>
      match session.threads[thread]? with
      | some (.looked record context _) =>
          (session.records record).bForBuffer = true →
            (session.records record).buffer.share.pMdl = none →
              (session.records record).stateEvent = true →
                record ∈ session.resourceLists context
      | some (.mapWaiting record context _) =>
          (session.records record).stateEvent = true →
            record ∈ session.resourceLists context ∧
              (session.records record).buffer.share.pMdl = none
      | _ => True
  | _ => True

/-- No step acts on a resource or context that has changed since the lookup
of the thread. -/
def ActsAsFound (session : ResourceSession) (action : ResourceAction) :
    Prop :=
  session.RemovesListed action ∧ session.MapsAsFound action

private def decidableRemovesListed (session : ResourceSession) :
    (stage : Option ResourceStage) → Decidable
      (match stage with
        | some (.found record context) =>
            ¬session.Locked context →
              record ∈ session.resourceLists context
        | some (.contextFound context) => session.context = some context
        | _ => True)
  | some (.found record context) =>
      inferInstanceAs (Decidable (¬session.Locked context →
        record ∈ session.resourceLists context))
  | some (.contextFound context) =>
      inferInstanceAs (Decidable (session.context = some context))
  | none | some (.waiting _ _) | some (.looked _ _ _)
  | some (.mapWaiting _ _ _) | some (.deleting _ _ _)
  | some (.contextUnlinked _) | some (.destroying _) | some .returned =>
      inferInstanceAs (Decidable True)

instance (session : ResourceSession) :
    (action : ResourceAction) → Decidable (session.RemovesListed action)
  | .advance thread =>
      decidableRemovesListed session session.threads[thread]?
  | .init | .create _ | .signal _ _ | .mapBlob _ _ _ | .wait _ | .map _
  | .close _ | .destroy => inferInstanceAs (Decidable True)

private def decidableMapsAsFound (session : ResourceSession) :
    (stage : Option ResourceStage) → Decidable
      (match stage with
        | some (.looked record context _) =>
            (session.records record).bForBuffer = true →
              (session.records record).buffer.share.pMdl = none →
                (session.records record).stateEvent = true →
                  record ∈ session.resourceLists context
        | some (.mapWaiting record context _) =>
            (session.records record).stateEvent = true →
              record ∈ session.resourceLists context ∧
                (session.records record).buffer.share.pMdl = none
        | _ => True)
  | some (.looked record context _) =>
      inferInstanceAs (Decidable
        ((session.records record).bForBuffer = true →
          (session.records record).buffer.share.pMdl = none →
            (session.records record).stateEvent = true →
              record ∈ session.resourceLists context))
  | some (.mapWaiting record context _) =>
      inferInstanceAs (Decidable
        ((session.records record).stateEvent = true →
          record ∈ session.resourceLists context ∧
            (session.records record).buffer.share.pMdl = none))
  | none | some (.waiting _ _) | some (.found _ _) | some (.deleting _ _ _)
  | some (.contextFound _) | some (.contextUnlinked _)
  | some (.destroying _) | some .returned => inferInstanceAs (Decidable True)

instance (session : ResourceSession) :
    (action : ResourceAction) → Decidable (session.MapsAsFound action)
  | .advance thread =>
      decidableMapsAsFound session session.threads[thread]?
  | .init | .create _ | .signal _ _ | .mapBlob _ _ _ | .wait _ | .map _
  | .close _ | .destroy => inferInstanceAs (Decidable True)

instance (session : ResourceSession) (action : ResourceAction) :
    Decidable (session.ActsAsFound action) :=
  inferInstanceAs (Decidable (_ ∧ _))

variable {before after session : ResourceSession} {action : ResourceAction}

/-- The resource is in a list, or it is removed and its deletion has not
started. -/
def WillBeUnmapped (session : ResourceSession) (record : Nat) : Prop :=
  (∃ context, record ∈ session.resourceLists context) ∨
    ∃ loop, .deleting record (deletionSteps (session.records record)) loop ∈
      session.threads

structure MappingsKept (session : ResourceSession) : Prop where
  linked : Linked session
  bounded : ∀ stage ∈ session.threads, ∀ record context,
    stage.uses = some (record, context) → record < session.allocated
  waits : ∀ record context request,
    .mapWaiting record context request ∈ session.threads →
      (session.records record).bForBuffer = true
  single : (session.mappings.map Prod.fst).Nodup
  mapped : ∀ record address, (record, address) ∈ session.mappings →
    (session.records record).bForBuffer = true ∧
      (session.records record).buffer.share.pMdl.isSome ∧
      (session.records record).buffer.share.userAddress = some address ∧
      record < session.allocated ∧ session.WillBeUnmapped record
  described : ∀ context, ∀ record ∈ session.resourceLists context,
    (session.records record).bForBuffer = true →
      (session.records record).buffer.share.pMdl.isSome →
        ∃ address, (record, address) ∈ session.mappings

theorem deletionSteps_of_buffer {resource : VirglResource}
    (hbuffer : resource.bForBuffer = true) :
    ∃ todo, deletionSteps resource = .deleteUserShareMemory :: todo := by
  unfold deletionSteps
  rw [hbuffer]
  exact ⟨_, rfl⟩

namespace MappingsKept

/-- A mapping of a resource whose deletion has got as far as to give back its
pages would have been removed first. -/
theorem sound (h : MappingsKept session) : MappingsSound session where
  single := h.single
  described := by
    intro context record hrecord hbuffer
    constructor
    · exact h.described context record hrecord hbuffer
    · rintro ⟨address, hmapped⟩
      exact (h.mapped record address hmapped).2.1
  gone := by
    intro record hdone address hmapped
    obtain ⟨step, hstep⟩ : ∃ step, (step, record) ∈ session.performed := by
      rcases hdone with hdone | hdone
      · exact ⟨_, hdone⟩
      · exact ⟨_, hdone⟩
    obtain ⟨hremoved, hsteps⟩ := h.linked.performed step record hstep
    rcases (h.mapped record address hmapped).2.2.2.2 with
      ⟨context, hlisted⟩ | ⟨loop, hthread⟩
    · exact (h.linked.listed record context hlisted).2 hremoved
    · exact (h.linked.deleting record _ loop hthread).2.2 step hsteps hstep

end MappingsKept

theorem createUserShareMemory_cases (mdl : Option Nat)
    (userAddress : Option (Option Nat)) (share : ShareDescriptor) :
    (∃ mapped address, mapped.pMdl.isSome ∧
        mapped.userAddress = some address ∧
        createUserShareMemory mdl userAddress share = (true, mapped)) ∨
      ∃ failed,
        createUserShareMemory mdl userAddress share = (false, failed) := by
  unfold createUserShareMemory
  split
  · exact .inr ⟨_, rfl⟩
  · cases mdl with
    | none => exact .inr ⟨_, rfl⟩
    | some mdl =>
        cases userAddress with
        | none => exact .inr ⟨_, rfl⟩
        | some result =>
            cases result with
            | none => exact .inr ⟨_, rfl⟩
            | some address => exact .inl ⟨_, address, rfl, rfl, rfl⟩

/-- `CtlMap` maps the resource and describes the mapping, or it leaves the
resource without a descriptor. -/
theorem createMapping_cases (record : Nat) (request : MapRequest) :
    (∃ share address, share.pMdl.isSome ∧ share.userAddress = some address ∧
      session.createMapping record request =
        { session.modify record fun resource =>
            { resource with
              buffer := { resource.buffer with share := share } } with
          mappings := (record, address) :: session.mappings }) ∨
      ∃ share, share.pMdl = none ∧
        session.createMapping record request =
          session.modify record fun resource =>
            { resource with
              buffer := { resource.buffer with share := share } } := by
  unfold createMapping
  rcases createUserShareMemory_cases request.mdl request.userAddress
      { (session.records record).buffer.share with
        kernelAddress :=
          (session.records record).buffer.memory.virtualAddress
        size := (session.records record).buffer.size } with
    ⟨share, address, hmdl, haddress, hresult⟩ | ⟨share, hresult⟩
  · refine .inl ⟨share, address, hmdl, haddress, ?_⟩
    dsimp only
    rw [hresult]
    simp only [haddress, if_true]
    rfl
  · refine .inr ⟨{ share with pMdl := none }, rfl, ?_⟩
    dsimp only
    rw [hresult]
    rfl

namespace MappingsKept

theorem updated (h : MappingsKept before) (context : Option Nat)
    (contexts : Nat) (records : Nat → VirglResource)
    (hlinked : Linked { before with
      context := context, contexts := contexts, records := records })
    (hrecords : ∀ record,
      SameRecord (before.records record) (records record)) :
    MappingsKept { before with
      context := context, contexts := contexts, records := records } where
  linked := hlinked
  bounded := h.bounded
  waits := by
    intro record context request hmem
    exact (hrecords record).bForBuffer.trans
      (h.waits record context request hmem)
  single := h.single
  mapped := by
    intro record address hmapped
    obtain ⟨hbuffer, hmdl, haddress, hbelow, hplace⟩ :=
      h.mapped record address hmapped
    have hsame := hrecords record
    refine ⟨hsame.bForBuffer.trans hbuffer, ?_, ?_, hbelow, ?_⟩
    · exact hsame.share ▸ hmdl
    · exact hsame.share ▸ haddress
    · rcases hplace with hlisted | ⟨loop, hthread⟩
      · exact .inl hlisted
      · refine .inr ⟨loop, ?_⟩
        dsimp only
        rw [hsame.deletionSteps]
        exact hthread
  described := by
    intro context record hrecord hbuffer hmdl
    have hsame := hrecords record
    refine h.described context record hrecord
      (hsame.bForBuffer.symm.trans hbuffer) ?_
    exact hsame.share ▸ hmdl

theorem advanced (h : MappingsKept before) {thread : Nat}
    {stage new : ResourceStage} (context : Option Nat)
    (hthread : before.threads[thread]? = some stage)
    (hdone : ∀ record step todo loop,
      stage ≠ .deleting record (step :: todo) loop)
    (hlinked : Linked (({ before with
      context := context } : ResourceSession).move thread new))
    (huses : new.uses = none ∨ new.uses = stage.uses)
    (hwaits : ∀ record context request,
      new = .mapWaiting record context request →
        (before.records record).bForBuffer = true) :
    MappingsKept (({ before with
      context := context } : ResourceSession).move thread new) where
  linked := hlinked
  bounded := by
    refine forall_mem_set h.bounded fun record context hnew => ?_
    rcases huses with hnone | hsame
    · exact absurd (hnone.symm.trans hnew) nofun
    · exact h.bounded stage (List.mem_of_getElem? hthread) record context
        (hsame ▸ hnew)
  waits := by
    intro record context request hmem
    rcases List.mem_or_eq_of_mem_set hmem with hold | heq
    · exact h.waits record context request hold
    · exact hwaits record context request heq.symm
  single := h.single
  mapped := by
    intro record address hmapped
    obtain ⟨hbuffer, hmdl, haddress, hbelow, hplace⟩ :=
      h.mapped record address hmapped
    refine ⟨hbuffer, hmdl, haddress, hbelow, ?_⟩
    rcases hplace with hlisted | ⟨loop, hdeleting⟩
    · exact .inl hlisted
    · have hother : stage ≠ .deleting record
          (deletionSteps (before.records record)) loop := by
        obtain ⟨todo, htodo⟩ := deletionSteps_of_buffer hbuffer
        rw [htodo]
        exact hdone _ _ _ _
      exact .inr ⟨loop, mem_set_of_ne hthread hdeleting hother⟩
  described := h.described

theorem created (h : MappingsKept before) (resource : VirglResource)
    (context : Nat)
    (hshare : resource.bForBuffer = true →
      resource.buffer.share.pMdl = none) :
    MappingsKept { before with
      records := Function.update before.records before.allocated resource
      resourceLists := Function.update before.resourceLists context
        (before.allocated :: before.resourceLists context)
      allocated := before.allocated + 1 } := by
  have hold : ∀ record < before.allocated,
      Function.update before.records before.allocated resource record =
        before.records record :=
    fun record hbelow => Function.update_of_ne hbelow.ne _ _
  have hgrows : ∀ record other, record ∈ before.resourceLists other →
      record ∈ Function.update before.resourceLists context
        (before.allocated :: before.resourceLists context) other := by
    intro record other hrecord
    rw [Function.update_apply]
    split
    · rename_i heq
      subst heq
      exact List.mem_cons_of_mem _ hrecord
    · exact hrecord
  refine ⟨h.linked.created resource context, ?_, ?_, h.single, ?_, ?_⟩
  · exact fun stage hstage record other huses =>
      Nat.lt_succ_of_lt (h.bounded stage hstage record other huses)
  · intro record other request hmem
    have hbelow := h.bounded _ hmem record other rfl
    exact (congrArg _ (hold record hbelow)).trans
      (h.waits record other request hmem)
  · intro record address hmapped
    obtain ⟨hbuffer, hmdl, haddress, hbelow, hplace⟩ :=
      h.mapped record address hmapped
    unfold WillBeUnmapped
    dsimp only
    rw [hold record hbelow]
    refine ⟨hbuffer, hmdl, haddress, Nat.lt_succ_of_lt hbelow, ?_⟩
    rcases hplace with ⟨other, hlisted⟩ | hdeleting
    · exact .inl ⟨other, hgrows record other hlisted⟩
    · exact .inr hdeleting
  · intro other record hrecord hbuffer hmdl
    by_cases hnew : record = before.allocated
    · subst hnew
      dsimp only at hbuffer hmdl
      rw [Function.update_self] at hbuffer hmdl
      rw [hshare hbuffer] at hmdl
      exact absurd hmdl nofun
    · have hlisted : record ∈ before.resourceLists other := by
        dsimp only at hrecord
        rw [Function.update_apply] at hrecord
        split at hrecord
        · rename_i heq
          subst heq
          exact (List.mem_cons.mp hrecord).resolve_left hnew
        · exact hrecord
      have hbelow := (h.linked.listed record other hlisted).1
      dsimp only at hbuffer hmdl
      rw [hold record hbelow] at hbuffer hmdl
      exact h.described other record hlisted hbuffer hmdl

theorem mappedRecord (h : MappingsKept before)
    {thread record context : Nat} {stage : ResourceStage}
    {request : MapRequest}
    (hthread : before.threads[thread]? = some stage)
    (huses : stage.uses = some (record, context))
    (hlinked : Linked
      ((before.createMapping record request).move thread .returned))
    (hbuffer : (before.records record).bForBuffer = true)
    (hlisted : record ∈ before.resourceLists context)
    (hmdl : (before.records record).buffer.share.pMdl = none) :
    MappingsKept
      ((before.createMapping record request).move thread .returned) := by
  have hunmapped : ∀ address, (record, address) ∉ before.mappings := by
    intro address hmapped
    have hsome := (h.mapped record address hmapped).2.1
    rw [hmdl] at hsome
    exact absurd hsome nofun
  have hdone : ∀ other todo loop, stage ≠ .deleting other todo loop := by
    rintro other todo loop rfl
    exact absurd huses nofun
  -- what is kept whatever `CtlMap` writes into the descriptor
  have hkept : ∀ (share : ShareDescriptor) (mappings : List (Nat × Nat))
      (other address : Nat), other ≠ record →
      (other, address) ∈ before.mappings →
      let records := Function.update before.records record
        { before.records record with
          buffer := { (before.records record).buffer with share := share } }
      (records other).bForBuffer = true ∧
        (records other).buffer.share.pMdl.isSome ∧
        (records other).buffer.share.userAddress = some address ∧
        other < before.allocated ∧
        WillBeUnmapped { before with
          records := records
          mappings := mappings
          threads := before.threads.set thread .returned } other := by
    intro share mappings other address hne hmapped
    obtain ⟨hbuffer', hmdl', haddress', hbelow', hplace⟩ :=
      h.mapped other address hmapped
    dsimp only
    unfold WillBeUnmapped
    dsimp only
    rw [Function.update_of_ne hne]
    refine ⟨hbuffer', hmdl', haddress', hbelow', ?_⟩
    rcases hplace with hlisted' | ⟨loop, hdeleting⟩
    · exact .inl hlisted'
    · exact .inr ⟨loop, mem_set_of_ne hthread hdeleting (hdone _ _ _)⟩
  have hbounded : ∀ other ∈ before.threads.set thread .returned,
      ∀ record context, other.uses = some (record, context) →
        record < before.allocated :=
    forall_mem_set h.bounded nofun
  have hwaits : ∀ (share : ShareDescriptor) (other home : Nat)
      (request : MapRequest),
      .mapWaiting other home request ∈
        before.threads.set thread .returned →
      (Function.update before.records record
        { before.records record with
          buffer := { (before.records record).buffer with share := share } }
        other).bForBuffer = true := by
    intro share other home request hmem
    rw [Function.update_apply]
    split
    · exact hbuffer
    · rcases List.mem_or_eq_of_mem_set hmem with hold | heq
      · exact h.waits other home request hold
      · exact absurd heq nofun
  rcases @createMapping_cases before record request with
    ⟨share, address, hnewMdl, haddress, heq⟩ | ⟨share, hnewMdl, heq⟩
  · rw [heq] at hlinked ⊢
    refine ⟨hlinked, hbounded, hwaits share, ?_, ?_, ?_⟩
    · refine List.nodup_cons.mpr ⟨fun hmem => ?_, h.single⟩
      obtain ⟨⟨_, other⟩, hother, rfl⟩ := List.mem_map.mp hmem
      exact hunmapped other hother
    · intro other address' hmapped
      by_cases hsame : other = record
      · subst hsame
        rcases List.mem_cons.mp hmapped with hpair | hold
        · obtain ⟨_, rfl⟩ := Prod.mk.inj hpair
          have hbelow := (h.linked.listed other context hlisted).1
          refine ⟨?_, ?_, ?_, hbelow, .inl ⟨context, hlisted⟩⟩
          · change (Function.update before.records other _ other).bForBuffer =
              true
            rw [Function.update_self]
            exact hbuffer
          · change (Function.update before.records other _
              other).buffer.share.pMdl.isSome
            rw [Function.update_self]
            exact hnewMdl
          · change (Function.update before.records other _
              other).buffer.share.userAddress = _
            rw [Function.update_self]
            exact haddress
        · exact absurd hold (hunmapped address')
      · have hold : (other, address') ∈ before.mappings := by
          rcases List.mem_cons.mp hmapped with hpair | hold
          · exact absurd (Prod.mk.inj hpair).1 hsame
          · exact hold
        exact hkept share _ other address' hsame hold
    · intro home other hother hbuffer' hmdl'
      by_cases hsame : other = record
      · subst hsame
        exact ⟨address, List.mem_cons_self⟩
      · change (Function.update before.records record _ other).bForBuffer =
          true at hbuffer'
        change (Function.update before.records record _
          other).buffer.share.pMdl.isSome at hmdl'
        rw [Function.update_of_ne hsame] at hbuffer' hmdl'
        obtain ⟨old, hold⟩ := h.described home other hother hbuffer' hmdl'
        exact ⟨old, List.mem_cons_of_mem _ hold⟩
  · rw [heq] at hlinked ⊢
    refine ⟨hlinked, hbounded, hwaits share, h.single, ?_, ?_⟩
    · intro other address hmapped
      have hne : other ≠ record := by
        rintro rfl
        exact hunmapped address hmapped
      exact hkept share _ other address hne hmapped
    · intro home other hother hbuffer' hmdl'
      change (Function.update before.records record _ other).bForBuffer =
        true at hbuffer'
      change (Function.update before.records record _
        other).buffer.share.pMdl.isSome at hmdl'
      by_cases hsame : other = record
      · subst hsame
        rw [Function.update_self] at hmdl'
        dsimp only at hmdl'
        rw [hnewMdl] at hmdl'
        exact absurd hmdl' nofun
      · rw [Function.update_of_ne hsame] at hbuffer' hmdl'
        exact h.described home other hother hbuffer' hmdl'

theorem unlinked (h : MappingsKept before) {thread record context : Nat}
    {rest : List Nat} {stage : ResourceStage} {loop : Option Nat}
    (hthread : before.threads[thread]? = some stage)
    (hremoves : stage.removes = none)
    (hrest : (before.resourceLists context).Perm (record :: rest)) :
    MappingsKept ((before.unlink record context rest).move thread
      (.deleting record (deletionSteps (before.records record)) loop)) := by
  refine ⟨h.linked.unlinked hrest, forall_mem_set h.bounded nofun, ?_,
    h.single, ?_, ?_⟩
  · intro other home request hmem
    rcases List.mem_or_eq_of_mem_set hmem with hold | heq
    · exact h.waits other home request hold
    · exact absurd heq nofun
  · intro other address hmapped
    obtain ⟨hbuffer, hmdl, haddress, hbelow, hplace⟩ :=
      h.mapped other address hmapped
    refine ⟨hbuffer, hmdl, haddress, hbelow, ?_⟩
    by_cases hsame : other = record
    · subst hsame
      exact .inr ⟨loop, List.mem_of_getElem? (getElem?_set_moved hthread)⟩
    · rcases hplace with ⟨home, hlisted⟩ | ⟨loop', hdeleting⟩
      · refine .inl ⟨home, ?_⟩
        change other ∈ Function.update before.resourceLists context rest home
        rw [Function.update_apply]
        split
        · rename_i heq
          subst heq
          exact (List.mem_cons.mp (hrest.mem_iff.mp hlisted)).resolve_left
            hsame
        · exact hlisted
      · refine .inr ⟨loop', mem_set_of_ne hthread hdeleting ?_⟩
        rintro rfl
        exact absurd hremoves nofun
  · intro home other hother hbuffer hmdl
    refine h.described home other ?_ hbuffer hmdl
    change other ∈ Function.update before.resourceLists context rest
      home at hother
    rw [Function.update_apply] at hother
    split at hother
    · rename_i heq
      subst heq
      exact hrest.mem_iff.mpr (List.mem_cons_of_mem _ hother)
    · exact hother

theorem unmap_mappings (h : MappingsKept before) {record address : Nat}
    (hmapped : (record, address) ∈ (before.unmap record).mappings) :
    False := by
  have hmem : (record, address) ∈ before.mappings := by
    unfold unmap at hmapped
    dsimp only at hmapped
    split at hmapped
    · exact List.mem_of_mem_erase hmapped
    · exact hmapped
  obtain ⟨_, hmdl, haddress, _⟩ := h.mapped record address hmem
  obtain ⟨mdl, hmdl⟩ := Option.isSome_iff_exists.mp hmdl
  unfold unmap at hmapped
  simp only [haddress, hmdl] at hmapped
  have hnodup : before.mappings.Nodup := List.Nodup.of_map _ h.single
  exact (List.Nodup.mem_erase_iff hnodup).mp hmapped |>.1 rfl

theorem unmap_sublist (record : Nat) :
    (session.unmap record).mappings.Sublist session.mappings ∧
      ∀ other address, other ≠ record →
        (other, address) ∈ session.mappings →
          (other, address) ∈ (session.unmap record).mappings := by
  unfold unmap
  dsimp only
  split
  · rename_i found _ _ _
    refine ⟨List.erase_sublist, fun other address hne hmem => ?_⟩
    refine (List.mem_erase_of_ne fun heq => ?_).mpr hmem
    exact hne (Prod.mk.inj heq).1
  · exact ⟨List.Sublist.refl _, fun _ _ _ hmem => hmem⟩

theorem perform_mappings (h : MappingsKept before) {thread record : Nat}
    {step : DeletionStep} {todo : List DeletionStep} {loop : Option Nat}
    (hthread : before.threads[thread]? =
      some (.deleting record (step :: todo) loop)) :
    ∃ mappings, before.perform step record =
        { before with
          performed := (step, record) :: before.performed
          mappings := mappings } ∧
      mappings.Sublist before.mappings ∧
      (∀ address, (record, address) ∉ mappings) ∧
      ∀ other address, other ≠ record →
        (other, address) ∈ before.mappings →
          (other, address) ∈ mappings := by
  by_cases hfirst : step = .deleteUserShareMemory
  · subst hfirst
    refine ⟨(before.unmap record).mappings, ?_, (unmap_sublist record).1,
      fun address hmapped => h.unmap_mappings hmapped,
      (unmap_sublist record).2⟩
    unfold perform unmap
    dsimp only
    split
    · rfl
    · rfl
  · refine ⟨before.mappings, ?_, List.Sublist.refl _, ?_,
      fun _ _ _ hmem => hmem⟩
    · unfold perform
      cases step with
      | deleteUserShareMemory => exact absurd rfl hfirst
      | _ => rfl
    · intro address hmapped
      obtain ⟨hbuffer, _, _, _, hplace⟩ := h.mapped record address hmapped
      have hremoved := (h.linked.deleting record _ loop
        (List.mem_of_getElem? hthread)).1
      rcases hplace with ⟨home, hlisted⟩ | ⟨loop', hdeleting⟩
      · exact (h.linked.listed record home hlisted).2 hremoved
      · -- no other thread deletes the resource, and this one is past the start
        obtain ⟨slot, hslot⟩ := List.mem_iff_getElem?.mp hdeleting
        obtain rfl := h.linked.alone _ _ _ _ record hslot hthread rfl rfl
        obtain ⟨_, hsteps, _⟩ := ResourceStage.deleting.inj
          (Option.some.inj (hslot.symm.trans hthread))
        obtain ⟨rest, hfull⟩ := deletionSteps_of_buffer hbuffer
        rw [hfull] at hsteps
        exact hfirst (List.cons.inj hsteps).1.symm

theorem performs (h : MappingsKept before) {thread record : Nat}
    {step : DeletionStep} {todo : List DeletionStep} {loop : Option Nat}
    (hthread : before.threads[thread]? =
      some (.deleting record (step :: todo) loop)) :
    MappingsKept ((before.perform step record).move thread
      (.deleting record todo loop)) := by
  have hlinked := h.linked.performs hthread
  obtain ⟨mappings, heq, hsublist, hgone, hkept⟩ := h.perform_mappings hthread
  rw [heq] at hlinked ⊢
  refine ⟨hlinked, forall_mem_set h.bounded nofun, ?_,
    h.single.sublist (hsublist.map _), ?_, ?_⟩
  · intro other home request hmem
    rcases List.mem_or_eq_of_mem_set hmem with hold | heq
    · exact h.waits other home request hold
    · exact absurd heq nofun
  · intro other address hmapped
    obtain ⟨hbuffer, hmdl, haddress, hbelow, hplace⟩ :=
      h.mapped other address (hsublist.subset hmapped)
    refine ⟨hbuffer, hmdl, haddress, hbelow, ?_⟩
    rcases hplace with hlisted | ⟨loop', hdeleting⟩
    · exact .inl hlisted
    · refine .inr ⟨loop', mem_set_of_ne hthread hdeleting fun heq => ?_⟩
      obtain ⟨rfl, _, _⟩ := ResourceStage.deleting.inj heq
      exact hgone address hmapped
  · intro home other hother hbuffer hmdl
    obtain ⟨address, hmapped⟩ := h.described home other hother hbuffer hmdl
    refine ⟨address, hkept other address ?_ hmapped⟩
    rintro rfl
    have hremoved := (h.linked.deleting other _ loop
      (List.mem_of_getElem? hthread)).1
    exact (h.linked.listed other home hother).2 hremoved

theorem step (h : MappingsKept before) (hfound : before.ActsAsFound action) :
    MappingsKept (before.step action) := by
  obtain ⟨hlisted, hmaps⟩ := hfound
  have hmoves := step_moves hlisted
  have hlinked := h.linked.step hmoves
  generalize before.step action = after at hmoves hlinked
  cases hmoves with
  | updates _ context contexts records hrecords =>
      exact h.updated context contexts records hlinked hrecords
  | creates _ resource context hshare =>
      exact h.created resource context hshare
  | calls _ stage hremoves huses hwaits =>
      refine ⟨hlinked, ?_, ?_, h.single, ?_, h.described⟩
      · refine forall_mem_start h.bounded fun record context hnew => ?_
        exact (h.linked.listed record context (huses record context hnew)).1
      · intro record context request hmem
        rcases List.mem_append.mp hmem with hold | hlast
        · exact h.waits record context request hold
        · exact absurd (List.mem_singleton.mp hlast).symm
            (hwaits record context request)
      · intro record address hmapped
        obtain ⟨hbuffer, hmdl, haddress, hbelow, hplace⟩ :=
          h.mapped record address hmapped
        refine ⟨hbuffer, hmdl, haddress, hbelow, ?_⟩
        rcases hplace with hlisted | ⟨loop, hdeleting⟩
        · exact .inl hlisted
        · exact .inr ⟨loop, List.mem_append_left _ hdeleting⟩
  | advances thread stage new context hthread hdone hremoves huses hwaits =>
      exact h.advanced context hthread hdone hlinked huses hwaits
  | maps thread record context request stage hthread hstage hevent =>
      unfold MapsAsFound at hmaps
      simp only [hthread] at hmaps
      rcases hstage with ⟨rfl, hbuffer, hmdl⟩ | rfl
      · exact h.mappedRecord hthread rfl hlinked hbuffer
          (hmaps hbuffer hmdl hevent) hmdl
      · obtain ⟨hmem, hmdl⟩ := hmaps hevent
        exact h.mappedRecord hthread rfl hlinked
          (h.waits record context request (List.mem_of_getElem? hthread)) hmem
          hmdl
  | removes thread record context rest stage loop hthread hstage hrest =>
      refine h.unlinked hthread ?_ hrest
      rcases hstage with ⟨rfl, _⟩ | ⟨rfl, _⟩
      · rfl
      · rfl
  | performs thread record step todo loop hthread => exact h.performs hthread

end MappingsKept

end ResourceSession

/-- No user mapping outlives its resource in any state of a run that removes
and maps resources only as they were found. -/
theorem mappings_sound (records : Nat → VirglResource)
    (actions : List ResourceAction)
    (hfound : Along ResourceSession.step ResourceSession.ActsAsFound
      (.start records) actions) :
    (runFrom ResourceSession.step (.start records)
      actions).MappingsSound := by
  have hstart : ResourceSession.MappingsKept (.start records) :=
    ⟨ResourceSession.start_linked records,
      fun _ hmem => absurd hmem List.not_mem_nil,
      fun _ _ _ hmem => absurd hmem List.not_mem_nil, .nil,
      fun _ _ hmem => absurd hmem List.not_mem_nil,
      fun _ _ hmem => absurd hmem List.not_mem_nil⟩
  exact (hfound.invariant (fun _ _ h hstep => h.step hstep) hstart).sound

/-- Two maps of one resource, one of them through a wait, a close behind
them and a destruction. -/
def oneMappingRun : List ResourceAction :=
  [.init, .create (bufferRecord 1 false), .create (bufferRecord 2 true),
   mapTo 1 0x7000, .advance 0, mapTo 2 0x8000, .advance 1, mapTo 2 0x9000,
   .advance 2, .signal 0 true, .advance 0, closeOf 1, .advance 3, .advance 3,
   .destroy, .advance 4, .advance 3, .advance 4, .advance 3, .advance 4,
   .advance 4, .advance 4, .advance 4]

theorem mappings_sound_oneMappingRun :
    (runFrom ResourceSession.step (.start fun _ => IoRequest.poolRecord)
      oneMappingRun).MappingsSound :=
  mappings_sound _ _ (by decide +kernel)

/-- A resource is closed between the lookup of `CtlMap` and its mapping. -/
def closedInMapRun : List ResourceAction :=
  [.init, .create (bufferRecord 1 true), mapTo 1 0x7000, closeOf 1,
   .advance 1, .advance 1, .advance 1, .advance 1, .advance 0]

theorem not_mappingsSound_closedInMapRun :
    ¬(runFrom ResourceSession.step (.start fun _ => IoRequest.poolRecord)
      closedInMapRun).MappingsSound := by
  intro h
  exact h.gone 0 (.inl (by decide +kernel)) 0x7000 (by decide +kernel)

end VgpuDriver
