import VgpuDriver.FenceThreads
import VgpuDriver.System

namespace VgpuDriver

open Data

/-! Fence ids enter the queue in order and mark their resources busy, as long
as the submissions are pushed in the order in which they drew their ids. -/

/-- The fence id of a submission that is not pushed yet. -/
def FenceStage.pending : FenceStage → Option UInt64
  | .drawn _ fenceId _ _ => some fenceId
  | .marked submission _ => some submission.fenceId
  | _ => none

def FenceStage.marking : FenceStage → Option Submission
  | .marked submission _ => some submission
  | _ => none

namespace FenceSession

variable (session : FenceSession)

def findResource (contextId id : UInt32) : Option VirglResource :=
  (getVirglContextFromListUnsafe session.virglContextList contextId).bind
    fun context => getResourceFromListUnsafe context id

/-- The submission has marked its resources and is not completed. -/
def Uncompleted (submission : Submission) : Prop :=
  Claimed FenceStage.marking session.threads submission ∨
    submission ∈ session.inFlight

/-- The fence ids in the queue increase, and what an uncompleted submission
has marked is busy. -/
structure FencesOrdered : Prop where
  increasing : session.pushed.Pairwise fun newer older => older < newer
  busy : ∀ submission, session.Uncompleted submission →
    ∀ id ∈ submission.marked,
      ∀ resource ∈ session.findResource submission.contextId id,
        resource.stateEvent = false

/-- No submission that drew a smaller id is still to be pushed, and a
completion overtakes no older submission that marked one of its resources; the
counter of the ids does not wrap. -/
def InDrawOrder (addBuf : Nat → Bool) : FenceAction → Prop
  | .advance thread =>
      match session.threads[thread]? with
      | some (.started _ _ _) => session.fenceIds.id + 1 < 2 ^ 64
      | some (.marked submission copies) =>
          copies = true → addBuf session.pushCount = true →
            ∀ fenceId ∈ session.threads.filterMap FenceStage.pending,
              submission.fenceId ≤ fenceId
      | _ => True
  | .complete slot =>
      match session.inFlight[slot]? with
      | none => True
      | some submission =>
          ∀ other ∈ session.inFlight, other.fenceId < submission.fenceId →
            other.contextId = submission.contextId →
              ∀ id ∈ other.marked, id ∉ submission.copied
  | _ => True

instance (addBuf : Nat → Bool) (action : FenceAction) :
    Decidable (session.InDrawOrder addBuf action) := by
  unfold InDrawOrder
  split
  · split
    · infer_instance
    · rename_i submission copies _
      -- the list is searched, not the type of its entries
      have : Decidable (∀ fenceId ∈ session.threads.filterMap
          FenceStage.pending, submission.fenceId ≤ fenceId) :=
        List.decidableBAll _ _
      infer_instance
    · infer_instance
  · split
    · infer_instance
    · rename_i submission _
      have : ∀ other : Submission, Decidable
          (∀ id ∈ other.marked, id ∉ submission.copied) :=
        fun _ => List.decidableBAll _ _
      infer_instance
  · infer_instance

variable {session} {before after : FenceSession} {addBuf : Nat → Bool}
variable {action : FenceAction}

/-- An update changes what a lookup finds if the lookup is one of its own. -/
theorem findResource_update (contextId : UInt32) (resourceIds : List UInt32)
    (busy : Bool) (fenceId : UInt64) (wanted id : UInt32) :
    (session.update contextId resourceIds busy fenceId).findResource wanted
        id =
      if wanted = contextId ∧ id ∈ resourceIds then
        (session.findResource wanted id).map
          (VirglResource.updateState busy fenceId)
      else session.findResource wanted id := by
  have hcontext : getVirglContextFromListUnsafe
      (session.update contextId resourceIds busy fenceId).virglContextList
        wanted =
      if wanted = contextId then
        (getVirglContextFromListUnsafe session.virglContextList wanted).map
          (updateResourceState resourceIds busy fenceId)
      else getVirglContextFromListUnsafe session.virglContextList wanted :=
    find?_modifyFirst_key (fun context => updateResourceState_id _ _ _ context)
      contextId wanted
  unfold findResource
  rw [hcontext]
  by_cases hsame : wanted = contextId
  · rw [if_pos hsame]
    cases getVirglContextFromListUnsafe session.virglContextList wanted with
    | none => simp
    | some context =>
        rw [Option.map_some, Option.bind_some, Option.bind_some,
          getResourceFromListUnsafe_updateResourceState]
        by_cases hid : id ∈ resourceIds
        · rw [if_pos hid, if_pos ⟨hsame, hid⟩]
        · rw [if_neg hid, if_neg fun h => hid h.2]
  · rw [if_neg hsame, if_neg fun h => hsame h.1]

theorem findResource_of_update {contextId : UInt32}
    {resourceIds : List UInt32} {busy : Bool} {fenceId : UInt64}
    {wanted id : UInt32} {resource : VirglResource}
    (hfound : (session.update contextId resourceIds busy
      fenceId).findResource wanted id = some resource) :
    ∃ old, session.findResource wanted id = some old ∧
      (resource = old ∧ ¬(wanted = contextId ∧ id ∈ resourceIds) ∨
        resource = old.updateState busy fenceId ∧ wanted = contextId ∧
          id ∈ resourceIds) := by
  rw [findResource_update] at hfound
  split at hfound
  · rename_i hlisted
    obtain ⟨old, hold, rfl⟩ := Option.map_eq_some_iff.mp hfound
    exact ⟨old, hold, .inr ⟨rfl, hlisted⟩⟩
  · rename_i hlisted
    exact ⟨resource, hfound, .inl ⟨rfl, hlisted⟩⟩

/-- How the ids drawn, the ids pushed and the resources hang together. -/
structure FencesKept (session : FenceSession) : Prop where
  bounded : session.fenceIds.id < 2 ^ 64
  positive : 0 < session.fenceIds.id
  recorded : ∀ contextId id,
    ∀ resource ∈ session.findResource contextId id,
      resource.fenceId.toNat < session.fenceIds.id
  drawn : ∀ fenceId, Claimed FenceStage.pending session.threads fenceId →
    0 < fenceId.toNat ∧ fenceId.toNat < session.fenceIds.id
  alone : Alone FenceStage.pending session.threads
  flying : ∀ submission ∈ session.inFlight,
    submission.fenceId ∈ session.pushed
  distinct : (session.inFlight.map Submission.fenceId).Nodup
  behind : ∀ older ∈ session.pushed,
    0 < older.toNat ∧ older.toNat < session.fenceIds.id ∧
      ∀ fenceId, Claimed FenceStage.pending session.threads fenceId →
        older < fenceId
  increasing : session.pushed.Pairwise fun newer older => older < newer
  -- an update that a pending submission cannot overwrite was a mark
  ahead : ∀ fenceId, Claimed FenceStage.pending session.threads fenceId →
    ∀ contextId id, ∀ resource ∈ session.findResource contextId id,
      fenceId < resource.fenceId → resource.stateEvent = false
  marked : ∀ submission, session.Uncompleted submission →
    ∀ id ∈ submission.marked,
      ∀ resource ∈ session.findResource submission.contextId id,
        resource.stateEvent = false ∧
          submission.fenceId ≤ resource.fenceId

theorem FencesKept.ordered (h : FencesKept session) :
    FencesOrdered session where
  increasing := h.increasing
  busy := fun submission huncompleted id hid resource hresource =>
    (h.marked submission huncompleted id hid resource hresource).1

namespace FencesKept

theorem fewer (h : FencesKept before)
    (hcontexts : after.virglContextList = before.virglContextList)
    (hids : after.fenceIds = before.fenceIds)
    (hflight : after.inFlight = before.inFlight)
    (hpushed : after.pushed = before.pushed)
    (halone : Alone FenceStage.pending after.threads)
    (hpending : ∀ fenceId,
      Claimed FenceStage.pending after.threads fenceId →
        Claimed FenceStage.pending before.threads fenceId)
    (hmarking : ∀ submission,
      Claimed FenceStage.marking after.threads submission →
        Claimed FenceStage.marking before.threads submission ∨
          submission.marked = []) : FencesKept after := by
  have hfound : ∀ contextId id, after.findResource contextId id =
      before.findResource contextId id := by
    intro contextId id
    unfold findResource
    rw [hcontexts]
  refine ⟨hids ▸ h.bounded, hids ▸ h.positive, ?_, ?_, halone, ?_, ?_, ?_,
    hpushed ▸ h.increasing, ?_, ?_⟩
  · intro contextId id resource hresource
    rw [hfound] at hresource
    rw [hids]
    exact h.recorded contextId id resource hresource
  · intro fenceId hclaim
    rw [hids]
    exact h.drawn fenceId (hpending fenceId hclaim)
  · rw [hflight, hpushed]
    exact h.flying
  · rw [hflight]
    exact h.distinct
  · intro older holder
    rw [hpushed] at holder
    obtain ⟨hpositive, hbelow, hbehind⟩ := h.behind older holder
    rw [hids]
    exact ⟨hpositive, hbelow, fun fenceId hclaim =>
      hbehind fenceId (hpending fenceId hclaim)⟩
  · intro fenceId hclaim contextId id resource hresource
    rw [hfound] at hresource
    exact h.ahead fenceId (hpending fenceId hclaim) contextId id resource
      hresource
  · intro submission huncompleted id hid resource hresource
    rw [hfound] at hresource
    refine h.marked submission ?_ id hid resource hresource
    rcases huncompleted with hclaim | hflying
    · rcases hmarking submission hclaim with hold | hnone
      · exact .inl hold
      · rw [hnone] at hid
        exact absurd hid List.not_mem_nil
    · exact .inr (hflight ▸ hflying)

theorem returned (h : FencesKept before) {thread : Nat} {stage : FenceStage}
    (hthread : before.threads[thread]? = some stage) (pushCount : Nat) :
    FencesKept (({ before with
      pushCount := pushCount } : FenceSession).move thread .returned) := by
  refine h.fewer rfl rfl rfl rfl (h.alone.set hthread (.inl rfl)) ?_ ?_
  · exact fun fenceId hclaim => hclaim.of_set.resolve_left nofun
  · exact fun submission hclaim => .inl (hclaim.of_set.resolve_left nofun)

theorem draws (h : FencesKept before) {thread : Nat} {contextId : UInt32}
    {cmd : DrmVirtgpuExecbuffer} {request : ExecbufferRequest}
    (hwrap : before.fenceIds.id + 1 < 2 ^ 64) :
    let drawn := getIdFromIdrWithoutCache 8 before.fenceIds
    FencesKept (({ before with fenceIds := drawn.2 } : FenceSession).move
      thread (.drawn contextId (UInt64.ofNat drawn.1) cmd request)) := by
  intro drawn
  have hnext : drawn.2.id = before.fenceIds.id + 1 := Nat.mod_eq_of_lt hwrap
  have hdrawn : (UInt64.ofNat drawn.1).toNat = before.fenceIds.id := by
    have hlow : drawn.1 = before.fenceIds.id := Nat.mod_eq_of_lt h.bounded
    rw [hlow]
    exact Nat.mod_eq_of_lt h.bounded
  have hpending : ∀ fenceId, Claimed FenceStage.pending
      (before.threads.set thread
        (.drawn contextId (UInt64.ofNat drawn.1) cmd request)) fenceId →
      fenceId = UInt64.ofNat drawn.1 ∨
        Claimed FenceStage.pending before.threads fenceId := by
    intro fenceId hclaim
    exact hclaim.of_set.imp_left fun heq => (Option.some.inj heq).symm
  refine ⟨?_, ?_, ?_, ?_, ?_, h.flying, h.distinct, ?_, h.increasing, ?_, ?_⟩
  · exact hnext ▸ hwrap
  · exact hnext ▸ Nat.succ_pos _
  · intro wanted id resource hresource
    have hbelow := h.recorded wanted id resource hresource
    exact hnext ▸ Nat.lt_succ_of_lt hbelow
  · intro fenceId hclaim
    change 0 < fenceId.toNat ∧ fenceId.toNat < drawn.2.id
    rw [hnext]
    rcases hpending fenceId hclaim with rfl | hold
    · rw [hdrawn]
      exact ⟨h.positive, Nat.lt_succ_self _⟩
    · obtain ⟨hpositive, hbelow⟩ := h.drawn fenceId hold
      exact ⟨hpositive, Nat.lt_succ_of_lt hbelow⟩
  · refine h.alone.set_fresh fun fenceId heq hclaim => ?_
    obtain rfl := Option.some.inj heq
    have hbelow := (h.drawn _ hclaim).2
    omega
  · intro older holder
    obtain ⟨hpositive, hbelow, hbehind⟩ := h.behind older holder
    refine ⟨hpositive, ?_, fun fenceId hclaim => ?_⟩
    · exact hnext ▸ Nat.lt_succ_of_lt hbelow
    · rcases hpending fenceId hclaim with rfl | hold
      · rw [UInt64.lt_iff_toNat_lt, hdrawn]
        exact hbelow
      · exact hbehind fenceId hold
  · intro fenceId hclaim wanted id resource hresource hless
    rcases hpending fenceId hclaim with rfl | hold
    · have hbelow := h.recorded wanted id resource hresource
      rw [UInt64.lt_iff_toNat_lt, hdrawn] at hless
      omega
    · exact h.ahead fenceId hold wanted id resource hresource hless
  · intro submission huncompleted
    refine h.marked submission ?_
    rcases huncompleted with hclaim | hflying
    · exact .inl (hclaim.of_set.resolve_left nofun)
    · exact .inr hflying

/-- A mark sets the resource busy, or it finds one that a later submission
has set busy. -/
theorem busy_of_mark (h : FencesKept before) {fenceId : UInt64}
    (hclaim : Claimed FenceStage.pending before.threads fenceId)
    {contextId id : UInt32} {resource : VirglResource}
    (hresource : resource ∈ before.findResource contextId id) :
    (resource.updateState true fenceId).stateEvent = false ∧
      fenceId ≤ (resource.updateState true fenceId).fenceId := by
  have hpositive := (h.drawn fenceId hclaim).1
  have hfenced : fenceId ≠ 0 := by
    rintro rfl
    exact Nat.lt_irrefl _ hpositive
  by_cases haccepts : resource.fenceId ≤ fenceId
  · have heq : resource.updateState true fenceId =
        { resource with fenceId := fenceId, stateEvent := false } := by
      simp [VirglResource.updateState, hfenced, haccepts]
    rw [heq]
    exact ⟨rfl, UInt64.le_refl _⟩
  · have hrefused : ¬resource.Accepts fenceId := by
      rintro (hzero | hle)
      · exact hfenced hzero
      · exact haccepts hle
    have hless : fenceId < resource.fenceId := UInt64.not_le.mp haccepts
    rw [VirglResource.updateState_of_not_accepts hrefused]
    exact ⟨h.ahead fenceId hclaim contextId id resource hresource hless,
      UInt64.le_of_lt hless⟩

/-- The fence number behind an update with a fence that has been drawn. -/
theorem updateState_fenceId_lt {resource : VirglResource} {busy : Bool}
    {fenceId : UInt64} {bound : Nat} (hold : resource.fenceId.toNat < bound)
    (hfence : fenceId.toNat < bound) :
    (resource.updateState busy fenceId).fenceId.toNat < bound := by
  unfold VirglResource.updateState
  split
  · exact hold
  · split
    · exact hfence
    · exact hold

theorem marks (h : FencesKept before) {thread : Nat} {contextId : UInt32}
    {fenceId : UInt64} {cmd : DrmVirtgpuExecbuffer}
    {request : ExecbufferRequest} {marked copied : List UInt32}
    {copies : Bool}
    (hthread : before.threads[thread]? =
      some (.drawn contextId fenceId cmd request)) :
    FencesKept ((before.update contextId marked true fenceId).move thread
      (.marked
        { contextId := contextId
          fenceId := fenceId
          marked := marked
          copied := copied }
        copies)) := by
  have hclaimed : Claimed FenceStage.pending before.threads fenceId :=
    .of_thread hthread rfl
  have hdrawn := h.drawn fenceId hclaimed
  have hpending : ∀ other, Claimed FenceStage.pending
      (before.threads.set thread (.marked ⟨contextId, fenceId, marked,
        copied⟩ copies)) other →
      Claimed FenceStage.pending before.threads other := by
    intro other hclaim
    rcases hclaim.of_set with heq | hold
    · obtain rfl := Option.some.inj heq
      exact hclaimed
    · exact hold
  refine ⟨h.bounded, h.positive, ?_, fun other hclaim =>
    h.drawn other (hpending other hclaim), h.alone.set hthread (.inr rfl),
    h.flying, h.distinct, ?_, h.increasing, ?_, ?_⟩
  · intro wanted id resource hresource
    obtain ⟨old, hold, ⟨rfl, _⟩ | ⟨rfl, _⟩⟩ :=
      findResource_of_update hresource
    · exact h.recorded wanted id resource hold
    · exact updateState_fenceId_lt (h.recorded wanted id old hold) hdrawn.2
  · intro older holder
    obtain ⟨hpositive, hbelow, hbehind⟩ := h.behind older holder
    exact ⟨hpositive, hbelow, fun other hclaim =>
      hbehind other (hpending other hclaim)⟩
  · intro other hclaim wanted id resource hresource hless
    obtain ⟨old, hold, ⟨rfl, _⟩ | ⟨rfl, _⟩⟩ :=
      findResource_of_update hresource
    · exact h.ahead other (hpending other hclaim) wanted id resource hold hless
    · exact (h.busy_of_mark hclaimed hold).1
  · intro submission huncompleted id hid resource hresource
    obtain ⟨old, hold, ⟨rfl, hothers⟩ | ⟨rfl, hsame⟩⟩ :=
      findResource_of_update hresource
    · refine h.marked submission ?_ id hid resource hold
      rcases huncompleted with hclaim | hflying
      · rcases hclaim.of_set with heq | hclaim
        · obtain rfl := Option.some.inj heq
          exact absurd ⟨rfl, hid⟩ hothers
        · exact .inl hclaim
      · exact .inr hflying
    · obtain ⟨hbusy, hle⟩ := h.busy_of_mark hclaimed hold
      refine ⟨hbusy, ?_⟩
      have hbefore : before.Uncompleted submission →
          submission.fenceId ≤ (old.updateState true fenceId).fenceId := by
        intro hwas
        exact UInt64.le_trans (h.marked submission hwas id hid old hold).2
          VirglResource.updateState_fenceId_le
      rcases huncompleted with hclaim | hflying
      · rcases hclaim.of_set with heq | hclaim
        · obtain rfl := Option.some.inj heq
          exact hle
        · exact hbefore (.inl hclaim)
      · exact hbefore (.inr hflying)

theorem pushes (h : FencesKept before) {thread : Nat}
    {submission : Submission} {copies : Bool}
    (hthread : before.threads[thread]? = some (.marked submission copies))
    (horder : ∀ fenceId ∈ before.threads.filterMap FenceStage.pending,
      submission.fenceId ≤ fenceId) :
    FencesKept (({ before with
      inFlight := before.inFlight ++ [submission]
      pushed := submission.fenceId :: before.pushed
      pushCount := before.pushCount + 1 } : FenceSession).move thread
        .returned) := by
  have hclaimed : Claimed FenceStage.pending before.threads
      submission.fenceId := .of_thread hthread rfl
  have hmarking : Claimed FenceStage.marking before.threads submission :=
    .of_thread hthread rfl
  have hbefore : ∀ older ∈ before.pushed, older < submission.fenceId :=
    fun older holder => (h.behind older holder).2.2 _ hclaimed
  have hpending : ∀ fenceId, Claimed FenceStage.pending
      (before.threads.set thread .returned) fenceId →
      Claimed FenceStage.pending before.threads fenceId :=
    fun fenceId hclaim => hclaim.of_set.resolve_left nofun
  refine ⟨h.bounded, h.positive, h.recorded, fun fenceId hclaim =>
    h.drawn fenceId (hpending fenceId hclaim), h.alone.set hthread (.inl rfl),
    ?_, ?_, ?_, ?_, fun fenceId hclaim =>
    h.ahead fenceId (hpending fenceId hclaim), ?_⟩
  · intro other hother
    rcases List.mem_append.mp hother with hold | hlast
    · exact List.mem_cons_of_mem _ (h.flying other hold)
    · rw [List.mem_singleton.mp hlast]
      exact List.mem_cons_self
  · have hnew : submission.fenceId ∉
        before.inFlight.map Submission.fenceId := by
      intro hmem
      obtain ⟨other, hother, heq⟩ := List.mem_map.mp hmem
      have hless := hbefore _ (h.flying other hother)
      rw [heq] at hless
      exact UInt64.lt_irrefl _ hless
    change ((before.inFlight ++ [submission]).map Submission.fenceId).Nodup
    rw [List.map_append]
    exact List.nodup_append_comm.mp (List.nodup_cons.mpr ⟨hnew, h.distinct⟩)
  · intro older holder
    rcases List.mem_cons.mp holder with rfl | hold
    · obtain ⟨hpositive, hbelow⟩ := h.drawn _ hclaimed
      refine ⟨hpositive, hbelow, fun fenceId hclaim => ?_⟩
      have hgiven : ¬Claimed FenceStage.pending
          (before.threads.set thread .returned) submission.fenceId :=
        h.alone.released hthread rfl nofun
      have hne : submission.fenceId ≠ fenceId := by
        rintro rfl
        exact hgiven hclaim
      obtain ⟨stage, hstage, hfence⟩ := hpending fenceId hclaim
      have hlater := horder fenceId
        (List.mem_filterMap.mpr ⟨stage, hstage, hfence⟩)
      exact UInt64.lt_of_le_of_ne hlater hne
    · obtain ⟨hpositive, hbelow, hbehind⟩ := h.behind older hold
      exact ⟨hpositive, hbelow, fun fenceId hclaim =>
        hbehind fenceId (hpending fenceId hclaim)⟩
  · exact List.pairwise_cons.mpr ⟨hbefore, h.increasing⟩
  · intro other huncompleted
    refine h.marked other ?_
    rcases huncompleted with hclaim | hflying
    · exact .inl (hclaim.of_set.resolve_left nofun)
    · rcases List.mem_append.mp hflying with hold | hlast
      · exact .inr hold
      · rw [List.mem_singleton.mp hlast]
        exact .inl hmarking

theorem completes (h : FencesKept before) {slot : Nat}
    {submission : Submission}
    (hslot : before.inFlight[slot]? = some submission)
    (horder : ∀ other ∈ before.inFlight,
      other.fenceId < submission.fenceId →
        other.contextId = submission.contextId →
          ∀ id ∈ other.marked, id ∉ submission.copied) :
    FencesKept { before.update submission.contextId submission.copied false
      submission.fenceId with inFlight := before.inFlight.eraseIdx slot } := by
  have hpushed := h.flying submission (List.mem_of_getElem? hslot)
  obtain ⟨hpositive, hbelow, hbehind⟩ := h.behind _ hpushed
  have hfenced : submission.fenceId ≠ 0 := by
    intro hzero
    rw [hzero] at hpositive
    exact Nat.lt_irrefl _ hpositive
  obtain ⟨hlength, hentry⟩ := List.getElem?_eq_some_iff.mp hslot
  have hperm : (submission :: before.inFlight.eraseIdx slot).Perm
      before.inFlight := by
    have hsplit := List.getElem_cons_eraseIdx_perm hlength
    rwa [hentry] at hsplit
  have hdistinct : (submission.fenceId ::
      (before.inFlight.eraseIdx slot).map Submission.fenceId).Nodup :=
    (hperm.map Submission.fenceId).nodup_iff.mpr h.distinct
  refine ⟨h.bounded, h.positive, ?_, h.drawn, h.alone, ?_,
    (List.nodup_cons.mp hdistinct).2, h.behind, h.increasing, ?_, ?_⟩
  · intro wanted id resource hresource
    obtain ⟨old, hold, ⟨rfl, _⟩ | ⟨rfl, _⟩⟩ :=
      findResource_of_update hresource
    · exact h.recorded wanted id resource hold
    · exact updateState_fenceId_lt (h.recorded wanted id old hold) hbelow
  · exact fun other hother =>
      h.flying other (List.mem_of_mem_eraseIdx hother)
  · intro fenceId hclaim wanted id resource hresource hless
    obtain ⟨old, hold, ⟨rfl, _⟩ | ⟨rfl, _⟩⟩ :=
      findResource_of_update hresource
    · exact h.ahead fenceId hclaim wanted id resource hold hless
    · by_cases haccepts : old.Accepts submission.fenceId
      · -- the completed submission is older than every pending one
        have hnew : (old.updateState false submission.fenceId).fenceId =
            submission.fenceId :=
          (VirglResource.updateState_fenceId haccepts).resolve_left hfenced
        rw [hnew] at hless
        have hover := hbehind fenceId hclaim
        exact absurd (UInt64.lt_trans hless hover) (UInt64.lt_irrefl _)
      · rw [VirglResource.updateState_of_not_accepts haccepts] at hless ⊢
        exact h.ahead fenceId hclaim wanted id old hold hless
  · intro other huncompleted id hid resource hresource
    have hwas : before.Uncompleted other := by
      rcases huncompleted with hclaim | hflying
      · exact .inl hclaim
      · exact .inr (List.mem_of_mem_eraseIdx hflying)
    obtain ⟨old, hold, ⟨rfl, _⟩ | ⟨rfl, hcontext, hcopied⟩⟩ :=
      findResource_of_update hresource
    · exact h.marked other hwas id hid resource hold
    · obtain ⟨hbusy, hle⟩ := h.marked other hwas id hid old hold
      have hrefused : ¬old.Accepts submission.fenceId := by
        rintro (hzero | haccepts)
        · exact hfenced hzero
        · have hover : other.fenceId ≤ submission.fenceId :=
            UInt64.le_trans hle haccepts
          rcases huncompleted with hclaim | hflying
          · have hpending : Claimed FenceStage.pending before.threads
                other.fenceId := by
              obtain ⟨stage, hstage, hmarking⟩ := hclaim
              refine ⟨stage, hstage, ?_⟩
              cases stage with
              | marked made copies =>
                  obtain rfl := Option.some.inj hmarking
                  rfl
              | _ => exact absurd hmarking nofun
            exact absurd (hbehind _ hpending) (UInt64.not_lt.mpr hover)
          · have hne : other.fenceId ≠ submission.fenceId := by
              intro heq
              refine (List.nodup_cons.mp hdistinct).1 ?_
              exact heq ▸ List.mem_map_of_mem hflying
            exact horder other (List.mem_of_mem_eraseIdx hflying)
              (UInt64.lt_of_le_of_ne hover hne) hcontext id hid hcopied
      rw [VirglResource.updateState_of_not_accepts hrefused]
      exact ⟨hbusy, hle⟩

theorem advance (h : FencesKept before) {thread : Nat} {stage : FenceStage}
    (hthread : before.threads[thread]? = some stage)
    (horder : before.InDrawOrder addBuf (.advance thread)) :
    FencesKept (before.advance addBuf thread stage) := by
  unfold InDrawOrder at horder
  simp only [hthread] at horder
  cases stage with
  | started contextId cmd request => exact h.draws horder
  | drawn contextId fenceId cmd request =>
      simp only [FenceSession.advance]
      split
      · split
        · exact h.marks hthread
        · exact h.returned hthread before.pushCount
      · refine h.fewer rfl rfl rfl rfl (h.alone.set hthread (.inr rfl)) ?_ ?_
        · intro other hclaim
          rcases hclaim.of_set with heq | hold
          · exact .of_thread hthread heq
          · exact hold
        · intro submission hclaim
          rcases hclaim.of_set with heq | hold
          · obtain rfl := Option.some.inj heq
            exact .inr rfl
          · exact .inl hold
  | marked submission copies =>
      simp only [FenceSession.advance, push]
      split
      · rename_i hcopies
        split
        · rename_i haccepted
          exact h.pushes hthread (horder hcopies haccepted)
        · exact h.returned hthread (before.pushCount + 1)
      · exact h.returned hthread before.pushCount
  | returned => exact h

theorem step (h : FencesKept before)
    (horder : before.InDrawOrder addBuf action) :
    FencesKept (before.step addBuf action) := by
  cases action with
  | submit contextId cmd request =>
      simp only [FenceSession.step]
      split
      · exact h
      · refine h.fewer rfl rfl rfl rfl (h.alone.start rfl) ?_ ?_
        · exact fun fenceId => (Claimed.start_iff rfl).mp
        · exact fun submission hclaim =>
            .inl ((Claimed.start_iff rfl).mp hclaim)
  | advance thread =>
      cases hthread : before.threads[thread]? with
      | none =>
          simp only [FenceSession.step, hthread]
          exact h
      | some stage =>
          simp only [FenceSession.step, hthread]
          exact h.advance hthread horder
  | complete slot =>
      unfold InDrawOrder at horder
      cases hslot : before.inFlight[slot]? with
      | none =>
          simp only [FenceSession.step, hslot]
          exact h
      | some submission =>
          simp only [FenceSession.step, hslot]
          simp only [hslot] at horder
          exact h.completes hslot horder

end FencesKept

/-- Contexts with no fenced submission under way: what their resources have
recorded has been drawn. -/
structure QuietContexts where
  virglContextList : List VirglContext
  fenceIds : Idr
  positive : 0 < fenceIds.id
  bounded : fenceIds.id < 2 ^ 64
  recorded : ∀ context ∈ virglContextList,
    ∀ resource ∈ context.resourceList,
      resource.fenceId.toNat < fenceIds.id

def start (quiet : QuietContexts) : FenceSession where
  virglContextList := quiet.virglContextList
  fenceIds := quiet.fenceIds
  threads := []
  inFlight := []
  pushed := []
  pushCount := 0

theorem start_kept (quiet : QuietContexts) : FencesKept (start quiet) where
  bounded := quiet.bounded
  positive := quiet.positive
  recorded := by
    intro contextId id resource hresource
    obtain ⟨context, hcontext, hfound⟩ := Option.bind_eq_some_iff.mp hresource
    exact quiet.recorded context (List.mem_of_find?_eq_some hcontext) resource
      (List.mem_of_find?_eq_some hfound)
  drawn := by simp [Claimed, start]
  alone := .nil
  flying := by simp [start]
  distinct := .nil
  behind := by simp [start]
  increasing := .nil
  ahead := by simp [Claimed, start]
  marked := by simp [Uncompleted, Claimed, start]

end FenceSession

/-- Fence ids enter the queue in increasing order and mark their resources
busy in every state of a run that keeps the draw order. -/
theorem fences_ordered (addBuf : Nat → Bool)
    (quiet : FenceSession.QuietContexts) (actions : List FenceAction)
    (horder : Along (fun session => FenceSession.step session addBuf)
      (fun session => session.InDrawOrder addBuf) (.start quiet) actions) :
    (runFrom (fun session => FenceSession.step session addBuf) (.start quiet)
      actions).FencesOrdered :=
  (horder.invariant (fun _ _ h hstep => h.step hstep)
    (FenceSession.start_kept quiet)).ordered

/-- A context with one idle buffer. -/
def quietContext : FenceSession.QuietContexts where
  virglContextList :=
    [{ id := 7
       resourceList :=
         [{ IoRequest.poolRecord with
            id := 1, stateEvent := true, bForBuffer := true }] }]
  fenceIds := initializeIdr
  positive := Nat.one_pos
  bounded := Nat.one_lt_two_pow (by decide)
  recorded := by simp [IoRequest.poolRecord, initializeIdr]

/-- A submission with an out-fence that lists the buffer. -/
def submitOne : FenceAction :=
  .submit 7
    { flags := execbufFenceFdOut, size := 64, numBoHandles := 1 }
    { input := .ok { flags := execbufFenceFdOut, size := 64, numBoHandles := 1 }
      inFence := .error .unsuccessful
      waitStatus := .success
      outFence := .ok 0
      command := .ok ()
      handles := .ok fun _ => { marked := 1, copied := 1 }
      handlesBlock := true }

/-- The later submission marks first; they are pushed and completed in
order. -/
def drawOrderRun : List FenceAction :=
  [submitOne, submitOne, .advance 0, .advance 1, .advance 1, .advance 0,
   .advance 0, .complete 0, .advance 1, submitOne, .advance 2, .advance 2,
   .complete 0, .advance 2, .complete 0]

theorem fences_ordered_drawOrderRun :
    (runFrom (fun session => FenceSession.step session fun _ => true)
      (.start quietContext) drawOrderRun).FencesOrdered :=
  fences_ordered _ _ _ (by decide +kernel)

/-- The submission that drew first is pushed last. -/
def overtakenRun : List FenceAction :=
  [submitOne, submitOne, .advance 0, .advance 1, .advance 1, .advance 1,
   .advance 0, .advance 0]

theorem not_fencesOrdered_overtakenRun :
    ¬(runFrom (fun session => FenceSession.step session fun _ => true)
      (.start quietContext) overtakenRun).FencesOrdered :=
  fun h => absurd h.increasing (by decide +kernel)

end VgpuDriver
