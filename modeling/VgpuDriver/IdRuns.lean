import VgpuDriver.IdWrap
import VgpuDriver.TraceSteps

namespace VgpuDriver

open Data

/-! The ids of the resources are distinct and not 0 as long as fewer than
2^32 of them have been drawn. -/

/-- If the step gives an id to a new resource, it is not 0 and no live
resource of any context has it. -/
def World.GivesFreshId (addBuf : Nat → Bool) (world : World)
    (action : Action) : Prop :=
  (World.step addBuf world action).driver.resourceIds ≠
      world.driver.resourceIds →
    nextResourceId world.driver ≠ 0 ∧
      ∀ entry ∈ world.driver.live, entry.2.id ≠ nextResourceId world.driver

/-- An id denotes at most one resource, whatever the context. -/
def Driver.IdsUnique (driver : Driver) : Prop :=
  (driver.live.map fun entry => entry.2.id).Nodup ∧
    ∀ entry ∈ driver.live, entry.2.id ≠ 0

structure Numbered (driver : Driver) : Prop where
  counted : driver.resourceIds.Counted
  ids : ∀ record ∈ driver.records, 0 < record.id.toNat ∧
    record.id.toNat ≤ driver.resourceIds.drawn
  nodup : (driver.records.map Record.id).Nodup

theorem nextResourceId_eq {driver : Driver}
    (hcounted : driver.resourceIds.Counted) :
    (nextResourceId driver).toNat =
      (driver.resourceIds.drawn + 1) % 2 ^ 32 := by
  unfold Idr.Counted at hcounted
  unfold nextResourceId getIdFromIdrWithoutCache lowBytes
  simp only [hcounted, UInt32.toNat_ofNat']
  omega

theorem TraceStep.counter {addBuf : Nat → Bool} {contextId : UInt32}
    {before after : Driver} (h : TraceStep addBuf contextId before after) :
    after.resourceIds = before.resourceIds ∨
      after.resourceIds =
        (getIdFromIdrWithoutCache 4 before.resourceIds).2 := by
  cases h with
  | quiet hsame hids => exact Or.inl hids
  | opened contextInit hnew hcontexts hrecords hids => exact Or.inl hids
  | created resource commands hcontext hcreates hid hserial hcontexts hrecords
      hids => exact Or.inr hids
  | exhausted create hcontext hsame hids => exact Or.inr hids
  | closed resource hcontext hcontexts hrecords hids => exact Or.inl hids
  | destroyed resources hcontext hcontexts hrecords hids => exact Or.inl hids
  | transferred resource toHost transfer hcontext hresource htransfer hsame
      hids => exact Or.inl hids
  | submitted buffer hcontext hsubmit hctxId hserial hsame hids =>
      exact Or.inl hids

namespace Numbered

variable {addBuf : Nat → Bool} {contextId : UInt32} {before after : Driver}

theorem of_subperm (h : Numbered before)
    (hrecords : after.records.Subperm before.records)
    (hids : after.resourceIds = before.resourceIds) : Numbered after where
  counted := hids ▸ h.counted
  ids := fun record hrecord => hids ▸ h.ids record (hrecords.subset hrecord)
  nodup := by
    obtain ⟨kept, hperm, hsublist⟩ := hrecords
    have hkept := h.nodup.sublist (hsublist.map Record.id)
    exact (hperm.map Record.id).nodup_iff.mp hkept

theorem counted_after (h : Numbered before)
    (hcounter : after.resourceIds = before.resourceIds ∨
      after.resourceIds =
        (getIdFromIdrWithoutCache 4 before.resourceIds).2) :
    after.resourceIds.Counted ∧
      before.resourceIds.drawn ≤ after.resourceIds.drawn := by
  rcases hcounter with hsame | hdrawn
  · rw [hsame]
    exact ⟨h.counted, Nat.le_refl _⟩
  · rw [hdrawn]
    exact ⟨h.counted.getIdFromIdrWithoutCache 4, Nat.le_succ _⟩

theorem drawn_id (h : Numbered before)
    (hids : after.resourceIds =
      (getIdFromIdrWithoutCache 4 before.resourceIds).2)
    (hleft : after.resourceIds.drawn < 2 ^ 32) :
    (nextResourceId before).toNat = before.resourceIds.drawn + 1 ∧
      after.resourceIds.drawn = before.resourceIds.drawn + 1 := by
  have hdrawn : after.resourceIds.drawn =
      before.resourceIds.drawn + 1 := by
    rw [hids]
    rfl
  refine ⟨?_, hdrawn⟩
  rw [nextResourceId_eq h.counted, ← hdrawn]
  exact Nat.mod_eq_of_lt hleft

private theorem insert {record : Record} (h : Numbered before)
    (hrecords : after.records.Perm (record :: before.records))
    (hids : after.resourceIds =
      (getIdFromIdrWithoutCache 4 before.resourceIds).2)
    (hid : record.id = nextResourceId before)
    (hleft : after.resourceIds.drawn < 2 ^ 32) : Numbered after := by
  obtain ⟨hnext, hdrawn⟩ := h.drawn_id hids hleft
  refine ⟨(h.counted_after (Or.inr hids)).1, ?_, ?_⟩
  · intro other hother
    rcases List.mem_cons.mp (hrecords.mem_iff.mp hother) with rfl | hold
    · rw [hid, hnext]
      omega
    · have hbound := h.ids other hold
      omega
  · refine ((hrecords.map Record.id).nodup_iff).mpr ?_
    refine List.nodup_cons.mpr ⟨fun hmem => ?_, h.nodup⟩
    obtain ⟨other, hother, heq⟩ := List.mem_map.mp hmem
    have hbound := (h.ids other hother).2
    rw [heq, hid, hnext] at hbound
    omega

theorem trace (h : Numbered before)
    (hstep : TraceStep addBuf contextId before after)
    (hleft : after.resourceIds.drawn < 2 ^ 32) : Numbered after := by
  have hsame : SameObjects before after →
      after.records.Subperm before.records := fun hsame => by
    rw [hsame.records]
  cases hstep with
  | quiet hobjects hids => exact h.of_subperm (hsame hobjects) hids
  | opened contextInit hnew hcontexts hrecords hids =>
      exact h.of_subperm (by rw [hrecords]) hids
  | created resource commands hcontext hcreates hid hserial hcontexts hrecords
      hids =>
      exact h.insert hrecords hids hid hleft
  | exhausted create hcontext hobjects hids =>
      have hcounted := h.counted_after (Or.inr hids)
      refine ⟨hcounted.1, ?_, ?_⟩
      · rw [hobjects.records]
        intro record hrecord
        have hbound := h.ids record hrecord
        exact ⟨hbound.1, Nat.le_trans hbound.2 hcounted.2⟩
      · rw [hobjects.records]
        exact h.nodup
  | closed resource hcontext hcontexts hrecords hids =>
      refine h.of_subperm ?_ hids
      exact (List.sublist_cons_self _ _).subperm.trans hrecords.symm.subperm
  | destroyed resources hcontext hcontexts hrecords hids =>
      refine h.of_subperm ?_ hids
      exact (List.sublist_append_right _ _).subperm.trans
        hrecords.symm.subperm
  | transferred resource toHost transfer hcontext hresource htransfer hobjects
      hids => exact h.of_subperm (hsame hobjects) hids
  | submitted buffer hcontext hsubmit hctxId hserial hobjects hids =>
      exact h.of_subperm (hsame hobjects) hids

theorem step {world : World} (h : Numbered world.driver) (action : Action)
    (hleft : (World.step addBuf world action).driver.resourceIds.drawn <
      2 ^ 32) :
    Numbered (World.step addBuf world action).driver := by
  rcases World.step_trace addBuf world action with
    ⟨contextId, hstep⟩ | hidles
  · exact h.trace hstep hleft
  · exact h.of_subperm (by rw [hidles.same.records]) hidles.resourceIds

theorem idsUnique {driver : Driver} (h : Numbered driver) :
    driver.IdsUnique := by
  constructor
  · have hnodup := h.nodup
    rw [Driver.records, List.map_map] at hnodup
    exact hnodup
  · intro entry hentry hzero
    have hbound := (h.ids _ (List.mem_map_of_mem hentry)).1
    simp [recordOf, hzero] at hbound

/-- An id that is drawn is fresh. -/
theorem givesFreshId {world : World} (h : Numbered world.driver)
    {action : Action}
    (hleft : (World.step addBuf world action).driver.resourceIds.drawn <
      2 ^ 32) : world.GivesFreshId addBuf action := by
  intro hchanged
  have hids : (World.step addBuf world action).driver.resourceIds =
      (getIdFromIdrWithoutCache 4 world.driver.resourceIds).2 := by
    rcases World.step_trace addBuf world action with
      ⟨contextId, hstep⟩ | hidles
    · exact hstep.counter.resolve_left hchanged
    · exact absurd hidles.resourceIds hchanged
  obtain ⟨hnext, _⟩ := h.drawn_id hids hleft
  constructor
  · intro hzero
    rw [hzero] at hnext
    simp at hnext
  · intro entry hentry heq
    have hbound := (h.ids _ (List.mem_map_of_mem hentry)).2
    simp only [recordOf] at hbound
    rw [heq, hnext] at hbound
    omega

end Numbered

theorem start_numbered (virtualAddress physicalAddress memorySize : Nat)
    (capsets : Capsets) :
    Numbered (World.start virtualAddress physicalAddress memorySize
      capsets).driver where
  counted := initializeIdr_counted
  ids := fun record hrecord => by cases hrecord
  nodup := List.nodup_nil

theorem World.drawn_le (addBuf : Nat → Bool) (world : World)
    (action : Action) :
    world.driver.resourceIds.drawn ≤
      (World.step addBuf world action).driver.resourceIds.drawn := by
  rcases World.step_trace addBuf world action with
    ⟨contextId, hstep⟩ | hidles
  · rcases hstep.counter with hsame | hdrawn
    · rw [hsame]
    · rw [hdrawn]
      exact Nat.le_succ _
  · rw [hidles.resourceIds]

theorem run_numbered (addBuf : Nat → Bool)
    (virtualAddress physicalAddress memorySize : Nat) (capsets : Capsets)
    {actions : List Action}
    (hleft : (runFrom (World.step addBuf)
      (World.start virtualAddress physicalAddress memorySize capsets)
      actions).driver.resourceIds.drawn < 2 ^ 32) :
    Numbered (runFrom (World.step addBuf)
        (World.start virtualAddress physicalAddress memorySize capsets)
        actions).driver ∧
      Along (World.step addBuf) (World.GivesFreshId addBuf)
        (World.start virtualAddress physicalAddress memorySize capsets)
        actions := by
  have halong := along_of_le (World.drawn_le addBuf) hleft
  have hstart := start_numbered virtualAddress physicalAddress memorySize
    capsets
  have hstep : ∀ world action, Numbered world.driver →
      (World.step addBuf world action).driver.resourceIds.drawn < 2 ^ 32 →
      Numbered (World.step addBuf world action).driver :=
    fun world action h hguard => h.step action hguard
  constructor
  · exact halong.invariant hstep hstart
  · exact halong.of_invariant hstep
      (fun world action h hguard => h.givesFreshId hguard) hstart

/-- The 2^32nd id is 0. -/
private theorem drawn_lt_of_givesFreshId {addBuf : Nat → Bool}
    {world : World} {actions : List Action}
    (hcounted : world.driver.resourceIds.Counted)
    (hdrawn : world.driver.resourceIds.drawn < 2 ^ 32)
    (hfresh : Along (World.step addBuf) (World.GivesFreshId addBuf) world
      actions) :
    (runFrom (World.step addBuf) world
      actions).driver.resourceIds.drawn < 2 ^ 32 := by
  have hkept : ∀ world action,
      world.driver.resourceIds.Counted ∧
        world.driver.resourceIds.drawn < 2 ^ 32 →
      World.GivesFreshId addBuf world action →
      (World.step addBuf world action).driver.resourceIds.Counted ∧
        (World.step addBuf world action).driver.resourceIds.drawn <
          2 ^ 32 := by
    rintro world action ⟨hcounted, hsmall⟩ hgives
    have hcounter : (World.step addBuf world action).driver.resourceIds =
          world.driver.resourceIds ∨
        (World.step addBuf world action).driver.resourceIds =
          (getIdFromIdrWithoutCache 4 world.driver.resourceIds).2 := by
      rcases World.step_trace addBuf world action with
        ⟨contextId, hstep⟩ | hidles
      · exact hstep.counter
      · exact Or.inl hidles.resourceIds
    rcases hcounter with hsame | hids
    · rw [hsame]
      exact ⟨hcounted, hsmall⟩
    · have hnext : (World.step addBuf world
          action).driver.resourceIds.drawn =
            world.driver.resourceIds.drawn + 1 := by
        rw [hids]
        rfl
      rw [hids]
      refine ⟨hcounted.getIdFromIdrWithoutCache 4, ?_⟩
      rw [← hids, hnext]
      refine Nat.lt_of_le_of_ne hsmall fun hlast => ?_
      have hchanged : (World.step addBuf world action).driver.resourceIds ≠
          world.driver.resourceIds := by
        intro hsame
        rw [hsame] at hnext
        omega
      refine (hgives hchanged).1 ?_
      apply UInt32.toNat_inj.mp
      rw [nextResourceId_eq hcounted, hlast]
      rfl
  exact (hfresh.invariant hkept ⟨hcounted, hdrawn⟩).2

/-- The ids that a run gives are fresh exactly when it draws fewer than 2^32
of them. -/
theorem ids_fresh (addBuf : Nat → Bool)
    (virtualAddress physicalAddress memorySize : Nat) (capsets : Capsets)
    (actions : List Action) :
    (Along (World.step addBuf) (World.GivesFreshId addBuf)
        (World.start virtualAddress physicalAddress memorySize capsets)
        actions ∧
      (runFrom (World.step addBuf)
        (World.start virtualAddress physicalAddress memorySize capsets)
        actions).driver.IdsUnique) ↔
    (runFrom (World.step addBuf)
      (World.start virtualAddress physicalAddress memorySize capsets)
      actions).driver.resourceIds.drawn < 2 ^ 32 := by
  constructor
  · rintro ⟨hfresh, _⟩
    exact drawn_lt_of_givesFreshId initializeIdr_counted
      (by simp [World.start, initializeIdr]) hfresh
  · intro hleft
    obtain ⟨hnumbered, hfresh⟩ := run_numbered addBuf virtualAddress
      physicalAddress memorySize capsets hleft
    exact ⟨hfresh, hnumbered.idsUnique⟩

/-- A context, and then 2^32 resources that are closed at once. -/
def wrappingRun : List Action :=
  .request 7 .initContext :: churn 0 (2 ^ 32)

private theorem wrappingRun_start :
    Churned World.eightPages.driver.vgpuMemory [] [] 0
      (World.step (fun _ => true) World.eightPages
        (.request 7 .initContext)).driver where
  contexts := rfl
  ids := rfl
  drawn := rfl
  memory := rfl
  avail := ⟨[], rfl⟩
  used := rfl

theorem not_givesFreshId_wrappingRun :
    ¬Along (World.step fun _ => true) (World.GivesFreshId fun _ => true)
      World.eightPages wrappingRun := by
  intro hfresh
  have hdrawn := drawn_lt_of_givesFreshId initializeIdr_counted
    (by simp [World.eightPages, World.start, initializeIdr]) hfresh
  have hchurned := wrappingRun_start.churn (2 ^ 32) (by norm_num)
  rw [wrappingRun, runFrom_cons, hchurned.drawn] at hdrawn
  omega

end VgpuDriver
