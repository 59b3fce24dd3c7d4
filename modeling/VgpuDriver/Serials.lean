import VgpuDriver.MemorySteps

namespace VgpuDriver

open Data

/-! The serials of the resources: distinct, and older than the next push, also
those in the recorded events. -/

/-- The resource that the event is about. -/
def Event.resource : Event → Option Nat
  | .backed backing => some backing.serial
  | .unbacked serial _ => some serial
  | .ioMapped owner _ _ | .ioUnmapped owner _ _ | .shared owner _ _
  | .released owner => some owner
  | _ => none

/-- The serials of the resources that are still to be deleted and of those
that are live. -/
def Driver.serials (pending : List VirglResource) (driver : Driver) :
    List Nat :=
  pending.map VirglResource.serial ++
    driver.live.map fun entry => entry.2.serial

structure Tracked (pending : List VirglResource) (driver : Driver) :
    Prop where
  nodup : (driver.serials pending).Nodup
  serials : ∀ serial ∈ driver.serials pending, serial < driver.pushCount
  events : ∀ event ∈ driver.notable, ∀ owner ∈ event.resource,
    owner < driver.pushCount

theorem Remarked.serial {before after : UInt32 × VirglResource}
    (h : Remarked before after) : after.2.serial = before.2.serial := by
  obtain ⟨_, _, rfl, _⟩ := h
  rfl

theorem Signaled.serial {buffer : VgpuBuffer}
    {before after : UInt32 × VirglResource}
    (h : Signaled buffer before after) :
    after.2.serial = before.2.serial := by
  rcases h with rfl | ⟨_, rfl⟩
  · rfl
  · exact VirglResource.updateState_serial

namespace Tracked

variable {addBuf : Nat → Bool} {pending rest : List VirglResource}
variable {before after : Driver}

theorem of_serials (h : Tracked pending before)
    (hserials : (after.serials rest).Perm (before.serials pending))
    (hcount : before.pushCount ≤ after.pushCount)
    (hevents : ∀ event ∈ after.notable, event ∈ before.notable ∨
      ∀ owner ∈ event.resource, owner < after.pushCount) :
    Tracked rest after where
  nodup := hserials.nodup_iff.mpr h.nodup
  serials := fun serial hserial => Nat.lt_of_lt_of_le
    (h.serials serial (hserials.mem_iff.mp hserial)) hcount
  events := by
    intro event hevent owner howner
    rcases hevents event hevent with hold | hnew
    · exact Nat.lt_of_lt_of_le (h.events event hold owner howner) hcount
    · exact hnew owner howner

private theorem insert {contextId : UInt32} {resource : VirglResource}
    (h : Tracked [] before)
    (hlive : after.live.Perm ((contextId, resource) :: before.live))
    (hserial : resource.serial = before.pushCount)
    (hcount : before.pushCount < after.pushCount)
    (hevents : ∀ event ∈ after.notable, event ∈ before.notable ∨
      ∀ owner ∈ event.resource, owner < after.pushCount) :
    Tracked [] after := by
  have hserials : (after.serials []).Perm
      (before.pushCount :: before.serials []) := by
    have hmap := hlive.map fun entry => entry.2.serial
    rwa [List.map_cons, hserial] at hmap
  refine ⟨hserials.nodup_iff.mpr ?_, ?_, ?_⟩
  · refine List.nodup_cons.mpr ⟨fun hmem => ?_, h.nodup⟩
    exact Nat.lt_irrefl _ (h.serials _ hmem)
  · intro serial hmem
    rcases List.mem_cons.mp (hserials.mem_iff.mp hmem) with rfl | hold
    · exact hcount
    · exact Nat.lt_trans (h.serials serial hold) hcount
  · intro event hevent owner howner
    rcases hevents event hevent with hold | hnew
    · exact Nat.lt_trans (h.events event hold owner howner) hcount
    · exact hnew owner howner

variable (addBuf) in
theorem delete {resource : VirglResource} {driver : Driver}
    (h : Tracked (resource :: rest) driver) (contextId : UInt32) :
    Tracked rest (deleteAndRelease addBuf contextId driver resource) := by
  have hcontexts := (deleteAndRelease_frame addBuf contextId resource
    driver).1
  have hcount := (deleteAndRelease_pushes addBuf contextId resource
    driver).pushCount_le
  have hserials : (deleteAndRelease addBuf contextId driver
      resource).serials rest = driver.serials rest := by
    unfold Driver.serials Driver.live
    rw [hcontexts]
  have hhead : resource.serial < driver.pushCount :=
    h.serials _ List.mem_cons_self
  refine ⟨?_, ?_, ?_⟩
  · rw [hserials]
    exact (List.nodup_cons.mp h.nodup).2
  · rw [hserials]
    intro serial hserial
    exact Nat.lt_of_lt_of_le
      (h.serials serial (List.mem_cons_of_mem _ hserial)) hcount
  · rw [deleteAndRelease_notable]
    intro event hevent owner howner
    refine Nat.lt_of_lt_of_le ?_ hcount
    rcases List.mem_cons.mp hevent with rfl | hevent
    · cases howner
      exact hhead
    · rcases List.mem_append.mp hevent with hdeletion | hold
      · unfold deletionEvents at hdeletion
        split at hdeletion
        · split at hdeletion
          · rw [List.mem_singleton.mp hdeletion] at howner
            cases howner
            exact hhead
          · rw [List.mem_singleton.mp hdeletion] at howner
            cases howner
            exact hhead
        · cases hdeletion
      · exact h.events event hold owner howner

theorem unlink {contextId : UInt32} {gone : List VirglResource}
    (h : Tracked [] before) (hunlinks : Unlinks contextId gone before after) :
    Tracked gone after := by
  obtain ⟨contexts, hframe⟩ := hunlinks.frame
  refine h.of_serials ?_ (by rw [hframe]) (fun event hevent => Or.inl ?_)
  · have hmap := hunlinks.live.map fun entry => entry.2.serial
    rw [List.map_append, List.map_map] at hmap
    exact hmap.symm
  · rw [hframe] at hevent
    exact hevent

theorem memory {refused : Prop} {deletes : List VirglResource}
    (h : Tracked [] before)
    (hstep : MemoryStep addBuf refused deletes before after) :
    Tracked [] after := by
  have hkept : ∀ {relation : UInt32 × VirglResource →
        UInt32 × VirglResource → Prop},
      (∀ {before after}, relation before after →
        after.2.serial = before.2.serial) →
      List.Forall₂ relation before.live after.live →
      (after.serials []).Perm (before.serials []) := by
    intro relation hrelation hlive
    have hserials := map_eq_of_forall₂
      (g := fun entry : UInt32 × VirglResource => entry.2.serial)
      hrelation hlive
    unfold Driver.serials
    rw [hserials]
  cases hstep with
  | quiet hlive hnotable hmemory hpushes =>
      refine h.of_serials ?_ hpushes.pushCount_le ?_
      · unfold Driver.serials
        rw [hlive]
      · rw [hnotable]
        exact fun event hevent => Or.inl hevent
  | bare contextId resource hlive hserial hbuffer hblob hnotable hmemory
      hpushes hcount =>
      refine h.insert hlive hserial hcount ?_
      rw [hnotable]
      exact fun event hevent => Or.inl hevent
  | backed contextId resource hlive hserial hbuffer hblob hpages hnotable
      halloc hpushes hcount =>
      refine h.insert hlive hserial hcount ?_
      rw [hnotable]
      intro event hevent
      rcases List.mem_cons.mp hevent with rfl | hevent
      · right
        rintro owner ⟨⟩
        exact lt_of_eq_of_lt hserial hcount
      · rcases List.mem_cons.mp hevent with rfl | hold
        · exact Or.inr nofun
        · exact Or.inl hold
  | blobCreated contextId resource hlive hserial hbuffer hblob hbusy hnotable
      hmemory hpushes hcount =>
      refine h.insert hlive hserial hcount ?_
      rw [hnotable]
      exact fun event hevent => Or.inl hevent
  | deleted contextId gone middle hgone hunlinks hafter =>
      have hdeleted := foldl_deleteAndRelease_invariant addBuf
        (fun resource rest driver hpending =>
          delete addBuf hpending contextId) (h.unlink hunlinks)
      rcases hafter with rfl | rfl
      · exact hdeleted
      · refine hdeleted.of_serials (List.Perm.refl _) (by simp) ?_
        unfold destroyVirglContext
        rw [sendCommand_notable]
        exact fun event hevent => Or.inl hevent
  | shared contextId resource share front back hbefore hlive hbuffer hidle
      hnotable hmemory hqueues hcount =>
      have hserials : after.serials [] = before.serials [] := by
        unfold Driver.serials
        rw [hbefore, hlive]
        simp
      refine h.of_serials (by rw [hserials]) (Nat.le_of_eq hcount.symm) ?_
      rw [hnotable]
      intro event hevent
      rcases List.mem_cons.mp hevent with rfl | hold
      · right
        rintro owner ⟨⟩
        rw [hcount]
        refine h.serials _ ?_
        unfold Driver.serials
        rw [hbefore]
        simp
      · exact Or.inl hold
  | transferred hlive hnotable hmemory hpushes =>
      refine h.of_serials (hkept Remarked.serial hlive)
        hpushes.pushCount_le ?_
      rw [hnotable]
      exact fun event hevent => Or.inl hevent
  | submitted buffer memory hlive hnotable hpages halloc hsubmit haddress
      hserial hextends =>
      refine h.of_serials (hkept Remarked.serial hlive)
        hextends.pushCount ?_
      rw [hnotable]
      intro event hevent
      rcases List.mem_cons.mp hevent with rfl | hold
      · exact Or.inr nofun
      · exact Or.inl hold
  | leaked hrefused memory size hlive hnotable hpages halloc hqueues
      hcount =>
      refine h.of_serials (hkept Remarked.serial hlive)
        (Nat.le_of_eq hcount.symm) ?_
      rw [hnotable]
      intro event hevent
      rcases List.mem_cons.mp hevent with rfl | hold
      · exact Or.inr nofun
      · exact Or.inl hold

theorem completion {buffer : VgpuBuffer} {info : MapInfo}
    {mapAddress : Option Nat} (h : Tracked [] before)
    (hstep : CompletionStep buffer info mapAddress before after)
    (hcount : after.pushCount = before.pushCount) : Tracked [] after := by
  cases hstep with
  | updated hlive hnotable =>
      refine h.of_serials ?_ (Nat.le_of_eq hcount.symm) ?_
      · have hserials := map_eq_of_forall₂
          (g := fun entry : UInt32 × VirglResource => entry.2.serial)
          Signaled.serial hlive
        unfold Driver.serials
        rw [hserials]
      · rw [hnotable]
        exact fun event hevent => Or.inl hevent
  | mapped resource address front back htarget haddress hbefore hlive
      hnotable =>
      refine h.of_serials ?_ (Nat.le_of_eq hcount.symm) ?_
      · unfold Driver.serials
        rw [hbefore, hlive]
        simp [VirglResource.mapAt]
      · rw [hnotable]
        intro event hevent
        rcases List.mem_cons.mp hevent with rfl | hold
        · right
          rintro owner ⟨⟩
          rw [hcount]
          refine h.serials _ ?_
          unfold Driver.serials
          rw [hbefore]
          simp
        · exact Or.inl hold

theorem not_hasMapped {owner : Nat} (h : Tracked pending before)
    (howner : before.pushCount ≤ owner) :
    ¬HasMapped owner before.notable := by
  rintro ⟨event, hevent, address, size, rfl⟩
  have hless := h.events _ hevent owner rfl
  omega

end Tracked

theorem readOneFromQueue_step (queue : Queue) (mapAddress : Option Nat)
    (driver : Driver) :
    readOneFromQueue queue mapAddress driver = driver ∨
      ∃ buffer info rest,
        (driver.virtQueues queue).used = (buffer, info) :: rest ∧
          CompletionStep buffer info mapAddress driver
            (readOneFromQueue queue mapAddress driver) ∧
          Completes queue buffer info mapAddress driver
            (readOneFromQueue queue mapAddress driver) := by
  rcases readOneFromQueue_cases queue mapAddress driver with
    hsame | ⟨buffer, info, rest, hused, hread, hcompletes⟩
  · exact Or.inl hsame
  · refine Or.inr ⟨buffer, info, rest, hused, ?_, hcompletes⟩
    rw [hread]
    cases completeBuffer_step buffer info mapAddress
        (takeUsed queue rest driver) with
    | updated hlive hnotable => exact .updated hlive hnotable
    | mapped resource address front back htarget haddress hbefore hlive
        hnotable =>
        exact .mapped resource address front back htarget haddress hbefore
          hlive hnotable

theorem Tracked.step (addBuf : Nat → Bool) {world : World}
    (h : Tracked [] world.driver) (action : Action) :
    Tracked [] (World.step addBuf world action).driver := by
  cases action with
  | request processId request =>
      exact h.memory (virtioVgpuIoControl_memory processId world.driver
        request)
  | processExit processId =>
      exact h.memory (processNotify_memory addBuf processId
        world.driver)
  | host queue slot info =>
      simp only [World.step]
      split
      · exact h
      · refine h.of_serials (List.Perm.refl _) (Nat.le_refl _) ?_
        rw [returnBuffer_notable]
        exact fun event hevent => Or.inl hevent
  | dpc queue mapAddress =>
      rcases readOneFromQueue_step queue mapAddress world.driver with
        hsame | ⟨buffer, info, rest, _, hstep, hcompletes⟩
      · simp only [World.step, hsame]
        exact h
      · exact h.completion hstep hcompletes.pushCount

theorem start_tracked (virtualAddress physicalAddress memorySize : Nat)
    (capsets : Capsets) :
    Tracked [] (World.start virtualAddress physicalAddress memorySize
      capsets).driver where
  nodup := List.nodup_nil
  serials := by simp [World.start, Driver.serials, Driver.live, liveIn]
  events := by simp [World.start, Driver.notable]

end VgpuDriver
