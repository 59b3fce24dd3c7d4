import VgpuDriver.Serials

namespace VgpuDriver

open Data

/-! What `CtlMap` shares with user space was produced for the resource: in
every run that signals a blob only after it was mapped. -/

/-- The backing that was made for the resource. -/
def backingFor (owner : Nat) (events : List Event) : Option Backing :=
  events.findSome? fun
    | .backed backing => if backing.serial = owner then some backing else none
    | _ => none

/-- `AllocateVgpuMemory` gave the range to the plain resource, or
`MmMapIoSpaceEx` gave it to the blob. -/
def Produced (owner address size : Nat) (events : List Event) : Prop :=
  match backingFor owner events with
  | some backing =>
      backing.memory.virtualAddress = address ∧ backing.size = size
  | none => .ioMapped owner address size ∈ events

instance (owner address size : Nat) (events : List Event) :
    Decidable (Produced owner address size events) := by
  unfold Produced
  cases backingFor owner events <;> infer_instance

/-- Whatever `CtlMap` shared had been produced before. -/
def SharesProduced : List Event → Prop
  | [] => True
  | .shared owner address size :: older =>
      Produced owner address size older ∧ SharesProduced older
  | _ :: older => SharesProduced older

theorem sharesProduced_shared {owner address size : Nat}
    {older : List Event} :
    SharesProduced (.shared owner address size :: older) ↔
      Produced owner address size older ∧ SharesProduced older := Iff.rfl

instance decidableSharesProduced :
    (events : List Event) → Decidable (SharesProduced events)
  | [] => inferInstanceAs (Decidable True)
  | event :: older => by
      have := decidableSharesProduced older
      cases event <;> unfold SharesProduced <;> infer_instance

/-- A blob whose event is set has been mapped as its record says. -/
def Driver.SignaledMapped (driver : Driver) : Prop :=
  ∀ entry ∈ driver.live, entry.2.bForBlob = true →
    entry.2.stateEvent = true →
      .ioMapped entry.2.serial entry.2.buffer.memory.virtualAddress
        entry.2.buffer.size ∈ driver.notable

/-- Where the completion sets the event of a blob by an update, the blob has
been mapped. -/
def Driver.UpdatesMapped (queue : Queue) (driver : Driver) : Prop :=
  ∀ head ∈ (driver.virtQueues queue).used.head?,
    ∀ entry ∈ driver.live, entry.2.bForBlob = true →
      entry.1 = head.1.pBuf.hdr.ctxId → entry.2.id ∈ head.1.updatedIds →
        entry.2.Accepts head.1.pBuf.hdr.fenceId →
          HasMapped entry.2.serial driver.notable

instance (queue : Queue) (driver : Driver) :
    Decidable (driver.UpdatesMapped queue) := by
  unfold Driver.UpdatesMapped
  infer_instance

/-- What is mapped is no plain resource that got the id of a blob. -/
def Driver.MapsNoPages (queue : Queue) (mapAddress : Option Nat)
    (driver : Driver) : Prop :=
  ∀ head ∈ (driver.virtQueues queue).used.head?, mapAddress ≠ none →
    ∀ target ∈ driver.mapTarget head.1, target.IsPlain = false

instance (queue : Queue) (mapAddress : Option Nat) (driver : Driver) :
    Decidable (driver.MapsNoPages queue mapAddress) := by
  unfold Driver.MapsNoPages
  infer_instance

def World.SignalsMapped (world : World) : Action → Prop
  | .dpc queue mapAddress =>
      world.driver.UpdatesMapped queue ∧
        world.driver.MapsNoPages queue mapAddress
  | _ => True

instance (world : World) :
    (action : Action) → Decidable (world.SignalsMapped action)
  | .request _ _ => inferInstanceAs (Decidable True)
  | .processExit _ => inferInstanceAs (Decidable True)
  | .host _ _ _ => inferInstanceAs (Decidable True)
  | .dpc _ _ => inferInstanceAs (Decidable (_ ∧ _))

/-- The event produces memory for the resource. -/
def Event.Produces (owner : Nat) : Event → Prop
  | .backed backing => backing.serial = owner
  | .ioMapped other _ _ => other = owner
  | _ => False

/-- The events account for the buffer of the record. -/
structure VirglResource.Accounted (events : List Event)
    (resource : VirglResource) : Prop where
  plain : resource.IsPlain = true → ∃ backing,
    backingFor resource.serial events = some backing ∧
      backing.memory.virtualAddress =
        resource.buffer.memory.virtualAddress ∧
      backing.size = resource.buffer.size
  blob : resource.bForBlob = true →
    backingFor resource.serial events = none
  mapped : resource.bForBlob = true → HasMapped resource.serial events →
    .ioMapped resource.serial resource.buffer.memory.virtualAddress
      resource.buffer.size ∈ events
  idle : resource.bForBlob = true → resource.stateEvent = true →
    HasMapped resource.serial events

theorem backingFor_cons {owner : Nat} {event : Event}
    {events : List Event} (hother : ¬event.Produces owner) :
    backingFor owner (event :: events) = backingFor owner events := by
  cases event with
  | backed backing =>
      have hne : backing.serial ≠ owner := hother
      simp [backingFor, hne]
  | _ => rfl

theorem HasMapped.cons {owner : Nat} {events : List Event}
    (h : HasMapped owner events) (event : Event) :
    HasMapped owner (event :: events) := by
  obtain ⟨found, hfound, hmaps⟩ := h
  exact ⟨found, List.mem_cons_of_mem _ hfound, hmaps⟩

theorem HasMapped.of_cons {owner : Nat} {event : Event}
    {events : List Event} (h : HasMapped owner (event :: events))
    (hother : ¬event.Produces owner) : HasMapped owner events := by
  obtain ⟨found, hfound, address, size, rfl⟩ := h
  rcases List.mem_cons.mp hfound with heq | hold
  · subst heq
    exact absurd rfl hother
  · exact ⟨_, hold, address, size, rfl⟩

namespace VirglResource.Accounted

variable {resource : VirglResource} {event : Event} {events : List Event}

theorem cons (h : resource.Accounted events)
    (hother : ¬event.Produces resource.serial) :
    resource.Accounted (event :: events) where
  plain := by
    rw [backingFor_cons hother]
    exact h.plain
  blob := by
    rw [backingFor_cons hother]
    exact h.blob
  mapped := fun hblob hmapped =>
    List.mem_cons_of_mem _ (h.mapped hblob (hmapped.of_cons hother))
  idle := fun hblob hidle => (h.idle hblob hidle).cons event

/-- The event and the fence number of the record do not matter as long as the
event of a blob is set only when it was mapped. -/
theorem restate (h : resource.Accounted events) {stateEvent : Bool}
    {fenceId : UInt64}
    (hidle : resource.bForBlob = true → stateEvent = true →
      HasMapped resource.serial events) :
    ({ resource with stateEvent := stateEvent, fenceId := fenceId } :
      VirglResource).Accounted events where
  plain := h.plain
  blob := h.blob
  mapped := h.mapped
  idle := hidle

theorem produced (h : resource.Accounted events)
    (hbuffer : resource.bForBuffer = true)
    (hidle : resource.stateEvent = true) :
    Produced resource.serial resource.buffer.memory.virtualAddress
      resource.buffer.size events := by
  unfold Produced
  cases hblob : resource.bForBlob with
  | true =>
      rw [h.blob hblob]
      exact h.mapped hblob (h.idle hblob hidle)
  | false =>
      obtain ⟨backing, hbacking, haddress, hsize⟩ :=
        h.plain (by simp [IsPlain, hbuffer, hblob])
      rw [hbacking]
      exact ⟨haddress, hsize⟩

end VirglResource.Accounted

private theorem unproduced {driver : Driver} {owner : Nat}
    (htracked : Tracked [] driver) (howner : driver.pushCount ≤ owner) :
    ∀ event ∈ driver.notable, ¬event.Produces owner := by
  intro event hevent hproduces
  have hold : owner ∈ event.resource := by
    cases event with
    | backed backing => exact congrArg some hproduces
    | ioMapped other address size => exact congrArg some hproduces
    | _ => exact hproduces.elim
  have hless := htracked.events event hevent owner hold
  omega

private theorem backingFor_eq_none {owner : Nat} {events : List Event}
    (hnone : ∀ event ∈ events, ¬event.Produces owner) :
    backingFor owner events = none := by
  induction events with
  | nil => rfl
  | cons event events ih =>
      rw [backingFor_cons (hnone event List.mem_cons_self)]
      exact ih fun event hevent =>
        hnone event (List.mem_cons_of_mem _ hevent)

private theorem not_hasMapped {owner : Nat} {events : List Event}
    (hnone : ∀ event ∈ events, ¬event.Produces owner) :
    ¬HasMapped owner events := by
  rintro ⟨event, hevent, address, size, rfl⟩
  exact hnone _ hevent rfl

private theorem sharesProduced_append {new events : List Event}
    (hnew : ∀ event ∈ new, ∀ owner address size,
      event ≠ .shared owner address size) :
    SharesProduced (new ++ events) ↔ SharesProduced events := by
  induction new with
  | nil => exact Iff.rfl
  | cons event new ih =>
      have hrest := ih fun event hevent =>
        hnew event (List.mem_cons_of_mem _ hevent)
      cases event with
      | shared owner address size =>
          exact absurd rfl (hnew _ List.mem_cons_self owner address size)
      | _ => exact hrest

private theorem Event.not_produces_of_deletion {resource : VirglResource}
    {pushCount : Nat} {event : Event} (owner : Nat)
    (hevent : event ∈ deletionEvents resource pushCount) :
    ¬event.Produces owner ∧
      ∀ other address size, event ≠ .shared other address size := by
  unfold deletionEvents at hevent
  split at hevent
  · split at hevent
    · rw [List.mem_singleton.mp hevent]
      exact ⟨not_false, nofun⟩
    · rw [List.mem_singleton.mp hevent]
      exact ⟨not_false, nofun⟩
  · cases hevent

structure MapInvariant (driver : Driver) : Prop where
  tracked : Tracked [] driver
  accounted : ∀ entry ∈ driver.live, entry.2.Accounted driver.notable
  produced : SharesProduced driver.notable

namespace MapInvariant

variable {addBuf : Nat → Bool} {before after : Driver}

private theorem append_accounted {new events : List Event}
    {resource : VirglResource} (h : resource.Accounted events)
    (hnew : ∀ event ∈ new, ¬event.Produces resource.serial) :
    resource.Accounted (new ++ events) := by
  induction new with
  | nil => exact h
  | cons event new ih =>
      have hrest := ih fun event hevent =>
        hnew event (List.mem_cons_of_mem _ hevent)
      exact hrest.cons (hnew event List.mem_cons_self)

variable (addBuf) in
private theorem deletion_events (contextId : UInt32)
    (gone : List VirglResource) (driver : Driver) :
    ∃ new, (gone.foldl (deleteAndRelease addBuf contextId) driver).notable =
        new ++ driver.notable ∧
      ∀ event ∈ new, (∀ owner, ¬event.Produces owner) ∧
        ∀ owner address size, event ≠ .shared owner address size := by
  induction gone generalizing driver with
  | nil =>
      refine ⟨[], ?_, by simp⟩
      rw [List.foldl_nil, List.nil_append]
  | cons resource rest ih =>
      obtain ⟨new, hnotable, hnew⟩ :=
        ih (deleteAndRelease addBuf contextId driver resource)
      rw [deleteAndRelease_notable] at hnotable
      refine ⟨new ++ .released resource.serial ::
        deletionEvents resource driver.pushCount, ?_, ?_⟩
      · rw [List.foldl_cons, hnotable]
        simp
      · intro event hevent
        rcases List.mem_append.mp hevent with hlater | hevent
        · exact hnew event hlater
        · rcases List.mem_cons.mp hevent with rfl | hdeletion
          · exact ⟨fun _ => not_false, nofun⟩
          · exact ⟨fun owner =>
              (Event.not_produces_of_deletion owner hdeletion).1,
              (Event.not_produces_of_deletion 0 hdeletion).2⟩

private theorem of_append (new : List Event) (h : MapInvariant before)
    (htracked : Tracked [] after)
    (hnotable : after.notable = new ++ before.notable)
    (hnew : ∀ event ∈ new, ∀ owner address size,
      event ≠ .shared owner address size)
    (haccounted : ∀ entry ∈ after.live,
      entry.2.Accounted (new ++ before.notable)) :
    MapInvariant after where
  tracked := htracked
  accounted := hnotable ▸ haccounted
  produced := by
    rw [hnotable]
    exact (sharesProduced_append hnew).mpr h.produced

private theorem of_same (h : MapInvariant before)
    (htracked : Tracked [] after) (hnotable : after.notable = before.notable)
    (haccounted : ∀ entry ∈ after.live,
      entry.2.Accounted before.notable) : MapInvariant after where
  tracked := htracked
  accounted := hnotable ▸ haccounted
  produced := hnotable ▸ h.produced

private theorem accounted_of_remarked {events : List Event}
    (h : ∀ entry ∈ before.live, entry.2.Accounted events)
    (hlive : List.Forall₂ Remarked before.live after.live) :
    ∀ entry ∈ after.live, entry.2.Accounted events := by
  intro entry hentry
  obtain ⟨old, hold, stateEvent, fenceId, rfl, hevent⟩ :=
    mem_of_forall₂ hlive hentry
  refine (h old hold).restate fun hblob hidle => ?_
  exact (h old hold).idle hblob (hevent hidle)

private theorem of_granted {owner size : Nat} {memory : MemoryDescriptor}
    (h : MapInvariant before) (htracked : Tracked [] after)
    (hlive : List.Forall₂ Remarked before.live after.live)
    (hnotable : after.notable =
      .granted owner memory size :: before.notable) :
    MapInvariant after := by
  apply h.of_append [.granted owner memory size] htracked hnotable
  · intro event hevent other address bytes heq
    rw [List.mem_singleton.mp hevent] at heq
    cases heq
  · refine accounted_of_remarked (fun entry hentry => ?_) hlive
    exact (h.accounted entry hentry).cons not_false

private theorem accounted_of_created {resource : VirglResource}
    (h : Tracked [] before) (hserial : before.pushCount ≤ resource.serial)
    (hplain : resource.IsPlain = false)
    (hbusy : resource.bForBlob = true → resource.stateEvent = false) :
    resource.Accounted before.notable where
  plain := fun hpages => by simp [hplain] at hpages
  blob := fun _ => backingFor_eq_none (unproduced h hserial)
  mapped := fun _ hmapped =>
    absurd hmapped (not_hasMapped (unproduced h hserial))
  idle := fun hblob hidle => by simp [hbusy hblob] at hidle

theorem memory {refused : Prop} {deletes : List VirglResource}
    (h : MapInvariant before)
    (hstep : MemoryStep addBuf refused deletes before after) :
    MapInvariant after := by
  have htracked := h.tracked.memory hstep
  cases hstep with
  | quiet hlive hnotable hmemory hpushes =>
      refine h.of_same htracked hnotable ?_
      rw [hlive]
      exact h.accounted
  | bare contextId resource hlive hserial hbuffer hblob hnotable hmemory
      hpushes hcount =>
      refine h.of_same htracked hnotable ?_
      intro entry hentry
      rcases List.mem_cons.mp (hlive.mem_iff.mp hentry) with rfl | hold
      · refine accounted_of_created h.tracked (Nat.le_of_eq hserial.symm)
          (by simp [VirglResource.IsPlain, hbuffer]) fun hblob' => ?_
        rw [hblob] at hblob'
        cases hblob'
      · exact h.accounted entry hold
  | backed contextId resource hlive hserial hbuffer hblob hpages hnotable
      halloc hpushes hcount =>
      refine h.of_append [_, _] htracked hnotable ?_ ?_
      · intro event hevent
        rcases List.mem_cons.mp hevent with rfl | hgranted
        · intro owner address size heq
          cases heq
        · rw [List.mem_singleton.mp hgranted]
          intro owner address size heq
          cases heq
      · intro entry hentry
        rcases List.mem_cons.mp (hlive.mem_iff.mp hentry) with rfl | hold
        · refine ⟨fun _ => ⟨backingOf contextId resource, ?_, rfl, rfl⟩,
            ?_, ?_, ?_⟩
          · simp [backingFor, backingOf]
          · simp [hblob]
          · simp [hblob]
          · simp [hblob]
        · have holder := h.tracked.serials entry.2.serial
            (List.mem_map_of_mem hold)
          have hgranted : entry.2.Accounted
              (.granted resource.serial resource.buffer.memory
                resource.buffer.size :: before.notable) :=
            (h.accounted entry hold).cons not_false
          refine hgranted.cons ?_
          have hne : resource.serial ≠ entry.2.serial := by omega
          exact hne
  | blobCreated contextId resource hlive hserial hbuffer hblob hbusy hnotable
      hmemory hpushes hcount =>
      refine h.of_same htracked hnotable ?_
      intro entry hentry
      rcases List.mem_cons.mp (hlive.mem_iff.mp hentry) with rfl | hold
      · exact accounted_of_created h.tracked (Nat.le_of_eq hserial.symm)
          (by simp [VirglResource.IsPlain, hblob]) fun _ => hbusy
      · exact h.accounted entry hold
  | deleted contextId gone middle hgone hunlinks hafter =>
      obtain ⟨new, hnotable, hnew⟩ :=
        deletion_events addBuf contextId gone middle
      obtain ⟨contexts, hframe⟩ := hunlinks.frame
      have hlive := (foldl_deleteAndRelease addBuf contextId gone middle).1
      have hevents : after.notable = new ++ before.notable := by
        have hmiddle : middle.notable = before.notable := by rw [hframe]; rfl
        rcases hafter with rfl | rfl
        · rw [hnotable, hmiddle]
        · unfold destroyVirglContext
          rw [sendCommand_notable, hnotable, hmiddle]
      refine h.of_append new htracked hevents
        (fun event hevent => (hnew event hevent).2) ?_
      intro entry hentry
      have hmem : entry ∈ middle.live := by
        rcases hafter with rfl | rfl
        · unfold Driver.live at hentry ⊢
          rwa [hlive] at hentry
        · unfold Driver.live at hentry ⊢
          unfold destroyVirglContext at hentry
          rwa [(sendCommand_frame _ _ _ _ _).1, hlive] at hentry
      have hold := hunlinks.live.mem_iff.mpr
        (List.mem_append_right _ hmem)
      exact append_accounted (h.accounted entry hold)
        fun event hevent => (hnew event hevent).1 _
  | shared contextId resource share front back hbefore hlive hbuffer hidle
      hnotable hmemory hqueues hcount =>
      have hresource := h.accounted (contextId, resource)
        (by rw [hbefore]; simp)
      refine ⟨htracked, ?_, ?_⟩
      · intro entry hentry
        rw [hnotable]
        rw [hlive] at hentry
        rcases List.mem_append.mp hentry with hfront | hentry
        · exact (h.accounted entry (by rw [hbefore]; simp [hfront])).cons
            not_false
        · rcases List.mem_cons.mp hentry with rfl | hback
          · have hsame : resource.Accounted
                (.shared resource.serial
                  resource.buffer.memory.virtualAddress
                  resource.buffer.size :: before.notable) :=
              hresource.cons not_false
            exact ⟨hsame.plain, hsame.blob, hsame.mapped, hsame.idle⟩
          · exact (h.accounted entry (by rw [hbefore]; simp [hback])).cons
              not_false
      · rw [hnotable]
        exact sharesProduced_shared.mpr
          ⟨hresource.produced hbuffer hidle, h.produced⟩
  | transferred hlive hnotable hmemory hpushes =>
      refine h.of_same htracked hnotable ?_
      exact accounted_of_remarked h.accounted hlive
  | submitted buffer memory hlive hnotable hpages halloc hsubmit haddress
      hserial hextends =>
      exact h.of_granted htracked hlive hnotable
  | leaked hrefused memory size hlive hnotable hpages halloc hqueues
      hcount =>
      exact h.of_granted htracked hlive hnotable

/-- An update signals a mapped blob only, and what is mapped is a blob. -/
private theorem completion {buffer : VgpuBuffer} {info : MapInfo}
    {mapAddress : Option Nat} (h : MapInvariant before)
    (hstep : CompletionStep buffer info mapAddress before after)
    (hcount : after.pushCount = before.pushCount)
    (hupdates : ∀ entry ∈ before.live, entry.2.bForBlob = true →
      entry.1 = buffer.pBuf.hdr.ctxId → entry.2.id ∈ buffer.updatedIds →
        entry.2.Accepts buffer.pBuf.hdr.fenceId →
          HasMapped entry.2.serial before.notable)
    (htargets : mapAddress ≠ none → ∀ target ∈ before.mapTarget buffer,
      target.IsPlain = false) : MapInvariant after := by
  have htracked := h.tracked.completion hstep hcount
  cases hstep with
  | updated hlive hnotable =>
      refine h.of_same htracked hnotable ?_
      intro entry hentry
      obtain ⟨old, hold, hsame | ⟨⟨hctx, hmem, haccepts⟩, hupdate⟩⟩ :=
        mem_of_forall₂ hlive hentry
      · rw [hsame]
        exact h.accounted old hold
      · obtain ⟨stateEvent, fenceId, hstate⟩ := VirglResource.updateState_eq
          false buffer.pBuf.hdr.fenceId old.2
        rw [hupdate, hstate]
        exact (h.accounted old hold).restate fun hblob _ =>
          hupdates old hold hblob hctx hmem haccepts
  | mapped resource address front back htarget haddress hbefore hlive
      hnotable =>
      have hpages : resource.IsPlain = false :=
        htargets (by simp [haddress]) resource htarget
      have hserials := h.tracked.nodup
      unfold Driver.serials at hserials
      rw [hbefore] at hserials
      simp only [List.map_nil, List.nil_append, List.map_append,
        List.map_cons, List.nodup_middle, List.nodup_cons] at hserials
      have hother : ∀ entry ∈ front ++ back,
          resource.serial ≠ entry.2.serial := by
        intro entry hentry heq
        refine hserials.1 ?_
        rw [← List.map_append, heq]
        exact List.mem_map_of_mem hentry
      refine h.of_append [_] htracked hnotable ?_ ?_
      · intro event hevent
        rw [List.mem_singleton.mp hevent]
        exact nofun
      · intro entry hentry
        have hcases : entry ∈ front ++ back ∨
            entry = (buffer.pBuf.hdr.ctxId,
              resource.mapAt info.size address) := by
          rw [hlive] at hentry
          simp only [List.mem_append, List.mem_cons] at hentry ⊢
          tauto
        rcases hcases with hkept | rfl
        · have hold : entry ∈ before.live := by
            rw [hbefore]
            simp only [List.mem_append, List.mem_cons] at hkept ⊢
            tauto
          exact (h.accounted entry hold).cons (hother entry hkept)
        · have hold := h.accounted (buffer.pBuf.hdr.ctxId, resource)
            (by rw [hbefore]; simp)
          refine ⟨fun hplain => ?_, fun hblob => ?_, fun _ _ => ?_,
            fun _ _ => ?_⟩
          · have hsame : (resource.mapAt info.size address).IsPlain =
                resource.IsPlain := rfl
            rw [hsame, hpages] at hplain
            cases hplain
          · exact hold.blob hblob
          · exact List.mem_cons_self
          · exact ⟨_, List.mem_cons_self, address, info.size, rfl⟩

theorem step {world : World} {action : Action}
    (h : MapInvariant world.driver) (hguard : world.SignalsMapped action) :
    MapInvariant (World.step addBuf world action).driver := by
  cases action with
  | request processId request =>
      exact h.memory (virtioVgpuIoControl_memory processId world.driver
        request)
  | processExit processId =>
      exact h.memory (processNotify_memory addBuf processId
        world.driver)
  | host queue slot info =>
      have htracked := h.tracked.step addBuf
        (.host queue slot info)
      simp only [World.step] at htracked ⊢
      split
      · exact h
      · rename_i buffer hslot
        rw [hslot] at htracked
        exact h.of_same htracked (returnBuffer_notable _ _ _ _ _) h.accounted
  | dpc queue mapAddress =>
      simp only [World.step]
      rcases readOneFromQueue_step queue mapAddress world.driver with
        hsame | ⟨buffer, info, rest, hused, hstep, hcompletes⟩
      · rw [hsame]
        exact h
      · obtain ⟨hupdates, htargets⟩ := hguard
        exact h.completion hstep hcompletes.pushCount
          (hupdates (buffer, info) (by rw [hused]; rfl))
          (htargets (buffer, info) (by rw [hused]; rfl))

theorem signaledMapped {driver : Driver} (h : MapInvariant driver) :
    driver.SignaledMapped := by
  intro entry hentry hblob hidle
  have haccounted := h.accounted entry hentry
  exact haccounted.mapped hblob (haccounted.idle hblob hidle)

end MapInvariant

theorem shares_produced (addBuf : Nat → Bool)
    (virtualAddress physicalAddress memorySize : Nat) (capsets : Capsets)
    (actions : List Action)
    (hsignals : Along (World.step addBuf) World.SignalsMapped
      (World.start virtualAddress physicalAddress memorySize capsets)
      actions) :
    SharesProduced (runFrom (World.step addBuf)
        (World.start virtualAddress physicalAddress memorySize capsets)
        actions).driver.notable ∧
      (runFrom (World.step addBuf)
        (World.start virtualAddress physicalAddress memorySize capsets)
        actions).driver.SignaledMapped := by
  have hstep : ∀ world action, MapInvariant world.driver →
      world.SignalsMapped action →
      MapInvariant (World.step addBuf world action).driver :=
    fun world action h hguard => h.step hguard
  have hstart : MapInvariant (World.start virtualAddress physicalAddress
      memorySize capsets).driver :=
    { tracked := start_tracked virtualAddress physicalAddress memorySize
        capsets
      accounted := by simp [World.start, Driver.live, liveIn]
      produced := trivial }
  have hinvariant := Along.invariant hstep hsignals hstart
  exact ⟨hinvariant.produced, hinvariant.signaledMapped⟩

/-- A blob and a plain resource are mapped after a submission that lists
both. -/
def mappedRun : List Action :=
  [.request 7 .initContext, .request 7 (.create 0x1000),
   .request 7 (.createBlobIn (.pool IoRequest.poolRecord)),
   .request 7 (.submit [1, 2] none),
   .host .command 0 { gpa := 0, size := 0 },
   .host .command 0 { gpa := 0, size := 0 },
   .host .command 0 { gpa := 0, size := 0 },
   .host .command 0 { gpa := 0x70000, size := 0x1000 },
   .host .command 0 { gpa := 0, size := 0 },
   .dpc .command none, .dpc .command none, .dpc .command none,
   .dpc .command (some 0x9000), .dpc .command none,
   .request 7 (.mapAt 1 0x100), .request 7 (.mapAt 2 0x200)]

theorem shares_produced_mappedRun :
    SharesProduced (runFrom (World.step fun _ => true)
        World.eightPages mappedRun).driver.notable ∧
      (runFrom (World.step fun _ => true)
        World.eightPages mappedRun).driver.SignaledMapped :=
  shares_produced _ _ _ _ _ _ (by decide +kernel)

/-- The blob gets the record of a closed resource; its mapping fails, and the
completion of a submission sets its event. -/
def unmappedRun : List Action :=
  List.append
    [.request 7 .initContext, .request 7 (.create 0x1000),
     .request 7 (.close 1), .request 7 (.createBlobIn .recycled),
     .request 7 (.submit [2] none)]
    (List.append (Action.serve 7) [.request 7 (.mapAt 2 0x200)])

theorem not_sharesProduced_unmappedRun :
    Along (World.step fun _ => true)
        (fun _ action => action.IsFifo .command) World.eightPages unmappedRun ∧
      ¬SharesProduced (runFrom (World.step fun _ => true)
        World.eightPages unmappedRun).driver.notable := by
  decide +kernel

end VgpuDriver
