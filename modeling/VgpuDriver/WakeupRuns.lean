import VgpuDriver.Signals

namespace VgpuDriver

open Data

/-! A busy resource is referred to by a command in flight whose completion
sets its event, in whatever order the host returns the commands. -/

/-- A SUBMIT_3D that lists the resource, a transfer that names it, or the
RESOURCE_MAP_BLOB that its creation pushed. -/
def VgpuBuffer.References (buffer : VgpuBuffer) (contextId : UInt32)
    (resource : VirglResource) : Prop :=
  buffer.pBuf.hdr.ctxId = contextId ∧
    (resource.id ∈ buffer.updatedIds ∨
      (buffer.mappedId = some resource.id ∧
        buffer.serial = resource.serial + 1))

/-- If the completion handler processed the buffer now, with whatever reply
and mapping, the event of the resource would be set. -/
def Driver.WouldSignal (driver : Driver) (buffer : VgpuBuffer)
    (contextId : UInt32) (resource : VirglResource) : Prop :=
  ∀ info address, ∃ after,
    (contextId, after) ∈
        (completeBuffer buffer info (some address) driver).live ∧
      after.serial = resource.serial ∧ after.stateEvent = true

/-- No lost wake-up. -/
def Driver.BusyAwaited (driver : Driver) : Prop :=
  ∀ entry ∈ driver.live, entry.2.stateEvent = false →
    ∃ queue, ∃ buffer ∈ driver.inFlight queue,
      buffer.References entry.1 entry.2 ∧
        driver.WouldSignal buffer entry.1 entry.2

/-- A request that has to wait waits for a busy live resource. -/
def Driver.WaitersBusy (addBuf : Nat → Bool) (driver : Driver) : Prop :=
  ∀ processId request owner,
    (virtioVgpuIoControl addBuf processId driver request).1 =
        .waiting owner →
      ∃ entry ∈ driver.live, entry.2.serial = owner ∧
        entry.2.stateEvent = false

/-- What the run is promised: handle arrays stay as they are, the pool and
`MmMapIoSpaceEx` succeed, and the resource ids do not run out. -/
def World.Promised (world : World) : Action → Prop
  | .request _ request =>
      request.ReadsOnce ∧ request.CopyGranted ∧
        world.driver.resourceIds.drawn + 1 < 2 ^ 32
  | .dpc _ mapAddress => mapAddress ≠ none
  | _ => True

instance (world : World) :
    (action : Action) → Decidable (world.Promised action)
  | .request _ _ => inferInstanceAs (Decidable (_ ∧ _ ∧ _))
  | .processExit _ => inferInstanceAs (Decidable True)
  | .host _ _ _ => inferInstanceAs (Decidable True)
  | .dpc _ _ => inferInstanceAs (Decidable (_ ≠ _))

/-- The completion of the command sets the event, as far as the command and
the resource tell. -/
def VgpuBuffer.Wakes (buffer : VgpuBuffer)
    (entry : UInt32 × VirglResource) : Prop :=
  buffer.pBuf.hdr.ctxId = entry.1 ∧
    ((buffer.mappedId = some entry.2.id ∧
        buffer.serial = entry.2.serial + 1) ∨
      (entry.2.id ∈ buffer.updatedIds ∧
        entry.2.Accepts buffer.pBuf.hdr.fenceId))

structure WakeupInvariant (driver : Driver) : Prop where
  distinct : driver.Distinct
  counted : driver.resourceIds.Counted
  ids : ∀ entry ∈ driver.live,
    entry.2.id.toNat ≤ driver.resourceIds.drawn
  control : ∀ buffer ∈ driver.inFlight .control, buffer.Quiet
  awaited : ∀ entry ∈ driver.live, entry.2.stateEvent = false →
    ∃ buffer ∈ driver.inFlight .command, buffer.Wakes entry

theorem nextResourceId_toNat {driver : Driver}
    (hcounted : driver.resourceIds.Counted)
    (hleft : driver.resourceIds.drawn + 1 < 2 ^ 32) :
    (nextResourceId driver).toNat = driver.resourceIds.drawn + 1 := by
  unfold Idr.Counted at hcounted
  unfold nextResourceId getIdFromIdrWithoutCache lowBytes
  simp only [hcounted, UInt32.toNat_ofNat']
  omega

namespace WakeupInvariant

variable {before after : Driver}

theorem drawsFreshId (h : WakeupInvariant before)
    (hleft : before.resourceIds.drawn + 1 < 2 ^ 32) (contextId : UInt32)
    (request : IoRequest) : request.DrawsFreshId contextId before := by
  have hfresh : ∀ entry ∈ before.live, entry.1 = contextId →
      entry.2.id ≠ nextResourceId before := by
    intro entry hentry _ heq
    have hbound := h.ids entry hentry
    rw [heq, nextResourceId_toNat h.counted hleft] at hbound
    omega
  cases request with
  | resourceCreate request => exact hfresh
  | blobResourceCreate request => exact hfresh
  | _ => trivial

private theorem ids_of_signal {addBuf : Nat → Bool} {refused : Prop}
    (h : WakeupInvariant before)
    (hstep : SignalStep addBuf refused before after)
    (hidrs : IdrsStep before after)
    (hleft : after.resourceIds = before.resourceIds ∨
      before.resourceIds.drawn + 1 < 2 ^ 32) :
    ∀ entry ∈ after.live, entry.2.id.toNat ≤ after.resourceIds.drawn := by
  intro entry hentry
  have hdrawn : before.resourceIds.drawn ≤ after.resourceIds.drawn := by
    rcases hidrs.resourceIds with hsame | hdrawn
    · rw [hsame]
    · rw [hdrawn]
      exact Nat.le_succ _
  rcases hstep.origin hentry with ⟨old, hold, _, hid, _⟩ | ⟨hid, hids⟩
  · rw [← hid]
    exact Nat.le_trans (h.ids old hold) hdrawn
  · have hsmall : before.resourceIds.drawn + 1 < 2 ^ 32 := by
      refine hleft.resolve_left fun hsame => ?_
      have hmore := congrArg Idr.drawn (hids.symm.trans hsame)
      simp [getIdFromIdrWithoutCache] at hmore
    rw [hid, nextResourceId_toNat h.counted hsmall, hids]
    simp [getIdFromIdrWithoutCache]

private theorem awaited_of_mem {entry : UInt32 × VirglResource}
    (h : WakeupInvariant before)
    (hmem : ∀ buffer ∈ before.inFlight .command,
      buffer ∈ after.inFlight .command)
    (hentry : entry ∈ before.live) (hbusy : entry.2.stateEvent = false) :
    ∃ buffer ∈ after.inFlight .command, buffer.Wakes entry := by
  obtain ⟨buffer, hbuffer, hwakes⟩ := h.awaited entry hentry hbusy
  exact ⟨buffer, hmem buffer hbuffer, hwakes⟩

theorem signal {addBuf : Nat → Bool} {refused : Prop}
    (h : WakeupInvariant before) (hpush : ∀ serial, addBuf serial = true)
    (hgranted : ¬refused)
    (hstep : SignalStep addBuf refused before after)
    (hdistinct : after.Distinct) (hidrs : IdrsStep before after)
    (hleft : after.resourceIds = before.resourceIds ∨
      before.resourceIds.drawn + 1 < 2 ^ 32) :
    WakeupInvariant after := by
  have hcounted : after.resourceIds.Counted := by
    rcases hidrs.resourceIds with hsame | hdrawn
    · rw [hsame]
      exact h.counted
    · rw [hdrawn]
      exact h.counted.getIdFromIdrWithoutCache 4
  have hids := h.ids_of_signal hstep hidrs hleft
  cases hstep with
  | quiet hlive hpushes =>
      refine ⟨hdistinct, hcounted, hids, ?_, ?_⟩
      · exact fun buffer hbuffer =>
          (hpushes.of_mem_inFlight hbuffer).elim (h.control buffer)
            fun hquiet => hquiet
      · intro entry hentry
        exact h.awaited_of_mem (fun _ => hpushes.mem_inFlight)
          (hlive entry hentry)
  | created contextId resource hlive hserial hid hresourceIds hfence hidle
      hpushes hcount =>
      refine ⟨hdistinct, hcounted, hids, ?_, ?_⟩
      · exact fun buffer hbuffer =>
          (hpushes.of_mem_inFlight hbuffer).elim (h.control buffer)
            fun hquiet => hquiet
      · intro entry hentry hbusy
        rcases List.mem_cons.mp (hlive.mem_iff.mp hentry) with rfl | hold
        · rw [hidle] at hbusy
          cases hbusy
        · exact h.awaited_of_mem (fun _ => hpushes.mem_inFlight) hold hbusy
  | blobCreated contextId resource buffer hlive hserial hid hresourceIds
      hfence hevent hctxId hbody hmap hpushes hcount hpushed =>
      refine ⟨hdistinct, hcounted, hids, ?_, ?_⟩
      · intro other hother
        rcases hpushes.of_mem_inFlight hother with hold | hquiet | ⟨hno, _⟩
        · exact h.control other hold
        · exact hquiet
        · cases hno
      · intro entry hentry hbusy
        rcases List.mem_cons.mp (hlive.mem_iff.mp hentry) with rfl | hold
        · refine ⟨buffer, hpushed (hpush _), hctxId, Or.inl ⟨?_, hmap⟩⟩
          simp [VgpuBuffer.mappedId, hbody]
        · exact h.awaited_of_mem (fun _ => hpushes.mem_inFlight) hold hbusy
  | shared contextId id share hlive hpushes =>
      refine ⟨hdistinct, hcounted, hids, ?_, ?_⟩
      · exact fun buffer hbuffer =>
          (hpushes.of_mem_inFlight hbuffer).elim (h.control buffer)
            fun hquiet => hquiet
      · intro entry hentry hbusy
        rw [hlive] at hentry
        obtain ⟨old, hold, rfl⟩ := List.mem_map.mp hentry
        obtain ⟨given, hgive, hid, hserial, hfence, hevent⟩ :=
          giveShare_cases contextId id share old
        rw [hgive] at hbusy ⊢
        obtain ⟨buffer, hbuffer, hctx, hwakes⟩ :=
          h.awaited old hold (hevent ▸ hbusy)
        refine ⟨buffer, hpushes.mem_inFlight hbuffer, hctx, ?_⟩
        unfold VirglResource.Accepts at hwakes ⊢
        rw [hid, hserial, hfence]
        exact hwakes
  | marked buffer hlive hmapped hserial hfence hextends =>
      have hmem : ∀ other ∈ before.inFlight .command,
          other ∈ after.inFlight .command := by
        intro other hother
        rw [hextends.inFlight]
        exact List.mem_append_left _ hother
      refine ⟨hdistinct, hcounted, hids, ?_, ?_⟩
      · intro other hother
        rw [hextends.inFlight] at hother
        rcases List.mem_append.mp hother with hold | hpushed
        · exact h.control other hold
        · exact absurd (mem_accepted hpushed).1 (by decide)
      · intro entry hentry hbusy
        rw [hlive] at hentry
        obtain ⟨old, hold, rfl⟩ := List.mem_map.mp hentry
        obtain ⟨marked, hmark, hid, hserial', _, _, hcases⟩ := markBusy_cases
          buffer.pBuf.hdr.ctxId buffer.updatedIds buffer.pBuf.hdr.fenceId old
        rw [hmark] at hbusy ⊢
        rcases hcases with ⟨⟨hctx, hlisted, _⟩, _, hfences⟩ | ⟨_, hsame⟩
        · -- the command itself is in flight now
          refine ⟨buffer, ?_, hctx.symm, Or.inr ⟨hid ▸ hlisted, ?_⟩⟩
          · rw [hextends.inFlight]
            simp [accepted, hpush buffer.serial]
          · rcases hfences with hzero | hsame
            · exact Or.inl hzero
            · exact Or.inr (hsame ▸ UInt64.le_refl _)
        · rw [hsame] at hbusy ⊢
          exact h.awaited_of_mem hmem hold hbusy
  | uncopied hrefused => exact absurd hrefused hgranted

private theorem completes {buffer : VgpuBuffer} {info : MapInfo}
    {address : Nat} (h : WakeupInvariant before)
    (hcompletes : Completes .command buffer info (some address) before
      after) : WakeupInvariant after := by
  have hhead := hcompletes.head
  refine ⟨h.distinct.completes hcompletes, ?_, ?_, ?_, ?_⟩
  · rw [hcompletes.resourceIds]
    exact h.counted
  · intro entry hentry
    rw [live_of_completion h.distinct hcompletes.contexts] at hentry
    obtain ⟨old, hold, rfl⟩ := List.mem_map.mp hentry
    obtain ⟨done, hdone, hid, _⟩ :=
      buffer.completed_cases info (some address) old.2
    rw [hcompletes.resourceIds]
    split
    · rw [hdone, hid]
      exact h.ids old hold
    · exact h.ids old hold
  · rw [hcompletes.others .control (by decide)]
    exact h.control
  · intro entry hentry hbusy
    rw [live_of_completion h.distinct hcompletes.contexts] at hentry
    obtain ⟨old, hold, rfl⟩ := List.mem_map.mp hentry
    obtain ⟨done, hdone, _, _, _, _, hcases⟩ :=
      buffer.completed_cases info (some address) old.2
    -- what is still busy was busy before, and not for the completed command
    have hsame : (if old.1 = buffer.pBuf.hdr.ctxId then
        (old.1, buffer.completed info (some address) old.2) else old) =
          old ∧ ¬buffer.Wakes old := by
      by_cases hhere : old.1 = buffer.pBuf.hdr.ctxId
      · rw [if_pos hhere, hdone] at hbusy ⊢
        rcases hcases with ⟨_, hset⟩ | ⟨hunset, hsame⟩
        · rw [hset] at hbusy
          cases hbusy
        · rw [hsame]
          refine ⟨rfl, fun hwakes => hunset ?_⟩
          exact hwakes.2.imp_left fun hmapped => ⟨hmapped.1, rfl⟩
      · rw [if_neg hhere]
        exact ⟨rfl, fun hwakes => hhere hwakes.1.symm⟩
    rw [hsame.1] at hbusy ⊢
    obtain ⟨other, hother, hwakes⟩ := h.awaited old hold hbusy
    rw [hhead] at hother
    rcases List.mem_cons.mp hother with rfl | htail
    · exact absurd hwakes hsame.2
    · exact ⟨other, htail, hwakes⟩

private theorem returnBuffer {driver : Driver} {queue : Queue} {slot : Nat}
    {buffer : VgpuBuffer} (h : WakeupInvariant driver) (info : MapInfo)
    (hslot : (driver.virtQueues queue).avail[slot]? = some buffer) :
    WakeupInvariant (driver.returnBuffer queue slot buffer info) := by
  have hperm := returnBuffer_inFlight_perm info hslot
  refine ⟨h.distinct.of_contexts rfl, h.counted, h.ids, ?_, ?_⟩
  · exact fun other hother =>
      h.control other ((hperm .control).mem_iff.mp hother)
  · intro entry hentry hbusy
    obtain ⟨other, hother, hwakes⟩ := h.awaited entry hentry hbusy
    exact ⟨other, (hperm .command).mem_iff.mpr hother, hwakes⟩

private theorem readOneFromQueue {driver : Driver} {queue : Queue}
    {mapAddress : Option Nat} (h : WakeupInvariant driver)
    (hmapped : mapAddress ≠ none) :
    WakeupInvariant (readOneFromQueue queue mapAddress driver) := by
  obtain ⟨address, rfl⟩ := Option.ne_none_iff_exists'.mp hmapped
  rcases readOneFromQueue_cases queue (some address) driver with
    hsame | ⟨buffer, info, rest, hused, _, hcompletes⟩
  · rw [hsame]
    exact h
  · cases queue with
    | command => exact h.completes hcompletes
    | control =>
        have hquiet := h.control buffer
          (hcompletes.head ▸ List.mem_cons_self)
        have hcontexts := hcompletes.quiet hquiet
        have hlive := congrArg liveIn hcontexts
        refine ⟨h.distinct.of_contexts hcontexts, ?_, ?_, ?_, ?_⟩
        · rw [hcompletes.resourceIds]
          exact h.counted
        · unfold Driver.live
          rw [hlive, hcompletes.resourceIds]
          exact h.ids
        · exact fun other hother => h.control other
            (hcompletes.head ▸ List.mem_cons_of_mem _ hother)
        · unfold Driver.live
          rw [hlive, hcompletes.others .command (by decide)]
          exact h.awaited

theorem step {addBuf : Nat → Bool} {world : World} {action : Action}
    (h : WakeupInvariant world.driver)
    (hpush : ∀ serial, addBuf serial = true)
    (hpromised : world.Promised action) :
    WakeupInvariant (World.step addBuf world action).driver := by
  cases action with
  | request processId request =>
      obtain ⟨hreads, hgranted, hleft⟩ := hpromised
      exact h.signal hpush (not_not.mpr hgranted)
        (virtioVgpuIoControl_signal processId h.distinct hreads)
        (virtioVgpuIoControl_distinct processId h.distinct
          (h.drawsFreshId hleft processId request))
        (virtioVgpuIoControl_idrs processId world.driver request)
        (Or.inr hleft)
  | processExit processId =>
      obtain ⟨hids, hfences⟩ := processNotify_idrs addBuf processId
        world.driver
      exact h.signal hpush not_false
        (processNotify_signal processId world.driver)
        (processNotify_distinct processId h.distinct)
        ⟨Or.inl hids, Or.inl hfences⟩ (Or.inl hids)
  | host queue slot info =>
      simp only [World.step]
      split
      · exact h
      · rename_i buffer hslot
        exact h.returnBuffer info hslot
  | dpc queue mapAddress => exact h.readOneFromQueue hpromised

theorem busyAwaited {driver : Driver} (h : WakeupInvariant driver) :
    driver.BusyAwaited := by
  intro entry hentry hbusy
  obtain ⟨buffer, hbuffer, hctx, hwakes⟩ := h.awaited entry hentry hbusy
  refine ⟨.command, buffer, hbuffer, ⟨hctx, ?_⟩, ?_⟩
  · exact hwakes.elim Or.inr fun hupdates => Or.inl hupdates.1
  · intro info address
    obtain ⟨done, hdone, _, hserial, _, _, hcases⟩ :=
      buffer.completed_cases info (some address) entry.2
    have hsets : buffer.SetsEvent (some address) entry.2 :=
      hwakes.imp_left fun hmapped => ⟨hmapped.1, rfl⟩
    refine ⟨done, ?_, hserial, ?_⟩
    · rw [live_of_completion h.distinct
        (completeBuffer_contexts buffer info (some address) driver)]
      refine List.mem_map.mpr ⟨entry, hentry, ?_⟩
      rw [if_pos hctx.symm, hdone]
    · exact hcases.elim (fun hset => hset.2) fun hunset =>
        absurd hsets hunset.1

end WakeupInvariant

theorem start_wakeupInvariant
    (virtualAddress physicalAddress memorySize : Nat) (capsets : Capsets) :
    WakeupInvariant (World.start virtualAddress physicalAddress memorySize
      capsets).driver where
  distinct := ⟨List.nodup_nil, by simp [World.start]⟩
  counted := initializeIdr_counted
  ids := by simp [World.start, Driver.live, liveIn]
  control := by simp [World.start, Driver.inFlight, Virtqueue.inFlight]
  awaited := by simp [World.start, Driver.live, liveIn]

section Waiters

variable {addBuf : Nat → Bool} {processId : UInt32} {driver : Driver}

/-- The reply is final. -/
private def Reply.IsComplete : Reply → Prop
  | .waiting _ => False
  | .complete _ _ => True

private theorem Fetch.andThen_complete {α : Type} {fetch : Fetch α}
    {current : Driver} {next : α → Reply × Driver}
    (hnext : ∀ contents, (next contents).1.IsComplete) :
    (fetch.andThen current next).1.IsComplete := by
  rcases fetch.andThen_cases current next with ⟨_, heq⟩ | ⟨contents, _, heq⟩
  · rw [heq]
    trivial
  · rw [heq]
    exact hnext contents

private theorem Fetch.andThen_waiting {α : Type} {fetch : Fetch α}
    {current : Driver} {next : α → Reply × Driver} {owner : Nat}
    (hwaiting : (fetch.andThen current next).1 = .waiting owner) :
    ∃ contents, (next contents).1 = .waiting owner := by
  rcases fetch.andThen_cases current next with ⟨_, heq⟩ | ⟨contents, _, heq⟩
  · rw [heq] at hwaiting
    cases hwaiting
  · rw [heq] at hwaiting
    exact ⟨contents, hwaiting⟩

private theorem createResource_complete (context : VirglContext)
    (create : DrmVirtgpuResourceCreate)
    (grant : LookAsideGrant VirglResource) :
    (createResource addBuf context create grant driver).1.IsComplete := by
  unfold createResource
  split
  · trivial
  · dsimp only
    split
    · split
      · trivial
      · trivial
    · trivial

private theorem submitPages_complete (context : VirglContext)
    (cmd : DrmVirtgpuExecbuffer) (request : ExecbufferRequest)
    (outFence : Option Nat) :
    (submitPages addBuf context cmd request outFence
      driver).1.IsComplete := by
  unfold submitPages
  dsimp only
  split
  · trivial
  · split
    · refine Fetch.andThen_complete fun reads => ?_
      split
      · trivial
      · trivial
    · trivial

private theorem ctlInitVirglContext_complete
    (request : ContextInitRequest) :
    (ctlInitVirglContext addBuf processId request
      driver).1.IsComplete := by
  unfold ctlInitVirglContext
  split
  · trivial
  · refine Fetch.andThen_complete fun init => ?_
    refine Fetch.andThen_complete fun params => ?_
    dsimp only
    split
    · trivial
    · split
      · trivial
      · trivial

private theorem ctlSubmitCommand_complete (request : ExecbufferRequest) :
    (ctlSubmitCommand addBuf processId request driver).1.IsComplete := by
  refine Fetch.andThen_complete fun cmd => ?_
  split
  · trivial
  · dsimp only
    split
    · trivial
    · split
      · trivial
      · refine Fetch.andThen_complete fun _ => ?_
        exact submitPages_complete _ cmd request _

private theorem lookup_complete {contexts : List VirglContext}
    {next : VirglContext → Reply × Driver}
    (hnext : ∀ context, (next context).1.IsComplete) :
    (match getVirglContextFromListUnsafe contexts processId with
      | none => (Reply.complete .unsuccessful none, driver)
      | some context => next context).1.IsComplete := by
  split
  · trivial
  · exact hnext _

private theorem lookups_complete {contexts : List VirglContext}
    {handle : UInt32} {next : VirglContext → VirglResource → Reply × Driver}
    (hnext : ∀ context resource, (next context resource).1.IsComplete) :
    (match getVirglContextFromListUnsafe contexts processId with
      | none => (Reply.complete .unsuccessful none, driver)
      | some context =>
          match getResourceFromListUnsafe context handle with
          | none => (Reply.complete .unsuccessful none, driver)
          | some resource => next context resource).1.IsComplete := by
  refine lookup_complete fun context => ?_
  split
  · trivial
  · exact hnext _ _

private theorem createBlob_complete (context : VirglContext)
    (create : DrmVirtgpuResourceCreateBlob)
    (grant : LookAsideGrant VirglResource) :
    (createBlob addBuf context create grant driver).1.IsComplete := by
  unfold createBlob
  split
  · trivial
  · trivial

variable (driver) in
private theorem mapResource_complete (contextId : UInt32)
    (resource : VirglResource) (request : MapRequest) :
    (mapResource contextId resource request driver).1.IsComplete := by
  unfold mapResource
  dsimp only
  split
  · trivial
  · trivial

/-- Only `CtlWait` and `CtlMap` wait, each for the busy resource that it has
looked up. -/
theorem driver_waitersBusy (addBuf : Nat → Bool) (driver : Driver) :
    driver.WaitersBusy addBuf := by
  intro processId request owner hwaiting
  have hnever : ¬(virtioVgpuIoControl addBuf processId driver
      request).1.IsComplete := by
    rw [hwaiting]
    exact not_false
  cases request with
  | contextInit request =>
      exact absurd (ctlInitVirglContext_complete request) hnever
  | destroyContext =>
      refine absurd ?_ hnever
      exact lookup_complete fun context => by trivial
  | resourceCreate request =>
      refine absurd (Fetch.andThen_complete fun create => ?_) hnever
      refine Fetch.andThen_complete fun _ => ?_
      exact lookup_complete fun context =>
        createResource_complete context create request.record
  | blobResourceCreate request =>
      refine absurd (Fetch.andThen_complete fun create => ?_) hnever
      refine Fetch.andThen_complete fun _ => ?_
      exact lookup_complete fun context =>
        createBlob_complete context create request.record
  | resourceClose input =>
      refine absurd (Fetch.andThen_complete fun close => ?_) hnever
      exact lookups_complete fun context resource => trivial
  | execbuffer request =>
      exact absurd (ctlSubmitCommand_complete request) hnever
  | transferHost toHost request =>
      refine absurd (Fetch.andThen_complete fun cmd => ?_) hnever
      exact lookups_complete fun context resource => trivial
  | wait request =>
      obtain ⟨cmd, hcmd⟩ := Fetch.andThen_waiting hwaiting
      obtain ⟨_, hreply⟩ := Fetch.andThen_waiting hcmd
      split at hreply
      · cases hreply
      · rename_i context hcontext
        split at hreply
        · cases hreply
        · rename_i resource hresource
          split at hreply
          · cases hreply
          · split at hreply
            · cases hreply
            · rename_i hbusy
              cases hreply
              exact ⟨(processId, resource), mem_live_of_lookup hcontext
                (List.mem_of_find?_eq_some hresource), rfl,
                by simpa using hbusy⟩
  | map request =>
      obtain ⟨cmd, hcmd⟩ := Fetch.andThen_waiting hwaiting
      obtain ⟨_, hreply⟩ := Fetch.andThen_waiting hcmd
      split at hreply
      · cases hreply
      · rename_i context hcontext
        split at hreply
        · cases hreply
        · rename_i resource hresource
          split at hreply
          · cases hreply
          · split at hreply
            · cases hreply
            · split at hreply
              · rename_i hbusy
                cases hreply
                exact ⟨(processId, resource), mem_live_of_lookup hcontext
                  (List.mem_of_find?_eq_some hresource), rfl,
                  by simpa using hbusy⟩
              · have hcomplete := mapResource_complete driver
                  context.id resource request
                rw [hreply] at hcomplete
                exact hcomplete.elim

end Waiters

/-- Every busy resource, and so every request that has to wait, is waited for
with a command in flight that will set the event. -/
theorem busy_awaited (addBuf : Nat → Bool)
    (virtualAddress physicalAddress memorySize : Nat) (capsets : Capsets)
    (actions : List Action) (hpush : ∀ serial, addBuf serial = true)
    (hpromised : Along (World.step addBuf) World.Promised
      (World.start virtualAddress physicalAddress memorySize capsets)
      actions) :
    (runFrom (World.step addBuf)
        (World.start virtualAddress physicalAddress memorySize capsets)
        actions).driver.BusyAwaited ∧
      (runFrom (World.step addBuf)
        (World.start virtualAddress physicalAddress memorySize capsets)
        actions).driver.WaitersBusy addBuf := by
  have hstep : ∀ world action, WakeupInvariant world.driver →
      world.Promised action →
      WakeupInvariant (World.step addBuf world action).driver :=
    fun world action h hguard => h.step hpush hguard
  have hinvariant := Along.invariant hstep hpromised
    (start_wakeupInvariant virtualAddress physicalAddress memorySize capsets)
  exact ⟨hinvariant.busyAwaited, driver_waitersBusy addBuf _⟩

/-- The submission is returned before the transfer and the RESOURCE_MAP_BLOB
that were pushed before it; then the resource is made busy again. -/
def outOfOrderRun : List Action :=
  [.request 7 .initContext, .request 7 (.create 1),
   .request 7 (.createBlobIn (.pool IoRequest.poolRecord)),
   .request 7 (.transfer 1), .request 7 (.submit [1, 2] (some 100)),
   .host .command 4 { gpa := 0, size := 0 }, .dpc .command (some 0x9000),
   .request 7 (.transfer 1)]

theorem busy_awaited_outOfOrderRun :
    (runFrom (World.step fun _ => true)
        World.eightPages outOfOrderRun).driver.BusyAwaited ∧
      (runFrom (World.step fun _ => true)
        World.eightPages outOfOrderRun).driver.WaitersBusy
              fun _ => true :=
  busy_awaited _ _ _ _ _ _ (fun _ => rfl) (by decide +kernel)

end VgpuDriver
