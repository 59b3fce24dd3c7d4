import VgpuDriver.Signals

namespace VgpuDriver

open Data

/-! When the event of a resource is set, no command in flight refers to the
resource: in every run whose completions do not set the event of a resource
that another command still refers to. -/

/-- The command was pushed for the resource: it is newer and names its id. -/
def VgpuBuffer.RefersTo (buffer : VgpuBuffer) (contextId : UInt32)
    (resource : VirglResource) : Prop :=
  buffer.pBuf.hdr.ctxId = contextId ∧ resource.id ∈ buffer.updatedIds ∧
    resource.serial < buffer.serial

instance (buffer : VgpuBuffer) (contextId : UInt32)
    (resource : VirglResource) :
    Decidable (buffer.RefersTo contextId resource) :=
  inferInstanceAs (Decidable (_ ∧ _ ∧ _))

def VgpuBuffer.IsFenced (buffer : VgpuBuffer) : Prop :=
  buffer.pBuf.hdr.fenceId ≠ 0

instance (buffer : VgpuBuffer) : Decidable buffer.IsFenced :=
  inferInstanceAs (Decidable (_ ≠ _))

/-- No premature idle. -/
def Driver.IdleUnreferenced (driver : Driver) : Prop :=
  ∀ entry ∈ driver.live, entry.2.stateEvent = true →
    ∀ queue, ∀ buffer ∈ driver.inFlight queue,
      ¬buffer.RefersTo entry.1 entry.2

instance (driver : Driver) : Decidable driver.IdleUnreferenced := by
  unfold Driver.IdleUnreferenced
  infer_instance

/-- Where the completion sets the event of a resource, it and every other
command that refers to the resource are fenced submissions. -/
def Driver.CompletesApart (queue : Queue) (mapAddress : Option Nat)
    (driver : Driver) : Prop :=
  ∀ head ∈ (driver.virtQueues queue).used.head?,
    ∀ entry ∈ driver.live, entry.1 = head.1.pBuf.hdr.ctxId →
      head.1.SetsEvent mapAddress entry.2 →
        ∀ other ∈ (driver.inFlight queue).tail,
          other.RefersTo entry.1 entry.2 →
            head.1.IsSubmit = true ∧ head.1.IsFenced ∧ other.IsFenced

instance (queue : Queue) (mapAddress : Option Nat) (driver : Driver) :
    Decidable (driver.CompletesApart queue mapAddress) := by
  unfold Driver.CompletesApart
  infer_instance

/-- The condition on a step; the fence counter has not wrapped. -/
def World.MarksHold (world : World) : Action → Prop
  | .request processId request =>
      request.ReadsOnce ∧
        request.DrawsFreshId processId world.driver ∧
        world.driver.fenceIds.drawn + 1 < 2 ^ 64
  | .dpc queue mapAddress => world.driver.CompletesApart queue mapAddress
  | _ => True

instance (world : World) :
    (action : Action) → Decidable (world.MarksHold action)
  | .request _ _ => inferInstanceAs (Decidable (_ ∧ _ ∧ _))
  | .processExit _ => inferInstanceAs (Decidable True)
  | .host _ _ _ => inferInstanceAs (Decidable True)
  | .dpc queue mapAddress => inferInstanceAs
      (Decidable (world.driver.CompletesApart queue mapAddress))

structure IdleInvariant (driver : Driver) : Prop where
  distinct : driver.Distinct
  control : ∀ buffer ∈ driver.inFlight .control, buffer.Quiet
  serials : ∀ buffer ∈ driver.inFlight .command,
    buffer.serial < driver.pushCount
  ordered : (driver.inFlight .command).Pairwise fun first second =>
    second.updatedIds ≠ [] → first.updatedIds ≠ [] →
      first.IsFenced → second.IsFenced →
        first.pBuf.hdr.fenceId < second.pBuf.hdr.fenceId
  counted : driver.fenceIds.Counted
  fences : ∀ buffer ∈ driver.inFlight .command, buffer.updatedIds ≠ [] →
    buffer.pBuf.hdr.fenceId.toNat ≤ driver.fenceIds.drawn
  resources : ∀ entry ∈ driver.live,
    entry.2.serial < driver.pushCount ∧
      entry.2.fenceId.toNat ≤ driver.fenceIds.drawn
  busy : ∀ entry ∈ driver.live, ∀ buffer ∈ driver.inFlight .command,
    buffer.RefersTo entry.1 entry.2 →
      entry.2.stateEvent = false ∧
        (buffer.IsFenced → buffer.pBuf.hdr.fenceId ≤ entry.2.fenceId)

theorem VgpuBuffer.RefersTo.updatedIds_ne_nil {buffer : VgpuBuffer}
    {contextId : UInt32} {resource : VirglResource}
    (h : buffer.RefersTo contextId resource) : buffer.updatedIds ≠ [] :=
  List.ne_nil_of_mem h.2.1

theorem fence_of_drawn {fenceId : UInt64} {before after : Driver}
    (hdrawn : FenceDrawn fenceId before after)
    (hcounted : before.fenceIds.Counted)
    (hleft : after.fenceIds = before.fenceIds ∨
      before.fenceIds.drawn + 1 < 2 ^ 64) :
    after.fenceIds.Counted ∧
      before.fenceIds.drawn ≤ after.fenceIds.drawn ∧
      fenceId.toNat ≤ after.fenceIds.drawn ∧
      (fenceId = 0 ∨ fenceId.toNat = before.fenceIds.drawn + 1) := by
  rcases hdrawn with ⟨rfl, hsame⟩ | ⟨rfl, hdrawn⟩
  · rw [hsame]
    exact ⟨hcounted, Nat.le_refl _, Nat.zero_le _, Or.inl rfl⟩
  · have hsmall : before.fenceIds.drawn + 1 < 2 ^ 64 := by
      refine hleft.resolve_left fun hsame => ?_
      have hmore := congrArg Idr.drawn (hdrawn.symm.trans hsame)
      simp [getIdFromIdrWithoutCache] at hmore
    have hcounter : before.fenceIds.id = before.fenceIds.drawn + 1 := by
      have hmod := hcounted
      unfold Idr.Counted at hmod
      rw [hmod, Nat.add_comm]
      exact Nat.mod_eq_of_lt hsmall
    have hfence : (UInt64.ofNat
        (getIdFromIdrWithoutCache 8 before.fenceIds).1).toNat =
          before.fenceIds.drawn + 1 := by
      simp only [getIdFromIdrWithoutCache, lowBytes, hcounter]
      rw [UInt64.toNat_ofNat']
      omega
    rw [hdrawn]
    refine ⟨hcounted.getIdFromIdrWithoutCache 8, ?_, ?_, Or.inr hfence⟩
    · simp [getIdFromIdrWithoutCache]
    · rw [hfence]
      simp [getIdFromIdrWithoutCache]

namespace IdleInvariant

variable {before after : Driver}

/-- What has to be shown of a step that only pushes commands. -/
private theorem of_extends {new : Queue → List VgpuBuffer}
    (h : IdleInvariant before) (hdistinct : after.Distinct)
    (hcounted : after.fenceIds.Counted)
    (hdrawn : before.fenceIds.drawn ≤ after.fenceIds.drawn)
    (hextends : Extends new before after)
    (hcontrol : ∀ buffer ∈ new .control, buffer.Quiet)
    (hnew : ∀ buffer ∈ new .command, buffer.updatedIds ≠ [] →
      new .command = [buffer] ∧
        buffer.pBuf.hdr.fenceId.toNat ≤ after.fenceIds.drawn ∧
        (buffer.IsFenced →
          before.fenceIds.drawn < buffer.pBuf.hdr.fenceId.toNat))
    (hresources : ∀ entry ∈ after.live,
      entry.2.serial < after.pushCount ∧
        entry.2.fenceId.toNat ≤ after.fenceIds.drawn)
    (hbusy : ∀ entry ∈ after.live,
      ∀ buffer ∈ before.inFlight .command ++ new .command,
        buffer.RefersTo entry.1 entry.2 →
          entry.2.stateEvent = false ∧
            (buffer.IsFenced →
              buffer.pBuf.hdr.fenceId ≤ entry.2.fenceId)) :
    IdleInvariant after where
  distinct := hdistinct
  control := by
    intro buffer hbuffer
    rw [hextends.inFlight] at hbuffer
    rcases List.mem_append.mp hbuffer with hold | hpushed
    · exact h.control buffer hold
    · exact hcontrol buffer hpushed
  serials := by
    intro buffer hbuffer
    rw [hextends.inFlight] at hbuffer
    rcases List.mem_append.mp hbuffer with hold | hpushed
    · exact Nat.lt_of_lt_of_le (h.serials buffer hold) hextends.pushCount
    · exact (hextends.serials _ buffer hpushed).2
  ordered := by
    rw [hextends.inFlight, List.pairwise_append]
    refine ⟨h.ordered, ?_, ?_⟩
    · rw [List.pairwise_iff_forall_sublist]
      intro first second hsublist hsecond _ _ _
      have hmem : second ∈ new .command := hsublist.subset (by simp)
      have hlength := hsublist.length_le
      rw [(hnew second hmem hsecond).1] at hlength
      simp at hlength
    · intro first hfirst second hsecond hids hids' _ hfenced
      have hold := h.fences first hfirst hids'
      have hlater := (hnew second hsecond hids).2.2 hfenced
      exact UInt64.lt_iff_toNat_lt.mpr (by omega)
  counted := hcounted
  fences := by
    intro buffer hbuffer hids
    rw [hextends.inFlight] at hbuffer
    rcases List.mem_append.mp hbuffer with hold | hpushed
    · exact Nat.le_trans (h.fences buffer hold hids) hdrawn
    · exact (hnew buffer hpushed hids).2.1
  resources := hresources
  busy := by
    intro entry hentry buffer hbuffer
    rw [hextends.inFlight] at hbuffer
    exact hbusy entry hentry buffer hbuffer

private theorem of_pushes (h : IdleInvariant before)
    (hdistinct : after.Distinct) (hcounted : after.fenceIds.Counted)
    (hdrawn : before.fenceIds.drawn ≤ after.fenceIds.drawn)
    (hpushes : Pushes (fun _ buffer => buffer.updatedIds = []) before after)
    (hcontrol : ∀ buffer ∈ after.inFlight .control, buffer.Quiet)
    (hresources : ∀ entry ∈ after.live,
      entry.2.serial < after.pushCount ∧
        entry.2.fenceId.toNat ≤ after.fenceIds.drawn)
    (hbusy : ∀ entry ∈ after.live, ∀ buffer ∈ before.inFlight .command,
      buffer.RefersTo entry.1 entry.2 →
        entry.2.stateEvent = false ∧
          (buffer.IsFenced →
            buffer.pBuf.hdr.fenceId ≤ entry.2.fenceId)) :
    IdleInvariant after := by
  obtain ⟨new, hextends, hnew⟩ := hpushes
  refine h.of_extends hdistinct hcounted hdrawn hextends ?_ ?_ hresources ?_
  · intro buffer hbuffer
    refine hcontrol buffer ?_
    rw [hextends.inFlight]
    exact List.mem_append_right _ hbuffer
  · intro buffer hbuffer hids
    exact absurd (hnew _ buffer hbuffer) hids
  · intro entry hentry buffer hbuffer hrefers
    rcases List.mem_append.mp hbuffer with hold | hpushed
    · exact hbusy entry hentry buffer hold hrefers
    · exact absurd (hnew _ buffer hpushed) hrefers.updatedIds_ne_nil

private theorem control_of_pushes {kind : Queue → VgpuBuffer → Prop}
    (h : IdleInvariant before) (hpushes : Pushes kind before after)
    (hquiet : ∀ buffer, kind .control buffer → buffer.Quiet) :
    ∀ buffer ∈ after.inFlight .control, buffer.Quiet := fun buffer hbuffer =>
  (hpushes.of_mem_inFlight hbuffer).elim (h.control buffer) (hquiet buffer)

private theorem of_created {contextId : UInt32} {resource : VirglResource}
    (h : IdleInvariant before) (hdistinct : after.Distinct)
    (hidrs : IdrsStep before after)
    (hlive : after.live.Perm ((contextId, resource) :: before.live))
    (hserial : resource.serial = before.pushCount)
    (hfence : resource.fenceId = 0)
    (hpushes : Pushes (fun queue buffer => buffer.updatedIds = [] ∧
      (queue = .control → buffer.Quiet)) before after)
    (hcount : before.pushCount < after.pushCount) :
    IdleInvariant after := by
  obtain ⟨hcounted, hdrawn⟩ := hidrs.fences h.counted
  refine h.of_pushes hdistinct hcounted hdrawn
    (hpushes.mono fun _ _ hkind => hkind.1)
    (h.control_of_pushes hpushes fun _ hkind => hkind.2 rfl) ?_ ?_
  · intro entry hentry
    rcases List.mem_cons.mp (hlive.mem_iff.mp hentry) with rfl | hold
    · simp only [hserial, hfence]
      exact ⟨hcount, Nat.zero_le _⟩
    · have hentry := h.resources entry hold
      omega
  · intro entry hentry buffer hbuffer hrefers
    rcases List.mem_cons.mp (hlive.mem_iff.mp hentry) with rfl | hold
    · have hnewer : resource.serial < buffer.serial := hrefers.2.2
      have holder := h.serials buffer hbuffer
      omega
    · exact h.busy entry hold buffer hbuffer hrefers

private theorem busy_of_mark {contextId : UInt32} {ids : List UInt32}
    {fenceId : UInt64} {entry : UInt32 × VirglResource}
    {buffer : VgpuBuffer}
    (h : IdleInvariant before) (hentry : entry ∈ before.live)
    (hbuffer : buffer ∈ before.inFlight .command)
    (hrefers : buffer.RefersTo (markBusy contextId ids fenceId entry).1
      (markBusy contextId ids fenceId entry).2) :
    (markBusy contextId ids fenceId entry).2.stateEvent = false ∧
      (buffer.IsFenced → buffer.pBuf.hdr.fenceId ≤
        (markBusy contextId ids fenceId entry).2.fenceId) := by
  obtain ⟨marked, hmark, hid, hserial, hfence, _, hcases⟩ :=
    markBusy_cases contextId ids fenceId entry
  rw [hmark] at hrefers ⊢
  have hbusy := h.busy entry hentry buffer hbuffer
    ⟨hrefers.1, hid ▸ hrefers.2.1, hserial ▸ hrefers.2.2⟩
  refine ⟨?_, fun hfenced => UInt64.le_trans (hbusy.2 hfenced) hfence⟩
  rcases hcases with ⟨_, hbusy', _⟩ | ⟨_, rfl⟩
  · exact hbusy'
  · exact hbusy.1

private theorem resources_of_mark {contextId : UInt32} {ids : List UInt32}
    {fenceId : UInt64} (h : IdleInvariant before)
    (hlive : after.live = before.live.map (markBusy contextId ids fenceId))
    (hcount : before.pushCount ≤ after.pushCount)
    (hdrawn : before.fenceIds.drawn ≤ after.fenceIds.drawn)
    (hfence : fenceId.toNat ≤ after.fenceIds.drawn) :
    ∀ entry ∈ after.live,
      entry.2.serial < after.pushCount ∧
        entry.2.fenceId.toNat ≤ after.fenceIds.drawn := by
  intro entry hentry
  rw [hlive] at hentry
  obtain ⟨old, hold, rfl⟩ := List.mem_map.mp hentry
  obtain ⟨marked, hmark, _, hserial, _, hfences, _⟩ :=
    markBusy_cases contextId ids fenceId old
  have hbounds := h.resources old hold
  rw [hmark]
  simp only [hserial]
  refine ⟨by omega, ?_⟩
  rcases hfences with hsame | hnew
  · rw [hsame]
    omega
  · rw [hnew]
    exact hfence

theorem signal {addBuf : Nat → Bool} {refused : Prop}
    (h : IdleInvariant before)
    (hstep : SignalStep addBuf refused before after) (hdistinct : after.Distinct)
    (hidrs : IdrsStep before after)
    (hleft : after.fenceIds = before.fenceIds ∨
      before.fenceIds.drawn + 1 < 2 ^ 64) : IdleInvariant after := by
  obtain ⟨hcounted, hdrawn⟩ := hidrs.fences h.counted
  cases hstep with
  | quiet hlive hpushes =>
      refine h.of_pushes hdistinct hcounted hdrawn
        (hpushes.mono fun _ _ hquiet => hquiet.1)
        (h.control_of_pushes hpushes fun _ hquiet => hquiet) ?_ ?_
      · intro entry hentry
        have hbounds := h.resources entry (hlive entry hentry)
        have hcount := hpushes.pushCount_le
        omega
      · intro entry hentry
        exact h.busy entry (hlive entry hentry)
  | created contextId resource hlive hserial hid hids hfence hidle hpushes
      hcount =>
      refine h.of_created hdistinct hidrs hlive hserial hfence
        (hpushes.mono ?_) hcount
      exact fun _ _ hquiet => ⟨hquiet.1, fun _ => hquiet⟩
  | blobCreated contextId resource buffer hlive hserial hid hids hfence hbusy
      hctxId hbody hmap hpushes hcount hpushed =>
      refine h.of_created hdistinct hidrs hlive hserial hfence
        (hpushes.mono ?_) hcount
      rintro queue other (hquiet | ⟨rfl, rfl⟩)
      · exact ⟨hquiet.1, fun _ => hquiet⟩
      · exact ⟨by simp [VgpuBuffer.updatedIds, hbody], nofun⟩
  | shared contextId id share hlive hpushes =>
      have hcount := hpushes.pushCount_le
      refine h.of_pushes hdistinct hcounted hdrawn
        (hpushes.mono fun _ _ hquiet => hquiet.1)
        (h.control_of_pushes hpushes fun _ hquiet => hquiet) ?_ ?_
      · intro entry hentry
        rw [hlive] at hentry
        obtain ⟨old, hold, rfl⟩ := List.mem_map.mp hentry
        obtain ⟨given, hgive, _, hserial, hfence, _⟩ :=
          giveShare_cases contextId id share old
        have hbounds := h.resources old hold
        rw [hgive]
        simp only [hserial, hfence]
        omega
      · intro entry hentry buffer hbuffer hrefers
        rw [hlive] at hentry
        obtain ⟨old, hold, rfl⟩ := List.mem_map.mp hentry
        obtain ⟨given, hgive, hid, hserial, hfence, hevent⟩ :=
          giveShare_cases contextId id share old
        rw [hgive] at hrefers ⊢
        simp only [hfence, hevent]
        exact h.busy old hold buffer hbuffer
          ⟨hrefers.1, hid ▸ hrefers.2.1, hserial ▸ hrefers.2.2⟩
  | marked buffer hlive hmapped hserial hfence hextends =>
      obtain ⟨_, _, hbound, hfresh⟩ := fence_of_drawn hfence h.counted hleft
      refine h.of_extends hdistinct hcounted hdrawn hextends ?_ ?_
        (h.resources_of_mark hlive hextends.pushCount hdrawn hbound) ?_
      · intro other hother
        exact absurd (mem_accepted hother).1 (by decide)
      · intro other hother hids
        obtain ⟨_, rfl⟩ := mem_accepted hother
        refine ⟨?_, hbound, fun hfenced => ?_⟩
        · unfold accepted at hother ⊢
          split
          · rfl
          · rename_i hrefused
            rw [if_neg hrefused] at hother
            simp at hother
        · have hnat := hfresh.resolve_left hfenced
          omega
      · intro entry hentry other hother hrefers
        rw [hlive] at hentry
        obtain ⟨old, hold, rfl⟩ := List.mem_map.mp hentry
        rcases List.mem_append.mp hother with hbefore | hpushed
        · exact h.busy_of_mark hold hbefore hrefers
        · obtain ⟨_, rfl⟩ := mem_accepted hpushed
          obtain ⟨marked, hmark, hid, _, _, _, hcases⟩ := markBusy_cases
            other.pBuf.hdr.ctxId other.updatedIds other.pBuf.hdr.fenceId old
          rw [hmark] at hrefers ⊢
          have hlisted : old.2.id ∈ other.updatedIds := hid ▸ hrefers.2.1
          have haccepts : old.2.Accepts other.pBuf.hdr.fenceId := by
            have hbounds := h.resources old hold
            rcases hfresh with hzero | hnat
            · exact Or.inl hzero
            · exact Or.inr (UInt64.le_iff_toNat_le.mpr (by omega))
          rcases hcases with ⟨_, hevent, hfences⟩ | ⟨hnot, _⟩
          · refine ⟨hevent, fun hfenced => ?_⟩
            rw [hfences.resolve_left hfenced]
            exact UInt64.le_refl _
          · exact absurd ⟨hrefers.1.symm, hlisted, haccepts⟩ hnot
  | uncopied hrefused contextId ids fenceId hlive hfence hpushes =>
      obtain ⟨_, _, hbound, _⟩ := fence_of_drawn hfence h.counted hleft
      refine h.of_pushes hdistinct hcounted hdrawn
        (hpushes.mono fun _ _ hquiet => hquiet.1)
        (h.control_of_pushes hpushes fun _ hquiet => hquiet)
        (h.resources_of_mark hlive (hpushes.pushCount_le) hdrawn
          hbound) ?_
      intro entry hentry buffer hbuffer hrefers
      rw [hlive] at hentry
      obtain ⟨old, hold, rfl⟩ := List.mem_map.mp hentry
      exact h.busy_of_mark hold hbuffer hrefers

private theorem completes {buffer : VgpuBuffer} {info : MapInfo}
    {mapAddress : Option Nat} (h : IdleInvariant before)
    (hcompletes : Completes .command buffer info mapAddress before after)
    (hapart : ∀ entry ∈ before.live, entry.1 = buffer.pBuf.hdr.ctxId →
      buffer.SetsEvent mapAddress entry.2 →
        ∀ other ∈ after.inFlight .command, other.RefersTo entry.1 entry.2 →
          buffer.IsSubmit = true ∧ buffer.IsFenced ∧ other.IsFenced) :
    IdleInvariant after := by
  have hhead := hcompletes.head
  have hmem : ∀ other ∈ after.inFlight .command,
      other ∈ before.inFlight .command := by
    intro other hother
    rw [hhead]
    exact List.mem_cons_of_mem _ hother
  have hordered := h.ordered
  rw [hhead, List.pairwise_cons] at hordered
  -- every live resource is an old one, completed or untouched
  have hlive : ∀ entry ∈ after.live, ∃ old ∈ before.live,
      old.1 = entry.1 ∧ entry.2.id = old.2.id ∧
        entry.2.serial = old.2.serial ∧
        (entry.2.fenceId = old.2.fenceId ∨
          entry.2.fenceId = buffer.pBuf.hdr.fenceId ∧
            buffer.updatedIds ≠ []) ∧
        ((old.1 = buffer.pBuf.hdr.ctxId ∧
            buffer.SetsEvent mapAddress old.2) ∨ entry.2 = old.2) := by
    intro entry hentry
    rw [live_of_completion h.distinct hcompletes.contexts] at hentry
    obtain ⟨old, hold, rfl⟩ := List.mem_map.mp hentry
    refine ⟨old, hold, ?_⟩
    by_cases hhere : old.1 = buffer.pBuf.hdr.ctxId
    · rw [if_pos hhere]
      obtain ⟨done, hdone, hid, hserial, _, hfence, hcases⟩ :=
        buffer.completed_cases info mapAddress old.2
      rw [hdone]
      refine ⟨rfl, hid, hserial, ?_, ?_⟩
      · rcases hfence with hsame | ⟨hids, hnew⟩
        · exact Or.inl hsame
        · exact Or.inr ⟨hnew, List.ne_nil_of_mem hids⟩
      · rcases hcases with ⟨hsets, _⟩ | ⟨_, hsame⟩
        · exact Or.inl ⟨hhere, hsets⟩
        · exact Or.inr hsame
    · rw [if_neg hhere]
      exact ⟨rfl, rfl, rfl, Or.inl rfl, Or.inr rfl⟩
  refine
    { distinct := h.distinct.completes hcompletes
      control := ?_
      serials := ?_
      ordered := hordered.2
      counted := ?_
      fences := ?_
      resources := ?_
      busy := ?_ }
  · rw [hcompletes.others .control (by decide)]
    exact h.control
  · intro other hother
    rw [hcompletes.pushCount]
    exact h.serials other (hmem other hother)
  · rw [hcompletes.fenceIds]
    exact h.counted
  · intro other hother
    rw [hcompletes.fenceIds]
    exact h.fences other (hmem other hother)
  · intro entry hentry
    obtain ⟨old, hold, _, _, hserial, hfence, _⟩ := hlive entry hentry
    have hbounds := h.resources old hold
    rw [hcompletes.pushCount, hcompletes.fenceIds, hserial]
    refine ⟨hbounds.1, ?_⟩
    rcases hfence with hsame | ⟨hnew, hids⟩
    · rw [hsame]
      exact hbounds.2
    · rw [hnew]
      exact h.fences buffer (hhead ▸ List.mem_cons_self) hids
  · intro entry hentry other hother hrefers
    obtain ⟨old, hold, hctx, hid, hserial, _, hcases⟩ := hlive entry hentry
    have hrefers' : other.RefersTo old.1 old.2 := by
      unfold VgpuBuffer.RefersTo
      rw [hctx, ← hid, ← hserial]
      exact hrefers
    have hbusy := h.busy old hold other (hmem other hother) hrefers'
    rcases hcases with ⟨hhere, hsets⟩ | hsame
    · -- two fenced submissions: the mark of the later one refuses the earlier
      obtain ⟨hsubmit, hfenced, hfenced'⟩ :=
        hapart old hold hhere hsets other hother hrefers'
      have hunmapped : buffer.mappedId = none := by
        unfold VgpuBuffer.IsSubmit at hsubmit
        unfold VgpuBuffer.mappedId
        split at hsubmit
        · rename_i hbody
          rw [hbody]
        · cases hsubmit
      obtain ⟨hlisted, haccepts⟩ : old.2.id ∈ buffer.updatedIds ∧
          old.2.Accepts buffer.pBuf.hdr.fenceId := by
        rcases hsets with ⟨hmapped, _⟩ | hupdates
        · rw [hunmapped] at hmapped
          cases hmapped
        · exact hupdates
      have hlater := hordered.1 other hother hrefers'.updatedIds_ne_nil
        (List.ne_nil_of_mem hlisted) hfenced hfenced'
      have hmarked := hbusy.2 hfenced'
      have haccepted := haccepts.resolve_left hfenced
      exact absurd hlater (UInt64.not_lt.mpr
        (UInt64.le_trans hmarked haccepted))
    · rw [hsame]
      exact hbusy

/-- The host of a FIFO queue takes nothing out of the list of the commands in
flight. -/
private theorem returnBuffer {driver : Driver} {queue : Queue} {slot : Nat}
    {buffer : VgpuBuffer} (h : IdleInvariant driver) (info : MapInfo)
    (hslot : (driver.virtQueues queue).avail[slot]? = some buffer)
    (hfifo : queue = .command → slot = 0) :
    IdleInvariant (driver.returnBuffer queue slot buffer info) := by
  have hperm := returnBuffer_inFlight_perm info hslot
  have hcommand : (driver.returnBuffer queue slot buffer info).inFlight
      .command = driver.inFlight .command := by
    cases queue with
    | command =>
        cases hfifo rfl
        exact returnBuffer_inFlight_fifo info hslot .command
    | control => rfl
  exact
    { distinct := h.distinct.of_contexts rfl
      control := fun other hother =>
        h.control other ((hperm .control).mem_iff.mp hother)
      serials := hcommand ▸ h.serials
      ordered := hcommand ▸ h.ordered
      counted := h.counted
      fences := hcommand ▸ h.fences
      resources := h.resources
      busy := hcommand ▸ h.busy }

private theorem readOneFromQueue {driver : Driver} {queue : Queue}
    {mapAddress : Option Nat} (h : IdleInvariant driver)
    (hapart : driver.CompletesApart queue mapAddress) :
    IdleInvariant (readOneFromQueue queue mapAddress driver) := by
  rcases readOneFromQueue_cases queue mapAddress driver with
    hsame | ⟨buffer, info, rest, hused, _, hcompletes⟩
  · rw [hsame]
    exact h
  · cases queue with
    | command =>
        refine h.completes hcompletes ?_
        have hfirst := hapart (buffer, info) (by rw [hused]; rfl)
        rw [hcompletes.head] at hfirst
        exact hfirst
    | control =>
        have hquiet := h.control buffer
          (hcompletes.head ▸ List.mem_cons_self)
        have hcontexts := hcompletes.quiet hquiet
        have hlive := congrArg liveIn hcontexts
        have hcommand := hcompletes.others .command (by decide)
        exact
          { distinct := h.distinct.of_contexts hcontexts
            control := fun other hother => h.control other
              (hcompletes.head ▸ List.mem_cons_of_mem _ hother)
            serials := by
              rw [hcommand, hcompletes.pushCount]
              exact h.serials
            ordered := hcommand ▸ h.ordered
            counted := hcompletes.fenceIds ▸ h.counted
            fences := by
              rw [hcommand, hcompletes.fenceIds]
              exact h.fences
            resources := by
              unfold Driver.live
              rw [hlive, hcompletes.pushCount, hcompletes.fenceIds]
              exact h.resources
            busy := by
              unfold Driver.live
              rw [hlive, hcommand]
              exact h.busy }

end IdleInvariant

theorem start_idleInvariant (virtualAddress physicalAddress memorySize : Nat)
    (capsets : Capsets) :
    IdleInvariant (World.start virtualAddress physicalAddress memorySize
      capsets).driver where
  distinct := ⟨List.nodup_nil, by simp [World.start]⟩
  control := by simp [World.start, Driver.inFlight, Virtqueue.inFlight]
  serials := by simp [World.start, Driver.inFlight, Virtqueue.inFlight]
  ordered := List.Pairwise.nil
  counted := initializeIdr_counted
  fences := by simp [World.start, Driver.inFlight, Virtqueue.inFlight]
  resources := by simp [World.start, Driver.live, liveIn]
  busy := by simp [World.start, Driver.live, liveIn]

theorem IdleInvariant.step {addBuf : Nat → Bool} {world : World}
    {action : Action} (h : IdleInvariant world.driver)
    (hfifo : action.IsFifo .command) (hmarks : world.MarksHold action) :
    IdleInvariant (World.step addBuf world action).driver := by
  cases action with
  | request processId request =>
      obtain ⟨hreads, hfresh, hleft⟩ := hmarks
      exact h.signal
        (virtioVgpuIoControl_signal processId h.distinct hreads)
        (virtioVgpuIoControl_distinct processId h.distinct hfresh)
        (virtioVgpuIoControl_idrs processId world.driver request)
        (Or.inr hleft)
  | processExit processId =>
      obtain ⟨hids, hfences⟩ := processNotify_idrs addBuf
        processId world.driver
      exact h.signal (processNotify_signal processId world.driver)
        (processNotify_distinct processId h.distinct)
        ⟨Or.inl hids, Or.inl hfences⟩ (Or.inl hfences)
  | host queue slot info =>
      simp only [World.step]
      split
      · exact h
      · rename_i buffer hslot
        exact h.returnBuffer info hslot hfifo
  | dpc queue mapAddress => exact h.readOneFromQueue hmarks

theorem IdleInvariant.idleUnreferenced {driver : Driver}
    (h : IdleInvariant driver) : driver.IdleUnreferenced := by
  intro entry hentry hidle queue buffer hbuffer hrefers
  cases queue with
  | command =>
      have hbusy := (h.busy entry hentry buffer hbuffer hrefers).1
      rw [hidle] at hbusy
      cases hbusy
  | control =>
      exact hrefers.updatedIds_ne_nil (h.control buffer hbuffer).1

theorem idle_unreferenced (addBuf : Nat → Bool)
    (virtualAddress physicalAddress memorySize : Nat) (capsets : Capsets)
    (actions : List Action)
    (hfifo : Along (World.step addBuf)
      (fun _ action => action.IsFifo .command)
      (World.start virtualAddress physicalAddress memorySize capsets)
      actions)
    (hmarks : Along (World.step addBuf) World.MarksHold
      (World.start virtualAddress physicalAddress memorySize capsets)
      actions) :
    (runFrom (World.step addBuf)
      (World.start virtualAddress physicalAddress memorySize capsets)
      actions).driver.IdleUnreferenced := by
  have hstep : ∀ world action, IdleInvariant world.driver →
      (action.IsFifo .command ∧ world.MarksHold action) →
      IdleInvariant (World.step addBuf world action).driver :=
    fun world action h hguard => h.step hguard.1 hguard.2
  have hinvariant := Along.invariant hstep (hfifo.and hmarks)
    (start_idleInvariant virtualAddress physicalAddress memorySize capsets)
  exact hinvariant.idleUnreferenced

/-- Two fenced submissions of one resource are in flight; the completion of
the first one leaves it busy. -/
def fencedOverlap : List Action :=
  [.request 7 .initContext, .request 7 (.create 1),
   .request 7 (.submit [1] (some 100)), .request 7 (.submit [1] (some 101)),
   .host .command 0 { gpa := 0, size := 0 },
   .host .command 0 { gpa := 0, size := 0 },
   .dpc .command none, .dpc .command none]

theorem idle_unreferenced_fencedOverlap :
    (runFrom (World.step fun _ => true) World.eightPages
      fencedOverlap).driver.IdleUnreferenced :=
  idle_unreferenced _ _ _ _ _ _ (by decide +kernel) (by decide +kernel)

/-- The first of two transfers sets the event. -/
def transferOverlap : List Action :=
  [.request 7 .initContext, .request 7 (.create 1),
   .request 7 (.transfer 1), .request 7 (.transfer 1),
   .host .command 0 { gpa := 0, size := 0 },
   .host .command 0 { gpa := 0, size := 0 },
   .dpc .command none, .dpc .command none]

theorem not_idleUnreferenced_transferOverlap :
    Along (World.step fun _ => true)
        (fun _ action => action.IsFifo .command)
        World.eightPages transferOverlap ∧
      ¬(runFrom (World.step fun _ => true)
        World.eightPages transferOverlap).driver.IdleUnreferenced := by
  decide +kernel

end VgpuDriver
