import VgpuDriver.IdleRuns
import VgpuDriver.BlobIds

namespace VgpuDriver

open Data

/-! The event of a resource tells whether the newest fenced submission that
lists it has been completed, in whatever order the commands complete. -/

/-- A submission that was pushed for the resource while it was live. -/
def VgpuBuffer.Lists (buffer : VgpuBuffer)
    (entry : UInt32 × VirglResource) : Prop :=
  buffer.IsSubmit = true ∧ buffer.RefersTo entry.1 entry.2

instance (buffer : VgpuBuffer) (entry : UInt32 × VirglResource) :
    Decidable (buffer.Lists entry) :=
  inferInstanceAs (Decidable (_ ∧ _))

namespace Driver

/-- `newest` lists the resource and no submission with a larger fence id
does. -/
def Newest (driver : Driver) (entry : UInt32 × VirglResource)
    (newest : VgpuBuffer) : Prop :=
  newest ∈ driver.sent .command ∧ newest.Lists entry ∧
    ∀ other ∈ driver.sent .command, other.Lists entry →
      other.pBuf.hdr.fenceId ≤ newest.pBuf.hdr.fenceId

instance (driver : Driver) (entry : UInt32 × VirglResource)
    (newest : VgpuBuffer) : Decidable (driver.Newest entry newest) :=
  inferInstanceAs (Decidable (_ ∧ _ ∧ _))

/-- No transfer names the resource. -/
def Untransferred (driver : Driver) (id : UInt32) : Prop :=
  ∀ buffer ∈ driver.sent .command, buffer.IsSubmit = false →
    id ∉ buffer.updatedIds

instance (driver : Driver) (id : UInt32) :
    Decidable (driver.Untransferred id) := by
  unfold Untransferred
  infer_instance

/-- All submissions are fenced. -/
def SubmitsFenced (driver : Driver) : Prop :=
  ∀ buffer ∈ driver.sent .command, buffer.IsSubmit = true → buffer.IsFenced

instance (driver : Driver) : Decidable driver.SubmitsFenced := by
  unfold SubmitsFenced
  infer_instance

/-- The newest fence wins: it alone decides about the event, and the
completion of an older one changes nothing. -/
def NewestFenceWins (driver : Driver) : Prop :=
  ∀ entry ∈ driver.live, entry.2.bForBlob = false →
    driver.Untransferred entry.2.id →
      (entry.2.stateEvent = false ↔
        ∃ newest ∈ driver.inFlight .command, driver.Newest entry newest) ∧
      ∀ newest, driver.Newest entry newest →
        ∀ queue mapAddress, ∀ head ∈ (driver.virtQueues queue).used.head?,
          head.1.pBuf.hdr.fenceId < newest.pBuf.hdr.fenceId →
            entry ∈ (readOneFromQueue queue mapAddress driver).live

end Driver

/-- The handle array is read twice with one result and its copy is made. -/
def Action.CopiesHandles : Action → Prop
  | .request _ ioRequest => ioRequest.ReadsOnce ∧ ioRequest.CopyGranted
  | _ => True

instance : (action : Action) → Decidable action.CopiesHandles
  | .request _ _ => inferInstanceAs (Decidable (_ ∧ _))
  | .processExit _ => inferInstanceAs (Decidable True)
  | .host _ _ _ => inferInstanceAs (Decidable True)
  | .dpc _ _ => inferInstanceAs (Decidable True)

/-- Either no submission lists the resource and it is idle, or the newest one
has left its fence id and decides. -/
def Driver.Decided (driver : Driver) (entry : UInt32 × VirglResource) :
    Prop :=
  ((∀ buffer ∈ driver.sent .command, ¬buffer.Lists entry) ∧
      entry.2.stateEvent = true) ∨
    ∃ newest, driver.Newest entry newest ∧
      entry.2.fenceId = newest.pBuf.hdr.fenceId ∧
      (entry.2.stateEvent = false ↔ newest ∈ driver.inFlight .command)

/-- Only submissions name the resource. -/
def Driver.OnlySubmitted (driver : Driver) (id : UInt32) : Prop :=
  ∀ buffer ∈ driver.sent .command, buffer.IsSubmit = false →
    id ∉ buffer.updatedIds ∧ buffer.mappedId ≠ some id

structure FenceInvariant (driver : Driver) : Prop where
  distinct : driver.Distinct
  pending : Pending .command driver
  control : ∀ buffer ∈ driver.inFlight .control, buffer.Quiet
  counted : driver.fenceIds.Counted
  fences : ∀ buffer ∈ driver.sent .command, buffer.updatedIds ≠ [] →
    buffer.pBuf.hdr.fenceId.toNat ≤ driver.fenceIds.drawn
  ordered : ∀ first ∈ driver.sent .command,
    ∀ second ∈ driver.sent .command, first.serial < second.serial →
      first.updatedIds ≠ [] → second.updatedIds ≠ [] →
        second.IsFenced →
          first.pBuf.hdr.fenceId < second.pBuf.hdr.fenceId
  resources : ∀ entry ∈ driver.live,
    entry.2.serial < driver.pushCount ∧
      entry.2.fenceId.toNat ≤ driver.fenceIds.drawn
  decided : ∀ entry ∈ driver.live, driver.OnlySubmitted entry.2.id →
    driver.Decided entry

theorem VgpuBuffer.Lists.updatedIds_ne_nil {buffer : VgpuBuffer}
    {entry : UInt32 × VirglResource} (h : buffer.Lists entry) :
    buffer.updatedIds ≠ [] :=
  h.2.updatedIds_ne_nil

theorem Driver.OnlySubmitted.isSubmit {driver : Driver}
    {buffer : VgpuBuffer} {id : UInt32} (h : driver.OnlySubmitted id)
    (hbuffer : buffer ∈ driver.sent .command)
    (hid : id ∈ buffer.updatedIds) : buffer.IsSubmit = true := by
  by_contra hother
  exact (h buffer hbuffer (by simpa using hother)).1 hid

theorem Driver.OnlySubmitted.of_sent {before after : Driver} {id : UInt32}
    (h : after.OnlySubmitted id)
    (hsent : before.sent .command <+: after.sent .command) :
    before.OnlySubmitted id := fun buffer hbuffer =>
  h buffer (hsent.subset hbuffer)

theorem Sends.eq_of_extends {new : List (Queue × VgpuBuffer)}
    {pushed : Queue → List VgpuBuffer} {before after : Driver}
    (hsends : Sends new before after)
    (hextends : Extends pushed before after) (queue : Queue) :
    onQueue queue new = pushed queue := by
  have hboth := (hsends.inFlight queue).symm.trans (hextends.inFlight queue)
  exact List.append_cancel_left hboth

theorem IdrsStep.fences_left {before after : Driver}
    (h : IdrsStep before after) (hleft : after.fenceIds.drawn < 2 ^ 64) :
    after.fenceIds = before.fenceIds ∨
      before.fenceIds.drawn + 1 < 2 ^ 64 := by
  rcases h.fenceIds with hsame | hdrawn
  · exact Or.inl hsame
  · rw [hdrawn] at hleft
    exact Or.inr hleft

/-- The next id is larger than all ids in use, or 0. -/
theorem Numbered.drawsFreshId {driver : Driver} (h : Numbered driver)
    (hleft : driver.resourceIds.drawn < 2 ^ 32) (contextId : UInt32)
    (request : IoRequest) : request.DrawsFreshId contextId driver := by
  have hfresh : ∀ entry ∈ driver.live, entry.1 = contextId →
      entry.2.id ≠ nextResourceId driver := by
    intro entry hentry _ heq
    have hbounds := h.ids _ (List.mem_map_of_mem hentry)
    have hnext := nextResourceId_eq h.counted
    simp only [recordOf, heq, hnext] at hbounds
    omega
  cases request with
  | resourceCreate | blobResourceCreate => exact hfresh
  | _ => trivial

namespace FenceInvariant

variable {before after : Driver} {entry : UInt32 × VirglResource}

/-- Of two submissions of one resource one has the larger fence id. -/
private theorem eq_of_fence (h : FenceInvariant before)
    (hfenced : before.SubmitsFenced) {left right : VgpuBuffer}
    (hleft : left ∈ before.sent .command) (hlists : left.Lists entry)
    (hright : right ∈ before.sent .command) (hlists' : right.Lists entry)
    (hfence : left.pBuf.hdr.fenceId = right.pBuf.hdr.fenceId) :
    left = right := by
  apply h.pending.eq_of_serial hleft hright
  rcases Nat.lt_trichotomy left.serial right.serial with
    hlt | heq | hgt
  · have hless := h.ordered left hleft right hright hlt
      hlists.updatedIds_ne_nil hlists'.updatedIds_ne_nil
      (hfenced right hright hlists'.1)
    rw [hfence] at hless
    exact absurd hless (UInt64.lt_irrefl _)
  · exact heq
  · have hless := h.ordered right hright left hleft hgt
      hlists'.updatedIds_ne_nil hlists.updatedIds_ne_nil
      (hfenced left hleft hlists.1)
    rw [hfence] at hless
    exact absurd hless (UInt64.lt_irrefl _)

private theorem decided_of_sent (hdecided : before.Decided entry)
    {new : List VgpuBuffer}
    (hsent : after.sent .command = before.sent .command ++ new)
    (hinFlight : ∀ buffer ∈ before.sent .command,
      buffer ∈ after.inFlight .command ↔ buffer ∈ before.inFlight .command)
    (hnew : ∀ buffer ∈ new, ¬buffer.Lists entry) {other : VirglResource}
    (hid : other.id = entry.2.id) (hserial : other.serial = entry.2.serial)
    (hevent : other.stateEvent = entry.2.stateEvent)
    (hfence : other.fenceId = entry.2.fenceId) :
    after.Decided (entry.1, other) := by
  have hsame : ∀ buffer : VgpuBuffer,
      buffer.Lists (entry.1, other) ↔ buffer.Lists entry := by
    intro buffer
    simp only [VgpuBuffer.Lists, VgpuBuffer.RefersTo, hid, hserial]
  unfold Driver.Decided Driver.Newest at *
  simp only [hsame, hevent, hfence, hsent, List.mem_append]
  rcases hdecided with ⟨hnone, hidle⟩ | ⟨newest, ⟨hmem, hlists, hlargest⟩,
    hnewest, hiff⟩
  · left
    refine ⟨?_, hidle⟩
    rintro buffer (hold | hadded)
    · exact hnone buffer hold
    · exact hnew buffer hadded
  · right
    refine ⟨newest, ⟨Or.inl hmem, hlists, ?_⟩, hnewest, ?_⟩
    · rintro buffer (hold | hadded) hlisted
      · exact hlargest buffer hold hlisted
      · exact absurd hlisted (hnew buffer hadded)
    · rw [hiff]
      exact (hinFlight newest hmem).symm

section Sending

variable {new : List (Queue × VgpuBuffer)}

private theorem mem_inFlight_sends (h : FenceInvariant before)
    (hsends : Sends new before after) {buffer : VgpuBuffer}
    (hbuffer : buffer ∈ before.sent .command) :
    buffer ∈ after.inFlight .command ↔
      buffer ∈ before.inFlight .command := by
  rw [hsends.inFlight, List.mem_append]
  constructor
  · rintro (hold | hnew)
    · exact hold
    · have holder := h.pending.serials buffer hbuffer
      have hnewer := (hsends.queued.serials .command buffer hnew).1
      omega
  · exact Or.inl

private theorem decided_sends (h : FenceInvariant before)
    (hsends : Sends new before after) (hentry : entry ∈ before.live)
    (honly : after.OnlySubmitted entry.2.id)
    (hnew : ∀ buffer ∈ onQueue .command new, ¬buffer.Lists entry)
    {other : VirglResource} (hid : other.id = entry.2.id)
    (hserial : other.serial = entry.2.serial)
    (hevent : other.stateEvent = entry.2.stateEvent)
    (hfence : other.fenceId = entry.2.fenceId) :
    after.Decided (entry.1, other) := by
  have hsent := hsends.sent .command
  have hbefore := honly.of_sent (hsent ▸ List.prefix_append _ _)
  exact decided_of_sent (h.decided entry hentry hbefore) hsent
    (fun buffer hbuffer => h.mem_inFlight_sends hsends hbuffer) hnew hid
    hserial hevent hfence

/-- What has to be shown of a step that only sends commands. -/
private theorem of_sends (h : FenceInvariant before)
    (hsends : Sends new before after) (hdistinct : after.Distinct)
    (hcounted : after.fenceIds.Counted)
    (hdrawn : before.fenceIds.drawn ≤ after.fenceIds.drawn)
    (hcontrol : ∀ buffer ∈ onQueue .control new, buffer.Quiet)
    (hfences : ∀ buffer ∈ onQueue .command new, buffer.updatedIds ≠ [] →
      onQueue .command new = [buffer] ∧
        buffer.pBuf.hdr.fenceId.toNat ≤ after.fenceIds.drawn ∧
        (buffer.IsFenced →
          before.fenceIds.drawn < buffer.pBuf.hdr.fenceId.toNat))
    (hresources : ∀ entry ∈ after.live,
      entry.2.serial < after.pushCount ∧
        entry.2.fenceId.toNat ≤ after.fenceIds.drawn)
    (hdecided : ∀ entry ∈ after.live, after.OnlySubmitted entry.2.id →
      after.Decided entry) : FenceInvariant after where
  distinct := hdistinct
  pending := h.pending.sends hsends
  control := by
    intro buffer hbuffer
    rw [hsends.inFlight] at hbuffer
    rcases List.mem_append.mp hbuffer with hold | hnew
    · exact h.control buffer hold
    · exact hcontrol buffer hnew
  counted := hcounted
  fences := by
    intro buffer hbuffer hids
    rw [hsends.sent] at hbuffer
    rcases List.mem_append.mp hbuffer with hold | hnew
    · exact Nat.le_trans (h.fences buffer hold hids) hdrawn
    · exact (hfences buffer hnew hids).2.1
  ordered := by
    intro first hfirst second hsecond hserial hids hids' hfenced
    rw [hsends.sent] at hfirst hsecond
    rcases List.mem_append.mp hsecond with hold' | hnew'
    · rcases List.mem_append.mp hfirst with hold | hnew
      · exact h.ordered first hold second hold' hserial hids hids' hfenced
      · have hlater := (hsends.queued.serials .command first hnew).1
        have hearlier := h.pending.serials second hold'
        omega
    · obtain ⟨hsingle, _, hfresh⟩ := hfences second hnew' hids'
      rcases List.mem_append.mp hfirst with hold | hnew
      · have hbound := h.fences first hold hids
        have hlarger := hfresh hfenced
        exact UInt64.lt_iff_toNat_lt.mpr (by omega)
      · rw [hsingle, List.mem_singleton] at hnew
        rw [hnew] at hserial
        omega
  resources := hresources
  decided := hdecided

end Sending

private theorem of_quiet {new : List (Queue × VgpuBuffer)}
    (h : FenceInvariant before)
    (hsends : Sends new before after) (hdistinct : after.Distinct)
    (hcounted : after.fenceIds.Counted)
    (hdrawn : before.fenceIds.drawn ≤ after.fenceIds.drawn)
    (hcontrol : ∀ buffer ∈ onQueue .control new, buffer.Quiet)
    (hquiet : ∀ buffer ∈ onQueue .command new, buffer.updatedIds = [])
    (hlive : ∀ entry ∈ after.live,
      (∃ old ∈ before.live, entry.1 = old.1 ∧ entry.2.id = old.2.id ∧
        entry.2.serial = old.2.serial ∧
        entry.2.stateEvent = old.2.stateEvent ∧
        entry.2.fenceId = old.2.fenceId) ∨
      (entry.2.serial = before.pushCount ∧
        before.pushCount < after.pushCount ∧ entry.2.fenceId = 0 ∧
        (after.OnlySubmitted entry.2.id → entry.2.stateEvent = true))) :
    FenceInvariant after := by
  have hunlisted : ∀ buffer ∈ onQueue .command new,
      ∀ entry : UInt32 × VirglResource, ¬buffer.Lists entry :=
    fun buffer hbuffer entry hlists =>
      hlists.updatedIds_ne_nil (hquiet buffer hbuffer)
  refine h.of_sends hsends hdistinct hcounted hdrawn hcontrol ?_ ?_ ?_
  · intro buffer hbuffer hids
    exact absurd (hquiet buffer hbuffer) hids
  · intro entry hentry
    have hcount := hsends.queued.pushCount
    rcases hlive entry hentry with
      ⟨old, hold, _, _, hserial, _, hfence⟩ | ⟨hserial, hmore, hfence, _⟩
    · have hbounds := h.resources old hold
      rw [hserial, hfence]
      omega
    · rw [hserial, hfence]
      exact ⟨hmore, Nat.zero_le _⟩
  · intro entry hentry honly
    rcases hlive entry hentry with
      ⟨old, hold, hctx, hid, hserial, hevent, hfence⟩ |
        ⟨hserial, _, _, hidle⟩
    · rw [hid] at honly
      have hdecided := h.decided_sends hsends hold honly
        (fun buffer hbuffer => hunlisted buffer hbuffer old) hid hserial
        hevent hfence
      rwa [← hctx] at hdecided
    · -- no command is newer than the resource
      refine Or.inl ⟨fun buffer hbuffer hlists => ?_, hidle honly⟩
      rw [hsends.sent] at hbuffer
      rcases List.mem_append.mp hbuffer with hold | hnew
      · have hnewer : entry.2.serial < buffer.serial := hlists.2.2.2
        have holder := h.pending.serials buffer hold
        omega
      · exact hunlisted buffer hnew entry hlists

private theorem decided_of_mark {new : List (Queue × VgpuBuffer)}
    {buffer : VgpuBuffer} (h : FenceInvariant before)
    (hsends : Sends new before after)
    (hnew : onQueue .command new = [buffer])
    (hserial : buffer.serial = before.pushCount)
    (hfresh : buffer.pBuf.hdr.fenceId = 0 ∨
      buffer.pBuf.hdr.fenceId.toNat = before.fenceIds.drawn + 1)
    (hfenced : after.SubmitsFenced) (hentry : entry ∈ before.live)
    (honly : after.OnlySubmitted entry.2.id) :
    after.Decided (markBusy buffer.pBuf.hdr.ctxId buffer.updatedIds
      buffer.pBuf.hdr.fenceId entry) := by
  have hsent : after.sent .command = before.sent .command ++ [buffer] := by
    rw [hsends.sent, hnew]
  have hmem : buffer ∈ after.sent .command := by
    rw [hsent]
    exact List.mem_append_right _ List.mem_cons_self
  have hbounds := h.resources entry hentry
  obtain ⟨marked, hmark, hid, hserial', _, _, hcases⟩ := markBusy_cases
    buffer.pBuf.hdr.ctxId buffer.updatedIds buffer.pBuf.hdr.fenceId entry
  rw [hmark]
  rcases hcases with ⟨⟨hctx, hlisted, _⟩, hevent, hfence⟩ | ⟨hnot, rfl⟩
  · have hsubmit := honly.isSubmit hmem hlisted
    have hnonzero := hfenced buffer hmem hsubmit
    have hnat := hfresh.resolve_left hnonzero
    have hlists : buffer.Lists (entry.1, marked) :=
      ⟨hsubmit, hctx.symm, hid ▸ hlisted, by simp only [hserial']; omega⟩
    refine Or.inr ⟨buffer, ⟨hmem, hlists, ?_⟩,
      hfence.resolve_left hnonzero, ?_⟩
    · intro other hother hlisted'
      rw [hsent] at hother
      rcases List.mem_append.mp hother with hold | hadded
      · have hbound := h.fences other hold hlisted'.updatedIds_ne_nil
        exact UInt64.le_iff_toNat_le.mpr (by omega)
      · rw [List.mem_singleton.mp hadded]
        exact UInt64.le_refl _
    · rw [hsends.inFlight, hnew]
      simp [hevent]
  · have haccepts : entry.2.Accepts buffer.pBuf.hdr.fenceId := by
      rcases hfresh with hzero | hnat
      · exact Or.inl hzero
      · exact Or.inr (UInt64.le_iff_toNat_le.mpr (by omega))
    refine h.decided_sends hsends hentry honly ?_ rfl rfl rfl rfl
    intro other hother hlists
    rw [hnew, List.mem_singleton] at hother
    rw [hother] at hlists
    exact hnot ⟨hlists.2.1.symm, hlists.2.2.1, haccepts⟩

theorem signal {addBuf : Nat → Bool} {contextId : UInt32}
    (h : FenceInvariant before) (hpush : ∀ serial, addBuf serial = true)
    (hstep : SignalStep addBuf False before after)
    (htrace : TraceStep addBuf contextId before after)
    (hdistinct : after.Distinct) (hidrs : IdrsStep before after)
    (hleft : after.fenceIds = before.fenceIds ∨
      before.fenceIds.drawn + 1 < 2 ^ 64)
    (hfenced : after.SubmitsFenced) : FenceInvariant after := by
  obtain ⟨new, hsends⟩ := htrace.sends
  obtain ⟨hcounted, hdrawn⟩ := hidrs.fences h.counted
  have hquiet : ∀ {kind : Queue → VgpuBuffer → Prop},
      Pushes kind before after → ∀ queue, ∀ buffer ∈ onQueue queue new,
        kind queue buffer := by
    rintro kind ⟨pushed, hextends, hkind⟩ queue buffer hbuffer
    rw [hsends.eq_of_extends hextends] at hbuffer
    exact hkind queue buffer hbuffer
  cases hstep with
  | quiet hlive hpushes =>
      refine h.of_quiet hsends hdistinct hcounted hdrawn
        (hquiet hpushes .control)
        (fun buffer hbuffer => (hquiet hpushes .command buffer hbuffer).1) ?_
      intro entry hentry
      exact Or.inl ⟨entry, hlive entry hentry, rfl, rfl, rfl, rfl, rfl⟩
  | created contextId resource hlive hserial hid hids hfence hidle hpushes
      hcount =>
      refine h.of_quiet hsends hdistinct hcounted hdrawn
        (hquiet hpushes .control)
        (fun buffer hbuffer => (hquiet hpushes .command buffer hbuffer).1) ?_
      intro entry hentry
      rcases List.mem_cons.mp (hlive.mem_iff.mp hentry) with rfl | hold
      · exact Or.inr ⟨hserial, hcount, hfence, fun _ => hidle⟩
      · exact Or.inl ⟨entry, hold, rfl, rfl, rfl, rfl, rfl⟩
  | blobCreated contextId resource buffer hlive hserial hid hids hfence hbusy
      hctxId hbody hmap hpushes hcount hpushed =>
      have hkinds := hquiet hpushes
      refine h.of_quiet hsends hdistinct hcounted hdrawn ?_ ?_ ?_
      · intro other hother
        rcases hkinds .control other hother with hother | ⟨hqueue, _⟩
        · exact hother
        · cases hqueue
      · intro other hother
        rcases hkinds .command other hother with hother | ⟨_, rfl⟩
        · exact hother.1
        · simp [VgpuBuffer.updatedIds, hbody]
      · intro entry hentry
        rcases List.mem_cons.mp (hlive.mem_iff.mp hentry) with rfl | hold
        · -- the command that maps the blob names it
          refine Or.inr ⟨hserial, hcount, hfence, fun honly => ?_⟩
          have hsent := (h.pending.sends hsends).inFlight.subset
            (hpushed (hpush _))
          refine absurd ?_ (honly buffer hsent ?_).2
          · simp [VgpuBuffer.mappedId, hbody]
          · simp [VgpuBuffer.IsSubmit, hbody]
        · exact Or.inl ⟨entry, hold, rfl, rfl, rfl, rfl, rfl⟩
  | shared contextId id share hlive hpushes =>
      refine h.of_quiet hsends hdistinct hcounted hdrawn
        (hquiet hpushes .control)
        (fun buffer hbuffer => (hquiet hpushes .command buffer hbuffer).1) ?_
      intro entry hentry
      rw [hlive] at hentry
      obtain ⟨old, hold, rfl⟩ := List.mem_map.mp hentry
      obtain ⟨given, hgive, hid, hserial, hfence, hevent⟩ :=
        giveShare_cases contextId id share old
      rw [hgive]
      exact Or.inl ⟨old, hold, rfl, hid, hserial, hevent, hfence⟩
  | marked buffer hlive hmapped hserial hfence hextends =>
      obtain ⟨_, _, hbound, hfresh⟩ := fence_of_drawn hfence h.counted hleft
      have hnew : onQueue .command new = [buffer] := by
        rw [hsends.eq_of_extends hextends]
        simp [accepted, hpush]
      refine h.of_sends hsends hdistinct hcounted hdrawn ?_ ?_ ?_ ?_
      · intro other hother
        rw [hsends.eq_of_extends hextends] at hother
        exact absurd (mem_accepted hother).1 (by decide)
      · intro other hother hids
        refine ⟨?_, ?_, fun hnonzero => ?_⟩
        · rw [hnew, List.mem_singleton] at hother
          rw [hnew, hother]
        · rw [hnew, List.mem_singleton] at hother
          rw [hother]
          exact hbound
        · rw [hnew, List.mem_singleton] at hother
          subst hother
          have hnat := hfresh.resolve_left hnonzero
          omega
      · intro entry hentry
        rw [hlive] at hentry
        obtain ⟨old, hold, rfl⟩ := List.mem_map.mp hentry
        obtain ⟨marked, hmark, _, hserial', _, hfences, _⟩ := markBusy_cases
          buffer.pBuf.hdr.ctxId buffer.updatedIds buffer.pBuf.hdr.fenceId old
        have hbounds := h.resources old hold
        have hcount := hsends.queued.pushCount
        rw [hmark]
        simp only [hserial']
        refine ⟨by omega, ?_⟩
        rcases hfences with hsame | hnewer
        · rw [hsame]
          omega
        · rw [hnewer]
          exact hbound
      · intro entry hentry honly
        rw [hlive] at hentry
        obtain ⟨old, hold, rfl⟩ := List.mem_map.mp hentry
        have hid : (markBusy buffer.pBuf.hdr.ctxId buffer.updatedIds
            buffer.pBuf.hdr.fenceId old).2.id = old.2.id := by
          obtain ⟨marked, hmark, hid, _⟩ := markBusy_cases
            buffer.pBuf.hdr.ctxId buffer.updatedIds buffer.pBuf.hdr.fenceId
            old
          rw [hmark]
          exact hid
        rw [hid] at honly
        exact h.decided_of_mark hsends hnew hserial hfresh hfenced hold honly
  | uncopied hrefused => exact hrefused.elim

private theorem completed_of_not_setsEvent {buffer : VgpuBuffer}
    {mapAddress : Option Nat} (info : MapInfo)
    (hnot : ¬(entry.1 = buffer.pBuf.hdr.ctxId ∧
      buffer.SetsEvent mapAddress entry.2)) :
    (if entry.1 = buffer.pBuf.hdr.ctxId then
        (entry.1, buffer.completed info mapAddress entry.2)
      else entry) = entry := by
  split
  · rename_i hctx
    obtain ⟨done, hdone, _, _, _, _, hcases⟩ :=
      buffer.completed_cases info mapAddress entry.2
    rcases hcases with ⟨hsets, _⟩ | ⟨_, hsame⟩
    · exact absurd ⟨hctx, hsets⟩ hnot
    · rw [hdone, hsame]
  · rfl

/-- Where only submissions name the resource, only an accepted submission
sets its event. -/
private theorem submit_of_setsEvent {buffer : VgpuBuffer}
    {mapAddress : Option Nat} (hfenced : before.SubmitsFenced)
    (honly : before.OnlySubmitted entry.2.id)
    (hbuffer : buffer ∈ before.sent .command)
    (hsets : buffer.SetsEvent mapAddress entry.2) :
    buffer.IsSubmit = true ∧ entry.2.id ∈ buffer.updatedIds ∧
      entry.2.fenceId ≤ buffer.pBuf.hdr.fenceId := by
  have hsubmit : buffer.IsSubmit = true := by
    by_contra hother
    obtain ⟨hunlisted, hunmapped⟩ := honly buffer hbuffer (by simpa using hother)
    rcases hsets with ⟨hmapped, _⟩ | ⟨hlisted, _⟩
    · exact hunmapped hmapped
    · exact hunlisted hlisted
  rcases hsets with ⟨hmapped, _⟩ | ⟨hlisted, haccepts⟩
  · unfold VgpuBuffer.IsSubmit at hsubmit
    unfold VgpuBuffer.mappedId at hmapped
    split at hsubmit
    · rename_i hbody
      simp [hbody] at hmapped
    · cases hsubmit
  · exact ⟨hsubmit, hlisted,
      haccepts.resolve_left (hfenced buffer hbuffer hsubmit)⟩

/-- Only the newest submission is still accepted. -/
private theorem eq_newest {buffer newest : VgpuBuffer}
    {mapAddress : Option Nat} (h : FenceInvariant before)
    (hfenced : before.SubmitsFenced)
    (honly : before.OnlySubmitted entry.2.id)
    (hnewest : before.Newest entry newest)
    (hfence : entry.2.fenceId = newest.pBuf.hdr.fenceId)
    (hbuffer : buffer ∈ before.sent .command)
    (hctx : entry.1 = buffer.pBuf.hdr.ctxId)
    (hsets : buffer.SetsEvent mapAddress entry.2) : buffer = newest := by
  obtain ⟨hsubmit, hlisted, haccepts⟩ :=
    submit_of_setsEvent hfenced honly hbuffer hsets
  obtain ⟨hmem, hlists, hlargest⟩ := hnewest
  rw [hfence] at haccepts
  rcases Nat.lt_or_ge entry.2.serial buffer.serial with hlive | hstale
  · have hlists' : buffer.Lists entry := ⟨hsubmit, hctx.symm, hlisted, hlive⟩
    refine h.eq_of_fence hfenced hbuffer hlists' hmem hlists ?_
    exact UInt64.le_antisymm (hlargest buffer hbuffer hlists') haccepts
  · -- a command from before the resource has a smaller fence id
    have hlater : entry.2.serial < newest.serial := hlists.2.2.2
    have hless := h.ordered buffer hbuffer newest hmem (by omega)
      (List.ne_nil_of_mem hlisted) hlists.updatedIds_ne_nil
      (hfenced newest hmem hlists.1)
    exact absurd hless (UInt64.not_lt.mpr haccepts)

private theorem decided_of_completion {buffer : VgpuBuffer}
    {info : MapInfo} {mapAddress : Option Nat} (h : FenceInvariant before)
    (hcompletes : Completes .command buffer info mapAddress before after)
    (hsent : after.sent .command = before.sent .command)
    (hfenced : before.SubmitsFenced) (hentry : entry ∈ before.live)
    (honly : before.OnlySubmitted entry.2.id) :
    after.Decided
      (if entry.1 = buffer.pBuf.hdr.ctxId then
        (entry.1, buffer.completed info mapAddress entry.2)
      else entry) := by
  have hhead := hcompletes.head
  have hbuffer : buffer ∈ before.sent .command :=
    h.pending.inFlight.subset (hhead ▸ List.mem_cons_self)
  have hdecided := h.decided entry hentry honly
  by_cases hsets : entry.1 = buffer.pBuf.hdr.ctxId ∧
      buffer.SetsEvent mapAddress entry.2
  · obtain ⟨hctx, hsets⟩ := hsets
    rw [if_pos hctx]
    obtain ⟨done, hdone, hid, hserial, _, hfence, hcases⟩ :=
      buffer.completed_cases info mapAddress entry.2
    have hidle : done.stateEvent = true := by
      rcases hcases with ⟨_, hidle⟩ | ⟨hnot, _⟩
      · exact hidle
      · exact absurd hsets hnot
    have hsame : ∀ other : VgpuBuffer,
        other.Lists (entry.1, done) ↔ other.Lists entry := by
      intro other
      simp only [VgpuBuffer.Lists, VgpuBuffer.RefersTo, hid, hserial]
    rw [hdone]
    unfold Driver.Decided Driver.Newest
    simp only [hsame, hsent, hidle]
    rcases hdecided with ⟨hnone, _⟩ | ⟨newest, hnewest, hnumber, _⟩
    · exact Or.inl ⟨hnone, trivial⟩
    · have heq := h.eq_newest hfenced honly hnewest hnumber hbuffer hctx
        hsets
      subst heq
      refine Or.inr ⟨buffer, hnewest, ?_, ?_⟩
      · rcases hfence with hold | ⟨_, hnew⟩
        · rw [hold, hnumber]
        · exact hnew
      · have hnodup := h.pending.nodup
        rw [hhead, List.nodup_cons] at hnodup
        simpa using hnodup.1
  · rw [completed_of_not_setsEvent info hsets]
    rcases hdecided with ⟨hnone, hidle⟩ | ⟨newest, hnewest, hnumber, hiff⟩
    · exact Or.inl ⟨by rw [hsent]; exact hnone, hidle⟩
    · have hother : newest ≠ buffer := by
        rintro rfl
        refine hsets ⟨hnewest.2.1.2.1.symm, Or.inr ⟨hnewest.2.1.2.2.1, ?_⟩⟩
        exact Or.inr (hnumber ▸ UInt64.le_refl _)
      refine Or.inr ⟨newest, ?_, hnumber, ?_⟩
      · unfold Driver.Newest at *
        rwa [hsent]
      · rw [hiff, hhead, List.mem_cons]
        exact ⟨fun hmem => hmem.resolve_left hother, Or.inr⟩

private theorem completes {buffer : VgpuBuffer} {info : MapInfo}
    {mapAddress : Option Nat} (h : FenceInvariant before)
    (hcompletes : Completes .command buffer info mapAddress before after)
    (hpending : Pending .command after)
    (hpushes : after.pushes = before.pushes)
    (hfenced : before.SubmitsFenced) : FenceInvariant after := by
  have hsent := sent_of_pushes .command hpushes
  have hlive := live_of_completion h.distinct hcompletes.contexts
  have hbuffer : buffer ∈ before.sent .command :=
    h.pending.inFlight.subset (hcompletes.head ▸ List.mem_cons_self)
  refine
    { distinct := h.distinct.completes hcompletes
      pending := hpending
      control := ?_
      counted := hcompletes.fenceIds ▸ h.counted
      fences := by
        rw [hsent, hcompletes.fenceIds]
        exact h.fences
      ordered := by
        rw [hsent]
        exact h.ordered
      resources := ?_
      decided := ?_ }
  · rw [hcompletes.others .control (by decide)]
    exact h.control
  · intro entry hentry
    rw [hlive] at hentry
    obtain ⟨old, hold, rfl⟩ := List.mem_map.mp hentry
    have hbounds := h.resources old hold
    rw [hcompletes.pushCount, hcompletes.fenceIds]
    split
    · obtain ⟨done, hdone, _, hserial, _, hfence, _⟩ :=
        buffer.completed_cases info mapAddress old.2
      simp only [hdone, hserial]
      refine ⟨hbounds.1, ?_⟩
      rcases hfence with hsame | ⟨hlisted, hnew⟩
      · rw [hsame]
        exact hbounds.2
      · rw [hnew]
        exact h.fences buffer hbuffer (List.ne_nil_of_mem hlisted)
    · exact hbounds
  · intro entry hentry honly
    rw [hlive] at hentry
    obtain ⟨old, hold, rfl⟩ := List.mem_map.mp hentry
    have hid : (if old.1 = buffer.pBuf.hdr.ctxId then
        (old.1, buffer.completed info mapAddress old.2)
      else old).2.id = old.2.id := by
      split
      · obtain ⟨done, hdone, hid, _⟩ :=
          buffer.completed_cases info mapAddress old.2
        rw [hdone]
        exact hid
      · rfl
    rw [hid] at honly
    refine h.decided_of_completion hcompletes hsent hfenced hold ?_
    exact honly.of_sent (by rw [hsent])

private theorem of_same (h : FenceInvariant before)
    (hpending : Pending .command after)
    (hcontexts : after.virglContextList = before.virglContextList)
    (hpushes : after.pushes = before.pushes)
    (hcount : after.pushCount = before.pushCount)
    (hfences : after.fenceIds = before.fenceIds)
    (hcommand : ∀ buffer, buffer ∈ after.inFlight .command ↔
      buffer ∈ before.inFlight .command)
    (hcontrol : ∀ buffer ∈ after.inFlight .control,
      buffer ∈ before.inFlight .control) : FenceInvariant after := by
  have hsent := sent_of_pushes .command hpushes
  have hlive : after.live = before.live := by
    unfold Driver.live
    rw [hcontexts]
  exact
    { distinct := h.distinct.of_contexts hcontexts
      pending := hpending
      control := fun buffer hbuffer =>
        h.control buffer (hcontrol buffer hbuffer)
      counted := hfences ▸ h.counted
      fences := by
        rw [hsent, hfences]
        exact h.fences
      ordered := by
        rw [hsent]
        exact h.ordered
      resources := by
        rw [hlive, hcount, hfences]
        exact h.resources
      decided := by
        have hdecided := h.decided
        unfold Driver.OnlySubmitted Driver.Decided Driver.Newest at *
        simpa only [hlive, hsent, hcommand] using hdecided }

private theorem readOneFromQueue {driver : Driver} {queue : Queue}
    {mapAddress : Option Nat} (h : FenceInvariant driver)
    (hpending : Pending .command
      (readOneFromQueue queue mapAddress driver))
    (hfenced : driver.SubmitsFenced) :
    FenceInvariant (VgpuDriver.readOneFromQueue queue mapAddress
      driver) := by
  have hidles := readOneFromQueue_idles queue mapAddress driver
  rcases readOneFromQueue_cases queue mapAddress driver with
    hsame | ⟨buffer, info, rest, _, _, hcompletes⟩
  · rw [hsame]
    exact h
  · cases queue with
    | command => exact h.completes hcompletes hpending hidles.pushes hfenced
    | control =>
        have hquiet := h.control buffer
          (hcompletes.head ▸ List.mem_cons_self)
        refine h.of_same hpending (hcompletes.quiet hquiet) hidles.pushes
          hcompletes.pushCount hcompletes.fenceIds ?_ ?_
        · intro other
          rw [hcompletes.others .command (by decide)]
        · intro other hother
          rw [hcompletes.head]
          exact List.mem_cons_of_mem _ hother

theorem step {addBuf : Nat → Bool} {world : World} {action : Action}
    (h : FenceInvariant world.driver) (hnumbered : Numbered world.driver)
    (hpush : ∀ serial, addBuf serial = true) (hcopies : action.CopiesHandles)
    (hfenced : (World.step addBuf world action).driver.SubmitsFenced)
    (hfences : (World.step addBuf world action).driver.fenceIds.drawn <
      2 ^ 64)
    (hids : (World.step addBuf world action).driver.resourceIds.drawn <
      2 ^ 32) :
    FenceInvariant (World.step addBuf world action).driver := by
  have hpending : Pending .command (World.step addBuf world action).driver :=
    h.pending.step action
  cases action with
  | request processId request =>
      obtain ⟨hreads, hcopied⟩ := hcopies
      have hbefore := Nat.lt_of_le_of_lt (World.drawn_le addBuf world
        (.request processId request)) hids
      have hidrs : IdrsStep world.driver (virtioVgpuIoControl addBuf
          processId world.driver request).2 :=
        virtioVgpuIoControl_idrs processId world.driver request
      have hstep : SignalStep addBuf (¬request.CopyGranted) world.driver
          (virtioVgpuIoControl addBuf processId world.driver request).2 :=
        virtioVgpuIoControl_signal processId h.distinct hreads
      have hsignal := hstep.mono fun hnot => hnot hcopied
      refine h.signal hpush hsignal
        (virtioVgpuIoControl_trace addBuf processId world.driver request)
        (virtioVgpuIoControl_distinct processId h.distinct
          (hnumbered.drawsFreshId hbefore processId request)) hidrs
        (hidrs.fences_left hfences) hfenced
  | processExit processId =>
      obtain ⟨hresources, hsame⟩ := processNotify_idrs addBuf processId
        world.driver
      exact h.signal hpush (processNotify_signal processId world.driver)
        (processNotify_trace processId world.driver)
        (processNotify_distinct processId h.distinct)
        ⟨Or.inl hresources, Or.inl hsame⟩ (Or.inl hsame) hfenced
  | host queue slot info =>
      simp only [World.step] at *
      split at hpending
      · exact h
      · rename_i buffer hslot
        have hperm := returnBuffer_inFlight_perm info hslot
        have hidles := returnBuffer_idles queue slot buffer info world.driver
        exact h.of_same hpending rfl hidles.pushes rfl rfl
          (fun other => (hperm .command).mem_iff)
          (fun other hother => (hperm .control).mem_iff.mp hother)
  | dpc queue mapAddress =>
      refine h.readOneFromQueue hpending ?_
      have hidles := readOneFromQueue_idles queue mapAddress world.driver
      have hsent := sent_of_pushes .command hidles.pushes
      unfold Driver.SubmitsFenced at hfenced ⊢
      simp only [World.step, hsent] at hfenced
      exact hfenced

end FenceInvariant

namespace FenceInvariant

variable {driver : Driver} {entry : UInt32 × VirglResource}

private theorem newest_unique (h : FenceInvariant driver)
    (hfenced : driver.SubmitsFenced) {left right : VgpuBuffer}
    (hleft : driver.Newest entry left)
    (hright : driver.Newest entry right) : left = right := by
  obtain ⟨hmem, hlists, hlargest⟩ := hleft
  obtain ⟨hmem', hlists', hlargest'⟩ := hright
  refine h.eq_of_fence hfenced hmem hlists hmem' hlists' ?_
  exact UInt64.le_antisymm (hlargest' left hmem hlists)
    (hlargest right hmem' hlists')

/-- A completion with an older fence id leaves the resource as it is. -/
private theorem stale_completion (h : FenceInvariant driver)
    (hfenced : driver.SubmitsFenced) (hentry : entry ∈ driver.live)
    (honly : driver.OnlySubmitted entry.2.id) {newest : VgpuBuffer}
    (hnewest : driver.Newest entry newest) {queue : Queue}
    {mapAddress : Option Nat} {head : VgpuBuffer × MapInfo}
    (hhead : head ∈ (driver.virtQueues queue).used.head?)
    (hstale : head.1.pBuf.hdr.fenceId < newest.pBuf.hdr.fenceId) :
    entry ∈ (VgpuDriver.readOneFromQueue queue mapAddress driver).live := by
  rcases readOneFromQueue_cases queue mapAddress driver with
    hsame | ⟨buffer, info, rest, hused, _, hcompletes⟩
  · rw [hsame]
    exact hentry
  · rw [hused, List.head?_cons, Option.mem_some_iff] at hhead
    subst hhead
    cases queue with
    | control =>
        have hquiet := h.control buffer
          (hcompletes.head ▸ List.mem_cons_self)
        unfold Driver.live
        rw [hcompletes.quiet hquiet]
        exact hentry
    | command =>
        have hbuffer : buffer ∈ driver.sent .command :=
          h.pending.inFlight.subset (hcompletes.head ▸ List.mem_cons_self)
        rw [live_of_completion h.distinct hcompletes.contexts]
        refine List.mem_map.mpr ⟨entry, hentry, ?_⟩
        apply completed_of_not_setsEvent
        rintro ⟨hctx, hsets⟩
        rcases h.decided entry hentry honly with
          ⟨hnone, _⟩ | ⟨decisive, hdecisive, hnumber, _⟩
        · exact hnone newest hnewest.1 hnewest.2.1
        · have heq := h.eq_newest hfenced honly hdecisive hnumber hbuffer
            hctx hsets
          have hsame := h.newest_unique hfenced hnewest hdecisive
          rw [heq, hsame] at hstale
          exact UInt64.lt_irrefl _ hstale

theorem newestFenceWins (h : FenceInvariant driver)
    (hblobs : MapsBlobs driver) (hfenced : driver.SubmitsFenced) :
    driver.NewestFenceWins := by
  intro entry hentry hplain huntransferred
  have honly : driver.OnlySubmitted entry.2.id := by
    intro buffer hbuffer hsubmit
    refine ⟨huntransferred buffer hbuffer hsubmit, fun hmapped => ?_⟩
    have hblob := hblobs.blobs buffer hbuffer (recordOf entry)
      (List.mem_map_of_mem hentry) hmapped
    rw [show (recordOf entry).bForBlob = false from hplain] at hblob
    cases hblob
  constructor
  · rcases h.decided entry hentry honly with
      ⟨hnone, hidle⟩ | ⟨newest, hnewest, _, hiff⟩
    · rw [hidle]
      refine ⟨nofun, ?_⟩
      rintro ⟨newest, _, hmem, hlists, _⟩
      exact absurd hlists (hnone newest hmem)
    · rw [hiff]
      constructor
      · intro hmem
        exact ⟨newest, hmem, hnewest⟩
      · rintro ⟨other, hmem, hother⟩
        rwa [h.newest_unique hfenced hnewest hother]
  · intro newest hnewest queue mapAddress head hhead hstale
    exact h.stale_completion hfenced hentry honly hnewest hhead hstale

end FenceInvariant

theorem start_fenceInvariant
    (virtualAddress physicalAddress memorySize : Nat) (capsets : Capsets) :
    FenceInvariant (World.start virtualAddress physicalAddress memorySize
      capsets).driver where
  distinct := ⟨List.nodup_nil, by simp [World.start]⟩
  pending := start_pending _ _ _ _ _
  control := by simp [World.start, Driver.inFlight, Virtqueue.inFlight]
  counted := initializeIdr_counted
  fences := by simp [World.start, Driver.sent, Driver.pushes]
  ordered := by simp [World.start, Driver.sent, Driver.pushes]
  resources := by simp [World.start, Driver.live, liveIn]
  decided := by simp [World.start, Driver.live, liveIn]

theorem World.fences_le (addBuf : Nat → Bool) (world : World)
    (action : Action) :
    world.driver.fenceIds.drawn ≤
      (World.step addBuf world action).driver.fenceIds.drawn := by
  have hidrs : ∀ {before after : Driver}, IdrsStep before after →
      before.fenceIds.drawn ≤ after.fenceIds.drawn := by
    intro before after hstep
    rcases hstep.fenceIds with hsame | hdrawn
    · rw [hsame]
    · rw [hdrawn]
      exact Nat.le_succ _
  cases action with
  | request processId request =>
      exact hidrs (virtioVgpuIoControl_idrs processId world.driver request)
  | processExit processId =>
      rw [World.step, (processNotify_idrs addBuf processId world.driver).2]
  | host queue slot info =>
      simp only [World.step]
      split
      · exact Nat.le_refl _
      · exact Nat.le_refl _
  | dpc queue mapAddress =>
      rw [World.step]
      rcases readOneFromQueue_cases queue mapAddress world.driver with
        hsame | ⟨buffer, info, rest, _, _, hcompletes⟩
      · rw [hsame]
      · rw [hcompletes.fenceIds]

theorem World.submitsFenced_of_step (addBuf : Nat → Bool) (world : World)
    (action : Action)
    (h : (World.step addBuf world action).driver.SubmitsFenced) :
    world.driver.SubmitsFenced := fun buffer hbuffer =>
  h buffer ((World.sent_prefix addBuf world action .command).subset hbuffer)

theorem newest_fence_wins (addBuf : Nat → Bool)
    (virtualAddress physicalAddress memorySize : Nat) (capsets : Capsets)
    (actions : List Action) (hpush : ∀ serial, addBuf serial = true)
    (hcopies : ∀ action ∈ actions, action.CopiesHandles)
    (hfenced : (runFrom (World.step addBuf)
      (World.start virtualAddress physicalAddress memorySize capsets)
      actions).driver.SubmitsFenced)
    (hfences : (runFrom (World.step addBuf)
      (World.start virtualAddress physicalAddress memorySize capsets)
      actions).driver.fenceIds.drawn < 2 ^ 64)
    (hids : (runFrom (World.step addBuf)
      (World.start virtualAddress physicalAddress memorySize capsets)
      actions).driver.resourceIds.drawn < 2 ^ 32) :
    (runFrom (World.step addBuf)
      (World.start virtualAddress physicalAddress memorySize capsets)
      actions).driver.NewestFenceWins := by
  have hcopied : Along (World.step addBuf)
      (fun _ action => action.CopiesHandles)
      (World.start virtualAddress physicalAddress memorySize capsets)
      actions := along_of_mem hcopies
  have hsubmits := along_of_end (fun world : World => world.driver.SubmitsFenced)
    (World.submitsFenced_of_step addBuf) hfenced
  have hguards := hcopied.and (hsubmits.and
    ((along_of_le (World.fences_le addBuf) hfences).and
      (along_of_le (World.drawn_le addBuf) hids)))
  let invariant : World → Prop := fun world =>
    FenceInvariant world.driver ∧ MapsBlobs world.driver ∧
      Numbered world.driver
  have hstart : invariant
      (World.start virtualAddress physicalAddress memorySize capsets) :=
    ⟨start_fenceInvariant _ _ _ _, start_mapsBlobs _ _ _ _,
      start_numbered _ _ _ _⟩
  have hinvariant : invariant (runFrom (World.step addBuf)
      (World.start virtualAddress physicalAddress memorySize capsets)
      actions) := by
    refine hguards.invariant ?_ hstart
    rintro world action ⟨hfence, hblobs, hnumbered⟩
      ⟨hcopies, hsubmits, hfences, hids⟩
    exact ⟨hfence.step hnumbered hpush hcopies hsubmits hfences hids,
      hblobs.step hnumbered action hids, hnumbered.step action hids⟩
  exact hinvariant.1.newestFenceWins hinvariant.2.1 hfenced

/-- The first submission names the id of a resource that is created only
afterwards, the other two list the resource. The newest one is completed first,
the oldest one after it, and the one in between is returned but not read. -/
def staleFences : List Action :=
  [.request 7 .initContext, .request 7 (.submit [1] (some 100)),
   .request 7 (.create 1), .request 7 (.submit [1] (some 101)),
   .request 7 (.submit [1] (some 102)),
   .host .command 1 { gpa := 0, size := 0 },
   .host .command 2 { gpa := 0, size := 0 },
   .host .command 0 { gpa := 0, size := 0 },
   .host .command 0 { gpa := 0, size := 0 },
   .dpc .command none, .dpc .command none, .dpc .command none]

theorem newest_fence_wins_staleFences :
    (runFrom (World.step fun _ => true) World.eightPages
      staleFences).driver.NewestFenceWins :=
  newest_fence_wins _ _ _ _ _ _ (fun _ => rfl) (by decide +kernel)
    (by decide +kernel) (by decide +kernel) (by decide +kernel)

end VgpuDriver
