import VgpuDriver.Pending

namespace VgpuDriver

open Data

/-! The commands of a context in the order of the pushes: CTX_CREATE, commands
that carry the context id, CTX_DESTROY. -/

/-- CTX_CREATE and CTX_DESTROY, the commands of CONTROL_QUEUE. -/
def CommandBody.IsBracket : CommandBody → Bool
  | .ctxCreate _ | .ctxDestroy => true
  | _ => false

namespace Command

/-- The context id, where the builder puts one into the header. -/
def context (command : Command) : Option UInt32 :=
  match command.body with
  | .getCapset _ _ | .getCapsetInfo _ | .resourceDetachBacking _ => none
  | _ => some command.hdr.ctxId

def CreatesContext (command : Command) (id : UInt32) : Bool :=
  match command.body with
  | .ctxCreate _ => command.hdr.ctxId = id
  | _ => false

def DestroysContext (command : Command) (id : UInt32) : Bool :=
  match command.body with
  | .ctxDestroy => command.hdr.ctxId = id
  | _ => false

/-- SUBMIT_3D, a transfer, UNMAP_BLOB or RESOURCE_UNREF of the context. -/
def UsesContext (command : Command) (id : UInt32) : Bool :=
  match command.body with
  | .submit3d _ | .transferToHost2d _ | .transferHost3d _ _
  | .resourceUnmapBlob _ | .resourceUnref _ => command.hdr.ctxId = id
  | _ => false

end Command

/-- What one push does to the open CTX_CREATE of the context. -/
def openContext (id : UInt32) (opened : Option VgpuBuffer)
    (push : Queue × VgpuBuffer) : Option VgpuBuffer :=
  if push.2.pBuf.CreatesContext id then some push.2
  else if push.2.pBuf.DestroysContext id then none
  else opened

/-- The CTX_CREATE of the context that no CTX_DESTROY follows. -/
def opener (id : UInt32) (pushes : List (Queue × VgpuBuffer)) :
    Option VgpuBuffer :=
  pushes.foldl (openContext id) none

/-- Those of the pushes that were made before the buffer was pushed. -/
def pushedBefore (buffer : VgpuBuffer) (pushes : List (Queue × VgpuBuffer)) :
    List (Queue × VgpuBuffer) :=
  pushes.filter fun push => push.2.serial < buffer.serial

/-- The pushes below `count`, each command of a context behind a CTX_CREATE. -/
structure Enclosed (pushes : List (Queue × VgpuBuffer)) (count : Nat) :
    Prop where
  ordered : pushes.Pairwise fun first second =>
    first.2.serial < second.2.serial
  serials : ∀ push ∈ pushes, push.2.serial < count
  placed : ∀ push ∈ pushes,
    push.1 = .control ↔ push.2.pBuf.body.IsBracket = true
  enclosed : ∀ push ∈ pushes, ∀ id, push.2.pBuf.context = some id →
    push.2.pBuf.CreatesContext id = false →
      (opener id (pushedBefore push.2 pushes)).isSome

/-- A command of COMMAND_QUEUE for the context or for none. -/
def Within (id : UInt32) (command : Queue × Command) : Prop :=
  command.1 = .command ∧ command.2.body.IsBracket = false ∧
    ∀ other, command.2.context = some other → other = id

theorem opener_append (id : UInt32) (front back : List (Queue × VgpuBuffer)) :
    opener id (front ++ back) = back.foldl (openContext id)
      (opener id front) :=
  List.foldl_append

theorem opener_push (id : UInt32) (pushes : List (Queue × VgpuBuffer))
    (push : Queue × VgpuBuffer) :
    opener id (pushes ++ [push]) = openContext id (opener id pushes) push :=
  opener_append id pushes [push]

theorem openContext_of_not_bracket {push : Queue × VgpuBuffer}
    (hbody : push.2.pBuf.body.IsBracket = false) (id : UInt32)
    (opened : Option VgpuBuffer) :
    openContext id opened push = opened := by
  unfold openContext
  cases hcase : push.2.pBuf.body with
  | ctxCreate contextInit =>
      rw [hcase] at hbody
      cases hbody
  | ctxDestroy =>
      rw [hcase] at hbody
      cases hbody
  | _ => simp [Command.CreatesContext, Command.DestroysContext, hcase]

theorem opener_eq_some {id : UInt32} {pushes : List (Queue × VgpuBuffer)}
    {create : VgpuBuffer} (hopener : opener id pushes = some create) :
    ∃ front queue back, pushes = front ++ (queue, create) :: back ∧
      create.pBuf.CreatesContext id = true ∧
      ∀ push ∈ back, push.2.pBuf.CreatesContext id = false := by
  induction pushes using List.reverseRecOn with
  | nil => cases hopener
  | append_singleton pushes push ih =>
      rw [opener_push] at hopener
      unfold openContext at hopener
      split at hopener
      · rename_i hcreates
        obtain rfl := Option.some.inj hopener
        exact ⟨pushes, push.1, [], rfl, hcreates,
          fun _ hmem => absurd hmem List.not_mem_nil⟩
      · rename_i hcreates
        split at hopener
        · cases hopener
        · obtain ⟨front, queue, back, rfl, hcreate, hback⟩ := ih hopener
          refine ⟨front, queue, back ++ [push], by simp, hcreate, ?_⟩
          intro other hother
          rcases List.mem_append.mp hother with hold | hnew
          · exact hback other hold
          · rw [List.mem_singleton.mp hnew]
            simpa using hcreates

theorem pushedBefore_append {pushes new : List (Queue × VgpuBuffer)}
    {count : Nat} (hnew : ∀ push ∈ new, count ≤ push.2.serial)
    {buffer : VgpuBuffer} (hbuffer : buffer.serial < count) :
    pushedBefore buffer (pushes ++ new) = pushedBefore buffer pushes := by
  unfold pushedBefore
  rw [List.filter_append]
  have hnone : new.filter
      (fun push => decide (push.2.serial < buffer.serial)) = [] := by
    rw [List.filter_eq_nil_iff]
    intro push hpush
    have hlow := hnew push hpush
    simp only [decide_eq_true_eq]
    omega
  rw [hnone, List.append_nil]

namespace Enclosed

variable {pushes : List (Queue × VgpuBuffer)} {count : Nat}

theorem pushedBefore_all (h : Enclosed pushes count) {buffer : VgpuBuffer}
    (hserial : buffer.serial = count) :
    pushedBefore buffer pushes = pushes := by
  apply List.filter_eq_self.mpr
  intro push hpush
  rw [hserial]
  exact decide_eq_true (h.serials push hpush)

theorem push (h : Enclosed pushes count) {push : Queue × VgpuBuffer}
    (hserial : push.2.serial = count)
    (hplaced : push.1 = .control ↔ push.2.pBuf.body.IsBracket = true)
    (hopened : ∀ id, push.2.pBuf.context = some id →
      push.2.pBuf.CreatesContext id = false → (opener id pushes).isSome) :
    Enclosed (pushes ++ [push]) (count + 1) where
  ordered := by
    rw [List.pairwise_append]
    refine ⟨h.ordered, List.pairwise_singleton _ _, ?_⟩
    intro first hfirst second hsecond
    rw [List.mem_singleton.mp hsecond, hserial]
    exact h.serials first hfirst
  serials := by
    intro other hother
    rcases List.mem_append.mp hother with hold | hnew
    · exact Nat.lt_succ_of_lt (h.serials other hold)
    · rw [List.mem_singleton.mp hnew, hserial]
      exact Nat.lt_succ_self count
  placed := by
    intro other hother
    rcases List.mem_append.mp hother with hold | hnew
    · exact h.placed other hold
    · rw [List.mem_singleton.mp hnew]
      exact hplaced
  enclosed := by
    intro other hother id hcontext hcreates
    have hlast : ∀ last ∈ [push], count ≤ last.2.serial := by
      intro last hmem
      rw [List.mem_singleton.mp hmem]
      exact Nat.le_of_eq hserial.symm
    rcases List.mem_append.mp hother with hold | hnew
    · rw [pushedBefore_append hlast (h.serials other hold)]
      exact h.enclosed other hold id hcontext hcreates
    · rw [List.mem_singleton.mp hnew] at hcontext hcreates ⊢
      have hbefore : pushedBefore push.2 (pushes ++ [push]) = pushes := by
        unfold pushedBefore
        rw [List.filter_append]
        have hall := h.pushedBefore_all hserial
        unfold pushedBefore at hall
        rw [hall]
        simp
      rw [hbefore]
      exact hopened id hcontext hcreates

theorem within (h : Enclosed pushes count) {id : UInt32}
    (hopen : (opener id pushes).isSome) {commands : List (Queue × Command)}
    (hwithin : ∀ command ∈ commands, Within id command) :
    Enclosed (pushes ++ numbered count commands) (count + commands.length) ∧
      ∀ other, opener other (pushes ++ numbered count commands) =
        opener other pushes := by
  induction commands generalizing pushes count with
  | nil =>
      have hnone : pushes ++ numbered count [] = pushes :=
        List.append_nil pushes
      rw [hnone]
      exact ⟨h, fun _ => rfl⟩
  | cons command commands ih =>
      obtain ⟨hqueue, hbody, hcontext⟩ := hwithin command List.mem_cons_self
      have hsame : ∀ other, opener other (pushes ++ [(command.1,
          commandBuffer command.2.hdr command.2.body count)]) =
            opener other pushes := by
        intro other
        rw [opener_push]
        exact openContext_of_not_bracket hbody other _
      have hpush : Enclosed (pushes ++ [(command.1,
          commandBuffer command.2.hdr command.2.body count)]) (count + 1) := by
        refine h.push rfl ?_ ?_
        · change command.1 = .control ↔ command.2.body.IsBracket = true
          rw [hqueue, hbody]
          decide
        · intro other hother _
          rw [hcontext other hother]
          exact hopen
      obtain ⟨henclosed, hopeners⟩ := ih hpush (by rw [hsame]; exact hopen)
        fun other hother => hwithin other (List.mem_cons_of_mem _ hother)
      simp only [numbered, List.length_cons]
      rw [List.append_cons, Nat.add_comm commands.length 1, ← Nat.add_assoc]
      exact ⟨henclosed, fun other => (hopeners other).trans (hsame other)⟩

end Enclosed

/-! The steps of the driver. -/

theorem Command.context_eq {command : Command} {id : UInt32}
    (hcontext : command.context = some id) : command.hdr.ctxId = id := by
  unfold Command.context at hcontext
  split at hcontext
  · cases hcontext
  · cases hcontext
  · cases hcontext
  · exact Option.some.inj hcontext

theorem within_ctrlHdr (contextId : UInt32) {body : CommandBody}
    (hbody : body.IsBracket = false) :
    Within contextId (.command, ⟨ctrlHdr contextId 0, body⟩) := by
  refine ⟨rfl, hbody, fun other hother => ?_⟩
  rw [← Command.context_eq hother]
  exact ctrlHdr_ctxId contextId 0

theorem CreationCommands.within {contextId : UInt32}
    {resource : VirglResource} {commands : List (Queue × Command)}
    (h : CreationCommands contextId resource commands) :
    ∀ command ∈ commands, Within contextId command := by
  intro command hcommand
  cases h with
  | bare create hbuffer hblob =>
      rw [List.mem_singleton.mp hcommand]
      exact within_ctrlHdr contextId rfl
  | backed create gpa size hbuffer hblob =>
      rcases List.mem_cons.mp hcommand with rfl | hlast
      · exact within_ctrlHdr contextId rfl
      · rw [List.mem_singleton.mp hlast]
        exact within_ctrlHdr contextId rfl
  | blob create hbuffer hblob =>
      rcases List.mem_cons.mp hcommand with rfl | hlast
      · exact within_ctrlHdr contextId rfl
      · rw [List.mem_singleton.mp hlast]
        exact within_ctrlHdr contextId rfl

theorem deletionCommands_within (contextId : UInt32)
    (resource : VirglResource) :
    ∀ command ∈ deletionCommands contextId resource,
      Within contextId command := by
  intro command hcommand
  rcases List.mem_append.mp hcommand with hfirst | hunref
  · split at hfirst
    · split at hfirst
      · rw [List.mem_singleton.mp hfirst]
        exact within_ctrlHdr contextId rfl
      · rw [List.mem_singleton.mp hfirst]
        exact ⟨rfl, rfl, fun other hother => by cases hother⟩
    · cases hfirst
  · rw [List.mem_singleton.mp hunref]
    exact within_ctrlHdr contextId rfl

/-- The pushes, and the contexts that are open. -/
structure BracketInvariant (driver : Driver) : Prop where
  enclosed : Enclosed driver.pushes driver.pushCount
  nodup : driver.contextIds.Nodup
  opened : ∀ id, id ∈ driver.contextIds ↔ (opener id driver.pushes).isSome

namespace BracketInvariant

variable {addBuf : Nat → Bool} {contextId : UInt32}
variable {before after : Driver}

theorem isSome (h : BracketInvariant before)
    (hcontext : contextId ∈ before.contextIds) :
    (opener contextId before.pushes).isSome := (h.opened contextId).mp hcontext

private theorem of_within (h : BracketInvariant before)
    (hpush : ∀ serial, addBuf serial = true)
    (hcontext : contextId ∈ before.contextIds)
    {commands : List (Queue × Command)}
    (hwithin : ∀ command ∈ commands, Within contextId command)
    (hcontexts : after.contextIds = before.contextIds)
    (hissues : Issues addBuf commands before after) :
    BracketInvariant after := by
  obtain ⟨henclosed, hopeners⟩ :=
    h.enclosed.within (h.isSome hcontext) hwithin
  have hpushes := hissues.sends.pushes
  rw [acceptedOf_eq_self hpush] at hpushes
  refine ⟨?_, hcontexts ▸ h.nodup, fun id => ?_⟩
  · rw [hpushes, hissues.count]
    exact henclosed
  · rw [hcontexts, hpushes, hopeners]
    exact h.opened id

theorem trace (h : BracketInvariant before)
    (hpush : ∀ serial, addBuf serial = true)
    (hstep : TraceStep addBuf contextId before after) :
    BracketInvariant after := by
  cases hstep with
  | quiet hsame hids hissues =>
      have hpushes := hissues.sends.pushes
      rw [acceptedOf_eq_self hpush] at hpushes
      have hnone : after.pushes = before.pushes :=
        hpushes.trans (List.append_nil _)
      refine ⟨?_, hsame.contextIds ▸ h.nodup, fun id => ?_⟩
      · rw [hnone, hissues.count]
        exact h.enclosed
      · rw [hsame.contextIds, hnone]
        exact h.opened id
  | opened contextInit hnew hcontexts hrecords hids hissues =>
      have hpushes := hissues.sends.pushes
      rw [acceptedOf_eq_self hpush] at hpushes
      refine ⟨?_, ?_, fun id => ?_⟩
      · rw [hpushes, hissues.count]
        refine h.enclosed.push rfl (iff_of_true rfl rfl) ?_
        intro id hcontext hcreates
        have hid := Command.context_eq hcontext
        have hcreate : Command.CreatesContext
            ⟨ctrlHdr contextId 0, .ctxCreate contextInit⟩ id = true :=
          decide_eq_true hid
        exact absurd (hcreate.symm.trans hcreates) (by decide)
      · rw [hcontexts]
        exact List.nodup_cons.mpr ⟨hnew, h.nodup⟩
      · rw [hcontexts, hpushes, List.mem_cons, h.opened id]
        change _ ↔ (opener id (before.pushes ++ [_])).isSome
        rw [opener_push]
        by_cases hid : contextId = id
        · simp [openContext, Command.CreatesContext, commandBuffer, hid]
        · simp [openContext, Command.CreatesContext,
            Command.DestroysContext, commandBuffer, hid, Ne.symm hid]
  | created resource commands hcontext hcreates hid hserial hcontexts hrecords
      hids hissues =>
      exact h.of_within hpush hcontext hcreates.within hcontexts hissues
  | exhausted create hcontext hsame hids hissues =>
      refine h.of_within hpush hcontext ?_ hsame.contextIds hissues
      intro command hcommand
      rw [List.mem_singleton.mp hcommand]
      exact within_ctrlHdr contextId rfl
  | closed resource hcontext hcontexts hrecords hids hissues =>
      exact h.of_within hpush hcontext
        (deletionCommands_within contextId resource) hcontexts hissues
  | destroyed resources hcontext hcontexts hrecords hids hissues =>
      have hwithin : ∀ command ∈
          resources.flatMap (deletionCommands contextId),
          Within contextId command := by
        intro command hcommand
        obtain ⟨resource, _, hresource⟩ := List.mem_flatMap.mp hcommand
        exact deletionCommands_within contextId resource command hresource
      obtain ⟨henclosed, hopeners⟩ :=
        h.enclosed.within (h.isSome hcontext) hwithin
      have hpushes := hissues.sends.pushes
      rw [acceptedOf_eq_self hpush, numbered_append,
        ← List.append_assoc] at hpushes
      have hcount := hissues.count
      rw [List.length_append, ← Nat.add_assoc] at hcount
      refine ⟨?_, ?_, fun id => ?_⟩
      · rw [hpushes, hcount]
        refine henclosed.push rfl (iff_of_true rfl rfl) ?_
        intro id hid _
        rw [← Command.context_eq hid]
        change (opener (ctrlHdr contextId 0).ctxId _).isSome
        rw [ctrlHdr_ctxId, hopeners]
        exact h.isSome hcontext
      · rw [hcontexts]
        exact h.nodup.erase contextId
      · rw [hcontexts, hpushes, h.nodup.mem_erase_iff, h.opened id]
        change _ ↔ (opener id (_ ++ [_])).isSome
        rw [opener_push, hopeners]
        by_cases hid : contextId = id
        · simp [openContext, Command.CreatesContext,
            Command.DestroysContext, commandBuffer, hid]
        · simp [openContext, Command.CreatesContext,
            Command.DestroysContext, commandBuffer, hid, Ne.symm hid]
  | transferred resource toHost transfer hcontext hresource htransfer hsame
      hids hissues =>
      refine h.of_within hpush hcontext ?_ hsame.contextIds hissues
      intro command hcommand
      rw [List.mem_singleton.mp hcommand]
      exact within_ctrlHdr contextId rfl
  | submitted buffer hcontext hsubmit hctxId hserial hsame hids hsends
      hcount =>
      have hpushes := hsends.pushes
      rw [acceptedOf_eq_self hpush] at hpushes
      have hbracket : buffer.pBuf.body.IsBracket = false := by
        unfold VgpuBuffer.IsSubmit at hsubmit
        split at hsubmit
        · rename_i size hbody
          rw [hbody]
          rfl
        · cases hsubmit
      refine ⟨?_, hsame.contextIds ▸ h.nodup, fun id => ?_⟩
      · rw [hpushes, hcount]
        refine h.enclosed.push hserial ?_ ?_
        · change Queue.command = .control ↔ buffer.pBuf.body.IsBracket = true
          rw [hbracket]
          decide
        · intro id hid _
          have hsame' : contextId = id :=
            hctxId.symm.trans (Command.context_eq hid)
          rw [← hsame']
          exact h.isSome hcontext
      · rw [hsame.contextIds, hpushes, opener_push,
          openContext_of_not_bracket hbracket]
        exact h.opened id

theorem idles (h : BracketInvariant before) (hidles : Idles before after) :
    BracketInvariant after where
  enclosed := by
    rw [hidles.pushes, hidles.pushCount]
    exact h.enclosed
  nodup := hidles.same.contextIds ▸ h.nodup
  opened := by
    rw [hidles.same.contextIds, hidles.pushes]
    exact h.opened

theorem step {world : World} (h : BracketInvariant world.driver)
    (hpush : ∀ serial, addBuf serial = true) (action : Action) :
    BracketInvariant (World.step addBuf world action).driver := by
  rcases World.step_trace addBuf world action with
    ⟨contextId, hstep⟩ | hidles
  · exact h.trace hpush hstep
  · exact h.idles hidles

end BracketInvariant

theorem start_bracketInvariant
    (virtualAddress physicalAddress memorySize : Nat) (capsets : Capsets) :
    BracketInvariant (World.start virtualAddress physicalAddress memorySize
      capsets).driver where
  enclosed := ⟨List.Pairwise.nil, fun _ h => absurd h List.not_mem_nil,
    fun _ h => absurd h List.not_mem_nil, fun _ h => absurd h List.not_mem_nil⟩
  nodup := List.nodup_nil
  opened := fun id => by simp [World.start, Driver.contextIds,
    Driver.pushes, opener]

end VgpuDriver
