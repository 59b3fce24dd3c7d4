import VgpuDriver.ContextBrackets

namespace VgpuDriver

open Data

/-! The host serves both queues in FIFO order, but takes from either one when
it likes.  Whether it keeps the commands of a context in their brackets. -/

/-- The world with the commands that the host has processed, the oldest one
first. -/
structure WatchedWorld where
  world : World
  processed : List (Queue × VgpuBuffer)

namespace WatchedWorld

def driver (watched : WatchedWorld) : Driver := watched.world.driver

def step (addBuf : Nat → Bool) (watched : WatchedWorld) (action : Action) :
    WatchedWorld where
  world := World.step addBuf watched.world action
  processed :=
    match action with
    | .host queue slot _ =>
        match (watched.driver.virtQueues queue).avail[slot]? with
        | none => watched.processed
        | some buffer => watched.processed ++ [(queue, buffer)]
    | _ => watched.processed

def start (virtualAddress physicalAddress memorySize : Nat)
    (capsets : Capsets) : WatchedWorld where
  world := World.start virtualAddress physicalAddress memorySize capsets
  processed := []

/-- What the host processes next for a context comes after the CTX_CREATE of
the context; a CTX_DESTROY comes after the uses that were pushed before it. -/
def Bracketed (watched : WatchedWorld) : Action → Prop
  | .host queue slot _ =>
      ∀ buffer ∈ (watched.driver.virtQueues queue).avail[slot]?,
        (buffer.pBuf.context.isSome →
          buffer.pBuf.CreatesContext buffer.pBuf.hdr.ctxId = false →
          ∃ create, opener buffer.pBuf.hdr.ctxId
              (pushedBefore buffer watched.driver.pushes) = some create ∧
            (.control, create) ∈ watched.processed) ∧
        (buffer.pBuf.DestroysContext buffer.pBuf.hdr.ctxId = true →
          ∀ push ∈ pushedBefore buffer watched.driver.pushes,
            push.2.pBuf.UsesContext buffer.pBuf.hdr.ctxId = true →
              push ∈ watched.processed)
  | _ => True

/-- The host takes no command while an older CTX_CREATE of its context waits in
CONTROL_QUEUE, and no CTX_DESTROY while an older use waits in COMMAND_QUEUE. -/
def TakenInOrder (watched : WatchedWorld) : Action → Prop
  | .host queue slot _ =>
      ∀ buffer ∈ (watched.driver.virtQueues queue).avail[slot]?,
        (buffer.pBuf.context.isSome →
          buffer.pBuf.CreatesContext buffer.pBuf.hdr.ctxId = false →
          ∀ create ∈ (watched.driver.virtQueues .control).avail,
            create.pBuf.CreatesContext buffer.pBuf.hdr.ctxId = true →
              buffer.serial < create.serial) ∧
        (buffer.pBuf.DestroysContext buffer.pBuf.hdr.ctxId = true →
          ∀ use ∈ (watched.driver.virtQueues .command).avail,
            use.pBuf.UsesContext buffer.pBuf.hdr.ctxId = true →
              buffer.serial < use.serial)
  | _ => True

instance (watched : WatchedWorld) :
    (action : Action) → Decidable (watched.TakenInOrder action)
  | .request _ _ => inferInstanceAs (Decidable True)
  | .processExit _ => inferInstanceAs (Decidable True)
  | .dpc _ _ => inferInstanceAs (Decidable True)
  | .host queue slot _ => by
      unfold TakenInOrder
      infer_instance

/-- What was sent on a queue has been processed or waits, in this order. -/
structure Ordered (watched : WatchedWorld) : Prop where
  brackets : BracketInvariant watched.driver
  queued : ∀ queue, watched.driver.sent queue =
    onQueue queue watched.processed ++
      (watched.driver.virtQueues queue).avail

namespace Ordered

variable {addBuf : Nat → Bool} {watched : WatchedWorld} {queue : Queue}
variable {buffer other : VgpuBuffer}

theorem mem_sent (h : watched.Ordered)
    (hbuffer : buffer ∈ (watched.driver.virtQueues queue).avail) :
    (queue, buffer) ∈ watched.driver.pushes := by
  apply mem_onQueue.mp
  change buffer ∈ watched.driver.sent queue
  rw [h.queued]
  exact List.mem_append_right _ hbuffer

theorem serial_lt (h : watched.Ordered)
    (hprocessed : (queue, buffer) ∈ watched.processed)
    (hwaiting : other ∈ (watched.driver.virtQueues queue).avail) :
    buffer.serial < other.serial := by
  have hsent : (watched.driver.sent queue).Pairwise fun first second =>
      first.serial < second.serial := by
    unfold Driver.sent onQueue
    rw [List.pairwise_filterMap]
    refine h.brackets.enclosed.ordered.imp fun hlt => ?_
    intro first hfirst second hsecond
    split at hfirst
    · split at hsecond
      · rw [← Option.some.inj hfirst, ← Option.some.inj hsecond]
        exact hlt
      · cases hsecond
    · cases hfirst
  rw [h.queued, List.pairwise_append] at hsent
  exact hsent.2.2 buffer (mem_onQueue.mpr hprocessed) other hwaiting

theorem processed_or_waiting (h : watched.Ordered)
    (hpush : (queue, buffer) ∈ watched.driver.pushes) :
    (queue, buffer) ∈ watched.processed ∨
      buffer ∈ (watched.driver.virtQueues queue).avail := by
  have hsent : buffer ∈ watched.driver.sent queue := mem_onQueue.mpr hpush
  rw [h.queued] at hsent
  exact (List.mem_append.mp hsent).imp_left mem_onQueue.mp

theorem eq_of_serial (h : watched.Ordered)
    {first second : Queue × VgpuBuffer}
    (hfirst : first ∈ watched.driver.pushes)
    (hsecond : second ∈ watched.driver.pushes)
    (hserial : first.2.serial = second.2.serial) : first = second := by
  have hnodup : (watched.driver.pushes.map fun push =>
      push.2.serial).Nodup := by
    rw [List.Nodup, List.pairwise_map]
    exact h.brackets.enclosed.ordered.imp fun hlt => Nat.ne_of_lt hlt
  exact List.inj_on_of_nodup_map hnodup hfirst hsecond hserial

theorem mem_pushedBefore {push : Queue × VgpuBuffer} :
    push ∈ pushedBefore buffer watched.driver.pushes ↔
      push ∈ watched.driver.pushes ∧ push.2.serial < buffer.serial := by
  unfold pushedBefore
  rw [List.mem_filter, decide_eq_true_eq]

private theorem exists_opener (h : watched.Ordered) {id : UInt32}
    (hbuffer : buffer ∈ (watched.driver.virtQueues queue).avail)
    (hcontext : buffer.pBuf.context = some id)
    (hcreates : buffer.pBuf.CreatesContext id = false) :
    ∃ create, opener id (pushedBefore buffer watched.driver.pushes) =
        some create ∧
      (Queue.control, create) ∈ watched.driver.pushes ∧
      create.serial < buffer.serial ∧
      ∀ later, (Queue.control, later) ∈ watched.driver.pushes →
        later.serial < buffer.serial → create.serial < later.serial →
          later.pBuf.CreatesContext id = false := by
  have hsome := h.brackets.enclosed.enclosed (queue, buffer)
    (h.mem_sent hbuffer) id hcontext hcreates
  obtain ⟨create, hopener⟩ := Option.isSome_iff_exists.mp hsome
  obtain ⟨front, place, back, hbefore, hcreate, hback⟩ :=
    opener_eq_some hopener
  have hmem : (place, create) ∈
      pushedBefore buffer watched.driver.pushes := by
    rw [hbefore]
    exact List.mem_append_right _ List.mem_cons_self
  obtain ⟨hpushed, hserial⟩ := mem_pushedBefore.mp hmem
  have hplace : place = .control := by
    apply (h.brackets.enclosed.placed _ hpushed).mpr
    unfold Command.CreatesContext at hcreate
    split at hcreate
    · rename_i contextInit hbody
      change create.pBuf.body.IsBracket = true
      rw [hbody]
      rfl
    · cases hcreate
  subst hplace
  refine ⟨create, hopener, hpushed, hserial, ?_⟩
  intro later hlater hbelow habove
  have hlaterMem := mem_pushedBefore.mpr ⟨hlater, hbelow⟩
  have hordered : (pushedBefore buffer watched.driver.pushes).Pairwise
      fun first second => first.2.serial < second.2.serial :=
    h.brackets.enclosed.ordered.sublist List.filter_sublist
  rw [hbefore] at hlaterMem hordered
  rcases List.mem_append.mp hlaterMem with hfront | hrest
  · have hlt := (List.pairwise_append.mp hordered).2.2 _ hfront _
      List.mem_cons_self
    dsimp only at hlt
    omega
  · rcases List.mem_cons.mp hrest with heq | hlast
    · cases heq
      omega
    · exact hback _ hlast

private theorem opened_iff (h : watched.Ordered) {id : UInt32}
    (hbuffer : buffer ∈ (watched.driver.virtQueues queue).avail)
    (hcontext : buffer.pBuf.context = some id)
    (hcreates : buffer.pBuf.CreatesContext id = false) :
    (∃ create, opener id (pushedBefore buffer watched.driver.pushes) =
        some create ∧ (.control, create) ∈ watched.processed) ↔
      ∀ create ∈ (watched.driver.virtQueues .control).avail,
        create.pBuf.CreatesContext id = true →
          buffer.serial < create.serial := by
  obtain ⟨create, hopener, hpushed, hserial, hlast⟩ :=
    h.exists_opener hbuffer hcontext hcreates
  constructor
  · rintro ⟨found, hfound, hprocessed⟩ waiting hwaiting hcreate
    rw [hopener] at hfound
    obtain rfl := Option.some.inj hfound
    by_contra hserials
    have habove := h.serial_lt hprocessed hwaiting
    have hne : waiting.serial ≠ buffer.serial := by
      intro heq
      have hsame := h.eq_of_serial (h.mem_sent hwaiting)
        (h.mem_sent hbuffer) heq
      rw [(Prod.mk.inj hsame).2, hcreates] at hcreate
      cases hcreate
    have hnone := hlast waiting (h.mem_sent hwaiting) (by omega) habove
    rw [hnone] at hcreate
    cases hcreate
  · intro hwaits
    refine ⟨create, hopener, ?_⟩
    rcases h.processed_or_waiting hpushed with hprocessed | hwaiting
    · exact hprocessed
    · obtain ⟨front, place, back, hbefore, hcreate, _⟩ :=
        opener_eq_some hopener
      have hlt := hwaits create hwaiting hcreate
      omega

private theorem used_iff (h : watched.Ordered) {id : UInt32}
    (hbuffer : buffer ∈ (watched.driver.virtQueues queue).avail)
    (hdestroys : buffer.pBuf.DestroysContext id = true) :
    (∀ push ∈ pushedBefore buffer watched.driver.pushes,
        push.2.pBuf.UsesContext id = true → push ∈ watched.processed) ↔
      ∀ use ∈ (watched.driver.virtQueues .command).avail,
        use.pBuf.UsesContext id = true → buffer.serial < use.serial := by
  constructor
  · intro hprocessed use huse huses
    by_contra hserials
    have hne : use.serial ≠ buffer.serial := by
      intro heq
      have hsame := h.eq_of_serial (h.mem_sent huse) (h.mem_sent hbuffer) heq
      rw [(Prod.mk.inj hsame).2] at huses
      unfold Command.DestroysContext at hdestroys
      unfold Command.UsesContext at huses
      split at hdestroys
      · rename_i hbody
        rw [hbody] at huses
        cases huses
      · cases hdestroys
    have hbefore : (Queue.command, use) ∈
        pushedBefore buffer watched.driver.pushes :=
      mem_pushedBefore.mpr ⟨h.mem_sent huse, by dsimp only; omega⟩
    have hlt := h.serial_lt (hprocessed _ hbefore huses) huse
    omega
  · intro hwaits push hpush huses
    obtain ⟨hpushed, hserial⟩ := mem_pushedBefore.mp hpush
    obtain ⟨place, use⟩ := push
    have hplace : place = .command := by
      cases hcontrol : place with
      | command => rfl
      | control =>
          have hbracket := (h.brackets.enclosed.placed _ hpushed).mp hcontrol
          unfold Command.UsesContext at huses
          dsimp only at hbracket huses
          split at huses
          all_goals first
            | cases huses
            | (rename_i hbody
               rw [hbody] at hbracket
               cases hbracket)
    subst hplace
    rcases h.processed_or_waiting hpushed with hprocessed | hwaiting
    · exact hprocessed
    · have hlt := hwaits use hwaiting huses
      dsimp only at hserial
      omega

theorem bracketed_iff (h : watched.Ordered) (action : Action) :
    watched.Bracketed action ↔ watched.TakenInOrder action := by
  cases action with
  | host queue slot info =>
      refine forall_congr' fun buffer => forall_congr' fun hslot => ?_
      have hbuffer := List.mem_of_getElem? (Option.mem_def.mp hslot)
      refine and_congr ?_ ?_
      · refine forall_congr' fun hcontext => forall_congr' fun hcreates => ?_
        obtain ⟨id, hid⟩ := Option.isSome_iff_exists.mp hcontext
        obtain rfl := Command.context_eq hid
        exact h.opened_iff hbuffer hid hcreates
      · exact forall_congr' fun hdestroys => h.used_iff hbuffer hdestroys
  | _ => exact Iff.rfl

private theorem of_sends (h : watched.Ordered) {after : WatchedWorld}
    {new : List (Queue × VgpuBuffer)}
    (hbrackets : BracketInvariant after.driver)
    (hsends : Sends new watched.driver after.driver)
    (hprocessed : after.processed = watched.processed) : after.Ordered where
  brackets := hbrackets
  queued := by
    intro queue
    rw [hsends.sent, h.queued, hprocessed, hsends.queued.virtQueues queue,
      List.append_assoc]

private theorem of_idles (h : watched.Ordered) {after : WatchedWorld}
    (hbrackets : BracketInvariant after.driver)
    (hidles : Idles watched.driver after.driver)
    (hprocessed : after.processed = watched.processed)
    (hwaiting : ∀ queue, (after.driver.virtQueues queue).avail =
      (watched.driver.virtQueues queue).avail) : after.Ordered where
  brackets := hbrackets
  queued := by
    intro queue
    rw [sent_of_pushes queue hidles.pushes, hwaiting, hprocessed]
    exact h.queued queue

theorem step (h : watched.Ordered)
    (hpush : ∀ serial, addBuf serial = true) {action : Action}
    (hfifo : ∀ queue, action.IsFifo queue) :
    (WatchedWorld.step addBuf watched action).Ordered := by
  have hbrackets : BracketInvariant
      (WatchedWorld.step addBuf watched action).driver :=
    BracketInvariant.step h.brackets hpush action
  cases action with
  | request processId request =>
      obtain ⟨new, hsends⟩ := virtioVgpuIoControl_sends addBuf processId
        watched.driver request
      exact h.of_sends hbrackets hsends rfl
  | processExit processId =>
      obtain ⟨new, hsends⟩ := processNotify_sends addBuf processId
        watched.driver
      exact h.of_sends hbrackets hsends rfl
  | dpc queue mapAddress =>
      exact h.of_idles hbrackets
        (readOneFromQueue_idles queue mapAddress watched.driver) rfl
        fun other => readOneFromQueue_avail queue other mapAddress
          watched.driver
  | host queue slot info =>
      obtain rfl : slot = 0 := hfifo queue rfl
      refine ⟨hbrackets, fun other => ?_⟩
      have hqueued := h.queued other
      unfold WatchedWorld.driver at hqueued
      cases hslot : (watched.world.driver.virtQueues queue).avail[0]? with
      | none =>
          simp only [WatchedWorld.step, World.step, WatchedWorld.driver,
            hslot]
          exact hqueued
      | some buffer =>
          have hidles := returnBuffer_idles queue 0 buffer info
            watched.world.driver
          simp only [WatchedWorld.step, World.step, WatchedWorld.driver,
            hslot]
          rw [sent_of_pushes other hidles.pushes, hqueued, onQueue_append]
          unfold Driver.returnBuffer
          by_cases hother : other = queue
          · -- the oldest command of the queue is now the last one processed
            subst hother
            cases havail : (watched.world.driver.virtQueues other).avail with
            | nil => simp [havail] at hslot
            | cons head tail =>
                have hhead : head = buffer := by simpa [havail] using hslot
                simp [onQueue, hhead, havail]
          · simp [onQueue, hother, Ne.symm hother]

end Ordered

theorem start_ordered (virtualAddress physicalAddress memorySize : Nat)
    (capsets : Capsets) :
    (start virtualAddress physicalAddress memorySize capsets).Ordered where
  brackets := start_bracketInvariant virtualAddress physicalAddress
    memorySize capsets
  queued := fun _ => rfl

end WatchedWorld

/-- The host keeps the commands of each context in their brackets if and only
if it takes no command while an older one that has to precede it waits in the
other queue. -/
theorem context_commands_bracketed_iff (addBuf : Nat → Bool)
    (virtualAddress physicalAddress memorySize : Nat) (capsets : Capsets)
    (actions : List Action) (hpush : ∀ serial, addBuf serial = true)
    (hfifo : ∀ action ∈ actions, ∀ queue, action.IsFifo queue) :
    Along (WatchedWorld.step addBuf) WatchedWorld.Bracketed
        (WatchedWorld.start virtualAddress physicalAddress memorySize capsets)
        actions ↔
      Along (WatchedWorld.step addBuf) WatchedWorld.TakenInOrder
        (WatchedWorld.start virtualAddress physicalAddress memorySize capsets)
        actions := by
  have hstart := WatchedWorld.start_ordered virtualAddress physicalAddress
    memorySize capsets
  generalize WatchedWorld.start virtualAddress physicalAddress memorySize
    capsets = watched at hstart
  induction actions generalizing watched with
  | nil => exact Iff.rfl
  | cons action rest ih =>
      have hrest := ih
        (fun other hother => hfifo other (List.mem_cons_of_mem _ hother))
        (WatchedWorld.step addBuf watched action)
        (hstart.step hpush (hfifo action List.mem_cons_self))
      exact and_congr (hstart.bracketed_iff action) hrest

/-- The host waits for the older commands of the context. -/
def orderedRun : List Action :=
  [.request 7 .initContext, .request 7 (.create 1),
    .host .control 0 { gpa := 0, size := 0 },
    .host .command 0 { gpa := 0, size := 0 }, .request 7 .destroyContext,
    .host .command 0 { gpa := 0, size := 0 },
    .host .control 0 { gpa := 0, size := 0 }]

theorem context_commands_bracketed_orderedRun :
    Along (WatchedWorld.step fun _ => true) WatchedWorld.Bracketed
      (WatchedWorld.start 0x10000 0x80000 0x8000 .oneCapset)
      orderedRun := by
  refine (context_commands_bracketed_iff (fun _ => true) 0x10000 0x80000
    0x8000 _ orderedRun (fun _ => rfl) ?_).mpr (by decide +kernel)
  intro action haction queue
  revert action
  cases queue <;> decide

/-- The host serves COMMAND_QUEUE first; it serves CONTROL_QUEUE first when the
context is destroyed. -/
theorem interleaved_queues_break_brackets :
    ¬Along (WatchedWorld.step fun _ => true) WatchedWorld.Bracketed
        (WatchedWorld.start 0x10000 0x80000 0x8000 .oneCapset)
        [.request 7 .initContext, .request 7 (.create 1),
          .host .command 0 { gpa := 0, size := 0 }] ∧
      ¬Along (WatchedWorld.step fun _ => true) WatchedWorld.Bracketed
        (WatchedWorld.start 0x10000 0x80000 0x8000 .oneCapset)
        [.request 7 .initContext, .request 7 (.create 1),
          .host .control 0 { gpa := 0, size := 0 },
          .host .command 0 { gpa := 0, size := 0 },
          .request 7 .destroyContext,
          .host .control 0 { gpa := 0, size := 0 }] := by
  constructor
  · rintro ⟨_, _, hbracketed, _⟩
    obtain ⟨create, _, hprocessed⟩ := (hbracketed
      (commandBuffer (ctrlHdr 7 0)
        (.resourceCreate3d 1 IoRequest.resourceParam) 1)
      (by decide +kernel)).1 rfl rfl
    exact absurd hprocessed List.not_mem_nil
  · rintro ⟨_, _, _, _, _, hbracketed, _⟩
    have hused := (hbracketed (commandBuffer (ctrlHdr 7 0) .ctxDestroy 3)
      (by decide +kernel)).2 rfl
      (.command, commandBuffer (ctrlHdr 7 0) (.resourceUnref 1) 2)
      (by decide +kernel) rfl
    exact absurd hused (by decide +kernel)

end VgpuDriver
