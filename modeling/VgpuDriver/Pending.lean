import VgpuDriver.TraceSteps

namespace VgpuDriver

open Data

/-! The commands in flight are among the accepted ones, each of them once; the
serial tells two commands of a queue apart. -/

structure Pending (queue : Queue) (driver : Driver) : Prop where
  serials : ∀ buffer ∈ driver.sent queue, buffer.serial < driver.pushCount
  ordered : (driver.sent queue).Pairwise fun first second =>
    first.serial < second.serial
  inFlight : (driver.inFlight queue).Subperm (driver.sent queue)

/-- A request sends commands, whatever they are. -/
theorem TraceStep.sends {addBuf : Nat → Bool} {contextId : UInt32}
    {before after : Driver} (h : TraceStep addBuf contextId before after) :
    ∃ new, Sends new before after := by
  cases h with
  | quiet hsame hids hissues => exact ⟨_, hissues.sends⟩
  | opened contextInit hnew hcontexts hrecords hids hissues =>
      exact ⟨_, hissues.sends⟩
  | created resource commands hcontext hcreates hid hserial hcontexts hrecords
      hids hissues => exact ⟨_, hissues.sends⟩
  | exhausted create hcontext hsame hids hissues => exact ⟨_, hissues.sends⟩
  | closed resource hcontext hcontexts hrecords hids hissues =>
      exact ⟨_, hissues.sends⟩
  | destroyed resources hcontext hcontexts hrecords hids hissues =>
      exact ⟨_, hissues.sends⟩
  | transferred resource toHost transfer hcontext hresource htransfer hsame
      hids hissues => exact ⟨_, hissues.sends⟩
  | submitted buffer hcontext hsubmit hctxId hserial hsame hids hsends =>
      exact ⟨_, hsends⟩

theorem virtioVgpuIoControl_sends (addBuf : Nat → Bool)
    (processId : UInt32) (driver : Driver) (request : IoRequest) :
    ∃ new, Sends new driver
      (virtioVgpuIoControl addBuf processId driver request).2 :=
  (virtioVgpuIoControl_trace addBuf processId driver request).sends

theorem processNotify_sends (addBuf : Nat → Bool) (processId : UInt32)
    (driver : Driver) :
    ∃ new, Sends new driver (processNotify addBuf processId driver) :=
  TraceStep.sends (processNotify_trace processId driver)

theorem sent_of_pushes {before after : Driver} (queue : Queue)
    (hpushes : after.pushes = before.pushes) :
    after.sent queue = before.sent queue := by
  unfold Driver.sent
  rw [hpushes]

theorem World.sent_prefix (addBuf : Nat → Bool) (world : World)
    (action : Action) (queue : Queue) :
    world.driver.sent queue <+:
      (World.step addBuf world action).driver.sent queue := by
  rcases World.step_trace addBuf world action with
    ⟨contextId, hstep⟩ | hidles
  · obtain ⟨new, hsends⟩ := hstep.sends
    rw [hsends.sent]
    exact List.prefix_append _ _
  · rw [sent_of_pushes queue hidles.pushes]

namespace Pending

variable {queue : Queue} {before after : Driver}

theorem eq_of_serial (h : Pending queue before) {left right : VgpuBuffer}
    (hleft : left ∈ before.sent queue) (hright : right ∈ before.sent queue)
    (hserial : left.serial = right.serial) : left = right := by
  have hnodup : ((before.sent queue).map VgpuBuffer.serial).Nodup := by
    rw [List.Nodup, List.pairwise_map]
    exact h.ordered.imp fun hlt => Nat.ne_of_lt hlt
  exact List.inj_on_of_nodup_map hnodup hleft hright hserial

theorem nodup (h : Pending queue before) :
    (before.inFlight queue).Nodup := by
  have hsent : (before.sent queue).Nodup :=
    h.ordered.imp fun hlt heq => Nat.ne_of_lt hlt (congrArg _ heq)
  obtain ⟨kept, hperm, hsublist⟩ := h.inFlight
  exact hperm.nodup_iff.mp (hsent.sublist hsublist)

theorem sends {new : List (Queue × VgpuBuffer)} (h : Pending queue before)
    (hsends : Sends new before after) : Pending queue after where
  serials := by
    intro buffer hbuffer
    rw [hsends.sent] at hbuffer
    rcases List.mem_append.mp hbuffer with hold | hnew
    · exact Nat.lt_of_lt_of_le (h.serials buffer hold)
        hsends.queued.pushCount
    · exact (hsends.queued.serials queue buffer hnew).2
  ordered := by
    rw [hsends.sent, List.pairwise_append]
    refine ⟨h.ordered, hsends.queued.ordered queue, ?_⟩
    intro first hfirst second hsecond
    have hold := h.serials first hfirst
    have hnew := (hsends.queued.serials queue second hsecond).1
    omega
  inFlight := by
    rw [hsends.sent, hsends.inFlight]
    exact h.inFlight.append (List.Subperm.refl _)

theorem of_subperm (h : Pending queue before)
    (hpushes : after.pushes = before.pushes)
    (hcount : after.pushCount = before.pushCount)
    (hinFlight : (after.inFlight queue).Subperm (before.inFlight queue)) :
    Pending queue after where
  serials := by
    rw [sent_of_pushes queue hpushes, hcount]
    exact h.serials
  ordered := by
    rw [sent_of_pushes queue hpushes]
    exact h.ordered
  inFlight := by
    rw [sent_of_pushes queue hpushes]
    exact hinFlight.trans h.inFlight

theorem step {addBuf : Nat → Bool} {world : World}
    (h : Pending queue world.driver) (action : Action) :
    Pending queue (World.step addBuf world action).driver := by
  cases action with
  | request processId request =>
      obtain ⟨new, hsends⟩ := virtioVgpuIoControl_sends addBuf processId
        world.driver request
      exact h.sends hsends
  | processExit processId =>
      obtain ⟨new, hsends⟩ := processNotify_sends addBuf processId
        world.driver
      exact h.sends hsends
  | host other slot info =>
      simp only [World.step]
      split
      · exact h
      · rename_i buffer hslot
        have hidles := returnBuffer_idles other slot buffer info world.driver
        exact h.of_subperm hidles.pushes hidles.pushCount
          (returnBuffer_inFlight_perm info hslot queue).subperm
  | dpc other mapAddress =>
      have hidles := readOneFromQueue_idles other mapAddress world.driver
      refine h.of_subperm hidles.pushes hidles.pushCount ?_
      rcases readOneFromQueue_cases other mapAddress world.driver with
        hsame | ⟨buffer, info, rest, _, _, hcompletes⟩
      · rw [World.step, hsame]
      · by_cases hqueue : queue = other
        · subst hqueue
          rw [hcompletes.head]
          exact (List.sublist_cons_self _ _).subperm
        · rw [World.step, hcompletes.others queue hqueue]

end Pending

theorem start_pending (queue : Queue)
    (virtualAddress physicalAddress memorySize : Nat) (capsets : Capsets) :
    Pending queue (World.start virtualAddress physicalAddress memorySize
      capsets).driver where
  serials := by simp [World.start, Driver.sent, Driver.pushes]
  ordered := List.Pairwise.nil
  inFlight := by simp [World.start, Driver.inFlight, Virtqueue.inFlight]

end VgpuDriver
