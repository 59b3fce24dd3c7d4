import VgpuDriver.Holdings
import VgpuDriver.PageRuns
import VgpuDriver.Pending

namespace VgpuDriver

open Data

/-! Every command gives back once what it took, as long as the queues accept
the commands and none with a fence object is completed. -/

/-- The callers of `GetCapsInfo` and `GetCaps` wait for the events of their
buffers next to everything else. -/
structure CommandWorld where
  world : World
  waiting : List VgpuBuffer
  signaled : List VgpuBuffer

inductive CommandAction
  | base (action : Action)
  | getCapsInfo (capsetIndex : UInt32)
  | getCaps (capsetId capsetVersion : UInt32)
  | wake (buffer : VgpuBuffer)

namespace CommandWorld

def driver (world : CommandWorld) : Driver := world.world.driver

/-- `KeSetEvent` in the completion of GET_CAPSET and GET_CAPSET_INFO. -/
def setEvents (world : CommandWorld) : Action → List VgpuBuffer
  | .dpc queue _ =>
      match (world.driver.virtQueues queue).used with
      | (buffer, _) :: _ =>
          if buffer.IsSync then buffer :: world.signaled else world.signaled
      | [] => world.signaled
  | _ => world.signaled

/-- Push the command and wait; the status of `PushQueue` is dropped. -/
def requestCapset (addBuf : Nat → Bool) (body : CommandBody)
    (world : CommandWorld) : CommandWorld :=
  { world with
    world := { world.world with
      driver := sendCommand addBuf .control (ctrlHdr 0 0) body world.driver }
    waiting :=
      commandBuffer (ctrlHdr 0 0) body world.driver.pushCount ::
        world.waiting }

/-- The wait ends when the event is set; then the caller frees the buffer. -/
def wake (buffer : VgpuBuffer) (world : CommandWorld) : CommandWorld :=
  if buffer ∈ world.waiting ∧ buffer ∈ world.signaled then
    { world with
      world := { world.world with
        driver := freeCommandBuffer buffer world.driver }
      waiting := world.waiting.erase buffer }
  else world

def step (addBuf : Nat → Bool) (world : CommandWorld) :
    CommandAction → CommandWorld
  | .base action =>
      { world := World.step addBuf world.world action
        waiting := world.waiting
        signaled := world.setEvents action }
  | .getCapsInfo capsetIndex =>
      world.requestCapset addBuf (.getCapsetInfo capsetIndex)
  | .getCaps capsetId capsetVersion =>
      world.requestCapset addBuf (.getCapset capsetId capsetVersion)
  | .wake buffer => world.wake buffer

def start (virtualAddress physicalAddress memorySize : Nat)
    (capsets : Capsets) : CommandWorld where
  world := World.start virtualAddress physicalAddress memorySize capsets
  waiting := []
  signaled := []

/-- The commands that hold it, in flight or with a caller that waits. -/
def held (world : CommandWorld) (holding : Holding) (serial : Nat) : Nat :=
  world.driver.holds holding serial +
    match holding with
    | .record => (world.waiting.map VgpuBuffer.serial).count serial
    | .handles => 0

/-- What a command took is held or has been given back, and was so once; the
set pages belong to live resources and submissions in flight; a fence object is
referenced only for a submission in flight, as no reference is ever dropped;
and whoever waits for a reply has sent a command. -/
structure ReleasedOnce (world : CommandWorld) : Prop where
  once : ∀ holding serial, world.driver.takes holding serial ≤ 1
  released : ∀ holding serial, world.driver.takes holding serial =
    world.driver.frees holding serial + world.held holding serial
  pages : Owns world.driver.vgpuMemory (world.driver.ownedPages [])
  references : ∀ queue buffer, (queue, buffer) ∈ world.driver.pushes →
    buffer.fenceObject.isSome → buffer ∈ world.driver.inFlight queue
  waits : ∀ buffer ∈ world.waiting,
    (.control, buffer) ∈ world.driver.pushes

/-- The command that is completed has no fence object. -/
def CompletesUnfenced (world : CommandWorld) : Action → Prop
  | .dpc queue _ => ∀ head ∈ (world.driver.virtQueues queue).used.head?,
      head.1.fenceObject = none
  | _ => True

instance (world : CommandWorld) :
    (action : Action) → Decidable (world.CompletesUnfenced action)
  | .request _ _ => inferInstanceAs (Decidable True)
  | .processExit _ => inferInstanceAs (Decidable True)
  | .host _ _ _ => inferInstanceAs (Decidable True)
  | .dpc queue _ => inferInstanceAs (Decidable (∀ head ∈
      (world.driver.virtQueues queue).used.head?, head.1.fenceObject = none))

/-- No command with a fence object is completed; the pages are kept as in
`World.PagesKept`. -/
def Keeps (world : CommandWorld) : CommandAction → Prop
  | .base action =>
      world.world.PagesKept action ∧ world.CompletesUnfenced action
  | _ => True

instance (world : CommandWorld) :
    (action : CommandAction) → Decidable (world.Keeps action)
  | .base _ => inferInstanceAs (Decidable (_ ∧ _))
  | .getCapsInfo _ => inferInstanceAs (Decidable True)
  | .getCaps _ _ => inferInstanceAs (Decidable True)
  | .wake _ => inferInstanceAs (Decidable True)

/-- `ReleasedOnce` with what its proof needs besides. -/
structure Sound (virtualAddress pageCount : Nat) (world : CommandWorld) :
    Prop where
  pages : PageInvariant virtualAddress pageCount [] world.driver
  once : ∀ holding serial, world.driver.takes holding serial ≤
    if serial < world.driver.pushCount then 1 else 0
  released : ∀ holding serial, world.driver.takes holding serial =
    world.driver.frees holding serial + world.held holding serial
  references : ∀ queue buffer, (queue, buffer) ∈ world.driver.pushes →
    buffer.fenceObject.isSome → buffer ∈ world.driver.inFlight queue
  waits : ∀ buffer ∈ world.waiting,
    (.control, buffer) ∈ world.driver.pushes

namespace Sound

variable {addBuf : Nat → Bool} {virtualAddress pageCount : Nat}
variable {world : CommandWorld}

theorem releasedOnce (h : world.Sound virtualAddress pageCount) :
    world.ReleasedOnce where
  once := by
    intro holding serial
    have honce := h.once holding serial
    split at honce <;> omega
  released := h.released
  pages := h.pages.owns
  references := h.references
  waits := h.waits

private theorem of_fills (h : world.Sound virtualAddress pageCount)
    {after : CommandWorld} {new : List (Queue × VgpuBuffer)}
    (hpages : PageInvariant virtualAddress pageCount [] after.driver)
    (hfills : Fills world.driver after.driver)
    (hsends : Sends new world.driver after.driver)
    (hwaiting : after.waiting = world.waiting) :
    after.Sound virtualAddress pageCount where
  pages := hpages
  once := by
    intro holding serial
    have honce := h.once holding serial
    have htakes := hfills.takes holding serial
    have hcount := hfills.count
    unfold drawn at htakes
    split_ifs at * <;> omega
  released := by
    intro holding serial
    have hreleased := h.released holding serial
    have hholds := hfills.holds holding serial
    have hfrees := hfills.frees holding serial
    unfold held at hreleased ⊢
    rw [hwaiting]
    omega
  references := by
    intro queue buffer hpush hfence
    rw [hsends.pushes] at hpush
    rw [hsends.inFlight]
    rcases List.mem_append.mp hpush with hold | hnew
    · exact List.mem_append_left _ (h.references queue buffer hold hfence)
    · exact List.mem_append_right _ (mem_onQueue.mpr hnew)
  waits := by
    rw [hwaiting, hsends.pushes]
    exact fun buffer hbuffer =>
      List.mem_append_left _ (h.waits buffer hbuffer)

private theorem of_drains (h : world.Sound virtualAddress pageCount)
    {after : CommandWorld}
    (hpages : PageInvariant virtualAddress pageCount [] after.driver)
    (hdrains : Drains world.driver after.driver)
    (hpushes : after.driver.pushes = world.driver.pushes)
    (hkept : ∀ queue, ∀ buffer ∈ world.driver.inFlight queue,
      buffer.fenceObject.isSome → buffer ∈ after.driver.inFlight queue)
    (hwaiting : after.waiting = world.waiting) :
    after.Sound virtualAddress pageCount where
  pages := hpages
  once := by
    intro holding serial
    rw [hdrains.takes, hdrains.count]
    exact h.once holding serial
  released := by
    intro holding serial
    have hreleased := h.released holding serial
    have hholds := hdrains.holds holding serial
    have htakes := hdrains.takes holding serial
    unfold held at hreleased ⊢
    rw [hwaiting]
    omega
  references := by
    intro queue buffer hpush hfence
    rw [hpushes] at hpush
    exact hkept queue buffer (h.references queue buffer hpush hfence) hfence
  waits := by
    rw [hwaiting, hpushes]
    exact h.waits

private theorem base (h : world.Sound virtualAddress pageCount)
    (hpush : ∀ serial, addBuf serial = true) {action : Action}
    (hkeeps : world.Keeps (.base action)) :
    (CommandWorld.step addBuf world (.base action)).Sound virtualAddress
      pageCount := by
  have hpages := h.pages.step hpush hkeeps.1
  cases action with
  | request processId request =>
      obtain ⟨new, hsends⟩ := virtioVgpuIoControl_sends addBuf processId
        world.driver request
      exact h.of_fills hpages
        (virtioVgpuIoControl_fills hpush processId world.driver request)
        hsends rfl
  | processExit processId =>
      obtain ⟨new, hsends⟩ := processNotify_sends addBuf processId
        world.driver
      exact h.of_fills hpages
        (processNotify_fills hpush processId world.driver) hsends rfl
  | host queue slot info =>
      simp only [World.step] at hpages
      simp only [CommandWorld.step, World.step]
      split
      · exact h.of_drains h.pages (.of_same rfl rfl fun _ => .refl _) rfl
          (fun _ _ hbuffer _ => hbuffer) rfl
      · rename_i buffer hslot
        have hperm := returnBuffer_inFlight_perm info hslot
        rw [hslot] at hpages
        exact h.of_drains hpages (.of_same rfl rfl hperm)
          (returnBuffer_idles queue slot buffer info world.driver).pushes
          (fun other _ hbuffer _ => (hperm other).mem_iff.mpr hbuffer) rfl
  | dpc queue mapAddress =>
      refine h.of_drains hpages
        (readOneFromQueue_drains queue mapAddress world.driver)
        (readOneFromQueue_idles queue mapAddress world.driver).pushes ?_ rfl
      intro other buffer hbuffer hfence
      rcases readOneFromQueue_cases queue mapAddress world.driver with
        hsame | ⟨head, info, rest, hused, _, hcompletes⟩
      · change buffer ∈ (readOneFromQueue queue mapAddress
          world.driver).inFlight other
        rw [hsame]
        exact hbuffer
      · by_cases hqueue : other = queue
        · subst hqueue
          rw [hcompletes.head] at hbuffer
          rcases List.mem_cons.mp hbuffer with rfl | hrest
          · have hnone : buffer.fenceObject = none :=
              hkeeps.2 (buffer, info) (by rw [hused]; rfl)
            rw [hnone] at hfence
            cases hfence
          · exact hrest
        · exact (hcompletes.others other hqueue).symm ▸ hbuffer

private theorem requestCapset (h : world.Sound virtualAddress pageCount)
    (hpush : ∀ serial, addBuf serial = true) (body : CommandBody)
    (hsync : (commandBuffer (ctrlHdr 0 0) body 0).IsSync = true) :
    (world.requestCapset addBuf body).Sound virtualAddress pageCount := by
  have hsends := (sendCommand_issues addBuf .control (ctrlHdr 0 0) body
    world.driver).sends
  rw [acceptedOf_eq_self hpush] at hsends
  have hcount : (world.requestCapset addBuf body).driver.pushCount =
      world.driver.pushCount + 1 := rfl
  have htakes : ∀ holding serial,
      (world.requestCapset addBuf body).driver.takes holding serial =
        world.driver.takes holding serial +
          if world.driver.pushCount = serial ∧ holding = .record then 1
          else 0 :=
    sendCommand_takes hpush .control (ctrlHdr 0 0) body world.driver
  constructor
  · refine h.pages.keep rfl (List.Perm.refl _) (Pushes.submitPages ?_)
    apply sendCommand_pushes addBuf
    cases body <;> first | rfl | cases hsync
  · intro holding serial
    have honce := h.once holding serial
    rw [htakes, hcount]
    split_ifs at * <;> omega
  · intro holding serial
    have hreleased := h.released holding serial
    have hfrees : (world.requestCapset addBuf body).driver.frees holding
        serial = world.driver.frees holding serial :=
      sendCommand_frees hpush .control (ctrlHdr 0 0) body world.driver
        holding serial
    have hholds : (world.requestCapset addBuf body).driver.holds holding
        serial = world.driver.holds holding serial :=
      sendCommand_holds_sync hpush .control (ctrlHdr 0 0) body hsync
        world.driver holding serial
    rw [htakes, hfrees, hreleased]
    unfold held
    rw [hholds]
    cases holding with
    | handles => simp
    | record =>
        have hwaiting : ((world.requestCapset addBuf body).waiting.map
            VgpuBuffer.serial).count serial =
            (world.waiting.map VgpuBuffer.serial).count serial +
              if world.driver.pushCount = serial then 1 else 0 := by
          change (world.driver.pushCount ::
            world.waiting.map VgpuBuffer.serial).count serial = _
          rw [List.count_cons]
          simp
        simp only [hwaiting, and_true]
        omega
  · intro queue buffer hpushed hfence
    change (queue, buffer) ∈ (sendCommand addBuf .control (ctrlHdr 0 0) body
      world.driver).pushes at hpushed
    change buffer ∈ (sendCommand addBuf .control (ctrlHdr 0 0) body
      world.driver).inFlight queue
    rw [hsends.pushes] at hpushed
    rw [hsends.inFlight]
    rcases List.mem_append.mp hpushed with hold | hnew
    · exact List.mem_append_left _ (h.references queue buffer hold hfence)
    · exact List.mem_append_right _ (mem_onQueue.mpr hnew)
  · intro buffer hbuffer
    change (Queue.control, buffer) ∈ (sendCommand addBuf .control
      (ctrlHdr 0 0) body world.driver).pushes
    rw [hsends.pushes]
    rcases List.mem_cons.mp hbuffer with rfl | hold
    · exact List.mem_append_right _ (List.mem_singleton.mpr rfl)
    · exact List.mem_append_left _ (h.waits buffer hold)

private theorem freeCommandBuffer_takes (buffer : VgpuBuffer)
    (driver : Driver) (holding : Holding) (serial : Nat) :
    (freeCommandBuffer buffer driver).takes holding serial =
      driver.takes holding serial := by
  cases holding <;> exact List.count_cons_of_ne (by nofun)

private theorem freeCommandBuffer_frees_handles (buffer : VgpuBuffer)
    (driver : Driver) (serial : Nat) :
    (freeCommandBuffer buffer driver).frees .handles serial =
      driver.frees .handles serial :=
  List.count_cons_of_ne (by nofun)

private theorem freeCommandBuffer_frees_record (buffer : VgpuBuffer)
    (driver : Driver) (serial : Nat) :
    (freeCommandBuffer buffer driver).frees .record serial =
      driver.frees .record serial +
        if buffer.serial = serial then 1 else 0 := by
  change List.count _ (_ :: _) = _
  rw [List.count_cons]
  simp [Driver.frees, Holding.freed]

private theorem count_serial_erase {buffer : VgpuBuffer}
    {buffers : List VgpuBuffer} (hmem : buffer ∈ buffers) (serial : Nat) :
    (buffers.map VgpuBuffer.serial).count serial =
      ((buffers.erase buffer).map VgpuBuffer.serial).count serial +
        if buffer.serial = serial then 1 else 0 := by
  have hperm := (List.perm_cons_erase hmem).map VgpuBuffer.serial
  rw [hperm.count_eq, List.map_cons, List.count_cons]
  simp

private theorem wake (h : world.Sound virtualAddress pageCount)
    (buffer : VgpuBuffer) :
    (world.wake buffer).Sound virtualAddress pageCount := by
  unfold CommandWorld.wake
  split
  · rename_i hset
    refine ⟨h.pages.keep rfl (List.Perm.refl _) rfl, ?_, ?_, h.references,
      fun other hother => h.waits other (List.mem_of_mem_erase hother)⟩
    · intro holding serial
      have htakes := freeCommandBuffer_takes buffer world.driver holding
        serial
      exact htakes.trans_le (h.once holding serial)
    · intro holding serial
      have hreleased := h.released holding serial
      change (freeCommandBuffer buffer world.driver).takes holding serial =
        (freeCommandBuffer buffer world.driver).frees holding serial + _
      rw [freeCommandBuffer_takes, hreleased]
      cases holding with
      | handles =>
          rw [freeCommandBuffer_frees_handles]
          rfl
      | record =>
          have hwaiting := count_serial_erase hset.1 serial
          rw [freeCommandBuffer_frees_record]
          unfold held
          dsimp only
          rw [hwaiting]
          change _ + (world.driver.holds _ _ + _) =
            _ + (world.driver.holds _ _ + _)
          omega
  · exact h

theorem step (h : world.Sound virtualAddress pageCount)
    (hpush : ∀ serial, addBuf serial = true) {action : CommandAction}
    (hkeeps : world.Keeps action) :
    (CommandWorld.step addBuf world action).Sound virtualAddress
      pageCount := by
  cases action with
  | base action => exact h.base hpush hkeeps
  | getCapsInfo capsetIndex => exact h.requestCapset hpush _ rfl
  | getCaps capsetId capsetVersion => exact h.requestCapset hpush _ rfl
  | wake buffer => exact h.wake buffer

end Sound

theorem start_sound (virtualAddress physicalAddress : Nat)
    {memorySize : Nat} (hsize : memorySize % pageSize = 0)
    (hlimit : memorySize ≤ 2 ^ 40) (capsets : Capsets) :
    (start virtualAddress physicalAddress memorySize capsets).Sound
      virtualAddress (memorySize / pageSize) where
  pages := start_pageInvariant virtualAddress physicalAddress hsize hlimit
    capsets
  once := by
    intro holding serial
    exact Nat.zero_le _
  released := by
    intro holding serial
    cases holding <;> rfl
  references := fun _ _ hpush => absurd hpush List.not_mem_nil
  waits := fun _ hbuffer => absurd hbuffer List.not_mem_nil

end CommandWorld

/-- In a run whose pushes succeed and that completes no command with a fence
object, everything a command took is given back once. -/
theorem command_state_released_once (addBuf : Nat → Bool)
    (virtualAddress physicalAddress memorySize : Nat) (capsets : Capsets)
    (actions : List CommandAction) (hpush : ∀ serial, addBuf serial = true)
    (hsize : memorySize % pageSize = 0) (hlimit : memorySize ≤ 2 ^ 40)
    (hkeeps : Along (CommandWorld.step addBuf) CommandWorld.Keeps
      (CommandWorld.start virtualAddress physicalAddress memorySize capsets)
      actions) :
    (runFrom (CommandWorld.step addBuf)
      (CommandWorld.start virtualAddress physicalAddress memorySize capsets)
      actions).ReleasedOnce :=
  (hkeeps.invariant (fun _ _ hsound hguard => hsound.step hpush hguard)
    (CommandWorld.start_sound virtualAddress physicalAddress hsize hlimit
      capsets)).releasedOnce

/-- GET_CAPSET_INFO and a submission, both of them answered. -/
def answeredRun : List CommandAction :=
  [.base (.request 7 .initContext), .getCapsInfo 0,
    .base (.request 7 (.create 0x1000)),
    .base (.request 7 (.submit [1] none))] ++
    List.replicate 2 (.base (.host .control 0 { gpa := 0, size := 0 })) ++
    List.replicate 2 (.base (.dpc .control none)) ++
    [.wake (commandBuffer (ctrlHdr 0 0) (.getCapsetInfo 0) 1)] ++
    (Action.serve 3).map .base

theorem command_state_released_once_answered :
    (runFrom (CommandWorld.step fun _ => true)
      (CommandWorld.start 0x10000 0x80000 0x8000 .oneCapset)
      answeredRun).ReleasedOnce :=
  command_state_released_once (fun _ => true) 0x10000 0x80000 0x8000 .oneCapset
    answeredRun (fun _ => rfl) (by decide) (by decide +kernel)
    (by decide +kernel)

/-- A refused command is never freed, GET_CAPSET_INFO waits for the reply to a
refused command, and the fence object of a completed submission stays
referenced. -/
theorem refused_and_fenced_not_released :
    ¬(runFrom (CommandWorld.step fun _ => false)
        (CommandWorld.start 0x10000 0x80000 0x8000 .oneCapset)
        [.base (.request 7 .initContext)]).ReleasedOnce ∧
      ¬(runFrom (CommandWorld.step fun _ => false)
        (CommandWorld.start 0x10000 0x80000 0x8000 .oneCapset)
        [.getCapsInfo 0]).ReleasedOnce ∧
      ¬(runFrom (CommandWorld.step fun _ => true)
        (CommandWorld.start 0x10000 0x80000 0x8000 .oneCapset)
        ([.base (.request 7 .initContext),
          .base (.request 7 (.submit [] (some 3)))] ++
          (Action.serve 1).map .base)).ReleasedOnce := by
  refine ⟨fun h => ?_, fun h => ?_, fun h => ?_⟩
  · exact absurd (h.released .record 0) (by decide +kernel)
  · exact absurd (h.waits (commandBuffer (ctrlHdr 0 0) (.getCapsetInfo 0) 0)
      (by decide +kernel)) (by decide +kernel)
  · have hfenced : (Queue.command, submitBuffer 7
        { virtualAddress := 0x10000, physicalAddress := 0x80000 } 0x1000 64
        none 1 (some 3) 1) ∈ (runFrom (CommandWorld.step fun _ => true)
          (CommandWorld.start 0x10000 0x80000 0x8000 .oneCapset)
          ([.base (.request 7 .initContext),
            .base (.request 7 (.submit [] (some 3)))] ++
            (Action.serve 1).map .base)).driver.pushes := by
      decide +kernel
    exact absurd (h.references _ _ hfenced rfl) (by decide +kernel)

end VgpuDriver
