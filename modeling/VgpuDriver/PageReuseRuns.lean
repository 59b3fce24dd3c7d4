import VgpuDriver.BackingLedger
import VgpuDriver.PageRuns

namespace VgpuDriver

open Data

/-! The host holds a backing from its RESOURCE_ATTACH_BACKING to the
DETACH_BACKING of its resource; the driver gives the pages of the backing back
at the push of the latter, not when the host has processed it. -/

/-- The pages are in the vgpu memory, at the same place in both address
spaces. -/
def MemoryDescriptor.PlacedIn (memory : MemoryDescriptor)
    (vgpuMemory : VgpuMemory) : Prop :=
  ∃ index,
    memory.virtualAddress = vgpuMemory.virtualAddress + index * pageSize ∧
      memory.physicalAddress = vgpuMemory.physicalAddress + index * pageSize

/-- The vgpu memory is where it was. -/
def SamePlace (before after : VgpuMemory) : Prop :=
  after.virtualAddress = before.virtualAddress ∧
    after.physicalAddress = before.physicalAddress

theorem Owns.found_disjoint {vgpuMemory : VgpuMemory} {live : List Region}
    {size : Nat} {pages : Interval} {region : Region}
    {memory : MemoryDescriptor} (h : Owns vgpuMemory live)
    (hsize : size % pageSize = 0)
    (hfound : vgpuMemory.foundPages size = some pages)
    (hregion : region ∈ live)
    (haddress : region.address = memory.virtualAddress)
    (hplaced : memory.PlacedIn vgpuMemory) :
    pages.Disjoint
      { start := memory.physicalAddress, length := region.size } := by
  rw [foundPages_eq, Option.map_eq_some_iff] at hfound
  obtain ⟨⟨descriptor, next⟩, halloc, rfl⟩ := hfound
  obtain ⟨_, index, hrun, _, hphysical⟩ := h.allocate hsize halloc
  obtain ⟨first, count, hfirst, hcount, _⟩ := h.placed region hregion
  obtain ⟨held, hheld, hheldPhysical⟩ := hplaced
  have hplace : first = held := by
    have hsame : first * pageSize = held * pageSize := by omega
    exact Nat.eq_of_mul_eq_mul_right pageSize_pos hsame
  have hpages : region.pages vgpuMemory.virtualAddress =
      { start := held, length := count } := by
    rw [← hplace, ← Region.pages_of_index vgpuMemory.virtualAddress first
      count, ← hfirst, ← hcount]
  have hdisjoint := h.pages.disjoint_run
    { start := index, length := size / pageSize }
    (List.mem_map_of_mem hregion) hrun
  rw [hpages] at hdisjoint
  have hscaled := hdisjoint.scale vgpuMemory.physicalAddress pageSize
  simp only [Interval.scale] at hscaled
  rw [Nat.div_mul_cancel (Nat.dvd_of_mod_eq_zero hsize), ← hcount,
    ← hphysical, ← hheldPhysical] at hscaled
  exact hscaled

theorem pagesWanted_mod {processId : UInt32} {request : IoRequest}
    {driver : Driver} {size : Nat}
    (hwanted : request.pagesWanted processId driver = some size) :
    size % pageSize = 0 := by
  cases request with
  | resourceCreate request =>
      simp only [IoRequest.pagesWanted] at hwanted
      split at hwanted
      · cases hwanted
      · split at hwanted
        · cases hwanted
        · cases hwanted
          exact resourceBufferSize_mod _
  | execbuffer request =>
      simp only [IoRequest.pagesWanted] at hwanted
      split at hwanted
      · cases hwanted
      · cases hwanted
        exact roundUp_uint32_mod _
  | _ => cases hwanted

/-! The backings stay in the vgpu memory. -/

def Driver.BackingsPlaced (driver : Driver) : Prop :=
  ∀ backing ∈ driver.backings, backing.memory.PlacedIn driver.vgpuMemory

theorem placedIn_of_allocate {size : Nat} {vgpuMemory next : VgpuMemory}
    {memory : MemoryDescriptor}
    (halloc : allocateVgpuMemory size vgpuMemory = some (memory, next)) :
    memory.PlacedIn vgpuMemory ∧ SamePlace vgpuMemory next := by
  have hlocked := (allocateVgpuMemory_eq_some halloc).2
  have hframe := allocateLocked_frame hlocked
  obtain ⟨index, _, rfl, _⟩ := allocateLocked_eq_some_iff.mp hlocked
  exact ⟨⟨index, rfl, rfl⟩, hframe.1, hframe.2.1⟩

theorem MemoryDescriptor.PlacedIn.of_samePlace {before after : VgpuMemory}
    {memory : MemoryDescriptor} (h : memory.PlacedIn before)
    (hplace : SamePlace before after) : memory.PlacedIn after := by
  obtain ⟨index, hvirtual, hphysical⟩ := h
  refine ⟨index, ?_, ?_⟩
  · rw [hplace.1]
    exact hvirtual
  · rw [hplace.2]
    exact hphysical

namespace Driver.BackingsPlaced

variable {addBuf : Nat → Bool} {before after driver : Driver}

private theorem keep (events : List Event) (h : before.BackingsPlaced)
    (hplace : SamePlace before.vgpuMemory after.vgpuMemory)
    (hnotable : after.notable = events ++ before.notable)
    (hevents : ∀ event ∈ events,
      event.backing = none ∧ event.detach = none) :
    after.BackingsPlaced := by
  intro backing hbacking
  rw [(ledger_of_notable events hnotable hevents).1] at hbacking
  exact (h backing hbacking).of_samePlace hplace

private theorem keep_memory (events : List Event) (h : before.BackingsPlaced)
    (hmemory : after.vgpuMemory = before.vgpuMemory)
    (hnotable : after.notable = events ++ before.notable)
    (hevents : ∀ event ∈ events,
      event.backing = none ∧ event.detach = none) :
    after.BackingsPlaced :=
  h.keep events (hmemory ▸ ⟨rfl, rfl⟩) hnotable hevents

variable (addBuf) in
private theorem delete (h : driver.BackingsPlaced) (contextId : UInt32)
    (resource : VirglResource) :
    (deleteAndRelease addBuf contextId driver resource).BackingsPlaced := by
  have hplace : SamePlace driver.vgpuMemory
      (deleteAndRelease addBuf contextId driver resource).vgpuMemory := by
    rw [(deleteAndRelease_frame addBuf contextId resource driver).2.2.2]
    split
    · have hframe := freeVgpuMemory_frame resource.region.address
        resource.region.size driver.vgpuMemory
      exact ⟨hframe.1, hframe.2.1⟩
    · exact ⟨rfl, rfl⟩
  intro backing hbacking
  rw [mem_backings_delete] at hbacking
  exact (h backing hbacking).of_samePlace hplace

theorem memory {refused : Prop} {deletes : List VirglResource}
    (h : before.BackingsPlaced)
    (hstep : MemoryStep addBuf refused deletes before after) :
    after.BackingsPlaced := by
  cases hstep with
  | quiet hlive hnotable hmemory hpushes =>
      exact h.keep_memory [] hmemory hnotable (List.forall_mem_nil _)
  | bare contextId resource hlive hserial hbuffer hblob hnotable hmemory
      hpushes hcount =>
      exact h.keep_memory [] hmemory hnotable (List.forall_mem_nil _)
  | backed contextId resource hlive hserial hbuffer hblob hpages hnotable
      halloc hpushes hcount =>
      obtain ⟨hplaced, hplace⟩ := placedIn_of_allocate halloc
      intro backing hbacking
      rw [mem_backings, hnotable] at hbacking
      rcases List.mem_cons.mp hbacking with hnew | hbacking
      · cases hnew
        exact hplaced.of_samePlace hplace
      · rcases List.mem_cons.mp hbacking with hgrant | hold
        · cases hgrant
        · exact (h backing (mem_backings.mpr hold)).of_samePlace hplace
  | blobCreated contextId resource hlive hserial hbuffer hblob hbusy hnotable
      hmemory hpushes hcount =>
      exact h.keep_memory [] hmemory hnotable (List.forall_mem_nil _)
  | deleted contextId gone middle hgone hunlinks hafter =>
      obtain ⟨contexts, hframe⟩ := hunlinks.frame
      have hmiddle : middle.BackingsPlaced := by
        rw [hframe]
        exact h
      have hdeleted : (gone.foldl (deleteAndRelease addBuf contextId)
          middle).BackingsPlaced :=
        @foldl_deleteAndRelease_invariant addBuf
          (fun _ driver => driver.BackingsPlaced) contextId
          (fun resource _ _ hdriver => delete addBuf hdriver contextId
            resource) gone middle hmiddle
      rcases hafter with rfl | rfl
      · exact hdeleted
      · exact hdeleted.keep_memory [] rfl
          (sendCommand_notable addBuf _ _ _ _) (List.forall_mem_nil _)
  | shared contextId resource share front back hbefore hlive hbuffer hidle
      hnotable hmemory hqueues hcount =>
      apply h.keep_memory [_] hmemory hnotable
      simp [Event.backing, Event.detach]
  | transferred hlive hnotable hmemory hpushes =>
      exact h.keep_memory [] hmemory hnotable (List.forall_mem_nil _)
  | submitted buffer memory hlive hnotable hpages halloc hsubmit haddress
      hserial hextends =>
      apply h.keep [_] (placedIn_of_allocate halloc).2 hnotable
      simp [Event.backing, Event.detach]
  | leaked hrefused memory size hlive hnotable hpages halloc hqueues
      hcount =>
      apply h.keep [_] (placedIn_of_allocate halloc).2 hnotable
      simp [Event.backing, Event.detach]

theorem step (addBuf : Nat → Bool) {world : World}
    (h : world.driver.BackingsPlaced) (action : Action) :
    (World.step addBuf world action).driver.BackingsPlaced := by
  cases action with
  | request processId request =>
      exact h.memory (virtioVgpuIoControl_memory processId world.driver
        request)
  | processExit processId =>
      exact h.memory (processNotify_memory addBuf processId world.driver)
  | host queue slot info =>
      simp only [World.step]
      split
      · exact h
      · exact h.keep_memory [] rfl (returnBuffer_notable _ _ _ _ _)
          (List.forall_mem_nil _)
  | dpc queue mapAddress =>
      simp only [World.step]
      rcases readOneFromQueue_step queue mapAddress world.driver with
        hsame | ⟨buffer, info, rest, _, hstep, hcompletes⟩
      · rw [hsame]
        exact h
      · have hplace : SamePlace world.driver.vgpuMemory
            (readOneFromQueue queue mapAddress world.driver).vgpuMemory := by
          rw [hcompletes.vgpuMemory]
          split
          · have hframe := freeVgpuMemory_frame buffer.pDataBuf
              buffer.dataBufSize world.driver.vgpuMemory
            exact ⟨hframe.1, hframe.2.1⟩
          · exact ⟨rfl, rfl⟩
        cases hstep with
        | updated hlive hnotable =>
            exact h.keep [] hplace hnotable (List.forall_mem_nil _)
        | mapped resource address front back htarget haddress hbefore hlive
            hnotable =>
            apply h.keep [_] hplace hnotable
            simp [Event.backing, Event.detach]

end Driver.BackingsPlaced

/-! What the host has taken from COMMAND_QUEUE, and the backings that it has
because of it. -/

/-- The host has taken the commands `done` from the front of the queue. -/
def Driver.Front (done : List VgpuBuffer) (driver : Driver) : Prop :=
  driver.sent .command = done ++ (driver.virtQueues .command).avail

namespace Driver.Front

variable {before after : Driver} {done : List VgpuBuffer}

theorem sends {new : List (Queue × VgpuBuffer)} (h : before.Front done)
    (hsends : Sends new before after) : after.Front done := by
  unfold Driver.Front at h ⊢
  rw [hsends.sent, hsends.queued.virtQueues, h, List.append_assoc]

theorem idles (h : before.Front done) (hidles : Idles before after)
    (havail : (after.virtQueues .command).avail =
      (before.virtQueues .command).avail) : after.Front done := by
  unfold Driver.Front at h ⊢
  rw [sent_of_pushes .command hidles.pushes, havail, h]

theorem older (h : before.Front done) (hpending : Pending .command before)
    {taken waiting : VgpuBuffer} (htaken : taken ∈ done)
    (hwaiting : waiting ∈ (before.virtQueues .command).avail) :
    taken.serial < waiting.serial := by
  have hordered := hpending.ordered
  rw [h, List.pairwise_append] at hordered
  exact hordered.2.2 taken htaken waiting hwaiting

theorem exists_of_hostTook (h : before.Front done) {serial : Nat}
    (htook : before.HostTook serial) :
    ∃ buffer ∈ done, buffer.serial = serial := by
  obtain ⟨hsent, hleft⟩ := htook
  rw [h, List.map_append] at hsent
  rcases List.mem_append.mp hsent with hdone | hwaiting
  · exact List.mem_map.mp hdone
  · exact absurd hwaiting hleft

end Driver.Front

/-- The resource that a RESOURCE_ATTACH_BACKING names. -/
def VgpuBuffer.attachedId (buffer : VgpuBuffer) : Option UInt32 :=
  match buffer.pBuf.body with
  | .resourceAttachBacking resourceId _ _ => some resourceId
  | _ => none

def VgpuBuffer.detachedId (buffer : VgpuBuffer) : Option UInt32 :=
  match buffer.pBuf.body with
  | .resourceDetachBacking resourceId => some resourceId
  | _ => none

/-- Every backing of the host was attached after the last DETACH_BACKING for
its resource. -/
structure Host.Follows (done : List VgpuBuffer) (host : Host) : Prop where
  taken : ∀ attach ∈ host.backings, attach ∈ done
  newer : ∀ attach ∈ host.backings, ∀ detach ∈ done,
    ∀ resourceId ∈ attach.attachedId, detach.detachedId = some resourceId →
      detach.serial < attach.serial

namespace Host.Follows

variable {host : Host} {done : List VgpuBuffer}

theorem mem_process {buffer attach : VgpuBuffer}
    (hattach : attach ∈ (host.process buffer).backings) :
    (attach ∈ host.backings ∧ ∀ resourceId ∈ attach.attachedId,
        buffer.detachedId ≠ some resourceId) ∨
      (attach = buffer ∧ buffer.attachedBytes ≠ none ∧
        buffer.detachedId = none) := by
  unfold Host.process at hattach
  unfold VgpuBuffer.detachedId VgpuBuffer.attachedBytes
  cases hbody : buffer.pBuf.body with
  | resourceAttachBacking resourceId gpa size =>
      rw [hbody] at hattach
      rcases List.mem_cons.mp hattach with rfl | hold
      · exact Or.inr ⟨rfl, nofun, rfl⟩
      · exact Or.inl ⟨hold, fun _ _ => nofun⟩
  | resourceDetachBacking resourceId =>
      rw [hbody] at hattach
      obtain ⟨hold, hkept⟩ := List.mem_filter.mp hattach
      refine Or.inl ⟨hold, ?_⟩
      intro attachedId hid hsame
      cases hsame
      unfold VgpuBuffer.attachedId at hid
      split at hid
      · rename_i other gpa size hattached
        cases hid
        rw [hattached] at hkept
        simp at hkept
      · cases hid
  | _ =>
      rw [hbody] at hattach
      exact Or.inl ⟨hattach, fun _ _ => nofun⟩

theorem serve {buffer : VgpuBuffer} (h : host.Follows done)
    (hnewest : ∀ taken ∈ done, taken.serial < buffer.serial) :
    (host.process buffer).Follows (done ++ [buffer]) where
  taken := by
    intro attach hattach
    rcases mem_process hattach with ⟨hold, _⟩ | ⟨rfl, _⟩
    · exact List.mem_append_left _ (h.taken attach hold)
    · exact List.mem_append_right _ List.mem_cons_self
  newer := by
    intro attach hattach detach hdetach resourceId hid hdetached
    rcases mem_process hattach with ⟨hold, hother⟩ | ⟨rfl, _, hnone⟩
    · rcases List.mem_append.mp hdetach with hdone | hlast
      · exact h.newer attach hold detach hdone resourceId hid hdetached
      · rw [List.mem_singleton.mp hlast] at hdetached
        exact absurd hdetached (hother resourceId hid)
    · rcases List.mem_append.mp hdetach with hdone | hlast
      · exact hnewest detach hdone
      · rw [List.mem_singleton.mp hlast, hnone] at hdetached
        cases hdetached

theorem process {buffer : VgpuBuffer} (h : host.Follows done)
    (hnone : buffer.attachedBytes = none) :
    (host.process buffer).Follows done where
  taken := by
    intro attach hattach
    rcases mem_process hattach with ⟨hold, _⟩ | ⟨_, hattached, _⟩
    · exact h.taken attach hold
    · exact absurd hnone hattached
  newer := by
    intro attach hattach
    rcases mem_process hattach with ⟨hold, _⟩ | ⟨_, hattached, _⟩
    · exact h.newer attach hold
    · exact absurd hnone hattached

end Host.Follows

structure ReuseInvariant (addBuf : Nat → Bool)
    (virtualAddress pageCount : Nat) (world : World) : Prop where
  ledger : BackingLedger addBuf [] world.driver
  pending : ∀ queue, Pending queue world.driver
  held : ∃ leaked,
    PagesHeld leaked virtualAddress pageCount [] world.driver
  placed : world.driver.BackingsPlaced
  follows : ∃ done, world.driver.Front done ∧ world.host.Follows done

theorem Pending.pushed {queue : Queue} {driver : Driver}
    {buffer : VgpuBuffer} (h : Pending queue driver)
    (hbuffer : buffer ∈ (driver.virtQueues queue).avail) :
    (queue, buffer) ∈ driver.pushes := by
  apply mem_onQueue.mp
  apply h.inFlight.subset
  exact List.mem_append_right _ hbuffer

theorem mem_ownedPages {driver : Driver} {record : PageRecord}
    {region : Region} (hrecord : record ∈ driver.pageRecords [])
    (hpages : record.pages = some region) :
    region ∈ driver.ownedPages [] := by
  obtain ⟨entry, hentry, rfl⟩ := List.mem_map.mp hrecord
  apply List.mem_append_right
  apply List.mem_append_left
  exact List.mem_filterMap.mpr ⟨entry, hentry, hpages⟩

theorem exists_detachOf {driver : Driver} {entry : Nat × Nat}
    (hentry : entry ∈ driver.detaches) :
    ∃ detach, driver.detachOf entry.1 = some detach := by
  apply Option.isSome_iff_exists.mp
  unfold Driver.detachOf
  rw [Option.isSome_map, List.find?_isSome]
  exact ⟨entry, hentry, decide_eq_true rfl⟩

theorem mem_of_detachOf {driver : Driver} {serial detach : Nat}
    (hdetach : driver.detachOf serial = some detach) :
    (serial, detach) ∈ driver.detaches := by
  obtain ⟨entry, hfound, rfl⟩ := Option.map_eq_some_iff.mp hdetach
  have hserial : entry.1 = serial := by
    simpa using List.find?_some hfound
  rw [← hserial]
  exact List.mem_of_find?_eq_some hfound

namespace ReuseInvariant

variable {addBuf : Nat → Bool} {virtualAddress pageCount : Nat}
variable {world : World} {action : Action}

private theorem follows_step
    (h : ReuseInvariant addBuf virtualAddress pageCount world)
    (hfifo : action.IsFifo .command) :
    ∃ done, (World.step addBuf world action).driver.Front done ∧
      (World.step addBuf world action).host.Follows done := by
  obtain ⟨done, hfront, hfollows⟩ := h.follows
  cases action with
  | request processId request =>
      obtain ⟨new, hsends⟩ := virtioVgpuIoControl_sends addBuf processId
        world.driver request
      exact ⟨done, hfront.sends hsends, hfollows⟩
  | processExit processId =>
      obtain ⟨new, hsends⟩ := processNotify_sends addBuf processId
        world.driver
      exact ⟨done, hfront.sends hsends, hfollows⟩
  | dpc queue mapAddress =>
      have hidles := readOneFromQueue_idles queue mapAddress world.driver
      exact ⟨done, hfront.idles hidles (readOneFromQueue_avail ..), hfollows⟩
  | host queue slot info =>
      cases hslot : (world.driver.virtQueues queue).avail[slot]? with
      | none =>
          simp only [World.step, hslot]
          exact ⟨done, hfront, hfollows⟩
      | some buffer =>
          have hwaiting := List.mem_of_getElem? hslot
          have hidles := returnBuffer_idles queue slot buffer info
            world.driver
          simp only [World.step, hslot]
          cases queue with
          | control =>
              refine ⟨done, hfront.idles hidles rfl, hfollows.process ?_⟩
              by_contra hattached
              have hpushed := (h.pending .control).pushed hwaiting
              cases (h.ledger.attached _ hpushed hattached).1
          | command =>
              -- the oldest command is served
              have hfirst : slot = 0 := hfifo rfl
              subst hfirst
              refine ⟨done ++ [buffer], ?_, hfollows.serve fun taken htaken =>
                hfront.older (h.pending .command) htaken hwaiting⟩
              unfold Driver.Front at hfront ⊢
              rw [sent_of_pushes .command hidles.pushes, hfront]
              cases havail : (world.driver.virtQueues .command).avail with
              | nil =>
                  rw [havail] at hwaiting
                  cases hwaiting
              | cons head rest =>
                  rw [havail] at hslot
                  cases hslot
                  simp [Driver.returnBuffer, havail]

theorem step (h : ReuseInvariant addBuf virtualAddress pageCount world)
    (hmaps : world.MapsNoPages action) (hfifo : action.IsFifo .command) :
    ReuseInvariant addBuf virtualAddress pageCount
      (World.step addBuf world action) where
  ledger := h.ledger.step hmaps
  pending := fun queue => (h.pending queue).step action
  held := by
    obtain ⟨leaked, hheld⟩ := h.held
    obtain ⟨more, hafter, _⟩ := hheld.step hmaps
    exact ⟨_, hafter⟩
  placed := h.placed.step addBuf action
  follows := h.follows_step hfifo

private theorem detached {pages : Interval} {backing : Backing}
    (h : ReuseInvariant addBuf virtualAddress pageCount world)
    (hsearched : world.searched action = some pages)
    (hbacking : backing ∈ world.driver.backings)
    (hcommon : ¬pages.Disjoint backing.bytes) :
    ∃ detach, world.driver.detachOf backing.serial = some detach ∧
      Detaches addBuf world.driver backing detach := by
  have hentry : ∃ serial, (backing.serial, serial) ∈
      world.driver.detaches := by
    rcases h.ledger.held backing hbacking with
      ⟨record, hrecord, hholds⟩ | hgone
    · exfalso
      apply hcommon
      cases action with
      | request processId request =>
          obtain ⟨size, hwanted, hfound⟩ := Option.bind_eq_some_iff.mp
            hsearched
          obtain ⟨leaked, hheld⟩ := h.held
          have hregion : backing.region ∈
              leaked ++ world.driver.ownedPages [] :=
            List.mem_append_right _ (mem_ownedPages hrecord hholds.pages)
          exact hheld.owns.found_disjoint (pagesWanted_mod hwanted) hfound
            hregion rfl (h.placed backing hbacking)
      | _ => cases hsearched
    · exact hgone
  obtain ⟨serial, hentry⟩ := hentry
  obtain ⟨detach, hdetach⟩ := exists_detachOf hentry
  exact ⟨detach, hdetach, h.ledger.detached backing hbacking detach
    (mem_of_detachOf hdetach)⟩

/-- Pages of a resource whose DETACH_BACKING the host has taken are used by
neither the host nor a command that waits. -/
theorem grantsUnused
    (h : ReuseInvariant addBuf virtualAddress pageCount world)
    (hfinds : world.FindsDetached action) :
    world.GrantsUnused addBuf action := by
  intro pages hpages
  rw [World.granted_eq, Option.mem_toList] at hpages
  obtain ⟨done, hfront, hfollows⟩ := h.follows
  have htaken : ∀ backing ∈ world.driver.backings,
      ¬pages.Disjoint backing.bytes →
      ∃ command ∈ done,
        world.driver.detachOf backing.serial = some command.serial ∧
          command.detachedId = some backing.resourceId := by
    intro backing hbacking hcommon
    obtain ⟨detach, hdetach, hdetaches⟩ := h.detached hpages hbacking hcommon
    obtain ⟨command, hcommand, rfl⟩ := hfront.exists_of_hostTook
      (hfinds pages hpages backing hbacking detach hdetach hcommon)
    have hpushed : (.command, command) ∈ world.driver.pushes := by
      apply mem_onQueue.mp
      change command ∈ world.driver.sent .command
      rw [hfront]
      exact List.mem_append_left _ hcommand
    refine ⟨command, hcommand, hdetach, ?_⟩
    unfold VgpuBuffer.detachedId
    rw [(hdetaches.only _ hpushed rfl).2]
  constructor
  · intro attach hattach bytes hbytes
    by_contra hcommon
    have hpushed : (.command, attach) ∈ world.driver.pushes := by
      apply mem_onQueue.mp
      change attach ∈ world.driver.sent .command
      rw [hfront]
      exact List.mem_append_left _ (hfollows.taken attach hattach)
    have hattached : attach.attachedBytes ≠ none := by
      rw [hbytes]
      exact nofun
    obtain ⟨_, backing, hbacking, ⟨size, hsize, hbody⟩, hbefore⟩ :=
      h.ledger.attached _ hpushed hattached
    have hwhole : ¬pages.Disjoint backing.bytes := by
      intro hdisjoint
      apply hcommon
      unfold VgpuBuffer.attachedBytes at hbytes
      rw [hbody] at hbytes
      cases hbytes
      exact hdisjoint.shorten hsize
    obtain ⟨command, hcommand, hdetach, hid⟩ :=
      htaken backing hbacking hwhole
    have hattachedId : backing.resourceId ∈ attach.attachedId := by
      unfold VgpuBuffer.attachedId
      rw [hbody]
      rfl
    have hnewer := hfollows.newer attach hattach command hcommand
      backing.resourceId hattachedId hid
    have holder := hbefore command.serial (mem_of_detachOf hdetach)
    dsimp only at holder
    omega
  · intro buffer hbuffer backing hbacking ⟨_, _, hearly⟩
    by_contra hcommon
    obtain ⟨command, hcommand, hdetach, _⟩ :=
      htaken backing hbacking hcommon
    have holder := hfront.older (h.pending .command) hcommand hbuffer
    have hnot := hearly command.serial hdetach
    omega

/-- When all commands are accepted the pages are unused only so. -/
theorem findsDetached
    (h : ReuseInvariant addBuf virtualAddress pageCount world)
    (hpush : ∀ serial, addBuf serial = true)
    (hunused : world.GrantsUnused addBuf action) :
    world.FindsDetached action := by
  intro pages hpages backing hbacking detach hdetach hcommon
  have hdetaches := h.ledger.detached backing hbacking detach
    (mem_of_detachOf hdetach)
  obtain ⟨⟨queue, command⟩, hpushed, rfl⟩ := hdetaches.accepted (hpush detach)
  obtain ⟨hqueue, hbody⟩ := hdetaches.only _ hpushed rfl
  dsimp only at hqueue hbody hdetach hdetaches ⊢
  subst hqueue
  constructor
  · exact List.mem_map_of_mem (mem_onQueue.mpr hpushed)
  · intro hwaiting
    obtain ⟨buffer, hbuffer, hserial⟩ := List.mem_map.mp hwaiting
    have hsame := (hdetaches.only _ ((h.pending .command).pushed hbuffer)
      hserial).2
    have hgranted : pages ∈ world.granted addBuf action := by
      rw [World.granted_eq, Option.mem_toList]
      exact hpages
    apply hcommon
    apply (hunused pages hgranted).2 buffer hbuffer backing hbacking
    refine ⟨?_, ?_, ?_⟩
    · unfold VgpuBuffer.namedIds
      rw [hsame]
      exact List.mem_singleton.mpr rfl
    · rw [hserial]
      exact hdetaches.older
    · intro other hother
      rw [hserial]
      exact Nat.le_of_eq (Option.some.inj (hdetach.symm.trans hother))

end ReuseInvariant

theorem start_reuseInvariant (addBuf : Nat → Bool)
    (virtualAddress physicalAddress : Nat) {memorySize : Nat}
    (hsize : memorySize % pageSize = 0) (hlimit : memorySize ≤ 2 ^ 40)
    (capsets : Capsets) :
    ReuseInvariant addBuf virtualAddress (memorySize / pageSize)
      (World.start virtualAddress physicalAddress memorySize capsets) where
  ledger := start_backingLedger addBuf virtualAddress physicalAddress
    memorySize capsets
  pending := fun queue => start_pending queue virtualAddress physicalAddress
    memorySize capsets
  held := by
    have hpages := start_pageInvariant virtualAddress physicalAddress hsize
      hlimit capsets
    exact ⟨[], PageInvariant.iff_held.mp hpages⟩
  placed := nofun
  follows := ⟨[], rfl, nofun, nofun⟩

/-- The pages that are handed out are used neither by the host nor by a
command that waits, in every run in which the search finds no page of a
deleted resource before the host has taken its DETACH_BACKING. -/
theorem granted_pages_unused (addBuf : Nat → Bool)
    (virtualAddress physicalAddress memorySize : Nat) (capsets : Capsets)
    (actions : List Action) (hsize : memorySize % pageSize = 0)
    (hlimit : memorySize ≤ 2 ^ 40)
    (hfifo : ∀ action ∈ actions, action.IsFifo .command)
    (hmaps : Along (World.step addBuf) World.MapsNoPages
      (World.start virtualAddress physicalAddress memorySize capsets)
      actions) :
    (Along (World.step addBuf) World.FindsDetached
        (World.start virtualAddress physicalAddress memorySize capsets)
        actions →
      Along (World.step addBuf) (World.GrantsUnused addBuf)
        (World.start virtualAddress physicalAddress memorySize capsets)
        actions) ∧
    ((∀ serial, addBuf serial = true) →
      Along (World.step addBuf) (World.GrantsUnused addBuf)
        (World.start virtualAddress physicalAddress memorySize capsets)
        actions →
      Along (World.step addBuf) World.FindsDetached
        (World.start virtualAddress physicalAddress memorySize capsets)
        actions) := by
  have hstart := start_reuseInvariant addBuf virtualAddress physicalAddress
    hsize hlimit capsets
  have hserved := hmaps.and (along_of_mem hfifo)
  have hkeeps : ∀ world action,
      ReuseInvariant addBuf virtualAddress (memorySize / pageSize) world →
      ∀ guard : Prop,
        (world.MapsNoPages action ∧ action.IsFifo .command) ∧ guard →
        ReuseInvariant addBuf virtualAddress (memorySize / pageSize)
          (World.step addBuf world action) :=
    fun world action h guard hguard => h.step hguard.1.1 hguard.1.2
  constructor
  · intro hfinds
    exact (hserved.and hfinds).of_invariant
      (fun world action h hguard => hkeeps world action h _ hguard)
      (fun world action h hguard => h.grantsUnused hguard.2) hstart
  · intro hpush hunused
    exact (hserved.and hunused).of_invariant
      (fun world action h hguard => hkeeps world action h _ hguard)
      (fun world action h hguard => h.findsDetached hpush hguard.2) hstart

/-- A resource is created and closed, the host serves what is sent, and the
pages go to the next resource. -/
def servedReuseRun : List Action :=
  [.request 7 .initContext, .request 7 (.create 0x1000)] ++ Action.serve 2 ++
    [.request 7 (.close 1)] ++ Action.serve 2 ++
      [.request 7 (.create 0x1000)]

/-- The same without the service of the deletion. -/
def hastyReuseRun : List Action :=
  [.request 7 .initContext, .request 7 (.create 0x1000)] ++ Action.serve 2 ++
    [.request 7 (.close 1), .request 7 (.create 0x1000)]

theorem granted_pages_unused_served :
    Along (World.step fun _ => true) (World.GrantsUnused fun _ => true)
        World.eightPages servedReuseRun ∧
      (runFrom (World.step fun _ => true)
        World.eightPages servedReuseRun).driver.grants =
        [{ start := 0x80000, length := 0x1000 },
          { start := 0x80000, length := 0x1000 }] := by
  constructor
  · exact (granted_pages_unused (fun _ => true) 0x10000 0x80000 0x8000
      .oneCapset servedReuseRun (by decide) (by decide) (by decide)
      (by decide +kernel)).1 (by decide +kernel)
  · decide +kernel

/-- The host still has the backing of the closed resource when its page is
handed out again. -/
theorem granted_pages_still_attached :
    (∀ action ∈ hastyReuseRun, action.IsFifo .command) ∧
      Along (World.step fun _ => true) World.MapsNoPages
        World.eightPages hastyReuseRun ∧
      ¬Along (World.step fun _ => true) (World.GrantsUnused fun _ => true)
        World.eightPages hastyReuseRun := by
  decide +kernel

end VgpuDriver
