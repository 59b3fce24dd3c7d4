import VgpuDriver.MapRuns

namespace VgpuDriver

open Data

/-! Who holds the pages of the vgpu memory: the live resources, the submissions
in flight, and nobody for those that were leaked. -/

/-- The pages of a plain resource. -/
def VirglResource.pages (resource : VirglResource) : Option Region :=
  if resource.IsPlain then some resource.region else none

/-- The pages of the command that a SUBMIT_3D carries. -/
def VgpuBuffer.pages (buffer : VgpuBuffer) : Option Region :=
  if buffer.IsSubmit then
    some { address := buffer.pDataBuf, size := buffer.dataBufSize }
  else none

def Driver.submitPages (driver : Driver) : List Region :=
  (driver.inFlight .command).filterMap VgpuBuffer.pages ++
    (driver.inFlight .control).filterMap VgpuBuffer.pages

/-- The pages of the resources still to be deleted, of the live ones, and of
the submissions in flight. -/
def Driver.ownedPages (pending : List VirglResource) (driver : Driver) :
    List Region :=
  pending.filterMap VirglResource.pages ++
    ((driver.live.filterMap fun entry => entry.2.pages) ++
      driver.submitPages)

/-- The reply that is completed is not mapped into a plain resource. -/
def World.MapsNoPages (world : World) : Action → Prop
  | .dpc queue mapAddress => world.driver.MapsNoPages queue mapAddress
  | _ => True

instance (world : World) :
    (action : Action) → Decidable (world.MapsNoPages action)
  | .request _ _ => inferInstanceAs (Decidable True)
  | .processExit _ => inferInstanceAs (Decidable True)
  | .host _ _ _ => inferInstanceAs (Decidable True)
  | .dpc queue mapAddress => inferInstanceAs
      (Decidable (world.driver.MapsNoPages queue mapAddress))

/-- The pages handed out are those that are owned and the leaked ones. -/
structure PagesHeld (leaked : List Region) (virtualAddress pageCount : Nat)
    (pending : List VirglResource) (driver : Driver) : Prop where
  owns : Owns driver.vgpuMemory (leaked ++ driver.ownedPages pending)
  base : driver.vgpuMemory.virtualAddress = virtualAddress
  count : driver.vgpuMemory.regionBitmap.size = pageCount

section Pages

variable {addBuf : Nat → Bool} {before after : Driver}

theorem pages_eq_none_of_not_submit {buffer : VgpuBuffer}
    (hsubmit : buffer.IsSubmit = false) : buffer.pages = none := by
  simp [VgpuBuffer.pages, hsubmit]

theorem Pushes.submitPages (h : Pushes (fun _ buffer =>
    buffer.IsSubmit = false) before after) :
    after.submitPages = before.submitPages := by
  obtain ⟨new, hextends, hnew⟩ := h
  have hnone : ∀ queue, (new queue).filterMap VgpuBuffer.pages = [] := by
    intro queue
    refine List.filterMap_eq_nil_iff.mpr fun buffer hbuffer => ?_
    exact pages_eq_none_of_not_submit (hnew queue buffer hbuffer)
  unfold Driver.submitPages
  rw [hextends.inFlight, hextends.inFlight]
  simp [hnone]

theorem Remarked.pages {old new : UInt32 × VirglResource}
    (h : Remarked old new) : new.2.pages = old.2.pages := by
  obtain ⟨_, _, rfl, _⟩ := h
  rfl

theorem Signaled.pages {buffer : VgpuBuffer}
    {old new : UInt32 × VirglResource} (h : Signaled buffer old new) :
    new.2.pages = old.2.pages := by
  rcases h with rfl | ⟨_, rfl⟩
  · rfl
  · obtain ⟨_, _, hstate⟩ := VirglResource.updateState_eq false
      buffer.pBuf.hdr.fenceId old.2
    rw [hstate]
    rfl

end Pages

namespace PagesHeld

variable {addBuf : Nat → Bool} {virtualAddress pageCount : Nat}
variable {leaked : List Region}
variable {pending rest : List VirglResource} {before after driver : Driver}

private theorem of_perm {other : List VirglResource}
    (h : PagesHeld leaked virtualAddress pageCount pending before)
    (hmemory : after.vgpuMemory = before.vgpuMemory)
    (hpages : (after.ownedPages other).Perm (before.ownedPages pending)) :
    PagesHeld leaked virtualAddress pageCount other after where
  owns := hmemory ▸ h.owns.perm (hpages.symm.append_left leaked)
  base := hmemory ▸ h.base
  count := hmemory ▸ h.count

private theorem allocate {size : Nat} {memory : MemoryDescriptor}
    (h : PagesHeld leaked virtualAddress pageCount pending before)
    (hpages : size % pageSize = 0)
    (halloc : allocateVgpuMemory size before.vgpuMemory =
      some (memory, after.vgpuMemory))
    (howned : (after.ownedPages pending).Perm
      (⟨memory.virtualAddress, size⟩ :: before.ownedPages pending)) :
    PagesHeld leaked virtualAddress pageCount pending after := by
  have hframe := allocateLocked_frame
    (allocateVgpuMemory_eq_some halloc).2
  refine ⟨?_, hframe.1.trans h.base, hframe.2.2.trans h.count⟩
  have hperm := (howned.append_left leaked).trans List.perm_middle
  exact (h.owns.allocate hpages halloc).1.perm hperm.symm

private theorem leak {size : Nat} {memory : MemoryDescriptor}
    (h : PagesHeld leaked virtualAddress pageCount pending before)
    (hpages : size % pageSize = 0)
    (halloc : allocateVgpuMemory size before.vgpuMemory =
      some (memory, after.vgpuMemory))
    (howned : after.ownedPages pending = before.ownedPages pending) :
    PagesHeld (⟨memory.virtualAddress, size⟩ :: leaked) virtualAddress
      pageCount pending after := by
  have hframe := allocateLocked_frame
    (allocateVgpuMemory_eq_some halloc).2
  refine ⟨?_, hframe.1.trans h.base, hframe.2.2.trans h.count⟩
  rw [howned]
  exact (h.owns.allocate hpages halloc).1

private theorem free (region : Region)
    (h : PagesHeld leaked virtualAddress pageCount pending before)
    (hmemory : after.vgpuMemory =
      freeVgpuMemory region.address region.size before.vgpuMemory)
    (howned : (before.ownedPages pending).Perm
      (region :: after.ownedPages rest)) :
    PagesHeld leaked virtualAddress pageCount rest after := by
  have hframe := freeVgpuMemory_frame region.address region.size
    before.vgpuMemory
  have hperm := (howned.append_left leaked).trans List.perm_middle
  have hfreed := (h.owns.perm hperm).free
  rw [← hmemory] at hframe hfreed
  exact ⟨hfreed, hframe.1.trans h.base, hframe.2.2.trans h.count⟩

variable (addBuf) in
private theorem delete {resource : VirglResource}
    (h : PagesHeld leaked virtualAddress pageCount (resource :: rest) driver)
    (contextId : UInt32) :
    PagesHeld leaked virtualAddress pageCount rest
      (deleteAndRelease addBuf contextId driver resource) := by
  have hframe := deleteAndRelease_frame addBuf contextId resource driver
  have hsubmits := Pushes.submitPages
    ((deleteAndRelease_pushes addBuf contextId resource driver).mono
      fun _ _ hdeletion => hdeletion.neutral.2.2)
  have howned : driver.ownedPages (resource :: rest) =
      resource.pages.toList ++ (deleteAndRelease addBuf contextId driver
        resource).ownedPages rest := by
    unfold Driver.ownedPages Driver.live
    rw [hframe.1, hsubmits, List.filterMap_cons]
    cases resource.pages with
    | none => rfl
    | some region => rfl
  cases hplain : resource.IsPlain with
  | true =>
      have hpages : resource.pages = some resource.region := if_pos hplain
      have hmemory := hframe.2.2.2
      rw [if_pos hplain] at hmemory
      refine h.free _ hmemory ?_
      rw [howned, hpages]
      exact List.Perm.refl _
  | false =>
      have hpages : resource.pages = none := by
        simp [VirglResource.pages, hplain]
      have hmemory := hframe.2.2.2
      rw [hplain] at hmemory
      refine h.of_perm hmemory ?_
      rw [howned, hpages]
      exact List.Perm.refl _

theorem keep
    (h : PagesHeld leaked virtualAddress pageCount [] before)
    (hmemory : after.vgpuMemory = before.vgpuMemory)
    (hlive : (after.live.filterMap fun entry => entry.2.pages).Perm
      (before.live.filterMap fun entry => entry.2.pages))
    (hsubmits : after.submitPages = before.submitPages) :
    PagesHeld leaked virtualAddress pageCount [] after := by
  refine h.of_perm hmemory ?_
  unfold Driver.ownedPages
  rw [hsubmits]
  exact hlive.append_right _

/-- Pages are leaked by a submission that the queue refuses and by one that
does not get its handle array. -/
theorem memory {refused : Prop} {deletes : List VirglResource}
    (h : PagesHeld leaked virtualAddress pageCount [] before)
    (hstep : MemoryStep addBuf refused deletes before after) :
    ∃ more, PagesHeld (more ++ leaked) virtualAddress pageCount [] after ∧
      ((∀ serial, addBuf serial = true) → ¬refused → more = []) := by
  have hkept : PagesHeld leaked virtualAddress pageCount [] after →
      ∃ more, PagesHeld (more ++ leaked) virtualAddress pageCount [] after ∧
        ((∀ serial, addBuf serial = true) → ¬refused → more = []) :=
    fun hafter => ⟨[], hafter, fun _ _ => rfl⟩
  have hremarked : List.Forall₂ Remarked before.live after.live →
      (after.live.filterMap fun entry => entry.2.pages) =
        before.live.filterMap fun entry => entry.2.pages := by
    intro hlive
    exact filterMap_eq_of_forall₂
      (g := fun entry : UInt32 × VirglResource => entry.2.pages)
      Remarked.pages hlive
  cases hstep with
  | quiet hlive hnotable hmemory hpushes =>
      refine hkept (h.keep hmemory (by rw [hlive]) ?_)
      exact Pushes.submitPages (hpushes.mono fun _ _ hneutral => hneutral.2.2)
  | bare contextId resource hlive hserial hbuffer hblob hnotable hmemory
      hpushes hcount =>
      refine hkept (h.keep hmemory ?_ (Pushes.submitPages
        (hpushes.mono fun _ _ hneutral => hneutral.2.2)))
      have hnone : resource.pages = none := by
        simp [VirglResource.pages, VirglResource.IsPlain, hbuffer]
      have hperm := hlive.filterMap fun entry => entry.2.pages
      simpa only [List.filterMap_cons, hnone] using hperm
  | backed contextId resource hlive hserial hbuffer hblob hpages hnotable
      halloc hpushes hcount =>
      refine hkept (h.allocate hpages halloc ?_)
      have hsubmits := Pushes.submitPages
        (hpushes.mono fun _ _ hneutral => hneutral.2.2)
      have hsome : resource.pages = some
          ⟨resource.buffer.memory.virtualAddress, resource.buffer.size⟩ := by
        simp [VirglResource.pages, VirglResource.IsPlain,
          VirglResource.region, hbuffer, hblob]
      have hperm := hlive.filterMap fun entry => entry.2.pages
      simp only [List.filterMap_cons, hsome] at hperm
      unfold Driver.ownedPages
      rw [hsubmits]
      exact hperm.append_right _
  | blobCreated contextId resource hlive hserial hbuffer hblob hbusy hnotable
      hmemory hpushes hcount =>
      refine hkept (h.keep hmemory ?_ (Pushes.submitPages hpushes))
      have hnone : resource.pages = none := by
        simp [VirglResource.pages, VirglResource.IsPlain, hblob]
      have hperm := hlive.filterMap fun entry => entry.2.pages
      simpa only [List.filterMap_cons, hnone] using hperm
  | deleted contextId gone middle hgone hunlinks hafter =>
      obtain ⟨contexts, hframe⟩ := hunlinks.frame
      have hmiddle : PagesHeld leaked virtualAddress pageCount gone middle := by
        refine h.of_perm (by rw [hframe]) ?_
        have hlive := hunlinks.live.filterMap fun entry => entry.2.pages
        rw [List.filterMap_append, List.filterMap_map] at hlive
        have hsubmits : middle.submitPages = before.submitPages := by
          rw [hframe]
          rfl
        unfold Driver.ownedPages
        rw [hsubmits, ← List.append_assoc]
        exact (hlive.append_right _).symm
      have hdeleted := foldl_deleteAndRelease_invariant addBuf
        (fun resource rest driver hpending =>
          delete addBuf hpending contextId) hmiddle
      rcases hafter with rfl | rfl
      · exact hkept hdeleted
      · refine hkept (hdeleted.keep rfl (List.Perm.refl _)
          (Pushes.submitPages ?_))
        exact sendCommand_pushes addBuf rfl
  | shared contextId resource share front back hbefore hlive hbuffer hidle
      hnotable hmemory hqueues hcount =>
      refine hkept (h.keep hmemory ?_ (by
        unfold Driver.submitPages Driver.inFlight
        rw [hqueues]))
      have hsame : VirglResource.pages
          { resource with
            buffer := { resource.buffer with share := share } } =
          resource.pages := rfl
      rw [hbefore, hlive]
      simp only [List.filterMap_append, List.filterMap_cons, hsame]
      exact List.Perm.refl _
  | transferred hlive hnotable hmemory hpushes =>
      exact hkept (h.keep hmemory (by rw [hremarked hlive])
        (Pushes.submitPages hpushes))
  | submitted buffer memory hlive hnotable hpages halloc hsubmit haddress
      hserial hextends =>
      have hsome : buffer.pages =
          some ⟨memory.virtualAddress, buffer.dataBufSize⟩ := by
        simp [VgpuBuffer.pages, hsubmit, haddress]
      cases haccepted : addBuf buffer.serial with
      | true =>
          refine hkept (h.allocate hpages halloc ?_)
          have hsubmits : after.submitPages.Perm
              (⟨memory.virtualAddress, buffer.dataBufSize⟩ ::
                before.submitPages) := by
            unfold Driver.submitPages
            rw [hextends.inFlight, hextends.inFlight]
            simp only [accepted, haccepted, List.filterMap_append, if_true,
              and_true, List.filterMap_cons, hsome, List.filterMap_nil,
              reduceCtorEq, if_false, List.append_nil, List.append_assoc,
              List.singleton_append]
            exact List.perm_middle
          unfold Driver.ownedPages
          rw [hremarked hlive]
          exact (hsubmits.append_left _).trans List.perm_middle
      | false =>
          refine ⟨[⟨memory.virtualAddress, buffer.dataBufSize⟩],
            h.leak hpages halloc ?_, fun hpush => ?_⟩
          · have hnone : ∀ queue,
                after.inFlight queue = before.inFlight queue := by
              intro queue
              rw [hextends.inFlight]
              simp [accepted, haccepted]
            unfold Driver.ownedPages Driver.submitPages
            rw [hremarked hlive, hnone, hnone]
          · rw [hpush] at haccepted
            cases haccepted
  | leaked hrefused memory size hlive hnotable hpages halloc hqueues hcount =>
      refine ⟨[⟨memory.virtualAddress, size⟩], h.leak hpages halloc ?_,
        fun _ hgranted => absurd hrefused hgranted⟩
      unfold Driver.ownedPages Driver.submitPages Driver.inFlight
      rw [hremarked hlive, hqueues]

private theorem completes {queue : Queue} {buffer : VgpuBuffer}
    {info : MapInfo} {mapAddress : Option Nat}
    (h : PagesHeld leaked virtualAddress pageCount [] before)
    (hstep : CompletionStep buffer info mapAddress before after)
    (hcompletes : Completes queue buffer info mapAddress before after)
    (htargets : mapAddress ≠ none → ∀ target ∈ before.mapTarget buffer,
      target.IsPlain = false) :
    PagesHeld leaked virtualAddress pageCount [] after := by
  have hlive : (after.live.filterMap fun entry => entry.2.pages) =
      before.live.filterMap fun entry => entry.2.pages := by
    cases hstep with
    | updated hlive hnotable =>
        exact filterMap_eq_of_forall₂
          (g := fun entry : UInt32 × VirglResource => entry.2.pages)
          Signaled.pages hlive
    | mapped resource address front back htarget haddress hbefore hlive
        hnotable =>
        have hplain := htargets (by simp [haddress]) resource htarget
        have hnone : resource.pages = none := by
          simp [VirglResource.pages, hplain]
        have hplain' : (resource.mapAt info.size address).IsPlain = false :=
          hplain
        have hnone' : (resource.mapAt info.size address).pages = none := by
          simp [VirglResource.pages, hplain']
        rw [hbefore, hlive]
        simp only [List.filterMap_append, List.filterMap_cons, hnone, hnone']
  have hsubmits : before.submitPages.Perm
      (buffer.pages.toList ++ after.submitPages) := by
    unfold Driver.submitPages
    cases queue with
    | command =>
        rw [hcompletes.head, hcompletes.others .control (by decide),
          List.filterMap_cons]
        cases buffer.pages with
        | none => exact List.Perm.refl _
        | some region => exact List.Perm.refl _
    | control =>
        rw [hcompletes.head, hcompletes.others .command (by decide),
          List.filterMap_cons]
        cases buffer.pages with
        | none => exact List.Perm.refl _
        | some region => exact List.perm_middle
  have howned : (before.ownedPages []).Perm
      (buffer.pages.toList ++ after.ownedPages []) := by
    unfold Driver.ownedPages
    rw [hlive]
    simp only [List.filterMap_nil, List.nil_append]
    refine (hsubmits.append_left _).trans ?_
    rw [← List.append_assoc, ← List.append_assoc]
    exact List.perm_append_comm.append_right _
  have hmemory := hcompletes.vgpuMemory
  cases hsubmit : buffer.IsSubmit with
  | true =>
      have hpages : buffer.pages =
          some ⟨buffer.pDataBuf, buffer.dataBufSize⟩ := if_pos hsubmit
      rw [if_pos hsubmit] at hmemory
      rw [hpages] at howned
      exact h.free ⟨buffer.pDataBuf, buffer.dataBufSize⟩ hmemory howned
  | false =>
      rw [hsubmit] at hmemory
      rw [pages_eq_none_of_not_submit hsubmit] at howned
      exact h.of_perm hmemory howned.symm

private theorem returnBuffer {queue : Queue} {slot : Nat}
    {buffer : VgpuBuffer}
    (h : PagesHeld leaked virtualAddress pageCount [] driver) (info : MapInfo)
    (hslot : (driver.virtQueues queue).avail[slot]? = some buffer) :
    PagesHeld leaked virtualAddress pageCount []
      (driver.returnBuffer queue slot buffer info) := by
  have hperm := returnBuffer_inFlight_perm info hslot
  refine h.of_perm rfl ?_
  unfold Driver.ownedPages Driver.submitPages
  exact (((hperm .command).filterMap _).append
    ((hperm .control).filterMap _)).append_left _

theorem step {world : World} {action : Action}
    (h : PagesHeld leaked virtualAddress pageCount [] world.driver)
    (hmaps : world.MapsNoPages action) :
    ∃ more, PagesHeld (more ++ leaked) virtualAddress pageCount []
        (World.step addBuf world action).driver ∧
      ((∀ serial, addBuf serial = true) →
        (∀ processId request, action = .request processId request →
          request.HandlesGranted) → more = []) := by
  cases action with
  | request processId request =>
      obtain ⟨more, hheld, hnone⟩ := h.memory
        (virtioVgpuIoControl_memory processId world.driver request)
      exact ⟨more, hheld, fun hpush hgranted =>
        hnone hpush (not_not.mpr (hgranted processId request rfl))⟩
  | processExit processId =>
      obtain ⟨more, hheld, hnone⟩ :=
        h.memory (processNotify_memory addBuf processId world.driver)
      exact ⟨more, hheld, fun hpush _ => hnone hpush not_false⟩
  | host queue slot info =>
      refine ⟨[], ?_, fun _ _ => rfl⟩
      simp only [World.step]
      split
      · exact h
      · rename_i buffer hslot
        exact h.returnBuffer info hslot
  | dpc queue mapAddress =>
      refine ⟨[], ?_, fun _ _ => rfl⟩
      simp only [World.step]
      rcases readOneFromQueue_step queue mapAddress world.driver with
        hsame | ⟨buffer, info, rest, hused, hstep, hcompletes⟩
      · rw [hsame]
        exact h
      · exact h.completes hstep hcompletes
          (hmaps (buffer, info) (by rw [hused]; rfl))

end PagesHeld

end VgpuDriver
