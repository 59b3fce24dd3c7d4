import VgpuDriver.Data.Replay
import VgpuDriver.Serials

namespace VgpuDriver

open Data

/-! `MmMapIoSpaceEx` and `MmUnmapIoSpace` are balanced: in every run that
deletes a blob only after it was mapped, and maps it once. -/

/-- A mapping that `MmMapIoSpaceEx` made for a resource. -/
structure IoMapping where
  owner : Nat
  address : Nat
  size : Nat
  deriving DecidableEq, Repr

/-- A mapping is unmapped while it is in force, and a record is freed when no
mapping of it is in force. -/
def ioEvent (event : Event) (mappings : List IoMapping) :
    Option (List IoMapping) :=
  match event with
  | .ioMapped owner address size => some (⟨owner, address, size⟩ :: mappings)
  | .ioUnmapped owner address size =>
      if ⟨owner, address, size⟩ ∈ mappings then
        some (mappings.erase ⟨owner, address, size⟩)
      else none
  | .released owner =>
      if ∀ mapping ∈ mappings, mapping.owner ≠ owner then some mappings
      else none
  | _ => some mappings

/-- The mappings in force after the recorded events. -/
def Driver.ioMappings (driver : Driver) : Option (List IoMapping) :=
  replay ioEvent [] driver.notable

def Driver.IoBalanced (driver : Driver) : Prop :=
  driver.ioMappings ≠ none

instance (driver : Driver) : Decidable driver.IoBalanced :=
  inferInstanceAs (Decidable (_ ≠ _))

/-- A resource whose memory is mapped by the completion handler. -/
def VirglResource.IsBlob (resource : VirglResource) : Bool :=
  resource.bForBuffer && resource.bForBlob

/-- The blobs among the resources have been mapped. -/
def Driver.BlobsMapped (driver : Driver) (resources : List VirglResource) :
    Prop :=
  ∀ resource ∈ resources, resource.IsBlob = true →
    HasMapped resource.serial driver.notable

instance (driver : Driver) (resources : List VirglResource) :
    Decidable (driver.BlobsMapped resources) := by
  unfold Driver.BlobsMapped
  infer_instance

/-- What is mapped is a blob that has not been mapped yet. -/
def Driver.MapsFreshBlob (queue : Queue) (mapAddress : Option Nat)
    (driver : Driver) : Prop :=
  ∀ head ∈ (driver.virtQueues queue).used.head?, mapAddress ≠ none →
    ∀ target ∈ driver.mapTarget head.1,
      target.IsBlob = true ∧ ¬HasMapped target.serial driver.notable

instance (queue : Queue) (mapAddress : Option Nat) (driver : Driver) :
    Decidable (driver.MapsFreshBlob queue mapAddress) := by
  unfold Driver.MapsFreshBlob
  infer_instance

def World.DeletesMapped (world : World) : Action → Prop
  | .request processId request =>
      world.driver.BlobsMapped (request.deletes processId world.driver)
  | .processExit processId =>
      world.driver.BlobsMapped (world.driver.resourcesOf processId)
  | .host _ _ _ => True
  | .dpc queue mapAddress => world.driver.MapsFreshBlob queue mapAddress

instance (world : World) :
    (action : Action) → Decidable (world.DeletesMapped action)
  | .request processId request => inferInstanceAs (Decidable
      (world.driver.BlobsMapped (request.deletes processId world.driver)))
  | .processExit processId => inferInstanceAs (Decidable
      (world.driver.BlobsMapped (world.driver.resourcesOf processId)))
  | .host _ _ _ => inferInstanceAs (Decidable True)
  | .dpc queue mapAddress => inferInstanceAs (Decidable
      (world.driver.MapsFreshBlob queue mapAddress))

/-! The mappings in force are those of the blobs that have been mapped. -/

def VirglResource.ioMapping (resource : VirglResource) : IoMapping where
  owner := resource.serial
  address := resource.buffer.memory.virtualAddress
  size := resource.buffer.size

def heldMapping (events : List Event) (resource : VirglResource) :
    Option IoMapping :=
  if resource.IsBlob = true ∧ HasMapped resource.serial events then
    some resource.ioMapping
  else none

/-- The mappings of the resources still to be deleted and of the live ones. -/
def Driver.heldMappings (pending : List VirglResource) (driver : Driver) :
    List IoMapping :=
  pending.filterMap (heldMapping driver.notable) ++
    driver.live.filterMap fun entry => heldMapping driver.notable entry.2

structure IoInvariant (pending : List VirglResource) (driver : Driver) :
    Prop where
  tracked : Tracked pending driver
  blobs : driver.BlobsMapped pending
  mappings : ∃ mappings, driver.ioMappings = some mappings ∧
    mappings.Perm (driver.heldMappings pending)

theorem heldMapping_owner {events : List Event} {resource : VirglResource}
    {mapping : IoMapping}
    (hmapping : heldMapping events resource = some mapping) :
    mapping.owner = resource.serial := by
  unfold heldMapping at hmapping
  split at hmapping
  · cases hmapping
    rfl
  · cases hmapping

theorem heldMapping_append (new : List Event) {events : List Event}
    {resource : VirglResource}
    (hnew : ∀ event ∈ new, event.mappedOwner ≠ some resource.serial) :
    heldMapping (new ++ events) resource = heldMapping events resource := by
  have hsame : HasMapped resource.serial (new ++ events) ↔
      HasMapped resource.serial events := by
    simp only [hasMapped_iff, List.mem_append]
    constructor
    · rintro ⟨event, hmem | hmem, howner⟩
      · exact absurd howner (hnew event hmem)
      · exact ⟨event, hmem, howner⟩
    · rintro ⟨event, hmem, howner⟩
      exact ⟨event, Or.inr hmem, howner⟩
  unfold heldMapping
  simp only [hsame]

theorem owner_of_mem_heldMappings {pending : List VirglResource}
    {driver : Driver} {mapping : IoMapping}
    (hmem : mapping ∈ driver.heldMappings pending) :
    mapping.owner ∈ driver.serials pending := by
  rcases List.mem_append.mp hmem with hmem | hmem
  · obtain ⟨resource, hresource, hmapping⟩ := List.mem_filterMap.mp hmem
    rw [heldMapping_owner hmapping]
    exact List.mem_append_left _ (List.mem_map_of_mem hresource)
  · obtain ⟨entry, hentry, hmapping⟩ := List.mem_filterMap.mp hmem
    rw [heldMapping_owner hmapping]
    exact List.mem_append_right _
      (List.mem_map_of_mem (f := fun entry => entry.2.serial) hentry)

/-- Only the remaking and the undoing of mappings and the release of a record
are checked. -/
def Event.IsIo : Event → Bool
  | .ioMapped _ _ _ | .ioUnmapped _ _ _ | .released _ => true
  | _ => false

theorem ioEvent_of_not_isIo {event : Event} (hevent : event.IsIo = false)
    (mappings : List IoMapping) : ioEvent event mappings = some mappings := by
  cases event with
  | ioMapped owner address size => cases hevent
  | ioUnmapped owner address size => cases hevent
  | released owner => cases hevent
  | _ => rfl

theorem Event.mappedOwner_of_not_isIo {event : Event}
    (hevent : event.IsIo = false) : event.mappedOwner = none := by
  cases event with
  | ioMapped owner address size => cases hevent
  | _ => rfl

namespace IoInvariant

variable {addBuf : Nat → Bool} {pending rest : List VirglResource}
variable {before after driver : Driver}

private theorem of_append (new : List Event) (h : IoInvariant [] before)
    (htracked : Tracked [] after)
    (hnotable : after.notable = new ++ before.notable)
    (hnew : ∀ event ∈ new, event.IsIo = false)
    (hlive : (after.live.filterMap fun entry =>
        heldMapping before.notable entry.2).Perm
      (before.live.filterMap fun entry =>
        heldMapping before.notable entry.2)) : IoInvariant [] after where
  tracked := htracked
  blobs := by simp [Driver.BlobsMapped]
  mappings := by
    obtain ⟨mappings, hmappings, hperm⟩ := h.mappings
    refine ⟨mappings, ?_, hperm.trans ?_⟩
    · unfold Driver.ioMappings
      rw [hnotable, replay_append_of_fixed fun event hevent =>
        ioEvent_of_not_isIo (hnew event hevent)]
      exact hmappings
    · have hheld : ∀ resource : VirglResource,
          heldMapping (new ++ before.notable) resource =
            heldMapping before.notable resource := by
        intro resource
        refine heldMapping_append new fun event hevent => ?_
        rw [Event.mappedOwner_of_not_isIo (hnew event hevent)]
        exact nofun
      unfold Driver.heldMappings
      simp only [hnotable, hheld, List.filterMap_nil, List.nil_append]
      exact hlive.symm

variable (addBuf) in
theorem delete {resource : VirglResource}
    (h : IoInvariant (resource :: rest) driver) (contextId : UInt32) :
    IoInvariant rest (deleteAndRelease addBuf contextId driver resource) := by
  have hnotable := deleteAndRelease_notable addBuf driver contextId resource
  have hcontexts := (deleteAndRelease_frame addBuf contextId resource
    driver).1
  have hserials := List.nodup_cons.mp h.tracked.nodup
  obtain ⟨mappings, hmappings, hperm⟩ := h.mappings
  have hfresh : ∀ mapping ∈ driver.heldMappings rest,
      mapping.owner ≠ resource.serial := by
    intro mapping hmapping howner
    refine hserials.1 ?_
    rw [← howner]
    exact owner_of_mem_heldMappings hmapping
  have hheld : (deleteAndRelease addBuf contextId driver
      resource).heldMappings rest = driver.heldMappings rest := by
    have hsame : ∀ other : VirglResource,
        heldMapping (deleteAndRelease addBuf contextId driver
          resource).notable other = heldMapping driver.notable other := by
      intro other
      have hnone : ∀ event ∈ Event.released resource.serial ::
          deletionEvents resource driver.pushCount,
          event.mappedOwner ≠ some other.serial := by
        intro event hevent
        unfold deletionEvents at hevent
        rcases List.mem_cons.mp hevent with rfl | hevent
        · exact nofun
        · split at hevent
          · split at hevent
            · rw [List.mem_singleton.mp hevent]
              exact nofun
            · rw [List.mem_singleton.mp hevent]
              exact nofun
          · cases hevent
      rw [hnotable]
      exact heldMapping_append _ hnone
    unfold Driver.heldMappings Driver.live
    simp only [hsame, hcontexts]
  -- the mappings in force after the unmapping
  have hunmapped : ∃ left,
      replay ioEvent [] (deletionEvents resource driver.pushCount ++
        driver.notable) = some left ∧
      left.Perm (driver.heldMappings rest) := by
    cases hblob : resource.IsBlob with
    | true =>
        obtain ⟨hbuffer, hforBlob⟩ := Bool.and_eq_true_iff.mp hblob
        have hmapped := h.blobs resource List.mem_cons_self hblob
        have hhead : driver.heldMappings (resource :: rest) =
            resource.ioMapping :: driver.heldMappings rest := by
          simp [Driver.heldMappings, heldMapping, hblob, hmapped]
        rw [hhead] at hperm
        refine ⟨mappings.erase resource.ioMapping, ?_, ?_⟩
        · have hmem : resource.ioMapping ∈ mappings :=
            hperm.mem_iff.mpr List.mem_cons_self
          unfold deletionEvents
          rw [if_pos hbuffer, if_pos hforBlob]
          refine replay_cons_of_some hmappings ?_
          exact if_pos hmem
        · have herase := hperm.erase resource.ioMapping
          rwa [List.erase_cons_head] at herase
    | false =>
        have hhead : driver.heldMappings (resource :: rest) =
            driver.heldMappings rest := by
          simp [Driver.heldMappings, heldMapping, hblob]
        rw [hhead] at hperm
        refine ⟨mappings, ?_, hperm⟩
        rw [replay_append_of_fixed]
        · exact hmappings
        · intro event hevent
          refine ioEvent_of_not_isIo ?_
          unfold deletionEvents at hevent
          split at hevent
          · rename_i hbuffer
            split at hevent
            · rename_i hforBlob
              simp [VirglResource.IsBlob, hbuffer, hforBlob] at hblob
            · rw [List.mem_singleton.mp hevent]
              rfl
          · cases hevent
  obtain ⟨left, hreplay, hleft⟩ := hunmapped
  refine ⟨h.tracked.delete addBuf contextId, ?_, left, ?_, ?_⟩
  · intro other hother hblob
    have hmapped := h.blobs other (List.mem_cons_of_mem _ hother) hblob
    obtain ⟨event, hevent, hmaps⟩ := hmapped
    rw [hnotable]
    exact ⟨event, List.mem_cons_of_mem _ (List.mem_append_right _ hevent),
      hmaps⟩
  · unfold Driver.ioMappings
    rw [hnotable]
    refine replay_cons_of_some hreplay ?_
    exact if_pos fun mapping hmapping =>
      hfresh mapping (hleft.mem_iff.mp hmapping)
  · rw [hheld]
    exact hleft

private theorem heldMapping_of_remarked {events : List Event}
    {old new : UInt32 × VirglResource} (h : Remarked old new) :
    heldMapping events new.2 = heldMapping events old.2 := by
  obtain ⟨_, _, rfl, _⟩ := h
  rfl

private theorem heldMapping_of_signaled {buffer : VgpuBuffer}
    {events : List Event} {old new : UInt32 × VirglResource}
    (h : Signaled buffer old new) :
    heldMapping events new.2 = heldMapping events old.2 := by
  rcases h with rfl | ⟨_, rfl⟩
  · rfl
  · obtain ⟨_, _, hstate⟩ := VirglResource.updateState_eq false
      buffer.pBuf.hdr.fenceId old.2
    rw [hstate]
    rfl

private theorem of_created (new : List Event) {contextId : UInt32}
    {resource : VirglResource} (h : IoInvariant [] before)
    (htracked : Tracked [] after)
    (hnotable : after.notable = new ++ before.notable)
    (hnew : ∀ event ∈ new, event.IsIo = false)
    (hserial : resource.serial = before.pushCount)
    (hlive : after.live.Perm ((contextId, resource) :: before.live)) :
    IoInvariant [] after := by
  refine h.of_append new htracked hnotable hnew ?_
  have hfresh : ¬HasMapped resource.serial before.notable :=
    h.tracked.not_hasMapped (Nat.le_of_eq hserial.symm)
  have hnone : heldMapping before.notable resource = none :=
    if_neg fun hmapped => hfresh hmapped.2
  have hperm := hlive.filterMap fun entry =>
    heldMapping before.notable entry.2
  simpa only [List.filterMap_cons, hnone] using hperm

theorem memory {refused : Prop} {deletes : List VirglResource}
    (h : IoInvariant [] before)
    (hstep : MemoryStep addBuf refused deletes before after)
    (hdeletes : before.BlobsMapped deletes) : IoInvariant [] after := by
  have htracked := h.tracked.memory hstep
  have hremarked : List.Forall₂ Remarked before.live after.live →
      (after.live.filterMap fun entry =>
        heldMapping before.notable entry.2).Perm
      (before.live.filterMap fun entry =>
        heldMapping before.notable entry.2) := by
    intro hlive
    have hsame := filterMap_eq_of_forall₂
      (g := fun entry : UInt32 × VirglResource =>
        heldMapping before.notable entry.2) heldMapping_of_remarked hlive
    rw [hsame]
  have hgranted : ∀ {memory : MemoryDescriptor} {owner size : Nat},
      ∀ event ∈ [Event.granted owner memory size],
        event.IsIo = false := by
    intro memory owner size event hevent
    rw [List.mem_singleton.mp hevent]
    rfl
  cases hstep with
  | quiet hlive hnotable hmemory hpushes =>
      refine h.of_append [] htracked (by rw [hnotable]; rfl)
        (by simp) ?_
      rw [hlive]
  | bare contextId resource hlive hserial hbuffer hblob hnotable hmemory
      hpushes hcount =>
      exact h.of_created [] htracked (by rw [hnotable]; rfl)
        (by simp) hserial hlive
  | backed contextId resource hlive hserial hbuffer hblob hpages hnotable
      halloc hpushes hcount =>
      refine h.of_created [_, _] htracked hnotable ?_ hserial hlive
      intro event hevent
      rcases List.mem_cons.mp hevent with rfl | hevent
      · rfl
      · exact hgranted event hevent
  | blobCreated contextId resource hlive hserial hbuffer hblob hbusy hnotable
      hmemory hpushes hcount =>
      exact h.of_created [] htracked (by rw [hnotable]; rfl)
        (by simp) hserial hlive
  | deleted contextId gone middle hgone hunlinks hafter =>
      obtain ⟨contexts, hframe⟩ := hunlinks.frame
      have hnotable : middle.notable = before.notable := by
        rw [hframe]
        rfl
      have hmiddle : IoInvariant gone middle := by
        obtain ⟨mappings, hmappings, hperm⟩ := h.mappings
        refine ⟨h.tracked.unlink hunlinks, ?_, mappings, ?_, ?_⟩
        · intro resource hresource hblob
          rw [hnotable]
          exact hdeletes resource (hgone resource hresource) hblob
        · unfold Driver.ioMappings
          rw [hnotable]
          exact hmappings
        · refine hperm.trans ?_
          unfold Driver.heldMappings
          rw [hnotable]
          have hlive := hunlinks.live.filterMap fun entry =>
            heldMapping before.notable entry.2
          rwa [List.filterMap_append, List.filterMap_map] at hlive
      have hdeleted := foldl_deleteAndRelease_invariant addBuf
        (fun resource rest driver hpending =>
          delete addBuf hpending contextId) hmiddle
      rcases hafter with rfl | rfl
      · exact hdeleted
      · refine hdeleted.of_append [] htracked ?_ (by simp)
          (List.Perm.refl _)
        unfold destroyVirglContext
        rw [sendCommand_notable]
        rfl
  | shared contextId resource share front back hbefore hlive hbuffer hidle
      hnotable hmemory hqueues hcount =>
      refine h.of_append [_] htracked hnotable ?_ ?_
      · intro event hevent
        rw [List.mem_singleton.mp hevent]
        rfl
      · have hsame : heldMapping before.notable
            { resource with
              buffer := { resource.buffer with share := share } } =
            heldMapping before.notable resource := rfl
        rw [hbefore, hlive]
        simp only [List.filterMap_append, List.filterMap_cons, hsame]
        exact List.Perm.refl _
  | transferred hlive hnotable hmemory hpushes =>
      exact h.of_append [] htracked (by rw [hnotable]; rfl)
        (by simp) (hremarked hlive)
  | submitted buffer memory hlive hnotable hpages halloc hsubmit haddress
      hserial hextends =>
      exact h.of_append [_] htracked hnotable hgranted
        (hremarked hlive)
  | leaked hrefused memory size hlive hnotable hpages halloc hqueues
      hcount =>
      exact h.of_append [_] htracked hnotable hgranted
        (hremarked hlive)

/-- The blob that is mapped had no mapping. -/
private theorem completion {buffer : VgpuBuffer} {info : MapInfo}
    {mapAddress : Option Nat} (h : IoInvariant [] before)
    (hstep : CompletionStep buffer info mapAddress before after)
    (hcount : after.pushCount = before.pushCount)
    (htargets : mapAddress ≠ none → ∀ target ∈ before.mapTarget buffer,
      target.IsBlob = true ∧ ¬HasMapped target.serial before.notable) :
    IoInvariant [] after := by
  have htracked := h.tracked.completion hstep hcount
  cases hstep with
  | updated hlive hnotable =>
      have hsame := filterMap_eq_of_forall₂
        (g := fun entry : UInt32 × VirglResource =>
          heldMapping before.notable entry.2) heldMapping_of_signaled hlive
      refine h.of_append [] htracked (by rw [hnotable]; rfl)
        (by simp) ?_
      rw [hsame]
  | mapped resource address front back htarget haddress hbefore hlive
      hnotable =>
      obtain ⟨hblob, hunmapped⟩ :=
        htargets (by simp [haddress]) resource htarget
      have hserials := h.tracked.nodup
      unfold Driver.serials at hserials
      rw [hbefore] at hserials
      simp only [List.map_nil, List.nil_append, List.map_append,
        List.map_cons, List.nodup_middle, List.nodup_cons] at hserials
      have hothers : ∀ entries : List (UInt32 × VirglResource),
          (∀ entry ∈ entries, entry ∈ front ++ back) →
          entries.filterMap (fun entry => heldMapping
            (.ioMapped resource.serial address info.size ::
              before.notable) entry.2) =
          entries.filterMap fun entry =>
            heldMapping before.notable entry.2 := by
        intro entries hentries
        refine List.filterMap_congr fun entry hentry => ?_
        refine heldMapping_append [_] fun event hevent howner => ?_
        rw [List.mem_singleton.mp hevent] at howner
        refine hserials.1 ?_
        rw [← List.map_append, Option.some.inj howner]
        exact List.mem_map_of_mem (hentries entry hentry)
      have hnone : heldMapping before.notable resource = none :=
        if_neg fun hmapped => hunmapped hmapped.2
      have hnow : heldMapping (.ioMapped resource.serial address info.size ::
          before.notable) (resource.mapAt info.size address) =
            some ⟨resource.serial, address, info.size⟩ :=
        if_pos ⟨hblob, _, List.mem_cons_self, address, info.size, rfl⟩
      obtain ⟨mappings, hmappings, hperm⟩ := h.mappings
      refine ⟨htracked, by simp [Driver.BlobsMapped],
        ⟨resource.serial, address, info.size⟩ :: mappings, ?_, ?_⟩
      · unfold Driver.ioMappings
        rw [hnotable]
        exact replay_cons_of_some hmappings rfl
      · have hheld : before.heldMappings [] =
            front.filterMap (fun entry =>
              heldMapping before.notable entry.2) ++
            back.filterMap fun entry =>
              heldMapping before.notable entry.2 := by
          unfold Driver.heldMappings
          rw [hbefore]
          simp [hnone]
        have hheld' : after.heldMappings [] =
            front.filterMap (fun entry =>
              heldMapping before.notable entry.2) ++
            ⟨resource.serial, address, info.size⟩ ::
            back.filterMap fun entry =>
              heldMapping before.notable entry.2 := by
          unfold Driver.heldMappings
          rw [hnotable, hlive]
          simp only [List.filterMap_nil, List.nil_append,
            List.filterMap_append, List.filterMap_cons, hnow]
          rw [hothers front (by simp +contextual),
            hothers back (by simp +contextual)]
        rw [hheld']
        rw [hheld] at hperm
        exact (hperm.cons _).trans List.perm_middle.symm

theorem step {world : World} {action : Action}
    (h : IoInvariant [] world.driver) (hguard : world.DeletesMapped action) :
    IoInvariant [] (World.step addBuf world action).driver := by
  cases action with
  | request processId request =>
      exact h.memory (virtioVgpuIoControl_memory processId world.driver
        request) hguard
  | processExit processId =>
      exact h.memory (processNotify_memory addBuf processId
        world.driver) hguard
  | host queue slot info =>
      have htracked := h.tracked.step addBuf
        (.host queue slot info)
      simp only [World.step] at htracked ⊢
      split
      · exact h
      · rename_i buffer hslot
        rw [hslot] at htracked
        refine h.of_append [] htracked ?_ (by simp)
          (List.Perm.refl _)
        rw [returnBuffer_notable]
        rfl
  | dpc queue mapAddress =>
      simp only [World.step]
      rcases readOneFromQueue_step queue mapAddress world.driver with
        hsame | ⟨buffer, info, rest, hused, hstep, hcompletes⟩
      · rw [hsame]
        exact h
      · exact h.completion hstep hcompletes.pushCount
          (hguard (buffer, info) (by rw [hused]; rfl))

end IoInvariant

theorem io_balanced (addBuf : Nat → Bool)
    (virtualAddress physicalAddress memorySize : Nat) (capsets : Capsets)
    (actions : List Action)
    (hdeletes : Along (World.step addBuf) World.DeletesMapped
      (World.start virtualAddress physicalAddress memorySize capsets)
      actions) :
    (runFrom (World.step addBuf)
      (World.start virtualAddress physicalAddress memorySize capsets)
      actions).driver.IoBalanced := by
  have hstep : ∀ world action, IoInvariant [] world.driver →
      world.DeletesMapped action →
      IoInvariant [] (World.step addBuf world action).driver :=
    fun world action h hguard => h.step hguard
  have hstart : IoInvariant [] (World.start virtualAddress physicalAddress
      memorySize capsets).driver :=
    { tracked := start_tracked virtualAddress physicalAddress memorySize
        capsets
      blobs := by simp [Driver.BlobsMapped]
      mappings := ⟨[], rfl, List.Perm.refl _⟩ }
  have hinvariant := Along.invariant hstep hdeletes hstart
  obtain ⟨mappings, hmappings, _⟩ := hinvariant.mappings
  intro hnone
  rw [hmappings] at hnone
  cases hnone

/-- Two blobs are mapped; one is closed, the other goes with its context. -/
def mappedBlobs : List Action :=
  [.request 7 .initContext,
   .request 7 (.createBlobIn (.pool IoRequest.poolRecord)),
   .request 7 (.createBlobIn (.pool IoRequest.poolRecord)),
   .host .command 1 { gpa := 0x70000, size := 0x1000 },
   .host .command 2 { gpa := 0x80000, size := 0x2000 },
   .dpc .command (some 0x9000), .dpc .command (some 0xa000),
   .request 7 (.close 1), .processExit 7]

theorem io_balanced_mappedBlobs :
    (runFrom (World.step fun _ => true) World.eightPages
      mappedBlobs).driver.IoBalanced :=
  io_balanced _ _ _ _ _ _ (by decide +kernel)

/-- The blob gets the record of a closed resource and is closed before the
host has answered. -/
def closedBeforeReply : List Action :=
  [.request 7 .initContext, .request 7 (.create 0x1000),
   .request 7 (.close 1), .request 7 (.createBlobIn .recycled),
   .request 7 (.close 2)]

theorem not_ioBalanced_closedBeforeReply :
    ¬(runFrom (World.step fun _ => true) World.eightPages
      closedBeforeReply).driver.IoBalanced := by
  decide +kernel

end VgpuDriver
