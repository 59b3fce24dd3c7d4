import VgpuDriver.HeldPages
import VgpuDriver.IdWrap

namespace VgpuDriver

open Data

/-! The pages of the vgpu memory are owned by the live resources and by the
submissions in flight. -/

/-- The set bits are the disjoint union of the pages that are owned, and all
of them are free when there is no context and nothing is in flight. -/
def Driver.PagesOwned (virtualAddress memorySize : Nat) (driver : Driver) :
    Prop :=
  Owns driver.vgpuMemory (driver.ownedPages []) ∧
    driver.vgpuMemory.virtualAddress = virtualAddress ∧
    (driver.virglContextList = [] → (∀ queue, driver.inFlight queue = []) →
      (∀ position, driver.vgpuMemory.regionBitmap.bit position = false) ∧
        driver.vgpuMemory.availableMemorySize = memorySize)

/-- The request finds its handle array, and the pool gives the copy of it. -/
def World.PagesKept (world : World) : Action → Prop
  | .request _ request => request.HandlesGranted
  | .dpc queue mapAddress => world.driver.MapsNoPages queue mapAddress
  | _ => True

instance (world : World) :
    (action : Action) → Decidable (world.PagesKept action)
  | .request _ request => inferInstanceAs (Decidable request.HandlesGranted)
  | .processExit _ => inferInstanceAs (Decidable True)
  | .host _ _ _ => inferInstanceAs (Decidable True)
  | .dpc queue mapAddress => inferInstanceAs
      (Decidable (world.driver.MapsNoPages queue mapAddress))

structure PageInvariant (virtualAddress pageCount : Nat)
    (pending : List VirglResource) (driver : Driver) : Prop where
  owns : Owns driver.vgpuMemory (driver.ownedPages pending)
  base : driver.vgpuMemory.virtualAddress = virtualAddress
  count : driver.vgpuMemory.regionBitmap.size = pageCount

namespace PageInvariant

variable {addBuf : Nat → Bool} {virtualAddress pageCount : Nat}
variable {pending : List VirglResource} {before after driver : Driver}

theorem iff_held :
    PageInvariant virtualAddress pageCount pending driver ↔
      PagesHeld [] virtualAddress pageCount pending driver :=
  ⟨fun h => ⟨h.owns, h.base, h.count⟩, fun h => ⟨h.owns, h.base, h.count⟩⟩

theorem keep
    (h : PageInvariant virtualAddress pageCount [] before)
    (hmemory : after.vgpuMemory = before.vgpuMemory)
    (hlive : (after.live.filterMap fun entry => entry.2.pages).Perm
      (before.live.filterMap fun entry => entry.2.pages))
    (hsubmits : after.submitPages = before.submitPages) :
    PageInvariant virtualAddress pageCount [] after :=
  iff_held.mpr ((iff_held.mp h).keep hmemory hlive hsubmits)

theorem step {world : World} {action : Action}
    (h : PageInvariant virtualAddress pageCount [] world.driver)
    (hpush : ∀ serial, addBuf serial = true)
    (hkept : world.PagesKept action) :
    PageInvariant virtualAddress pageCount []
      (World.step addBuf world action).driver := by
  have hmaps : world.MapsNoPages action := by
    cases action with
    | dpc queue mapAddress => exact hkept
    | _ => trivial
  obtain ⟨more, hheld, hnone⟩ := (iff_held.mp h).step hmaps
  have hunleaked : more = [] := by
    apply hnone hpush
    rintro processId request rfl
    exact hkept
  rw [hunleaked] at hheld
  exact iff_held.mpr hheld

theorem pagesOwned {memorySize : Nat}
    (h : PageInvariant virtualAddress (memorySize / pageSize) [] driver)
    (hsize : memorySize % pageSize = 0) :
    driver.PagesOwned virtualAddress memorySize := by
  refine ⟨h.owns, h.base, fun hcontexts hflight => ?_⟩
  have hnone : driver.ownedPages [] = [] := by
    unfold Driver.ownedPages Driver.submitPages Driver.live
    rw [hcontexts, hflight, hflight]
    rfl
  have howns := h.owns
  rw [hnone] at howns
  constructor
  · intro position
    have hiff := howns.pages.bit_iff position
    cases hbit : driver.vgpuMemory.regionBitmap.bit position with
    | false => rfl
    | true =>
        obtain ⟨interval, hinterval, _⟩ := hiff.mp hbit
        cases hinterval
  · have hbalance := howns.balance
    rw [h.count] at hbalance
    have hwhole := Nat.div_mul_cancel (Nat.dvd_of_mod_eq_zero hsize)
    simpa [hwhole] using hbalance

end PageInvariant

theorem start_pageInvariant (virtualAddress physicalAddress : Nat)
    {memorySize : Nat} (hsize : memorySize % pageSize = 0)
    (hlimit : memorySize ≤ 2 ^ 40) (capsets : Capsets) :
    PageInvariant virtualAddress (memorySize / pageSize) []
      (World.start virtualAddress physicalAddress memorySize
        capsets).driver where
  owns := Owns.initial hsize hlimit VgpuMemory.zeroed
  base := rfl
  count := by
    have hcount : toUlong (memorySize / pageSize) =
        memorySize / pageSize := by
      unfold toUlong pageSize
      omega
    simp [World.start, initializeVgpuMemory, Bitmap.cleared, hcount]

/-- The pages are owned in every state of a run whose requests get their
handle arrays and whose replies are not mapped into plain resources. -/
theorem pages_owned (addBuf : Nat → Bool)
    (virtualAddress physicalAddress memorySize : Nat) (capsets : Capsets)
    (actions : List Action) (hpush : ∀ serial, addBuf serial = true)
    (hsize : memorySize % pageSize = 0) (hlimit : memorySize ≤ 2 ^ 40)
    (hkept : Along (World.step addBuf) World.PagesKept
      (World.start virtualAddress physicalAddress memorySize capsets)
      actions) :
    (runFrom (World.step addBuf)
      (World.start virtualAddress physicalAddress memorySize capsets)
      actions).driver.PagesOwned virtualAddress memorySize := by
  have hstep : ∀ world action,
      PageInvariant virtualAddress (memorySize / pageSize) []
        world.driver →
      world.PagesKept action →
      PageInvariant virtualAddress (memorySize / pageSize) []
        (World.step addBuf world action).driver :=
    fun world action h hguard => h.step hpush hguard
  have hinvariant := hkept.invariant hstep
    (start_pageInvariant virtualAddress physicalAddress hsize hlimit capsets)
  exact hinvariant.pagesOwned hsize

/-- A context is destroyed while its submission is in flight. -/
def outlivedRun : List Action :=
  List.append
    [.request 7 .initContext, .request 7 (.create 0x1800),
     .request 7 (.submit [1] none), .request 7 (.create 0x9000),
     .request 7 .destroyContext]
    (Action.serve 6)

theorem pages_owned_outlivedRun :
    (runFrom (World.step fun _ => true)
      World.eightPages outlivedRun).driver.PagesOwned 0x10000
            0x8000 :=
  pages_owned (fun _ => true) 0x10000 0x80000 0x8000 _ outlivedRun
    (fun _ => rfl) (by decide) (by decide) (by decide +kernel)

/-- The host withholds the reply for a blob while the ids start again; the
reply is mapped into the resource that gets the id of the blob. -/
def repeatedIdRun : List Action :=
  .request 7 .initContext ::
    .request 7 (.createBlobIn (.pool IoRequest.poolRecord)) ::
      (churn 1 (2 ^ 32 - 1) ++
        [.request 7 (.create 0x1000),
         .host .command 1 { gpa := 0x40000, size := 0x1000 },
         .dpc .command (some 0x9000)])

section RepeatedId

variable {memory next : VgpuMemory} {resources : List VirglResource}
variable {first : List VgpuBuffer} {count : Nat} {driver : Driver}
variable {world : World}

private theorem Churned.createBacked {backing : MemoryDescriptor}
    (h : Churned memory resources first count driver)
    (hleft : 2 + count < 2 ^ 64)
    (halloc : allocateVgpuMemory 0x1000 memory = some (backing, next)) :
    Churned next
      (giveBacking 0x1000 backing
        (nameResource { param := IoRequest.resourceParam, size := 0x1000 }
          driver IoRequest.poolRecord) :: resources) first (count + 1)
      (virtioVgpuIoControl (fun _ => true) 7 driver (.create 0x1000)).2 := by
  obtain ⟨rest, havail⟩ := h.avail
  have hsize : resourceBufferSize 0x1000 = 0x1000 := by decide
  have hcreated : (virtioVgpuIoControl (fun _ => true) 7 driver
      (.create 0x1000)).2 =
      (attachResourceBacking (fun _ => true) 7
        (giveBacking 0x1000 backing
          (nameResource { param := IoRequest.resourceParam, size := 0x1000 }
            driver IoRequest.poolRecord))
        (grantBacking 7
          (giveBacking 0x1000 backing
            (nameResource
              { param := IoRequest.resourceParam, size := 0x1000 } driver
              IoRequest.poolRecord)) next
          (create3dResource (fun _ => true) 7 (nextResourceId driver)
            IoRequest.resourceParam 0
            (takeRecord
              { driver.virglResourceLookAsideList with
                taken := driver.virglResourceLookAsideList.taken + 1 }
              driver)))).insertResource 7
        (giveBacking 0x1000 backing
          (nameResource { param := IoRequest.resourceParam, size := 0x1000 }
            driver IoRequest.poolRecord)) := by
    simp [virtioVgpuIoControl, ctlCreateResource, IoRequest.create,
      Fetch.andThen, getVirglContextFromListUnsafe, h.contexts,
      createResource, exAllocateFromLookasideListEx, nameResource, hsize,
      h.memory, halloc]
  rw [hcreated]
  refine ⟨?_, ?_, ?_, ?_, ?_, ?_⟩
  · simp [Driver.insertResource, Driver.modifyContext, h.contexts,
      modifyFirst]
  · have hids := h.ids
    simp only [create3dResource, attachResourceBacking,
      insertResource_frame, sendCommand_frame, grantBacking_frame,
      takeRecord_frame, getIdFromIdrWithoutCache, hids]
    omega
  · simp [getIdFromIdrWithoutCache, h.drawn]
  · simp
  · simp [Driver.insertResource, Driver.modifyContext, create3dResource,
      sendCommand, pushQueue, allocateCommandBuffer, Driver.log, takeRecord,
      grantBacking, havail]
  · simp [Driver.insertResource, Driver.modifyContext, create3dResource,
      sendCommand, pushQueue, allocateCommandBuffer, Driver.log, takeRecord,
      grantBacking, h.used]

private theorem Churned.mapSecond {resource : VirglResource}
    {oldest second : VgpuBuffer} {info : MapInfo} {address : Nat}
    (h : Churned memory (resource :: resources) [oldest, second] count
      world.driver)
    (hctxId : second.pBuf.hdr.ctxId = 7)
    (hmapped : second.mappedId = some resource.id) :
    (runFrom (World.step fun _ => true) world
      [.host .command 1 info,
        .dpc .command (some address)]).driver.virglContextList =
      [{ id := 7
         resourceList := resource.mapAt info.size address :: resources }] := by
  obtain ⟨rest, havail⟩ := h.avail
  have hslot : (world.driver.virtQueues .command).avail[1]? =
      some second := by simp [havail]
  have hhost : (World.step (fun _ => true) world
      (.host .command 1 info)).driver =
        world.driver.returnBuffer .command 1 second info := by
    simp only [World.step, hslot]
  have hused : ((world.driver.returnBuffer .command 1 second
      info).virtQueues .command).used = [(second, info)] := by
    simp [Driver.returnBuffer, h.used]
  have hcompletion : second.completion info (some address) =
      fun context => context.modifyResource resource.id
        (VirglResource.mapAt info.size address) := by
    simp [VgpuBuffer.completion, hmapped]
  change (readOneFromQueue .command (some address)
    (World.step (fun _ => true) world
      (.host .command 1 info)).driver).virglContextList = _
  rw [hhost]
  simp only [readOneFromQueue, hused, completeBuffer_contexts, hctxId,
    hcompletion]
  simp [Driver.modifyContext, takeUsed, Driver.returnBuffer, h.contexts,
    modifyFirst, VirglContext.modifyResource]

private theorem Churned.mapPlain {backing : MemoryDescriptor}
    {oldest second : VgpuBuffer} (info : MapInfo) (address : Nat)
    (h : Churned memory resources [oldest, second] count world.driver)
    (hleft : 2 + count < 2 ^ 64)
    (halloc : allocateVgpuMemory 0x1000 memory = some (backing, next))
    (hctxId : second.pBuf.hdr.ctxId = 7)
    (hmapped : second.mappedId = some (UInt32.ofNat (1 + count))) :
    ∃ resource,
      resource.pages = some ⟨address, info.size⟩ ∧
        (runFrom (World.step fun _ => true) world
          [.request 7 (.create 0x1000), .host .command 1 info,
            .dpc .command (some address)]).driver.virglContextList =
          [{ id := 7, resourceList := resource :: resources }] := by
  have hbacked : Churned next _ [oldest, second] (count + 1)
      (World.step (fun _ => true) world
        (.request 7 (.create 0x1000))).driver :=
    h.createBacked hleft halloc
  have hname : second.mappedId = some (giveBacking 0x1000 backing
      (nameResource { param := IoRequest.resourceParam, size := 0x1000 }
        world.driver IoRequest.poolRecord)).id :=
    hmapped.trans (congrArg some h.nextResourceId_eq.symm)
  exact ⟨_, rfl, hbacked.mapSecond hctxId hname⟩

private theorem not_pagesOwned_of_below {resource : VirglResource}
    {address size memorySize : Nat} (hbelow : address < 0x10000)
    (hpages : resource.pages = some ⟨address, size⟩)
    (hcontexts : driver.virglContextList =
      [{ id := 7, resourceList := resource :: resources }]) :
    ¬driver.PagesOwned 0x10000 memorySize := by
  rintro ⟨howns, hbase, _⟩
  have hmem : ⟨address, size⟩ ∈ driver.ownedPages [] := by
    simp [Driver.ownedPages, Driver.live, hcontexts, liveIn, hpages]
  obtain ⟨index, _, haddress, _⟩ := howns.placed _ hmem
  rw [hbase] at haddress
  simp only at haddress
  omega

private theorem repeatedIdRun_start :
    ∃ blob oldest second,
      Churned World.eightPages.driver.vgpuMemory [blob]
        [oldest, second] 1
        (World.step (fun _ => true)
          (World.step (fun _ => true) World.eightPages
            (.request 7 .initContext))
          (.request 7
            (.createBlobIn (.pool IoRequest.poolRecord)))).driver ∧
        second.pBuf.hdr.ctxId = 7 ∧ second.mappedId = some 1 ∧
        ∃ next, allocateVgpuMemory 0x1000 World.eightPages.driver.vgpuMemory =
          some (⟨0x10000, 0x80000⟩, next) :=
  ⟨_, _, _, ⟨rfl, rfl, rfl, rfl, ⟨[], rfl⟩, rfl⟩, rfl, rfl, _, rfl⟩

/-- The pages of the resource that was mapped over are lost. -/
theorem not_pagesOwned_repeatedIdRun :
    (∀ action ∈ repeatedIdRun, ∀ processId request,
        action = .request processId request → request.HandlesGranted) ∧
      ¬(runFrom (World.step fun _ => true)
        World.eightPages repeatedIdRun).driver.PagesOwned 0x10000
              0x8000 := by
  constructor
  · rintro action haction processId request rfl
    simp only [repeatedIdRun, List.mem_cons, List.mem_append,
      List.not_mem_nil, or_false, Action.request.injEq, reduceCtorEq] at haction
    rcases haction with ⟨_, rfl⟩ | ⟨_, rfl⟩ | hchurn | ⟨_, rfl⟩
    · trivial
    · trivial
    · rcases mem_churn hchurn with ⟨size, heq⟩ | ⟨handle, heq⟩
      · cases heq
        trivial
      · cases heq
        trivial
    · trivial
  · obtain ⟨blob, oldest, second, hstart, hctxId, hmapped, next, halloc⟩ :=
      repeatedIdRun_start
    have hchurned := hstart.churn (2 ^ 32 - 1) (by norm_num)
    have hcount : 2 + (1 + (2 ^ 32 - 1)) < 2 ^ 64 := by norm_num
    have hone : some 1 = some (UInt32.ofNat (1 + (1 + (2 ^ 32 - 1)))) := by
      decide
    obtain ⟨resource, hpages, hcontexts⟩ := hchurned.mapPlain
      ⟨0x40000, 0x1000⟩ 0x9000 hcount halloc hctxId
      (hmapped.trans hone)
    rw [← runFrom_append, ← runFrom_cons, ← runFrom_cons] at hcontexts
    unfold repeatedIdRun
    exact not_pagesOwned_of_below (by norm_num) hpages hcontexts

end RepeatedId

end VgpuDriver
