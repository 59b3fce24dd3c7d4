import VgpuDriver.Creation
import VgpuDriver.PageRounding
import VgpuDriver.Submission
import VgpuDriver.UserMappings

namespace VgpuDriver

open Data

/-! The rounded sizes in the four places where the driver uses them: the backing
of a resource, the pages of a submission, the size of a blob and the MDL of a
user mapping. -/

def Event.copy : Event → Option (Nat × Nat)
  | .copied address size => some (address, size)
  | _ => none

/-- The address and the length of what was copied into the vgpu memory, the
newest first. -/
def Driver.copies (driver : Driver) : List (Nat × Nat) :=
  driver.history.filterMap Event.copy

/-- What `CtlMap` maps behind its wait is the whole buffer. -/
def SharesWhole (buffer : VgpuMemoryBuffer) : Prop :=
  ∀ (contextId : UInt32) (resource : VirglResource) (request : MapRequest)
    (driver : Driver), resource.buffer = buffer →
    ∃ new,
      (mapResource contextId resource request driver).2.userMapped =
          new ++ driver.userMapped ∧
        (∀ mapping ∈ new,
          mapping.mdl.address = buffer.memory.virtualAddress ∧
            mapping.mdl.byteCount = buffer.size) ∧
        ∀ output, (mapResource contextId resource request driver).1 =
          .complete .success output → new ≠ []

theorem mapResource_userMapped (contextId : UInt32)
    (resource : VirglResource) (request : MapRequest) (driver : Driver) :
    ∃ new,
      (mapResource contextId resource request driver).2.userMapped =
          new ++ driver.userMapped ∧
        (∀ mapping ∈ new,
          mapping.mdl.address = resource.buffer.memory.virtualAddress ∧
            mapping.mdl.byteCount = toUlong resource.buffer.size) ∧
        ∀ output, (mapResource contextId resource request driver).1 =
          .complete .success output → new ≠ [] := by
  unfold mapResource
  dsimp only
  cases hmapped : (createUserShareMemory request.mdl request.userAddress
      { resource.buffer.share with
        kernelAddress := resource.buffer.memory.virtualAddress
        size := resource.buffer.size }).1 with
  | true =>
      obtain ⟨mdl, address, hshare, haddress, hstart, hlength⟩ :=
        createUserShareMemory_mapped hmapped
      simp only [if_true, haddress, hshare]
      refine ⟨[⟨resource.serial, address, mdl⟩], rfl, ?_, ?_⟩
      · intro mapping hmapping
        rw [List.mem_singleton] at hmapping
        rw [hmapping]
        exact ⟨hstart, hlength⟩
      · exact fun _ _ => List.cons_ne_nil _ _
  | false =>
      refine ⟨[], rfl, ?_, ?_⟩
      · intro mapping hmapping
        cases hmapping
      · intro output hsuccess
        simp at hsuccess

theorem sharesWhole_of_lt {buffer : VgpuMemoryBuffer}
    (hsize : buffer.size < 2 ^ 32) : SharesWhole buffer := by
  intro contextId resource request driver hbuffer
  subst hbuffer
  obtain ⟨new, hnew, hmappings, hmade⟩ := mapResource_userMapped contextId
    resource request driver
  refine ⟨new, hnew, fun mapping hmapping => ?_, hmade⟩
  obtain ⟨haddress, hlength⟩ := hmappings mapping hmapping
  refine ⟨haddress, hlength.trans ?_⟩
  exact Nat.mod_eq_of_lt hsize

/-- The system routines of a mapping succeed. -/
private def plainMap : MapRequest where
  input := .rejected
  output := .rejected
  mdl := some 0
  userAddress := some (some 0)

theorem sharesWhole_iff {buffer : VgpuMemoryBuffer}
    (haddress : buffer.memory.virtualAddress ≠ 0) (hsize : buffer.size ≠ 0) :
    SharesWhole buffer ↔ buffer.size < 2 ^ 32 := by
  refine ⟨fun h => ?_, sharesWhole_of_lt⟩
  let resource := { IoRequest.poolRecord with buffer := buffer }
  obtain ⟨new, hnew, hwhole, hmade⟩ :=
    h 0 resource plainMap World.eightPages.driver rfl
  obtain ⟨other, hother, hlength, _⟩ :=
    mapResource_userMapped 0 resource plainMap World.eightPages.driver
  have hsame : new = other :=
    List.append_cancel_right (hnew.symm.trans hother)
  subst hsame
  have hsuccess : (mapResource 0 resource plainMap
      World.eightPages.driver).1 = .complete .success (some 0) := by
    simp [mapResource, createUserShareMemory, ioAllocateMdl, plainMap,
      resource, haddress, hsize]
  obtain ⟨mapping, hmapping⟩ :=
    List.exists_mem_of_ne_nil new (hmade _ hsuccess)
  have hcast : toUlong buffer.size = buffer.size :=
    (hlength mapping hmapping).2.symm.trans (hwhole mapping hmapping).2
  rw [← hcast]
  exact Nat.mod_lt _ (by decide)

variable (addBuf : Nat → Bool) (contextId : UInt32) (driver : Driver)

/-- The resource that a successful creation with a buffer inserts has a size
that was rounded up, the host is told this size, and a mapping shows all of
it. -/
def CreateRounds (request : ResourceCreateRequest) : Prop :=
  ∀ create, request.input = .ok create → create.size ≠ 1 → ∀ output,
    (ctlCreateResource addBuf contextId request driver).1 =
      .complete .success output →
    ∃ context resource new,
      getVirglContextFromListUnsafe
          (ctlCreateResource addBuf contextId request
            driver).2.virglContextList contextId = some context ∧
        context.resourceList.head? = some resource ∧
        RoundsUp create.size.toNat resource.buffer.size ∧
        SharesWhole resource.buffer ∧
        (ctlCreateResource addBuf contextId request driver).2.pushes =
          driver.pushes ++ new ∧
        (∀ push ∈ new, ∀ id address size,
          push.2.pBuf.body = .resourceAttachBacking id address size →
            size.toNat = resource.buffer.size) ∧
        (addBuf (driver.pushCount + 1) = true →
          ∃ push ∈ new, ∃ id address size,
            push.2.pBuf.body = .resourceAttachBacking id address size)

/-- A creation that gets to the allocation asks for a size that does not wrap
to 0, or the region has no page. -/
def CreateFits (request : ResourceCreateRequest) : Prop :=
  ∀ started, startCreate contextId request.input request.output
      request.record driver = some started →
    started.create.size ≠ 1 → 0 < driver.vgpuMemory.regionBitmap.size →
      started.create.size.toNat ≤ 0xfffff000

/-- The pages of the SUBMIT_3D have a size that was rounded up, and the bytes
that were copied into them, which are also the ones that the scatter entry
describes, lie in pages that were reserved for it. -/
structure SubmitCovered (cmd : DrmVirtgpuExecbuffer) (buffer : VgpuBuffer)
    (before after : Driver) : Prop where
  body : buffer.pBuf.body = .submit3d cmd.size
  rounds : RoundsUp cmd.size.toNat buffer.dataBufSize
  copied : after.copies = (buffer.pDataBuf, cmd.size.toNat) :: before.copies
  described : ∃ element, buffer.dataElement = some element ∧
    element.length = cmd.size.toNat ∧
    Covers before.vgpuMemory after.vgpuMemory
      { virtualAddress := buffer.pDataBuf
        physicalAddress := element.start } cmd.size.toNat

/-- A failing reference to the out-fence does not return success. -/
def OutFenceFails (cmd : DrmVirtgpuExecbuffer)
    (request : ExecbufferRequest) : Prop :=
  cmd.flags &&& execbufFenceFdOut ≠ 0 → request.outFence ≠ .error .success

/-- A successful submission pushes one command, whose pages hold it. -/
def SubmitRounds (request : ExecbufferRequest) : Prop :=
  ∀ cmd, request.input = .ok cmd → OutFenceFails cmd request →
    (ctlSubmitCommand addBuf contextId request driver).1 =
      .complete .success none →
    ∃ buffer,
      (ctlSubmitCommand addBuf contextId request driver).2.pushes =
          driver.pushes ++ [(.command, buffer)] ∧
        SubmitCovered cmd buffer driver
          (ctlSubmitCommand addBuf contextId request driver).2

/-- A submission that gets to its end has a size that is not 0 and does not
wrap to 0, or the region has no page. -/
def SubmitFits (request : ExecbufferRequest) : Prop :=
  ∀ prepared, prepareSubmit contextId request driver = .ok prepared →
    0 < driver.vgpuMemory.regionBitmap.size →
    (0 < prepared.cmd.numBoHandles →
      request.handlesBlock = true ∧ ∃ reads, request.handles = .ok reads) →
    addBuf driver.pushCount = true →
      0 < prepared.cmd.size.toNat ∧ prepared.cmd.size.toNat ≤ 0xfffff000

/-- A successful creation of a blob has rounded its size up, and this is the
size that the RESOURCE_CREATE_BLOB tells the host. -/
def BlobRounds (request : BlobResourceCreateRequest) : Prop :=
  ∀ create, request.input = .ok create → ∀ output,
    (ctlCreateBlobResource addBuf contextId request driver).1 =
      .complete .success output →
    RoundsUp create.size.toNat (blobParam create).size.toNat ∧
      ∃ new,
        (ctlCreateBlobResource addBuf contextId request driver).2.pushes =
            driver.pushes ++ new ∧
          (∀ push ∈ new, ∀ id param,
            push.2.pBuf.body = .resourceCreateBlob id param →
              param.size = (blobParam create).size) ∧
          (addBuf driver.pushCount = true →
            ∃ push ∈ new, ∃ id param,
              push.2.pBuf.body = .resourceCreateBlob id param)

/-- A blob that gets its record asks for a size that is not 0 and does not
wrap to 0. -/
def BlobFits (request : BlobResourceCreateRequest) : Prop :=
  ∀ started, startCreate contextId request.input request.output
      request.record driver = some started →
    0 < started.create.size.toNat ∧
      started.create.size.toNat ≤ 0xfffffffffffff000

/-- When the completion has mapped a blob, `CtlMap` shows all of it. -/
def MapsWhole (info : MapInfo) : Prop :=
  ∀ (driver : Driver) (buffer : VgpuBuffer) (id : UInt32) (address : Nat)
    (context : VirglContext) (resource : VirglResource),
    buffer.pBuf.body = .resourceMapBlob id →
    getVirglContextFromListUnsafe
        (completeBuffer buffer info (some address) driver).virglContextList
        buffer.pBuf.hdr.ctxId = some context →
    getResourceFromListUnsafe context id = some resource →
      SharesWhole resource.buffer

/-! The mapping of a blob. -/

theorem completeBuffer_size {info : MapInfo} {buffer : VgpuBuffer}
    {id : UInt32} {address : Nat} {driver : Driver} {context : VirglContext}
    {resource : VirglResource}
    (hbody : buffer.pBuf.body = .resourceMapBlob id)
    (hcontext : getVirglContextFromListUnsafe
      (completeBuffer buffer info (some address) driver).virglContextList
      buffer.pBuf.hdr.ctxId = some context)
    (hresource : getResourceFromListUnsafe context id = some resource) :
    resource.buffer.size = info.size := by
  have hcompletion : buffer.completion info (some address) = fun context =>
      context.modifyResource id (VirglResource.mapAt info.size address) := by
    simp [VgpuBuffer.completion, VgpuBuffer.mappedId, hbody]
  have hkeep : ∀ context : VirglContext,
      (context.modifyResource id
        (VirglResource.mapAt info.size address)).id = context.id :=
    fun _ => rfl
  have hkeepId : ∀ resource : VirglResource,
      (resource.mapAt info.size address).id = resource.id := fun _ => rfl
  rw [completeBuffer_contexts, hcompletion,
    lookup_modifyContext hkeep] at hcontext
  obtain ⟨old, _, rfl⟩ := Option.map_eq_some_iff.mp hcontext
  unfold getResourceFromListUnsafe VirglContext.modifyResource at hresource
  rw [find?_modifyFirst_key hkeepId, if_pos rfl] at hresource
  obtain ⟨blob, _, rfl⟩ := Option.map_eq_some_iff.mp hresource
  rfl

/-- A blob of the context 0 that the host has just been asked to map. -/
private def mappedBlob : VirglContext where
  id := 0
  resourceList :=
    [{ IoRequest.poolRecord with bForBuffer := true, bForBlob := true }]

theorem mapsWhole_iff (info : MapInfo) :
    MapsWhole info ↔ info.size < 2 ^ 32 := by
  constructor
  · intro h
    have hwhole := h
      { World.eightPages.driver with virglContextList := [mappedBlob] }
      (commandBuffer (ctrlHdr 0 0)
        (.resourceMapBlob IoRequest.poolRecord.id) 0)
      IoRequest.poolRecord.id 1 _ _ rfl rfl rfl
    by_contra hsize
    have hpositive : info.size ≠ 0 := by omega
    exact hsize ((sharesWhole_iff Nat.one_ne_zero hpositive).mp hwhole)
  · intro hsize driver buffer id address context resource hbody hcontext
      hresource
    refine sharesWhole_of_lt ?_
    rw [completeBuffer_size hbody hcontext hresource]
    exact hsize

/-! The creation of a blob. -/

theorem blobRounds_iff (request : BlobResourceCreateRequest) :
    BlobRounds addBuf contextId driver request ↔
      BlobFits contextId driver request := by
  have hcreates := ctlCreateBlobResource_success_iff addBuf contextId request
    driver
  constructor
  · intro h started hstarted
    obtain ⟨output, hsuccess⟩ :=
      hcreates.mpr (Option.isSome_iff_exists.mpr ⟨started, hstarted⟩)
    have hfrom := startCreate_some hstarted
    exact (roundsUp_uint64_iff _).mp
      (h started.create hfrom.input output hsuccess).1
  · intro h create hinput output hsuccess
    obtain ⟨started, hstarted⟩ :=
      Option.isSome_iff_exists.mp (hcreates.mp ⟨output, hsuccess⟩)
    have hfrom := startCreate_some hstarted
    have hcreate : started.create = create := by
      have hboth := hfrom.input.symm.trans hinput
      cases hboth
      rfl
    subst hcreate
    refine ⟨(roundsUp_uint64_iff _).mpr (h started hstarted), ?_⟩
    have heq := ctlCreateBlobResource_of_started addBuf hstarted
    have hissues := blob_issues addBuf started.context started.create
      started.record started.records driver
    rw [heq]
    refine ⟨_, hissues.sends.pushes, ?_, ?_⟩
    · intro push hpush id param hbody
      have hmem := List.mem_of_mem_filter hpush
      simp only [numbered, List.mem_cons, List.not_mem_nil,
        or_false] at hmem
      cases hmem with
      | inl hcreated =>
          rw [hcreated] at hbody
          cases hbody
          rfl
      | inr hmapped =>
          rw [hmapped] at hbody
          cases hbody
    · intro hpush
      refine ⟨_, List.mem_filter.mpr ⟨List.mem_cons_self, hpush⟩, _, _, rfl⟩

/-! The submission. -/

theorem reference_copies (driver : Driver) (objects : List Nat) :
    (driver.reference objects).copies = driver.copies := by
  unfold Driver.copies Driver.reference
  induction objects with
  | nil => rfl
  | cons object objects ih => exact ih

/-- What a submission that succeeds has pushed and copied. -/
structure SubmitPushed (prepared : PreparedSubmit)
    (memory : MemoryDescriptor) (buffer : VgpuBuffer) (after : Driver) :
    Prop where
  alloc : allocateVgpuMemory (commandPagesSize prepared.cmd)
    prepared.driver.vgpuMemory = some (memory, after.vgpuMemory)
  pushes : after.pushes = prepared.driver.pushes ++ [(.command, buffer)]
  copies : after.copies =
    (memory.virtualAddress, prepared.cmd.size.toNat) ::
      prepared.driver.copies
  body : buffer.pBuf.body = .submit3d prepared.cmd.size
  size : buffer.dataBufSize = commandPagesSize prepared.cmd
  address : buffer.pDataBuf = memory.virtualAddress
  element : buffer.dataElement = some
    { start := memory.physicalAddress
      length := prepared.cmd.size.toNat }

theorem SubmitPushed.of_submitted {prepared : PreparedSubmit}
    {memory : MemoryDescriptor} {vgpuMemory : VgpuMemory} {before : Driver}
    (resourceIds : Option (List UInt32)) (fenceId : UInt64)
    (halloc : allocateVgpuMemory (commandPagesSize prepared.cmd)
      prepared.driver.vgpuMemory = some (memory, vgpuMemory))
    (hmemory : before.vgpuMemory = vgpuMemory)
    (hsends : Sends [] prepared.driver before)
    (hcopies : before.copies =
      (memory.virtualAddress, prepared.cmd.size.toNat) ::
        prepared.driver.copies)
    (hpush : addBuf before.pushCount = true) :
    ∃ buffer, SubmitPushed prepared memory buffer
      (submitCommand addBuf prepared.context.id memory
        (commandPagesSize prepared.cmd) prepared.cmd.size resourceIds fenceId
        prepared.outFence before).2 := by
  have hsubmitted := submitCommand_sends addBuf prepared.context.id memory
    (commandPagesSize prepared.cmd) prepared.cmd.size resourceIds fenceId
    prepared.outFence before
  refine ⟨submitBuffer prepared.context.id memory
    (commandPagesSize prepared.cmd) prepared.cmd.size resourceIds fenceId
    prepared.outFence before.pushCount, ?_, ?_, ?_, rfl, rfl, rfl, rfl⟩
  · rw [(submitCommand_frame ..).2.1, hmemory]
    exact halloc
  · have hpushes := (hsends.trans hsubmitted).pushes
    rw [hpushes]
    simp [acceptedOf, submitBuffer, hpush]
  · rw [← hcopies]
    simp only [submitCommand, allocateCommandBuffer, pushQueue,
      Driver.copies, Driver.log, hpush, if_true]
    rfl

theorem SubmitEnd.pushed {request : ExecbufferRequest}
    {prepared : PreparedSubmit} {result : Reply × Driver}
    (hend : SubmitEnd addBuf request prepared result)
    (hsuccess : result.1 = .complete .success none) :
    ∃ memory buffer, SubmitPushed prepared memory buffer result.2 := by
  have hpush := (hend.status.mp hsuccess).2.2
  have hcopies : ∀ memory vgpuMemory,
      (prepared.fenced memory vgpuMemory).2.copies =
        (memory.virtualAddress, prepared.cmd.size.toNat) ::
          prepared.driver.copies := by
    intro memory vgpuMemory
    unfold Driver.copies
    rw [fenced_history]
    rfl
  cases hend with
  | exhausted halloc => simp at hsuccess
  | unread memory vgpuMemory status halloc hlisted hhandles hstatus =>
      simp [hstatus] at hsuccess
  | uncopied memory vgpuMemory reads halloc hlisted hhandles hblock =>
      simp at hsuccess
  | listed memory vgpuMemory reads halloc hlisted hhandles hblock status
      after hsubmitted =>
      have hafter := congrArg Prod.snd hsubmitted
      dsimp only at hafter
      rw [← hafter]
      exact ⟨memory, SubmitPushed.of_submitted addBuf _ _ halloc
        (fenced_vgpuMemory memory vgpuMemory)
        (marked_sends memory vgpuMemory reads) (hcopies memory vgpuMemory)
        (by rw [marked_pushCount]; exact hpush)⟩
  | unlisted memory vgpuMemory halloc hunlisted status after hsubmitted =>
      have hafter := congrArg Prod.snd hsubmitted
      dsimp only at hafter
      rw [← hafter]
      exact ⟨memory, SubmitPushed.of_submitted addBuf _ _ halloc
        (fenced_vgpuMemory memory vgpuMemory)
        (fenced_sends memory vgpuMemory) (hcopies memory vgpuMemory)
        (by rw [fenced_pushCount]; exact hpush)⟩

theorem outFenceFails_iff {cmd : DrmVirtgpuExecbuffer}
    {request : ExecbufferRequest} (driver : Driver) :
    OutFenceFails cmd request ↔
      (referenceOutFence cmd request driver).1 ≠ .error .success := by
  unfold OutFenceFails referenceOutFence
  split
  · rename_i hflag
    cases request.outFence with
    | error status => simp [hflag]
    | ok object => simp
  · rename_i hflag
    simp [hflag]

theorem prepareSubmit_error_status {contextId : UInt32}
    {request : ExecbufferRequest} {driver after : Driver} {status : NtStatus}
    (hfence : ∀ cmd, request.input = .ok cmd → OutFenceFails cmd request)
    (herror : prepareSubmit contextId request driver =
      .error (status, after)) : status ≠ .success := by
  unfold prepareSubmit at herror
  split at herror
  · cases herror
    nofun
  · cases herror
    nofun
  · rename_i cmd hinput
    split at herror
    · cases herror
      nofun
    · dsimp only at herror
      split at herror
      · rename_i hwaited
        have hstatus := congrArg Prod.fst (Except.error.inj herror)
        rwa [hstatus] at hwaited
      · have hfails := (outFenceFails_iff
          (waitInFence cmd request driver).2).mp (hfence cmd hinput)
        split at herror
        · rename_i heq
          cases herror
          rw [heq] at hfails
          exact fun hsuccess => hfails (congrArg Except.error hsuccess)
        · split at herror
          · cases herror
            nofun
          · cases herror
            nofun
          · cases herror

/-- A submission that is ready goes on from where it started. -/
theorem prepareSubmit_ready {contextId : UInt32} {request : ExecbufferRequest}
    {driver : Driver} {prepared : PreparedSubmit}
    (hprepared : prepareSubmit contextId request driver = .ok prepared) :
    ctlSubmitCommand addBuf contextId request driver =
        submitPages addBuf prepared.context prepared.cmd request
          prepared.outFence prepared.driver ∧
      prepared.driver.vgpuMemory = driver.vgpuMemory ∧
      prepared.driver.pushCount = driver.pushCount ∧
      prepared.driver.pushes = driver.pushes ∧
      prepared.driver.copies = driver.copies := by
  have hdriver := (prepareSubmit_ok hprepared).driver
  refine ⟨by rw [ctlSubmitCommand_eq, hprepared], ?_⟩
  rw [hdriver]
  exact ⟨rfl, rfl, pushes_of_history (reference_history _ _),
    reference_copies _ _⟩

/-- A size that wraps to 0 finds room in any region, and succeeds. -/
theorem submitFits_of_rounds {request : ExecbufferRequest}
    (h : SubmitRounds addBuf contextId driver request) :
    SubmitFits addBuf contextId driver request := by
  intro prepared hprepared hpages hhandles hpush
  obtain ⟨heq, hmemory, hcount, hpushes, _⟩ :=
    prepareSubmit_ready addBuf hprepared
  have hend := submitPages_end addBuf request prepared
  by_contra hsize
  have hzero : commandPagesSize prepared.cmd = 0 :=
    roundUp_uint32_eq_zero hsize
  have halloc := (allocateVgpuMemory_zero_isSome driver.vgpuMemory).mpr
    hpages
  rw [← hzero, ← hmemory] at halloc
  have hsuccess := hend.status.mpr
    ⟨halloc, hhandles, by rw [hcount]; exact hpush⟩
  obtain ⟨memory, buffer, hpushed⟩ :=
    SubmitEnd.pushed addBuf hend hsuccess
  have hfrom := prepareSubmit_ok hprepared
  have hfence : OutFenceFails prepared.cmd request :=
    (outFenceFails_iff (waitInFence prepared.cmd request driver).2).mpr
      (by simp [hfrom.outFence])
  obtain ⟨other, hother, hcovered⟩ := h prepared.cmd hfrom.input hfence
    (by rw [heq]; exact hsuccess)
  have hsame : other = buffer := by
    rw [heq, hpushed.pushes, hpushes] at hother
    simpa using (List.append_cancel_left hother).symm
  have hpositive := hcovered.rounds.positive
  rw [hsame, hpushed.size] at hpositive
  omega

/-- What a submission that is ready pushes and copies when it succeeds. -/
theorem SubmitPushed.covered {request : ExecbufferRequest}
    {prepared : PreparedSubmit} {memory : MemoryDescriptor}
    {buffer : VgpuBuffer} {after : Driver}
    (hpushed : SubmitPushed prepared memory buffer after)
    (hprepared : prepareSubmit contextId request driver = .ok prepared)
    (hrounds : RoundsUp prepared.cmd.size.toNat
      (commandPagesSize prepared.cmd)) :
    SubmitCovered prepared.cmd buffer driver after := by
  obtain ⟨_, hmemory, _, _, hcopies⟩ :=
    prepareSubmit_ready (fun _ => true) hprepared
  have halloc := hpushed.alloc
  rw [hmemory] at halloc
  refine ⟨hpushed.body, ?_, ?_, _, hpushed.element, rfl, ?_⟩
  · rw [hpushed.size]
    exact hrounds
  · rw [hpushed.copies, hpushed.address, hcopies]
  · rw [hpushed.address]
    exact allocateVgpuMemory_covers halloc hrounds.aligned
      (UInt32.toNat_lt _) hrounds.enough

theorem submitRounds_of_fits {request : ExecbufferRequest}
    (h : SubmitFits addBuf contextId driver request) :
    SubmitRounds addBuf contextId driver request := by
  intro cmd hinput hfence hsuccess
  cases hprepared : prepareSubmit contextId request driver with
  | error failure =>
      obtain ⟨status, after⟩ := failure
      have hstatus := prepareSubmit_error_status (fun other hother => by
        rw [hinput] at hother
        cases hother
        exact hfence) hprepared
      rw [ctlSubmitCommand_eq, hprepared] at hsuccess
      exact absurd (by simpa using hsuccess) hstatus
  | ok prepared =>
      obtain ⟨heq, hmemory, hcount, hpushes, _⟩ :=
        prepareSubmit_ready addBuf hprepared
      have hcmd : prepared.cmd = cmd := by
        have hboth := (prepareSubmit_ok hprepared).input.symm.trans hinput
        cases hboth
        rfl
      subst hcmd
      have hend := submitPages_end addBuf request prepared
      rw [heq] at hsuccess
      obtain ⟨memory, buffer, hpushed⟩ :=
        SubmitEnd.pushed addBuf hend hsuccess
      obtain ⟨_, hhandles, hpush⟩ := hend.status.mp hsuccess
      have halloc := hpushed.alloc
      rw [hmemory] at halloc
      have hrounds := (roundsUp_uint32_iff prepared.cmd.size).mpr
        (h prepared hprepared (regionBitmap_size_pos_of_allocate halloc)
          hhandles (by rw [← hcount]; exact hpush))
      rw [heq]
      exact ⟨buffer, by rw [hpushed.pushes, hpushes],
        hpushed.covered contextId driver hprepared hrounds⟩

theorem submitRounds_iff (request : ExecbufferRequest) :
    SubmitRounds addBuf contextId driver request ↔
      SubmitFits addBuf contextId driver request :=
  ⟨submitFits_of_rounds addBuf contextId driver,
    submitRounds_of_fits addBuf contextId driver⟩

/-! The creation of a resource. -/

theorem lookup_insertResource {context : VirglContext} {id : UInt32}
    (before : Driver) (resource : VirglResource)
    (hcontext : getVirglContextFromListUnsafe before.virglContextList id =
      some context) :
    getVirglContextFromListUnsafe
        (before.insertResource id resource).virglContextList id =
      some { context with resourceList := resource :: context.resourceList }
    := by
  have hkeep : ∀ other : VirglContext, VirglContext.id
      { other with resourceList := resource :: other.resourceList } =
        VirglContext.id other := fun _ => rfl
  rw [Driver.insertResource, lookup_modifyContext hkeep, hcontext]
  rfl

/-- Only a size near the end of its word runs out of pages of a region that has
some by asking for none. -/
theorem resourceBufferSize_eq_zero {size : UInt32}
    (hsize : ¬size.toNat ≤ 0xfffff000) : resourceBufferSize size = 0 := by
  have hne : size ≠ 0 := by
    rintro heq
    rw [heq] at hsize
    exact hsize (by decide)
  unfold resourceBufferSize
  rw [if_neg hne]
  exact roundUp_uint32_eq_zero fun h => hsize h.2

/-- What a creation with a buffer inserts and sends. -/
theorem backed_rounds {started : StartedCreate DrmVirtgpuResourceCreate}
    {memory : MemoryDescriptor} {resource : VirglResource}
    (vgpuMemory : VgpuMemory)
    (hresource : resource = giveBacking
      (resourceBufferSize started.create.size) memory
      (nameResource started.create driver started.record)) :
    resource.buffer.size = resourceBufferSize started.create.size ∧
      SharesWhole resource.buffer ∧
      ∃ new, ((attachResourceBacking addBuf started.context.id resource
          (grantBacking started.context.id resource vgpuMemory
            (created3d addBuf started.context started.create started.record
              started.records driver))).insertResource started.context.id
                resource).pushes = driver.pushes ++ new ∧
        (∀ push ∈ new, ∀ id address size,
          push.2.pBuf.body = .resourceAttachBacking id address size →
            size.toNat = resource.buffer.size) ∧
        (addBuf (driver.pushCount + 1) = true →
          ∃ push ∈ new, ∃ id address size,
            push.2.pBuf.body = .resourceAttachBacking id address size) := by
  have hsize : resource.buffer.size =
      resourceBufferSize started.create.size := by
    rw [hresource]
    rfl
  have hsmall : resource.buffer.size < 2 ^ 32 := by
    rw [hsize]
    exact resourceBufferSize_lt _
  have hissues := backed_issues addBuf started.context started.create
    started.record started.records vgpuMemory resource driver
  refine ⟨hsize, sharesWhole_of_lt hsmall, _, hissues.sends.pushes, ?_, ?_⟩
  · intro push hpush id address size hbody
    have hmem := List.mem_of_mem_filter hpush
    simp only [numbered, List.mem_cons, List.not_mem_nil, or_false] at hmem
    cases hmem with
    | inl hcreated =>
        rw [hcreated] at hbody
        cases hbody
    | inr hattached =>
        rw [hattached] at hbody
        cases hbody
        exact UInt32.toNat_ofNat_of_lt' hsmall
  · intro hpush
    exact ⟨_, List.mem_filter.mpr
      ⟨List.mem_cons_of_mem _ List.mem_cons_self, hpush⟩, _, _, _, rfl⟩

theorem createRounds_iff (request : ResourceCreateRequest) :
    CreateRounds addBuf contextId driver request ↔
      CreateFits contextId driver request := by
  constructor
  · intro h started hstarted hbuffer hpages
    have hfrom := startCreate_some hstarted
    have hid := context_id_of_lookup hfrom.context
    have hend := ctlCreateResource_end addBuf hstarted
    have hrounds := h started.create hfrom.input hbuffer
    subst hid
    generalize ctlCreateResource addBuf started.context.id request driver =
      result at hend hrounds
    by_contra hsize
    have hzero := resourceBufferSize_eq_zero hsize
    cases hend with
    | exhausted _ halloc =>
        have hsome := (allocateVgpuMemory_zero_isSome
          driver.vgpuMemory).mpr hpages
        rw [← hzero, halloc] at hsome
        exact absurd hsome (by decide)
    | backed memory vgpuMemory resource _ halloc hresource =>
        obtain ⟨context, inserted, new, hcontext, hhead, hpositive, _⟩ :=
          hrounds _ rfl
        have hlookup := lookup_insertResource
          (attachResourceBacking addBuf started.context.id resource
            (grantBacking started.context.id resource vgpuMemory
              (created3d addBuf started.context started.create started.record
                started.records driver))) resource hfrom.context
        cases hlookup.symm.trans hcontext
        cases hhead
        have hbacked := backed_rounds addBuf driver vgpuMemory hresource
        rw [hbacked.1, hzero] at hpositive
        exact absurd hpositive.positive (by decide)
    | bare hone => exact hbuffer hone
  · intro h create hinput hbuffer output hsuccess
    cases hstarted : startCreate contextId request.input request.output
        request.record driver with
    | none =>
        obtain ⟨status, hstatus, heq⟩ :=
          ctlCreateResource_of_none addBuf hstarted
        simp only [heq, Reply.complete.injEq] at hsuccess
        exact absurd hsuccess.1 hstatus
    | some started =>
        have hfrom := startCreate_some hstarted
        have hcreate : started.create = create := by
          have hboth := hfrom.input.symm.trans hinput
          cases hboth
          rfl
        subst hcreate
        have hid := context_id_of_lookup hfrom.context
        have hend := ctlCreateResource_end addBuf hstarted
        have hfits := h started hstarted hbuffer
        subst hid
        generalize ctlCreateResource addBuf started.context.id request
          driver = result at hend hsuccess ⊢
        cases hend with
        | exhausted _ halloc => cases hsuccess
        | backed memory vgpuMemory resource _ halloc hresource =>
            have hrounds := (roundsUp_resource_iff _).mpr
              (hfits (regionBitmap_size_pos_of_allocate halloc))
            obtain ⟨hsize, hshares, new, hpushes, hsizes, hsent⟩ :=
              backed_rounds addBuf driver vgpuMemory hresource
            rw [← hsize] at hrounds
            exact ⟨_, resource, new,
              lookup_insertResource _ _ hfrom.context, rfl, hrounds, hshares,
              hpushes, hsizes, hsent⟩
        | bare hone => exact absurd hone hbuffer

/-- Rounding shrinks no size exactly when no size is 0 or within the last page
before the end of its word, and the host maps less than 4 GiB. -/
theorem page_rounding_sound_iff (create : ResourceCreateRequest)
    (submission : ExecbufferRequest) (blob : BlobResourceCreateRequest)
    (info : MapInfo) :
    (CreateRounds addBuf contextId driver create ∧
        SubmitRounds addBuf contextId driver submission ∧
        BlobRounds addBuf contextId driver blob ∧ MapsWhole info) ↔
      CreateFits contextId driver create ∧
        SubmitFits addBuf contextId driver submission ∧
        BlobFits contextId driver blob ∧ info.size < 2 ^ 32 :=
  and_congr (createRounds_iff addBuf contextId driver create)
    (and_congr (submitRounds_iff addBuf contextId driver submission)
      (and_congr (blobRounds_iff addBuf contextId driver blob)
        (mapsWhole_iff info)))

/-- A submission whose size leaves less than a page of 32 bits. -/
def hugeSubmission : ExecbufferRequest where
  input := .ok { flags := 0, size := 0xffffffff, numBoHandles := 0 }
  inFence := .error .unsuccessful
  waitStatus := .success
  outFence := .error .unsuccessful
  command := .ok ()
  handles := .rejected
  handlesBlock := true

def hugeCreate : ResourceCreateRequest where
  input := .ok { param := IoRequest.resourceParam, size := 0xffffffff }
  output := .ok ()
  record := .pool IoRequest.poolRecord

def hugeBlob : BlobResourceCreateRequest where
  input := .ok
    { blobMem := 2, blobFlags := 1, size := 0xffffffffffffffff, blobId := 5
      param := IoRequest.resourceParam }
  output := .ok ()
  record := .pool IoRequest.poolRecord

/-- Each of the four places loses a large size. -/
theorem page_rounding_wraps :
    let driver := (runFrom (World.step fun _ => true) World.eightPages
      [.request 7 .initContext]).driver
    ¬CreateRounds (fun _ => true) 7 driver hugeCreate ∧
      ¬SubmitRounds (fun _ => true) 7 driver hugeSubmission ∧
      ¬BlobRounds (fun _ => true) 7 driver hugeBlob ∧
      ¬MapsWhole { gpa := 0xe0000000, size := 0x100000000 } := by
  intro driver
  rw [createRounds_iff, submitRounds_iff, blobRounds_iff, mapsWhole_iff]
  refine ⟨fun h => ?_, fun h => ?_, fun h => ?_, by decide⟩
  · exact absurd (h _ rfl (by decide) (by decide +kernel)) (by decide)
  · exact absurd (h _ rfl (by decide +kernel) nofun rfl).2 (by decide)
  · exact absurd (h _ rfl).2 (by decide)

end VgpuDriver
