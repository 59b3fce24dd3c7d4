import VgpuDriver.Live

namespace VgpuDriver

open Data

/-! What a request can do to the events of the live resources and to the
commands whose completion sets them. -/

/-- The completion of the command sets no event. -/
def VgpuBuffer.Quiet (buffer : VgpuBuffer) : Prop :=
  buffer.updatedIds = [] ∧ buffer.mappedId = none

theorem VgpuBuffer.Neutral.quiet {buffer : VgpuBuffer}
    (h : buffer.Neutral) : buffer.Quiet := ⟨h.1, h.2.1⟩

/-- Mark the resources of one context with the listed ids busy. -/
def markBusy (contextId : UInt32) (ids : List UInt32) (fenceId : UInt64)
    (entry : UInt32 × VirglResource) : UInt32 × VirglResource :=
  if entry.1 = contextId then
    (entry.1,
      if entry.2.id ∈ ids then entry.2.updateState true fenceId else entry.2)
  else entry

theorem markBusy_cases (contextId : UInt32) (ids : List UInt32)
    (fenceId : UInt64) (entry : UInt32 × VirglResource) :
    ∃ after, markBusy contextId ids fenceId entry = (entry.1, after) ∧
      after.id = entry.2.id ∧ after.serial = entry.2.serial ∧
      entry.2.fenceId ≤ after.fenceId ∧
      (after.fenceId = entry.2.fenceId ∨ after.fenceId = fenceId) ∧
      (((entry.1 = contextId ∧ entry.2.id ∈ ids ∧
            entry.2.Accepts fenceId) ∧
          after.stateEvent = false ∧
          (fenceId = 0 ∨ after.fenceId = fenceId)) ∨
        (¬(entry.1 = contextId ∧ entry.2.id ∈ ids ∧
            entry.2.Accepts fenceId) ∧ after = entry.2)) := by
  unfold markBusy
  by_cases hlisted : entry.1 = contextId ∧ entry.2.id ∈ ids
  · rw [if_pos hlisted.1, if_pos hlisted.2]
    refine ⟨_, rfl, VirglResource.updateState_id,
      VirglResource.updateState_serial, VirglResource.updateState_fenceId_le,
      ?_, ?_⟩
    · unfold VirglResource.updateState
      split
      · exact Or.inl rfl
      · split
        · exact Or.inr rfl
        · exact Or.inl rfl
    · by_cases haccepts : entry.2.Accepts fenceId
      · exact Or.inl ⟨⟨hlisted.1, hlisted.2, haccepts⟩,
          VirglResource.updateState_stateEvent haccepts,
          VirglResource.updateState_fenceId haccepts⟩
      · exact Or.inr ⟨fun hall => haccepts hall.2.2,
          VirglResource.updateState_of_not_accepts haccepts⟩
  · refine ⟨entry.2, ?_, rfl, rfl, UInt64.le_refl _, Or.inl rfl,
      Or.inr ⟨fun hall => hlisted ⟨hall.1, hall.2.1⟩, rfl⟩⟩
    split
    · rename_i hhere
      rw [if_neg fun hmem => hlisted ⟨hhere, hmem⟩]
    · rfl

/-- Change the share descriptor of the resource with the id. -/
def giveShare (contextId id : UInt32) (share : ShareDescriptor)
    (entry : UInt32 × VirglResource) : UInt32 × VirglResource :=
  if entry.1 = contextId then
    (entry.1,
      if entry.2.id = id then
        { entry.2 with buffer := { entry.2.buffer with share := share } }
      else entry.2)
  else entry

theorem giveShare_cases (contextId id : UInt32) (share : ShareDescriptor)
    (entry : UInt32 × VirglResource) :
    ∃ after, giveShare contextId id share entry = (entry.1, after) ∧
      after.id = entry.2.id ∧ after.serial = entry.2.serial ∧
      after.fenceId = entry.2.fenceId ∧
      after.stateEvent = entry.2.stateEvent := by
  unfold giveShare
  split
  · split
    · exact ⟨_, rfl, rfl, rfl, rfl, rfl⟩
    · exact ⟨_, rfl, rfl, rfl, rfl, rfl⟩
  · exact ⟨_, rfl, rfl, rfl, rfl, rfl⟩

/-- The handle array is not rewritten between the two reads of its entries. -/
def ExecbufferRequest.readsOnce (request : ExecbufferRequest) : Bool :=
  match request.input, request.handles with
  | .ok cmd, .ok reads => decide (markedIds cmd reads = copiedIds cmd reads)
  | _, _ => true

def IoRequest.ReadsOnce : IoRequest → Prop
  | .execbuffer request => request.readsOnce = true
  | _ => True

/-- The pool gives the block for the copy of the handle array. -/
def IoRequest.CopyGranted : IoRequest → Prop
  | .execbuffer request => request.handlesBlock = true
  | _ => True

instance : (request : IoRequest) → Decidable request.CopyGranted
  | .execbuffer request =>
      inferInstanceAs (Decidable (request.handlesBlock = true))
  | .contextInit _ | .destroyContext | .resourceCreate _
  | .blobResourceCreate _ | .resourceClose _ | .wait _ | .map _
  | .transferHost _ _ => inferInstanceAs (Decidable True)

instance : (request : IoRequest) → Decidable request.ReadsOnce
  | .execbuffer request =>
      inferInstanceAs (Decidable (request.readsOnce = true))
  | .contextInit _ | .destroyContext | .resourceCreate _
  | .blobResourceCreate _ | .resourceClose _ | .wait _ | .map _
  | .transferHost _ _ => inferInstanceAs (Decidable True)

/-- The fence id of a submission is 0 or the one drawn for it. -/
def FenceDrawn (fenceId : UInt64) (before after : Driver) : Prop :=
  (fenceId = 0 ∧ after.fenceIds = before.fenceIds) ∨
    (fenceId = UInt64.ofNat (getIdFromIdrWithoutCache 8 before.fenceIds).1 ∧
      after.fenceIds = (getIdFromIdrWithoutCache 8 before.fenceIds).2)

/-- `refused` says that the pool gave no block for the copy of the handle
array. -/
inductive SignalStep (addBuf : Nat → Bool) (refused : Prop)
    (before after : Driver) : Prop
  | quiet
      (hlive : ∀ entry ∈ after.live, entry ∈ before.live)
      (hpushes : Pushes (fun _ buffer => buffer.Quiet) before after)
  | created (contextId : UInt32) (resource : VirglResource)
      (hlive : after.live.Perm ((contextId, resource) :: before.live))
      (hserial : resource.serial = before.pushCount)
      (hid : resource.id = nextResourceId before)
      (hids : after.resourceIds =
        (getIdFromIdrWithoutCache 4 before.resourceIds).2)
      (hfence : resource.fenceId = 0)
      (hidle : resource.stateEvent = true)
      (hpushes : Pushes (fun _ buffer => buffer.Quiet) before after)
      (hcount : before.pushCount < after.pushCount)
  | blobCreated (contextId : UInt32) (resource : VirglResource)
      (buffer : VgpuBuffer)
      (hlive : after.live.Perm ((contextId, resource) :: before.live))
      (hserial : resource.serial = before.pushCount)
      (hid : resource.id = nextResourceId before)
      (hids : after.resourceIds =
        (getIdFromIdrWithoutCache 4 before.resourceIds).2)
      (hfence : resource.fenceId = 0)
      (hbusy : resource.stateEvent = false)
      (hctxId : buffer.pBuf.hdr.ctxId = contextId)
      (hbody : buffer.pBuf.body = .resourceMapBlob resource.id)
      (hmap : buffer.serial = resource.serial + 1)
      (hpushes : Pushes (fun queue other =>
        other.Quiet ∨ (queue = .command ∧ other = buffer)) before after)
      (hcount : before.pushCount < after.pushCount)
      (hpushed : addBuf buffer.serial = true →
        buffer ∈ after.inFlight .command)
  | shared (contextId id : UInt32) (share : ShareDescriptor)
      (hlive : after.live = before.live.map (giveShare contextId id share))
      (hpushes : Pushes (fun _ buffer => buffer.Quiet) before after)
  | marked (buffer : VgpuBuffer)
      (hlive : after.live = before.live.map
        (markBusy buffer.pBuf.hdr.ctxId buffer.updatedIds
          buffer.pBuf.hdr.fenceId))
      (hmapped : buffer.mappedId = none)
      (hserial : buffer.serial = before.pushCount)
      (hfence : FenceDrawn buffer.pBuf.hdr.fenceId before after)
      (hextends : Extends (accepted addBuf .command buffer) before after)
  | uncopied (hrefused : refused) (contextId : UInt32) (ids : List UInt32)
      (fenceId : UInt64)
      (hlive : after.live = before.live.map
        (markBusy contextId ids fenceId))
      (hfence : FenceDrawn fenceId before after)
      (hpushes : Pushes (fun _ buffer => buffer.Quiet) before after)

theorem SignalStep.mono {addBuf : Nat → Bool} {weak strong : Prop}
    {before after : Driver} (h : SignalStep addBuf strong before after)
    (himplies : strong → weak) : SignalStep addBuf weak before after := by
  cases h with
  | quiet hlive hpushes => exact .quiet hlive hpushes
  | created contextId resource hlive hserial hid hids hfence hidle hpushes
      hcount =>
      exact .created contextId resource hlive hserial hid hids hfence hidle
        hpushes hcount
  | blobCreated contextId resource buffer hlive hserial hid hids hfence hbusy
      hctxId hbody hmap hpushes hcount hpushed =>
      exact .blobCreated contextId resource buffer hlive hserial hid hids
        hfence hbusy hctxId hbody hmap hpushes hcount hpushed
  | shared contextId id share hlive hpushes =>
      exact .shared contextId id share hlive hpushes
  | marked buffer hlive hmapped hserial hfence hextends =>
      exact .marked buffer hlive hmapped hserial hfence hextends
  | uncopied hrefused contextId ids fenceId hlive hfence hpushes =>
      exact .uncopied (himplies hrefused) contextId ids fenceId hlive hfence
        hpushes

theorem SignalStep.origin {addBuf : Nat → Bool} {refused : Prop}
    {before after : Driver} (h : SignalStep addBuf refused before after)
    {entry : UInt32 × VirglResource} (hentry : entry ∈ after.live) :
    (∃ old ∈ before.live, old.1 = entry.1 ∧ old.2.id = entry.2.id ∧
        old.2.serial = entry.2.serial) ∨
      (entry.2.id = nextResourceId before ∧
        after.resourceIds =
          (getIdFromIdrWithoutCache 4 before.resourceIds).2) := by
  cases h with
  | quiet hlive hpushes =>
      exact Or.inl ⟨entry, hlive entry hentry, rfl, rfl, rfl⟩
  | created contextId resource hlive hserial hid hids hfence hidle hpushes
      hcount =>
      rcases List.mem_cons.mp (hlive.mem_iff.mp hentry) with rfl | hold
      · exact Or.inr ⟨hid, hids⟩
      · exact Or.inl ⟨entry, hold, rfl, rfl, rfl⟩
  | blobCreated contextId resource buffer hlive hserial hid hids hfence hbusy
      hctxId hbody hmap hpushes hcount hpushed =>
      rcases List.mem_cons.mp (hlive.mem_iff.mp hentry) with rfl | hold
      · exact Or.inr ⟨hid, hids⟩
      · exact Or.inl ⟨entry, hold, rfl, rfl, rfl⟩
  | shared contextId id share hlive hpushes =>
      rw [hlive] at hentry
      obtain ⟨old, hold, rfl⟩ := List.mem_map.mp hentry
      obtain ⟨given, hgive, hid, hserial, _⟩ :=
        giveShare_cases contextId id share old
      rw [hgive]
      exact Or.inl ⟨old, hold, rfl, hid.symm, hserial.symm⟩
  | marked buffer hlive hmapped hserial hfence hextends =>
      rw [hlive] at hentry
      obtain ⟨old, hold, rfl⟩ := List.mem_map.mp hentry
      obtain ⟨marked, hmark, hid, hserial, _⟩ := markBusy_cases
        buffer.pBuf.hdr.ctxId buffer.updatedIds buffer.pBuf.hdr.fenceId old
      rw [hmark]
      exact Or.inl ⟨old, hold, rfl, hid.symm, hserial.symm⟩
  | uncopied hrefused contextId ids fenceId hlive hfence hpushes =>
      rw [hlive] at hentry
      obtain ⟨old, hold, rfl⟩ := List.mem_map.mp hentry
      obtain ⟨marked, hmark, hid, hserial, _⟩ := markBusy_cases contextId
        ids fenceId old
      rw [hmark]
      exact Or.inl ⟨old, hold, rfl, hid.symm, hserial.symm⟩

variable {addBuf : Nat → Bool} {contextId : UInt32} {driver : Driver}

private theorem ctlDestroyVirglContext_signal {context : VirglContext}
    (hcontext : getVirglContextFromListUnsafe driver.virglContextList
      contextId = some context) :
    SignalStep addBuf False driver
      (ctlDestroyVirglContext addBuf context driver) := by
  apply SignalStep.quiet
  · intro entry hentry
    have hlive := live_eraseContext hcontext
    unfold Driver.live at hentry
    rw [(ctlDestroyVirglContext_frame addBuf context driver).1] at hentry
    exact hlive.mem_iff.mpr (List.mem_append_right _ hentry)
  · apply ctlDestroyVirglContext_pushes
    · intro resource queue buffer hdeletion
      exact hdeletion.neutral.quiet
    · intro serial
      exact ⟨rfl, rfl⟩

theorem processNotify_signal (processId : UInt32) (driver : Driver) :
    SignalStep addBuf False driver (processNotify addBuf processId driver) := by
  unfold processNotify
  split
  · exact .quiet (fun _ hentry => hentry) (.of_frame rfl rfl)
  · rename_i context hcontext
    exact ctlDestroyVirglContext_signal hcontext

private theorem created3d_pushes (context : VirglContext)
    (create : DrmVirtgpuResourceCreate) (record : VirglResource)
    (records : LookAsideList VirglResource) (driver : Driver) :
    Pushes (fun _ buffer => buffer.Quiet) driver
      (created3d addBuf context create record records driver) := by
  refine (sendCommand_pushes addBuf ?_).from_frame rfl rfl
  exact ⟨rfl, rfl⟩

variable (addBuf) in
private theorem createdBlob_pushes {other : VgpuBuffer}
    (context : VirglContext) (create : DrmVirtgpuResourceCreateBlob)
    (record : VirglResource) (records : LookAsideList VirglResource)
    (driver : Driver) :
    Pushes (fun queue buffer =>
        buffer.Quiet ∨ (queue = .command ∧ buffer = other)) driver
      ((createBlobResource addBuf context.id (nameBlob driver record).id
        (blobParam create) 0 (takeRecord records driver)).insertResource
          context.id (nameBlob driver record)) := by
  refine ((sendCommand_pushes addBuf ?_).from_frame rfl rfl).to_frame rfl rfl
  exact Or.inl ⟨rfl, rfl⟩

private theorem fencedCommand_drawn (outFence : Option Nat)
    (cmd : DrmVirtgpuExecbuffer) (memory : MemoryDescriptor)
    (vgpuMemory : VgpuMemory) (driver : Driver) :
    FenceDrawn (fencedCommand outFence cmd memory vgpuMemory driver).1 driver
      (fencedCommand outFence cmd memory vgpuMemory driver).2 := by
  cases outFence with
  | none => exact Or.inl ⟨rfl, rfl⟩
  | some object => exact Or.inr ⟨rfl, rfl⟩

private theorem backed_signal {context : VirglContext}
    {create : DrmVirtgpuResourceCreate} {record : VirglResource}
    {memory : MemoryDescriptor} {resource : VirglResource} {refused : Prop}
    (records : LookAsideList VirglResource) (vgpuMemory : VgpuMemory)
    (hcontext : getVirglContextFromListUnsafe driver.virglContextList
      contextId = some context)
    (hresource : resource = giveBacking (resourceBufferSize create.size)
      memory (nameResource create driver record)) :
    SignalStep addBuf refused driver
      ((attachResourceBacking addBuf context.id resource
        (grantBacking context.id resource vgpuMemory
          (created3d addBuf context create record records
            driver))).insertResource context.id resource) := by
  refine .created context.id resource ?_ (by rw [hresource]; rfl)
    (by rw [hresource]; rfl) rfl (by rw [hresource]; rfl)
    (by rw [hresource]; rfl) ?_ ?_
  · exact live_insertResource hcontext
  · refine Pushes.to_frame (Pushes.trans
      ((created3d_pushes context create record records driver).to_frame
        rfl rfl) (sendCommand_pushes addBuf ?_)) rfl rfl
    exact ⟨rfl, rfl⟩
  · simp [created3d]

private theorem blobCreated_signal {context : VirglContext}
    {refused : Prop} (create : DrmVirtgpuResourceCreateBlob)
    (record : VirglResource) (records : LookAsideList VirglResource)
    (hcontext : getVirglContextFromListUnsafe driver.virglContextList
      contextId = some context) :
    SignalStep addBuf refused driver
      (mapBlobResource addBuf context.id (nameBlob driver record).id 0
        ((createBlobResource addBuf context.id (nameBlob driver record).id
          (blobParam create) 0
          (takeRecord records driver)).insertResource context.id
            (nameBlob driver record))) := by
  refine .blobCreated context.id (nameBlob driver record)
    (commandBuffer (ctrlHdr context.id 0)
      (.resourceMapBlob (nameBlob driver record).id)
      (driver.pushCount + 1))
    ?_ rfl rfl rfl rfl rfl ?_ rfl rfl ?_ ?_ ?_
  · exact live_insertResource hcontext
  · exact ctrlHdr_ctxId _ _
  · refine (createdBlob_pushes addBuf context create record records
      driver).trans ?_
    exact sendCommand_pushes addBuf (Or.inr ⟨rfl, rfl⟩)
  · simp
  · intro hpush
    exact sendCommand_inFlight addBuf _ _ hpush

private theorem closed_signal {context : VirglContext}
    {resource : VirglResource} {close : DrmGemClose} {refused : Prop}
    (hcontext : getVirglContextFromListUnsafe driver.virglContextList
      contextId = some context)
    (hresource : getResourceFromListUnsafe context close.handle =
      some resource) :
    SignalStep addBuf refused driver
      (deleteAndRelease addBuf context.id
        (driver.removeResource context.id close.handle) resource) := by
  apply SignalStep.quiet
  · intro entry hentry
    have hlive := live_removeResource hcontext hresource
    have hframe := deleteAndRelease_frame addBuf context.id resource
      (driver.removeResource context.id close.handle)
    unfold Driver.live at hentry
    rw [hframe.1] at hentry
    exact hlive.mem_iff.mpr (List.mem_cons_of_mem _ hentry)
  · have hpushes := deleteAndRelease_pushes addBuf context.id resource
      (driver.removeResource context.id close.handle)
    refine (hpushes.mono ?_).from_frame rfl rfl
    intro queue buffer hdeletion
    exact hdeletion.neutral.quiet

private theorem uncopied_signal {refused : Prop}
    (context : VirglContext) (cmd : DrmVirtgpuExecbuffer)
    (outFence : Option Nat) (objects : List Nat)
    (memory : MemoryDescriptor) (vgpuMemory : VgpuMemory)
    (reads : Nat → HandleRead) (hdistinct : driver.Distinct)
    (hrefused : refused) :
    SignalStep addBuf refused driver
      ((fencedCommand outFence cmd memory vgpuMemory
        (driver.reference objects)).2.modifyContext context.id
          (updateResourceState (markedIds cmd reads) true
            (fencedCommand outFence cmd memory vgpuMemory
              (driver.reference objects)).1)) := by
  have hframe := fencedCommand_frame driver outFence cmd memory vgpuMemory
    objects
  refine .uncopied hrefused context.id
    (markedIds cmd reads) _ ?_
    (fencedCommand_drawn outFence cmd memory vgpuMemory
      (driver.reference objects))
    (.of_frame hframe.2.2.1 hframe.2.2.2)
  unfold Driver.live Driver.modifyContext
  rw [hframe.1]
  exact hdistinct.live_updateResourceState _ _ _

/-- The marks are the ones that the completion takes back, because the array
has not been rewritten in between. -/
private theorem listed_signal {context : VirglContext}
    {cmd : DrmVirtgpuExecbuffer} {outFence : Option Nat}
    {objects : List Nat} {memory : MemoryDescriptor}
    {vgpuMemory : VgpuMemory} {reads : Nat → HandleRead}
    {fenced : UInt64 × Driver} {refused : Prop}
    (hids : copiedIds cmd reads = markedIds cmd reads)
    (hfenced : fenced = fencedCommand outFence cmd memory vgpuMemory
      (driver.reference objects))
    (hdistinct : driver.Distinct) :
    SignalStep addBuf refused driver
      (submitCommand addBuf context.id memory
        (roundUp cmd.size 0x1000).toNat cmd.size
        (some (copiedIds cmd reads)) fenced.1 outFence
        (markedCommand context cmd reads fenced)).2 := by
  have hframe := fencedCommand_frame driver outFence cmd memory vgpuMemory
    objects
  rw [← hfenced] at hframe
  have hctxId : (ctrlHdr context.id fenced.1).ctxId = context.id :=
    ctrlHdr_ctxId _ _
  have hfenceId : (ctrlHdr context.id fenced.1).fenceId = fenced.1 :=
    ctrlHdr_fenceId _ _
  refine .marked (submitBuffer context.id memory
    (roundUp cmd.size 0x1000).toNat cmd.size (some (copiedIds cmd reads))
    fenced.1 outFence fenced.2.pushCount) ?_ rfl hframe.2.2.2 ?_ ?_
  · simp only [submitBuffer, VgpuBuffer.updatedIds, Option.getD_some,
      hctxId, hfenceId, hids]
    unfold Driver.live
    rw [(submitCommand_frame addBuf _ _ _ _ _ _ _ _).1]
    unfold markedCommand Driver.log Driver.modifyContext
    simp only [hframe.1]
    exact hdistinct.live_updateResourceState _ _ _
  · simp only [submitBuffer, hfenceId]
    rw [hfenced]
    exact fencedCommand_drawn outFence cmd memory vgpuMemory
      (driver.reference objects)
  · exact (submitCommand_extends addBuf context.id memory _ cmd.size _
      fenced.1 outFence (markedCommand context cmd reads
        fenced)).from_frame hframe.2.2.1 hframe.2.2.2

private theorem unlisted_signal {context : VirglContext}
    {cmd : DrmVirtgpuExecbuffer} {outFence : Option Nat}
    {objects : List Nat} {memory : MemoryDescriptor}
    {vgpuMemory : VgpuMemory} {fenced : UInt64 × Driver} {refused : Prop}
    (hfenced : fenced = fencedCommand outFence cmd memory vgpuMemory
      (driver.reference objects)) :
    SignalStep addBuf refused driver
      (submitCommand addBuf context.id memory
        (roundUp cmd.size 0x1000).toNat cmd.size none fenced.1 outFence
        fenced.2).2 := by
  have hframe := fencedCommand_frame driver outFence cmd memory vgpuMemory
    objects
  rw [← hfenced] at hframe
  apply SignalStep.quiet
  · intro entry hentry
    unfold Driver.live at hentry
    rwa [(submitCommand_frame addBuf _ _ _ _ _ _ _ _).1,
      hframe.1] at hentry
  · refine ⟨_, (submitCommand_extends addBuf context.id memory _ cmd.size
      none fenced.1 outFence fenced.2).from_frame hframe.2.2.1
        hframe.2.2.2, ?_⟩
    intro queue buffer hbuffer
    obtain ⟨_, rfl⟩ := mem_accepted hbuffer
    exact ⟨rfl, rfl⟩

private theorem RequestOutcome.signal {request : IoRequest} {after : Driver}
    (houtcome : RequestOutcome addBuf contextId driver request after)
    (hdistinct : driver.Distinct) (hreads : request.ReadsOnce) :
    SignalStep addBuf (¬request.CopyGranted) driver after := by
  cases houtcome with
  | unchanged => exact .quiet (fun _ hentry => hentry) (.of_frame rfl rfl)
  | opened request contextInit hnew =>
      apply SignalStep.quiet
      · intro entry hentry
        simpa [Driver.live] using hentry
      · refine (sendCommand_pushes addBuf ?_).from_frame rfl rfl
        exact ⟨rfl, rfl⟩
  | destroyed context hcontext =>
      exact (ctlDestroyVirglContext_signal hcontext).mono False.elim
  | exhausted request context create record records hcontext hnone =>
      exact .quiet (fun _ hentry => hentry)
        (created3d_pushes context create record records driver)
  | bare request context create record records hcontext hbuffer =>
      refine .created context.id (nameResource create driver record)
        ?_ rfl rfl rfl rfl rfl ?_ ?_
      · exact live_insertResource hcontext
      · exact (created3d_pushes context create record records
          driver).to_frame rfl rfl
      · simp [created3d]
  | backed request context create record records memory vgpuMemory resource
      hcontext hbuffer halloc hresource =>
      exact backed_signal records vgpuMemory hcontext hresource
  | blobCreated request context create record records hcontext =>
      exact blobCreated_signal create record records hcontext
  | closed close context resource hcontext hresource =>
      exact closed_signal hcontext hresource
  | mapped request context resource handle hcontext hresource hbuffer hidle =>
      obtain ⟨share, history, hmap, _⟩ := mapResource_frame context.id
        resource request driver
      rw [hmap]
      refine .shared context.id resource.id share ?_ (.of_frame rfl rfl)
      exact hdistinct.live_modifyResource _ _
  | referenced request objects =>
      exact .quiet (fun _ hentry => hentry) (.of_frame rfl rfl)
  | unread request cmd outFence objects memory vgpuMemory halloc hhandles =>
      have hframe := fencedCommand_frame driver outFence cmd memory vgpuMemory
        objects
      refine .quiet (fun entry hentry => ?_)
        (.of_frame hframe.2.2.1 hframe.2.2.2)
      unfold Driver.live at hentry
      rwa [hframe.1] at hentry
  | uncopied request context cmd outFence objects memory vgpuMemory reads
      hcontext halloc hblock =>
      exact uncopied_signal context cmd outFence objects memory vgpuMemory
        reads hdistinct (by simp [IoRequest.CopyGranted, hblock])
  | listed request context cmd outFence objects memory vgpuMemory reads fenced
      hinput hcontext halloc hread hfenced =>
      have hids : copiedIds cmd reads = markedIds cmd reads := by
        simp only [IoRequest.ReadsOnce, ExecbufferRequest.readsOnce, hinput,
          hread, decide_eq_true_eq] at hreads
        exact hreads.symm
      exact listed_signal hids hfenced hdistinct
  | unlisted request context cmd outFence objects memory vgpuMemory fenced
      hcontext halloc hfenced =>
      exact unlisted_signal hfenced
  | transferred toHost request context resource transfer hcontext hresource
      htransfer =>
      have hctxId : (ctrlHdr context.id 0).ctxId = context.id :=
        ctrlHdr_ctxId _ _
      refine .marked (commandBuffer (ctrlHdr context.id 0)
        (.transferHost3d toHost transfer) driver.pushCount)
        ?_ rfl rfl (Or.inl ⟨rfl, rfl⟩) ?_
      · simp only [commandBuffer, VgpuBuffer.updatedIds, hctxId]
        exact hdistinct.live_updateResourceState _ _ _
      · exact (sendCommand_extends addBuf .command _ _
          (driver.modifyContext context.id _)).from_frame rfl rfl

theorem virtioVgpuIoControl_signal (processId : UInt32) {driver : Driver}
    {request : IoRequest} (hdistinct : driver.Distinct)
    (hreads : request.ReadsOnce) :
    SignalStep addBuf (¬request.CopyGranted) driver
      (virtioVgpuIoControl addBuf processId driver request).2 :=
  (virtioVgpuIoControl_outcome processId driver request).signal hdistinct
    hreads

/-- The id counters only count up. -/
structure IdrsStep (before after : Driver) : Prop where
  resourceIds : after.resourceIds = before.resourceIds ∨
    after.resourceIds = (getIdFromIdrWithoutCache 4 before.resourceIds).2
  fenceIds : after.fenceIds = before.fenceIds ∨
    after.fenceIds = (getIdFromIdrWithoutCache 8 before.fenceIds).2

private theorem fencedCommand_idrs (outFence : Option Nat)
    (cmd : DrmVirtgpuExecbuffer) (memory : MemoryDescriptor)
    (vgpuMemory : VgpuMemory) (objects : List Nat) (driver : Driver) :
    IdrsStep driver (fencedCommand outFence cmd memory vgpuMemory
      (driver.reference objects)).2 := by
  cases outFence with
  | none => exact ⟨Or.inl rfl, Or.inl rfl⟩
  | some object => exact ⟨Or.inl rfl, Or.inr rfl⟩

variable (addBuf) in
theorem processNotify_idrs (processId : UInt32) (driver : Driver) :
    (processNotify addBuf processId driver).resourceIds =
        driver.resourceIds ∧
      (processNotify addBuf processId driver).fenceIds =
        driver.fenceIds := by
  unfold processNotify
  split
  · exact ⟨rfl, rfl⟩
  · rename_i context _
    exact (ctlDestroyVirglContext_frame addBuf context driver).2

private theorem RequestOutcome.idrs {request : IoRequest} {after : Driver}
    (houtcome : RequestOutcome addBuf contextId driver request after) :
    IdrsStep driver after := by
  cases houtcome with
  | destroyed context hcontext =>
      have hidrs := (ctlDestroyVirglContext_frame addBuf context driver).2
      exact ⟨Or.inl hidrs.1, Or.inl hidrs.2⟩
  | closed close context resource hcontext hresource =>
      have hframe := deleteAndRelease_frame addBuf context.id resource
        (driver.removeResource context.id close.handle)
      exact ⟨Or.inl hframe.2.1, Or.inl hframe.2.2.1⟩
  | mapped request context resource handle hcontext hresource hbuffer hidle =>
      obtain ⟨share, history, hmap, _⟩ := mapResource_frame context.id
        resource request driver
      rw [hmap]
      exact ⟨Or.inl rfl, Or.inl rfl⟩
  | unread request cmd outFence objects memory vgpuMemory halloc hhandles =>
      exact fencedCommand_idrs outFence cmd memory vgpuMemory objects driver
  | uncopied request context cmd outFence objects memory vgpuMemory reads
      hcontext halloc hblock =>
      have hidrs := fencedCommand_idrs outFence cmd memory vgpuMemory objects
        driver
      exact ⟨hidrs.resourceIds, hidrs.fenceIds⟩
  | listed request context cmd outFence objects memory vgpuMemory reads fenced
      hinput hcontext halloc hread hfenced =>
      have hidrs := fencedCommand_idrs outFence cmd memory vgpuMemory objects
        driver
      rw [← hfenced] at hidrs
      exact ⟨hidrs.resourceIds, hidrs.fenceIds⟩
  | unlisted request context cmd outFence objects memory vgpuMemory fenced
      hcontext halloc hfenced =>
      have hidrs := fencedCommand_idrs outFence cmd memory vgpuMemory objects
        driver
      rw [← hfenced] at hidrs
      exact ⟨hidrs.resourceIds, hidrs.fenceIds⟩
  | exhausted | bare | backed | blobCreated =>
      exact ⟨Or.inr rfl, Or.inl rfl⟩
  | unchanged | opened | referenced | transferred =>
      exact ⟨Or.inl rfl, Or.inl rfl⟩

theorem IdrsStep.fences {before after : Driver} (h : IdrsStep before after)
    (hcounted : before.fenceIds.Counted) :
    after.fenceIds.Counted ∧
      before.fenceIds.drawn ≤ after.fenceIds.drawn := by
  rcases h.fenceIds with hsame | hdrawn
  · rw [hsame]
    exact ⟨hcounted, Nat.le_refl _⟩
  · rw [hdrawn]
    exact ⟨hcounted.getIdFromIdrWithoutCache 8, Nat.le_succ _⟩

theorem virtioVgpuIoControl_idrs (processId : UInt32) (driver : Driver)
    (request : IoRequest) :
    IdrsStep driver
      (virtioVgpuIoControl addBuf processId driver request).2 :=
  (virtioVgpuIoControl_outcome processId driver request).idrs

/-! Distinct ids stay distinct as long as no id is drawn that is in use. -/

def IoRequest.DrawsFreshId (contextId : UInt32) (driver : Driver) :
    IoRequest → Prop
  | .resourceCreate _ | .blobResourceCreate _ =>
      ∀ entry ∈ driver.live, entry.1 = contextId →
        entry.2.id ≠ nextResourceId driver
  | _ => True

instance (contextId : UInt32) (driver : Driver) :
    (request : IoRequest) → Decidable (request.DrawsFreshId contextId driver)
  | .resourceCreate _ | .blobResourceCreate _ =>
      inferInstanceAs (Decidable (∀ entry ∈ driver.live,
        entry.1 = contextId → entry.2.id ≠ nextResourceId driver))
  | .contextInit _ | .destroyContext | .resourceClose _ | .wait _ | .map _
  | .execbuffer _ | .transferHost _ _ => inferInstanceAs (Decidable True)

namespace Driver.Distinct

theorem of_contexts {after : Driver} (h : driver.Distinct)
    (hcontexts : after.virglContextList = driver.virglContextList) :
    after.Distinct where
  contexts := hcontexts ▸ h.contexts
  resources := hcontexts ▸ h.resources

theorem updateResourceState (h : driver.Distinct) (id : UInt32)
    (ids : List UInt32) (busy : Bool) (fenceId : UInt64) :
    (driver.modifyContext id
      (VgpuDriver.updateResourceState ids busy fenceId)).Distinct := by
  refine h.modifyContext (updateResourceState_id ids busy fenceId)
    fun context hcontext _ => ?_
  have hnodup := h.resources context hcontext
  rw [updateResourceState_resourceList hnodup, List.map_map]
  have hsame : (VirglResource.id ∘ fun resource : VirglResource =>
      if resource.id ∈ ids then resource.updateState busy fenceId
      else resource) = VirglResource.id := by
    funext resource
    simp only [Function.comp_apply]
    split
    · exact VirglResource.updateState_id
    · rfl
  rwa [hsame]

theorem modifyResource (h : driver.Distinct) (id resourceId : UInt32)
    {change : VirglResource → VirglResource}
    (hchange : ∀ resource, (change resource).id = resource.id) :
    (driver.modifyContext id fun context =>
      context.modifyResource resourceId change).Distinct := by
  refine h.modifyContext (fun _ => rfl) fun context hcontext _ => ?_
  simp only [VirglContext.modifyResource]
  rw [map_modifyFirst hchange]
  exact h.resources context hcontext

theorem insertResource (h : driver.Distinct) {context : VirglContext}
    {resource : VirglResource}
    (hfresh : ∀ entry ∈ driver.live, entry.1 = context.id →
      entry.2.id ≠ resource.id) :
    (driver.insertResource context.id resource).Distinct := by
  refine h.modifyContext (fun _ => rfl) fun other hother hid => ?_
  simp only [List.map_cons, List.nodup_cons, List.mem_map]
  refine ⟨?_, h.resources other hother⟩
  rintro ⟨entry, hentry, heq⟩
  exact hfresh (context.id, entry)
    (mem_liveIn.mpr ⟨other, hother, hid, hentry⟩) rfl heq

theorem removeResource (h : driver.Distinct) (id resourceId : UInt32) :
    (driver.removeResource id resourceId).Distinct := by
  refine h.modifyContext (fun _ => rfl) fun context hcontext _ => ?_
  exact (h.resources context hcontext).sublist
    (List.eraseP_sublist.map VirglResource.id)

theorem eraseContext (h : driver.Distinct) {after : Driver}
    {p : VirglContext → Bool}
    (hcontexts : after.virglContextList =
      driver.virglContextList.eraseP p) : after.Distinct where
  contexts := by
    rw [hcontexts]
    exact h.contexts.sublist (List.eraseP_sublist.map VirglContext.id)
  resources := by
    intro context hcontext
    rw [hcontexts] at hcontext
    exact h.resources context (List.mem_of_mem_eraseP hcontext)

theorem openContext (h : driver.Distinct) {after : Driver}
    (hnew : getVirglContextFromListUnsafe driver.virglContextList
      contextId = none)
    (hcontexts : after.virglContextList =
      { id := contextId, resourceList := [] } :: driver.virglContextList) :
    after.Distinct where
  contexts := by
    rw [hcontexts, List.map_cons, List.nodup_cons]
    refine ⟨?_, h.contexts⟩
    intro hmem
    obtain ⟨context, hcontext, hid⟩ := List.mem_map.mp hmem
    have hother := List.find?_eq_none.mp hnew context hcontext
    simp only [decide_eq_true_eq] at hother
    exact hother hid
  resources := by
    intro context hcontext
    rw [hcontexts] at hcontext
    rcases List.mem_cons.mp hcontext with rfl | hcontext
    · exact List.nodup_nil
    · exact h.resources context hcontext

theorem completes (h : driver.Distinct) {queue : Queue}
    {buffer : VgpuBuffer} {info : MapInfo} {mapAddress : Option Nat}
    {after : Driver}
    (hcompletes : Completes queue buffer info mapAddress driver after) :
    after.Distinct := by
  have hdistinct : (driver.modifyContext buffer.pBuf.hdr.ctxId
      (buffer.completion info mapAddress)).Distinct := by
    unfold VgpuBuffer.completion
    split
    · exact h.modifyResource _ _ fun _ => rfl
    · exact h.updateResourceState _ _ _ _
  exact hdistinct.of_contexts hcompletes.contexts

end Driver.Distinct

private theorem RequestOutcome.distinct {request : IoRequest}
    {after : Driver}
    (houtcome : RequestOutcome addBuf contextId driver request after)
    (h : driver.Distinct) (hfresh : request.DrawsFreshId contextId driver) :
    after.Distinct := by
  cases houtcome with
  | unchanged => exact h
  | opened request contextInit hnew => exact h.openContext hnew rfl
  | destroyed context hcontext =>
      exact h.eraseContext (foldl_deleteAndRelease addBuf context.id
        context.resourceList.reverse _).1
  | exhausted => exact h.of_contexts rfl
  | bare request context create record records hcontext hbuffer =>
      have hcreated : (created3d addBuf context create record records
          driver).Distinct := h.of_contexts rfl
      refine hcreated.insertResource ?_
      rw [context_id_of_lookup hcontext]
      exact hfresh
  | backed request context create record records memory vgpuMemory resource
      hcontext hbuffer halloc hresource =>
      have hgranted : (attachResourceBacking addBuf context.id resource
          (grantBacking context.id resource vgpuMemory (created3d addBuf
            context create record records driver))).Distinct :=
        h.of_contexts rfl
      refine hgranted.insertResource ?_
      rw [context_id_of_lookup hcontext, hresource]
      exact hfresh
  | blobCreated request context create record records hcontext =>
      have hinserted : (driver.insertResource context.id
          (nameBlob driver record)).Distinct := by
        refine h.insertResource ?_
        rw [context_id_of_lookup hcontext]
        exact hfresh
      exact hinserted.of_contexts rfl
  | closed close context resource hcontext hresource =>
      exact (h.removeResource context.id close.handle).of_contexts
        (deleteAndRelease_frame addBuf context.id resource _).1
  | mapped request context resource handle hcontext hresource hbuffer hidle =>
      obtain ⟨share, history, hmap, _⟩ := mapResource_frame context.id
        resource request driver
      have hshared : (driver.modifyContext context.id fun context =>
          context.modifyResource resource.id fun resource =>
            { resource with
              buffer := { resource.buffer with share := share } }).Distinct :=
        h.modifyResource context.id resource.id fun _ => rfl
      rw [hmap]
      exact hshared.of_contexts rfl
  | referenced => exact h.of_contexts rfl
  | unread request cmd outFence objects memory vgpuMemory halloc hhandles =>
      exact h.of_contexts
        (fencedCommand_frame driver outFence cmd memory vgpuMemory objects).1
  | uncopied request context cmd outFence objects memory vgpuMemory reads
      hcontext halloc hblock =>
      exact (h.of_contexts
        (fencedCommand_frame driver outFence cmd memory vgpuMemory
          objects).1).updateResourceState _ _ _ _
  | listed request context cmd outFence objects memory vgpuMemory reads fenced
      hinput hcontext halloc hread hfenced =>
      have hframe := fencedCommand_frame driver outFence cmd memory vgpuMemory
        objects
      rw [← hfenced] at hframe
      exact ((h.of_contexts hframe.1).updateResourceState context.id
        (markedIds cmd reads) true fenced.1).of_contexts rfl
  | unlisted request context cmd outFence objects memory vgpuMemory fenced
      hcontext halloc hfenced =>
      have hframe := fencedCommand_frame driver outFence cmd memory vgpuMemory
        objects
      rw [← hfenced] at hframe
      exact h.of_contexts hframe.1
  | transferred toHost request context resource transfer hcontext hresource
      htransfer =>
      exact (h.updateResourceState context.id [transfer.resourceId] true
        0).of_contexts rfl

theorem virtioVgpuIoControl_distinct (processId : UInt32) {driver : Driver}
    {request : IoRequest} (h : driver.Distinct)
    (hfresh : request.DrawsFreshId processId driver) :
    (virtioVgpuIoControl addBuf processId driver request).2.Distinct :=
  (virtioVgpuIoControl_outcome processId driver request).distinct h hfresh

theorem processNotify_distinct (processId : UInt32) {driver : Driver}
    (h : driver.Distinct) :
    (processNotify addBuf processId driver).Distinct := by
  unfold processNotify
  split
  · exact h
  · rename_i context _
    exact h.eraseContext (foldl_deleteAndRelease addBuf context.id
      context.resourceList.reverse _).1

/-! What the completion of a command does to one live resource. -/

namespace VgpuBuffer

/-- The completion sets the event of the resource. -/
def SetsEvent (buffer : VgpuBuffer) (mapAddress : Option Nat)
    (resource : VirglResource) : Prop :=
  (buffer.mappedId = some resource.id ∧ mapAddress.isSome = true) ∨
    (resource.id ∈ buffer.updatedIds ∧
      resource.Accepts buffer.pBuf.hdr.fenceId)

instance (buffer : VgpuBuffer) (mapAddress : Option Nat)
    (resource : VirglResource) :
    Decidable (buffer.SetsEvent mapAddress resource) :=
  inferInstanceAs (Decidable (_ ∨ _))

def completed (buffer : VgpuBuffer) (info : MapInfo)
    (mapAddress : Option Nat) (resource : VirglResource) : VirglResource :=
  match buffer.mappedId, mapAddress with
  | some id, some address =>
      if resource.id = id then resource.mapAt info.size address else resource
  | _, _ =>
      if resource.id ∈ buffer.updatedIds then
        resource.updateState false buffer.pBuf.hdr.fenceId
      else resource

theorem updatedIds_of_mapped {buffer : VgpuBuffer} {id : UInt32}
    (hmapped : buffer.mappedId = some id) : buffer.updatedIds = [] := by
  cases hbody : buffer.pBuf.body with
  | resourceMapBlob _ => simp [updatedIds, hbody]
  | _ => simp [mappedId, hbody] at hmapped

variable {buffer : VgpuBuffer} {mapAddress : Option Nat}
variable {resource : VirglResource}

private theorem updated_cases (ids : List UInt32) (fenceId : UInt64)
    (resource : VirglResource) :
    ∃ after,
      (if resource.id ∈ ids then resource.updateState false fenceId
        else resource) = after ∧
      after.id = resource.id ∧ after.serial = resource.serial ∧
      resource.fenceId ≤ after.fenceId ∧
      (after.fenceId = resource.fenceId ∨
        (resource.id ∈ ids ∧ after.fenceId = fenceId)) ∧
      (((resource.id ∈ ids ∧ resource.Accepts fenceId) ∧
          after.stateEvent = true) ∨
        (¬(resource.id ∈ ids ∧ resource.Accepts fenceId) ∧
          after = resource)) := by
  refine ⟨_, rfl, ?_⟩
  by_cases hlisted : resource.id ∈ ids
  · rw [if_pos hlisted]
    refine ⟨VirglResource.updateState_id, VirglResource.updateState_serial,
      VirglResource.updateState_fenceId_le, ?_, ?_⟩
    · unfold VirglResource.updateState
      split
      · exact Or.inl rfl
      · split
        · exact Or.inr ⟨hlisted, rfl⟩
        · exact Or.inl rfl
    · by_cases haccepts : resource.Accepts fenceId
      · exact Or.inl ⟨⟨hlisted, haccepts⟩,
          VirglResource.updateState_stateEvent haccepts⟩
      · exact Or.inr ⟨fun hboth => haccepts hboth.2,
          VirglResource.updateState_of_not_accepts haccepts⟩
  · rw [if_neg hlisted]
    exact ⟨rfl, rfl, UInt64.le_refl _, Or.inl rfl,
      Or.inr ⟨fun hboth => hlisted hboth.1, rfl⟩⟩

theorem completed_cases (buffer : VgpuBuffer) (info : MapInfo)
    (mapAddress : Option Nat) (resource : VirglResource) :
    ∃ after, buffer.completed info mapAddress resource = after ∧
      after.id = resource.id ∧ after.serial = resource.serial ∧
      resource.fenceId ≤ after.fenceId ∧
      (after.fenceId = resource.fenceId ∨
        (resource.id ∈ buffer.updatedIds ∧
          after.fenceId = buffer.pBuf.hdr.fenceId)) ∧
      ((buffer.SetsEvent mapAddress resource ∧ after.stateEvent = true) ∨
        (¬buffer.SetsEvent mapAddress resource ∧ after = resource)) := by
  unfold completed SetsEvent
  cases hmapped : buffer.mappedId with
  | none =>
      simpa [hmapped] using updated_cases buffer.updatedIds
        buffer.pBuf.hdr.fenceId resource
  | some id =>
      have hids := updatedIds_of_mapped hmapped
      cases mapAddress with
      | none =>
          simpa [hmapped] using updated_cases buffer.updatedIds
            buffer.pBuf.hdr.fenceId resource
      | some address =>
          by_cases hid : resource.id = id
          · refine ⟨resource.mapAt info.size address, by simp [hid], rfl, rfl,
              UInt64.le_refl _, Or.inl rfl, Or.inl ⟨Or.inl ?_, rfl⟩⟩
            simp [hid]
          · refine ⟨resource, by simp [hid], rfl, rfl, UInt64.le_refl _,
              Or.inl rfl, Or.inr ⟨?_, rfl⟩⟩
            simp [hids, Ne.symm hid]

end VgpuBuffer

theorem Completes.quiet {queue : Queue} {buffer : VgpuBuffer}
    {info : MapInfo} {mapAddress : Option Nat} {before after : Driver}
    (h : Completes queue buffer info mapAddress before after)
    (hquiet : buffer.Quiet) :
    after.virglContextList = before.virglContextList :=
  h.contexts.trans
    (completion_neutral hquiet.1 hquiet.2 info mapAddress before)

theorem live_of_completion {buffer : VgpuBuffer} {info : MapInfo}
    {mapAddress : Option Nat} {before after : Driver}
    (hdistinct : before.Distinct)
    (hcontexts : after.virglContextList =
      (before.modifyContext buffer.pBuf.hdr.ctxId
        (buffer.completion info mapAddress)).virglContextList) :
    after.live = before.live.map fun entry =>
      if entry.1 = buffer.pBuf.hdr.ctxId then
        (entry.1, buffer.completed info mapAddress entry.2)
      else entry := by
  have hlive : after.live = (before.modifyContext buffer.pBuf.hdr.ctxId
      (buffer.completion info mapAddress)).live := by
    unfold Driver.live
    rw [hcontexts]
  rw [hlive]
  unfold VgpuBuffer.completion VgpuBuffer.completed
  cases buffer.mappedId with
  | none => exact hdistinct.live_updateResourceState _ _ _
  | some id =>
      cases mapAddress with
      | none => exact hdistinct.live_updateResourceState _ _ _
      | some address => exact hdistinct.live_modifyResource _ _

end VgpuDriver
