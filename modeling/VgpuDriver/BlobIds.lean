import VgpuDriver.IdRuns
import VgpuDriver.Pending

namespace VgpuDriver

open Data

/-! The ids that the commands mapping a blob carry, as long as no id is given
twice. -/

/-- A RESOURCE_MAP_BLOB names no live resource but a blob. -/
structure MapsBlobs (driver : Driver) : Prop where
  bound : ∀ buffer ∈ driver.sent .command, ∀ id,
    buffer.mappedId = some id → id.toNat ≤ driver.resourceIds.drawn
  blobs : ∀ buffer ∈ driver.sent .command, ∀ record ∈ driver.records,
    buffer.mappedId = some record.id → record.bForBlob = true

theorem Issues.mem_sent {addBuf : Nat → Bool}
    {commands : List (Queue × Command)} {before after : Driver}
    (h : Issues addBuf commands before after) {queue : Queue}
    {buffer : VgpuBuffer} (hbuffer : buffer ∈ after.sent queue) :
    buffer ∈ before.sent queue ∨ (queue, buffer.pBuf) ∈ commands := by
  rw [h.sends.sent] at hbuffer
  rcases List.mem_append.mp hbuffer with hold | hnew
  · exact Or.inl hold
  · have hnumbered := (List.mem_filter.mp (mem_onQueue.mp hnew)).1
    exact Or.inr (mem_numbered hnumbered).1

namespace MapsBlobs

variable {before after : Driver}

private theorem of_commands {new : List (Queue × VgpuBuffer)}
    (h : MapsBlobs before) (hsends : Sends new before after)
    (hnew : ∀ buffer ∈ onQueue .command new, buffer.mappedId = none)
    (hrecords : ∀ record ∈ after.records, record ∈ before.records)
    (hdrawn : before.resourceIds.drawn ≤ after.resourceIds.drawn) :
    MapsBlobs after := by
  have hold : ∀ buffer ∈ after.sent .command, ∀ id,
      buffer.mappedId = some id → buffer ∈ before.sent .command := by
    intro buffer hbuffer id hmapped
    rw [hsends.sent] at hbuffer
    refine (List.mem_append.mp hbuffer).resolve_right fun hadded => ?_
    rw [hnew buffer hadded] at hmapped
    cases hmapped
  constructor
  · intro buffer hbuffer id hmapped
    have hbound := h.bound buffer (hold buffer hbuffer id hmapped) id hmapped
    exact Nat.le_trans hbound hdrawn
  · intro buffer hbuffer record hrecord hmapped
    exact h.blobs buffer (hold buffer hbuffer _ hmapped) record
      (hrecords record hrecord) hmapped

private theorem of_issues {addBuf : Nat → Bool}
    {commands : List (Queue × Command)} (h : MapsBlobs before)
    (hissues : Issues addBuf commands before after)
    (hcommands : ∀ command ∈ commands, ∀ id,
      command.2.body ≠ .resourceMapBlob id)
    (hrecords : ∀ record ∈ after.records, record ∈ before.records)
    (hdrawn : before.resourceIds.drawn ≤ after.resourceIds.drawn) :
    MapsBlobs after := by
  refine h.of_commands hissues.sends ?_ hrecords hdrawn
  intro buffer hbuffer
  have hnumbered := (List.mem_filter.mp (mem_onQueue.mp hbuffer)).1
  have hcommand := hcommands _ (mem_numbered hnumbered).1
  unfold VgpuBuffer.mappedId
  split
  · rename_i id hbody
    exact absurd hbody (hcommand id)
  · rfl

private theorem deletion_body {contextId : UInt32}
    {resource : VirglResource} {command : Queue × Command}
    (hcommand : command ∈ deletionCommands contextId resource)
    (id : UInt32) : command.2.body ≠ .resourceMapBlob id := by
  unfold deletionCommands at hcommand
  rintro hbody
  rcases List.mem_append.mp hcommand with hbacking | hunref
  · split at hbacking
    · split at hbacking
      · rw [List.mem_singleton.mp hbacking] at hbody
        cases hbody
      · rw [List.mem_singleton.mp hbacking] at hbody
        cases hbody
    · cases hbacking
  · rw [List.mem_singleton.mp hunref] at hbody
    cases hbody

private theorem of_created {addBuf : Nat → Bool} {contextId : UInt32}
    {resource : VirglResource} {commands : List (Queue × Command)}
    (h : MapsBlobs before) (hnumbered : Numbered before)
    (hcreates : CreationCommands contextId resource commands)
    (hissues : Issues addBuf commands before after)
    (hrecords : after.records.Perm
      (recordOf (contextId, resource) :: before.records))
    (hnext : resource.id.toNat = before.resourceIds.drawn + 1)
    (hdrawn : after.resourceIds.drawn = before.resourceIds.drawn + 1) :
    MapsBlobs after := by
  have hnew : ∀ buffer ∈ after.sent .command, ∀ id,
      buffer.mappedId = some id → buffer ∈ before.sent .command ∨
        (id = resource.id ∧ resource.bForBlob = true) := by
    intro buffer hbuffer id hmapped
    refine (hissues.mem_sent hbuffer).imp_right fun hcommand => ?_
    unfold VgpuBuffer.mappedId at hmapped
    cases hcreates with
    | bare create hbuffer hblob =>
        rw [List.mem_singleton, Prod.mk.injEq] at hcommand
        rw [hcommand.2] at hmapped
        cases hmapped
    | backed create gpa size hbuffer hblob =>
        simp only [List.mem_cons, Prod.mk.injEq, true_and, List.not_mem_nil,
          or_false] at hcommand
        rcases hcommand with hcommand | hcommand
        · rw [hcommand] at hmapped
          cases hmapped
        · rw [hcommand] at hmapped
          cases hmapped
    | blob create hbuffer hblob =>
        simp only [List.mem_cons, Prod.mk.injEq, true_and, List.not_mem_nil,
          or_false] at hcommand
        rcases hcommand with hcommand | hcommand
        · rw [hcommand] at hmapped
          cases hmapped
        · rw [hcommand] at hmapped
          exact ⟨(Option.some.inj hmapped).symm, hblob⟩
  constructor
  · intro buffer hbuffer id hmapped
    rcases hnew buffer hbuffer id hmapped with hold | ⟨rfl, _⟩
    · have hbound := h.bound buffer hold id hmapped
      omega
    · omega
  · intro buffer hbuffer record hrecord hmapped
    rcases hnew buffer hbuffer _ hmapped with hold | ⟨hid, hblob⟩
    · rcases List.mem_cons.mp (hrecords.mem_iff.mp hrecord) with rfl | hrest
      · have hbound := h.bound buffer hold _ hmapped
        simp only [recordOf] at hbound
        omega
      · exact h.blobs buffer hold record hrest hmapped
    · rcases List.mem_cons.mp (hrecords.mem_iff.mp hrecord) with rfl | hrest
      · exact hblob
      · have hbound := (hnumbered.ids record hrest).2
        rw [hid] at hbound
        omega

theorem trace {addBuf : Nat → Bool} {contextId : UInt32}
    (h : MapsBlobs before) (hnumbered : Numbered before)
    (hstep : TraceStep addBuf contextId before after)
    (hleft : after.resourceIds.drawn < 2 ^ 32) : MapsBlobs after := by
  have hdrawn := (hnumbered.counted_after hstep.counter).2
  have hsame : SameObjects before after →
      ∀ record ∈ after.records, record ∈ before.records :=
    fun hobjects record hrecord => hobjects.records ▸ hrecord
  cases hstep with
  | quiet hobjects hids hissues =>
      exact h.of_issues hissues (by simp) (hsame hobjects) hdrawn
  | opened contextInit hnew hcontexts hrecords hids hissues =>
      exact h.of_issues hissues (by simp)
        (fun record hrecord => hrecords ▸ hrecord) hdrawn
  | created resource commands hcontext hcreates hid hserial hcontexts
      hrecords hids hissues =>
      obtain ⟨hnext, hone⟩ := hnumbered.drawn_id hids hleft
      exact h.of_created hnumbered hcreates hissues hrecords
        (hid ▸ hnext) hone
  | exhausted create hcontext hobjects hids hissues =>
      exact h.of_issues hissues (by simp) (hsame hobjects) hdrawn
  | closed resource hcontext hcontexts hrecords hids hissues =>
      refine h.of_issues hissues
        (fun command hcommand => deletion_body hcommand) ?_ hdrawn
      intro record hrecord
      exact hrecords.mem_iff.mpr (List.mem_cons_of_mem _ hrecord)
  | destroyed resources hcontext hcontexts hrecords hids hissues =>
      refine h.of_issues hissues ?_ ?_ hdrawn
      · intro command hcommand
        rcases List.mem_append.mp hcommand with hdeletion | hdestroy
        · obtain ⟨resource, _, hmem⟩ := List.mem_flatMap.mp hdeletion
          exact deletion_body hmem
        · rw [List.mem_singleton.mp hdestroy]
          exact fun _ => nofun
      · intro record hrecord
        exact hrecords.mem_iff.mpr (List.mem_append_right _ hrecord)
  | transferred resource toHost transfer hcontext hresource htransfer hobjects
      hids hissues =>
      exact h.of_issues hissues (by simp) (hsame hobjects) hdrawn
  | submitted buffer hcontext hsubmit hctxId hserial hobjects hids hsends =>
      refine h.of_commands hsends ?_ (hsame hobjects) hdrawn
      intro other hother
      have hmem := (List.mem_filter.mp (mem_onQueue.mp hother)).1
      rw [List.mem_singleton, Prod.mk.injEq] at hmem
      rw [hmem.2]
      unfold VgpuBuffer.IsSubmit at hsubmit
      unfold VgpuBuffer.mappedId
      split at hsubmit
      · rename_i hbody
        rw [hbody]
      · cases hsubmit

theorem step {addBuf : Nat → Bool} {world : World}
    (h : MapsBlobs world.driver) (hnumbered : Numbered world.driver)
    (action : Action)
    (hleft : (World.step addBuf world action).driver.resourceIds.drawn <
      2 ^ 32) : MapsBlobs (World.step addBuf world action).driver := by
  rcases World.step_trace addBuf world action with
    ⟨contextId, hstep⟩ | hidles
  · exact h.trace hnumbered hstep hleft
  · have hsent := sent_of_pushes .command hidles.pushes
    have hrecords := hidles.same.records
    constructor
    · rw [hsent, hidles.resourceIds]
      exact h.bound
    · rw [hsent, hrecords]
      exact h.blobs

end MapsBlobs

theorem start_mapsBlobs (virtualAddress physicalAddress memorySize : Nat)
    (capsets : Capsets) :
    MapsBlobs (World.start virtualAddress physicalAddress memorySize
      capsets).driver where
  bound := by simp [World.start, Driver.sent, Driver.pushes]
  blobs := by simp [World.start, Driver.sent, Driver.pushes]

end VgpuDriver
