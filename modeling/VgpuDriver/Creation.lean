import VgpuDriver.Outcome
import VgpuDriver.Sent

namespace VgpuDriver

open Data

/-! `CtlCreateResource` and `CtlCreateBlobResource` up to the record they
take, and how a creation ends from there. -/

/-- A creation that has its context and its record. -/
structure StartedCreate (α : Type) where
  create : α
  context : VirglContext
  record : VirglResource
  records : LookAsideList VirglResource

/-- What both handlers check and take before they name the resource. -/
def startCreate {α : Type} (contextId : UInt32) (input : Fetch α)
    (output : Fetch Unit) (grant : LookAsideGrant VirglResource)
    (driver : Driver) : Option (StartedCreate α) :=
  match input, output,
      getVirglContextFromListUnsafe driver.virglContextList contextId,
      exAllocateFromLookasideListEx grant
        driver.virglResourceLookAsideList with
  | .ok create, .ok _, some context, some (record, records) =>
      some
        { create := create
          context := context
          record := record
          records := records }
  | _, _, _, _ => none

/-- What was found on the way to the record. -/
structure StartedCreate.From {α : Type} (started : StartedCreate α)
    (contextId : UInt32) (input : Fetch α) (output : Fetch Unit)
    (grant : LookAsideGrant VirglResource) (driver : Driver) : Prop where
  input : input = .ok started.create
  output : output = .ok ()
  context : getVirglContextFromListUnsafe driver.virglContextList contextId =
    some started.context
  record : exAllocateFromLookasideListEx grant
    driver.virglResourceLookAsideList = some (started.record, started.records)

section Start

variable {α : Type} {contextId : UInt32} {input : Fetch α}
variable {output : Fetch Unit} {grant : LookAsideGrant VirglResource}
variable {driver : Driver} {started : StartedCreate α}

theorem startCreate_some
    (hstarted : startCreate contextId input output grant driver =
      some started) : started.From contextId input output grant driver := by
  unfold startCreate at hstarted
  split at hstarted
  · rename_i create _ context record records hcontext hrecord
    cases hstarted
    exact ⟨rfl, rfl, hcontext, hrecord⟩
  · cases hstarted

end Start

variable (addBuf : Nat → Bool)

section Plain

variable {contextId : UInt32} {request : ResourceCreateRequest}
variable {driver : Driver}

theorem ctlCreateResource_of_none
    (hnone : startCreate contextId request.input request.output
      request.record driver = none) :
    ∃ status, status ≠ .success ∧
      ctlCreateResource addBuf contextId request driver =
        (.complete status none, driver) := by
  unfold ctlCreateResource
  cases hinput : request.input with
  | failed code => exact ⟨.other code, by simp, rfl⟩
  | rejected => exact ⟨.unsuccessful, by simp, rfl⟩
  | ok create =>
      cases houtput : request.output with
      | failed code => exact ⟨.other code, by simp, rfl⟩
      | rejected => exact ⟨.unsuccessful, by simp, rfl⟩
      | ok _ =>
          simp only [Fetch.andThen]
          cases hcontext : getVirglContextFromListUnsafe
              driver.virglContextList contextId with
          | none => exact ⟨.unsuccessful, by simp, rfl⟩
          | some context =>
              cases hrecord : exAllocateFromLookasideListEx request.record
                  driver.virglResourceLookAsideList with
              | none =>
                  refine ⟨.insufficientResources, by simp, ?_⟩
                  simp only [createResource, hrecord]
              | some grant =>
                  simp [startCreate, hinput, houtput, hcontext,
                    hrecord] at hnone

/-- How a creation ends that has its record: it runs out of pages, or it
inserts the resource. -/
inductive CreateEnd (started : StartedCreate DrmVirtgpuResourceCreate)
    (driver : Driver) : Reply × Driver → Prop
  | exhausted (hbuffer : started.create.size ≠ 1)
      (halloc : allocateVgpuMemory (resourceBufferSize started.create.size)
        driver.vgpuMemory = none) :
      CreateEnd started driver
        (.complete .insufficientResources none,
          created3d addBuf started.context started.create started.record
            started.records driver)
  | backed (memory : MemoryDescriptor) (vgpuMemory : VgpuMemory)
      (resource : VirglResource) (hbuffer : started.create.size ≠ 1)
      (halloc : allocateVgpuMemory (resourceBufferSize started.create.size)
        driver.vgpuMemory = some (memory, vgpuMemory))
      (hresource : resource = giveBacking
        (resourceBufferSize started.create.size) memory
        (nameResource started.create driver started.record)) :
      CreateEnd started driver
        (.complete .success (some resource.id.toNat),
          (attachResourceBacking addBuf started.context.id resource
            (grantBacking started.context.id resource vgpuMemory
              (created3d addBuf started.context started.create
                started.record started.records driver))).insertResource
                  started.context.id resource)
  | bare (hbuffer : started.create.size = 1) :
      CreateEnd started driver
        (.complete .success
            (some (nameResource started.create driver
              started.record).id.toNat),
          (created3d addBuf started.context started.create started.record
            started.records driver).insertResource started.context.id
              (nameResource started.create driver started.record))

theorem ctlCreateResource_end
    {started : StartedCreate DrmVirtgpuResourceCreate}
    (hstarted : startCreate contextId request.input request.output
      request.record driver = some started) :
    CreateEnd addBuf started driver
      (ctlCreateResource addBuf contextId request driver) := by
  have hfrom := startCreate_some hstarted
  unfold ctlCreateResource
  rw [hfrom.input, hfrom.output]
  simp only [Fetch.andThen, hfrom.context, createResource, hfrom.record]
  split
  · rename_i hbuffer
    have hsize : started.create.size ≠ 1 := by
      simpa [nameResource] using hbuffer
    split
    · rename_i halloc
      exact .exhausted hsize halloc
    · rename_i memory vgpuMemory halloc
      exact .backed memory vgpuMemory _ hsize halloc rfl
  · rename_i hbuffer
    have hsize : started.create.size = 1 := by
      simpa [nameResource] using hbuffer
    exact .bare hsize

end Plain

section Blob

theorem ctlCreateBlobResource_of_started {contextId : UInt32}
    {request : BlobResourceCreateRequest} {driver : Driver}
    {started : StartedCreate DrmVirtgpuResourceCreateBlob}
    (hstarted : startCreate contextId request.input request.output
      request.record driver = some started) :
    ctlCreateBlobResource addBuf contextId request driver =
      (.complete .success
          (some (nameBlob driver started.record).id.toNat),
        mapBlobResource addBuf started.context.id
          (nameBlob driver started.record).id 0
          ((createBlobResource addBuf started.context.id
            (nameBlob driver started.record).id (blobParam started.create) 0
            (takeRecord started.records driver)).insertResource
              started.context.id (nameBlob driver started.record))) := by
  have hfrom := startCreate_some hstarted
  unfold ctlCreateBlobResource
  rw [hfrom.input, hfrom.output]
  simp only [Fetch.andThen, hfrom.context, createBlob, hfrom.record]

variable (contextId : UInt32) (request : BlobResourceCreateRequest)
variable (driver : Driver)

/-- A blob is created exactly when it gets its record. -/
theorem ctlCreateBlobResource_success_iff :
    (∃ output, (ctlCreateBlobResource addBuf contextId request driver).1 =
        .complete .success output) ↔
      (startCreate contextId request.input request.output request.record
        driver).isSome = true := by
  unfold ctlCreateBlobResource startCreate
  cases request.input with
  | failed code => simp [Fetch.andThen]
  | rejected => simp [Fetch.andThen]
  | ok create =>
      cases request.output with
      | failed code => simp [Fetch.andThen]
      | rejected => simp [Fetch.andThen]
      | ok _ =>
          simp only [Fetch.andThen]
          cases getVirglContextFromListUnsafe driver.virglContextList
              contextId with
          | none => simp
          | some context =>
              cases hrecord : exAllocateFromLookasideListEx request.record
                  driver.virglResourceLookAsideList with
              | none => simp [createBlob, hrecord]
              | some grant => simp [createBlob, hrecord]

end Blob

end VgpuDriver
