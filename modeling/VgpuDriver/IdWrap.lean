import VgpuDriver.Effects

namespace VgpuDriver

open Data

/-! A process that creates and closes one resource after the other until the
32-bit ids start again. -/

/-- Process 7 has the only context; `count` ids have been drawn, nothing has
been returned, and `first` are the oldest commands. -/
structure Churned (memory : VgpuMemory) (resources : List VirglResource)
    (first : List VgpuBuffer) (count : Nat) (driver : Driver) : Prop where
  contexts : driver.virglContextList = [{ id := 7, resourceList := resources }]
  ids : driver.resourceIds.id = 1 + count
  drawn : driver.resourceIds.drawn = count
  memory : driver.vgpuMemory = memory
  avail : ∃ rest, (driver.virtQueues .command).avail = first ++ rest
  used : (driver.virtQueues .command).used = []

/-- Create a resource without buffer, which gets the id `1 + count`, and close
it. -/
def createAndClose (count : Nat) : List Action :=
  [.request 7 (.create 1), .request 7 (.close (UInt32.ofNat (1 + count)))]

/-- The same `more` times, after `count` ids. -/
def churn (count more : Nat) : List Action :=
  (List.range' count more).flatMap createAndClose

theorem mem_churn {count more : Nat} {action : Action}
    (haction : action ∈ churn count more) :
    (∃ size, action = .request 7 (.create size)) ∨
      ∃ handle, action = .request 7 (.close handle) := by
  obtain ⟨position, _, hmem⟩ := List.mem_flatMap.mp haction
  simp only [createAndClose, List.mem_cons, List.not_mem_nil,
    or_false] at hmem
  rcases hmem with rfl | rfl
  · exact Or.inl ⟨1, rfl⟩
  · exact Or.inr ⟨_, rfl⟩

namespace Churned

variable {memory : VgpuMemory} {resources : List VirglResource}
variable {first : List VgpuBuffer} {count : Nat}
variable {driver : Driver} {world : World}

theorem nextResourceId_eq (h : Churned memory resources first count driver) :
    nextResourceId driver = UInt32.ofNat (1 + count) := by
  unfold nextResourceId getIdFromIdrWithoutCache lowBytes
  rw [h.ids]
  exact UInt32.toNat_inj.mp (by simp)

private theorem create (h : Churned memory resources first count driver)
    (hleft : 2 + count < 2 ^ 64) :
    Churned memory
      (nameResource { param := IoRequest.resourceParam, size := 1 } driver
        IoRequest.poolRecord :: resources) first (count + 1)
      (virtioVgpuIoControl (fun _ => true) 7 driver (.create 1)).2 := by
  obtain ⟨rest, havail⟩ := h.avail
  have hcreated : (virtioVgpuIoControl (fun _ => true) 7 driver
      (.create 1)).2 =
      (create3dResource (fun _ => true) 7 (nextResourceId driver)
        IoRequest.resourceParam 0
        (takeRecord
          { driver.virglResourceLookAsideList with
            taken := driver.virglResourceLookAsideList.taken + 1 }
          driver)).insertResource 7
        (nameResource { param := IoRequest.resourceParam, size := 1 } driver
          IoRequest.poolRecord) := by
    simp [virtioVgpuIoControl, ctlCreateResource, IoRequest.create,
      Fetch.andThen, getVirglContextFromListUnsafe, h.contexts,
      createResource, exAllocateFromLookasideListEx, nameResource]
  rw [hcreated]
  refine ⟨?_, ?_, ?_, ?_, ⟨rest ++ [commandBuffer (ctrlHdr 7 0)
    (.resourceCreate3d (nextResourceId driver) IoRequest.resourceParam)
    driver.pushCount], ?_⟩, ?_⟩
  · simp [Driver.insertResource, Driver.modifyContext, h.contexts,
      modifyFirst]
  · have hids := h.ids
    simp only [create3dResource, insertResource_frame, sendCommand_frame,
      takeRecord_frame, getIdFromIdrWithoutCache, hids]
    omega
  · simp [getIdFromIdrWithoutCache, h.drawn]
  · simp [h.memory]
  · simp [Driver.insertResource, Driver.modifyContext, create3dResource,
      sendCommand, pushQueue, allocateCommandBuffer, Driver.log, takeRecord,
      havail]
  · simp [Driver.insertResource, Driver.modifyContext, create3dResource,
      sendCommand, pushQueue, allocateCommandBuffer, Driver.log, takeRecord,
      h.used]

private theorem close {resource : VirglResource}
    (h : Churned memory (resource :: resources) first count driver)
    (hbuffer : resource.bForBuffer = false) :
    Churned memory resources first count
      (virtioVgpuIoControl (fun _ => true) 7 driver
        (.close resource.id)).2 := by
  obtain ⟨rest, havail⟩ := h.avail
  have hclosed : (virtioVgpuIoControl (fun _ => true) 7 driver
      (.close resource.id)).2 =
      (unrefResource (fun _ => true) 7 resource.id
        (driver.removeResource 7 resource.id)).releaseRecord resource := by
    simp [virtioVgpuIoControl, ctlCloseResource, IoRequest.close,
      Fetch.andThen, getVirglContextFromListUnsafe,
      getResourceFromListUnsafe, h.contexts, deleteAndRelease,
      deleteResource, hbuffer]
  rw [hclosed]
  refine ⟨?_, ?_, ?_, ?_, ⟨rest ++ [commandBuffer (ctrlHdr 7 0)
    (.resourceUnref resource.id) driver.pushCount], ?_⟩, ?_⟩
  · simp [Driver.releaseRecord, Driver.removeResource, Driver.modifyContext,
      h.contexts, modifyFirst]
  · simp [Driver.releaseRecord, h.ids]
  · simp [Driver.releaseRecord, h.drawn]
  · simp [Driver.releaseRecord, h.memory]
  · simp [Driver.releaseRecord, Driver.removeResource, Driver.modifyContext,
      sendCommand, pushQueue, allocateCommandBuffer, Driver.log, havail]
  · simp [Driver.releaseRecord, Driver.removeResource, Driver.modifyContext,
      sendCommand, pushQueue, allocateCommandBuffer, Driver.log, h.used]

theorem createAndClose
    (h : Churned memory resources first count world.driver)
    (hleft : 2 + count < 2 ^ 64) :
    Churned memory resources first (count + 1)
      (runFrom (World.step fun _ => true) world
        (createAndClose count)).driver := by
  have hclosed := (h.create hleft).close rfl
  have hid : (nameResource { param := IoRequest.resourceParam, size := 1 }
      world.driver IoRequest.poolRecord).id = UInt32.ofNat (1 + count) :=
    h.nextResourceId_eq
  rw [hid] at hclosed
  exact hclosed

theorem churn (h : Churned memory resources first count world.driver)
    (more : Nat) (hleft : 1 + count + more < 2 ^ 64) :
    Churned memory resources first (count + more)
      (runFrom (World.step fun _ => true) world
        (churn count more)).driver := by
  induction more generalizing world count with
  | zero => exact h
  | succ more ih =>
      have hone := h.createAndClose (by omega)
      have hmany := ih hone (by omega)
      have hsum : count + 1 + more = count + (more + 1) := by omega
      rw [hsum, ← runFrom_append] at hmany
      exact hmany

end Churned

end VgpuDriver
