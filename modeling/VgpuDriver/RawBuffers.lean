import VgpuDriver.Live
import VgpuDriver.System
import VgpuDriver.Wire

namespace VgpuDriver

open Data

/-! The completion handler as it finds the buffers: `pBuf` is a block of
bytes, and the type in its header says what the block is. -/

/-- `VGPU_BUFFER`, with `pRespBuf` as an offset from `pBuf`. -/
structure RawBuffer where
  pBuf : List UInt8
  pRespBuf : Nat
  resourceIds : Option (List UInt32)
  pDataBuf : Nat
  dataBufSize : Nat
  fenceObject : Option Nat
  serial : Nat
  deriving DecidableEq, Repr

/-- The block of `AllocateCommandBuffer`: the command, and behind it what the
host has put into the reply. -/
def VgpuBuffer.raw (buffer : VgpuBuffer) (reply : List UInt8) : RawBuffer where
  pBuf := buffer.pBuf.store ++ reply
  pRespBuf := buffer.pBuf.body.size
  resourceIds := buffer.resourceIds
  pDataBuf := buffer.pDataBuf
  dataBufSize := buffer.dataBufSize
  fenceObject := buffer.fenceObject
  serial := buffer.serial

/-- `gpa` and `size` of a reply. -/
def MapInfo.ofReply (reply : List UInt8) : MapInfo :=
  let resp := (virtioGpuRespMapInfo.peek 0 reply).2
  { gpa := resp.2.1.toNat, size := resp.2.2.1.toNat }

namespace RawBuffer

/-- `FreeCommandBuffer` -/
def free (buffer : RawBuffer) (driver : Driver) : Driver :=
  driver.log (.bufferFreed buffer.serial)

/-- The `switch` of `VirtioVgpuReadFromQueue`. -/
def complete (buffer : RawBuffer) (mapAddress : Option Nat)
    (driver : Driver) : Driver :=
  let header := virtioGpuCtrlHdr.peek 0 buffer.pBuf
  match CtrlType.ofValue header.1 with
  | some .getCapset | some .getCapsetInfo => driver
  | some .submit3d =>
      let idle :=
        match buffer.resourceIds with
        | none => driver
        | some resourceIds =>
            (completeResources header.2.ctxId resourceIds header.2.fenceId
              driver).log (.handlesFreed buffer.serial)
      let signaled :=
        match buffer.fenceObject with
        | none => idle
        | some object => idle.log (.objectSignaled object)
      buffer.free (freePages buffer.pDataBuf buffer.dataBufSize signaled)
  | some .resourceMapBlob =>
      buffer.free
        (match getVirglContextFromListUnsafe driver.virglContextList
            header.2.ctxId with
        | none => driver
        | some context =>
            let cmd := virtioGpuResourceMapBlob.peek 0 buffer.pBuf
            let resp := virtioGpuRespMapInfo.peek buffer.pRespBuf buffer.pBuf
            mapBlobResourceCallback context cmd.2 resp.2.2.2.1.toNat
              mapAddress driver)
  | some .transferToHost3d | some .transferFromHost3d =>
      let transfer := virtioGpuTransferHost3d.peek 0 buffer.pBuf
      buffer.free
        (completeResources header.2.ctxId [transfer.2.resourceId]
          header.2.fenceId driver)
  | some .resourceCreate2d | some .resourceCreate3d
  | some .resourceCreateBlob | some .resourceUnmapBlob
  | some .resourceUnref | some .resourceAttachBacking
  | some .resourceDetachBacking | some .ctxCreate | some .ctxDestroy
  | some .ctxAttachResource | some .ctxDetachResource
  | some .transferToHost2d => buffer.free driver
  | none => buffer.free driver

end RawBuffer

/-- The loop of `VirtioVgpuReadFromQueue` over the buffers the host has
returned. -/
def readFromQueueRaw (queue : Queue) (mapAddresses : Nat → Option Nat) :
    Nat → List RawBuffer → Driver → Driver
  | _, [], driver => driver
  | iteration, buffer :: rest, driver =>
      readFromQueueRaw queue mapAddresses (iteration + 1) rest
        (buffer.complete (mapAddresses iteration)
          (takeUsed queue (driver.virtQueues queue).used.tail driver))

section Completion

variable {buffer : VgpuBuffer} {reply : List UInt8}

theorem raw_hdr :
    virtioGpuCtrlHdr.peek 0 (buffer.raw reply).pBuf =
      (buffer.pBuf.body.ctrlType.value, buffer.pBuf.hdr) :=
  Command.peek_hdr reply

/-- The handler does with the bytes what the command asks for. -/
theorem raw_complete (mapAddress : Option Nat) (driver : Driver) :
    (buffer.raw reply).complete mapAddress driver =
      completeBuffer buffer (MapInfo.ofReply reply) mapAddress driver := by
  unfold RawBuffer.complete completeBuffer
  simp only [raw_hdr, CtrlType.ofValue_value]
  cases hbody : buffer.pBuf.body with
  | submit3d size => rfl
  | resourceMapBlob resourceId =>
      have hcmd : virtioGpuResourceMapBlob.peek 0 (buffer.raw reply).pBuf =
          ((CtrlType.resourceMapBlob.value, buffer.pBuf.hdr), resourceId) := by
        simp [VgpuBuffer.raw, Command.store, hbody, CommandBody.ctrlType]
      have hresp : virtioGpuRespMapInfo.peek (buffer.raw reply).pRespBuf
          (buffer.raw reply).pBuf = virtioGpuRespMapInfo.peek 0 reply := by
        simp only [VgpuBuffer.raw, ← Command.store_length]
        exact Packed.peek_length_append _ _ _
      simp only [CommandBody.ctrlType, hcmd, hresp]
      rfl
  | transferHost3d toHost transfer =>
      have htransfer : (virtioGpuTransferHost3d.peek 0
          (buffer.raw reply).pBuf).2 = transfer := by
        simp [VgpuBuffer.raw, Command.store, hbody]
      cases toHost with
      | true =>
          simp only [CommandBody.ctrlType, if_true, htransfer]
          rfl
      | false =>
          simp only [CommandBody.ctrlType, Bool.false_eq_true, if_false,
            htransfer]
          rfl
  | _ => rfl

end Completion

/-- The `dpc` steps that one pass of the loop over `count` buffers is. -/
def dpcPass (queue : Queue) (mapAddresses : Nat → Option Nat)
    (start count : Nat) : List Action :=
  (List.range' start count).map fun iteration =>
    .dpc queue (mapAddresses iteration)

theorem dpcPass_raw (addBuf : Nat → Bool) (queue : Queue)
    (mapAddresses : Nat → Option Nat) (start : Nat)
    (returned : List (VgpuBuffer × List UInt8)) (world : World)
    (hused : (world.driver.virtQueues queue).used =
      returned.map fun entry => (entry.1, MapInfo.ofReply entry.2)) :
    runFrom (World.step addBuf) world
        (dpcPass queue mapAddresses start returned.length) =
      { world with
        driver := readFromQueueRaw queue mapAddresses start
          (returned.map fun entry => entry.1.raw entry.2) world.driver } := by
  induction returned generalizing start world with
  | nil => rfl
  | cons entry rest ih =>
      obtain ⟨buffer, reply⟩ := entry
      have hread : World.step addBuf world (.dpc queue (mapAddresses start)) =
          { world with
            driver := (buffer.raw reply).complete (mapAddresses start)
              (takeUsed queue (world.driver.virtQueues queue).used.tail
                world.driver) } := by
        rw [raw_complete]
        simp [World.step, readOneFromQueue, hused]
      have hrest := ih (start + 1)
        (World.step addBuf world (.dpc queue (mapAddresses start))) (by
          rw [hread, raw_complete, (completeBuffer_frame _ _ _ _).2.2.2.1]
          simp [takeUsed, hused])
      simp only [List.length_cons, dpcPass, List.range'_succ, List.map_cons,
        runFrom_cons] at hrest ⊢
      rw [hrest, hread]
      rfl

/-- A pass of the completion handler over the bytes of the returned buffers
is a run of the model's completions. -/
theorem raw_pass_completes (addBuf : Nat → Bool) (queue : Queue)
    (mapAddresses : Nat → Option Nat)
    (returned : List (VgpuBuffer × List UInt8)) (world : World)
    (hused : (world.driver.virtQueues queue).used =
      returned.map fun entry => (entry.1, MapInfo.ofReply entry.2)) :
    readFromQueueRaw queue mapAddresses 0
          (returned.map fun entry => entry.1.raw entry.2) world.driver =
        virtioVgpuReadFromQueue queue mapAddresses world.driver ∧
      runFrom (World.step addBuf) world
          (dpcPass queue mapAddresses 0 returned.length) =
        { world with
          driver := readFromQueueRaw queue mapAddresses 0
            (returned.map fun entry => entry.1.raw entry.2) world.driver } := by
  have hpass := dpcPass_raw addBuf queue mapAddresses 0 returned world hused
  refine ⟨?_, hpass⟩
  have hloop : ∀ actions : List Nat, ∀ world : World,
      (runFrom (World.step addBuf) world (actions.map fun iteration =>
        .dpc queue (mapAddresses iteration))).driver =
      actions.foldl (fun driver iteration =>
        readOneFromQueue queue (mapAddresses iteration) driver)
        world.driver := by
    intro actions
    induction actions with
    | nil => exact fun _ => rfl
    | cons iteration rest ih => exact fun world => ih _
  have hdriver := hloop (List.range' 0 returned.length) world
  unfold dpcPass at hpass
  rw [hpass] at hdriver
  rw [virtioVgpuReadFromQueue, hused, List.length_map,
    List.range_eq_range', ← hdriver]

/-- The reply to a RESOURCE_MAP_BLOB: two pages at `0x9000`. -/
def mapReply : List UInt8 :=
  virtioGpuRespMapInfo.store
    ((0x1106, { flags := 0, fenceId := 0, ctxId := 7 }), 1, 0x9000, 0x2000,
      ())

def mapCommand : VgpuBuffer :=
  commandBuffer (ctrlHdr 7 0) (.resourceMapBlob 5) 0

/-- The host has returned one RESOURCE_MAP_BLOB. -/
def mapReturned : World :=
  let world := World.start 0x10000 0x80000 0x10000 .oneCapset
  { world with
    driver :=
      { world.driver with
        virtQueues := fun _ =>
          { avail := [], used := [(mapCommand, MapInfo.ofReply mapReply)] } } }

theorem raw_pass_completes_map :
    readFromQueueRaw .command (fun _ => some 0x40000) 0
          [mapCommand.raw mapReply] mapReturned.driver =
        virtioVgpuReadFromQueue .command (fun _ => some 0x40000)
          mapReturned.driver ∧
      runFrom (World.step fun _ => true) mapReturned
          (dpcPass .command (fun _ => some 0x40000) 0 1) =
        { mapReturned with
          driver := readFromQueueRaw .command (fun _ => some 0x40000) 0
            [mapCommand.raw mapReply] mapReturned.driver } :=
  raw_pass_completes (fun _ => true) .command (fun _ => some 0x40000)
    [(mapCommand, mapReply)] mapReturned rfl

end VgpuDriver
