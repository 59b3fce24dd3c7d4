import VgpuDriver.Scatter
import VgpuDriver.Wire

namespace VgpuDriver

open Data

/-! What the host gets of a command: the bytes behind the elements that the
builder describes it with, and the command that these bytes say. -/

/-- The members behind the header, by the type in the header. -/
def loadBody (bytes : List UInt8) : CtrlType → CommandBody
  | .resourceCreate2d =>
      let cmd := (virtioGpuResourceCreate2d.peek 0 bytes).2
      .resourceCreate2d cmd.1 cmd.2.1 cmd.2.2.1 cmd.2.2.2
  | .resourceUnref =>
      .resourceUnref (virtioGpuResourceUnref.peek 0 bytes).2
  | .transferToHost2d =>
      .transferToHost2d (virtioGpuTransferToHost2d.peek 0 bytes).2
  | .resourceAttachBacking =>
      let cmd := (virtioGpuResourceAttachBacking.peek 0 bytes).2
      .resourceAttachBacking cmd.1 cmd.2.1.toNat cmd.2.2
  | .resourceDetachBacking =>
      .resourceDetachBacking (virtioGpuResourceDetachBacking.peek 0 bytes).2
  | .getCapsetInfo => .getCapsetInfo (virtioGpuGetCapsetInfo.peek 0 bytes).2
  | .getCapset =>
      let cmd := (virtioGpuGetCapset.peek 0 bytes).2
      .getCapset cmd.1 cmd.2
  | .resourceCreateBlob =>
      let cmd := (virtioGpuResourceCreateBlob.peek 0 bytes).2
      .resourceCreateBlob cmd.1 cmd.2
  | .ctxCreate => .ctxCreate (virtioGpuCtxCreate.peek 0 bytes).2
  | .ctxDestroy => .ctxDestroy
  | .ctxAttachResource =>
      .ctxAttachResource (virtioGpuCtxResource.peek 0 bytes).2
  | .ctxDetachResource =>
      .ctxDetachResource (virtioGpuCtxResource.peek 0 bytes).2
  | .resourceCreate3d =>
      let cmd := (virtioGpuResourceCreate3d.peek 0 bytes).2
      .resourceCreate3d cmd.1 cmd.2
  | .transferToHost3d =>
      .transferHost3d true (virtioGpuTransferHost3d.peek 0 bytes).2
  | .transferFromHost3d =>
      .transferHost3d false (virtioGpuTransferHost3d.peek 0 bytes).2
  | .submit3d => .submit3d (virtioGpuCmdSubmit.peek 0 bytes).2
  | .resourceMapBlob =>
      .resourceMapBlob (virtioGpuResourceMapBlob.peek 0 bytes).2
  | .resourceUnmapBlob =>
      .resourceUnmapBlob (virtioGpuResourceUnmapBlob.peek 0 bytes).2

/-- Read a command the way its structure is declared. -/
def loadCommand (bytes : List UInt8) : Option Command :=
  let hdr := virtioGpuCtrlHdr.peek 0 bytes
  (CtrlType.ofValue hdr.1).map fun type =>
    { hdr := hdr.2, body := loadBody bytes type }

/-- The out elements: the command, and for SUBMIT_3D its data, which lie in
contiguous memory at `dataAddress`. -/
def outElements (frame : Nat → Nat) (pBuf dataAddress : Nat)
    (command : Command) : List Chunk :=
  buildSGElement frame sglistSize pBuf command.body.size ++
    match command.body with
    | .submit3d size => [{ start := dataAddress, length := size.toNat }]
    | _ => []

/-- The bytes behind the elements. -/
def gather (memory : Nat → UInt8) (elements : List Chunk) : List UInt8 :=
  (Chunk.bytes elements).map memory

/-- The bytes at a virtual address. -/
def HoldsAt (memory : Nat → UInt8) (frame : Nat → Nat) (address : Nat)
    (bytes : List UInt8) : Prop :=
  ((List.range bytes.length).map fun offset =>
    memory (translate frame pageSize (address + offset))) = bytes

instance (memory : Nat → UInt8) (frame : Nat → Nat) (address : Nat)
    (bytes : List UInt8) : Decidable (HoldsAt memory frame address bytes) :=
  inferInstanceAs (Decidable (_ = _))

/-- The data of a SUBMIT_3D. -/
def submittedData (memory : Nat → UInt8) (dataAddress : Nat)
    (command : Command) : List UInt8 :=
  match command.body with
  | .submit3d size =>
      (List.range size.toNat).map fun offset => memory (dataAddress + offset)
  | _ => []

namespace Command

variable {command : Command} {rest : List UInt8}

theorem loadBody_store (haddressable : command.Addressable) :
    loadBody (command.store ++ rest) command.body.ctrlType = command.body := by
  obtain ⟨hdr, body⟩ := command
  cases body with
  | transferHost3d toHost transfer =>
      cases toHost with
      | true => simp [store, CommandBody.ctrlType, loadBody]
      | false => simp [store, CommandBody.ctrlType, loadBody]
  | resourceAttachBacking resourceId gpa size =>
      have hgpa : gpa % 2 ^ 64 = gpa := Nat.mod_eq_of_lt haddressable
      simp only [store, CommandBody.ctrlType, loadBody,
        Packed.peek_store_append, UInt64.toNat_ofNat', hgpa]
  | _ => simp [store, CommandBody.ctrlType, loadBody]

/-- The bytes of a command determine it, whatever follows them. -/
theorem loadCommand_store_append (haddressable : command.Addressable) :
    loadCommand (command.store ++ rest) = some command := by
  simp only [loadCommand, peek_hdr, CtrlType.ofValue_value, Option.map_some,
    loadBody_store haddressable]

theorem size_pos_le (body : CommandBody) :
    0 < body.size ∧ body.size ≤ 96 := by
  cases body with
  | _ => exact ⟨of_decide_eq_true rfl, of_decide_eq_true rfl⟩

end Command

theorem Data.Chunk.bytes_append (first second : List Chunk) :
    Chunk.bytes (first ++ second) = Chunk.bytes first ++ Chunk.bytes second :=
  List.flatMap_append

section Transport

variable {frame : Nat → Nat} {pBuf respSize : Nat} {command : Command}

/-- The block of a command crosses no page before its reply. -/
theorem command_in_page
    (hpool : PoolBlock pBuf (command.body.size + respSize)) :
    pBuf % pageSize + command.body.size ≤ pageSize := by
  have hsize := (Command.size_pos_le command.body).2
  unfold PoolBlock at hpool
  split at hpool
  · rw [hpool]
    unfold pageSize
    omega
  · omega

theorem buildSGElement_command
    (hpool : PoolBlock pBuf (command.body.size + respSize)) :
    Enumerates frame pageSize pBuf command.body.size
      (buildSGElement frame sglistSize pBuf command.body.size) := by
  have hsize := Command.size_pos_le command.body
  have hroom : command.body.size ≤ (sglistSize + 1) * pageSize := by
    unfold sglistSize pageSize
    omega
  obtain ⟨chunks, hchunks, hiff⟩ :=
    @chunksOf_enumerates_iff frame pageSize _ pBuf _ hroom
  unfold buildSGElement
  rw [hchunks, Option.getD_some, hiff]
  intro index hindex
  have hzero : index = 0 := by
    unfold pageSize at hindex
    omega
  have hpage := command_in_page hpool
  subst hzero
  rw [straight_iff pageSize_pos (Nat.min_le_right _ _)]
  intro hcrosses
  rw [Nat.zero_mul, Nat.add_zero, Nat.sub_zero] at hcrosses
  have hmin := Nat.min_le_left command.body.size pageSize
  omega

theorem gather_outElements {memory : Nat → UInt8} {dataAddress : Nat}
    (hpool : PoolBlock pBuf (command.body.size + respSize))
    (hheld : HoldsAt memory frame pBuf command.store) :
    gather memory (outElements frame pBuf dataAddress command) =
      command.store ++ submittedData memory dataAddress command := by
  have hbytes : Chunk.bytes (buildSGElement frame sglistSize pBuf
      command.body.size) = _ := buildSGElement_command hpool
  have hcommand : (Chunk.bytes (buildSGElement frame sglistSize pBuf
      command.body.size)).map memory = command.store := by
    rw [hbytes, List.map_map, ← Command.store_length]
    exact hheld
  unfold gather outElements submittedData
  rw [Chunk.bytes_append, List.map_append, hcommand]
  apply congrArg (command.store ++ ·)
  cases command.body with
  | submit3d size => simp [Chunk.bytes]
  | _ => rfl

end Transport

/-- Wherever the block of a command lies, the host reads the command and
nothing else from the elements, and behind a SUBMIT_3D its data. -/
theorem host_reads_command (memory : Nat → UInt8) (frame : Nat → Nat)
    (pBuf respSize dataAddress : Nat) (command : Command)
    (haddressable : command.Addressable)
    (hpool : PoolBlock pBuf (command.body.size + respSize))
    (hheld : HoldsAt memory frame pBuf command.store) :
    gather memory (outElements frame pBuf dataAddress command) =
        command.store ++ submittedData memory dataAddress command ∧
      loadCommand (gather memory
        (outElements frame pBuf dataAddress command)) = some command := by
  rw [gather_outElements hpool hheld,
    Command.loadCommand_store_append haddressable]
  exact ⟨rfl, rfl⟩

/-- A SUBMIT_3D with four bytes of data. -/
def shortSubmit : Command where
  hdr := ctrlHdr 7 9
  body := .submit3d 4

/-- Page 1 is mapped to frame 4, the data lie behind that frame. -/
def submitMemory (address : Nat) : UInt8 :=
  if address < 0x5000 then shortSubmit.store.getD (address - 0x4fe0) 0
  else UInt8.ofNat (address - 0x4fff)

/-- The block ends with its page. -/
theorem host_reads_submit :
    gather submitMemory (outElements (· + 3) 0x1fe0 0x5000 shortSubmit) =
        shortSubmit.store ++ submittedData submitMemory 0x5000 shortSubmit ∧
      loadCommand (gather submitMemory
        (outElements (· + 3) 0x1fe0 0x5000 shortSubmit)) =
          some shortSubmit :=
  host_reads_command submitMemory (· + 3) 0x1fe0 0 0x5000 shortSubmit trivial
    (by decide) (by decide +kernel)

end VgpuDriver
