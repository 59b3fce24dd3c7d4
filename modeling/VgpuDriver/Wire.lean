import VgpuDriver.Data.Packed
import VgpuDriver.Command

namespace VgpuDriver

open Data

/-! The bytes of the commands: the packed structures of `command.h`, filled in
by the builders of `command.c` in memory that the pool has zeroed. -/

/-- The members of `virtio_gpu_ctrl_type` that the driver names. -/
inductive CtrlType
  | resourceCreate2d
  | resourceUnref
  | transferToHost2d
  | resourceAttachBacking
  | resourceDetachBacking
  | getCapsetInfo
  | getCapset
  | resourceCreateBlob
  | ctxCreate
  | ctxDestroy
  | ctxAttachResource
  | ctxDetachResource
  | resourceCreate3d
  | transferToHost3d
  | transferFromHost3d
  | submit3d
  | resourceMapBlob
  | resourceUnmapBlob
  deriving DecidableEq, Repr

namespace CtrlType

def value : CtrlType → UInt32
  | .resourceCreate2d => 0x0101
  | .resourceUnref => 0x0102
  | .transferToHost2d => 0x0105
  | .resourceAttachBacking => 0x0106
  | .resourceDetachBacking => 0x0107
  | .getCapsetInfo => 0x0108
  | .getCapset => 0x0109
  | .resourceCreateBlob => 0x010c
  | .ctxCreate => 0x0200
  | .ctxDestroy => 0x0201
  | .ctxAttachResource => 0x0202
  | .ctxDetachResource => 0x0203
  | .resourceCreate3d => 0x0204
  | .transferToHost3d => 0x0205
  | .transferFromHost3d => 0x0206
  | .submit3d => 0x0207
  | .resourceMapBlob => 0x0208
  | .resourceUnmapBlob => 0x0209

/-- The label of a `switch` on the type that is taken, none for `default`. -/
def ofValue (value : UInt32) : Option CtrlType :=
  [resourceCreate2d, resourceUnref, transferToHost2d, resourceAttachBacking,
    resourceDetachBacking, getCapsetInfo, getCapset, resourceCreateBlob,
    ctxCreate, ctxDestroy, ctxAttachResource, ctxDetachResource,
    resourceCreate3d, transferToHost3d, transferFromHost3d, submit3d,
    resourceMapBlob, resourceUnmapBlob].find? fun type =>
      decide (type.value = value)

@[simp] theorem ofValue_value (type : CtrlType) :
    ofValue type.value = some type := by
  cases type with
  | resourceCreate2d => rfl
  | resourceUnref => rfl
  | transferToHost2d => rfl
  | resourceAttachBacking => rfl
  | resourceDetachBacking => rfl
  | getCapsetInfo => rfl
  | getCapset => rfl
  | resourceCreateBlob => rfl
  | ctxCreate => rfl
  | ctxDestroy => rfl
  | ctxAttachResource => rfl
  | ctxDetachResource => rfl
  | resourceCreate3d => rfl
  | transferToHost3d => rfl
  | transferFromHost3d => rfl
  | submit3d => rfl
  | resourceMapBlob => rfl
  | resourceUnmapBlob => rfl

end CtrlType

/-- `virtio_gpu_ctrl_hdr`: the type and the members the builders fill in;
`ring_idx` and `padding` stay zero. -/
def virtioGpuCtrlHdr : Packed (UInt32 × CtrlHdr) :=
  (Packed.u32.seq (Packed.u32.seq (Packed.u64.seq (Packed.u32.seq
      ((Packed.zeros 1).seq (Packed.zeros 3)))))).record
    (fun (type, flags, fenceId, ctxId, _) =>
      (type, { flags := flags, fenceId := fenceId, ctxId := ctxId }))
    (fun (type, hdr) => (type, hdr.flags, hdr.fenceId, hdr.ctxId, (), ()))
    fun _ => rfl

/-- A word and the padding behind it. -/
def paddedWord : Packed UInt32 :=
  (Packed.u32.seq (Packed.zeros 4)).record Prod.fst (fun value => (value, ()))
    fun _ => rfl

def virtioGpuGetCapsetInfo : Packed ((UInt32 × CtrlHdr) × UInt32) :=
  virtioGpuCtrlHdr.seq paddedWord

/-- `capset_id` and `capset_version` -/
def virtioGpuGetCapset : Packed ((UInt32 × CtrlHdr) × UInt32 × UInt32) :=
  virtioGpuCtrlHdr.seq (Packed.u32.seq Packed.u32)

/-- The `debugName` of `CreateVirglContext`. -/
def debugName : List UInt8 :=
  "tenclass".toList.map fun letter => UInt8.ofNat letter.toNat

/-- `nlen` and `debug_name` around the `context_init`. -/
def virtioGpuCtxCreate : Packed ((UInt32 × CtrlHdr) × UInt32) :=
  virtioGpuCtrlHdr.seq
    (((Packed.literal (storeWord 4 debugName.length)).seq
        (Packed.u32.seq ((Packed.literal debugName).seq
          (Packed.zeros (64 - debugName.length))))).record
      (fun (_, contextInit, _) => contextInit)
      (fun contextInit => ((), contextInit, (), ()))
      fun _ => rfl)

def virtioGpuCtxDestroy : Packed ((UInt32 × CtrlHdr) × Unit) :=
  virtioGpuCtrlHdr.seq (Packed.zeros 0)

/-- `resource_id`, `format`, `width`, `height` -/
def virtioGpuResourceCreate2d :
    Packed ((UInt32 × CtrlHdr) × UInt32 × UInt32 × UInt32 × UInt32) :=
  virtioGpuCtrlHdr.seq
    (Packed.u32.seq (Packed.u32.seq (Packed.u32.seq Packed.u32)))

/-- `width` to `flags`, in the order both create commands have them. -/
def resourceExtent :
    Packed (UInt32 × UInt32 × UInt32 × UInt32 × UInt32 × UInt32 × UInt32) :=
  Packed.u32.seq (Packed.u32.seq (Packed.u32.seq (Packed.u32.seq
    (Packed.u32.seq (Packed.u32.seq Packed.u32)))))

/-- The parameters in the order `target`, `format`, `bind`. -/
def virtioGpuResourceCreate3d :
    Packed ((UInt32 × CtrlHdr) × UInt32 × ResourceCreateParam) :=
  virtioGpuCtrlHdr.seq (Packed.u32.seq
    ((Packed.u32.seq (Packed.u32.seq (Packed.u32.seq
        (resourceExtent.seq (Packed.zeros 4))))).record
      (fun (target, format, bind,
          (width, height, depth, arraySize, lastLevel, nrSamples, flags),
          _) =>
        { target := target, format := format, bind := bind, width := width
          height := height, depth := depth, arraySize := arraySize
          lastLevel := lastLevel, nrSamples := nrSamples, flags := flags })
      (fun create =>
        (create.target, create.format, create.bind,
          (create.width, create.height, create.depth, create.arraySize,
            create.lastLevel, create.nrSamples, create.flags), ()))
      fun _ => rfl))

/-- The parameters in the order `format`, `bind`, `target`. -/
def virtioGpuResourceCreateBlob :
    Packed ((UInt32 × CtrlHdr) × UInt32 × BlobResourceCreateParam) :=
  virtioGpuCtrlHdr.seq (Packed.u32.seq
    ((Packed.u32.seq (Packed.u32.seq (Packed.u32.seq
        (Packed.u64.seq (Packed.u64.seq
          (Packed.u32.seq (Packed.u32.seq (Packed.u32.seq
            resourceExtent)))))))).record
      (fun (blobMem, blobFlags, nrEntries, blobId, size, format, bind, target,
          width, height, depth, arraySize, lastLevel, nrSamples, flags) =>
        { blobMem := blobMem, blobFlags := blobFlags, nrEntries := nrEntries
          blobId := blobId, size := size
          param :=
            { target := target, format := format, bind := bind
              width := width, height := height, depth := depth
              arraySize := arraySize, lastLevel := lastLevel
              nrSamples := nrSamples, flags := flags } })
      (fun create =>
        (create.blobMem, create.blobFlags, create.nrEntries, create.blobId,
          create.size, create.param.format, create.param.bind,
          create.param.target, create.param.width, create.param.height,
          create.param.depth, create.param.arraySize, create.param.lastLevel,
          create.param.nrSamples, create.param.flags))
      fun _ => rfl))

/-- A command about one resource, as unref, attach, detach, map and unmap. -/
def resourceCommand : Packed ((UInt32 × CtrlHdr) × UInt32) :=
  virtioGpuCtrlHdr.seq paddedWord

def virtioGpuResourceUnref : Packed ((UInt32 × CtrlHdr) × UInt32) :=
  resourceCommand

def virtioGpuResourceDetachBacking : Packed ((UInt32 × CtrlHdr) × UInt32) :=
  resourceCommand

def virtioGpuCtxResource : Packed ((UInt32 × CtrlHdr) × UInt32) :=
  resourceCommand

def virtioGpuResourceMapBlob : Packed ((UInt32 × CtrlHdr) × UInt32) :=
  resourceCommand

def virtioGpuResourceUnmapBlob : Packed ((UInt32 × CtrlHdr) × UInt32) :=
  resourceCommand

/-- `resource_id`, `gpa` and `size`; nobody writes `nr_entries`. -/
def virtioGpuResourceAttachBacking :
    Packed ((UInt32 × CtrlHdr) × UInt32 × UInt64 × UInt32) :=
  virtioGpuCtrlHdr.seq
    ((Packed.u32.seq ((Packed.zeros 4).seq
        (Packed.u64.seq Packed.u32))).record
      (fun (resourceId, _, gpa, size) => (resourceId, gpa, size))
      (fun (resourceId, gpa, size) => (resourceId, (), gpa, size))
      fun _ => rfl)

def virtioGpuBox : Packed Box :=
  (Packed.u32.seq (Packed.u32.seq (Packed.u32.seq (Packed.u32.seq
      (Packed.u32.seq Packed.u32))))).record
    (fun (x, y, z, w, h, d) =>
      { x := x, y := y, z := z, w := w, h := h, d := d })
    (fun box => (box.x, box.y, box.z, box.w, box.h, box.d))
    fun _ => rfl

def virtioGpuTransferHost3d :
    Packed ((UInt32 × CtrlHdr) × TransferHost3dParam) :=
  virtioGpuCtrlHdr.seq
    ((virtioGpuBox.seq (Packed.u64.seq (Packed.u32.seq (Packed.u32.seq
        (Packed.u32.seq Packed.u32))))).record
      (fun (box, offset, resourceId, level, stride, layerStride) =>
        { box := box, offset := offset, resourceId := resourceId
          level := level, stride := stride, layerStride := layerStride })
      (fun transfer =>
        (transfer.box, transfer.offset, transfer.resourceId, transfer.level,
          transfer.stride, transfer.layerStride))
      fun _ => rfl)

def virtioGpuRect : Packed Rect :=
  (Packed.u32.seq (Packed.u32.seq (Packed.u32.seq Packed.u32))).record
    (fun (x, y, width, height) =>
      { x := x, y := y, width := width, height := height })
    (fun r => (r.x, r.y, r.width, r.height))
    fun _ => rfl

def virtioGpuTransferToHost2d :
    Packed ((UInt32 × CtrlHdr) × TransferHost2dParam) :=
  virtioGpuCtrlHdr.seq
    ((virtioGpuRect.seq (Packed.u64.seq paddedWord)).record
      (fun (r, offset, resourceId) =>
        { r := r, offset := offset, resourceId := resourceId })
      (fun transfer => (transfer.r, transfer.offset, transfer.resourceId))
      fun _ => rfl)

/-- `size` and the padding behind it. -/
def virtioGpuCmdSubmit : Packed ((UInt32 × CtrlHdr) × UInt32) :=
  virtioGpuCtrlHdr.seq paddedWord

/-- `map_info`, `gpa` and `size` of `virtio_gpu_resp_map_info`. -/
def virtioGpuRespMapInfo :
    Packed ((UInt32 × CtrlHdr) × UInt32 × UInt64 × UInt64 × Unit) :=
  virtioGpuCtrlHdr.seq
    (Packed.u32.seq (Packed.u64.seq (Packed.u64.seq (Packed.zeros 4))))

/-- The type a builder puts into the header. -/
def CommandBody.ctrlType : CommandBody → CtrlType
  | .getCapsetInfo _ => .getCapsetInfo
  | .getCapset _ _ => .getCapset
  | .ctxCreate _ => .ctxCreate
  | .ctxDestroy => .ctxDestroy
  | .resourceCreate2d _ _ _ _ => .resourceCreate2d
  | .resourceCreate3d _ _ => .resourceCreate3d
  | .resourceCreateBlob _ _ => .resourceCreateBlob
  | .resourceMapBlob _ => .resourceMapBlob
  | .resourceUnmapBlob _ => .resourceUnmapBlob
  | .resourceAttachBacking _ _ _ => .resourceAttachBacking
  | .resourceDetachBacking _ => .resourceDetachBacking
  | .resourceUnref _ => .resourceUnref
  | .ctxAttachResource _ => .ctxAttachResource
  | .ctxDetachResource _ => .ctxDetachResource
  | .transferToHost2d _ => .transferToHost2d
  | .transferHost3d toHost _ =>
      if toHost then .transferToHost3d else .transferFromHost3d
  | .submit3d _ => .submit3d

/-- The `CmdSize` that the builder asks `AllocateCommandBuffer` for. -/
def CommandBody.size : CommandBody → Nat
  | .getCapsetInfo _ => virtioGpuGetCapsetInfo.size
  | .getCapset _ _ => virtioGpuGetCapset.size
  | .ctxCreate _ => virtioGpuCtxCreate.size
  | .ctxDestroy => virtioGpuCtxDestroy.size
  | .resourceCreate2d _ _ _ _ => virtioGpuResourceCreate2d.size
  | .resourceCreate3d _ _ => virtioGpuResourceCreate3d.size
  | .resourceCreateBlob _ _ => virtioGpuResourceCreateBlob.size
  | .resourceMapBlob _ => virtioGpuResourceMapBlob.size
  | .resourceUnmapBlob _ => virtioGpuResourceUnmapBlob.size
  | .resourceAttachBacking _ _ _ => virtioGpuResourceAttachBacking.size
  | .resourceDetachBacking _ => virtioGpuResourceDetachBacking.size
  | .resourceUnref _ => virtioGpuResourceUnref.size
  | .ctxAttachResource _ => virtioGpuCtxResource.size
  | .ctxDetachResource _ => virtioGpuCtxResource.size
  | .transferToHost2d _ => virtioGpuTransferToHost2d.size
  | .transferHost3d _ _ => virtioGpuTransferHost3d.size
  | .submit3d _ => virtioGpuCmdSubmit.size

namespace Command

/-- The bytes at `pBuf` when the builder pushes the buffer. -/
def store (command : Command) : List UInt8 :=
  let hdr := (command.body.ctrlType.value, command.hdr)
  match command.body with
  | .getCapsetInfo capsetIndex =>
      virtioGpuGetCapsetInfo.store (hdr, capsetIndex)
  | .getCapset capsetId capsetVersion =>
      virtioGpuGetCapset.store (hdr, capsetId, capsetVersion)
  | .ctxCreate contextInit => virtioGpuCtxCreate.store (hdr, contextInit)
  | .ctxDestroy => virtioGpuCtxDestroy.store (hdr, ())
  | .resourceCreate2d resourceId format width height =>
      virtioGpuResourceCreate2d.store (hdr, resourceId, format, width, height)
  | .resourceCreate3d resourceId create =>
      virtioGpuResourceCreate3d.store (hdr, resourceId, create)
  | .resourceCreateBlob resourceId create =>
      virtioGpuResourceCreateBlob.store (hdr, resourceId, create)
  | .resourceMapBlob resourceId =>
      virtioGpuResourceMapBlob.store (hdr, resourceId)
  | .resourceUnmapBlob resourceId =>
      virtioGpuResourceUnmapBlob.store (hdr, resourceId)
  | .resourceAttachBacking resourceId gpa size =>
      virtioGpuResourceAttachBacking.store
        (hdr, resourceId, UInt64.ofNat gpa, size)
  | .resourceDetachBacking resourceId =>
      virtioGpuResourceDetachBacking.store (hdr, resourceId)
  | .resourceUnref resourceId =>
      virtioGpuResourceUnref.store (hdr, resourceId)
  | .ctxAttachResource resourceId =>
      virtioGpuCtxResource.store (hdr, resourceId)
  | .ctxDetachResource resourceId =>
      virtioGpuCtxResource.store (hdr, resourceId)
  | .transferToHost2d transfer =>
      virtioGpuTransferToHost2d.store (hdr, transfer)
  | .transferHost3d _ transfer =>
      virtioGpuTransferHost3d.store (hdr, transfer)
  | .submit3d size => virtioGpuCmdSubmit.store (hdr, size)

/-- The physical address of a backing fits the member of the command. -/
def Addressable (command : Command) : Prop :=
  match command.body with
  | .resourceAttachBacking _ gpa _ => gpa < 2 ^ 64
  | _ => True

instance (command : Command) : Decidable command.Addressable := by
  unfold Addressable
  split
  · exact inferInstance
  · exact inferInstance

variable {command : Command}

theorem store_length : command.store.length = command.body.size := by
  obtain ⟨hdr, body⟩ := command
  cases body with
  | transferHost3d toHost transfer => exact Packed.length_store _ _
  | _ => exact Packed.length_store _ _

theorem peek_hdr (rest : List UInt8) :
    virtioGpuCtrlHdr.peek 0 (command.store ++ rest) =
      (command.body.ctrlType.value, command.hdr) := by
  obtain ⟨hdr, body⟩ := command
  cases body with
  | _ => exact Packed.peek_seq_store_append virtioGpuCtrlHdr _ _ rest

end Command

end VgpuDriver
