import VgpuDriver.Data.Chunks
import VgpuDriver.Global

namespace VgpuDriver

open Data

/-! The commands of `command.h` and the buffers that carry them. -/

/-- `virtio_gpu_ctrl_hdr` without `type`, which the body determines. -/
structure CtrlHdr where
  flags : UInt32
  fenceId : UInt64
  ctxId : UInt32
  deriving DecidableEq, Repr

/-- `VIRTIO_GPU_FLAG_FENCE` -/
def flagFence : UInt32 := 1

/-- The header the builders write: flag and fence id only for a fence id that
is not 0, everything else zero as the pool gave it. -/
def ctrlHdr (ctxId : UInt32) (fenceId : UInt64) : CtrlHdr :=
  if fenceId > 0 then
    { flags := flagFence, fenceId := fenceId, ctxId := ctxId }
  else
    { flags := 0, fenceId := 0, ctxId := ctxId }

@[simp] theorem ctrlHdr_ctxId (ctxId : UInt32) (fenceId : UInt64) :
    (ctrlHdr ctxId fenceId).ctxId = ctxId := by
  unfold ctrlHdr
  split
  · rfl
  · rfl

@[simp] theorem ctrlHdr_fenceId (ctxId : UInt32) (fenceId : UInt64) :
    (ctrlHdr ctxId fenceId).fenceId = fenceId := by
  unfold ctrlHdr
  split
  · rfl
  · rename_i hzero
    have hnat : ¬(0 : UInt64).toNat < fenceId.toNat := hzero
    have heq : fenceId.toNat = 0 := by simpa using hnat
    exact (UInt64.toNat_inj.mp (by simpa using heq)).symm

/-- `VIRTGPU_RESOURCE_CREATE_PARAM` -/
structure ResourceCreateParam where
  target : UInt32
  format : UInt32
  bind : UInt32
  width : UInt32
  height : UInt32
  depth : UInt32
  arraySize : UInt32
  lastLevel : UInt32
  nrSamples : UInt32
  flags : UInt32
  deriving DecidableEq, Repr

/-- `VIRTGPU_BLOB_RESOURCE_CREATE_PARAM` -/
structure BlobResourceCreateParam where
  blobMem : UInt32
  blobFlags : UInt32
  nrEntries : UInt32
  blobId : UInt64
  size : UInt64
  param : ResourceCreateParam
  deriving DecidableEq, Repr

/-- `virtio_gpu_rect` -/
structure Rect where
  x : UInt32
  y : UInt32
  width : UInt32
  height : UInt32
  deriving DecidableEq, Repr

/-- `VIRTGPU_TRANSFER_HOST_2D_PARAM` -/
structure TransferHost2dParam where
  r : Rect
  offset : UInt64
  resourceId : UInt32
  deriving DecidableEq, Repr

structure Box where
  x : UInt32
  y : UInt32
  z : UInt32
  w : UInt32
  h : UInt32
  d : UInt32
  deriving DecidableEq, Repr

/-- `VIRTGPU_TRANSFER_HOST_3D_PARAM` -/
structure TransferHost3dParam where
  box : Box
  offset : UInt64
  resourceId : UInt32
  level : UInt32
  stride : UInt32
  layerStride : UInt32
  deriving DecidableEq, Repr

inductive CommandBody
  | getCapsetInfo (capsetIndex : UInt32)
  | getCapset (capsetId capsetVersion : UInt32)
  | ctxCreate (contextInit : UInt32)
  | ctxDestroy
  | resourceCreate2d (resourceId format width height : UInt32)
  | resourceCreate3d (resourceId : UInt32) (create : ResourceCreateParam)
  | resourceCreateBlob (resourceId : UInt32) (create : BlobResourceCreateParam)
  | resourceMapBlob (resourceId : UInt32)
  | resourceUnmapBlob (resourceId : UInt32)
  | resourceAttachBacking (resourceId : UInt32) (gpa : Nat) (size : UInt32)
  | resourceDetachBacking (resourceId : UInt32)
  | resourceUnref (resourceId : UInt32)
  | ctxAttachResource (resourceId : UInt32)
  | ctxDetachResource (resourceId : UInt32)
  | transferToHost2d (transfer : TransferHost2dParam)
  | transferHost3d (toHost : Bool) (transfer : TransferHost3dParam)
  | submit3d (size : UInt32)
  deriving DecidableEq, Repr

/-- The bytes at `pBuf`. -/
structure Command where
  hdr : CtrlHdr
  body : CommandBody
  deriving DecidableEq, Repr

/-- `VGPU_BUFFER`; the fields behind `pBuf` are used by SUBMIT_3D only.  Two
fields are not part of the record: `dataElement` is the scatter entry that is
pushed behind those of `pBuf`, and the ghost `serial` is the index of the
`virtqueue_add_buf` call for the buffer. -/
structure VgpuBuffer where
  pBuf : Command
  resourceIds : Option (List UInt32)
  pDataBuf : Nat
  dataBufSize : Nat
  dataElement : Option Chunk
  fenceObject : Option Nat
  serial : Nat
  deriving DecidableEq, Repr

/-- `gpa` and `size` of `virtio_gpu_resp_map_info`, written by the host. -/
structure MapInfo where
  gpa : Nat
  size : Nat
  deriving DecidableEq, Repr

namespace VgpuBuffer

/-- The ids whose state the completion of the buffer updates. -/
def updatedIds (buffer : VgpuBuffer) : List UInt32 :=
  match buffer.pBuf.body with
  | .submit3d _ => buffer.resourceIds.getD []
  | .transferHost3d _ transfer => [transfer.resourceId]
  | _ => []

/-- The id that a RESOURCE_MAP_BLOB asks the host to map. -/
def mappedId (buffer : VgpuBuffer) : Option UInt32 :=
  match buffer.pBuf.body with
  | .resourceMapBlob resourceId => some resourceId
  | _ => none

def IsSubmit (buffer : VgpuBuffer) : Bool :=
  match buffer.pBuf.body with
  | .submit3d _ => true
  | _ => false

end VgpuBuffer

end VgpuDriver
