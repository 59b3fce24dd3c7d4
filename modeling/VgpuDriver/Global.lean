import Mathlib

namespace VgpuDriver

/-! The constants and structures of `global.h`.  Pointers and `SIZE_T` values
are natural numbers, a nullable pointer is an `Option`. -/

/-- `PAGE_SIZE` -/
def pageSize : Nat := 0x1000

/-- `ROUND_UP(x, n)`, computed in the type of its operands. -/
def roundUp {α : Type} [Add α] [Sub α] [Neg α] [AndOp α] [OfNat α 1]
    (x n : α) : α :=
  (x + n - 1) &&& (-n)

structure MemoryDescriptor where
  virtualAddress : Nat
  physicalAddress : Nat
  deriving DecidableEq, Repr

/-- `MDL`: the bytes it describes; the number stands for its address. -/
structure Mdl where
  number : Nat
  address : Nat
  byteCount : Nat
  deriving DecidableEq, Repr

structure ShareDescriptor where
  pMdl : Option Mdl
  size : Nat
  userAddress : Option Nat
  kernelAddress : Nat
  deriving DecidableEq, Repr

structure VgpuMemoryBuffer where
  size : Nat
  share : ShareDescriptor
  memory : MemoryDescriptor
  deriving DecidableEq, Repr

/-- `VIRGL_RESOURCE`.  `stateEvent` is the signal state of the event object;
`serial` is a ghost: the index of the `virtqueue_add_buf` call that carries the
create command of the resource, which tells apart resources that get the same
32-bit id. -/
structure VirglResource where
  id : UInt32
  stateEvent : Bool
  bForBuffer : Bool
  bForBlob : Bool
  fenceId : UInt64
  buffer : VgpuMemoryBuffer
  serial : Nat
  deriving DecidableEq, Repr

/-- `VIRGL_CONTEXT`; the head of the list is the entry inserted last. -/
structure VirglContext where
  id : UInt32
  resourceList : List VirglResource
  deriving DecidableEq, Repr

/-- `VIRTIO_GPU_DRV_CAPSET` -/
structure DrvCapset where
  id : UInt32
  maxVersion : UInt32
  maxSize : UInt32
  deriving DecidableEq, Repr

structure Capsets where
  initialized : Bool
  numCaps : UInt32
  data : List DrvCapset
  capsetIdMask : UInt64
  deriving DecidableEq, Repr

/-- The `NTSTATUS` values the handlers return; `other` is an error status
handed through from a routine of the system. -/
inductive NtStatus
  | success
  | unsuccessful
  | insufficientResources
  | notSupported
  | other (code : UInt32)
  deriving DecidableEq, Repr

theorem pageSize_pos : 0 < pageSize := by decide

private theorem and_mod_pageSize {value mask : Nat}
    (hmask : mask % 2 ^ 12 = 0) : (value &&& mask) % pageSize = 0 := by
  change (value &&& mask) % 2 ^ 12 = 0
  rw [Nat.and_mod_two_pow, hmask, Nat.and_zero]

theorem roundUp_uint32_mod (x : UInt32) :
    (roundUp x 0x1000).toNat % pageSize = 0 := by
  unfold roundUp
  rw [UInt32.toNat_and]
  exact and_mod_pageSize (by decide)

end VgpuDriver
