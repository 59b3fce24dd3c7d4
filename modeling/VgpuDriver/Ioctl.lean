import VgpuDriver.Device

namespace VgpuDriver

/-! The requests of `ioctl.h`, each with what the routines of the system that
its handler calls return. -/

/-- A request or user buffer: the routine failed, the check after it did
(wrong length or null pointer), or the contents are there. -/
inductive Fetch (α : Type)
  | failed (code : UInt32)
  | rejected
  | ok (contents : α)
  deriving DecidableEq, Repr

/-- What a handler gives back: it still waits for the event of the resource
with this serial, or it completes with a status and an output value. -/
inductive Reply
  | waiting (owner : Nat)
  | complete (status : NtStatus) (output : Option Nat)
  deriving DecidableEq, Repr

/-- One iteration of the parameter loop: the handler reads `param` once and
`value` for each of its three uses. -/
structure ContextParamRead where
  param : UInt64
  compared : UInt64
  shifted : UInt64
  stored : UInt64
  deriving DecidableEq, Repr

structure DrmVirtgpuContextInit where
  numParams : UInt32
  deriving DecidableEq, Repr

/-- `params` gives for each index what the reads of the locked user array
find. -/
structure ContextInitRequest where
  input : Fetch DrmVirtgpuContextInit
  params : Fetch (Nat → ContextParamRead)
  contextBlock : Bool

structure DrmVirtgpuResourceCreate where
  param : ResourceCreateParam
  size : UInt32
  deriving DecidableEq, Repr

structure ResourceCreateRequest where
  input : Fetch DrmVirtgpuResourceCreate
  output : Fetch Unit
  record : LookAsideGrant VirglResource
  deriving DecidableEq, Repr

structure DrmVirtgpuResourceCreateBlob where
  blobMem : UInt32
  blobFlags : UInt32
  size : UInt64
  blobId : UInt64
  param : ResourceCreateParam
  deriving DecidableEq, Repr

structure BlobResourceCreateRequest where
  input : Fetch DrmVirtgpuResourceCreateBlob
  output : Fetch Unit
  record : LookAsideGrant VirglResource
  deriving DecidableEq, Repr

structure DrmGemClose where
  handle : UInt32
  deriving DecidableEq, Repr

structure DrmVirtgpu3dWait where
  handle : UInt32
  flags : UInt32
  deriving DecidableEq, Repr

/-- `VIRTGPU_WAIT_NOWAIT` -/
def waitNowait : UInt32 := 1

structure WaitRequest where
  input : Fetch DrmVirtgpu3dWait
  output : Fetch Unit
  deriving DecidableEq, Repr

structure DrmVirtgpuMap where
  handle : UInt32
  deriving DecidableEq, Repr

/-- `mdl` is the result of `IoAllocateMdl`; `userAddress` is what
`MmMapLockedPagesSpecifyCache` returns, `none` when it raises. -/
structure MapRequest where
  input : Fetch DrmVirtgpuMap
  output : Fetch Unit
  mdl : Option Nat
  userAddress : Option (Option Nat)
  deriving DecidableEq, Repr

structure DrmVirtgpu3dTransfer where
  boHandle : UInt32
  box : Box
  level : UInt32
  offset : UInt32
  stride : UInt32
  layerStride : UInt32
  deriving DecidableEq, Repr

structure TransferRequest where
  input : Fetch DrmVirtgpu3dTransfer
  deriving DecidableEq, Repr

/-- `VIRTGPU_EXECBUF_FENCE_FD_IN` -/
def execbufFenceFdIn : UInt32 := 1

/-- `VIRTGPU_EXECBUF_FENCE_FD_OUT` -/
def execbufFenceFdOut : UInt32 := 2

structure DrmVirtgpuExecbuffer where
  flags : UInt32
  size : UInt32
  numBoHandles : UInt32
  deriving DecidableEq, Repr

/-- One entry of the handle array is read twice: by the loop that marks the
resources and by the copy that is kept for the completion. -/
structure HandleRead where
  marked : UInt32
  copied : UInt32
  deriving DecidableEq, Repr

/-- The objects are the results of `ObReferenceObjectByHandle`, `waitStatus`
that of `KeWaitForSingleObject` on the first one. -/
structure ExecbufferRequest where
  input : Fetch DrmVirtgpuExecbuffer
  inFence : Except NtStatus Nat
  waitStatus : NtStatus
  outFence : Except NtStatus Nat
  command : Fetch Unit
  handles : Fetch (Nat → HandleRead)
  handlesBlock : Bool

inductive IoRequest
  | contextInit (request : ContextInitRequest)
  | destroyContext
  | resourceCreate (request : ResourceCreateRequest)
  | blobResourceCreate (request : BlobResourceCreateRequest)
  | resourceClose (input : Fetch DrmGemClose)
  | wait (request : WaitRequest)
  | map (request : MapRequest)
  | execbuffer (request : ExecbufferRequest)
  | transferHost (toHost : Bool) (request : TransferRequest)

/-- Go on with the contents of a buffer or complete with the error. -/
def Fetch.andThen {α : Type} (fetch : Fetch α) (driver : Driver)
    (next : α → Reply × Driver) : Reply × Driver :=
  match fetch with
  | .failed code => (.complete (.other code) none, driver)
  | .rejected => (.complete .unsuccessful none, driver)
  | .ok contents => next contents

/-- A handler does something only when the buffer is there. -/
theorem Fetch.andThen_cases {α : Type} (fetch : Fetch α) (driver : Driver)
    (next : α → Reply × Driver) :
    (∃ status, fetch.andThen driver next =
        (.complete status none, driver)) ∨
      ∃ contents, fetch = .ok contents ∧
        fetch.andThen driver next = next contents := by
  cases fetch with
  | failed code => exact Or.inl ⟨_, rfl⟩
  | rejected => exact Or.inl ⟨_, rfl⟩
  | ok contents => exact Or.inr ⟨contents, rfl, rfl⟩

end VgpuDriver
