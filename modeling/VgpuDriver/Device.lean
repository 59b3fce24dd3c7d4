import VgpuDriver.Command
import VgpuDriver.Idr
import VgpuDriver.Memory
import VgpuDriver.ResourceState

namespace VgpuDriver

open Data

/-! The state of the driver: its global variables, the device context, and
the virtqueues it shares with the host. -/

/-- `COMMAND_QUEUE` and `CONTROL_QUEUE` -/
inductive Queue
  | command
  | control
  deriving DecidableEq, Repr

instance : Fintype Queue where
  elems := {.command, .control}
  complete := fun queue => by cases queue <;> decide

/-- Buffers the host has not taken yet, and buffers it has returned. -/
structure Virtqueue where
  avail : List VgpuBuffer
  used : List (VgpuBuffer × MapInfo)
  deriving DecidableEq, Repr

/-- Pushed and not yet completed by the driver. -/
def Virtqueue.inFlight (queue : Virtqueue) : List VgpuBuffer :=
  queue.used.map Prod.fst ++ queue.avail

structure LookAsideList (α : Type) where
  free : List α
  taken : Nat
  deriving DecidableEq, Repr

/-- Where `ExAllocateFromLookasideListEx` takes the record from; the pool
hands out memory as it is. -/
inductive LookAsideGrant (α : Type)
  | recycled
  | pool (contents : α)
  | refused
  deriving DecidableEq, Repr

def exAllocateFromLookasideListEx {α : Type} (grant : LookAsideGrant α)
    (list : LookAsideList α) : Option (α × LookAsideList α) :=
  match grant, list.free with
  | .recycled, record :: rest =>
      some (record, { free := rest, taken := list.taken + 1 })
  | .recycled, [] => none
  | .pool contents, _ =>
      some (contents, { list with taken := list.taken + 1 })
  | .refused, _ => none

def exFreeToLookasideListEx {α : Type} (record : α)
    (list : LookAsideList α) : LookAsideList α :=
  { free := record :: list.free, taken := list.taken - 1 }

/-- A backing that a resource had: its context and id, its pages, and the
ghost serial of the resource. -/
structure Backing where
  serial : Nat
  ctxId : UInt32
  resourceId : UInt32
  memory : MemoryDescriptor
  size : Nat
  deriving DecidableEq, Repr

/-- What the driver and the host did, for statements about whole runs.  An
owner is the serial of the resource or of the command concerned. -/
inductive Event
  | pushed (queue : Queue) (buffer : VgpuBuffer)
  | processed (queue : Queue) (buffer : VgpuBuffer)
  | bufferTaken (serial : Nat)
  | bufferFreed (serial : Nat)
  | handlesTaken (serial : Nat)
  | handlesFreed (serial : Nat)
  | granted (owner : Nat) (memory : MemoryDescriptor) (size : Nat)
  | copied (address size : Nat)
  | backed (backing : Backing)
  | unbacked (serial detachSerial : Nat)
  | ioMapped (owner address size : Nat)
  | ioUnmapped (owner address size : Nat)
  | shared (owner address size : Nat)
  | userMapped (owner address : Nat) (mdl : Mdl)
  | userUnmapped (owner address : Nat) (mdl : Mdl)
  | released (owner : Nat)
  | objectReferenced (object : Nat)
  | objectSignaled (object : Nat)
  deriving DecidableEq, Repr

/-- `pushCount` is the number of `virtqueue_add_buf` calls made, the newest
event of `history` comes first. -/
structure Driver where
  vgpuMemory : VgpuMemory
  virglContextList : List VirglContext
  resourceIds : Idr
  fenceIds : Idr
  virtQueues : Queue → Virtqueue
  virglResourceLookAsideList : LookAsideList VirglResource
  capsets : Capsets
  pushCount : Nat
  history : List Event

namespace Driver

def log (event : Event) (driver : Driver) : Driver :=
  { driver with history := event :: driver.history }

/-- Change the context that a lookup by id finds. -/
def modifyContext (id : UInt32) (change : VirglContext → VirglContext)
    (driver : Driver) : Driver :=
  { driver with
    virglContextList := modifyFirst (fun context => decide (context.id = id))
      change driver.virglContextList }

/-- `ExInterlockedInsertHeadList` on the resource list of the context. -/
def insertResource (contextId : UInt32) (resource : VirglResource)
    (driver : Driver) : Driver :=
  driver.modifyContext contextId fun context =>
    { context with resourceList := resource :: context.resourceList }

/-- Unlink the resource that a lookup by id finds. -/
def removeResource (contextId resourceId : UInt32) (driver : Driver) :
    Driver :=
  driver.modifyContext contextId fun context =>
    { context with
      resourceList := context.resourceList.eraseP fun resource =>
        decide (resource.id = resourceId) }

/-- Return the record of a deleted resource to its lookaside list. -/
def releaseRecord (resource : VirglResource) (driver : Driver) : Driver :=
  { driver with
    virglResourceLookAsideList := exFreeToLookasideListEx resource
      driver.virglResourceLookAsideList
    history := .released resource.serial :: driver.history }

/-- Commands of one queue that were pushed and not yet completed. -/
def inFlight (driver : Driver) (queue : Queue) : List VgpuBuffer :=
  (driver.virtQueues queue).inFlight

end Driver

end VgpuDriver
