import VgpuDriver.Data.Pool
import VgpuDriver.Data.Transition
import VgpuDriver.Control

namespace VgpuDriver

open Data

/-! The requests of one process on its resources when they run in parallel.  A
thread gives way where it releases a spin lock and where it waits for the
event of a resource; the deletion of a resource gives way between all its
operations. -/

/-- The operations of `DeleteResource` and the release of the record. -/
inductive DeletionStep
  | deleteUserShareMemory
  | unMapBlobResource
  | mmUnmapIoSpace
  | detachResourceBacking
  | freeVgpuMemory
  | unrefResource
  | exFreeToLookasideListEx
  deriving DecidableEq, Repr

def deletionSteps (resource : VirglResource) : List DeletionStep :=
  (if resource.bForBuffer then
    .deleteUserShareMemory ::
      (if resource.bForBlob then [.unMapBlobResource, .mmUnmapIoSpace]
      else [.detachResourceBacking, .freeVgpuMemory])
  else []) ++ [.unrefResource, .exFreeToLookasideListEx]

/-- The operation on the driver of the sequential model. -/
def DeletionStep.run (addBuf : Nat → Bool) (contextId : UInt32)
    (resource : VirglResource) (driver : Driver) : DeletionStep → Driver
  | .deleteUserShareMemory =>
      if resource.buffer.share.pMdl.isSome then
        VgpuDriver.deleteUserShareMemory resource driver
      else driver
  | .unMapBlobResource =>
      VgpuDriver.unMapBlobResource addBuf contextId resource.id 0 driver
  | .mmUnmapIoSpace =>
      driver.log (.ioUnmapped resource.serial
        resource.buffer.memory.virtualAddress resource.buffer.size)
  | .detachResourceBacking =>
      (VgpuDriver.detachResourceBacking addBuf resource driver).log
        (.unbacked resource.serial driver.pushCount)
  | .freeVgpuMemory =>
      freePages resource.buffer.memory.virtualAddress resource.buffer.size
        driver
  | .unrefResource =>
      VgpuDriver.unrefResource addBuf contextId resource.id driver
  | .exFreeToLookasideListEx => driver.releaseRecord resource

/-- One after the other the operations are what `DeleteResource` and the
release of the record do. -/
theorem deletionSteps_run (addBuf : Nat → Bool) (contextId : UInt32)
    (resource : VirglResource) (driver : Driver) :
    (deletionSteps resource).foldl
        (DeletionStep.run addBuf contextId resource) driver =
      deleteAndRelease addBuf contextId driver resource := by
  unfold deletionSteps deleteAndRelease deleteResource
  cases resource.bForBuffer with
  | false => rfl
  | true =>
      cases resource.bForBlob with
      | false => rfl
      | true => rfl

/-- `CtlCreateResource` and `CtlCreateBlobResource` start a buffer without a
mapping. -/
def initialRecord (resource : VirglResource) : VirglResource :=
  if resource.bForBuffer then
    { resource with
      buffer :=
        { resource.buffer with
          share := { resource.buffer.share with pMdl := none } } }
  else resource

/-- Where a request is: in `CtlWait` on the event, in `CtlMap` behind the
lookup or on the event, in `CtlCloseResource` behind the lookup, deleting a
resource, or in `CtlDestroyVirglContext` behind the lookup, behind the
unlinking or in the loop. -/
inductive ResourceStage
  | waiting (record context : Nat)
  | looked (record context : Nat) (request : MapRequest)
  | mapWaiting (record context : Nat) (request : MapRequest)
  | found (record context : Nat)
  | deleting (record : Nat) (todo : List DeletionStep) (loop : Option Nat)
  | contextFound (context : Nat)
  | contextUnlinked (context : Nat)
  | destroying (context : Nat)
  | returned

/-- The context whose `ResourceListSpinLock` the thread holds. -/
def ResourceStage.locks : ResourceStage → Option Nat
  | .deleting _ _ loop => loop
  | .destroying context => some context
  | _ => none

/-- The resource that the request has looked up and not finished with, and
its context. -/
def ResourceStage.uses : ResourceStage → Option (Nat × Nat)
  | .waiting record context => some (record, context)
  | .looked record context _ => some (record, context)
  | .mapWaiting record context _ => some (record, context)
  | .found record context => some (record, context)
  | _ => none

/-- The resource that the thread has removed from its list. -/
def ResourceStage.removes : ResourceStage → Option Nat
  | .deleting record _ _ => some record
  | _ => none

/-- Contexts and records are numbered; `records` is the memory of the records
and `resourceLists` has the list of each context, its head first.  `context`
is the context of the process that is in `VirglContextList`, `mappings` has
the user-mode mappings in force, `removed` and `performed` are histories. -/
structure ResourceSession where
  context : Option Nat
  contexts : Nat
  resourceLists : Nat → List Nat
  records : Nat → VirglResource
  allocated : Nat
  threads : List ResourceStage
  mappings : List (Nat × Nat)
  removed : List Nat
  performed : List (DeletionStep × Nat)

inductive ResourceAction
  | init
  | create (resource : VirglResource)
  | signal (record : Nat) (idle : Bool)
  | mapBlob (record mapAddress size : Nat)
  | wait (request : WaitRequest)
  | map (request : MapRequest)
  | close (input : Fetch DrmGemClose)
  | destroy
  | advance (thread : Nat)

namespace ResourceSession

variable (session : ResourceSession)

/-- `GetResourceFromListUnsafe` on the context of the process. -/
def getResourceFromList (handle : UInt32) : Option (Nat × Nat) :=
  match session.context with
  | none => none
  | some context =>
      ((session.resourceLists context).find? fun record =>
        decide ((session.records record).id = handle)).map
        fun record => (record, context)

def call (stage : ResourceStage) : ResourceSession :=
  { session with threads := session.threads ++ [stage] }

def move (thread : Nat) (stage : ResourceStage) : ResourceSession :=
  { session with threads := session.threads.set thread stage }

def modify (record : Nat) (change : VirglResource → VirglResource) :
    ResourceSession :=
  { session with
    records := Function.update session.records record
      (change (session.records record)) }

/-- A change of a resource that a lookup in the context of the process
finds. -/
def modifyListed (record : Nat) (change : VirglResource → VirglResource) :
    ResourceSession :=
  match session.context with
  | none => session
  | some context =>
      if record ∈ session.resourceLists context then
        session.modify record change
      else session

def createRecord (resource : VirglResource) : ResourceSession :=
  match session.context with
  | none => session
  | some context =>
      { session with
        records := Function.update session.records session.allocated
          (initialRecord resource)
        resourceLists := Function.update session.resourceLists context
          (session.allocated :: session.resourceLists context)
        allocated := session.allocated + 1 }

/-- The part of `CtlMap` behind the wait. -/
def createMapping (record : Nat) (request : MapRequest) : ResourceSession :=
  let buffer := (session.records record).buffer
  let result := createUserShareMemory request.mdl request.userAddress
    { buffer.share with
      kernelAddress := buffer.memory.virtualAddress
      size := buffer.size }
  let share :=
    if result.1 then result.2 else { result.2 with pMdl := none }
  let stored := session.modify record fun resource =>
    { resource with buffer := { resource.buffer with share := share } }
  match result.1, share.userAddress with
  | true, some address =>
      { stored with mappings := (record, address) :: stored.mappings }
  | _, _ => stored

/-- `RemoveEntryListUnsafe` or `RemoveTailList`, with the rest of the list. -/
def unlink (record context : Nat) (rest : List Nat) : ResourceSession :=
  { session with
    resourceLists := Function.update session.resourceLists context rest
    removed := record :: session.removed }

/-- `MmUnmapLockedPages` if `DeleteUserShareMemory` calls it. -/
def unmap (record : Nat) : ResourceSession :=
  let share := (session.records record).buffer.share
  match share.userAddress, share.pMdl with
  | some address, some _ =>
      { session with mappings := session.mappings.erase (record, address) }
  | _, _ => session

def perform (step : DeletionStep) (record : Nat) : ResourceSession :=
  let done :=
    { session with performed := (step, record) :: session.performed }
  match step with
  | .deleteUserShareMemory => done.unmap record
  | _ => done

/-- Another thread holds the lock of the resource list. -/
def Locked (context : Nat) : Prop :=
  Claimed ResourceStage.locks session.threads context

instance (context : Nat) : Decidable (session.Locked context) :=
  inferInstanceAs (Decidable (Claimed _ _ _))

/-- The next step of a thread; one that waits for an event or a lock stays
where it is. -/
def advance (thread : Nat) : ResourceStage → ResourceSession
  | .waiting record _ =>
      if (session.records record).stateEvent then
        session.move thread .returned
      else session
  | .looked record context request =>
      let resource := session.records record
      if !resource.bForBuffer then session.move thread .returned
      else if resource.buffer.share.pMdl.isSome then
        session.move thread .returned
      else if !resource.stateEvent then
        session.move thread (.mapWaiting record context request)
      else (session.createMapping record request).move thread .returned
  | .mapWaiting record _ request =>
      if (session.records record).stateEvent then
        (session.createMapping record request).move thread .returned
      else session
  | .found record context =>
      if session.Locked context then session
      else
        (session.unlink record context
          ((session.resourceLists context).erase record)).move thread
            (.deleting record (deletionSteps (session.records record)) none)
  | .deleting record (step :: todo) loop =>
      (session.perform step record).move thread (.deleting record todo loop)
  | .deleting _ [] none => session.move thread .returned
  | .deleting _ [] (some context) =>
      session.move thread (.destroying context)
  | .contextFound context =>
      ({ session with
          context :=
            if session.context = some context then none
            else session.context } : ResourceSession).move thread
        (.contextUnlinked context)
  | .contextUnlinked context =>
      if session.Locked context then session
      else session.move thread (.destroying context)
  | .destroying context =>
      match (session.resourceLists context).getLast? with
      | none => session.move thread .returned
      | some record =>
          (session.unlink record context
            (session.resourceLists context).dropLast).move thread
              (.deleting record (deletionSteps (session.records record))
                (some context))
  | .returned => session

def step : ResourceAction → ResourceSession
  | .init =>
      match session.context with
      | some _ => session
      | none =>
          { session with
            context := some session.contexts
            contexts := session.contexts + 1 }
  | .create resource => session.createRecord resource
  | .signal record idle =>
      session.modifyListed record fun resource =>
        { resource with stateEvent := idle }
  | .mapBlob record mapAddress size =>
      session.modifyListed record fun resource =>
        { resource with
          stateEvent := true
          buffer :=
            { resource.buffer with
              size := size
              memory :=
                { resource.buffer.memory with
                  virtualAddress := mapAddress } } }
  | .wait request =>
      match request.input, request.output with
      | .ok cmd, .ok _ =>
          match session.getResourceFromList cmd.handle with
          | none => session
          | some (record, context) =>
              if cmd.flags &&& waitNowait ≠ 0 then session
              else if (session.records record).stateEvent then session
              else session.call (.waiting record context)
      | _, _ => session
  | .map request =>
      match request.input, request.output with
      | .ok cmd, .ok _ =>
          match session.getResourceFromList cmd.handle with
          | none => session
          | some (record, context) =>
              session.call (.looked record context request)
      | _, _ => session
  | .close input =>
      match input with
      | .ok cmd =>
          match session.getResourceFromList cmd.handle with
          | none => session
          | some (record, context) => session.call (.found record context)
      | _ => session
  | .destroy =>
      match session.context with
      | none => session
      | some context => session.call (.contextFound context)
  | .advance thread =>
      match session.threads[thread]? with
      | none => session
      | some stage => session.advance thread stage

/-- No context yet; the memory of the records holds anything. -/
def start (records : Nat → VirglResource) : ResourceSession where
  context := none
  contexts := 0
  resourceLists := fun _ => []
  records := records
  allocated := 0
  threads := []
  mappings := []
  removed := []
  performed := []

end ResourceSession

end VgpuDriver
