import VgpuDriver.Data.Pool
import VgpuDriver.ContextThreads

namespace VgpuDriver

open Data

/-! One context per process, as long as what a thread has looked up still
holds when the thread changes the list. -/

/-- CTX_CREATE and CTX_DESTROY take turns; the newest command is first. -/
def Alternates : List ContextCommand → Prop
  | [] => True
  | .ctxCreate :: older => older.head? ≠ some .ctxCreate ∧ Alternates older
  | .ctxDestroy :: older => older.head? = some .ctxCreate ∧ Alternates older

instance decidableAlternates :
    (commands : List ContextCommand) → Decidable (Alternates commands)
  | [] => inferInstanceAs (Decidable True)
  | .ctxCreate :: older =>
      have := decidableAlternates older
      inferInstanceAs (Decidable (_ ∧ _))
  | .ctxDestroy :: older =>
      have := decidableAlternates older
      inferInstanceAs (Decidable (_ ∧ _))

def ContextEvent.commandFor (id : UInt32) :
    ContextEvent → Option ContextCommand
  | .pushed contextId command => if contextId = id then some command else none
  | _ => none

def ContextEvent.unlinkedNumber : ContextEvent → Option Nat
  | .unlinked record => some record.number
  | _ => none

def ContextEvent.freedNumber : ContextEvent → Option Nat
  | .freed record => some record.number
  | _ => none

/-- The id of the context that the thread has inserted without having pushed
its CTX_CREATE. -/
def ContextStage.inserting : ContextStage → Option UInt32
  | .inserted record _ => some record.id
  | _ => none

/-- The id of the context that the thread has unlinked without having pushed
its CTX_DESTROY. -/
def ContextStage.unlinking : ContextStage → Option UInt32
  | .unlinked record _ => some record.id
  | _ => none

def ContextStage.changing (stage : ContextStage) : Option UInt32 :=
  stage.inserting <|> stage.unlinking

/-- The record that the thread has unlinked and will free. -/
def ContextStage.releasing : ContextStage → Option Nat
  | .unlinked record _ => some record.number
  | .pushed record _ => some record.number
  | _ => none

theorem changing_of_inserting {threads : List ContextStage} {id : UInt32}
    (h : Claimed ContextStage.inserting threads id) :
    Claimed ContextStage.changing threads id := by
  refine h.imp fun stage hstage => ?_
  unfold ContextStage.changing
  rw [hstage]
  rfl

theorem changing_of_unlinking {threads : List ContextStage} {id : UInt32}
    (h : Claimed ContextStage.unlinking threads id) :
    Claimed ContextStage.changing threads id := by
  refine h.imp fun stage hstage => ?_
  cases stage with
  | unlinked record onExit => exact hstage
  | _ => exact absurd hstage nofun

/-- The process whose exit the thread handles, when its context has been
unlinked. -/
def ContextStage.exiting : ContextStage → Option UInt32
  | .unlinked record true => some record.id
  | .pushed record true => some record.id
  | _ => none

/-- The thread has changed nothing yet, or it is done. -/
structure ContextStage.Claimless (stage : ContextStage) : Prop where
  inserting : stage.inserting = none
  unlinking : stage.unlinking = none
  releasing : stage.releasing = none
  exiting : stage.exiting = none

theorem ContextStage.Claimless.changing {stage : ContextStage}
    (h : stage.Claimless) : stage.changing = none := by
  unfold ContextStage.changing
  rw [h.inserting, h.unlinking]
  rfl

namespace ContextSession

/-- The commands pushed for a context id. -/
def commands (id : UInt32) (session : ContextSession) :
    List ContextCommand :=
  session.history.filterMap (ContextEvent.commandFor id)

def unlinkedNumbers (session : ContextSession) : List Nat :=
  session.history.filterMap ContextEvent.unlinkedNumber

def freedNumbers (session : ContextSession) : List Nat :=
  session.history.filterMap ContextEvent.freedNumber

structure OneContextPerProcess (session : ContextSession) : Prop where
  distinct : (session.virglContextList.map ContextRecord.id).Nodup
  unlinkedOnce : session.unlinkedNumbers.Nodup
  freedOnce : session.freedNumbers.Nodup
  alternating : ∀ id, Alternates (session.commands id)
  exited : ∀ id ∈ session.exited, ∀ record ∈ session.virglContextList,
    record.id ≠ id

/-- A thread has inserted or unlinked a context with this id and its command
is not pushed yet. -/
def IsChanging (id : UInt32) (session : ContextSession) : Prop :=
  Claimed ContextStage.changing session.threads id

instance (id : UInt32) (session : ContextSession) :
    Decidable (session.IsChanging id) :=
  inferInstanceAs (Decidable (Claimed _ _ _))

/-- The exit of the process is being handled, behind the unlinking of its
context. -/
def IsExiting (id : UInt32) (session : ContextSession) : Prop :=
  Claimed ContextStage.exiting session.threads id

instance (id : UInt32) (session : ContextSession) :
    Decidable (session.IsExiting id) :=
  inferInstanceAs (Decidable (Claimed _ _ _))

variable (addBuf : Nat → Bool)

/-- The list is changed for an id only while no other change of it waits for
its command, only as the lookup of the thread still allows, and no context is
inserted for a process that exits or has exited; the queue takes the
commands. -/
def Undisturbed (mask : UInt64) (session : ContextSession) :
    ContextAction → Prop
  | .advance thread =>
      match session.threads[thread]? with
      | some (.checking contextId request) =>
          (request.prepared mask).isSome →
            session.getVirglContextFromList contextId = none ∧
              ¬session.IsChanging contextId ∧
              ¬session.IsExiting contextId ∧ contextId ∉ session.exited
      | some (.found record _) =>
          record ∈ session.virglContextList ∧ ¬session.IsChanging record.id
      | some (.inserted _ _) | some (.unlinked _ _) =>
          addBuf session.pushCount = true
      | _ => True
  | _ => True

instance (mask : UInt64) (session : ContextSession)
    (action : ContextAction) :
    Decidable (session.Undisturbed addBuf mask action) := by
  unfold Undisturbed
  split
  · split
    · infer_instance
    · infer_instance
    · infer_instance
    · infer_instance
    · infer_instance
  · infer_instance

/-- What a step that meets the condition does to the state. -/
inductive Moves (before : ContextSession) : ContextSession → Prop
  | stays : Moves before before
  | calls (stage : ContextStage) (hclaims : stage.Claimless) :
      Moves before (before.call stage)
  | restarts (processId : UInt32) :
      Moves before
        { before with exited := before.exited.filter (· ≠ processId) }
  | reports (processId : UInt32)
      (hnone : before.getVirglContextFromList processId = none) :
      Moves before (before.report processId)
  | returns (thread : Nat) (stage : ContextStage)
      (hthread : before.threads[thread]? = some stage)
      (hclaims : stage.Claimless) :
      Moves before (before.move thread .returned)
  | inserts (thread : Nat) (record : ContextRecord)
      (request : ContextInitRequest) (contextInit : UInt32)
      (hnumber : record.number = before.allocated)
      (hthread : before.threads[thread]? =
        some (.checking record.id request))
      (hnone : before.getVirglContextFromList record.id = none)
      (hchanging : ¬before.IsChanging record.id)
      (hexiting : ¬before.IsExiting record.id)
      (hexited : record.id ∉ before.exited) :
      Moves before
        ((before.insertRecord record).move thread
          (.inserted record contextInit))
  | creates (thread : Nat) (record : ContextRecord) (contextInit : UInt32)
      (hthread : before.threads[thread]? =
        some (.inserted record contextInit)) :
      Moves before
        ((before.accept record.id .ctxCreate).move thread .returned)
  | unlinks (thread : Nat) (record : ContextRecord) (onExit : Bool)
      (hthread : before.threads[thread]? = some (.found record onExit))
      (hlisted : record ∈ before.virglContextList)
      (hchanging : ¬before.IsChanging record.id) :
      Moves before
        (((before.removeRecord record).log (.unlinked record)).move thread
          (.unlinked record onExit))
  | destroys (thread : Nat) (record : ContextRecord) (onExit : Bool)
      (hthread : before.threads[thread]? = some (.unlinked record onExit)) :
      Moves before
        ((before.accept record.id .ctxDestroy).move thread
          (.pushed record onExit))
  | frees (thread : Nat) (record : ContextRecord)
      (hthread : before.threads[thread]? = some (.pushed record false)) :
      Moves before ((before.log (.freed record)).move thread .returned)
  | exits (thread : Nat) (record : ContextRecord)
      (hthread : before.threads[thread]? = some (.pushed record true)) :
      Moves before
        (((before.log (.freed record)).move thread .returned).report
          record.id)

variable {addBuf : Nat → Bool} {mask : UInt64}
variable {before after session : ContextSession} {action : ContextAction}

theorem push_accepted (haccepted : addBuf session.pushCount = true)
    (contextId : UInt32) (command : ContextCommand) :
    session.push addBuf contextId command =
      session.accept contextId command :=
  if_pos haccepted

/-- One step, case by case. -/
theorem step_moves (hundisturbed : before.Undisturbed addBuf mask action) :
    before.Moves (before.step addBuf mask action) := by
  cases action with
  | init processId request =>
      simp only [step]
      split
      · exact .stays
      · exact .calls _ ⟨rfl, rfl, rfl, rfl⟩
  | destroy processId =>
      simp only [step]
      split
      · exact .stays
      · exact .calls _ ⟨rfl, rfl, rfl, rfl⟩
  | notify processId create =>
      simp only [step]
      split
      · exact .restarts processId
      · split
        · rename_i hnone
          exact .reports processId hnone
        · exact .calls _ ⟨rfl, rfl, rfl, rfl⟩
  | advance thread =>
      simp only [step]
      unfold Undisturbed at hundisturbed
      cases hthread : before.threads[thread]? with
      | none => exact .stays
      | some stage =>
          simp only [hthread] at hundisturbed ⊢
          cases stage with
          | checking contextId request =>
              simp only [advance]
              cases hprepared : request.prepared mask with
              | none => exact .returns thread _ hthread ⟨rfl, rfl, rfl, rfl⟩
              | some contextInit =>
                  obtain ⟨hnone, hchanging, hexiting, hexited⟩ :=
                    hundisturbed (by rw [hprepared]; rfl)
                  exact .inserts thread
                    { number := before.allocated, id := contextId } request
                    contextInit rfl hthread hnone hchanging hexiting hexited
          | inserted record contextInit =>
              simp only [advance]
              rw [push_accepted hundisturbed]
              exact .creates thread record contextInit hthread
          | found record onExit =>
              exact .unlinks thread record onExit hthread hundisturbed.1
                hundisturbed.2
          | unlinked record onExit =>
              simp only [advance]
              rw [push_accepted hundisturbed]
              exact .destroys thread record onExit hthread
          | pushed record onExit =>
              cases onExit with
              | false => exact .frees thread record hthread
              | true => exact .exits thread record hthread
          | returned => exact .stays

theorem absent_of_none {id : UInt32}
    (hnone : session.getVirglContextFromList id = none) :
    ∀ record ∈ session.virglContextList, record.id ≠ id := by
  intro record hrecord heq
  have hfound := List.find?_eq_none.mp hnone record hrecord
  simp [heq] at hfound

/-- The records: each is unlinked and freed at most once. -/
structure RecordsKept (session : ContextSession) : Prop where
  numbers : (session.virglContextList.map ContextRecord.number).Nodup
  listed : ∀ record ∈ session.virglContextList,
    record.number < session.allocated ∧
      record.number ∉ session.unlinkedNumbers
  bounded : ∀ number ∈ session.unlinkedNumbers, number < session.allocated
  unlinkedOnce : session.unlinkedNumbers.Nodup
  freedOnce : session.freedNumbers.Nodup
  freed : ∀ number ∈ session.freedNumbers, number ∈ session.unlinkedNumbers
  releasing : ∀ stage ∈ session.threads, ∀ number,
    stage.releasing = some number →
      number ∈ session.unlinkedNumbers ∧ number ∉ session.freedNumbers
  alone : Alone ContextStage.releasing session.threads

namespace RecordsKept

theorem move (h : RecordsKept session) {thread : Nat}
    {stage new : ContextStage}
    (hthread : session.threads[thread]? = some stage)
    (hkept : new.releasing = none ∨ new.releasing = stage.releasing) :
    RecordsKept (session.move thread new) where
  numbers := h.numbers
  listed := h.listed
  bounded := h.bounded
  unlinkedOnce := h.unlinkedOnce
  freedOnce := h.freedOnce
  freed := h.freed
  releasing := by
    refine forall_mem_set h.releasing fun number hnumber => ?_
    rcases hkept with hnone | hsame
    · exact absurd (hnone.symm.trans hnumber) nofun
    · exact h.releasing stage (List.mem_of_getElem? hthread) number
        (hsame ▸ hnumber)
  alone := h.alone.set hthread hkept

theorem accepted (h : RecordsKept session) (id : UInt32)
    (command : ContextCommand) :
    RecordsKept (session.accept id command) :=
  ⟨h.numbers, h.listed, h.bounded, h.unlinkedOnce, h.freedOnce, h.freed,
    h.releasing, h.alone⟩

theorem inserted (h : RecordsKept session) {record : ContextRecord}
    (hnumber : record.number = session.allocated) :
    RecordsKept (session.insertRecord record) where
  numbers := by
    refine List.nodup_cons.mpr ⟨fun hmem => ?_, h.numbers⟩
    obtain ⟨other, hother, heq⟩ := List.mem_map.mp hmem
    have hbelow := (h.listed other hother).1
    omega
  listed := by
    intro other hother
    rcases List.mem_cons.mp hother with rfl | hother
    · refine ⟨hnumber ▸ Nat.lt_succ_self _, fun hunlinked => ?_⟩
      have hbelow := h.bounded _ hunlinked
      omega
    · obtain ⟨hbelow, hfresh⟩ := h.listed other hother
      exact ⟨Nat.lt_succ_of_lt hbelow, hfresh⟩
  bounded := fun number hmem => Nat.lt_succ_of_lt (h.bounded number hmem)
  unlinkedOnce := h.unlinkedOnce
  freedOnce := h.freedOnce
  freed := h.freed
  releasing := h.releasing
  alone := h.alone

theorem unlinked (h : RecordsKept session) {thread : Nat}
    {record : ContextRecord} {onExit : Bool}
    (hlisted : record ∈ session.virglContextList) :
    RecordsKept (((session.removeRecord record).log
      (.unlinked record)).move thread (.unlinked record onExit)) := by
  obtain ⟨hbelow, hfresh⟩ := h.listed record hlisted
  have hunfreed : record.number ∉ session.freedNumbers :=
    fun hmem => hfresh (h.freed _ hmem)
  have hgone : ∀ other ∈ session.virglContextList.eraseP fun other =>
      decide (other.number = record.number),
      other ∈ session.virglContextList ∧ other.number ≠ record.number := by
    intro other hother
    rw [eraseP_key h.numbers] at hother
    obtain ⟨hmem, hne⟩ := List.mem_filter.mp hother
    exact ⟨hmem, by simpa using hne⟩
  refine ⟨?_, ?_, ?_, ?_, h.freedOnce, ?_, ?_, ?_⟩
  · exact h.numbers.sublist (List.eraseP_sublist.map _)
  · intro other hother
    obtain ⟨hmem, hne⟩ := hgone other hother
    obtain ⟨hlow, hold⟩ := h.listed other hmem
    exact ⟨hlow, List.not_mem_cons_of_ne_of_not_mem hne hold⟩
  · intro number hnumber
    rcases List.mem_cons.mp hnumber with rfl | hnumber
    · exact hbelow
    · exact h.bounded number hnumber
  · exact List.nodup_cons.mpr ⟨hfresh, h.unlinkedOnce⟩
  · exact fun number hnumber => List.mem_cons_of_mem _ (h.freed number hnumber)
  · refine forall_mem_set (fun stage hstage number hnumber => ?_) ?_
    · obtain ⟨hold, hkept⟩ := h.releasing stage hstage number hnumber
      exact ⟨List.mem_cons_of_mem _ hold, hkept⟩
    · intro number hnumber
      obtain rfl := Option.some.inj hnumber
      exact ⟨List.mem_cons_self, hunfreed⟩
  · refine h.alone.set_fresh fun number hnumber => ?_
    obtain rfl := Option.some.inj hnumber
    rintro ⟨stage, hstage, hclaim⟩
    exact hfresh (h.releasing stage hstage _ hclaim).1

theorem freedRecord (h : RecordsKept session) {thread : Nat}
    {record : ContextRecord} {onExit : Bool}
    (hthread : session.threads[thread]? = some (.pushed record onExit)) :
    RecordsKept ((session.log (.freed record)).move thread .returned) := by
  have hreleasing : (ContextStage.pushed record onExit).releasing =
      some record.number := rfl
  obtain ⟨hunlinked, hunfreed⟩ :=
    h.releasing _ (List.mem_of_getElem? hthread) _ hreleasing
  refine ⟨h.numbers, h.listed, h.bounded, h.unlinkedOnce, ?_, ?_, ?_, ?_⟩
  · exact List.nodup_cons.mpr ⟨hunfreed, h.freedOnce⟩
  · intro number hnumber
    rcases List.mem_cons.mp hnumber with rfl | hnumber
    · exact hunlinked
    · exact h.freed number hnumber
  · intro stage hstage number hnumber
    have hgiven : ¬Claimed ContextStage.releasing
        (session.threads.set thread .returned) record.number :=
      h.alone.released hthread hreleasing nofun
    rcases List.mem_or_eq_of_mem_set hstage with hold | rfl
    · obtain ⟨hold', hkept⟩ := h.releasing stage hold number hnumber
      refine ⟨hold', List.not_mem_cons_of_ne_of_not_mem ?_ hkept⟩
      rintro rfl
      exact hgiven ⟨stage, hstage, hnumber⟩
    · exact absurd hnumber nofun
  · exact h.alone.set hthread (.inl rfl)

theorem step (h : RecordsKept before) (hmoves : before.Moves after) :
    RecordsKept after := by
  cases hmoves with
  | stays => exact h
  | calls stage hclaims =>
      refine ⟨h.numbers, h.listed, h.bounded, h.unlinkedOnce, h.freedOnce,
        h.freed, ?_, h.alone.start hclaims.releasing⟩
      refine forall_mem_start h.releasing fun number hnumber => ?_
      exact absurd (hclaims.releasing.symm.trans hnumber) nofun
  | restarts processId =>
      exact ⟨h.numbers, h.listed, h.bounded, h.unlinkedOnce, h.freedOnce,
        h.freed, h.releasing, h.alone⟩
  | reports processId hnone =>
      exact ⟨h.numbers, h.listed, h.bounded, h.unlinkedOnce, h.freedOnce,
        h.freed, h.releasing, h.alone⟩
  | returns thread stage hthread hclaims => exact h.move hthread (.inl rfl)
  | inserts thread record request contextInit hnumber hthread =>
      exact (h.inserted hnumber).move hthread (.inl rfl)
  | creates thread record contextInit hthread =>
      exact (h.accepted _ _).move hthread (.inl rfl)
  | unlinks thread record onExit hthread hlisted => exact h.unlinked hlisted
  | destroys thread record onExit hthread =>
      exact (h.accepted _ _).move hthread (.inr rfl)
  | frees thread record hthread => exact h.freedRecord hthread
  | exits thread record hthread =>
      have hfreed := h.freedRecord hthread
      exact ⟨hfreed.numbers, hfreed.listed, hfreed.bounded,
        hfreed.unlinkedOnce, hfreed.freedOnce, hfreed.freed,
        hfreed.releasing, hfreed.alone⟩

end RecordsKept

/-- How many contexts with this id the list holds. -/
def listed (id : UInt32) (session : ContextSession) : Nat :=
  (session.virglContextList.map ContextRecord.id).count id

theorem listed_eq_zero {id : UInt32} :
    session.listed id = 0 ↔
      ∀ record ∈ session.virglContextList, record.id ≠ id := by
  simp [listed, List.count_eq_zero]

@[simp] theorem listed_insertRecord (record : ContextRecord) (id : UInt32) :
    (session.insertRecord record).listed id =
      session.listed id + if record.id = id then 1 else 0 := by
  simp [listed, insertRecord, List.count_cons]

theorem listed_removeRecord (hrecords : RecordsKept session)
    {record : ContextRecord} (hlisted : record ∈ session.virglContextList)
    (id : UInt32) :
    session.listed id =
      (session.removeRecord record).listed id +
        if record.id = id then 1 else 0 := by
  obtain ⟨removed, front, back, _, hnumber, hlist, herase⟩ :=
    List.exists_of_eraseP
      (p := fun other => decide (other.number = record.number)) hlisted
      (by simp)
  have hremoved : removed ∈ session.virglContextList := by
    rw [hlist]
    simp
  have hsame : removed = record :=
    List.inj_on_of_nodup_map hrecords.numbers hremoved hlisted
      (by simpa using hnumber)
  subst hsame
  unfold listed removeRecord
  dsimp only
  rw [herase, hlist]
  simp only [List.map_append, List.map_cons, List.count_append,
    List.count_cons, beq_iff_eq]
  omega

@[simp] theorem commands_accept (contextId id : UInt32)
    (command : ContextCommand) :
    (session.accept contextId command).commands id =
      if contextId = id then command :: session.commands id
      else session.commands id := by
  simp only [commands, accept, log, List.filterMap_cons,
    ContextEvent.commandFor]
  split
  · rename_i h
    split at h
    · exact absurd h nofun
    · rename_i hne
      rw [if_neg hne]
  · rename_i h
    split at h
    · rename_i heq
      rw [if_pos heq, Option.some.inj h]
    · exact absurd h nofun

/-- What holds of the contexts with one id: the newest command is a
CTX_CREATE exactly when a context is listed whose CTX_CREATE is pushed, or one
is unlinked whose CTX_DESTROY is not. -/
structure KeptAt (id : UInt32) (session : ContextSession) : Prop where
  single : session.listed id ≤ 1
  inserting : Claimed ContextStage.inserting session.threads id →
    session.listed id ≠ 0
  unlinking : Claimed ContextStage.unlinking session.threads id →
    session.listed id = 0
  exiting : Claimed ContextStage.exiting session.threads id →
    session.listed id = 0
  exited : id ∈ session.exited → session.listed id = 0
  newest : (session.commands id).head? = some .ctxCreate ↔
    Claimed ContextStage.unlinking session.threads id ∨
      session.listed id ≠ 0 ∧
        ¬Claimed ContextStage.inserting session.threads id
  alternating : Alternates (session.commands id)

namespace KeptAt

variable {id : UInt32}

theorem frame (h : KeptAt id before)
    (hlisted : after.listed id = before.listed id)
    (hcommands : after.commands id = before.commands id)
    (hexited : id ∈ after.exited → id ∈ before.exited ∨
      before.listed id = 0)
    (hinserting : Claimed ContextStage.inserting after.threads id ↔
      Claimed ContextStage.inserting before.threads id)
    (hunlinking : Claimed ContextStage.unlinking after.threads id ↔
      Claimed ContextStage.unlinking before.threads id)
    (hexiting : Claimed ContextStage.exiting after.threads id →
      Claimed ContextStage.exiting before.threads id) :
    KeptAt id after where
  single := hlisted ▸ h.single
  inserting := fun hclaim => hlisted ▸ h.inserting (hinserting.mp hclaim)
  unlinking := fun hclaim => hlisted ▸ h.unlinking (hunlinking.mp hclaim)
  exiting := fun hclaim => hlisted ▸ h.exiting (hexiting hclaim)
  exited := by
    intro hmem
    rw [hlisted]
    rcases hexited hmem with hold | hnone
    · exact h.exited hold
    · exact hnone
  newest := by rw [hcommands, hlisted, hinserting, hunlinking]; exact h.newest
  alternating := hcommands ▸ h.alternating

theorem frame_move (h : KeptAt id before) {thread : Nat}
    {stage new : ContextStage}
    (hthread : before.threads[thread]? = some stage)
    (hthreads : after.threads = before.threads.set thread new)
    (hlisted : after.listed id = before.listed id)
    (hcommands : after.commands id = before.commands id)
    (hexited : id ∈ after.exited → id ∈ before.exited ∨
      before.listed id = 0)
    (hinserting : new.inserting = some id ↔ stage.inserting = some id)
    (hunlinking : new.unlinking = some id ↔ stage.unlinking = some id)
    (hexiting : new.exiting = some id → stage.exiting = some id) :
    KeptAt id after := by
  refine h.frame hlisted hcommands hexited ?_ ?_ ?_
  · rw [hthreads]
    exact Claimed.set_iff hthread hinserting
  · rw [hthreads]
    exact Claimed.set_iff hthread hunlinking
  · rintro ⟨other, hother, hclaim⟩
    rw [hthreads] at hother
    rcases List.mem_or_eq_of_mem_set hother with hold | rfl
    · exact ⟨other, hold, hclaim⟩
    · exact .of_thread hthread (hexiting hclaim)

theorem inserted (h : KeptAt id before) {thread : Nat}
    {record : ContextRecord} {request : ContextInitRequest}
    {contextInit : UInt32}
    (hthread : before.threads[thread]? = some (.checking record.id request))
    (hnone : before.getVirglContextFromList record.id = none)
    (hchanging : ¬before.IsChanging record.id)
    (hexiting : ¬before.IsExiting record.id)
    (hexited : record.id ∉ before.exited) :
    KeptAt id ((before.insertRecord record).move thread
      (.inserted record contextInit)) := by
  by_cases hid : record.id = id
  · subst hid
    have hzero : before.listed record.id = 0 :=
      listed_eq_zero.mpr (absent_of_none hnone)
    have hone : ((before.insertRecord record).move thread
        (.inserted record contextInit)).listed record.id = 1 := by
      have hlisted := @listed_insertRecord before record record.id
      rw [if_pos rfl, hzero] at hlisted
      exact hlisted
    have hclaimed : Claimed ContextStage.inserting
        (before.threads.set thread (.inserted record contextInit))
        record.id := .set hthread rfl
    have hunlinking : ¬Claimed ContextStage.unlinking
        (before.threads.set thread (.inserted record contextInit))
        record.id := by
      rw [Claimed.set_iff hthread (by simp [ContextStage.unlinking])]
      exact fun hclaim => hchanging (changing_of_unlinking hclaim)
    have hnotExiting : ¬Claimed ContextStage.exiting
        (before.threads.set thread (.inserted record contextInit))
        record.id := by
      rw [Claimed.set_iff hthread (by simp [ContextStage.exiting])]
      exact hexiting
    refine ⟨hone.le, fun _ => hone ▸ Nat.one_ne_zero, ?_, ?_, ?_, ?_,
      h.alternating⟩
    · exact fun hclaim => absurd hclaim hunlinking
    · exact fun hclaim => absurd hclaim hnotExiting
    · exact fun hmem => absurd hmem hexited
    · constructor
      · intro hhead
        rcases h.newest.mp hhead with hclaim | ⟨hlisted, _⟩
        · exact absurd (changing_of_unlinking hclaim)
            hchanging
        · exact absurd hzero hlisted
      · rintro (hclaim | ⟨_, hnot⟩)
        · exact absurd hclaim hunlinking
        · exact absurd hclaimed hnot
  · refine h.frame_move hthread rfl ?_ rfl .inl ?_ .rfl nofun
    · have hlisted := @listed_insertRecord before record id
      rw [if_neg hid] at hlisted
      exact hlisted
    · simp [ContextStage.inserting, hid]

theorem created (h : KeptAt id before)
    (halone : Alone ContextStage.changing before.threads) {thread : Nat}
    {record : ContextRecord} {contextInit : UInt32}
    (hthread : before.threads[thread]? =
      some (.inserted record contextInit)) :
    KeptAt id
      ((before.accept record.id .ctxCreate).move thread .returned) := by
  have hcommands := @commands_accept before record.id id .ctxCreate
  by_cases hid : record.id = id
  · subst hid
    rw [if_pos rfl] at hcommands
    have hclaimed : Claimed ContextStage.inserting before.threads
        record.id := .of_thread hthread rfl
    have hlisted := h.inserting hclaimed
    have hreleased : ¬Claimed ContextStage.changing
        (before.threads.set thread .returned) record.id :=
      halone.released hthread rfl nofun
    have hinserting : ¬Claimed ContextStage.inserting
        (before.threads.set thread .returned) record.id := fun hclaim =>
      hreleased (changing_of_inserting hclaim)
    have hunlinking : ¬Claimed ContextStage.unlinking
        (before.threads.set thread .returned) record.id := fun hclaim =>
      hreleased (changing_of_unlinking hclaim)
    have hhead : (before.commands record.id).head? ≠ some .ctxCreate := by
      intro hhead
      rcases h.newest.mp hhead with hclaim | ⟨_, hnot⟩
      · exact hlisted (h.unlinking hclaim)
      · exact hnot hclaimed
    refine ⟨h.single, fun _ => hlisted, ?_, ?_, h.exited, ?_, ?_⟩
    · exact fun hclaim => absurd hclaim hunlinking
    · intro hclaim
      refine h.exiting ((Claimed.set_iff hthread ?_).mp hclaim)
      simp [ContextStage.exiting]
    · refine iff_of_true ?_ (.inr ⟨hlisted, hinserting⟩)
      exact congrArg List.head? hcommands
    · have halternates : Alternates
          (.ctxCreate :: before.commands record.id) :=
        ⟨hhead, h.alternating⟩
      rw [← hcommands] at halternates
      exact halternates
  · rw [if_neg hid] at hcommands
    refine h.frame_move hthread rfl rfl hcommands .inl ?_ .rfl nofun
    simp [ContextStage.inserting, hid]

theorem unlinked (h : KeptAt id before) (hrecords : RecordsKept before)
    {thread : Nat} {record : ContextRecord} {onExit : Bool}
    (hthread : before.threads[thread]? = some (.found record onExit))
    (hmem : record ∈ before.virglContextList)
    (hchanging : ¬before.IsChanging record.id) :
    KeptAt id (((before.removeRecord record).log (.unlinked record)).move
      thread (.unlinked record onExit)) := by
  have hlisted := listed_removeRecord hrecords hmem id
  by_cases hid : record.id = id
  · subst hid
    rw [if_pos rfl] at hlisted
    have hsingle := h.single
    have hzero : (before.removeRecord record).listed record.id = 0 := by
      omega
    have hclaimed : Claimed ContextStage.unlinking
        (before.threads.set thread (.unlinked record onExit)) record.id :=
      .set hthread rfl
    have hinserting : ¬Claimed ContextStage.inserting before.threads
        record.id := fun hclaim =>
      hchanging (changing_of_inserting hclaim)
    refine ⟨hzero.trans_le (Nat.zero_le 1), ?_, fun _ => hzero,
      fun _ => hzero, fun _ => hzero, ?_, h.alternating⟩
    · intro hclaim
      refine absurd ((Claimed.set_iff hthread ?_).mp hclaim) hinserting
      simp [ContextStage.inserting]
    · refine iff_of_true (h.newest.mpr (.inr ⟨?_, hinserting⟩))
        (.inl hclaimed)
      omega
  · rw [if_neg hid] at hlisted
    refine h.frame_move hthread rfl hlisted.symm rfl .inl .rfl ?_ ?_
    · simp [ContextStage.unlinking, hid]
    · cases onExit with
      | false => exact nofun
      | true => simp [ContextStage.exiting, hid]

theorem destroyed (h : KeptAt id before)
    (halone : Alone ContextStage.changing before.threads) {thread : Nat}
    {record : ContextRecord} {onExit : Bool}
    (hthread : before.threads[thread]? = some (.unlinked record onExit)) :
    KeptAt id
      ((before.accept record.id .ctxDestroy).move thread
        (.pushed record onExit)) := by
  have hcommands := @commands_accept before record.id id .ctxDestroy
  by_cases hid : record.id = id
  · subst hid
    rw [if_pos rfl] at hcommands
    have hclaimed : Claimed ContextStage.unlinking before.threads
        record.id := .of_thread hthread rfl
    have hzero := h.unlinking hclaimed
    have hreleased : ¬Claimed ContextStage.changing
        (before.threads.set thread (.pushed record onExit)) record.id :=
      halone.released hthread rfl nofun
    refine ⟨h.single, ?_, fun _ => hzero, fun _ => hzero, fun _ => hzero,
      ?_, ?_⟩
    · exact fun hclaim => absurd
        (changing_of_inserting hclaim) hreleased
    · refine iff_of_false ?_ ?_
      · intro hhead
        have hnewest := (congrArg List.head? hcommands).symm.trans hhead
        exact absurd hnewest nofun
      · rintro (hclaim | ⟨hlisted, _⟩)
        · exact hreleased (changing_of_unlinking hclaim)
        · exact hlisted hzero
    · have halternates : Alternates
          (.ctxDestroy :: before.commands record.id) :=
        ⟨h.newest.mpr (.inl hclaimed), h.alternating⟩
      rw [← hcommands] at halternates
      exact halternates
  · rw [if_neg hid] at hcommands
    refine h.frame_move hthread rfl rfl hcommands .inl .rfl ?_ ?_
    · simp [ContextStage.unlinking, hid]
    · cases onExit with
      | false => exact nofun
      | true => exact fun hexiting => hexiting

theorem step (h : KeptAt id before) (hrecords : RecordsKept before)
    (halone : Alone ContextStage.changing before.threads)
    (hmoves : before.Moves after) : KeptAt id after := by
  cases hmoves with
  | stays => exact h
  | calls stage hclaims =>
      exact h.frame rfl rfl .inl (Claimed.start_iff hclaims.inserting)
        (Claimed.start_iff hclaims.unlinking)
        (Claimed.start_iff hclaims.exiting).mp
  | restarts processId =>
      refine h.frame rfl rfl (fun hmem => .inl ?_) .rfl .rfl (fun h => h)
      exact List.mem_of_mem_filter hmem
  | reports processId hnone =>
      refine h.frame rfl rfl (fun hmem => ?_) .rfl .rfl (fun h => h)
      rcases List.mem_cons.mp hmem with rfl | hold
      · exact .inr (listed_eq_zero.mpr (absent_of_none hnone))
      · exact .inl hold
  | returns thread stage hthread hclaims =>
      refine h.frame_move hthread rfl rfl rfl .inl ?_ ?_ nofun
      · rw [hclaims.inserting]
        rfl
      · rw [hclaims.unlinking]
        rfl
  | inserts thread record request contextInit _ hthread hnone hchanging
      hexiting hexited =>
      exact h.inserted hthread hnone hchanging hexiting hexited
  | creates thread record contextInit hthread =>
      exact h.created halone hthread
  | unlinks thread record onExit hthread hmem hchanging =>
      exact h.unlinked hrecords hthread hmem hchanging
  | destroys thread record onExit hthread => exact h.destroyed halone hthread
  | frees thread record hthread =>
      exact h.frame_move hthread rfl rfl rfl .inl .rfl .rfl nofun
  | exits thread record hthread =>
      refine h.frame_move hthread rfl rfl rfl (fun hmem => ?_) .rfl .rfl nofun
      rcases List.mem_cons.mp hmem with rfl | hold
      · exact .inr (h.exiting (.of_thread hthread rfl))
      · exact .inl hold

end KeptAt

/-- The changes of the list that wait for their command are of different
ids. -/
theorem Moves.alone (hmoves : before.Moves after)
    (halone : Alone ContextStage.changing before.threads) :
    Alone ContextStage.changing after.threads := by
  cases hmoves with
  | stays => exact halone
  | calls stage hclaims => exact halone.start hclaims.changing
  | restarts processId => exact halone
  | reports processId hnone => exact halone
  | returns thread stage hthread hclaims =>
      exact halone.set hthread (.inl rfl)
  | inserts thread record request contextInit _ _ _ hchanging =>
      refine halone.set_fresh fun id hid => ?_
      obtain rfl := Option.some.inj hid
      exact hchanging
  | creates thread record contextInit hthread =>
      exact halone.set hthread (.inl rfl)
  | unlinks thread record onExit _ _ hchanging =>
      refine halone.set_fresh fun id hid => ?_
      obtain rfl := Option.some.inj hid
      exact hchanging
  | destroys thread record onExit hthread =>
      exact halone.set hthread (.inl rfl)
  | frees thread record hthread => exact halone.set hthread (.inl rfl)
  | exits thread record hthread => exact halone.set hthread (.inl rfl)

structure Kept (session : ContextSession) : Prop where
  records : RecordsKept session
  alone : Alone ContextStage.changing session.threads
  ids : ∀ id, KeptAt id session

theorem Kept.step (h : Kept before)
    (hundisturbed : before.Undisturbed addBuf mask action) :
    Kept (before.step addBuf mask action) := by
  have hmoves := step_moves hundisturbed
  exact ⟨h.records.step hmoves, hmoves.alone h.alone,
    fun id => (h.ids id).step h.records h.alone hmoves⟩

theorem start_kept : Kept start where
  records :=
    ⟨.nil, nofun, nofun, .nil, .nil, nofun, nofun, .nil⟩
  alone := .nil
  ids := by
    intro id
    refine ⟨Nat.zero_le 1, ?_, ?_, ?_, nofun, ?_, trivial⟩
    all_goals simp [Claimed, start, commands, listed]

theorem Kept.oneContext (h : Kept session) : OneContextPerProcess session where
  distinct := List.nodup_iff_count_le_one.mpr fun id => (h.ids id).single
  unlinkedOnce := h.records.unlinkedOnce
  freedOnce := h.records.freedOnce
  alternating := fun id => (h.ids id).alternating
  exited := fun id hid => listed_eq_zero.mp ((h.ids id).exited hid)

end ContextSession

/-- One context per process in every state of a run whose steps meet the
condition. -/
theorem one_context_per_process (addBuf : Nat → Bool) (mask : UInt64)
    (actions : List ContextAction)
    (hundisturbed : Along (ContextSession.step addBuf mask)
      (ContextSession.Undisturbed addBuf mask) .start actions) :
    (runFrom (ContextSession.step addBuf mask) .start
      actions).OneContextPerProcess :=
  (hundisturbed.invariant (fun _ _ hkept hstep => hkept.step hstep)
    ContextSession.start_kept).oneContext

/-- Two processes at a time, a context destroyed and made again, and both
exits. -/
def peacefulRun : List ContextAction :=
  [.init 7 plainInit, .init 8 plainInit, .advance 0, .advance 1, .advance 0,
   .init 7 plainInit, .destroy 7, .advance 1, .advance 2, .notify 8 false,
   .advance 2, .init 7 plainInit, .advance 4, .advance 2, .advance 4,
   .advance 3, .advance 3, .advance 3, .notify 7 false, .advance 5,
   .advance 5, .advance 5]

theorem one_context_per_process_peacefulRun :
    (runFrom (ContextSession.step (fun _ => true) 2) .start
      peacefulRun).OneContextPerProcess :=
  one_context_per_process (fun _ => true) 2 peacefulRun (by decide +kernel)

/-- Both requests find no context, and both insert one. -/
def doubleInitRun : List ContextAction :=
  [.init 7 plainInit, .init 7 plainInit, .advance 0, .advance 1]

/-- A context is made, destroyed and made again, all by itself. -/
def renewedRun : List ContextAction :=
  [.init 7 plainInit, .advance 0, .advance 0, .destroy 7, .advance 1,
   .advance 1, .advance 1, .init 7 plainInit, .advance 2, .advance 2]

/-- Two requests at a time break it, and so does a CTX_DESTROY that the queue
refuses. -/
theorem not_oneContextPerProcess_doubleInitRun :
    ¬(runFrom (ContextSession.step (fun _ => true) 2) .start
        doubleInitRun).OneContextPerProcess ∧
      ¬(runFrom (ContextSession.step (fun call => call != 1) 2) .start
        renewedRun).OneContextPerProcess := by
  constructor
  · exact fun h => absurd h.distinct (by decide +kernel)
  · exact fun h => absurd (h.alternating 7) (by decide +kernel)

end VgpuDriver
