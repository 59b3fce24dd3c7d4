import VgpuDriver.Capsets
import VgpuDriver.Sent

namespace VgpuDriver

open Data

/-! The parameter loop of `CtlInitVirglContext`: what it accepts and what the
CTX_CREATE carries. -/

theorem capsetAllowed_iff (mask value : UInt64) :
    capsetAllowed mask value = true ↔
      Advertises mask (value.toNat % 64) := by
  have hand : (mask &&& capsetBit value).toNat =
      (mask.toNat.testBit (value.toNat % 64)).toNat *
        2 ^ (value.toNat % 64) := by
    rw [UInt64.toNat_and, capsetBit_toNat, Nat.and_two_pow]
  change ((mask &&& capsetBit value) != 0) = true ↔ _
  rw [bne_iff_ne, ne_eq, ← UInt64.toNat_inj, hand]
  unfold Advertises
  cases mask.toNat.testBit (value.toNat % 64) <;> simp

/-- The entry goes through every test of its iteration. -/
def ContextParamRead.Passes (mask : UInt64) (read : ContextParamRead) : Prop :=
  read.param = contextParamCapsetId ∧ read.compared ≤ maxCapsetId ∧
    capsetAllowed mask read.shifted = true

instance (mask : UInt64) (read : ContextParamRead) :
    Decidable (read.Passes mask) :=
  inferInstanceAs (Decidable (_ ∧ _))

/-- The values that the loop puts into `contextInit`. -/
def storedValues (mask : UInt64) (reads : List ContextParamRead) :
    List UInt64 :=
  (reads.filter fun read => decide (read.Passes mask)).map
    ContextParamRead.stored

/-- `contextInit |= value` for one value after the other. -/
def orValues (values : List UInt64) (contextInit : UInt32) : UInt32 :=
  values.foldl (fun contextInit value => contextInit ||| value.toUInt32)
    contextInit

section Loop

variable {mask : UInt64} {read : ContextParamRead}
variable {loop : ContextInitLoop}

theorem contextInitParam_of_passes (hpasses : read.Passes mask) :
    contextInitParam mask loop read =
      { loop with
        contextInit := loop.contextInit ||| read.stored.toUInt32
        values := loop.values ++ [read.stored] } := by
  obtain ⟨hparam, hcompared, hshifted⟩ := hpasses
  have hnot : ¬read.compared > maxCapsetId := UInt64.not_lt.mpr hcompared
  simp [contextInitParam, hparam, hnot, hshifted]

theorem contextInitParam_of_not_passes (hfails : ¬read.Passes mask) :
    contextInitParam mask loop read =
      { loop with status := .unsuccessful } := by
  unfold contextInitParam
  split
  · rename_i hparam
    split
    · rfl
    · rename_i hcompared
      split
      · rfl
      · rename_i hshifted
        refine absurd ⟨hparam, UInt64.not_lt.mp hcompared, ?_⟩ hfails
        simpa using hshifted
  · rfl

variable (mask)

private theorem foldl_contextInitParam_status (reads : List ContextParamRead)
    (loop : ContextInitLoop) :
    (reads.foldl (contextInitParam mask) loop).status = .success ↔
      loop.status = .success ∧ ∀ read ∈ reads, read.Passes mask := by
  induction reads generalizing loop with
  | nil => simp
  | cons read rest ih =>
      rw [List.foldl_cons, ih]
      by_cases hpasses : read.Passes mask
      · simp [contextInitParam_of_passes hpasses, hpasses]
      · simp [contextInitParam_of_not_passes hpasses, hpasses]

/-- An entry that fails leaves `contextInit` as it is, and the loop goes
on. -/
private theorem foldl_contextInitParam_values (reads : List ContextParamRead)
    (loop : ContextInitLoop) :
    (reads.foldl (contextInitParam mask) loop).contextInit =
        orValues (storedValues mask reads) loop.contextInit ∧
      (reads.foldl (contextInitParam mask) loop).values =
        loop.values ++ storedValues mask reads := by
  induction reads generalizing loop with
  | nil => exact ⟨rfl, (List.append_nil _).symm⟩
  | cons read rest ih =>
      rw [List.foldl_cons, (ih _).1, (ih _).2]
      by_cases hpasses : read.Passes mask
      · simp [contextInitParam_of_passes hpasses, storedValues, hpasses,
          orValues]
      · simp [contextInitParam_of_not_passes hpasses, storedValues, hpasses]

theorem contextInitParams_status (reads : List ContextParamRead) :
    (contextInitParams mask reads).status = .success ↔
      ∀ read ∈ reads, read.Passes mask := by
  unfold contextInitParams
  rw [foldl_contextInitParam_status]
  exact and_iff_right rfl

theorem contextInitParams_contextInit (reads : List ContextParamRead) :
    (contextInitParams mask reads).contextInit =
      orValues (storedValues mask reads) 0 :=
  (foldl_contextInitParam_values mask reads _).1

theorem contextInitParams_values (reads : List ContextParamRead) :
    (contextInitParams mask reads).values = storedValues mask reads :=
  (foldl_contextInitParam_values mask reads _).2

end Loop

theorem orValues_testBit (values : List UInt64) (contextInit : UInt32)
    (digit : Nat) :
    (orValues values contextInit).toNat.testBit digit = true ↔
      contextInit.toNat.testBit digit = true ∨
        ∃ value ∈ values, value.toUInt32.toNat.testBit digit = true := by
  induction values generalizing contextInit with
  | nil => simp [orValues]
  | cons value rest ih =>
      change (orValues rest _).toNat.testBit digit = true ↔ _
      rw [ih, UInt32.toNat_or, Nat.testBit_or, Bool.or_eq_true, or_assoc]
      simp only [List.mem_cons, exists_eq_or_imp]

/-! One call, for a parameter list that does not change while it is read. -/

/-- `drm_virtgpu_context_set_param` -/
structure DrmVirtgpuContextSetParam where
  param : UInt64
  value : UInt64
  deriving DecidableEq, Repr

namespace DrmVirtgpuContextSetParam

/-- All reads of the entry find what was written. -/
def read (parameter : DrmVirtgpuContextSetParam) : ContextParamRead where
  param := parameter.param
  compared := parameter.value
  shifted := parameter.value
  stored := parameter.value

/-- A capset id that the mask advertises. -/
def Valid (mask : UInt64) (parameter : DrmVirtgpuContextSetParam) : Prop :=
  parameter.param = contextParamCapsetId ∧
    parameter.value ≤ maxCapsetId ∧ Advertises mask parameter.value.toNat

theorem read_passes_iff (mask : UInt64)
    (parameter : DrmVirtgpuContextSetParam) :
    parameter.read.Passes mask ↔ parameter.Valid mask := by
  refine and_congr_right fun _ => and_congr_right fun hvalue => ?_
  have hlt : parameter.value.toNat < 64 :=
    Nat.lt_succ_of_le (UInt64.le_iff_toNat_le.mp hvalue)
  rw [capsetAllowed_iff]
  change Advertises mask (parameter.value.toNat % 64) ↔ _
  rw [Nat.mod_eq_of_lt hlt]

end DrmVirtgpuContextSetParam

/-- A request whose parameter list stays as it was written. -/
structure WrittenInit where
  input : Fetch DrmVirtgpuContextInit
  params : Fetch (Nat → DrmVirtgpuContextSetParam)
  contextBlock : Bool

namespace WrittenInit

def request (written : WrittenInit) : ContextInitRequest where
  input := written.input
  params :=
    match written.params with
    | .failed code => .failed code
    | .rejected => .rejected
    | .ok params => .ok fun index => (params index).read
  contextBlock := written.contextBlock

/-- The list that the handler gets to see, when it gets that far. -/
def parameters (written : WrittenInit) :
    Option (List DrmVirtgpuContextSetParam) :=
  match written.input, written.params with
  | .ok init, .ok params =>
      some ((List.range init.numParams.toNat).map params)
  | _, _ => none

end WrittenInit

section Handler

variable (addBuf : Nat → Bool) (contextId : UInt32)
variable (request : ContextInitRequest) (driver : Driver)

/-- The reads of the loop, when the handler gets there. -/
def ContextInitRequest.reads (request : ContextInitRequest) :
    Option (List ContextParamRead) :=
  match request.input, request.params with
  | .ok init, .ok params =>
      some ((List.range init.numParams.toNat).map params)
  | _, _ => none

/-- What `CtlInitVirglContext` needs to open a context. -/
structure InitAccepted (reads : List ContextParamRead) : Prop where
  new : getVirglContextFromListUnsafe driver.virglContextList contextId = none
  fetched : request.reads = some reads
  passes : ∀ read ∈ reads, read.Passes driver.capsets.capsetIdMask
  block : request.contextBlock = true

/-- The driver with the context opened. -/
def openedContext (reads : List ContextParamRead) : Driver :=
  createVirglContext addBuf contextId
    (orValues (storedValues driver.capsets.capsetIdMask reads) 0)
    { driver with
      virglContextList :=
        { id := contextId, resourceList := [] } :: driver.virglContextList }

variable {contextId request driver}

theorem ctlInitVirglContext_of_accepted {reads : List ContextParamRead}
    (h : InitAccepted contextId request driver reads) :
    ctlInitVirglContext addBuf contextId request driver =
      (.complete .success none,
        openedContext addBuf contextId driver reads) := by
  obtain ⟨hnew, hfetched, hpasses, hblock⟩ := h
  unfold ContextInitRequest.reads at hfetched
  split at hfetched
  · rename_i init params hinit hparams
    cases hfetched
    have hstatus := (contextInitParams_status
      driver.capsets.capsetIdMask _).mpr hpasses
    simp only [ctlInitVirglContext, hnew, hinit, hparams, Fetch.andThen,
      hstatus, hblock, contextInitParams_contextInit, openedContext]
    rfl
  · cases hfetched

/-- A handler that does not open the context leaves everything as it is. -/
theorem ctlInitVirglContext_of_not_accepted
    (hrefused : ∀ reads, ¬InitAccepted contextId request driver reads) :
    (ctlInitVirglContext addBuf contextId request driver).1 ≠
        .complete .success none ∧
      (ctlInitVirglContext addBuf contextId request driver).2 = driver := by
  have hfailed : ∀ status : NtStatus, status ≠ .success →
      Reply.complete status none ≠ .complete .success none :=
    fun status hstatus heq => hstatus (by simpa using heq)
  unfold ctlInitVirglContext
  split
  · exact ⟨hfailed _ (by simp), rfl⟩
  · rename_i hnew
    cases hinit : request.input with
    | failed code => exact ⟨hfailed (.other code) (by simp), rfl⟩
    | rejected => exact ⟨hfailed .unsuccessful (by simp), rfl⟩
    | ok init =>
        cases hparams : request.params with
        | failed code => exact ⟨hfailed (.other code) (by simp), rfl⟩
        | rejected => exact ⟨hfailed .unsuccessful (by simp), rfl⟩
        | ok params =>
            simp only [Fetch.andThen]
            split
            · rename_i hstatus
              exact ⟨hfailed _ hstatus, rfl⟩
            · rename_i hstatus
              split
              · exact ⟨hfailed _ (by simp), rfl⟩
              · rename_i hblock
                have hpasses := (contextInitParams_status
                  driver.capsets.capsetIdMask _).mp (not_not.mp hstatus)
                refine absurd ⟨hnew, ?_, hpasses, by simpa using hblock⟩
                  (hrefused _)
                simp only [ContextInitRequest.reads, hinit, hparams]

variable (contextId driver)

theorem openedContext_issues (reads : List ContextParamRead) :
    Issues addBuf
      [(.control, ⟨ctrlHdr contextId 0, .ctxCreate
        (orValues (storedValues driver.capsets.capsetIdMask reads) 0)⟩)]
      driver (openedContext addBuf contextId driver reads) :=
  (sendCommand_issues addBuf _ _ _ _).from_frame rfl rfl rfl

end Handler

theorem written_accepted_iff {contextId : UInt32} {written : WrittenInit}
    {driver : Driver} {reads : List ContextParamRead} :
    InitAccepted contextId written.request driver reads ↔
      getVirglContextFromListUnsafe driver.virglContextList contextId = none ∧
        written.contextBlock = true ∧
        ∃ parameters, written.parameters = some parameters ∧
          reads = parameters.map DrmVirtgpuContextSetParam.read ∧
          ∀ parameter ∈ parameters,
            parameter.Valid driver.capsets.capsetIdMask := by
  have hreads : written.request.reads = some reads ↔
      ∃ parameters, written.parameters = some parameters ∧
        reads = parameters.map DrmVirtgpuContextSetParam.read := by
    unfold ContextInitRequest.reads WrittenInit.request WrittenInit.parameters
    cases written.input with
    | failed code => simp
    | rejected => simp
    | ok init =>
        cases written.params with
        | failed code => simp
        | rejected => simp
        | ok params =>
            simp [Function.comp_def, eq_comm]
  constructor
  · rintro ⟨hnew, hfetched, hpasses, hblock⟩
    obtain ⟨parameters, hparameters, rfl⟩ := hreads.mp hfetched
    refine ⟨hnew, hblock, parameters, hparameters, rfl, ?_⟩
    intro parameter hmem
    exact (parameter.read_passes_iff _).mp
      (hpasses _ (List.mem_map_of_mem hmem))
  · rintro ⟨hnew, hblock, parameters, hparameters, rfl, hvalid⟩
    refine ⟨hnew, hreads.mpr ⟨parameters, hparameters, rfl⟩, ?_, hblock⟩
    intro read hmem
    obtain ⟨parameter, hparameter, rfl⟩ := List.mem_map.mp hmem
    exact (parameter.read_passes_iff _).mpr (hvalid parameter hparameter)

/-- Only advertised capsets are initialised: a call succeeds on a list of
valid parameters only and then sends an advertised id, and a call that is
rejected leaves contexts and queues as they are. -/
structure OnlyAdvertised (addBuf : Nat → Bool) (contextId : UInt32)
    (written : WrittenInit) (driver : Driver) : Prop where
  valid : (ctlInitVirglContext addBuf contextId written.request driver).1 =
      .complete .success none →
    ∃ parameters, written.parameters = some parameters ∧
      ∀ parameter ∈ parameters, parameter.Valid driver.capsets.capsetIdMask
  sent : (ctlInitVirglContext addBuf contextId written.request driver).1 =
      .complete .success none →
    ∀ new, (ctlInitVirglContext addBuf contextId written.request
        driver).2.pushes = driver.pushes ++ new →
      ∀ push ∈ new, ∀ contextInit,
        push.2.pBuf.body = .ctxCreate contextInit →
          contextInit.toNat < 64 ∧
            Advertises driver.capsets.capsetIdMask contextInit.toNat
  rejected : (ctlInitVirglContext addBuf contextId written.request driver).1 ≠
      .complete .success none →
    (ctlInitVirglContext addBuf contextId written.request driver).2 = driver

/-- The id whose binary digits are those of all the values together is
advertised; without values this is the id 0. -/
def UnionAdvertised (mask : UInt64)
    (parameters : List DrmVirtgpuContextSetParam) : Prop :=
  ∃ id < 64, Advertises mask id ∧
    ∀ digit, id.testBit digit = true ↔
      ∃ parameter ∈ parameters,
        parameter.value.toNat.testBit digit = true

/-- The values of valid parameters lose nothing in the 32 bits of
`contextInit`. -/
theorem orValues_valid_testBit {mask : UInt64}
    {parameters : List DrmVirtgpuContextSetParam}
    (hvalid : ∀ parameter ∈ parameters, parameter.Valid mask) (digit : Nat) :
    (orValues (storedValues mask
        (parameters.map DrmVirtgpuContextSetParam.read)) 0).toNat.testBit
          digit = true ↔
      ∃ parameter ∈ parameters,
        parameter.value.toNat.testBit digit = true := by
  have hstored : storedValues mask
      (parameters.map DrmVirtgpuContextSetParam.read) =
      parameters.map DrmVirtgpuContextSetParam.value := by
    have hall : (parameters.map DrmVirtgpuContextSetParam.read).filter
        (fun read => decide (read.Passes mask)) =
        parameters.map DrmVirtgpuContextSetParam.read := by
      rw [List.filter_eq_self]
      intro read hmem
      obtain ⟨parameter, hparameter, rfl⟩ := List.mem_map.mp hmem
      exact decide_eq_true
        ((parameter.read_passes_iff mask).mpr (hvalid parameter hparameter))
    unfold storedValues
    rw [hall, List.map_map]
    rfl
  rw [hstored, orValues_testBit]
  simp only [UInt32.toNat_zero, Nat.zero_testBit, Bool.false_eq_true,
    false_or, List.mem_map, exists_exists_and_eq_and]
  refine exists_congr fun parameter => and_congr_right fun hmem => ?_
  have hlt : parameter.value.toNat < 64 :=
    Nat.lt_succ_of_le (UInt64.le_iff_toNat_le.mp (hvalid parameter hmem).2.1)
  rw [UInt64.toNat_toUInt32, Nat.mod_eq_of_lt (by omega)]

theorem unionAdvertised_iff {mask : UInt64}
    {parameters : List DrmVirtgpuContextSetParam}
    (hvalid : ∀ parameter ∈ parameters, parameter.Valid mask)
    {contextInit : UInt32}
    (hsent : contextInit = orValues (storedValues mask
      (parameters.map DrmVirtgpuContextSetParam.read)) 0) :
    UnionAdvertised mask parameters ↔
      contextInit.toNat < 64 ∧ Advertises mask contextInit.toNat := by
  have hdigits := fun digit => orValues_valid_testBit hvalid digit
  rw [← hsent] at hdigits
  constructor
  · rintro ⟨id, hid, hadvertised, hunion⟩
    have heq : contextInit.toNat = id := by
      apply Nat.eq_of_testBit_eq
      intro digit
      rw [Bool.eq_iff_iff, hdigits, hunion]
    rw [heq]
    exact ⟨hid, hadvertised⟩
  · rintro ⟨hid, hadvertised⟩
    exact ⟨contextInit.toNat, hid, hadvertised, hdigits⟩

/-- Only advertised capsets are initialised, exactly when the union of the
values of every list that is accepted is an advertised id too. -/
theorem only_advertised_iff (addBuf : Nat → Bool) (contextId : UInt32)
    (written : WrittenInit) (driver : Driver) :
    OnlyAdvertised addBuf contextId written driver ↔
      (getVirglContextFromListUnsafe driver.virglContextList contextId =
          none →
        written.contextBlock = true → addBuf driver.pushCount = true →
        ∀ parameters, written.parameters = some parameters →
          (∀ parameter ∈ parameters,
            parameter.Valid driver.capsets.capsetIdMask) →
          UnionAdvertised driver.capsets.capsetIdMask parameters) := by
  constructor
  · intro h hnew hblock hpush parameters hparameters hvalid
    have haccepted := written_accepted_iff.mpr
      ⟨hnew, hblock, parameters, hparameters, rfl, hvalid⟩
    have heq := ctlInitVirglContext_of_accepted addBuf haccepted
    have hissues := openedContext_issues addBuf contextId driver
      (parameters.map DrmVirtgpuContextSetParam.read)
    have hsent := h.sent (by rw [heq]) _
      (by rw [heq]; exact hissues.sends.pushes)
    have hpushed : (Queue.control, commandBuffer (ctrlHdr contextId 0)
        (.ctxCreate (orValues (storedValues driver.capsets.capsetIdMask
          (parameters.map DrmVirtgpuContextSetParam.read)) 0))
        driver.pushCount) ∈ acceptedOf addBuf
          (numbered driver.pushCount
            [(.control, ⟨ctrlHdr contextId 0, .ctxCreate
              (orValues (storedValues driver.capsets.capsetIdMask
                (parameters.map DrmVirtgpuContextSetParam.read)) 0)⟩)]) := by
      simp [acceptedOf, numbered, commandBuffer, hpush]
    exact (unionAdvertised_iff hvalid rfl).mpr (hsent _ hpushed _ rfl)
  · intro hcondition
    by_cases haccepts : ∃ reads,
        InitAccepted contextId written.request driver reads
    · obtain ⟨reads, haccepted⟩ := haccepts
      obtain ⟨hnew, hblock, parameters, hparameters, rfl, hvalid⟩ :=
        written_accepted_iff.mp haccepted
      have heq := ctlInitVirglContext_of_accepted addBuf haccepted
      have hissues := openedContext_issues addBuf contextId driver
        (parameters.map DrmVirtgpuContextSetParam.read)
      constructor
      · exact fun _ => ⟨parameters, hparameters, hvalid⟩
      · intro _ new hpushes push hmem contextInit hbody
        rw [heq, hissues.sends.pushes] at hpushes
        rw [← List.append_cancel_left hpushes] at hmem
        obtain ⟨hnumbered, hpush⟩ := List.mem_filter.mp hmem
        simp only [numbered, List.mem_singleton] at hnumbered
        subst hnumbered
        have hunion := hcondition hnew hblock hpush parameters hparameters
          hvalid
        simp only [commandBuffer, CommandBody.ctxCreate.injEq] at hbody
        exact (unionAdvertised_iff hvalid hbody.symm).mp hunion
      · exact fun hrejected => absurd (by rw [heq]) hrejected
    · have hrefused := ctlInitVirglContext_of_not_accepted addBuf
        (not_exists.mp haccepts)
      exact ⟨fun hsuccess => absurd hsuccess hrefused.1,
        fun hsuccess => absurd hsuccess hrefused.1, fun _ => hrefused.2⟩

/-- Two parameters that name the capsets 1 and 2. -/
def twoCapsets : WrittenInit where
  input := .ok { numParams := 2 }
  params := .ok fun index =>
    { param := contextParamCapsetId, value := UInt64.ofNat (index + 1) }
  contextBlock := true

/-- The host offers the capsets 1 and 2 only and is asked for capset 3. -/
theorem unadvertised_capset_sent :
    ¬OnlyAdvertised (fun _ => true) 7 twoCapsets
      (World.start 0x10000 0x80000 0x8000
        { initialized := true
          numCaps := 2
          data := [⟨1, 1, 308⟩, ⟨2, 2, 1380⟩]
          capsetIdMask := 6 }).driver := by
  intro h
  have hsent := h.sent (by decide +kernel) _ rfl _ List.mem_cons_self 3 rfl
  exact absurd hsent.2 (by decide +kernel)

end VgpuDriver
