import VgpuDriver.Data.Transition
import VgpuDriver.Idr

namespace VgpuDriver

open Data

/-! Ids that go back to their generator.  The callers hold what the getters
gave them and return some of it. -/

/-- The types of the two entries of `Idrs`. -/
inductive IdrType
  | virglResourceId
  | fenceId
  deriving DecidableEq, Repr

/-- A generator, the ids its callers hold and all ids it ever gave. -/
structure IdrHoldings where
  idr : Idr
  held : List Nat
  given : List Nat
  deriving DecidableEq, Repr

inductive IdrCall
  | getIdFromIdr
  | getIdFromIdrWithoutCache
  | putIdToIdr (id : Nat)
  deriving DecidableEq, Repr

namespace IdrHoldings

def initial : IdrHoldings where
  idr := initializeIdr
  held := []
  given := []

/-- Hand out what a getter returns. -/
def handOut (result : Nat × Idr) (holdings : IdrHoldings) : IdrHoldings where
  idr := result.2
  held := result.1 :: holdings.held
  given := result.1 :: holdings.given

def step (size : Nat) (holdings : IdrHoldings) : IdrCall → IdrHoldings
  | .getIdFromIdr => holdings.handOut (getIdFromIdr size holdings.idr)
  | .getIdFromIdrWithoutCache =>
      holdings.handOut (getIdFromIdrWithoutCache size holdings.idr)
  | .putIdToIdr id =>
      { holdings with
        idr := putIdToIdr size id holdings.idr
        held := holdings.held.erase id }

/-- A put returns an id that is handed out. -/
def ReturnsHeld (holdings : IdrHoldings) : IdrCall → Prop
  | .putIdToIdr id => id ∈ holdings.held
  | _ => True

instance (holdings : IdrHoldings) (call : IdrCall) :
    Decidable (holdings.ReturnsHeld call) := by
  cases call <;> unfold ReturnsHeld <;> infer_instance

/-- What joins the counter, the free list and the holdings: every id given
was drawn from the counter, and what is held or free was given once. -/
structure Sound (holdings : IdrHoldings) : Prop where
  counted : holdings.idr.Counted
  bounded : ∀ id ∈ holdings.given, 0 < id ∧ id ≤ holdings.idr.drawn
  known : ∀ id ∈ holdings.held ++ holdings.idr.freeIdList,
    id ∈ holdings.given
  distinct : (holdings.held ++ holdings.idr.freeIdList).Nodup

theorem initial_sound : initial.Sound where
  counted := initializeIdr_counted
  bounded := nofun
  known := nofun
  distinct := List.nodup_nil

namespace Sound

variable {size : Nat} {holdings : IdrHoldings}

theorem lowBytes_eq (h : holdings.Sound)
    (hdrawn : holdings.idr.drawn < 2 ^ (8 * size) - 1) {id : Nat}
    (hid : id ∈ holdings.held ++ holdings.idr.freeIdList) :
    lowBytes size id = id := by
  have hle := (h.bounded id (h.known id hid)).2
  exact Nat.mod_eq_of_lt (by omega)

theorem fresh_eq (h : holdings.Sound) (hsize : size ≤ 8)
    (hdrawn : holdings.idr.drawn + 1 < 2 ^ (8 * size)) :
    (VgpuDriver.getIdFromIdrWithoutCache size holdings.idr).1 =
      holdings.idr.drawn + 1 := by
  have hword : 2 ^ (8 * size) ≤ 2 ^ 64 :=
    Nat.pow_le_pow_right (by omega) (by omega)
  have hcounted := h.counted
  unfold Idr.Counted at hcounted
  simp only [VgpuDriver.getIdFromIdrWithoutCache, lowBytes, hcounted]
  rw [Nat.mod_eq_of_lt (by omega : 1 + holdings.idr.drawn < 2 ^ 64),
    Nat.mod_eq_of_lt (by omega), Nat.add_comm]

theorem getIdFromIdrWithoutCache (h : holdings.Sound) (hsize : size ≤ 8)
    (hdrawn : holdings.idr.drawn + 1 < 2 ^ (8 * size)) :
    (holdings.handOut
      (VgpuDriver.getIdFromIdrWithoutCache size holdings.idr)).Sound := by
  have hfresh := h.fresh_eq hsize hdrawn
  have hnew : holdings.idr.drawn + 1 ∉ holdings.given := by
    intro hgiven
    have hle := (h.bounded _ hgiven).2
    omega
  constructor
  · exact h.counted.getIdFromIdrWithoutCache size
  · intro id hid
    change 0 < id ∧ id ≤ holdings.idr.drawn + 1
    simp only [handOut, hfresh, List.mem_cons] at hid
    cases hid with
    | inl heq => omega
    | inr hgiven =>
        have hbounds := h.bounded id hgiven
        omega
  · intro id hid
    change id ∈ _ :: (holdings.held ++ holdings.idr.freeIdList) at hid
    cases List.mem_cons.mp hid with
    | inl heq => exact heq ▸ List.mem_cons_self
    | inr hknown => exact List.mem_cons_of_mem _ (h.known id hknown)
  · change (_ :: (holdings.held ++ holdings.idr.freeIdList)).Nodup
    rw [hfresh]
    exact List.nodup_cons.mpr
      ⟨fun hknown => hnew (h.known _ hknown), h.distinct⟩

theorem getIdFromIdr (h : holdings.Sound) (hsize : size ≤ 8)
    (hdrawn : (VgpuDriver.getIdFromIdr size holdings.idr).2.drawn <
      2 ^ (8 * size) - 1) :
    (holdings.handOut
      (VgpuDriver.getIdFromIdr size holdings.idr)).Sound := by
  cases hlist : holdings.idr.freeIdList with
  | nil =>
      have hget : VgpuDriver.getIdFromIdr size holdings.idr =
          VgpuDriver.getIdFromIdrWithoutCache size holdings.idr := by
        simp only [VgpuDriver.getIdFromIdr, hlist]
      rw [hget] at hdrawn ⊢
      change holdings.idr.drawn + 1 < _ at hdrawn
      exact h.getIdFromIdrWithoutCache hsize (by omega)
  | cons free rest =>
      have hmem : free ∈ holdings.held ++ holdings.idr.freeIdList := by
        simp [hlist]
      have hget : VgpuDriver.getIdFromIdr size holdings.idr =
          (lowBytes size free, { holdings.idr with freeIdList := rest }) := by
        simp only [VgpuDriver.getIdFromIdr, hlist]
      rw [hget] at hdrawn ⊢
      rw [h.lowBytes_eq hdrawn hmem]
      -- the head of the list changes sides, nothing else moves
      have hperm : (free :: holdings.held ++ rest).Perm
          (holdings.held ++ holdings.idr.freeIdList) := by
        rw [hlist]
        exact List.perm_middle.symm
      constructor
      · exact h.counted
      · intro id hid
        cases List.mem_cons.mp hid with
        | inl heq => exact heq ▸ h.bounded free (h.known free hmem)
        | inr hgiven => exact h.bounded id hgiven
      · intro id hid
        exact List.mem_cons_of_mem _ (h.known id (hperm.mem_iff.mp hid))
      · exact hperm.nodup_iff.mpr h.distinct

theorem putIdToIdr (h : holdings.Sound) {id : Nat}
    (hheld : id ∈ holdings.held)
    (hdrawn : holdings.idr.drawn < 2 ^ (8 * size) - 1) :
    (holdings.step size (.putIdToIdr id)).Sound := by
  have hsame : lowBytes size id = id :=
    h.lowBytes_eq hdrawn (List.mem_append_left _ hheld)
  have hperm : (holdings.held.erase id ++
      lowBytes size id :: holdings.idr.freeIdList).Perm
      (holdings.held ++ holdings.idr.freeIdList) := by
    rw [hsame]
    exact List.perm_middle.trans
      ((List.perm_cons_erase hheld).symm.append_right _)
  constructor
  · exact h.counted
  · exact h.bounded
  · intro other hother
    exact h.known other (hperm.mem_iff.mp hother)
  · exact hperm.nodup_iff.mpr h.distinct

end Sound

theorem drawn_le_step (size : Nat) (holdings : IdrHoldings) (call : IdrCall) :
    holdings.idr.drawn ≤ (holdings.step size call).idr.drawn := by
  cases call with
  | getIdFromIdr =>
      change _ ≤ (VgpuDriver.getIdFromIdr size holdings.idr).2.drawn
      unfold VgpuDriver.getIdFromIdr
      split
      · exact Nat.le_succ _
      · exact Nat.le_refl _
  | getIdFromIdrWithoutCache => exact Nat.le_succ _
  | putIdToIdr id => exact Nat.le_refl _

theorem Sound.step {size : Nat} {holdings : IdrHoldings} (h : holdings.Sound)
    {call : IdrCall} (hsize : size ≤ 8) (hreturned : holdings.ReturnsHeld call)
    (hdrawn : (holdings.step size call).idr.drawn < 2 ^ (8 * size) - 1) :
    (holdings.step size call).Sound := by
  cases call with
  | getIdFromIdr => exact h.getIdFromIdr hsize hdrawn
  | getIdFromIdrWithoutCache =>
      change holdings.idr.drawn + 1 < _ at hdrawn
      exact h.getIdFromIdrWithoutCache hsize (by omega)
  | putIdToIdr id => exact h.putIdToIdr hreturned hdrawn

end IdrHoldings

/-- `Idrs` -/
abbrev IdrTable : Type := IdrType → IdrHoldings

namespace IdrTable

/-- `InitializeIdr` -/
def initial : IdrTable := fun _ => .initial

/-- A call names the entry it is for; `size` is the width its callers use. -/
def step (size : IdrType → Nat) (table : IdrTable) (call : IdrType × IdrCall) :
    IdrTable :=
  fun type =>
    if type = call.1 then (table type).step (size type) call.2 else table type

def ReturnsHeld (table : IdrTable) (call : IdrType × IdrCall) : Prop :=
  (table call.1).ReturnsHeld call.2

instance (table : IdrTable) (call : IdrType × IdrCall) :
    Decidable (table.ReturnsHeld call) :=
  inferInstanceAs (Decidable (IdrHoldings.ReturnsHeld _ _))

/-- As long as an entry has drawn few ids it is sound. -/
def Sound (size : IdrType → Nat) (table : IdrTable) : Prop :=
  ∀ type, (table type).idr.drawn < 2 ^ (8 * size type) - 1 →
    (table type).Sound

theorem Sound.step {size : IdrType → Nat} {table : IdrTable}
    (h : table.Sound size) {call : IdrType × IdrCall}
    (hsize : ∀ type, size type ≤ 8) (hreturned : table.ReturnsHeld call) :
    (table.step size call).Sound size := by
  intro type hdrawn
  by_cases htype : type = call.1
  · simp only [IdrTable.step, if_pos htype] at hdrawn ⊢
    have hbefore := Nat.lt_of_le_of_lt
      ((table type).drawn_le_step (size type) call.2) hdrawn
    exact (h type hbefore).step (hsize type) (htype ▸ hreturned) hdrawn
  · simp only [IdrTable.step, if_neg htype] at hdrawn ⊢
    exact h type hdrawn

theorem Sound.run {size : IdrType → Nat} {calls : List (IdrType × IdrCall)}
    (hsize : ∀ type, size type ≤ 8)
    (hreturned : Along (IdrTable.step size) ReturnsHeld initial calls) :
    Sound size (runFrom (IdrTable.step size) initial calls) :=
  hreturned.invariant
    (fun _ _ hsound hheld => hsound.step hsize hheld)
    (fun _ _ => IdrHoldings.initial_sound)

end IdrTable

/-- Ids are recycled safely, and `GetIdFromIdr` advances the counter only when
the free list is empty. -/
theorem idr_recycling_safe (size : IdrType → Nat)
    (hsize : ∀ type, size type = 4 ∨ size type = 8)
    (calls : List (IdrType × IdrCall))
    (hreturned : Along (IdrTable.step size) IdrTable.ReturnsHeld
      IdrTable.initial calls)
    (type : IdrType)
    (hdrawn : (runFrom (IdrTable.step size) IdrTable.initial calls
      type).idr.drawn < 2 ^ (8 * size type) - 1) :
    let reached := runFrom (IdrTable.step size) IdrTable.initial calls type
    (∀ id ∈ reached.held, id ≠ 0) ∧ reached.held.Nodup ∧
      reached.idr.freeIdList.Nodup ∧
      (∀ id ∈ reached.idr.freeIdList,
        id ∉ reached.held ∧ id ∈ reached.given) ∧
      ((getIdFromIdr (size type) reached.idr).2.id ≠ reached.idr.id →
        reached.idr.freeIdList = []) := by
  intro reached
  have hsmall : ∀ type, size type ≤ 8 := fun type => by
    cases hsize type <;> omega
  have hsound : reached.Sound :=
    IdrTable.Sound.run hsmall hreturned type hdrawn
  obtain ⟨hheld, hfree, hapart⟩ := List.nodup_append.mp hsound.distinct
  refine ⟨?_, hheld, hfree, ?_, ?_⟩
  · intro id hid
    have hpos := hsound.bounded id
      (hsound.known id (List.mem_append_left _ hid))
    omega
  · intro id hid
    exact ⟨fun hother => hapart id hother id hid rfl,
      hsound.known id (List.mem_append_right _ hid)⟩
  · intro hfresh
    cases hlist : reached.idr.freeIdList with
    | nil => rfl
    | cons free rest => simp [getIdFromIdr, hlist] at hfresh

/-- Resource ids of 4 bytes and fence ids of 8 bytes, one of each returned. -/
theorem idr_recycling_safe_mixed :
    let size := fun type => if type = IdrType.virglResourceId then 4 else 8
    let reached := runFrom (IdrTable.step size) IdrTable.initial
      [(.virglResourceId, .getIdFromIdr), (.fenceId, .getIdFromIdr),
        (.virglResourceId, .getIdFromIdrWithoutCache),
        (.virglResourceId, .putIdToIdr 1), (.fenceId, .putIdToIdr 1),
        (.virglResourceId, .getIdFromIdr)] .virglResourceId
    reached.held = [1, 2] ∧ reached.held.Nodup :=
  ⟨by decide +kernel,
    (idr_recycling_safe _ (fun type => by cases type <;> decide) _
      (by decide +kernel) .virglResourceId (by decide +kernel)).2.1⟩

end VgpuDriver
