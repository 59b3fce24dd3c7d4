import VgpuDriver.Data.SetFold
import VgpuDriver.System

namespace VgpuDriver

open Data

/-! `UpdateResourceState` on a handle array: the order of the handles, the
repetitions and the handles of no resource do not matter. -/

section Updates

variable (busy : Bool) (fenceId : UInt64)

theorem modifyResource_comm (context : VirglContext) (first second : UInt32) :
    (context.modifyResource first
        (VirglResource.updateState busy fenceId)).modifyResource second
          (VirglResource.updateState busy fenceId) =
      (context.modifyResource second
        (VirglResource.updateState busy fenceId)).modifyResource first
          (VirglResource.updateState busy fenceId) := by
  unfold VirglContext.modifyResource
  dsimp only
  rw [modifyFirst_comm fun _ => VirglResource.updateState_id]

theorem modifyResource_idem (context : VirglContext) (id : UInt32) :
    (context.modifyResource id
        (VirglResource.updateState busy fenceId)).modifyResource id
          (VirglResource.updateState busy fenceId) =
      context.modifyResource id (VirglResource.updateState busy fenceId) := by
  unfold VirglContext.modifyResource
  dsimp only
  rw [modifyFirst_idem (fun _ => VirglResource.updateState_id)
    fun _ => VirglResource.updateState_updateState]

theorem updateResourceState_ids (ids : List UInt32) (context : VirglContext) :
    (updateResourceState ids busy fenceId context).resourceList.map
        VirglResource.id =
      context.resourceList.map VirglResource.id := by
  induction ids generalizing context with
  | nil => rfl
  | cons head tail ih =>
      rw [updateResourceState, List.foldl_cons]
      refine (ih _).trans ?_
      exact map_modifyFirst fun _ => VirglResource.updateState_id

theorem modifyResource_unlisted {context : VirglContext} {id : UInt32}
    (hunlisted : id ∉ context.resourceList.map VirglResource.id)
    (change : VirglResource → VirglResource) :
    context.modifyResource id change = context := by
  have hnone : context.resourceList.find?
      (fun resource => decide (resource.id = id)) = none := by
    apply List.find?_eq_none.mpr
    intro resource hresource hid
    apply hunlisted
    rw [← of_decide_eq_true hid]
    exact List.mem_map_of_mem hresource
  unfold VirglContext.modifyResource
  rw [modifyFirst_of_find?_eq_none hnone]

/-- What the array does to a resource of the context has been done when a
handle of it comes again. -/
theorem updateResourceState_absorbs {ids : List UInt32} {id : UInt32}
    (context : VirglContext)
    (hlisted : id ∈ context.resourceList.map VirglResource.id → id ∈ ids) :
    (updateResourceState ids busy fenceId context).modifyResource id
        (VirglResource.updateState busy fenceId) =
      updateResourceState ids busy fenceId context := by
  by_cases hid : id ∈ context.resourceList.map VirglResource.id
  · exact foldl_absorbs
      (f := fun context id => context.modifyResource id
        (VirglResource.updateState busy fenceId))
      (modifyResource_comm busy fenceId) (modifyResource_idem busy fenceId)
      (hlisted hid) context
  · apply modifyResource_unlisted
    rwa [updateResourceState_ids]

end Updates

/-- A handle array acts as the set of those of its ids that exist. -/
theorem handle_list_acts_as_set (context : VirglContext) (busy : Bool)
    (fenceId : UInt64) (first second : List UInt32)
    (hsame : ∀ id ∈ context.resourceList.map VirglResource.id,
      id ∈ first ↔ id ∈ second) :
    updateResourceState first busy fenceId context =
        updateResourceState second busy fenceId context ∧
      updateResourceState first busy fenceId
          (updateResourceState first busy fenceId context) =
        updateResourceState first busy fenceId context ∧
      List.Forall₂ (fun before after =>
          (before.id ∉ first → after = before) ∧
            before.fenceId ≤ after.fenceId)
        context.resourceList
        (updateResourceState first busy fenceId context).resourceList := by
  refine ⟨?_, ?_, ?_⟩
  · apply foldl_eq_of_absorbed (modifyResource_comm busy fenceId)
    · intro id hsecond
      apply updateResourceState_absorbs
      exact fun hid => (hsame id hid).mpr hsecond
    · intro id hfirst
      apply updateResourceState_absorbs
      exact fun hid => (hsame id hid).mp hfirst
  · apply foldl_of_absorbed
    intro id hfirst
    apply updateResourceState_absorbs
    exact fun _ => hfirst
  · apply (updateResourceState_forall₂ first busy fenceId context).imp
    intro before after hupdate
    cases hupdate with
    | inl hkept =>
        rw [hkept]
        exact ⟨fun _ => rfl, UInt64.le_refl _⟩
    | inr hlisted =>
        rw [hlisted.2]
        exact ⟨fun hunlisted => absurd hlisted.1 hunlisted,
          VirglResource.updateState_fenceId_le⟩

/-- A context with the resources 1 and 2. -/
def twoResources : VirglContext where
  id := 7
  resourceList :=
    [{ IoRequest.poolRecord with id := 2, fenceId := 4 },
     { IoRequest.poolRecord with id := 1, fenceId := 6 }]

/-- Handles come again, and one is of no resource. -/
theorem handle_list_acts_as_set_repeated :
    updateResourceState [2, 1, 2, 9, 1] true 5 twoResources =
      updateResourceState [1, 2] true 5 twoResources := by
  have hsame : ∀ id ∈ twoResources.resourceList.map VirglResource.id,
      id ∈ [2, 1, 2, 9, 1] ↔ id ∈ [1, 2] := by
    intro id hid
    cases hid with
    | head => exact iff_of_true (by decide) (by decide)
    | tail _ hrest =>
        cases hrest with
        | head => exact iff_of_true (by decide) (by decide)
        | tail _ hnone => cases hnone
  exact (handle_list_acts_as_set twoResources true 5 [2, 1, 2, 9, 1] [1, 2]
    hsame).1

end VgpuDriver
