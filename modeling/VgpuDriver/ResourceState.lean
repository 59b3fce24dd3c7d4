import VgpuDriver.Data.FirstMatch
import VgpuDriver.Global

namespace VgpuDriver

open Data

/-! The list lookups and the busy marks of `control.h`. -/

def getResourceFromListUnsafe (context : VirglContext) (id : UInt32) :
    Option VirglResource :=
  context.resourceList.find? fun resource => decide (resource.id = id)

def getVirglContextFromListUnsafe (contexts : List VirglContext)
    (id : UInt32) : Option VirglContext :=
  contexts.find? fun context => decide (context.id = id)

/-- The body of the loop of `UpdateResourceState` on the resource found. -/
def VirglResource.updateState (busy : Bool) (fenceId : UInt64)
    (resource : VirglResource) : VirglResource :=
  if fenceId = 0 then
    { resource with stateEvent := !busy }
  else if resource.fenceId ≤ fenceId then
    { resource with fenceId := fenceId, stateEvent := !busy }
  else resource

/-- Change the resource that a lookup by id finds. -/
def VirglContext.modifyResource (id : UInt32)
    (change : VirglResource → VirglResource) (context : VirglContext) :
    VirglContext :=
  { context with
    resourceList := modifyFirst (fun resource => decide (resource.id = id))
      change context.resourceList }

def updateResourceState (resourceIds : List UInt32) (busy : Bool)
    (fenceId : UInt64) (context : VirglContext) : VirglContext :=
  resourceIds.foldl
    (fun context id =>
      context.modifyResource id (VirglResource.updateState busy fenceId))
    context

/-- The update sets or clears the event: an unfenced one always, a fenced one
when it is not older than the last one that did. -/
def VirglResource.Accepts (resource : VirglResource) (fenceId : UInt64) :
    Prop :=
  fenceId = 0 ∨ resource.fenceId ≤ fenceId

instance (resource : VirglResource) (fenceId : UInt64) :
    Decidable (resource.Accepts fenceId) :=
  inferInstanceAs (Decidable (_ ∨ _))

namespace VirglResource

variable {busy : Bool} {fenceId : UInt64} {resource : VirglResource}

/-- Only the event and the fence number can change. -/
theorem updateState_eq (busy : Bool) (fenceId : UInt64)
    (resource : VirglResource) :
    ∃ stateEvent newFenceId,
      resource.updateState busy fenceId =
        { resource with stateEvent := stateEvent, fenceId := newFenceId } := by
  unfold updateState
  split
  · exact ⟨_, _, rfl⟩
  · split
    · exact ⟨_, _, rfl⟩
    · exact ⟨_, _, rfl⟩

@[simp] theorem updateState_id :
    (resource.updateState busy fenceId).id = resource.id := by
  obtain ⟨_, _, heq⟩ := updateState_eq busy fenceId resource
  rw [heq]

@[simp] theorem updateState_serial :
    (resource.updateState busy fenceId).serial = resource.serial := by
  obtain ⟨_, _, heq⟩ := updateState_eq busy fenceId resource
  rw [heq]

@[simp] theorem updateState_buffer :
    (resource.updateState busy fenceId).buffer = resource.buffer := by
  obtain ⟨_, _, heq⟩ := updateState_eq busy fenceId resource
  rw [heq]

@[simp] theorem updateState_bForBuffer :
    (resource.updateState busy fenceId).bForBuffer =
      resource.bForBuffer := by
  obtain ⟨_, _, heq⟩ := updateState_eq busy fenceId resource
  rw [heq]

@[simp] theorem updateState_bForBlob :
    (resource.updateState busy fenceId).bForBlob = resource.bForBlob := by
  obtain ⟨_, _, heq⟩ := updateState_eq busy fenceId resource
  rw [heq]

theorem updateState_stateEvent (haccepts : resource.Accepts fenceId) :
    (resource.updateState busy fenceId).stateEvent = !busy := by
  unfold updateState
  split
  · rfl
  · rename_i hfenced
    rw [if_pos (haccepts.resolve_left hfenced)]

theorem updateState_of_not_accepts (hrefused : ¬resource.Accepts fenceId) :
    resource.updateState busy fenceId = resource := by
  unfold updateState Accepts at *
  push Not at hrefused
  rw [if_neg hrefused.1, if_neg hrefused.2]

theorem updateState_fenceId (haccepts : resource.Accepts fenceId) :
    fenceId = 0 ∨ (resource.updateState busy fenceId).fenceId = fenceId := by
  rcases haccepts with hzero | hle
  · exact Or.inl hzero
  · by_cases hzero : fenceId = 0
    · exact Or.inl hzero
    · exact Or.inr (by simp [updateState, hzero, hle])

theorem updateState_fenceId_le :
    resource.fenceId ≤ (resource.updateState busy fenceId).fenceId := by
  unfold updateState
  split
  · exact UInt64.le_refl _
  · split
    · rename_i hle
      exact hle
    · exact UInt64.le_refl _

/-- Updating twice is updating once. -/
@[simp] theorem updateState_updateState :
    (resource.updateState busy fenceId).updateState busy fenceId =
      resource.updateState busy fenceId := by
  by_cases haccepts : resource.Accepts fenceId
  · rcases eq_or_ne fenceId 0 with hzero | hfenced
    · simp [updateState, hzero]
    · have hle := haccepts.resolve_left hfenced
      simp [updateState, hfenced, hle]
  · rw [updateState_of_not_accepts haccepts,
      updateState_of_not_accepts haccepts]

end VirglResource

@[simp] theorem modifyResource_id (id : UInt32)
    (change : VirglResource → VirglResource) (context : VirglContext) :
    (context.modifyResource id change).id = context.id := rfl

@[simp] theorem updateResourceState_id (resourceIds : List UInt32)
    (busy : Bool) (fenceId : UInt64) (context : VirglContext) :
    (updateResourceState resourceIds busy fenceId context).id =
      context.id := by
  induction resourceIds generalizing context with
  | nil => rfl
  | cons head tail ih => exact ih _

theorem updateResourceState_forall₂ (resourceIds : List UInt32) (busy : Bool)
    (fenceId : UInt64) (context : VirglContext) :
    List.Forall₂ (fun before after =>
      after = before ∨
        (before.id ∈ resourceIds ∧
          after = before.updateState busy fenceId))
      context.resourceList
      (updateResourceState resourceIds busy fenceId context).resourceList := by
  induction resourceIds generalizing context with
  | nil => exact List.forall₂_same.mpr fun _ _ => Or.inl rfl
  | cons head tail ih =>
      have hfirst := modifyFirst_forall₂
        (fun resource : VirglResource => decide (resource.id = head))
        (VirglResource.updateState busy fenceId) context.resourceList
      have hrest := ih
        (context.modifyResource head (VirglResource.updateState busy fenceId))
      refine forall₂_trans ?_ hfirst hrest
      rintro before middle after (rfl | ⟨hbefore, rfl⟩) (rfl | ⟨hmem, rfl⟩)
      · exact Or.inl rfl
      · exact Or.inr ⟨List.mem_cons_of_mem _ hmem, rfl⟩
      · have hhead : before.id = head := by simpa using hbefore
        exact Or.inr ⟨hhead ▸ List.mem_cons_self, rfl⟩
      · have hhead : before.id = head := by simpa using hbefore
        refine Or.inr ⟨hhead ▸ List.mem_cons_self, ?_⟩
        exact VirglResource.updateState_updateState

theorem updateResourceState_resourceList {resourceIds : List UInt32}
    {busy : Bool} {fenceId : UInt64} {context : VirglContext}
    (hnodup : (context.resourceList.map VirglResource.id).Nodup) :
    (updateResourceState resourceIds busy fenceId context).resourceList =
      context.resourceList.map fun resource =>
        if resource.id ∈ resourceIds then resource.updateState busy fenceId
        else resource := by
  induction resourceIds generalizing context with
  | nil => simp [updateResourceState]
  | cons head tail ih =>
      have hkept : ((context.modifyResource head
          (VirglResource.updateState busy fenceId)).resourceList.map
          VirglResource.id).Nodup := by
        simp only [VirglContext.modifyResource]
        rw [map_modifyFirst fun _ => VirglResource.updateState_id]
        exact hnodup
      have hrest := ih hkept
      simp only [updateResourceState, List.foldl_cons] at hrest ⊢
      rw [hrest]
      simp only [VirglContext.modifyResource]
      rw [modifyFirst_key hnodup, List.map_map]
      refine List.map_congr_left fun resource _ => ?_
      by_cases hhead : resource.id = head
      · by_cases htail : head ∈ tail
        · simp [hhead, htail]
        · simp [hhead, htail]
      · by_cases htail : resource.id ∈ tail
        · simp [hhead, htail]
        · simp [hhead, htail]

theorem getResourceFromListUnsafe_updateResourceState
    (resourceIds : List UInt32) (busy : Bool) (fenceId : UInt64)
    (context : VirglContext) (id : UInt32) :
    getResourceFromListUnsafe
        (updateResourceState resourceIds busy fenceId context) id =
      if id ∈ resourceIds then
        (getResourceFromListUnsafe context id).map
          (VirglResource.updateState busy fenceId)
      else getResourceFromListUnsafe context id := by
  induction resourceIds generalizing context with
  | nil => simp [updateResourceState]
  | cons head tail ih =>
      have hhead : getResourceFromListUnsafe
          (context.modifyResource head
            (VirglResource.updateState busy fenceId)) id =
          if id = head then
            (getResourceFromListUnsafe context id).map
              (VirglResource.updateState busy fenceId)
          else getResourceFromListUnsafe context id :=
        find?_modifyFirst_key (fun _ => VirglResource.updateState_id) head id
      have hrest := ih (context.modifyResource head
        (VirglResource.updateState busy fenceId))
      simp only [updateResourceState, List.foldl_cons] at hrest ⊢
      rw [hrest, hhead]
      by_cases hsame : id = head
      · subst hsame
        simp [Function.comp_def]
      · simp [hsame]

end VgpuDriver
