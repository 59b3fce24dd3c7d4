import Mathlib

namespace VgpuDriver.Data

/-! Linked lists searched for the first entry with some property: the entry
found is the one that is read, changed or unlinked. -/

variable {α : Type}

/-- Change the first entry that satisfies `p`. -/
def modifyFirst (p : α → Bool) (f : α → α) : List α → List α
  | [] => []
  | head :: tail =>
      if p head then f head :: tail else head :: modifyFirst p f tail

variable {p : α → Bool} {f : α → α} {list : List α} {entry : α}

theorem modifyFirst_of_fixed (hfixed : ∀ entry, list.find? p = some entry →
    f entry = entry) : modifyFirst p f list = list := by
  induction list with
  | nil => rfl
  | cons head tail ih =>
      by_cases hhead : p head = true
      · have hsame := hfixed head (List.find?_cons_of_pos hhead)
        simp [modifyFirst, hhead, hsame]
      · have hrest := ih fun entry hentry =>
          hfixed entry ((List.find?_cons_of_neg hhead).trans hentry)
        simp [modifyFirst, hhead, hrest]

theorem modifyFirst_of_find?_eq_none (hnone : list.find? p = none) :
    modifyFirst p f list = list :=
  modifyFirst_of_fixed fun entry hentry => by simp [hnone] at hentry

/-- The entry found splits the list; the change and the removal happen at
that place. -/
theorem exists_split_of_find? (hfound : list.find? p = some entry) :
    ∃ front back,
      list = front ++ entry :: back ∧ p entry = true ∧
        (∀ other ∈ front, p other = false) ∧
        modifyFirst p f list = front ++ f entry :: back ∧
        list.eraseP p = front ++ back := by
  obtain ⟨hentry, front, back, rfl, hfront⟩ :=
    List.find?_eq_some_iff_append.mp hfound
  have hfront' : ∀ other ∈ front, p other = false := by
    intro other hother
    simpa using hfront other hother
  refine ⟨front, back, rfl, hentry, hfront', ?_, ?_⟩
  · clear hfound hfront
    induction front with
    | nil => simp [modifyFirst, hentry]
    | cons head tail ih =>
        have hhead := hfront' head (by simp)
        simp only [List.cons_append, modifyFirst, hhead, Bool.false_eq_true,
          if_false]
        rw [ih fun other hother => hfront' other (by simp [hother])]
  · rw [List.eraseP_append_right _ (by simpa using hfront')]
    simp [hentry]

/-- The lists agree entry by entry, except that the first match is changed. -/
theorem modifyFirst_forall₂ (p : α → Bool) (f : α → α) (list : List α) :
    List.Forall₂ (fun before after =>
      after = before ∨ (p before = true ∧ after = f before))
      list (modifyFirst p f list) := by
  induction list with
  | nil => exact List.Forall₂.nil
  | cons head tail ih =>
      simp only [modifyFirst]
      split
      · rename_i hhead
        refine List.Forall₂.cons (Or.inr ⟨hhead, rfl⟩) ?_
        exact List.forall₂_same.mpr fun _ _ => Or.inl rfl
      · exact List.Forall₂.cons (Or.inl rfl) ih

theorem mem_of_forall₂ {relation : α → α → Prop} {before after : List α}
    (hforall : List.Forall₂ relation before after) {a : α} (ha : a ∈ after) :
    ∃ b ∈ before, relation b a := by
  induction hforall with
  | nil => cases ha
  | cons hhead htail ih =>
      rcases List.mem_cons.mp ha with rfl | ha
      · exact ⟨_, List.mem_cons_self, hhead⟩
      · obtain ⟨b, hb, hrelated⟩ := ih ha
        exact ⟨b, List.mem_cons_of_mem _ hb, hrelated⟩

theorem filterMap_eq_of_forall₂ {β : Type} {relation : α → α → Prop}
    {g : α → Option β}
    (hrelation : ∀ {before after}, relation before after →
      g after = g before) {before after : List α}
    (hforall : List.Forall₂ relation before after) :
    after.filterMap g = before.filterMap g := by
  induction hforall with
  | nil => rfl
  | cons hhead htail ih =>
      rw [List.filterMap_cons, List.filterMap_cons, hrelation hhead, ih]

theorem map_eq_of_forall₂ {β : Type} {relation : α → α → Prop} {g : α → β}
    (hrelation : ∀ {before after}, relation before after →
      g after = g before) {before after : List α}
    (hforall : List.Forall₂ relation before after) :
    after.map g = before.map g := by
  rw [← List.filterMap_eq_map]
  exact filterMap_eq_of_forall₂ (fun h => congrArg some (hrelation h))
    hforall

theorem forall₂_trans {β γ : Type} {first : α → β → Prop}
    {second : β → γ → Prop} {whole : α → γ → Prop}
    (hwhole : ∀ a b c, first a b → second b c → whole a c)
    {left : List α} {middle : List β} {right : List γ}
    (hfirst : List.Forall₂ first left middle)
    (hsecond : List.Forall₂ second middle right) :
    List.Forall₂ whole left right := by
  induction hfirst generalizing right with
  | nil =>
      cases hsecond
      exact List.Forall₂.nil
  | cons hhead _ ih =>
      cases hsecond with
      | cons hother htail =>
          exact List.Forall₂.cons (hwhole _ _ _ hhead hother) (ih htail)

theorem map_modifyFirst {β : Type} {g : α → β}
    (hsame : ∀ entry, g (f entry) = g entry) :
    (modifyFirst p f list).map g = list.map g := by
  induction list with
  | nil => rfl
  | cons head tail ih =>
      simp only [modifyFirst]
      split
      · simp [hsame]
      · simp [ih]

theorem filter_modifyFirst {q : α → Bool}
    (hbefore : ∀ entry, p entry = true → q entry = false)
    (hafter : ∀ entry, p entry = true → q (f entry) = false) :
    (modifyFirst p f list).filter q = list.filter q := by
  induction list with
  | nil => rfl
  | cons head tail ih =>
      simp only [modifyFirst]
      split
      · rename_i hhead
        simp [hbefore head hhead, hafter head hhead]
      · rw [List.filter_cons, List.filter_cons, ih]

theorem filter_eraseP {q : α → Bool}
    (hgone : ∀ entry, p entry = true → q entry = false) :
    (list.eraseP p).filter q = list.filter q := by
  induction list with
  | nil => rfl
  | cons head tail ih =>
      cases hhead : p head with
      | true =>
          rw [List.eraseP_cons_of_pos hhead]
          simp [hgone head hhead]
      | false =>
          rw [List.eraseP_cons_of_neg (by simp [hhead]), List.filter_cons,
            List.filter_cons, ih]

theorem eraseP_modifyFirst (hsame : ∀ entry, p (f entry) = p entry) :
    (modifyFirst p f list).eraseP p = list.eraseP p := by
  induction list with
  | nil => rfl
  | cons head tail ih =>
      by_cases hhead : p head = true
      · simp [modifyFirst, hhead, hsame]
      · simp [modifyFirst, hhead, ih]

theorem mem_modifyFirst {other : α} (hmem : other ∈ modifyFirst p f list) :
    other ∈ list ∨ ∃ entry, list.find? p = some entry ∧ other = f entry := by
  cases hfound : list.find? p with
  | none =>
      rw [modifyFirst_of_find?_eq_none hfound] at hmem
      exact Or.inl hmem
  | some entry =>
      obtain ⟨front, back, hlist, _, _, hmodified, _⟩ :=
        exists_split_of_find? (f := f) hfound
      rw [hmodified] at hmem
      rw [hlist]
      simp only [List.mem_append, List.mem_cons] at hmem ⊢
      rcases hmem with hfront | rfl | hback
      · exact Or.inl (Or.inl hfront)
      · exact Or.inr ⟨entry, rfl, rfl⟩
      · exact Or.inl (Or.inr (Or.inr hback))

section Keys

variable {κ : Type} [DecidableEq κ] {key : α → κ}

/-- With distinct keys the first match is the only one. -/
theorem find?_key_of_mem (hnodup : (list.map key).Nodup)
    (hmem : entry ∈ list) :
    list.find? (fun other => decide (key other = key entry)) =
      some entry := by
  induction list with
  | nil => simp at hmem
  | cons head tail ih =>
      simp only [List.map_cons, List.nodup_cons, List.mem_map] at hnodup
      rcases List.mem_cons.mp hmem with rfl | htail
      · simp
      · have hne : key head ≠ key entry := fun heq =>
          hnodup.1 ⟨entry, htail, heq.symm⟩
        rw [List.find?_cons_of_neg (by simpa using hne)]
        exact ih hnodup.2 htail

/-- With distinct keys the change is made to exactly the entries with the
key. -/
theorem modifyFirst_key (hnodup : (list.map key).Nodup) (wanted : κ) :
    modifyFirst (fun other => decide (key other = wanted)) f list =
      list.map fun other => if key other = wanted then f other else other := by
  induction list with
  | nil => rfl
  | cons head tail ih =>
      simp only [List.map_cons, List.nodup_cons, List.mem_map] at hnodup
      by_cases hhead : key head = wanted
      · have htail : ∀ other ∈ tail,
            (if key other = wanted then f other else other) = other := by
          intro other hother
          have hne : key other ≠ wanted := fun heq =>
            hnodup.1 ⟨other, hother, heq.trans hhead.symm⟩
          simp [hne]
        have hmap : tail.map (fun other =>
            if key other = wanted then f other else other) = tail := by
          rw [List.map_congr_left htail, List.map_id']
        simp [modifyFirst, hhead, hmap]
      · simp [modifyFirst, hhead, ih hnodup.2]

/-- With distinct keys the removal takes out exactly the entries with the
key. -/
theorem eraseP_key (hnodup : (list.map key).Nodup) (wanted : κ) :
    list.eraseP (fun other => decide (key other = wanted)) =
      list.filter fun other => decide (key other ≠ wanted) := by
  induction list with
  | nil => rfl
  | cons head tail ih =>
      simp only [List.map_cons, List.nodup_cons, List.mem_map] at hnodup
      by_cases hhead : key head = wanted
      · have htail : ∀ other ∈ tail, decide (key other ≠ wanted) = true := by
          intro other hother
          have hne : key other ≠ wanted := fun heq =>
            hnodup.1 ⟨other, hother, heq.trans hhead.symm⟩
          simpa using hne
        rw [List.eraseP_cons_of_pos (by simpa using hhead),
          List.filter_cons_of_neg (by simpa using hhead),
          List.filter_eq_self.mpr htail]
      · rw [List.eraseP_cons_of_neg (by simpa using hhead),
          List.filter_cons_of_pos (by simpa using hhead), ih hnodup.2]

theorem modifyFirst_comm {f : α → α} (hkey : ∀ entry, key (f entry) = key entry)
    (first second : κ) (list : List α) :
    modifyFirst (fun entry => decide (key entry = second)) f
        (modifyFirst (fun entry => decide (key entry = first)) f list) =
      modifyFirst (fun entry => decide (key entry = first)) f
        (modifyFirst (fun entry => decide (key entry = second)) f list) := by
  induction list with
  | nil => rfl
  | cons head tail ih =>
      by_cases hfirst : key head = first
      · by_cases hsecond : key head = second
        · rw [← hfirst, ← hsecond]
        · subst hfirst
          simp [modifyFirst, hkey, hsecond]
      · by_cases hsecond : key head = second
        · subst hsecond
          simp [modifyFirst, hkey, hfirst]
        · simp [modifyFirst, hfirst, hsecond, ih]

theorem modifyFirst_idem {f : α → α} (hkey : ∀ entry, key (f entry) = key entry)
    (hidem : ∀ entry, f (f entry) = f entry) (wanted : κ) (list : List α) :
    modifyFirst (fun entry => decide (key entry = wanted)) f
        (modifyFirst (fun entry => decide (key entry = wanted)) f list) =
      modifyFirst (fun entry => decide (key entry = wanted)) f list := by
  induction list with
  | nil => rfl
  | cons head tail ih =>
      by_cases hhead : key head = wanted
      · simp [modifyFirst, hhead, hkey, hidem]
      · simp [modifyFirst, hhead, ih]

theorem find?_modifyFirst_key {f : α → α} (hkey : ∀ entry, key (f entry) = key entry)
    (changed wanted : κ) :
    (modifyFirst (fun entry => decide (key entry = changed)) f list).find?
        (fun entry => decide (key entry = wanted)) =
      if wanted = changed then
        (list.find? fun entry => decide (key entry = wanted)).map f
      else list.find? fun entry => decide (key entry = wanted) := by
  induction list with
  | nil => simp [modifyFirst]
  | cons head tail ih =>
      by_cases hhead : key head = changed
      · simp only [modifyFirst, hhead, decide_true, if_true]
        by_cases hwanted : wanted = changed
        · simp [hkey, hhead, hwanted]
        · have hother : changed ≠ wanted := fun heq => hwanted heq.symm
          simp [hkey, hhead, hwanted, hother]
      · simp only [modifyFirst, hhead, decide_false, Bool.false_eq_true,
          if_false, List.find?_cons, ih]
        by_cases hwanted : key head = wanted
        · have hother : wanted ≠ changed := fun heq => hhead (hwanted.trans heq)
          simp [hwanted, hother]
        · simp [hwanted]

end Keys

end VgpuDriver.Data
