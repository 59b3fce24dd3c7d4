import VgpuDriver.Data.FirstMatch

namespace VgpuDriver.Data

/-! Owners that hold names: which owners there are, and the set of names of
each.  No name has two owners. -/

abbrev OwnerTable (Owner Name : Type) : Type :=
  Owner → Option (Finset Name)

namespace OwnerTable

variable {Owner Name : Type}

def Holds (table : OwnerTable Owner Name) (owner : Owner) (name : Name) :
    Prop :=
  ∃ names, table owner = some names ∧ name ∈ names

/-- No owner holds the name. -/
def Free (table : OwnerTable Owner Name) (name : Name) : Prop :=
  ∀ owner, ¬table.Holds owner name

/-- Two owners hold no name in common. -/
def Exclusive (table : OwnerTable Owner Name) : Prop :=
  ∀ first second name, table.Holds first name → table.Holds second name →
    first = second

theorem holds_iff {table : OwnerTable Owner Name} {owner : Owner}
    {names : Finset Name} (hnames : table owner = some names) (name : Name) :
    table.Holds owner name ↔ name ∈ names := by
  constructor
  · rintro ⟨others, hothers, hmem⟩
    rw [hnames] at hothers
    rwa [Option.some.inj hothers]
  · intro hmem
    exact ⟨names, hnames, hmem⟩

variable [DecidableEq Owner]

/-- The owner holds exactly these names. -/
def gives (table : OwnerTable Owner Name) (owner : Owner)
    (names : Finset Name) : OwnerTable Owner Name :=
  Function.update table owner (some names)

/-- The owner is gone, with all names. -/
def drops (table : OwnerTable Owner Name) (owner : Owner) :
    OwnerTable Owner Name :=
  Function.update table owner none

section Operations

variable {table : OwnerTable Owner Name} {owner other : Owner}
variable {names : Finset Name} {name : Name}

@[simp] theorem gives_same (table : OwnerTable Owner Name) (owner : Owner)
    (names : Finset Name) : table.gives owner names owner = some names :=
  Function.update_self owner _ table

@[simp] theorem drops_same (table : OwnerTable Owner Name) (owner : Owner) :
    table.drops owner owner = none :=
  Function.update_self owner _ table

theorem gives_other (hother : other ≠ owner) :
    table.gives owner names other = table other :=
  Function.update_of_ne hother _ table

theorem drops_other (hother : other ≠ owner) :
    table.drops owner other = table other :=
  Function.update_of_ne hother _ table

theorem drops_of_none (hnone : table owner = none) :
    table.drops owner = table := by
  unfold drops
  rw [← hnone]
  exact Function.update_eq_self owner table

theorem gives_of_some (hsome : table owner = some names) :
    table.gives owner names = table := by
  unfold gives
  rw [← hsome]
  exact Function.update_eq_self owner table

end Operations

variable [DecidableEq Name]

/-- What may become of the table for the owner: a name that is given to it is
free before. -/
inductive Change (table : OwnerTable Owner Name) (owner : Owner) :
    OwnerTable Owner Name → Prop
  | kept : Change table owner table
  | opened (hnew : table owner = none) :
      Change table owner (table.gives owner ∅)
  | dropped : Change table owner (table.drops owner)
  | added (names : Finset Name) (name : Name)
      (hopen : table owner = some names) (hfree : table.Free name) :
      Change table owner (table.gives owner (insert name names))
  | removed (names : Finset Name) (name : Name)
      (hopen : table owner = some names) :
      Change table owner (table.gives owner (names.erase name))

namespace Change

variable {table after : OwnerTable Owner Name} {owner other : Owner}

/-- Nothing happens to the other owners. -/
theorem frame (h : Change table owner after) (hother : other ≠ owner) :
    after other = table other := by
  cases h with
  | kept => rfl
  | opened hnew => exact gives_other hother
  | dropped => exact drops_other hother
  | added names name hopen hfree => exact gives_other hother
  | removed names name hopen => exact gives_other hother

theorem holds_other (h : Change table owner after) (hother : other ≠ owner)
    (name : Name) : after.Holds other name ↔ table.Holds other name := by
  unfold Holds
  rw [h.frame hother]

/-- The owner holds what it has held before or what was free. -/
theorem holds_same (h : Change table owner after) {name : Name}
    (hholds : after.Holds owner name) :
    table.Holds owner name ∨ table.Free name := by
  cases h with
  | kept => exact Or.inl hholds
  | opened hnew =>
      have hmem := (holds_iff (gives_same table owner ∅) name).mp hholds
      exact absurd hmem (Finset.notMem_empty name)
  | dropped =>
      obtain ⟨names, hnames, _⟩ := hholds
      rw [drops_same] at hnames
      cases hnames
  | added names new hopen hfree =>
      have hmem := (holds_iff (gives_same table owner _) name).mp hholds
      rcases Finset.mem_insert.mp hmem with rfl | hold
      · exact Or.inr hfree
      · exact Or.inl ⟨names, hopen, hold⟩
  | removed names old hopen =>
      have hmem := (holds_iff (gives_same table owner _) name).mp hholds
      exact Or.inl ⟨names, hopen, Finset.mem_of_mem_erase hmem⟩

/-- What the owner comes to hold, nobody else holds. -/
private theorem owner_of_holds (h : Change table owner after)
    (hexclusive : table.Exclusive) {name : Name}
    (hholds : after.Holds owner name) (hother : after.Holds other name) :
    owner = other := by
  by_contra hne
  have hbefore := (h.holds_other (Ne.symm hne) name).mp hother
  rcases h.holds_same hholds with hheld | hfree
  · exact hne (hexclusive owner other name hheld hbefore)
  · exact hfree other hbefore

theorem exclusive (h : Change table owner after)
    (hexclusive : table.Exclusive) : after.Exclusive := by
  intro first second name hfirst hsecond
  by_cases hhere : first = owner
  · subst hhere
    exact h.owner_of_holds hexclusive hfirst hsecond
  · by_cases hthere : second = owner
    · subst hthere
      exact (h.owner_of_holds hexclusive hsecond hfirst).symm
    · apply hexclusive first second name
      · exact (h.holds_other hhere name).mp hfirst
      · exact (h.holds_other hthere name).mp hsecond

end Change

/-! A list of entries with keys as a table: the entry that a search by key
finds tells the names. -/

section Listed

variable {Entry : Type} {key : Entry → Owner} {names : Entry → List Name}
variable {entries : List Entry} {entry : Entry} {owner : Owner}

def ofList (key : Entry → Owner) (names : Entry → List Name)
    (entries : List Entry) : OwnerTable Owner Name := fun owner =>
  (entries.find? fun entry => decide (key entry = owner)).map fun entry =>
    (names entry).toFinset

theorem ofList_found
    (hfound : entries.find? (fun entry => decide (key entry = owner)) =
      some entry) :
    ofList key names entries owner = some (names entry).toFinset := by
  unfold ofList
  rw [hfound]
  rfl

theorem ofList_eq_none :
    ofList key names entries owner = none ↔
      entries.find? (fun entry => decide (key entry = owner)) = none := by
  unfold ofList
  rw [Option.map_eq_none_iff]

theorem ofList_cons (entry : Entry) (entries : List Entry) :
    ofList key names (entry :: entries) =
      (ofList key names entries).gives (key entry)
        (names entry).toFinset := by
  funext owner
  by_cases hhere : owner = key entry
  · subst hhere
    rw [gives_same]
    exact ofList_found (List.find?_cons_of_pos (decide_eq_true rfl))
  · rw [gives_other hhere]
    unfold ofList
    rw [List.find?_cons_of_neg (by simpa using Ne.symm hhere)]

/-- A change of the entry found changes the names of its owner. -/
theorem ofList_modifyFirst {change : Entry → Entry}
    (hkey : ∀ entry, key (change entry) = key entry)
    (hfound : entries.find? (fun entry => decide (key entry = owner)) =
      some entry) :
    ofList key names
        (modifyFirst (fun entry => decide (key entry = owner)) change
          entries) =
      (ofList key names entries).gives owner
        (names (change entry)).toFinset := by
  induction entries with
  | nil => cases hfound
  | cons head tail ih =>
      by_cases hhead : key head = owner
      · have hentry : head = entry := by
          have hhere := hfound.symm.trans
            (List.find?_cons_of_pos (decide_eq_true hhead))
          exact (Option.some.inj hhere).symm
        subst hentry
        simp only [modifyFirst, hhead, decide_true, if_true]
        rw [ofList_cons, ofList_cons, hkey, hhead]
        unfold gives
        rw [Function.update_idem]
      · have hrest := ih (by
          rwa [List.find?_cons_of_neg (by simpa using hhead)] at hfound)
        simp only [modifyFirst, hhead, decide_false, Bool.false_eq_true,
          if_false]
        rw [ofList_cons, ofList_cons, hrest]
        exact Function.update_comm (Ne.symm hhead) _ _ _

/-- A change that keeps the names shows nowhere. -/
theorem ofList_modifyFirst_same {change : Entry → Entry}
    (hkey : ∀ entry, key (change entry) = key entry)
    (hnames : ∀ entry, names (change entry) = names entry) :
    ofList key names
        (modifyFirst (fun entry => decide (key entry = owner)) change
          entries) = ofList key names entries := by
  cases hfound :
      entries.find? fun entry => decide (key entry = owner) with
  | none => rw [modifyFirst_of_find?_eq_none hfound]
  | some entry =>
      rw [ofList_modifyFirst hkey hfound, hnames]
      exact gives_of_some (ofList_found hfound)

/-- With one entry for each owner the removal of the entry found removes the
owner. -/
theorem ofList_eraseP (hnodup : (entries.map key).Nodup) :
    ofList key names
        (entries.eraseP fun entry => decide (key entry = owner)) =
      (ofList key names entries).drops owner := by
  induction entries with
  | nil => exact (drops_of_none rfl).symm
  | cons head tail ih =>
      rw [List.map_cons, List.nodup_cons] at hnodup
      by_cases hhead : key head = owner
      · have hnone : ofList key names tail owner = none := by
          apply ofList_eq_none.mpr
          rw [List.find?_eq_none]
          intro entry hentry hkey
          apply hnodup.1
          rw [hhead, ← of_decide_eq_true hkey]
          exact List.mem_map_of_mem hentry
        rw [List.eraseP_cons_of_pos (by simpa using hhead), ofList_cons,
          hhead]
        unfold gives drops
        rw [Function.update_idem, ← hnone]
        exact (Function.update_eq_self owner _).symm
      · rw [List.eraseP_cons_of_neg (by simpa using hhead), ofList_cons,
          ofList_cons, ih hnodup.2]
        exact Function.update_comm (Ne.symm hhead) _ _ _

end Listed

end OwnerTable

end VgpuDriver.Data
