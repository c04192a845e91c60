import AegisLedger.Support.Checks

/-!
# Tables

A table is a list of rows, and a unique column is a function on rows that takes no
value twice.  The lemmas here say what a lookup by a unique column, an insertion, an
update in place and a join along a reference do to each other.
-/

namespace AegisLedger.Support.Table

variable {ρ σ κ : Type} [DecidableEq κ]

/-- `SELECT * .. WHERE key = k`, for a unique column. -/
def lookup (key : ρ → κ) (rows : List ρ) (k : κ) : Option ρ :=
  rows.find? fun row => key row = k

/-- `UPDATE .. SET .. WHERE condition`. -/
def updateWhere (condition : ρ → Bool) (change : ρ → ρ) (rows : List ρ) : List ρ :=
  rows.map fun row => if condition row then change row else row

/-- `INSERT .. ON CONFLICT (key) DO UPDATE SET ..`: the row that has the key of the new one
changes, or the new one is added. -/
def upsert (key : ρ → κ) (change : ρ → ρ) (row : ρ) (rows : List ρ) : List ρ :=
  if key row ∈ rows.map key then updateWhere (fun old => key old = key row) change rows
  else rows ++ [row]

/-- `left JOIN right ON key right = reference left`. -/
def join (reference : ρ → κ) (key : σ → κ) (left : List ρ) (right : List σ) : List (ρ × σ) :=
  left.flatMap fun l => (right.filter fun r => key r = reference l).map fun r => (l, r)

/-! ## Lookup -/

variable {key : ρ → κ} {rows : List ρ} {row : ρ}

theorem mem_of_lookup {k : κ} (h : lookup key rows k = some row) : row ∈ rows ∧ key row = k :=
  ⟨List.mem_of_find?_eq_some h, by simpa using List.find?_some h⟩

theorem lookup_of_mem (hkeys : (rows.map key).Nodup) (hrow : row ∈ rows) :
    lookup key rows (key row) = some row := by
  cases hlookup : lookup key rows (key row) with
  | none =>
    rw [lookup, List.find?_eq_none] at hlookup
    exact absurd (hlookup row hrow) (by simp)
  | some other =>
    obtain ⟨hother, hkey⟩ := mem_of_lookup hlookup
    rw [List.inj_on_of_nodup_map hkeys hother hrow hkey]

theorem lookup_eq_none_iff {k : κ} : lookup key rows k = none ↔ k ∉ rows.map key := by
  simp [lookup, List.find?_eq_none]

theorem lookup_append (key : ρ → κ) (rows : List ρ) (row : ρ) (k : κ) :
    lookup key (rows ++ [row]) k =
      (lookup key rows k).or (if key row = k then some row else none) := by
  rw [lookup, List.find?_append, List.find?_singleton, ← lookup]
  simp

theorem filter_key_eq (hkeys : (rows.map key).Nodup) (k : κ) :
    (rows.filter fun row => key row = k) = (lookup key rows k).toList := by
  induction rows with
  | nil => rfl
  | cons row rows ih =>
    rw [List.map_cons, List.nodup_cons] at hkeys
    by_cases hrow : key row = k
    · have hrest : lookup key rows k = none := by
        rw [lookup_eq_none_iff, ← hrow]
        exact hkeys.1
      rw [List.filter_cons_of_pos (by simpa using hrow), ih hkeys.2, hrest]
      simp [lookup, hrow]
    · rw [List.filter_cons_of_neg (by simpa using hrow), ih hkeys.2]
      simp [lookup, hrow]

/-! ## Insertion -/

variable {β : Type}

theorem nodup_map_append {column : ρ → β} (hrows : (rows.map column).Nodup)
    (hrow : column row ∉ rows.map column) : ((rows ++ [row]).map column).Nodup := by
  rw [List.map_append, List.nodup_append]
  refine ⟨hrows, List.nodup_singleton _, ?_⟩
  intro a ha b hb
  rw [List.map_singleton, List.mem_singleton] at hb
  rw [hb]
  rintro rfl
  exact hrow ha

/-! ## Updates -/

variable {condition : ρ → Bool} {change : ρ → ρ}

theorem map_updateWhere {column : ρ → β} (hcolumn : ∀ row, column (change row) = column row)
    (rows : List ρ) : (updateWhere condition change rows).map column = rows.map column := by
  rw [updateWhere, List.map_map]
  apply List.map_congr_left
  intro row _
  rw [Function.comp_apply]
  split_ifs
  · exact hcolumn row
  · rfl

theorem mem_updateWhere :
    row ∈ updateWhere condition change rows ↔
      ∃ old ∈ rows, row = if condition old then change old else old := by
  rw [updateWhere, List.mem_map]
  constructor
  · rintro ⟨old, hold, rfl⟩
    exact ⟨old, hold, rfl⟩
  · rintro ⟨old, hold, rfl⟩
    exact ⟨old, hold, rfl⟩

theorem lookup_updateWhere (hkey : ∀ row, key (change row) = key row) (rows : List ρ) (k : κ) :
    lookup key (updateWhere condition change rows) k =
      (lookup key rows k).map fun row => if condition row then change row else row := by
  have hsame : ∀ row, key (if condition row then change row else row) = key row := by
    intro row
    split_ifs
    · exact hkey row
    · rfl
  rw [lookup, updateWhere, List.find?_map, lookup]
  simp only [Function.comp_def, hsame]

variable {selected : ρ → Bool}

/-- A view of the selected rows only loses entries by an update that selects no new row
and does not change what the view shows of the rows it keeps. -/
theorem map_filter_updateWhere_sublist {view : ρ → β} {selected' : ρ → Bool}
    (h : ∀ row ∈ rows, selected' (if condition row then change row else row) = true →
      selected row = true ∧ view (if condition row then change row else row) = view row) :
    (((updateWhere condition change rows).filter selected').map view).Sublist
      ((rows.filter selected).map view) := by
  induction rows with
  | nil => exact List.Sublist.refl _
  | cons row rows ih =>
    have htail := ih fun other hother => h other (List.mem_cons_of_mem row hother)
    rw [updateWhere, List.map_cons, ← updateWhere]
    by_cases hkept : selected' (if condition row then change row else row) = true
    · obtain ⟨hselected, hview⟩ := h row List.mem_cons_self hkept
      rw [List.filter_cons_of_pos hkept, List.filter_cons_of_pos hselected, List.map_cons,
        List.map_cons, hview]
      exact htail.cons_cons _
    · rw [List.filter_cons_of_neg hkept]
      apply htail.trans
      apply List.Sublist.map
      rw [List.filter_cons]
      split_ifs
      · exact List.sublist_cons_self _ _
      · exact List.Sublist.refl _

theorem filter_updateWhere (hselected : ∀ row, selected (change row) = selected row)
    (rows : List ρ) :
    (updateWhere condition change rows).filter selected =
      updateWhere condition change (rows.filter selected) := by
  have hsame : ∀ row, selected (if condition row then change row else row) = selected row := by
    intro row
    split_ifs
    · exact hselected row
    · rfl
  rw [updateWhere, List.filter_map, updateWhere]
  simp only [Function.comp_def, hsame]

/-! ## Insertion or update -/

theorem mem_upsert {found : ρ} (h : found ∈ upsert key change row rows) :
    (∃ old ∈ rows, key old = key row ∧ found = change old) ∨
      (found ∈ rows ∧ key found ≠ key row) ∨ (found = row ∧ key row ∉ rows.map key) := by
  rw [upsert] at h
  split_ifs at h with hkey
  · obtain ⟨old, hold, rfl⟩ := mem_updateWhere.mp h
    by_cases hsame : key old = key row
    · exact .inl ⟨old, hold, hsame, by simp [hsame]⟩
    · exact .inr (.inl ⟨by simpa [hsame] using hold, by simp [hsame]⟩)
  · rcases List.mem_append.mp h with hold | hnew
    · exact .inr (.inl ⟨hold, fun hsame => hkey (hsame ▸ List.mem_map_of_mem hold)⟩)
    · exact .inr (.inr ⟨List.mem_singleton.mp hnew, hkey⟩)

theorem map_upsert {column : ρ → β} (hcolumn : ∀ row, column (change row) = column row) (row : ρ)
    (rows : List ρ) :
    (upsert key change row rows).map column =
      rows.map column ++ if key row ∈ rows.map key then [] else [column row] := by
  rw [upsert]
  split_ifs
  · rw [map_updateWhere hcolumn, List.append_nil]
  · simp

/-- The selected rows of a table in which one of them is inserted or updated. -/
theorem filter_upsert {κ' : Type} [DecidableEq κ'] {key' : ρ → κ'}
    (hselected : ∀ old, selected (change old) = selected old)
    (hkey : ∀ old, key old = key row ↔ selected old = true ∧ key' old = key' row) (rows : List ρ) :
    (upsert key change row rows).filter selected =
      upsert key' change row (rows.filter selected) := by
  have hmem : key row ∈ rows.map key ↔ key' row ∈ (rows.filter selected).map key' := by
    simp only [List.mem_map, List.mem_filter, hkey]
    constructor
    · rintro ⟨old, hold, hsame⟩
      exact ⟨old, ⟨hold, hsame.1⟩, hsame.2⟩
    · rintro ⟨old, hold, hsame⟩
      exact ⟨old, hold.1, hold.2, hsame⟩
  have hrow : selected row = true := ((hkey row).mp rfl).1
  rw [upsert, upsert]
  by_cases hconflict : key row ∈ rows.map key
  · rw [if_pos hconflict, if_pos (hmem.mp hconflict), filter_updateWhere hselected]
    apply List.map_congr_left
    intro old hold
    have hold := (List.mem_filter.mp hold).2
    simp [hkey, hold]
  · rw [if_neg hconflict, if_neg (mt hmem.mpr hconflict), List.filter_append]
    simp [hrow]

/-! ## Joins -/

theorem filter_join_and {reference : ρ → κ} {key : σ → κ} (left : List ρ) (right : List σ)
    (p : ρ → Bool) (q : σ → Bool) :
    ((join reference key left right).filter fun pair => p pair.1 && q pair.2) =
      join reference key (left.filter p) (right.filter q) := by
  induction left with
  | nil => rfl
  | cons l left ih =>
    rw [join, List.flatMap_cons, List.filter_append, ← join, ih, List.filter_map]
    by_cases hl : p l = true
    · rw [List.filter_cons_of_pos hl, join, join, List.flatMap_cons]
      simp [Function.comp_def, hl, List.filter_filter, Bool.and_comm]
    · rw [List.filter_cons_of_neg hl]
      simp [Function.comp_def, hl]

/-- A join along a reference to a unique column pairs each row with the one it names. -/
theorem filter_join {reference : ρ → κ} {key : σ → κ} {right : List σ}
    (hkeys : (right.map key).Nodup) (left : List ρ) (condition : ρ → σ → Bool) :
    ((join reference key left right).filter fun pair => condition pair.1 pair.2).map Prod.fst =
      left.filter fun l => (lookup key right (reference l)).any (condition l) := by
  induction left with
  | nil => rfl
  | cons l left ih =>
    rw [join, List.flatMap_cons, List.filter_append, List.map_append, ← join, ih,
      filter_key_eq hkeys]
    cases hlookup : lookup key right (reference l) with
    | none => simp [hlookup]
    | some r =>
      by_cases hcondition : condition l r = true
      · simp [hlookup, hcondition]
      · simp [hlookup, hcondition]

end AegisLedger.Support.Table
