import AegisLedger.Support.Checks

/-!
# Insertion-ordered dictionaries

A `Dict` is a list of entries without repeated keys.  Writing to a present key
keeps the entry's place, writing to a new key appends, so iteration order is
order of first insertion.
-/

namespace AegisLedger.Support

/-- A dictionary; the invariant that no key occurs twice is part of the value. -/
structure Dict (κ ν : Type) where
  entries : List (κ × ν)
  nodup : (entries.map Prod.fst).Nodup
  deriving DecidableEq

namespace Dict

variable {κ ν : Type}

def empty : Dict κ ν := ⟨[], by simp⟩

def keys (d : Dict κ ν) : List κ := d.entries.map Prod.fst

def values (d : Dict κ ν) : List ν := d.entries.map Prod.snd

variable [DecidableEq κ]

def get? (d : Dict κ ν) (k : κ) : Option ν :=
  (d.entries.find? (fun e => e.1 = k)).map Prod.snd

/-- Overwrite every entry under `k` of a list of entries. -/
def overwrite (k : κ) (v : ν) (entries : List (κ × ν)) : List (κ × ν) :=
  entries.map (fun e => if e.1 = k then (k, v) else e)

theorem map_fst_overwrite (k : κ) (v : ν) (entries : List (κ × ν)) :
    (overwrite k v entries).map Prod.fst = entries.map Prod.fst := by
  unfold overwrite
  rw [List.map_map]
  apply List.map_congr_left
  intro e _
  by_cases h : e.1 = k <;> simp [h]

def set (d : Dict κ ν) (k : κ) (v : ν) : Dict κ ν :=
  if h : k ∈ d.keys then
    ⟨overwrite k v d.entries, by rw [map_fst_overwrite]; exact d.nodup⟩
  else
    ⟨d.entries ++ [(k, v)], by
      have hk : k ∉ d.entries.map Prod.fst := h
      simpa [List.nodup_append, d.nodup] using fun a b hab he => hk (by
        simp only [List.mem_map]
        exact ⟨(a, b), hab, he⟩)⟩

/-- Remove the entry under `k`, if there is one. -/
def erase (d : Dict κ ν) (k : κ) : Dict κ ν :=
  ⟨d.entries.filter (fun e => e.1 ≠ k), (List.filter_sublist.map Prod.fst).nodup d.nodup⟩

theorem entries_erase (d : Dict κ ν) (k : κ) :
    (d.erase k).entries = d.entries.filter fun e => e.1 ≠ k := rfl

@[simp] theorem get?_empty (k : κ) : (empty : Dict κ ν).get? k = none := rfl

variable {d : Dict κ ν} {k : κ}

theorem entries_set_of_mem (h : k ∈ d.keys) (v : ν) :
    (d.set k v).entries = overwrite k v d.entries := by
  simp [set, h]

theorem entries_set_of_notMem (h : k ∉ d.keys) (v : ν) :
    (d.set k v).entries = d.entries ++ [(k, v)] := by
  simp [set, h]

theorem entries_set_of_entries_nil (h : d.entries = []) (k : κ) (v : ν) :
    (d.set k v).entries = [(k, v)] := by
  have hkey : k ∉ d.keys := by
    rw [keys, h]
    exact List.not_mem_nil
  rw [entries_set_of_notMem hkey, h, List.nil_append]

theorem get?_eq_none_iff : d.get? k = none ↔ k ∉ d.keys := by
  simp only [get?, Option.map_eq_none_iff, List.find?_eq_none, decide_eq_true_eq,
    keys, List.mem_map, not_exists, not_and]

variable {v : ν}

theorem mem_keys_of_get? (h : d.get? k = some v) : k ∈ d.keys := by
  by_contra hk
  rw [get?_eq_none_iff.mpr hk] at h
  cases h

theorem mem_entries_of_get? (h : d.get? k = some v) : (k, v) ∈ d.entries := by
  unfold get? at h
  obtain ⟨e, hfind, hsnd⟩ := Option.map_eq_some_iff.mp h
  have hkey : e.1 = k := by simpa using List.find?_some hfind
  have hmem := List.mem_of_find?_eq_some hfind
  rw [← hkey, ← hsnd]
  exact hmem

theorem get?_of_mem_entries (h : (k, v) ∈ d.entries) : d.get? k = some v := by
  cases hget : d.get? k with
  | none =>
    rw [get?_eq_none_iff] at hget
    exact absurd (List.mem_map_of_mem h) hget
  | some w =>
    have hpair := List.inj_on_of_nodup_map d.nodup h (mem_entries_of_get? hget) rfl
    rw [(Prod.mk.inj hpair).2]

variable {entries : List (κ × ν)}

theorem find?_overwrite_self (k : κ) (v : ν) (h : k ∈ entries.map Prod.fst) :
    (overwrite k v entries).find? (fun e => e.1 = k) = some (k, v) := by
  induction entries with
  | nil => simp at h
  | cons e entries ih =>
    by_cases he : e.1 = k
    · simp [overwrite, he]
    · have htail : k ∈ entries.map Prod.fst := by
        simpa [Ne.symm he] using h
      have := ih htail
      simp only [overwrite] at this
      simp [overwrite, he, this]

variable {j : κ}

theorem find?_overwrite_ne (hne : j ≠ k) (v : ν) (entries : List (κ × ν)) :
    (overwrite k v entries).find? (fun e => e.1 = j) =
      entries.find? (fun e => e.1 = j) := by
  induction entries with
  | nil => rfl
  | cons e entries ih =>
    simp only [overwrite] at ih
    by_cases he : e.1 = k
    · have hkj : k ≠ j := Ne.symm hne
      simp [overwrite, he, hkj, ih]
    · by_cases hj : e.1 = j
      · simp [overwrite, hne, hj]
      · simp [overwrite, he, hj, ih]

@[simp] theorem get?_set_self (d : Dict κ ν) (k : κ) (v : ν) :
    (d.set k v).get? k = some v := by
  by_cases h : k ∈ d.keys
  · rw [get?, entries_set_of_mem h, find?_overwrite_self k v h]
    rfl
  · have hnone : d.entries.find? (fun e => e.1 = k) = none := by
      have := get?_eq_none_iff.mpr h
      simpa [get?] using this
    rw [get?, entries_set_of_notMem h, List.find?_append, hnone]
    simp

theorem get?_set_ne (d : Dict κ ν) (hne : j ≠ k) (v : ν) : (d.set k v).get? j = d.get? j := by
  by_cases h : k ∈ d.keys
  · rw [get?, entries_set_of_mem h, find?_overwrite_ne hne, get?]
  · rw [get?, entries_set_of_notMem h, List.find?_append]
    simp [get?, Ne.symm hne]

theorem get?_set (d : Dict κ ν) (k j : κ) (v : ν) :
    (d.set k v).get? j = if j = k then some v else d.get? j := by
  by_cases h : j = k
  · subst h; simp
  · rw [if_neg h, get?_set_ne d h]

theorem mem_keys_set : j ∈ (d.set k v).keys ↔ j = k ∨ j ∈ d.keys := by
  have hset := get?_eq_none_iff (d := d.set k v) (k := j)
  have hold := get?_eq_none_iff (d := d) (k := j)
  rw [get?_set] at hset
  by_cases h : j = k
  · simp [h] at hset ⊢
    tauto
  · simp only [h, if_false, false_or] at hset ⊢
    tauto

/-! ## Views of the values -/

theorem values_set_of_notMem (h : k ∉ d.keys) (v : ν) : (d.set k v).values = d.values ++ [v] := by
  rw [values, entries_set_of_notMem h, List.map_append]
  rfl

theorem overwrite_of_notMem (v : ν) (h : k ∉ entries.map Prod.fst) :
    overwrite k v entries = entries := by
  unfold overwrite
  conv_rhs => rw [← List.map_id entries]
  apply List.map_congr_left
  intro e he
  have hne : e.1 ≠ k := fun heq => h (heq ▸ List.mem_map_of_mem he)
  rw [if_neg hne]
  rfl

/-- A view of the entries that does not tell the new value from the old one. -/
theorem map_entries_set {γ : Type} (f : κ × ν → γ) {old new : ν} (hold : d.get? k = some old)
    (hsame : f (k, new) = f (k, old)) : (d.set k new).entries.map f = d.entries.map f := by
  rw [entries_set_of_mem (mem_keys_of_get? hold), overwrite, List.map_map]
  apply List.map_congr_left
  rintro ⟨j, v⟩ hmem
  by_cases hkey : j = k
  · subst hkey
    rw [Option.some.inj (hold.symm.trans (get?_of_mem_entries hmem))] at hsame
    simpa using hsame
  · simp [hkey]

section Sums

variable {M : Type} [AddCommMonoid M]

theorem sum_overwrite (f : ν → M) {k : κ} {old : ν} (new : ν) {entries : List (κ × ν)}
    (hnodup : (entries.map Prod.fst).Nodup) (hold : (k, old) ∈ entries) :
    ((overwrite k new entries).map (fun e => f e.2)).sum + f old =
      (entries.map (fun e => f e.2)).sum + f new := by
  induction entries with
  | nil => cases hold
  | cons e entries ih =>
    rw [List.map_cons, List.nodup_cons] at hnodup
    have hcons : overwrite k new (e :: entries) =
        (if e.1 = k then (k, new) else e) :: overwrite k new entries := rfl
    rw [hcons, List.map_cons, List.map_cons, List.sum_cons, List.sum_cons]
    rcases List.mem_cons.mp hold with rfl | htail
    · rw [if_pos rfl, overwrite_of_notMem new hnodup.1]
      dsimp only
      abel
    · have hne : e.1 ≠ k := by
        intro heq
        exact hnodup.1 (heq ▸ List.mem_map_of_mem htail)
      rw [if_neg hne, add_assoc, ih hnodup.2 htail, add_assoc]

/-- A sum over the values when the value under a present key is replaced. -/
theorem sum_values_set (f : ν → M) {d : Dict κ ν} {k : κ} {old : ν} (new : ν)
    (hold : d.get? k = some old) :
    ((d.set k new).values.map f).sum + f old = (d.values.map f).sum + f new := by
  rw [values, values, entries_set_of_mem (mem_keys_of_get? hold), List.map_map, List.map_map]
  exact sum_overwrite f new d.nodup (mem_entries_of_get? hold)

end Sums

theorem filterMap_overwrite_sublist {β : Type} {f : ν → Option β}
    (h : ∀ e ∈ entries, e.1 = k → f v = none ∨ f v = f e.2) :
    (((overwrite k v entries).map Prod.snd).filterMap f).Sublist
      ((entries.map Prod.snd).filterMap f) := by
  induction entries with
  | nil => exact List.Sublist.refl []
  | cons e entries ih =>
    have htail := ih (fun x hx => h x (List.mem_cons_of_mem e hx))
    by_cases he : e.1 = k
    · rcases h e List.mem_cons_self he with hnone | hsame
      · simp only [overwrite, List.map_cons, he, if_true, List.filterMap_cons, hnone]
        cases f e.2 with
        | none => exact htail
        | some b => exact htail.cons b
      · simp only [overwrite, List.map_cons, he, if_true, List.filterMap_cons, hsame]
        cases f e.2 with
        | none => exact htail
        | some b => exact htail.cons_cons b
    · simp only [overwrite, List.map_cons, he, if_false, List.filterMap_cons]
      cases f e.2 with
      | none => exact htail
      | some b => exact htail.cons_cons b

/-- A view of the values loses an element, or stays as it is, when the value under a
present key is replaced by one that the view drops or does not tell apart. -/
theorem filterMap_values_set_sublist {β : Type} {f : ν → Option β} {old new : ν}
    (hold : d.get? k = some old) (hnew : f new = none ∨ f new = f old) :
    ((d.set k new).values.filterMap f).Sublist (d.values.filterMap f) := by
  rw [values, entries_set_of_mem (mem_keys_of_get? hold)]
  apply filterMap_overwrite_sublist
  intro e he hkey
  have hget : d.get? k = some e.2 := get?_of_mem_entries (by rw [← hkey]; exact he)
  rw [hold, Option.some.injEq] at hget
  rw [← hget]
  exact hnew

end Dict

end AegisLedger.Support
