import AegisLedger.Support.Dict

/-!
# Tallies

Weights summed over the entries whose label satisfies a predicate.  A tally of a
list of events grows by one entry at a time, a tally of a dictionary of counters
changes with each write, and the two can be compared for all predicates at once.
-/

namespace AegisLedger.Support.Tally

variable {T : Type}

/-- Weight of the entries whose label satisfies `p`. -/
def total (p : T → Bool) (entries : List (T × Nat)) : Nat :=
  ((entries.filter (fun e => p e.1)).map Prod.snd).sum

theorem total_append (p : T → Bool) (xs ys : List (T × Nat)) :
    total p (xs ++ ys) = total p xs + total p ys := by
  simp [total]

theorem total_cons (p : T → Bool) (e : T × Nat) (xs : List (T × Nat)) :
    total p (e :: xs) = (if p e.1 then e.2 else 0) + total p xs := by
  by_cases hp : p e.1 = true
  · simp [total, hp]
  · simp [total, hp]

theorem total_singleton (p : T → Bool) (e : T × Nat) :
    total p [e] = if p e.1 then e.2 else 0 := by
  rw [total_cons]
  rfl

theorem total_le_of_sublist (p : T → Bool) {xs ys : List (T × Nat)}
    (h : xs.Sublist ys) : total p xs ≤ total p ys := by
  apply List.Sublist.sum_le_sum ((h.filter _).map _)
  intro a _
  exact Nat.zero_le a

/-- Only entries with a weight need to satisfy the larger predicate. -/
theorem total_le_of_imp {p q : T → Bool} (xs : List (T × Nat))
    (h : ∀ e ∈ xs, p e.1 = true → q e.1 = true ∨ e.2 = 0) : total p xs ≤ total q xs := by
  induction xs with
  | nil => exact le_refl _
  | cons e xs ih =>
    have htail : total p xs ≤ total q xs :=
      ih (fun x hx => h x (List.mem_cons_of_mem e hx))
    have hhead : (if p e.1 then e.2 else 0) ≤ if q e.1 then e.2 else 0 := by
      by_cases hp : p e.1 = true
      · rcases h e List.mem_cons_self hp with hq | hzero
        · rw [if_pos hp, if_pos hq]
        · rw [hzero]
          simp
      · rw [if_neg hp]
        exact Nat.zero_le _
    rw [total_cons, total_cons]
    omega

/-! ## Counters -/

section Counters

variable [DecidableEq T]

theorem total_overwrite (p : T → Bool) {k : T} {old : Nat} (v : Nat)
    {entries : List (T × Nat)} (hnodup : (entries.map Prod.fst).Nodup)
    (hold : (k, old) ∈ entries) :
    total p (Dict.overwrite k v entries) + (if p k then old else 0) =
      total p entries + if p k then v else 0 := by
  induction entries with
  | nil => cases hold
  | cons e entries ih =>
    rw [List.map_cons, List.nodup_cons] at hnodup
    have hcons : Dict.overwrite k v (e :: entries) =
        (if e.1 = k then (k, v) else e) :: Dict.overwrite k v entries := rfl
    rw [hcons, total_cons, total_cons]
    rcases List.mem_cons.mp hold with rfl | htail
    · rw [if_pos rfl, Dict.overwrite_of_notMem v hnodup.1]
      dsimp only
      omega
    · have hne : e.1 ≠ k := by
        intro heq
        exact hnodup.1 (heq ▸ List.mem_map_of_mem htail)
      have hrest := ih hnodup.2 htail
      rw [if_neg hne]
      omega

/-- A write to a counter moves every tally by the same amount. -/
theorem total_set (p : T → Bool) (d : Dict T Nat) (k : T) (v : Nat) :
    total p (d.set k v).entries + (if p k then (d.get? k).getD 0 else 0) =
      total p d.entries + if p k then v else 0 := by
  by_cases hk : k ∈ d.keys
  · obtain ⟨old, hold⟩ : ∃ old, d.get? k = some old := by
      cases hget : d.get? k with
      | none => exact absurd hk (Dict.get?_eq_none_iff.mp hget)
      | some old => exact ⟨old, rfl⟩
    rw [Dict.entries_set_of_mem hk, hold, Option.getD_some]
    exact total_overwrite p v d.nodup (Dict.mem_entries_of_get? hold)
  · rw [Dict.entries_set_of_notMem hk, Dict.get?_eq_none_iff.mpr hk, total_append,
      total_singleton]
    simp

/-- The tally of one label is its counter. -/
theorem total_eq (d : Dict T Nat) (k : T) :
    total (fun j => decide (j = k)) d.entries = (d.get? k).getD 0 := by
  have hset := total_set (fun j => decide (j = k)) d k 0
  have hzero : total (fun j => decide (j = k)) (d.set k 0).entries = 0 := by
    apply List.sum_eq_zero
    intro weight hweight
    obtain ⟨e, he, rfl⟩ := List.mem_map.mp hweight
    rw [List.mem_filter, decide_eq_true_eq] at he
    have hget : (d.set k 0).get? e.1 = some e.2 := Dict.get?_of_mem_entries he.1
    rw [he.2, Dict.get?_set_self, Option.some.injEq] at hget
    exact hget.symm
  rw [hzero] at hset
  simpa using hset.symm

end Counters

end AegisLedger.Support.Tally
