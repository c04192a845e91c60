import Mathlib.Data.List.Forall2
import Mathlib.Data.List.Induction

/-!
# Hash chains

Entries each of which names the hash before it.  The last hash determines the last entry as far
as the hash determines an entry, and with it the hash before, so chains with the same start and
the same head agree entry by entry, whatever their lengths.
-/

namespace AegisLedger.Support.HashChain

variable {α η : Type} (prev hash : α → η) (start : η)

/-- The entries lead from `start` to the head. -/
inductive Linked : List α → η → Prop
  | nil : Linked [] start
  | snoc {entries : List α} {entry : α} (h : Linked entries (prev entry)) :
      Linked (entries ++ [entry]) (hash entry)

/-- The loop that goes through the entries: the hash that is reached, unless an entry does not
name the one before it. -/
def walk [DecidableEq η] (reached : η) : List α → Option η
  | [] => some reached
  | entry :: rest => if prev entry = reached then walk (hash entry) rest else none

variable {prev hash start} {entries others : List α} {entry : α} {head : η}

theorem walk_snoc [DecidableEq η] :
    walk prev hash start (entries ++ [entry]) = some head ↔
      walk prev hash start entries = some (prev entry) ∧ hash entry = head := by
  induction entries generalizing start with
  | nil =>
    rw [List.nil_append, walk, walk, walk, Option.some.injEq, eq_comm (a := start)]
    by_cases hlink : prev entry = start
    · simp [hlink]
    · simp [hlink]
  | cons first entries ih =>
    rw [List.cons_append, walk, walk]
    by_cases hlink : prev first = start
    · rw [if_pos hlink, if_pos hlink, ih]
    · simp [hlink]

theorem linked_snoc :
    Linked prev hash start (entries ++ [entry]) head ↔
      Linked prev hash start entries (prev entry) ∧ hash entry = head := by
  constructor
  · intro h
    generalize hall : entries ++ [entry] = all at h
    cases h with
    | nil => exact absurd hall (by simp)
    | snoc h =>
      obtain ⟨rfl, hlast⟩ := List.append_inj' hall rfl
      obtain rfl := List.singleton_inj.mp hlast
      exact ⟨h, rfl⟩
  · rintro ⟨h, rfl⟩
    exact .snoc h

theorem linked_nil : Linked prev hash start [] head ↔ start = head := by
  constructor
  · intro h
    generalize hall : ([] : List α) = all at h
    cases h with
    | nil => rfl
    | snoc h => exact absurd hall (by simp)
  · rintro rfl
    exact .nil

theorem walk_eq_some_iff [DecidableEq η] :
    walk prev hash start entries = some head ↔ Linked prev hash start entries head := by
  induction entries using List.reverseRecOn generalizing head with
  | nil => rw [linked_nil, walk, Option.some.injEq]
  | append_singleton entries entry ih => rw [walk_snoc, linked_snoc, ih]

theorem Linked.head_eq (h : Linked prev hash start entries head) :
    head = (entries.getLast?.map hash).getD start := by
  cases h with
  | nil => rfl
  | snoc _ => simp

/-- Two chains to one head agree, if the hashes of their entries fix what `same` compares and
the entry before, and the start is no hash of an entry. -/
theorem Linked.same {same : α → α → Prop}
    (hstart : ∀ entry, hash entry ≠ start)
    (hsame : ∀ entry ∈ entries, ∀ other ∈ others, hash entry = hash other →
      same entry other ∧ prev entry = prev other)
    (h : Linked prev hash start entries head) (h' : Linked prev hash start others head) :
    List.Forall₂ same entries others := by
  induction entries using List.reverseRecOn generalizing others head with
  | nil =>
    obtain rfl := linked_nil.mp h
    rcases List.eq_nil_or_concat' others with rfl | ⟨others, other, rfl⟩
    · exact .nil
    · exact absurd (linked_snoc.mp h').2 (hstart other)
  | append_singleton entries entry ih =>
    obtain ⟨hbefore, rfl⟩ := linked_snoc.mp h
    rcases List.eq_nil_or_concat' others with rfl | ⟨others, other, rfl⟩
    · exact absurd (linked_nil.mp h').symm (hstart entry)
    · obtain ⟨hbefore', hhash⟩ := linked_snoc.mp h'
      obtain ⟨hentry, hprev⟩ := hsame entry (by simp) other (by simp) hhash.symm
      refine List.rel_append (ih ?_ hbefore (hprev ▸ hbefore')) (.cons hentry .nil)
      intro first hfirst second hsecond
      exact hsame first (List.mem_append_left _ hfirst) second (List.mem_append_left _ hsecond)

end AegisLedger.Support.HashChain
