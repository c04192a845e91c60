import AegisLedger.Support.Tally

/-!
# Sliding-window budgets

A history is a list of entries, each with an instant and a weight, in no
particular order of instants.  `Bounded w cap` says that no half-open window
`(t - w, t]` holds more than `cap`.  The two rules of this file are all a store
needs to keep it: entries may be dropped, and an entry may be added when the
weight already counted at the instant of admission leaves room for it.
-/

namespace AegisLedger.Support.Window

open Tally

variable {T : Type} [AddCommGroup T] [LinearOrder T]

/-- `c` lies in the window of length `w` that ends at `t`. -/
def inWindow (w t c : T) : Bool := decide (t - w < c ∧ c ≤ t)

def Bounded (w : T) (cap : Nat) (entries : List (T × Nat)) : Prop :=
  ∀ t, total (inWindow w t) entries ≤ cap

theorem Bounded.sublist {w : T} {cap : Nat} {xs ys : List (T × Nat)}
    (hys : Bounded w cap ys) (h : xs.Sublist ys) : Bounded w cap xs :=
  fun t => (total_le_of_sublist _ h).trans (hys t)

theorem bounded_nil (w : T) (cap : Nat) : Bounded w cap [] := by
  intro t
  simp [total]

/-- Admission.  The evaluation took place at `now` and counted at least every
entry later than `now - w`; the new entry is stamped no earlier than `now`.
Windows that contain the new entry then contain only counted entries, whatever
the order of the stamps, and the other windows are as before. -/
theorem Bounded.extend [IsOrderedAddMonoid T] {w now stamp : T} {cap weight : Nat}
    {entries : List (T × Nat)} {counted : T → Bool} (hentries : Bounded w cap entries)
    (hstamp : now ≤ stamp)
    (hcounted : ∀ e ∈ entries, now - w < e.1 → counted e.1 = true)
    (hroom : total counted entries + weight ≤ cap) :
    Bounded w cap (entries ++ [(stamp, weight)]) := by
  intro t
  rw [total_append]
  by_cases hin : inWindow w t stamp = true
  · have hbounds : t - w < stamp ∧ stamp ≤ t := by simpa [inWindow] using hin
    have hle : total (inWindow w t) entries ≤ total counted entries := by
      apply total_le_of_imp
      intro e he hwin
      have hlow : t - w < e.1 := by
        have : t - w < e.1 ∧ e.1 ≤ t := by simpa [inWindow] using hwin
        exact this.1
      left
      apply hcounted e he
      have hshift : now - w ≤ t - w := sub_le_sub_right (hstamp.trans hbounds.2) w
      exact lt_of_le_of_lt hshift hlow
    rw [total_singleton, if_pos hin]
    omega
  · rw [total_singleton, if_neg hin]
    exact hentries t

end AegisLedger.Support.Window
