import AegisLedger.Support.Checks

/-!
# What a computation may raise

A caller that handles some errors and not others returns when its callees raise only the
handled ones.  The lemmas follow the guards of `Checks`: a chain raises what one of its links
raises.  `Ends` adds what holds of a result, as a weakest precondition: for a chain it is
computed link by link.
-/

namespace AegisLedger.Support

open Checks

variable {ε α β : Type}

/-- Every error the computation ends with is one of `p`. -/
def OnlyRaises (p : ε → Prop) (x : Except ε α) : Prop := ∀ error, x = .error error → p error

namespace OnlyRaises

variable {p : ε → Prop}

theorem ok (a : α) : OnlyRaises p (.ok a) := by
  intro error h
  cases h

variable {e : ε}

theorem error (h : p e) : OnlyRaises p (.error e : Except ε α) := by
  intro raised hraised
  cases hraised
  exact h

theorem bind {x : Except ε α} {next : α → Except ε β} (hx : OnlyRaises p x)
    (hnext : ∀ a, x = .ok a → OnlyRaises p (next a)) : OnlyRaises p (x >>= next) := by
  intro error h
  rcases bind_eq_error.mp h with hfirst | ⟨a, ha, hrest⟩
  · exact hx error hfirst
  · exact hnext a ha error hrest

theorem raiseIf {bad : Prop} [Decidable bad] (h : bad → p e) :
    OnlyRaises p (Checks.raiseIf bad e) := by
  intro error hraised
  obtain ⟨hbad, rfl⟩ := raiseIf_eq_error.mp hraised
  exact h hbad

theorem orRaise {value : Option α} (h : value = none → p e) :
    OnlyRaises p (Checks.orRaise value e) := by
  intro error hraised
  obtain ⟨hnone, rfl⟩ := orRaise_eq_error.mp hraised
  exact h hnone

theorem raiseIf_bind {bad : Prop} [Decidable bad] {next : Unit → Except ε α} (h : p e)
    (hnext : OnlyRaises p (next ())) : OnlyRaises p (Checks.raiseIf bad e >>= next) :=
  .bind (.raiseIf fun _ => h) fun _ _ => hnext

theorem orRaise_bind {value : Option α} {next : α → Except ε β} (h : p e)
    (hnext : ∀ a, OnlyRaises p (next a)) : OnlyRaises p (Checks.orRaise value e >>= next) :=
  .bind (.orRaise fun _ => h) fun a _ => hnext a

end OnlyRaises

/-- The computation ends with an error of `p` or with a result of `post`. -/
def Ends (p : ε → Prop) (x : Except ε α) (post : α → Prop) : Prop :=
  match x with
  | .ok a => post a
  | .error error => p error

namespace Ends

variable {p : ε → Prop}

theorem iff_cases {x : Except ε α} {post : α → Prop} :
    Ends p x post ↔ (∃ error, x = .error error ∧ p error) ∨ ∃ a, x = .ok a ∧ post a := by
  cases x with
  | ok a => simp [Ends]
  | error error => simp [Ends]

theorem bind_iff {x : Except ε α} {next : α → Except ε β} {post : β → Prop} :
    Ends p (x >>= next) post ↔ Ends p x fun a => Ends p (next a) post := by
  cases x with
  | ok a => exact Iff.rfl
  | error error => exact Iff.rfl

theorem pure_iff {a : α} {post : α → Prop} : Ends p (pure a) post ↔ post a := Iff.rfl

variable {e : ε}

theorem raiseIf_iff {bad : Prop} [Decidable bad] {post : Unit → Prop} :
    Ends p (Checks.raiseIf bad e) post ↔ (bad → p e) ∧ (¬bad → post ()) := by
  unfold Checks.raiseIf
  by_cases hbad : bad
  · rw [if_pos hbad]
    exact ⟨fun h => ⟨fun _ => h, fun hnot => absurd hbad hnot⟩, fun h => h.1 hbad⟩
  · rw [if_neg hbad]
    exact ⟨fun h => ⟨fun hholds => absurd hholds hbad, fun _ => h⟩, fun h => h.2 hbad⟩

theorem orRaise_iff {value : Option α} (he : p e) {post : α → Prop} :
    Ends p (Checks.orRaise value e) post ↔ ∀ a, value = some a → post a := by
  cases value with
  | none => exact ⟨fun _ => nofun, fun _ => he⟩
  | some a => exact ⟨fun h b hb => Option.some.inj hb ▸ h, fun h => h a rfl⟩

theorem constrain_iff {q : α → Prop} [DecidablePred q] {value : α} (he : p e)
    {post : {a : α // q a} → Prop} :
    Ends p (Checks.constrain value e) post ↔ ∀ a : {a : α // q a}, a.val = value → post a := by
  unfold Checks.constrain
  by_cases hvalue : q value
  · rw [dif_pos hvalue]
    refine ⟨fun h a ha => ?_, fun h => h ⟨value, hvalue⟩ rfl⟩
    obtain rfl : a = ⟨value, hvalue⟩ := Subtype.ext ha
    exact h
  · rw [dif_neg hvalue]
    exact ⟨fun _ a ha => absurd (ha ▸ a.property) hvalue, fun _ => he⟩

end Ends

end AegisLedger.Support
