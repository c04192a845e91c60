import Mathlib

/-!
# Guarded computations

A validator that raises at its first failing check is a chain of guards in
`Except`.  The lemmas here take such a chain apart: the chain returns exactly
when no guard fires, so a caller reads off every check that was passed without
unfolding the validator again.  A validator that collects its findings is a list of
notes, empty exactly when no condition holds.
-/

namespace AegisLedger.Support.Checks

variable {ε α β : Type}

/-- Membership in a list, decided through equality of its elements. -/
instance decidableMem [DecidableEq α] (a : α) (items : List α) : Decidable (a ∈ items) :=
  inferInstance

/-- `if bad: raise error`. -/
def raiseIf (bad : Prop) [Decidable bad] (error : ε) : Except ε Unit :=
  if bad then .error error else .ok ()

/-- Unwrap a partial lookup, raising `error` when it has no value. -/
def orRaise (value : Option α) (error : ε) : Except ε α :=
  match value with
  | some a => .ok a
  | none => .error error

/-- A value of a constrained type, raising `error` when the constraint fails. -/
def constrain {p : α → Prop} [DecidablePred p] (value : α) (error : ε) :
    Except ε {a : α // p a} :=
  if h : p value then .ok ⟨value, h⟩ else .error error

/-- `if condition: notes.append(note)`. -/
def noteIf (condition : Prop) [Decidable condition] (note : α) : List α :=
  if condition then [note] else []

@[simp] theorem noteIf_eq_nil {condition : Prop} [Decidable condition] {note : α} :
    noteIf condition note = [] ↔ ¬condition := by
  unfold noteIf
  by_cases h : condition <;> simp [h]

theorem mem_noteIf {condition : Prop} [Decidable condition] {note found : α} :
    found ∈ noteIf condition note ↔ condition ∧ found = note := by
  unfold noteIf
  by_cases h : condition <;> simp [h]

/-- Two notes that can be told apart say of each condition whether it held. -/
theorem noteIf_append_inj {p q p' q' : Prop} [Decidable p] [Decidable q] [Decidable p']
    [Decidable q'] {a b : α} (hne : a ≠ b) :
    noteIf p a ++ noteIf q b = noteIf p' a ++ noteIf q' b ↔ (p ↔ p') ∧ (q ↔ q') := by
  unfold noteIf
  by_cases hp : p <;> by_cases hq : q <;> by_cases hp' : p' <;> by_cases hq' : q' <;>
    simp [hp, hq, hp', hq', hne, hne.symm]

@[simp] theorem raiseIf_bind_eq_ok {bad : Prop} [Decidable bad] {error : ε}
    {next : Unit → Except ε α} {result : α} :
    (raiseIf bad error >>= next) = .ok result ↔ ¬bad ∧ next () = .ok result := by
  unfold raiseIf
  by_cases h : bad <;> simp [h, bind, Except.bind]

@[simp] theorem raiseIf_eq_ok {bad : Prop} [Decidable bad] {error : ε} {u : Unit} :
    raiseIf bad error = .ok u ↔ ¬bad := by
  unfold raiseIf
  by_cases h : bad <;> simp [h]

theorem bind_eq_ok {x : Except ε α} {next : α → Except ε β} {result : β} :
    (x >>= next) = .ok result ↔ ∃ a, x = .ok a ∧ next a = .ok result := by
  cases x with
  | error e => simp [bind, Except.bind]
  | ok a => simp [bind, Except.bind]

/-- A chain returns something if every link does. -/
theorem exists_bind_eq_ok {x : Except ε α} {next : α → Except ε β} :
    (∃ result, (x >>= next) = .ok result) ↔ ∃ a, x = .ok a ∧ ∃ result, next a = .ok result := by
  cases x with
  | error e => simp [bind, Except.bind]
  | ok a => simp [bind, Except.bind]

theorem ok_bind {a : α} {next : α → Except ε β} : (Except.ok a >>= next) = next a := rfl

theorem andThen_eq_ok {x : Except ε Unit} {y : Except ε α} {result : α} :
    (x >>= fun _ => y) = .ok result ↔ x = .ok () ∧ y = .ok result := by
  cases x with
  | error error => simp [bind, Except.bind]
  | ok u => simp [bind, Except.bind]

theorem map_eq_ok {f : α → β} {x : Except ε α} {b : β} (h : x.map f = .ok b) :
    ∃ a, x = .ok a ∧ f a = b := by
  cases x with
  | error error => cases h
  | ok a => exact ⟨a, rfl, Except.ok.inj h⟩

/-- A chain raises in its first link, or returns from it and raises later. -/
theorem bind_eq_error {x : Except ε α} {next : α → Except ε β} {error : ε} :
    (x >>= next) = .error error ↔
      x = .error error ∨ ∃ a, x = .ok a ∧ next a = .error error := by
  cases x with
  | error e => simp [bind, Except.bind]
  | ok a => simp [bind, Except.bind]

theorem raiseIf_eq_error {bad : Prop} [Decidable bad] {error raised : ε} :
    raiseIf bad error = .error raised ↔ bad ∧ error = raised := by
  unfold raiseIf
  by_cases h : bad <;> simp [h]

theorem orRaise_eq_error {value : Option α} {error raised : ε} :
    orRaise value error = .error raised ↔ value = none ∧ error = raised := by
  cases value with
  | none => simp [orRaise]
  | some a => simp [orRaise]

@[simp] theorem orRaise_eq_ok {value : Option α} {error : ε} {a : α} :
    orRaise value error = .ok a ↔ value = some a := by
  cases value with
  | none => simp [orRaise]
  | some b => simp [orRaise]

@[simp] theorem orRaise_bind_eq_ok {value : Option α} {error : ε}
    {next : α → Except ε β} {result : β} :
    (orRaise value error >>= next) = .ok result ↔
      ∃ a, value = some a ∧ next a = .ok result := by
  simp [bind_eq_ok]

theorem constrain_eq_ok {p : α → Prop} [DecidablePred p] {value : α} {error : ε}
    {constrained : {a : α // p a}} :
    constrain value error = .ok constrained ↔ constrained.val = value := by
  unfold constrain
  constructor
  · intro h
    split_ifs at h
    rw [← Except.ok.inj h]
  · rintro rfl
    exact dif_pos constrained.property

@[simp] theorem mapError_eq_ok {ε' : Type} {x : Except ε α} {f : ε → ε'} {a : α} :
    x.mapError f = .ok a ↔ x = .ok a := by
  cases x with
  | error e => simp [Except.mapError]
  | ok b => simp [Except.mapError]

@[simp] theorem mapError_bind_eq_ok {ε' : Type} {x : Except ε α} {f : ε → ε'}
    {next : α → Except ε' β} {result : β} :
    (x.mapError f >>= next) = .ok result ↔ ∃ a, x = .ok a ∧ next a = .ok result := by
  simp [bind_eq_ok]

@[simp] theorem pure_eq_ok {a b : α} : (pure a : Except ε α) = .ok b ↔ a = b := by
  simp [pure, Except.pure]

theorem exists_eq_ok {x : Except ε α} (h : x.isOk = true) : ∃ a, x = .ok a := by
  cases x with
  | error e => cases h
  | ok a => exact ⟨a, rfl⟩

end AegisLedger.Support.Checks
