import Mathlib

/-!
# Runs of a labelled step relation

`Run step s trace t` says that the labels of `trace`, oldest first, lead from
`s` to `t`.  The trace is the history of the run, so an invariant may speak of
what has happened so far as well as of the state reached.
-/

namespace AegisLedger.Support

variable {σ ι : Type}

inductive Run (step : σ → ι → σ → Prop) (s : σ) : List ι → σ → Prop
  | refl : Run step s [] s
  | snoc {trace : List ι} {t u : σ} {label : ι} :
      Run step s trace t → step t label u → Run step s (trace ++ [label]) u

namespace Run

variable {step : σ → ι → σ → Prop} {s t : σ} {trace : List ι}

/-- What holds at the start, and is kept by every step taken from a state of
the run, holds of the history and of the state at the end. -/
theorem invariant {I : List ι → σ → Prop} (hrun : Run step s trace t)
    (hinit : I [] s)
    (hstep : ∀ {trace t label u}, Run step s trace t → I trace t →
      step t label u → I (trace ++ [label]) u) : I trace t := by
  induction hrun with
  | refl => exact hinit
  | snoc hbefore hlast ih => exact hstep hbefore ih hlast

variable {later : List ι} {u : σ}

theorem append (hfirst : Run step s trace t) (hlater : Run step t later u) :
    Run step s (trace ++ later) u := by
  induction hlater with
  | refl =>
    rw [List.append_nil]
    exact hfirst
  | snoc _ hlast ih =>
    rw [← List.append_assoc]
    exact .snoc ih hlast

variable {label : ι}

theorem single (hstep : step s label t) : Run step s [label] t :=
  .snoc .refl hstep

/-- A history taken apart at its last label. -/
theorem of_snoc (h : Run step s (trace ++ [label]) u) :
    ∃ t, Run step s trace t ∧ step t label u := by
  generalize hwhole : trace ++ [label] = whole at h
  cases h with
  | refl => exact absurd hwhole (by simp)
  | snoc hbefore hlast =>
    obtain ⟨rfl, hlabel⟩ := List.append_inj' hwhole rfl
    obtain rfl := List.singleton_inj.mp hlabel
    exact ⟨_, hbefore, hlast⟩

theorem of_append (h : Run step s (trace ++ later) u) :
    ∃ t, Run step s trace t ∧ Run step t later u := by
  induction later using List.reverseRecOn generalizing u with
  | nil =>
    rw [List.append_nil] at h
    exact ⟨u, h, .refl⟩
  | append_singleton later label ih =>
    rw [← List.append_assoc] at h
    obtain ⟨middle, hbefore, hlast⟩ := h.of_snoc
    obtain ⟨t, hfirst, hlater⟩ := ih hbefore
    exact ⟨t, hfirst, .snoc hlater hlast⟩

theorem of_nil (h : Run step s [] u) : u = s := by
  generalize hwhole : ([] : List ι) = whole at h
  cases h with
  | refl => rfl
  | snoc _ _ => exact absurd hwhole (by simp)

theorem of_cons (h : Run step s (label :: later) u) : ∃ t, step s label t ∧ Run step t later u := by
  have hsplit : Run step s ([label] ++ later) u := h
  obtain ⟨t, hfirst, hlater⟩ := hsplit.of_append
  have hlast : Run step s ([] ++ [label]) t := hfirst
  obtain ⟨start, hstart, hstep⟩ := hlast.of_snoc
  rw [hstart.of_nil] at hstep
  exact ⟨t, hstep, hlater⟩

theorem exists_step (h : Run step s trace t) (hmem : label ∈ trace) :
    ∃ before after, step before label after := by
  obtain ⟨earlier, later, rfl⟩ := List.append_of_mem hmem
  obtain ⟨before, -, hlater⟩ := h.of_append
  obtain ⟨after, hstep, -⟩ := hlater.of_cons
  exact ⟨before, after, hstep⟩

/-! ## Steps that a function computes -/

/-- The step that `next` computes, where it is allowed. -/
def Guarded (allowed : σ → ι → Prop) (next : σ → ι → σ) (s : σ) (label : ι) (t : σ) : Prop :=
  allowed s label ∧ t = next s label

/-- Each label of a trace is allowed where it is reached. -/
def Follows (allowed : σ → ι → Prop) (next : σ → ι → σ) : σ → List ι → Prop
  | _, [] => True
  | s, label :: trace => allowed s label ∧ Follows allowed next (next s label) trace

instance decidableFollows (allowed : σ → ι → Prop) (next : σ → ι → σ)
    [∀ s, DecidablePred (allowed s)] :
    (s : σ) → (trace : List ι) → Decidable (Follows allowed next s trace)
  | _, [] => .isTrue trivial
  | s, label :: trace =>
    have := decidableFollows allowed next (next s label) trace
    inferInstanceAs (Decidable (_ ∧ _))

theorem Follows.run {allowed : σ → ι → Prop} {next : σ → ι → σ}
    (h : Follows allowed next s trace) :
    Run (Guarded allowed next) s trace (trace.foldl next s) := by
  induction trace generalizing s with
  | nil => exact .refl
  | cons label trace ih => exact (single ⟨h.1, rfl⟩).append (ih h.2)

/-- A step relation that a function computes takes every history. -/
theorem foldl {next : σ → ι → σ} (hnext : ∀ s label, step s label (next s label))
    (s : σ) (trace : List ι) : Run step s trace (trace.foldl next s) := by
  induction trace using List.reverseRecOn with
  | nil => exact .refl
  | append_singleton trace label ih =>
    rw [List.foldl_append]
    exact .snoc ih (hnext _ label)

end Run

end AegisLedger.Support
