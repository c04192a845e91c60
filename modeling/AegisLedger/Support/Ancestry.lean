import Mathlib

/-!
# Chains of parents

A partial function that maps a node to its parent.  Nothing says that the chains end; where
they do, a node may be given a new parent that does not reach it.
-/

namespace AegisLedger.Support.Ancestry

variable {α : Type}

/-- `a` is `b`, or reaches `b` through parents. -/
def Descends (parent : α → Option α) : α → α → Prop :=
  Relation.ReflTransGen fun a b => parent a = some b

theorem Descends.refl (parent : α → Option α) (a : α) : Descends parent a a :=
  Relation.ReflTransGen.refl

variable {parent : α → Option α}

theorem Descends.head {a b c : α} (hparent : parent a = some b) (h : Descends parent b c) :
    Descends parent a c :=
  Relation.ReflTransGen.head hparent h

/-- When only `x` gets a new parent, a chain that did not exist before starts at a
node below `x`. -/
theorem Descends.of_update {updated : α → Option α} {x a b : α}
    (hagree : ∀ c, c ≠ x → updated c = parent c) (h : Descends updated a b) :
    Descends parent a b ∨ Descends parent a x := by
  induction h using Relation.ReflTransGen.head_induction_on with
  | refl => exact Or.inl (Descends.refl parent b)
  | @head c d hstep _ ih =>
    by_cases hc : c = x
    · rw [hc]
      exact Or.inr (Descends.refl parent x)
    · rw [hagree c hc] at hstep
      rcases ih with hold | hbelow
      · exact Or.inl (hold.head hstep)
      · exact Or.inr (hbelow.head hstep)

/-! ## Chains that end -/

/-- Every chain of parents ends. -/
def Grounded (parent : α → Option α) : Prop := WellFounded fun b a => parent a = some b

theorem Grounded.not_cycle (h : Grounded parent) (a : α) :
    ¬ Relation.TransGen (fun a b => parent a = some b) a a := by
  intro hcycle
  have hswapped : Relation.TransGen (fun b a => parent a = some b) a a :=
    Relation.transGen_swap.mp hcycle
  exact h.transGen.irrefl.irrefl a hswapped

/-- When only `x` gets a new parent, one that does not reach it, the chains still end. -/
theorem Grounded.update {updated : α → Option α} {x : α} (h : Grounded parent)
    (hagree : ∀ c, c ≠ x → updated c = parent c)
    (hnew : ∀ b, updated x = some b → ¬ Descends parent b x) : Grounded updated := by
  -- First the chains that never reach `x`, which are the old ones; the new chain of `x` is one.
  have hapart : ∀ a, ¬ Descends parent a x → Acc (fun b a => updated a = some b) a := by
    intro a
    induction a using h.induction with
    | _ a ih =>
      intro ha
      refine ⟨a, fun b hb => ?_⟩
      have hne : a ≠ x := by
        rintro rfl
        exact ha (Descends.refl parent a)
      rw [hagree a hne] at hb
      exact ih b hb fun hbelow => ha (hbelow.head hb)
  have hx : Acc (fun b a => updated a = some b) x :=
    ⟨x, fun b hb => hapart b (hnew b hb)⟩
  refine ⟨fun a => ?_⟩
  induction a using h.induction with
  | _ a ih =>
    by_cases hax : a = x
    · rw [hax]
      exact hx
    · refine ⟨a, fun b hb => ih b ?_⟩
      rw [← hagree a hax]
      exact hb

end AegisLedger.Support.Ancestry
