import AegisLedger.Support.ConstantProduct
import AegisLedger.Support.Run
import AegisLedger.Wallet.Chain

/-!
# The pool

Swaps of non-negative amounts on positive reserves.  Seen from the side it is paid on, the
pool is a constant-product pool with a fee of thirty basis points, in either direction.
-/

namespace AegisLedger.Wallet.Pool

open AegisLedger.Support Checks

/-- The fee of the pool. -/
def fee : Fee where
  kept := 10000 - ConstantProductAMM.feeBps
  whole := 10000
  keptNonneg := by decide
  keptLe := by decide
  wholePos := by decide

/-! ## One swap -/

section Swap

variable {amm after : ConstantProductAMM} {tokenIn : Str} {amountIn minOut out : Int}

/-- The reserve that an input goes to and the one that the output comes from. -/
def reserves (amm : ConstantProductAMM) (tokenIn : Str) : Int × Int :=
  if tokenIn = "TUSDC".toList then (amm.a, amm.b) else (amm.b, amm.a)

/-- The pool after a swap. -/
def exchanged (amm : ConstantProductAMM) (tokenIn : Str) (amountIn out : Int) :
    ConstantProductAMM :=
  if tokenIn = "TUSDC".toList then ⟨amm.a + amountIn, amm.b - out⟩
  else ⟨amm.a - out, amm.b + amountIn⟩

theorem reserves_exchanged :
    reserves (exchanged amm tokenIn amountIn out) tokenIn =
      ((reserves amm tokenIn).1 + amountIn, (reserves amm tokenIn).2 - out) := by
  unfold reserves exchanged
  split_ifs <;> rfl

structure Positive (amm : ConstantProductAMM) : Prop where
  a : 0 < amm.a
  b : 0 < amm.b

theorem positive_iff (tokenIn : Str) :
    Positive amm ↔ 0 < (reserves amm tokenIn).1 ∧ 0 < (reserves amm tokenIn).2 := by
  unfold reserves
  split_ifs
  · exact ⟨fun h => ⟨h.a, h.b⟩, fun h => ⟨h.1, h.2⟩⟩
  · exact ⟨fun h => ⟨h.b, h.a⟩, fun h => ⟨h.2, h.1⟩⟩

theorem product_eq (amm : ConstantProductAMM) (tokenIn : Str) :
    (reserves amm tokenIn).1 * (reserves amm tokenIn).2 = amm.a * amm.b := by
  unfold reserves
  split_ifs
  · rfl
  · exact mul_comm _ _

theorem quote_eq (hpositive : Positive amm) (hamount : 0 ≤ amountIn) :
    amm.quote tokenIn amountIn =
      .ok (fee.output (reserves amm tokenIn).1 (reserves amm tokenIn).2 amountIn) := by
  have hdivisor := fee.divisor_pos ((positive_iff tokenIn).mp hpositive).1 hamount
  rw [ConstantProductAMM.quote, raiseIf_bind_eq_ok]
  exact ⟨hdivisor.ne', rfl⟩

theorem swap_eq_ok_iff :
    amm.swap tokenIn amountIn minOut = .ok (out, after) ↔
      amm.quote tokenIn amountIn = .ok out ∧ minOut ≤ out ∧
        after = exchanged amm tokenIn amountIn out := by
  unfold ConstantProductAMM.swap exchanged
  rw [bind_eq_ok]
  simp only [raiseIf_bind_eq_ok, not_lt]
  constructor
  · rintro ⟨quoted, hquote, hmin, h⟩
    split_ifs at h ⊢
    · obtain ⟨rfl, rfl⟩ := Prod.mk.inj (pure_eq_ok.mp h)
      exact ⟨hquote, hmin, rfl⟩
    · obtain ⟨rfl, rfl⟩ := Prod.mk.inj (pure_eq_ok.mp h)
      exact ⟨hquote, hmin, rfl⟩
  · rintro ⟨hquote, hmin, rfl⟩
    refine ⟨out, hquote, hmin, ?_⟩
    split_ifs <;> rfl

/-- A swap of nothing leaves the reserves as they are. -/
theorem swap_zero (h : amm.swap tokenIn 0 minOut = .ok (out, after)) : after = amm := by
  obtain ⟨hquote, -, rfl⟩ := swap_eq_ok_iff.mp h
  rw [ConstantProductAMM.quote, raiseIf_bind_eq_ok, pure_eq_ok] at hquote
  have hout : out = 0 := by
    rw [← hquote.2]
    simp
  rw [exchanged, hout]
  split_ifs <;> simp

/-- Only a bound can make a swap fail. -/
theorem swap_succeeds (tokenIn : Str) (hpositive : Positive amm) (hamount : 0 ≤ amountIn)
    (hmin : minOut ≤ 0) : ∃ out after, amm.swap tokenIn amountIn minOut = .ok (out, after) := by
  obtain ⟨hin, hreserve⟩ := (positive_iff tokenIn).mp hpositive
  have hout := hmin.trans (fee.output_nonneg hin hreserve.le hamount)
  exact ⟨_, _, swap_eq_ok_iff.mpr ⟨quote_eq hpositive hamount, hout, rfl⟩⟩

/-- What the pool pays, from reserves it keeps positive. -/
theorem swap_cases (hpositive : Positive amm) (hamount : 0 ≤ amountIn)
    (h : amm.swap tokenIn amountIn minOut = .ok (out, after)) :
    out = fee.output (reserves amm tokenIn).1 (reserves amm tokenIn).2 amountIn ∧
      after = exchanged amm tokenIn amountIn out := by
  obtain ⟨hquote, -, hafter⟩ := swap_eq_ok_iff.mp h
  rw [quote_eq hpositive hamount, Except.ok.injEq] at hquote
  exact ⟨hquote.symm, hafter⟩

theorem out_bounds (hpositive : Positive amm) (hamount : 0 ≤ amountIn)
    (h : amm.swap tokenIn amountIn minOut = .ok (out, after)) :
    0 ≤ out ∧ out < (reserves amm tokenIn).2 := by
  obtain ⟨rfl, -⟩ := swap_cases hpositive hamount h
  obtain ⟨hin, hout⟩ := (positive_iff tokenIn).mp hpositive
  exact ⟨fee.output_nonneg hin hout.le hamount, fee.output_lt hin hout hamount⟩

theorem positive_swap (hpositive : Positive amm) (hamount : 0 ≤ amountIn)
    (h : amm.swap tokenIn amountIn minOut = .ok (out, after)) : Positive after := by
  have hbounds := out_bounds hpositive hamount h
  have hin := ((positive_iff tokenIn).mp hpositive).1
  obtain ⟨-, rfl⟩ := swap_cases hpositive hamount h
  rw [positive_iff tokenIn, reserves_exchanged]
  exact ⟨by omega, by omega⟩

theorem product_le_swap (hpositive : Positive amm) (hamount : 0 ≤ amountIn)
    (h : amm.swap tokenIn amountIn minOut = .ok (out, after)) :
    amm.a * amm.b ≤ after.a * after.b := by
  obtain ⟨hout, rfl⟩ := swap_cases hpositive hamount h
  obtain ⟨hin, hreserve⟩ := (positive_iff tokenIn).mp hpositive
  rw [← product_eq amm tokenIn, ← product_eq _ tokenIn, reserves_exchanged, hout]
  exact fee.product_le hin hreserve hamount

end Swap

/-! ## Sequences of swaps -/

structure SwapCall where
  tokenIn : Str
  amountIn : Int
  minOut : Int

/-- The pool after a call; one that raises leaves it as it was. -/
def perform (amm : ConstantProductAMM) (call : SwapCall) : ConstantProductAMM :=
  match amm.swap call.tokenIn call.amountIn call.minOut with
  | .ok (_, after) => after
  | .error _ => amm

/-- A call with a non-negative amount. -/
abbrev SwapStep : ConstantProductAMM → SwapCall → ConstantProductAMM → Prop :=
  Run.Guarded (fun _ call => 0 ≤ call.amountIn) perform

section Run

variable {amm after : ConstantProductAMM} {trace : List SwapCall}

theorem step_invariant {call : SwapCall} (hpositive : Positive amm)
    (hstep : SwapStep amm call after) : Positive after ∧ amm.a * amm.b ≤ after.a * after.b := by
  obtain ⟨hamount, rfl⟩ := hstep
  rw [perform]
  split
  · rename_i h
    exact ⟨positive_swap hpositive hamount h, product_le_swap hpositive hamount h⟩
  · exact ⟨hpositive, le_rfl⟩

theorem run_invariant (hpositive : Positive amm) (hrun : Run SwapStep amm trace after) :
    Positive after ∧ amm.a * amm.b ≤ after.a * after.b := by
  apply hrun.invariant (I := fun _ after => Positive after ∧ amm.a * amm.b ≤ after.a * after.b)
  · exact ⟨hpositive, le_rfl⟩
  · rintro _ middle call last _ ⟨hmiddle, hproduct⟩ hstep
    obtain ⟨hlast, hgrown⟩ := step_invariant hmiddle hstep
    exact ⟨hlast, hproduct.trans hgrown⟩

/-- Along every sequence of swaps the reserves stay positive, no output takes a whole
reserve, the product does not fall, and nothing is taken out for free. -/
theorem swaps_extract_nothing (ha : 0 < amm.a) (hb : 0 < amm.b)
    (hrun : Run SwapStep amm trace after) :
    (0 < after.a ∧ 0 < after.b) ∧
      (∀ tokenIn amountIn minOut out next, 0 ≤ amountIn →
        after.swap tokenIn amountIn minOut = .ok (out, next) →
          out < (reserves after tokenIn).2 ∧ after.a * after.b ≤ next.a * next.b) ∧
      amm.a * amm.b ≤ after.a * after.b ∧
      ¬(after.a ≤ amm.a ∧ after.b ≤ amm.b ∧ (after.a < amm.a ∨ after.b < amm.b)) := by
  obtain ⟨hafter, hproduct⟩ := run_invariant ⟨ha, hb⟩ hrun
  refine ⟨⟨hafter.a, hafter.b⟩, ?_, hproduct, ?_⟩
  · intro tokenIn amountIn minOut out next hamount hswap
    exact ⟨(out_bounds hafter hamount hswap).2, product_le_swap hafter hamount hswap⟩
  · rintro ⟨hless, hless', hstrict | hstrict⟩
    · have hfalls : after.a * after.b < amm.a * amm.b :=
        mul_lt_mul hstrict hless' hafter.b ha.le
      omega
    · have hfalls : after.a * after.b < amm.a * amm.b :=
        mul_lt_mul' hless hstrict hafter.b.le ha
      omega

/-- A purchase, a refused call and the way back. -/
def roundTrip : List SwapCall :=
  [⟨"TUSDC".toList, 1000, 0⟩, ⟨"TUSDC".toList, 1000, 1000⟩, ⟨"DRB".toList, 488, -1⟩]

theorem roundTrip_loses :
    roundTrip.foldl perform ⟨50000, 25000⟩ = ⟨50008, 25000⟩ ∧
      (50000 : Int) * 25000 ≤ 50008 * 25000 := by
  have hfacts : Run.Follows (fun _ (call : SwapCall) => 0 ≤ call.amountIn) perform
      ⟨50000, 25000⟩ roundTrip ∧
      roundTrip.foldl perform ⟨50000, 25000⟩ = ⟨50008, 25000⟩ := by decide +kernel
  obtain ⟨hfollows, hend⟩ := hfacts
  have hrun := hfollows.run
  rw [hend] at hrun
  exact ⟨hend, (swaps_extract_nothing (by decide) (by decide) hrun).2.2.1⟩

end Run

/-! ## Split trades -/

/-- Consecutive swaps of the same token, each with its amount and its bound. -/
def swapAll (amm : ConstantProductAMM) (tokenIn : Str) :
    List (Int × Int) → Except ChainError (List Int × ConstantProductAMM)
  | [] => pure ([], amm)
  | (amountIn, minOut) :: parts => do
      let (out, next) ← amm.swap tokenIn amountIn minOut
      let (outs, last) ← swapAll next tokenIn parts
      pure (out :: outs, last)

/-- The amount that the parts of a trade come to. -/
def total (parts : List (Int × Int)) : Int := (parts.map Prod.fst).sum

section Split

variable {amm : ConstantProductAMM} {tokenIn : Str}

variable {parts : List (Int × Int)}

theorem total_nonneg (hamounts : ∀ part ∈ parts, 0 ≤ part.1) : 0 ≤ total parts := by
  apply List.sum_nonneg
  intro amount hamount
  obtain ⟨part, hpart, rfl⟩ := List.mem_map.mp hamount
  exact hamounts part hpart

theorem swapAll_outputs_le {outs : List Int} {last : ConstantProductAMM}
    (hpositive : Positive amm) (hamounts : ∀ part ∈ parts, 0 ≤ part.1)
    (h : swapAll amm tokenIn parts = .ok (outs, last)) :
    outs.sum ≤
      fee.output (reserves amm tokenIn).1 (reserves amm tokenIn).2 (total parts) := by
  induction parts generalizing amm outs with
  | nil =>
    rw [swapAll, pure_eq_ok, Prod.mk.injEq] at h
    rw [← h.1]
    obtain ⟨hin, hout⟩ := (positive_iff tokenIn).mp hpositive
    exact fee.output_nonneg hin hout.le le_rfl
  | cons part parts ih =>
    obtain ⟨amountIn, minOut⟩ := part
    have hamount : 0 ≤ amountIn := hamounts _ List.mem_cons_self
    have hrest : ∀ part ∈ parts, 0 ≤ part.1 :=
      fun part hpart => hamounts part (List.mem_cons_of_mem _ hpart)
    simp only [swapAll, bind_eq_ok] at h
    obtain ⟨⟨out, next⟩, hswap, ⟨rest, final⟩, hall, h⟩ := h
    rw [pure_eq_ok, Prod.mk.injEq] at h
    obtain ⟨houts, rfl⟩ := h
    dsimp only at hall
    have hlater := ih (positive_swap hpositive hamount hswap) hrest hall
    obtain ⟨hout, rfl⟩ := swap_cases hpositive hamount hswap
    obtain ⟨hin, hreserve⟩ := (positive_iff tokenIn).mp hpositive
    have hsplit := fee.output_add_le hin hreserve hamount (total_nonneg hrest)
    rw [reserves_exchanged] at hlater
    rw [← hout] at hsplit
    rw [← houts, List.sum_cons]
    exact (add_le_add_right hlater out).trans hsplit

theorem swapAll_succeeds (hpositive : Positive amm)
    (hamounts : ∀ part ∈ parts, 0 ≤ part.1 ∧ part.2 ≤ 0) :
    ∃ outs last, swapAll amm tokenIn parts = .ok (outs, last) := by
  induction parts generalizing amm with
  | nil => exact ⟨[], amm, rfl⟩
  | cons part parts ih =>
    obtain ⟨amountIn, minOut⟩ := part
    obtain ⟨hamount, hmin⟩ := hamounts _ List.mem_cons_self
    obtain ⟨out, next, hswap⟩ := swap_succeeds tokenIn hpositive hamount hmin
    obtain ⟨outs, last, hall⟩ := ih (positive_swap hpositive hamount hswap)
      fun part hpart => hamounts part (List.mem_cons_of_mem _ hpart)
    refine ⟨out :: outs, last, ?_⟩
    rw [swapAll, hswap, ok_bind]
    dsimp only
    rw [hall, ok_bind]
    rfl

/-- Consecutive swaps in one direction, which go through unless one of them asks for more,
are paid no more than one swap of the whole amount. -/
theorem split_never_pays (amm : ConstantProductAMM) (ha : 0 < amm.a) (hb : 0 < amm.b) (tokenIn : Str) :
    (∀ x y minOut minOut' out out' middle last, 0 ≤ x → 0 ≤ y →
      amm.swap tokenIn x minOut = .ok (out, middle) →
      middle.swap tokenIn y minOut' = .ok (out', last) →
        ∃ whole, amm.quote tokenIn (x + y) = .ok whole ∧ out + out' ≤ whole) ∧
    (∀ parts : List (Int × Int), (∀ part ∈ parts, 0 ≤ part.1) →
      ∃ whole, amm.quote tokenIn (total parts) = .ok whole ∧
        ∀ outs last, swapAll amm tokenIn parts = .ok (outs, last) → outs.sum ≤ whole) ∧
    ∀ parts : List (Int × Int), (∀ part ∈ parts, 0 ≤ part.1 ∧ part.2 ≤ 0) →
      ∃ outs last, swapAll amm tokenIn parts = .ok (outs, last) := by
  have hpositive : Positive amm := ⟨ha, hb⟩
  have hparts : ∀ parts : List (Int × Int), (∀ part ∈ parts, 0 ≤ part.1) →
      ∃ whole, amm.quote tokenIn (total parts) = .ok whole ∧
        ∀ outs last, swapAll amm tokenIn parts = .ok (outs, last) → outs.sum ≤ whole :=
    fun parts hamounts => ⟨_, quote_eq hpositive (total_nonneg hamounts),
      fun outs last hall => swapAll_outputs_le hpositive hamounts hall⟩
  refine ⟨?_, hparts, fun parts hamounts => swapAll_succeeds hpositive hamounts⟩
  intro x y minOut minOut' out out' middle last hx hy hswap hswap'
  obtain ⟨whole, hwhole, hle⟩ := hparts [(x, minOut), (y, minOut')] (by simp [hx, hy])
  refine ⟨whole, ?_, ?_⟩
  · rw [← hwhole]
    simp [total]
  · have hall : swapAll amm tokenIn [(x, minOut), (y, minOut')] = .ok ([out, out'], last) := by
      simp only [swapAll, hswap, hswap', ok_bind]
      rfl
    have hsum := hle _ _ hall
    simpa using hsum

theorem split_sample :
    ConstantProductAMM.swap ⟨50000, 25000⟩ "DRB".toList 700 0 = .ok (1357, ⟨48643, 25700⟩) ∧
      ConstantProductAMM.swap ⟨48643, 25700⟩ "DRB".toList 300 0 = .ok (559, ⟨48084, 26000⟩) ∧
      ∃ whole, ConstantProductAMM.quote ⟨50000, 25000⟩ "DRB".toList (700 + 300) = .ok whole ∧
        1357 + 559 ≤ whole := by
  have hfacts :
      ConstantProductAMM.swap ⟨50000, 25000⟩ "DRB".toList 700 0 = .ok (1357, ⟨48643, 25700⟩) ∧
      ConstantProductAMM.swap ⟨48643, 25700⟩ "DRB".toList 300 0 =
        .ok (559, ⟨48084, 26000⟩) := by decide +kernel
  refine ⟨hfacts.1, hfacts.2, ?_⟩
  exact (split_never_pays ⟨50000, 25000⟩ (by decide) (by decide) _).1 700 300 0 0 _ _ _ _
    (by decide) (by decide) hfacts.1 hfacts.2

end Split

end AegisLedger.Wallet.Pool
