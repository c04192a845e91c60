import Mathlib

/-!
# Constant-product pools

A pool holds two reserves.  Of an input `x` the share `kept / whole` counts, and the pool
pays the largest whole amount for which the product of the reserves, with the counted input,
does not fall.  Everything follows from one inequality between the output and the input
(`le_output_iff`): the floor enters nowhere else.
-/

namespace AegisLedger.Support

/-- The share of an input that a pool counts. -/
structure Fee where
  kept : Int
  whole : Int
  keptNonneg : 0 ≤ kept
  keptLe : kept ≤ whole
  wholePos : 0 < whole

namespace Fee

/-- What a pool with reserves `r` and `s` pays from `s` for `x` paid into `r`. -/
def output (fee : Fee) (r s x : Int) : Int :=
  (x * fee.kept * s).fdiv (r * fee.whole + x * fee.kept)

variable (fee : Fee) {r s x y : Int}

theorem divisor_pos (hr : 0 < r) (hx : 0 ≤ x) : 0 < r * fee.whole + x * fee.kept := by
  have hwhole := fee.wholePos
  have hcounted := mul_nonneg hx fee.keptNonneg
  have hreserve := mul_pos hr hwhole
  omega

theorem le_output_iff (hr : 0 < r) (hx : 0 ≤ x) {out : Int} :
    out ≤ fee.output r s x ↔ out * (r * fee.whole + x * fee.kept) ≤ x * fee.kept * s := by
  have hdivisor := fee.divisor_pos hr hx
  rw [output, Int.fdiv_eq_ediv_of_nonneg _ hdivisor.le]
  exact Int.le_ediv_iff_mul_le hdivisor

theorem output_mul_le (hr : 0 < r) (hx : 0 ≤ x) :
    fee.output r s x * (r * fee.whole + x * fee.kept) ≤ x * fee.kept * s :=
  (fee.le_output_iff hr hx).mp le_rfl

theorem output_nonneg (hr : 0 < r) (hs : 0 ≤ s) (hx : 0 ≤ x) : 0 ≤ fee.output r s x := by
  rw [fee.le_output_iff hr hx, zero_mul]
  exact mul_nonneg (mul_nonneg hx fee.keptNonneg) hs

/-- The pool never gives out a whole reserve. -/
theorem output_lt (hr : 0 < r) (hs : 0 < s) (hx : 0 ≤ x) : fee.output r s x < s := by
  have hreserve : 0 < s * (r * fee.whole) := mul_pos hs (mul_pos hr fee.wholePos)
  rw [← not_le, fee.le_output_iff hr hx, not_le]
  calc x * fee.kept * s
      < s * (r * fee.whole) + x * fee.kept * s := by omega
    _ = s * (r * fee.whole + x * fee.kept) := by ring

/-- The product of the reserves does not fall. -/
theorem product_le (hr : 0 < r) (hs : 0 < s) (hx : 0 ≤ x) :
    r * s ≤ (r + x) * (s - fee.output r s x) := by
  have hbound := fee.output_mul_le (s := s) hr hx
  have hlt := fee.output_lt hr hs hx
  -- what the fee takes counts for the pool
  have htaken : 0 ≤ x * (fee.whole - fee.kept) * (s - fee.output r s x) :=
    mul_nonneg (mul_nonneg hx (sub_nonneg.mpr fee.keptLe)) (sub_nonneg.mpr hlt.le)
  have hgain : 0 ≤ fee.whole * (x * s - fee.output r s x * (r + x)) := by
    calc 0 ≤ x * fee.kept * s - fee.output r s x * (r * fee.whole + x * fee.kept) +
          x * (fee.whole - fee.kept) * (s - fee.output r s x) := by omega
      _ = fee.whole * (x * s - fee.output r s x * (r + x)) := by ring
  have hpositive := nonneg_of_mul_nonneg_right hgain fee.wholePos
  calc r * s ≤ r * s + (x * s - fee.output r s x * (r + x)) := by omega
    _ = (r + x) * (s - fee.output r s x) := by ring

/-- Two inputs one after the other are paid no more than both at once. -/
theorem output_add_le (hr : 0 < r) (hs : 0 < s) (hx : 0 ≤ x) (hy : 0 ≤ y) :
    fee.output r s x + fee.output (r + x) (s - fee.output r s x) y ≤
      fee.output r s (x + y) := by
  have hleft : 0 ≤ s - fee.output r s x := sub_nonneg.mpr (fee.output_lt hr hs hx).le
  have hgrown : 0 < r + x := by omega
  have hfirst := fee.output_mul_le (s := s) hr hx
  have hsecond := fee.output_mul_le (s := s - fee.output r s x) hgrown hy
  generalize fee.output r s x = first at hfirst hsecond hleft ⊢
  have hnonneg := fee.output_nonneg hgrown hleft hy
  generalize fee.output (r + x) (s - first) y = second at hsecond hnonneg ⊢
  -- the second input meets a reserve that has grown by all of the first one, fee included
  have hfee : 0 ≤ second * (x * (fee.whole - fee.kept)) :=
    mul_nonneg hnonneg (mul_nonneg hx (sub_nonneg.mpr fee.keptLe))
  rw [fee.le_output_iff hr (by omega)]
  calc (first + second) * (r * fee.whole + (x + y) * fee.kept)
      = first * (r * fee.whole + x * fee.kept) +
          second * ((r + x) * fee.whole + y * fee.kept) + y * fee.kept * first -
          second * (x * (fee.whole - fee.kept)) := by ring
    _ ≤ x * fee.kept * s + y * fee.kept * (s - first) + y * fee.kept * first := by omega
    _ = (x + y) * fee.kept * s := by ring

end Fee

end AegisLedger.Support
