import Mathlib

/-!
# Correctly rounded quotients in binary64

Every finite double is an integer multiple of `2^-1074`, so a non-negative
double is kept as that integer.  `trueDivide n d` is the quotient of two
integers rounded to nearest, ties to even, which is what true division of
integers returns.  Quotients that overflow to infinity are outside the model.

The rounding moves a quotient by at most half a unit in the last place.  A
quotient with a small denominator that lies below an integer is therefore
still below it after rounding, as long as the integer is small enough.
-/

namespace AegisLedger.Support.Binary64

/-- The smallest positive double is `2^-unitBits`. -/
def unitBits : Nat := 1074

/-- The integer `1` in units of the smallest positive double. -/
def scale : Nat := 2 ^ unitBits

/-- The integer nearest to `n / d`, ties to even. -/
def roundHalfEven (n d : Nat) : Nat :=
  if 2 * (n % d) < d ∨ (2 * (n % d) = d ∧ n / d % 2 = 0) then n / d
  else n / d + 1

/-- Exponent of the last place of `n / d`, in units of the smallest double. -/
def lastPlace (n d : Nat) : Nat := Nat.log2 (n * scale / d) - 52

/-- `n / d` rounded to a double of 53 significant bits. -/
def trueDivide (n d : Nat) : Nat :=
  roundHalfEven (n * scale) (d * 2 ^ lastPlace n d) * 2 ^ lastPlace n d

theorem scale_pos : 0 < scale := Nat.two_pow_pos unitBits

theorem two_pow_mul_scale (k : Nat) : 2 ^ k * scale = 2 ^ (k + unitBits) :=
  (Nat.pow_add 2 k unitBits).symm

theorem two_mul_roundHalfEven_le (n d : Nat) :
    2 * (d * roundHalfEven n d) ≤ 2 * n + d := by
  have hsplit := Nat.div_add_mod n d
  unfold roundHalfEven
  split_ifs with h
  · omega
  · have hexpand : d * (n / d + 1) = d * (n / d) + d := by ring
    rw [hexpand]
    omega

theorem two_mul_trueDivide_le (n d : Nat) :
    2 * (d * trueDivide n d) ≤ 2 * (n * scale) + d * 2 ^ lastPlace n d := by
  have h := two_mul_roundHalfEven_le (n * scale) (d * 2 ^ lastPlace n d)
  calc 2 * (d * trueDivide n d)
      = 2 * (d * 2 ^ lastPlace n d *
          roundHalfEven (n * scale) (d * 2 ^ lastPlace n d)) := by
        unfold trueDivide; ring
    _ ≤ 2 * (n * scale) + d * 2 ^ lastPlace n d := h

variable {n d w : Nat}

theorem lastPlace_le {k : Nat} (hlt : n < w * d) (hw : w ≤ 2 ^ k) : lastPlace n d ≤ k + 1021 := by
  unfold lastPlace
  by_cases hzero : n * scale / d = 0
  · simp [hzero, Nat.log2_zero]
  · have hquot : n * scale / d < 2 ^ (k + unitBits) := by
      apply Nat.div_lt_of_lt_mul
      calc n * scale < w * d * scale := Nat.mul_lt_mul_of_pos_right hlt scale_pos
        _ ≤ 2 ^ k * d * scale := by gcongr
        _ = d * (2 ^ k * scale) := by ring
        _ = d * 2 ^ (k + unitBits) := by rw [two_pow_mul_scale]
    have hlog := (Nat.log2_lt hzero).mpr hquot
    unfold unitBits at hlog
    omega

theorem div_le_roundHalfEven (n d : Nat) : n / d ≤ roundHalfEven n d := by
  unfold roundHalfEven
  split_ifs
  · exact le_rfl
  · exact Nat.le_succ _

/-- A quotient that reaches an integer is not rounded below it, as long as the last
place does not exceed one. -/
theorem le_trueDivide (hd : 0 < d) (hle : w * d ≤ n) (hplace : lastPlace n d ≤ unitBits) :
    w * scale ≤ trueDivide n d := by
  have hsplit : scale = 2 ^ (unitBits - lastPlace n d) * 2 ^ lastPlace n d := by
    rw [← Nat.pow_add, Nat.sub_add_cancel hplace]
    rfl
  have hquotient : w * 2 ^ (unitBits - lastPlace n d) ≤
      n * scale / (d * 2 ^ lastPlace n d) := by
    rw [Nat.le_div_iff_mul_le (by positivity)]
    calc w * 2 ^ (unitBits - lastPlace n d) * (d * 2 ^ lastPlace n d)
        = w * d * (2 ^ (unitBits - lastPlace n d) * 2 ^ lastPlace n d) := by ring
      _ = w * d * scale := by rw [← hsplit]
      _ ≤ n * scale := Nat.mul_le_mul_right _ hle
  calc w * scale
      = w * 2 ^ (unitBits - lastPlace n d) * 2 ^ lastPlace n d := by
        rw [mul_assoc, ← hsplit]
    _ ≤ n * scale / (d * 2 ^ lastPlace n d) * 2 ^ lastPlace n d :=
        Nat.mul_le_mul_right _ hquotient
    _ ≤ trueDivide n d := Nat.mul_le_mul_right _ (div_le_roundHalfEven _ _)

/-- A quotient that is below `w` by at least `gap / d` stays below `w` when
`w ≤ 2^k` and `d < gap * 2^(54 - k)`: half a unit in the last place is then less
than the distance to the integer. -/
theorem trueDivide_lt {k gap : Nat} (hgap : n + gap ≤ w * d) (hpos : 0 < gap) (hw : w ≤ 2 ^ k)
    (hk : k ≤ 54) (hd : d < gap * 2 ^ (54 - k)) : trueDivide n d < w * scale := by
  have hplace := lastPlace_le (show n < w * d by omega) hw
  have hulp : d * 2 ^ lastPlace n d < 2 * (gap * scale) := by
    have hpow : 2 ^ lastPlace n d ≤ 2 ^ (k + 1021) :=
      Nat.pow_le_pow_right (by decide) hplace
    have hexponent : 54 - k + (k + 1021) = 1 + unitBits := by
      unfold unitBits
      omega
    calc d * 2 ^ lastPlace n d ≤ d * 2 ^ (k + 1021) := by gcongr
      _ < gap * 2 ^ (54 - k) * 2 ^ (k + 1021) :=
        Nat.mul_lt_mul_of_pos_right hd (by positivity)
      _ = gap * (2 ^ 1 * scale) := by
        rw [two_pow_mul_scale, mul_assoc, ← pow_add, hexponent]
      _ = 2 * (gap * scale) := by ring
  have hround := two_mul_trueDivide_le n d
  have hstep : (n + gap) * scale ≤ w * d * scale := by gcongr
  have hcompare : d * trueDivide n d < d * (w * scale) := by
    have hexpand : (n + gap) * scale = n * scale + gap * scale := by ring
    have hcomm : d * (w * scale) = w * d * scale := by ring
    omega
  exact lt_of_mul_lt_mul_left hcompare (Nat.zero_le d)

end AegisLedger.Support.Binary64
