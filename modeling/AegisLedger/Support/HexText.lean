import Mathlib

/-!
# Byte strings and their hexadecimal text

Byte strings are lists of bytes and text is a list of code points, so that
slicing, prefix tests and comparison are those of lists.  `toHex` writes two
lower-case digits a byte.  `fromHex` reads either case and, like
`bytes.fromhex`, skips blanks between bytes.
-/

namespace AegisLedger.Support

abbrev Bytes := List UInt8

abbrev Str := List Char

namespace HexText

/-- The lower-case digit of a half byte. -/
def hexDigit (n : Nat) : Char :=
  if n < 10 then Char.ofNat (48 + n) else Char.ofNat (87 + n)

def hexValue (c : Char) : Option Nat :=
  if 48 ≤ c.toNat ∧ c.toNat ≤ 57 then some (c.toNat - 48)
  else if 97 ≤ c.toNat ∧ c.toNat ≤ 102 then some (c.toNat - 87)
  else if 65 ≤ c.toNat ∧ c.toNat ≤ 70 then some (c.toNat - 55)
  else none

/-- Blanks that may stand between two bytes: space, `\t`, `\n`, `\v`, `\f`, `\r`. -/
def isBlank (c : Char) : Bool :=
  c.toNat == 32 || (9 ≤ c.toNat && c.toNat ≤ 13)

def hexPair (b : UInt8) : Str := [hexDigit (b.toNat / 16), hexDigit (b.toNat % 16)]

def toHex (bytes : Bytes) : Str := bytes.flatMap hexPair

def fromHex : Str → Option Bytes
  | [] => some []
  | [c] => if isBlank c then some [] else none
  | c :: d :: rest =>
    if isBlank c then fromHex (d :: rest)
    else
      match hexValue c, hexValue d, fromHex rest with
      | some high, some low, some bytes => some (UInt8.ofNat (16 * high + low) :: bytes)
      | _, _, _ => none

/-- Lower-casing of text all of whose letters are ASCII letters. -/
def asciiLower (s : Str) : Str := s.map Char.toLower

theorem hexValue_hexDigit {n : Nat} (h : n < 16) : hexValue (hexDigit n) = some n := by
  interval_cases n <;> rfl

theorem isBlank_hexDigit {n : Nat} (h : n < 16) : isBlank (hexDigit n) = false := by
  interval_cases n <;> rfl

theorem fromHex_hexPair_append (b : UInt8) {rest : Str} {bytes : Bytes}
    (h : fromHex rest = some bytes) :
    fromHex (hexPair b ++ rest) = some (b :: bytes) := by
  have hb := b.toNat_lt
  have hhigh : b.toNat / 16 < 16 := by omega
  have hlow : b.toNat % 16 < 16 := Nat.mod_lt _ (by omega)
  have hvalue : 16 * (b.toNat / 16) + b.toNat % 16 = b.toNat := Nat.div_add_mod _ _
  simp only [hexPair, List.cons_append, List.nil_append, fromHex,
    isBlank_hexDigit hhigh, hexValue_hexDigit hhigh, hexValue_hexDigit hlow, h, hvalue]
  simp

@[simp] theorem fromHex_toHex (bytes : Bytes) : fromHex (toHex bytes) = some bytes := by
  induction bytes with
  | nil => rfl
  | cons b bytes ih =>
    rw [toHex, List.flatMap_cons]
    exact fromHex_hexPair_append b ih

theorem length_toHex (bytes : Bytes) : (toHex bytes).length = 2 * bytes.length := by
  induction bytes with
  | nil => rfl
  | cons b bytes ih =>
    rw [toHex, List.flatMap_cons, List.length_append, ← toHex, ih, List.length_cons]
    simp only [hexPair, List.length_cons, List.length_nil]
    omega

theorem toHex_injective : Function.Injective toHex := by
  intro xs ys h
  have hread := congrArg fromHex h
  simpa using hread

/-- The code point after lower-casing. -/
theorem toNat_toLower (c : Char) :
    c.toLower.toNat = if 65 ≤ c.toNat ∧ c.toNat ≤ 90 then c.toNat + 32 else c.toNat := by
  unfold Char.toLower
  split_ifs with hupper hrange hrange
  · have hhigh : c.toNat ≤ 90 := UInt32.le_iff_toNat_le.mp hupper.2
    have hsum : (c.val + 32).toNat = c.toNat + 32 := by
      rw [UInt32.toNat_add]
      exact Nat.mod_eq_of_lt (by
        have hthirtyTwo : (32 : UInt32).toNat = 32 := rfl
        have hval : c.val.toNat = c.toNat := rfl
        omega)
    exact hsum
  · exact absurd ⟨UInt32.le_iff_toNat_le.mp hupper.1, UInt32.le_iff_toNat_le.mp hupper.2⟩ hrange
  · exact absurd ⟨UInt32.le_iff_toNat_le.mpr hrange.1, UInt32.le_iff_toNat_le.mpr hrange.2⟩ hupper
  · rfl

theorem isBlank_toLower (c : Char) : isBlank c.toLower = isBlank c := by
  simp only [isBlank, toNat_toLower]
  split_ifs with hrange
  · rw [Bool.eq_iff_iff]
    simp only [Bool.or_eq_true, Bool.and_eq_true, beq_iff_eq, decide_eq_true_eq]
    omega
  · rfl

theorem hexValue_toLower (c : Char) : hexValue c.toLower = hexValue c := by
  simp only [hexValue, toNat_toLower]
  split_ifs <;> first | rfl | omega

/-- Digits are read in either case. -/
theorem fromHex_asciiLower : (s : Str) → fromHex (asciiLower s) = fromHex s
  | [] => rfl
  | [c] => by
      rw [asciiLower, List.map_cons, List.map_nil, fromHex, fromHex, isBlank_toLower]
  | c :: d :: rest => by
      have htail := fromHex_asciiLower (d :: rest)
      have hrest := fromHex_asciiLower rest
      rw [asciiLower, List.map_cons] at htail
      rw [asciiLower] at hrest
      rw [asciiLower, List.map_cons, List.map_cons, fromHex, fromHex, isBlank_toLower, htail,
        hexValue_toLower, hexValue_toLower, hrest]

end HexText

end AegisLedger.Support
