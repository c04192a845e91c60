import AegisLedger.Support.Checks
import AegisLedger.Support.HexText

/-!
# Identifiers, JSON values and canonical JSON

Signed artifacts are hashed and signed as canonical JSON text
(`aegisledger/canonical.py`).  The services run on code that is not part of the
repository: the `rfc8785` package, hash functions, signature schemes, the
timestamp and Unicode tables of the interpreter.  `Host` collects all of it, and
every result about the gateway is about an arbitrary host.
-/

namespace AegisLedger.Gateway

open AegisLedger.Support HexText Checks

/-- A `uuid.UUID`, by its 128-bit value. -/
abbrev Uuid := BitVec 128

/-- Microseconds an aware UTC `datetime` lies after the start of year 1; the type
ends with year 9999. -/
abbrev Datetime := Fin 315537897600000000

instance datetimeRange : NeZero 315537897600000000 := ⟨by decide⟩

/-- `later - earlier` as a `timedelta`, in microseconds. -/
def timedelta (later earlier : Datetime) : Int := (later.val : Int) - earlier.val

/-- `UUID.version`, defined for the RFC 4122 variant only. -/
def uuidVersion (u : Uuid) : Option Nat :=
  if u.toNat / 2 ^ 62 % 4 = 2 then some (u.toNat / 2 ^ 76 % 16) else none

/-- The low `count` hexadecimal digits of `n`. -/
def lowHexDigits (count n : Nat) : Str :=
  (List.range count).reverse.map (fun i => hexDigit (n / 16 ^ i % 16))

/-- `str(u)`: five groups of 8, 4, 4, 4 and 12 digits. -/
def uuidText (u : Uuid) : Str :=
  let group (shift count : Nat) : Str := lowHexDigits count (u.toNat / 2 ^ shift)
  group 96 8 ++ '-' :: group 80 4 ++ '-' :: group 64 4 ++ '-' :: group 48 4 ++
    '-' :: group 0 12

/-! ## JSON -/

/-- A decoded JSON value.  A float is kept by its bit pattern: the signed artifacts of the
gateway reject every one of them. -/
inductive Json
  | null
  | bool (value : Bool)
  | int (value : Int)
  | float (bits : UInt64)
  | str (value : Str)
  | arr (items : List Json)
  | obj (fields : List (Str × Json))

/-- The characters that structure a JSON text. -/
def isStructural (c : Char) : Bool :=
  c = '"' || c = ',' || c = ':' || c = '[' || c = ']' || c = '\x7b' || c = '\x7d' || c = '\\'

/-- The text of a number or a word, which a structuring character ends. -/
abbrev Literal := {text : Str // text ≠ [] ∧ ∀ c ∈ text, isStructural c = false}

theorem isStructural_of_isDigit {c : Char} (h : c.isDigit = true) : isStructural c = false := by
  by_contra hstructural
  simp only [isStructural, Bool.not_eq_false, Bool.or_eq_true, decide_eq_true_eq] at hstructural
  rcases hstructural with (((((((rfl | rfl) | rfl) | rfl) | rfl) | rfl) | rfl) | rfl) <;>
    revert h <;> decide

theorem isStructural_of_mem_toDigits {n : Nat} {c : Char} (h : c ∈ Nat.toDigits 10 n) :
    isStructural c = false :=
  isStructural_of_isDigit (Nat.isDigit_of_mem_toDigits (by decide) (by decide) h)

/-- A float by its bits. -/
def floatBits (bits : UInt64) : Literal :=
  ⟨'d' :: Nat.toDigits 10 bits.toNat, by simp,
    List.forall_mem_cons.mpr ⟨by decide, fun _ => isStructural_of_mem_toDigits⟩⟩

inductive CanonicalError
  | unsupported (message : Str)
  | rfc8785
  deriving DecidableEq

/-- Everything the Python services call outside the repository. -/
structure Host where
  /-- `rfc8785.dumps`, when the package is installed; it may refuse a value. -/
  rfc8785 : Option (Json → Option Bytes)
  sha256 : Bytes → Bytes
  keccak : Bytes → Bytes
  /-- Ed25519 verification: public key, message, signature. -/
  ed25519Verify : Bytes → Bytes → Bytes → Bool
  /-- Decode an encoded secp256k1 point; the result is its uncompressed form. -/
  fromEncodedPoint : Bytes → Option Bytes
  /-- ECDSA verification of a prehashed digest: uncompressed key, digest, `r`, `s`. -/
  ecdsaVerify : Bytes → Bytes → Nat → Nat → Bool
  /-- `str.lower` on arbitrary Unicode text. -/
  lower : Str → Str
  /-- The JSON form of an aware UTC timestamp. -/
  datetimeText : Datetime → Str
  /-- `datetime.fromisoformat(..).astimezone(UTC)`. -/
  fromIsoformat : Str → Option Datetime
  /-- `float.__repr__`, with the names that JSON has for the values without digits. -/
  floatText : UInt64 → Literal := floatBits

mutual

/-- `_assert_supported`. -/
def assertSupported (path : Str) : Json → Except CanonicalError Unit
  | .null => .ok ()
  | .bool _ => .ok ()
  | .int _ => .ok ()
  | .str _ => .ok ()
  | .float _ =>
    .error (.unsupported ("floating-point values are forbidden at ".toList ++ path))
  | .arr items => assertItems path 0 items
  | .obj fields => assertFields path fields

def assertItems (path : Str) (index : Nat) : List Json → Except CanonicalError Unit
  | [] => .ok ()
  | item :: items => do
      assertSupported (path ++ '[' :: Nat.toDigits 10 index ++ [']']) item
      assertItems path (index + 1) items

def assertFields (path : Str) : List (Str × Json) → Except CanonicalError Unit
  | [] => .ok ()
  | (key, item) :: fields => do
      assertSupported (path ++ '.' :: key) item
      assertFields path fields

end

/-- One character of a `json.dumps` string, with `ensure_ascii=False`. -/
def escapeChar (c : Char) : Str :=
  if c.toNat = 34 then ['\\', '"']
  else if c.toNat = 92 then ['\\', '\\']
  else if 32 ≤ c.toNat then [c]
  else if c.toNat = 10 then ['\\', 'n']
  else if c.toNat = 13 then ['\\', 'r']
  else if c.toNat = 9 then ['\\', 't']
  else if c.toNat = 8 then ['\\', 'b']
  else if c.toNat = 12 then ['\\', 'f']
  else '\\' :: 'u' :: lowHexDigits 4 c.toNat

def quote (s : Str) : Str := '"' :: s.flatMap escapeChar ++ ['"']

def intText (n : Int) : Str :=
  if n < 0 then '-' :: Nat.toDigits 10 n.natAbs else Nat.toDigits 10 n.natAbs

/-- Order of text by code points, in which `sort_keys` sorts. -/
def codePointLe : Str → Str → Bool
  | [], _ => true
  | _ :: _, [] => false
  | c :: cs, d :: ds =>
    if c.toNat = d.toNat then codePointLe cs ds else c.toNat < d.toNat

def joinComma : List Str → Str
  | [] => []
  | [s] => s
  | s :: rest => s ++ ',' :: joinComma rest

section Dumps

variable (float : UInt64 → Literal)

mutual

/-- `json.dumps(value, ensure_ascii=False, sort_keys=True, separators=(",", ":"))`. -/
def dumpsWith : Json → Str
  | .null => "null".toList
  | .bool true => "true".toList
  | .bool false => "false".toList
  | .int n => intText n
  | .float bits => float bits
  | .str s => quote s
  | .arr items => '[' :: joinComma (dumpsItems items) ++ [']']
  | .obj fields =>
    let sorted := (dumpsFields fields).insertionSort (fun a b => codePointLe a.1 b.1)
    '{' :: joinComma (sorted.map Prod.snd) ++ ['}']

def dumpsItems : List Json → List Str
  | [] => []
  | item :: items => dumpsWith item :: dumpsItems items

/-- Each member of an object with the key it is sorted by. -/
def dumpsFields : List (Str × Json) → List (Str × Str)
  | [] => []
  | (key, item) :: fields => (key, quote key ++ ':' :: dumpsWith item) :: dumpsFields fields

end

end Dumps

/-- The same where floats never reach it. -/
def dumps (value : Json) : Str := dumpsWith floatBits value

def utf8 (s : Str) : Bytes := s.flatMap String.utf8EncodeChar

/-- `canonical_json`. -/
def canonicalJson (host : Host) (value : Json) : Except CanonicalError Bytes := do
  assertSupported ['$'] value
  match host.rfc8785 with
  | some rfc8785Dumps => orRaise (rfc8785Dumps value) .rfc8785
  | none => pure (utf8 (dumps value))

/-- `"0x" + digest.hex()`. -/
def prefixedHex (bytes : Bytes) : Str := '0' :: 'x' :: toHex bytes

end AegisLedger.Gateway
