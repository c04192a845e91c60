import AegisLedger.Signer.ReplayText

/-!
# What canonical JSON text determines

The text that `json.dumps` writes determines the content of a value: its strings, arrays and
objects, and the text of its numbers and words.  So it determines a value without floats, up to
the order of the members of its objects.  `Rfc8785` says the same of the `rfc8785` package,
which is not part of the repository, so that every result holds with and without the package.
-/

namespace AegisLedger.Gateway.CanonicalText

open AegisLedger.Support Checks
open AegisLedger.Signer.ReplayText (readString readString_quote)

/-! ## Values up to the order of members -/

mutual

/-- The value with the members of each object in the order in which `sort_keys` writes
them. -/
def sortKeys : Json → Json
  | .null => .null
  | .bool value => .bool value
  | .int value => .int value
  | .float bits => .float bits
  | .str value => .str value
  | .arr items => .arr (sortItems items)
  | .obj fields => .obj ((sortFields fields).insertionSort fun a b => codePointLe a.1 b.1)

def sortItems : List Json → List Json
  | [] => []
  | item :: items => sortKeys item :: sortItems items

def sortFields : List (Str × Json) → List (Str × Json)
  | [] => []
  | (key, item) :: fields => (key, sortKeys item) :: sortFields fields

end

theorem sortItems_eq_map (items : List Json) : sortItems items = items.map sortKeys := by
  induction items with
  | nil => rfl
  | cons item items ih => rw [sortItems, ih, List.map_cons]

theorem sortFields_eq_map (fields : List (Str × Json)) :
    sortFields fields = fields.map fun field => (field.1, sortKeys field.2) := by
  induction fields with
  | nil => rfl
  | cons field fields ih => rw [sortFields, ih, List.map_cons]

/-! ## Content -/

/-- What a JSON text says. -/
inductive Content
  | literal (text : Literal)
  | text (value : Str)
  | items (contents : List Content)
  | members (fields : List (Str × Content))

theorem intText_isLiteral (n : Int) :
    intText n ≠ [] ∧ ∀ c ∈ intText n, isStructural c = false := by
  unfold intText
  split_ifs
  · exact ⟨List.cons_ne_nil _ _,
      List.forall_mem_cons.mpr ⟨by decide, fun _ => isStructural_of_mem_toDigits⟩⟩
  · exact ⟨Nat.toDigits_ne_nil, fun _ => isStructural_of_mem_toDigits⟩

section Content

variable (float : UInt64 → Literal)

mutual

def contentOf : Json → Content
  | .null => .literal ⟨"null".toList, by simp [isStructural]⟩
  | .bool true => .literal ⟨"true".toList, by simp [isStructural]⟩
  | .bool false => .literal ⟨"false".toList, by simp [isStructural]⟩
  | .int n => .literal ⟨intText n, intText_isLiteral n⟩
  | .float bits => .literal (float bits)
  | .str value => .text value
  | .arr items => .items (contentItems items)
  | .obj fields => .members (contentFields fields)

def contentItems : List Json → List Content
  | [] => []
  | item :: items => contentOf item :: contentItems items

def contentFields : List (Str × Json) → List (Str × Content)
  | [] => []
  | (key, item) :: fields => (key, contentOf item) :: contentFields fields

end

end Content

mutual

/-- The text, its members in the order they stand in. -/
def Content.write : Content → Str
  | .literal text => text.val
  | .text value => quote value
  | .items contents => '[' :: joinComma (writeItems contents) ++ [']']
  | .members fields => '{' :: joinComma (writeFields fields) ++ ['}']

def writeItems : List Content → List Str
  | [] => []
  | item :: items => item.write :: writeItems items

def writeFields : List (Str × Content) → List Str
  | [] => []
  | (key, item) :: fields => (quote key ++ ':' :: item.write) :: writeFields fields

end

/-- The text of a value as it stands. -/
def write (value : Json) : Str := (contentOf floatBits value).write

def writeMember (field : Str × Content) : Str := quote field.1 ++ ':' :: field.2.write

theorem writeItems_eq_map (items : List Content) :
    writeItems items = items.map Content.write := by
  induction items with
  | nil => rfl
  | cons item items ih => rw [writeItems, ih, List.map_cons]

theorem writeFields_eq_map (fields : List (Str × Content)) :
    writeFields fields = fields.map writeMember := by
  induction fields with
  | nil => rfl
  | cons field fields ih =>
    rw [writeFields, ih, List.map_cons]
    rfl

theorem contentFields_eq_map (float : UInt64 → Literal) (fields : List (Str × Json)) :
    contentFields float fields = fields.map fun field => (field.1, contentOf float field.2) := by
  induction fields with
  | nil => rfl
  | cons field fields ih => rw [contentFields, ih, List.map_cons]

section Dumps

variable (float : UInt64 → Literal)

mutual

theorem dumps_eq_write : (value : Json) →
    dumpsWith float value = (contentOf float (sortKeys value)).write
  | .null => rfl
  | .bool true => rfl
  | .bool false => rfl
  | .int _ => rfl
  | .float _ => rfl
  | .str _ => rfl
  | .arr items => by
      rw [dumpsWith, sortKeys, contentOf, Content.write, dumpsItems_eq_write items]
  | .obj fields => by
      have hsorted := List.map_insertionSort (fun a b => codePointLe a.1 b.1)
        (fun a b => codePointLe a.1 b.1)
        (fun field => (field.1, writeMember (field.1, contentOf float field.2)))
        (sortFields fields) (fun _ _ _ _ => Iff.rfl)
      rw [dumpsWith, sortKeys, contentOf, Content.write, dumpsFields_eq_write fields, ← hsorted,
        List.map_map, writeFields_eq_map, contentFields_eq_map, List.map_map]
      rfl

theorem dumpsItems_eq_write : (items : List Json) →
    dumpsItems float items = writeItems (contentItems float (sortItems items))
  | [] => rfl
  | item :: items => by
      rw [dumpsItems, sortItems, contentItems, writeItems, dumps_eq_write item,
        dumpsItems_eq_write items]

theorem dumpsFields_eq_write : (fields : List (Str × Json)) →
    dumpsFields float fields = (sortFields fields).map fun field =>
      (field.1, writeMember (field.1, contentOf float field.2))
  | [] => rfl
  | (key, item) :: fields => by
      rw [dumpsFields, sortFields, List.map_cons, dumps_eq_write item,
        dumpsFields_eq_write fields]
      rfl

end

end Dumps

mutual

/-- Whether a value is supported does not depend on the path it is reported under. -/
theorem supported_at (path other : Str) : (value : Json) →
    assertSupported path value = .ok () → assertSupported other value = .ok ()
  | .null, _ => rfl
  | .bool _, _ => rfl
  | .int _, _ => rfl
  | .float _, h => by cases h
  | .str _, _ => rfl
  | .arr items, h => by
      rw [assertSupported]
      exact supportedItems_at path other 0 0 items h
  | .obj fields, h => by
      rw [assertSupported]
      exact supportedFields_at path other fields h

theorem supportedItems_at (path other : Str) (index otherIndex : Nat) : (items : List Json) →
    assertItems path index items = .ok () → assertItems other otherIndex items = .ok ()
  | [], _ => rfl
  | item :: items, h => by
      rw [assertItems, bind_eq_ok] at h ⊢
      obtain ⟨u, hitem, hitems⟩ := h
      exact ⟨u, supported_at _ _ item hitem,
        supportedItems_at path other (index + 1) (otherIndex + 1) items hitems⟩

theorem supportedFields_at (path other : Str) : (fields : List (Str × Json)) →
    assertFields path fields = .ok () → assertFields other fields = .ok ()
  | [], _ => rfl
  | (key, item) :: fields, h => by
      rw [assertFields, bind_eq_ok] at h ⊢
      obtain ⟨u, hitem, hfields⟩ := h
      exact ⟨u, supported_at _ _ item hitem, supportedFields_at path other fields hfields⟩

end

/-! ## Reading text back -/

/-- A structuring character ends what stands before the text. -/
def Delimited (rest : Str) : Prop := ∀ c ∈ rest.head?, isStructural c = true

theorem delimited_nil : Delimited [] := nofun

theorem delimited_cons {c : Char} (hc : isStructural c = true) (rest : Str) :
    Delimited (c :: rest) := by
  intro d hd
  obtain rfl := Option.some.inj hd
  exact hc

/-- The text written for `a` and what follows it can be told from any other. -/
def Readable {α : Type} (text : α → Str) (a : α) : Prop :=
  ∀ ⦃other : α⦄ ⦃rest rest' : Str⦄, Delimited rest → Delimited rest' →
    text a ++ rest = text other ++ rest' → a = other ∧ rest = rest'

theorem takeWhile_literal (text : Literal) {rest : Str} (hrest : Delimited rest) :
    (text.val ++ rest).takeWhile (isStructural · = false) = text.val := by
  have hnone : rest.takeWhile (isStructural · = false) = [] := by
    cases rest with
    | nil => rfl
    | cons c rest => exact List.takeWhile_cons_of_neg (by simp [hrest c rfl])
  rw [List.takeWhile_append_of_pos (fun c hc => decide_eq_true (text.property.2 c hc)), hnone,
    List.append_nil]

theorem readable_literal (text : Literal) : Readable Subtype.val text := by
  intro other rest rest' hrest hrest' h
  have htext := congrArg (List.takeWhile (isStructural · = false)) h
  rw [takeWhile_literal text hrest, takeWhile_literal other hrest'] at htext
  obtain rfl := Subtype.ext htext
  exact ⟨rfl, List.append_cancel_left h⟩

theorem readable_quote (s : Str) : Readable quote s := by
  intro other rest rest' _ _ h
  have hread := congrArg readString h
  rw [readString_quote, readString_quote, Option.some.injEq, Prod.mk.injEq] at hread
  exact hread

/-! ## Lists of values and members -/

section Joined

variable {α : Type} {text : α → Str} {close : Char}

/-- What follows the first item of a list. -/
def following (text : α → Str) (close : Char) (items : List α) (rest : Str) : Str :=
  match items with
  | [] => close :: rest
  | item :: items => ',' :: (joinComma ((item :: items).map text) ++ close :: rest)

theorem joinComma_cons_append (a : α) (items : List α) (rest : Str) :
    joinComma ((a :: items).map text) ++ close :: rest =
      text a ++ following text close items rest := by
  cases items with
  | nil => rfl
  | cons b items => simp [following, joinComma]

theorem delimited_following (hclose : isStructural close = true) (items : List α) (rest : Str) :
    Delimited (following text close items rest) := by
  cases items with
  | nil => exact delimited_cons hclose rest
  | cons b items => exact delimited_cons (by decide) _

theorem cons_ne_joinComma (hopen : ∀ a, ∃ c tail, text a = c :: tail ∧ c ≠ close) (a : α)
    (items : List α) (rest rest' : Str) :
    close :: rest ≠ joinComma ((a :: items).map text) ++ close :: rest' := by
  obtain ⟨c, tail, htext, hc⟩ := hopen a
  rw [joinComma_cons_append, htext]
  intro h
  exact hc (List.cons.inj h).1.symm

/-- A list of readable items is readable up to its closing bracket. -/
theorem joinComma_inj (hclose : isStructural close = true) (hcomma : close ≠ ',')
    (hopen : ∀ a, ∃ c tail, text a = c :: tail ∧ c ≠ close) {items others : List α}
    (hitems : ∀ a ∈ items, Readable text a) {rest rest' : Str}
    (h : joinComma (items.map text) ++ close :: rest =
      joinComma (others.map text) ++ close :: rest') : items = others ∧ rest = rest' := by
  induction items generalizing others with
  | nil =>
    cases others with
    | nil => exact ⟨rfl, (List.cons.inj h).2⟩
    | cons b others => exact absurd h (cons_ne_joinComma hopen b others rest rest')
  | cons a items ih =>
    cases others with
    | nil => exact absurd h.symm (cons_ne_joinComma hopen a items rest' rest)
    | cons b others =>
      rw [joinComma_cons_append, joinComma_cons_append] at h
      obtain ⟨rfl, htail⟩ := hitems a List.mem_cons_self
        (delimited_following hclose items rest) (delimited_following hclose others rest') h
      have hrest : items = others ∧ rest = rest' := by
        rcases items with _ | ⟨c, items⟩ <;> rcases others with _ | ⟨d, others⟩
        · exact ⟨rfl, (List.cons.inj htail).2⟩
        · exact absurd (List.cons.inj htail).1 hcomma
        · exact absurd (List.cons.inj htail).1.symm hcomma
        · exact ih (fun x hx => hitems x (List.mem_cons_of_mem a hx)) (List.cons.inj htail).2
      exact ⟨by rw [hrest.1], hrest.2⟩

end Joined

/-! ## Texts -/

/-- The form of a text, which its first character gives away. -/
inductive Form
  | literal
  | text
  | items
  | members
  deriving DecidableEq

def formOf : Content → Form
  | .literal _ => .literal
  | .text _ => .text
  | .items _ => .items
  | .members _ => .members

def formOfChar (c : Char) : Option Form :=
  if isStructural c = false then some .literal
  else if c = '"' then some .text
  else if c = '[' then some .items
  else if c = '\x7b' then some .members
  else none

theorem head_write (content : Content) :
    ∃ c tail, content.write = c :: tail ∧ formOfChar c = some (formOf content) := by
  cases content with
  | literal text =>
    obtain ⟨c, tail, htext⟩ := List.exists_cons_of_ne_nil text.property.1
    refine ⟨c, tail, htext, if_pos (text.property.2 c ?_)⟩
    rw [htext]
    exact List.mem_cons_self
  | text value => exact ⟨'"', _, rfl, rfl⟩
  | items contents => exact ⟨'[', _, rfl, rfl⟩
  | members fields => exact ⟨'\x7b', _, rfl, rfl⟩

theorem formOf_eq {content other : Content} {rest rest' : Str}
    (h : content.write ++ rest = other.write ++ rest') : formOf content = formOf other := by
  obtain ⟨c, tail, hcontent, hform⟩ := head_write content
  obtain ⟨c', tail', hother, hform'⟩ := head_write other
  rw [hcontent, hother] at h
  rw [(List.cons.inj h).1, hform', Option.some.injEq] at hform
  exact hform.symm

theorem readable_member {field : Str × Content} (hvalue : Readable Content.write field.2) :
    Readable writeMember field := by
  intro other rest rest' hrest hrest' h
  rw [writeMember, writeMember, List.append_assoc, List.append_assoc] at h
  obtain ⟨hkey, htail⟩ := readable_quote field.1 (delimited_cons (by decide) _)
    (delimited_cons (by decide) _) h
  obtain ⟨hitem, hafter⟩ := hvalue hrest hrest' (List.cons.inj htail).2
  exact ⟨Prod.ext hkey hitem, hafter⟩

mutual

theorem readable_write : (content : Content) → Readable Content.write content
  | .literal text => by
      intro other rest rest' hrest hrest' h
      have hform := formOf_eq h
      cases other with
      | literal text' =>
        obtain ⟨rfl, htail⟩ := readable_literal text hrest hrest' h
        exact ⟨rfl, htail⟩
      | _ => cases hform
  | .text value => by
      intro other rest rest' hrest hrest' h
      have hform := formOf_eq h
      cases other with
      | text value' =>
        obtain ⟨rfl, htail⟩ := readable_quote value hrest hrest' h
        exact ⟨rfl, htail⟩
      | _ => cases hform
  | .items contents => by
      intro other rest rest' _ _ h
      have hform := formOf_eq h
      cases other with
      | items others =>
        have hopen : ∀ content : Content, ∃ c tail, content.write = c :: tail ∧ c ≠ ']' := by
          intro content
          obtain ⟨c, tail, hwrite, hopening⟩ := head_write content
          refine ⟨c, tail, hwrite, ?_⟩
          rintro rfl
          cases hopening
        rw [Content.write, Content.write, writeItems_eq_map, writeItems_eq_map,
          List.append_assoc, List.append_assoc] at h
        obtain ⟨rfl, htail⟩ := joinComma_inj (by decide) (by decide) hopen
          (readable_items contents) (List.cons.inj h).2
        exact ⟨rfl, htail⟩
      | _ => cases hform
  | .members fields => by
      intro other rest rest' _ _ h
      have hform := formOf_eq h
      cases other with
      | members others =>
        rw [Content.write, Content.write, writeFields_eq_map, writeFields_eq_map,
          List.append_assoc, List.append_assoc] at h
        obtain ⟨rfl, htail⟩ := joinComma_inj (by decide) (by decide)
          (fun field => ⟨'"', _, rfl, by decide⟩) (readable_fields fields)
          (List.cons.inj h).2
        exact ⟨rfl, htail⟩
      | _ => cases hform

theorem readable_items : (contents : List Content) →
    ∀ content ∈ contents, Readable Content.write content
  | [] => by
      intro content h
      cases h
  | content :: contents => by
      intro found h
      rcases List.mem_cons.mp h with heq | hrest
      · rw [heq]
        exact readable_write content
      · exact readable_items contents found hrest

theorem readable_fields : (fields : List (Str × Content)) →
    ∀ field ∈ fields, Readable writeMember field
  | [] => by
      intro field h
      cases h
  | (key, content) :: fields => by
      intro found h
      rcases List.mem_cons.mp h with heq | hrest
      · rw [heq]
        exact readable_member (readable_write content)
      · exact readable_fields fields found hrest

end

theorem Content.write_injective : Function.Injective Content.write := by
  intro content other h
  exact (readable_write content delimited_nil delimited_nil (congrArg (· ++ []) h)).1

/-! ## Values -/

/-- The value of a literal, whose first character gives its kind away. -/
def readLiteral : Str → Json
  | 'n' :: _ => .null
  | 't' :: _ => .bool true
  | 'f' :: _ => .bool false
  | 'd' :: digits => .float (UInt64.ofNat (Nat.ofDigitChars 10 digits 0))
  | '-' :: digits => .int (-(Nat.ofDigitChars 10 digits 0 : Int))
  | digits => .int (Nat.ofDigitChars 10 digits 0)

mutual

def valueOf : Content → Json
  | .literal text => readLiteral text.val
  | .text value => .str value
  | .items contents => .arr (valueItems contents)
  | .members fields => .obj (valueFields fields)

def valueItems : List Content → List Json
  | [] => []
  | content :: contents => valueOf content :: valueItems contents

def valueFields : List (Str × Content) → List (Str × Json)
  | [] => []
  | (key, content) :: fields => (key, valueOf content) :: valueFields fields

end

theorem readLiteral_toDigits (n : Nat) : readLiteral (Nat.toDigits 10 n) = .int n := by
  have hvalue := Nat.ofDigitChars_ten_toDigits (n := n)
  have hdigit : ∀ c ∈ Nat.toDigits 10 n, c.isDigit = true :=
    fun _ => Nat.isDigit_of_mem_toDigits (by decide) (by decide)
  unfold readLiteral
  split
  case h_6 => rw [hvalue]
  all_goals
    rename_i hdigits
    rw [hdigits] at hdigit
    exact absurd (hdigit _ List.mem_cons_self) (by decide)

theorem readLiteral_intText (n : Int) : readLiteral (intText n) = .int n := by
  unfold intText
  split_ifs with hnegative
  · rw [readLiteral, Nat.ofDigitChars_ten_toDigits, Json.int.injEq]
    omega
  · rw [readLiteral_toDigits, Json.int.injEq]
    omega

theorem readLiteral_floatBits (bits : UInt64) : readLiteral (floatBits bits) = .float bits := by
  simp [readLiteral, floatBits]

mutual

theorem valueOf_contentOf : (value : Json) → valueOf (contentOf floatBits value) = value
  | .null => rfl
  | .bool true => rfl
  | .bool false => rfl
  | .int n => readLiteral_intText n
  | .float bits => readLiteral_floatBits bits
  | .str _ => rfl
  | .arr items => by rw [contentOf, valueOf, valueItems_contentItems items]
  | .obj fields => by rw [contentOf, valueOf, valueFields_contentFields fields]

theorem valueItems_contentItems : (items : List Json) →
    valueItems (contentItems floatBits items) = items
  | [] => rfl
  | item :: items => by
      rw [contentItems, valueItems, valueOf_contentOf item, valueItems_contentItems items]

theorem valueFields_contentFields : (fields : List (Str × Json)) →
    valueFields (contentFields floatBits fields) = fields
  | [] => rfl
  | (key, item) :: fields => by
      rw [contentFields, valueFields, valueOf_contentOf item, valueFields_contentFields fields]

end

theorem write_injective : Function.Injective write :=
  Content.write_injective.comp (Function.LeftInverse.injective valueOf_contentOf)

/-! ## Canonical bytes -/

theorem utf8_injective : Function.Injective utf8 := by
  intro s t h
  have hencoded : s.utf8Encode = t.utf8Encode := congrArg List.toByteArray h
  have hdecoded := congrArg ByteArray.utf8Decode? hencoded
  rw [List.utf8Decode?_utf8Encode, List.utf8Decode?_utf8Encode, Option.some.injEq] at hdecoded
  simpa using hdecoded

/-- The bytes of two values are the same exactly when the values are, up to the order of
members. -/
theorem utf8_dumps_eq_iff {value other : Json} :
    utf8 (dumps value) = utf8 (dumps other) ↔ sortKeys value = sortKeys other := by
  rw [utf8_injective.eq_iff, dumps, dumps, dumps_eq_write, dumps_eq_write]
  exact write_injective.eq_iff

/-- What RFC 8785 promises of the package: on values without floats, some of which it may
refuse, it writes the same text exactly when they are the same up to the order of
members. -/
def Rfc8785 (host : Host) : Prop :=
  ∀ {dumps}, host.rfc8785 = some dumps → ∀ {value other : Json},
    assertSupported ['$'] value = .ok () → assertSupported ['$'] other = .ok () →
      (∀ {text}, dumps value = some text → dumps other = some text →
        sortKeys value = sortKeys other) ∧
      (sortKeys value = sortKeys other → dumps value = dumps other)

section Host

variable {host : Host}

/-- The plain writer keeps the promise. -/
theorem rfc8785_utf8_dumps (h : host.rfc8785 = some fun value => some (utf8 (dumps value))) :
    Rfc8785 host := by
  intro package hpackage value other hvalue hother
  rw [h, Option.some.injEq] at hpackage
  subst hpackage
  refine ⟨?_, ?_⟩
  · intro text hwritten hwritten'
    rw [← utf8_dumps_eq_iff]
    exact Option.some.inj (hwritten.trans hwritten'.symm)
  · intro hsame
    rw [← utf8_dumps_eq_iff] at hsame
    exact congrArg some hsame

variable {value : Json}

theorem supported_of_canonicalJson {bytes : Bytes} (h : canonicalJson host value = .ok bytes) :
    assertSupported ['$'] value = .ok () := by
  rw [canonicalJson, bind_eq_ok] at h
  obtain ⟨_, hsupported, _⟩ := h
  exact hsupported

theorem sortKeys_eq_of_canonicalJson (hpackage : Rfc8785 host) {other : Json} {bytes : Bytes}
    (h : canonicalJson host value = .ok bytes) (h' : canonicalJson host other = .ok bytes) :
    sortKeys value = sortKeys other := by
  have hvalue := supported_of_canonicalJson h
  have hother := supported_of_canonicalJson h'
  rw [canonicalJson, hvalue] at h
  rw [canonicalJson, hother] at h'
  cases hhost : host.rfc8785 with
  | none =>
    rw [hhost] at h h'
    rw [← utf8_dumps_eq_iff]
    exact Except.ok.inj (h.trans h'.symm)
  | some package =>
    rw [hhost] at h h'
    exact (hpackage hhost hvalue hother).1 (orRaise_eq_ok.mp h) (orRaise_eq_ok.mp h')

theorem canonicalJson_congr (hpackage : Rfc8785 host) {other : Json}
    (hvalue : assertSupported ['$'] value = .ok ())
    (hother : assertSupported ['$'] other = .ok ()) (hsame : sortKeys value = sortKeys other) :
    canonicalJson host value = canonicalJson host other := by
  rw [canonicalJson, canonicalJson, hvalue, hother]
  cases hhost : host.rfc8785 with
  | none => rw [utf8_dumps_eq_iff.mpr hsame]
  | some package =>
    dsimp only
    rw [(hpackage hhost hvalue hother).2 hsame]

end Host

end AegisLedger.Gateway.CanonicalText
