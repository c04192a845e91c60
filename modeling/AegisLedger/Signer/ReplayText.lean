import AegisLedger.Signer.Replay

/-!
# Reading the replay file back

A reader of the text that `serde_json` writes for a replay state, and the proof that it
returns what was written.  It takes exactly that text: no blanks between tokens, members
in the order of the structure.  It shows that the written text determines the state,
which is what `ReadsBack` asks of `serde_json` itself.
-/

namespace AegisLedger.Signer.ReplayText

open AegisLedger.Support HexText
open AegisLedger.Gateway (escapeChar quote joinComma utf8)

/-! ## Strings -/

/-- One character of a string, after its opening quotation mark. -/
def readChar : Str → Option (Char × Str)
  | '\\' :: 'u' :: a :: b :: c :: d :: rest =>
    match hexValue a, hexValue b, hexValue c, hexValue d with
    | some a, some b, some c, some d =>
      some (Char.ofNat (16 * (16 * (16 * a + b) + c) + d), rest)
    | _, _, _, _ => none
  | '\\' :: 'n' :: rest => some ('\n', rest)
  | '\\' :: 'r' :: rest => some ('\r', rest)
  | '\\' :: 't' :: rest => some ('\t', rest)
  | '\\' :: 'b' :: rest => some (Char.ofNat 8, rest)
  | '\\' :: 'f' :: rest => some (Char.ofNat 12, rest)
  | '\\' :: c :: rest => some (c, rest)
  | c :: rest => some (c, rest)
  | [] => none

theorem readChar_control {n : Nat} (h : n < 32) (rest : Str) :
    readChar (escapeChar (Char.ofNat n) ++ rest) = some (Char.ofNat n, rest) := by
  interval_cases n <;> rfl

theorem readChar_cons_of_ne {c : Char} (h : c ≠ '\\') (rest : Str) :
    readChar (c :: rest) = some (c, rest) := by
  unfold readChar
  split <;> simp_all

/-- Above the control characters only the quotation mark and the backslash are escaped. -/
theorem escapeChar_cases {c : Char} (h : ¬c.toNat < 32) :
    c = '"' ∨ c = '\\' ∨ (c ≠ '"' ∧ c ≠ '\\' ∧ escapeChar c = [c]) := by
  by_cases hquote : c.toNat = 34
  · exact Or.inl (Char.toNat_inj.mp hquote)
  · by_cases hslash : c.toNat = 92
    · exact Or.inr (Or.inl (Char.toNat_inj.mp hslash))
    · refine Or.inr (Or.inr ⟨?_, ?_, ?_⟩)
      · rintro rfl
        exact hquote rfl
      · rintro rfl
        exact hslash rfl
      · rw [escapeChar, if_neg hquote, if_neg hslash, if_pos (by omega)]

theorem readChar_escapeChar (c : Char) (rest : Str) :
    readChar (escapeChar c ++ rest) = some (c, rest) := by
  by_cases hcontrol : c.toNat < 32
  · rw [← Char.ofNat_toNat c]
    exact readChar_control hcontrol rest
  · rcases escapeChar_cases hcontrol with rfl | rfl | ⟨_, hslash, hplain⟩
    · rfl
    · rfl
    · rw [hplain]
      exact readChar_cons_of_ne hslash rest

theorem head?_escapeChar_control {n : Nat} (h : n < 32) :
    (escapeChar (Char.ofNat n)).head? = some '\\' := by
  interval_cases n <;> rfl

theorem head?_escapeChar (c : Char) :
    ∃ first tail, escapeChar c = first :: tail ∧ first ≠ '"' := by
  by_cases hcontrol : c.toNat < 32
  · have hhead := head?_escapeChar_control hcontrol
    rw [Char.ofNat_toNat] at hhead
    obtain ⟨tail, htail⟩ := List.head?_eq_some_iff.mp hhead
    exact ⟨'\\', tail, htail, by decide⟩
  · rcases escapeChar_cases hcontrol with rfl | rfl | ⟨hquote, _, hplain⟩
    · exact ⟨'\\', ['"'], rfl, by decide⟩
    · exact ⟨'\\', ['\\'], rfl, by decide⟩
    · exact ⟨c, [], hplain, hquote⟩

/-- The rest of a string, up to its closing quotation mark.  A character takes at least
one place in the text, so its length is fuel enough. -/
def readBody : Nat → Str → Option (Str × Str)
  | 0, _ => none
  | fuel + 1, text =>
    if text.head? = some '"' then some ([], text.drop 1)
    else do
      let (c, rest) ← readChar text
      let (cs, rest) ← readBody fuel rest
      some (c :: cs, rest)

theorem readBody_flatMap (s rest : Str) {fuel : Nat} (hfuel : s.length < fuel) :
    readBody fuel (s.flatMap escapeChar ++ '"' :: rest) = some (s, rest) := by
  induction s generalizing fuel with
  | nil =>
    obtain ⟨n, rfl⟩ := Nat.exists_eq_succ_of_ne_zero (by omega : fuel ≠ 0)
    rfl
  | cons c s ih =>
    obtain ⟨n, rfl⟩ := Nat.exists_eq_succ_of_ne_zero (by omega : fuel ≠ 0)
    have hlength : s.length < n := by
      rw [List.length_cons] at hfuel
      omega
    obtain ⟨first, tail, hfirst, hne⟩ := head?_escapeChar c
    have hhead : ¬(escapeChar c ++ (s.flatMap escapeChar ++ '"' :: rest)).head? = some '"' := by
      rw [hfirst]
      simpa using hne
    rw [List.flatMap_cons, List.append_assoc, readBody, if_neg hhead,
      readChar_escapeChar]
    simp [ih hlength]

def readString (text : Str) : Option (Str × Str) :=
  if text.head? = some '"' then readBody text.length (text.drop 1) else none

theorem length_le_flatMap_escapeChar (s : Str) : s.length ≤ (s.flatMap escapeChar).length := by
  induction s with
  | nil => simp
  | cons c s ih =>
    obtain ⟨first, tail, hfirst, _⟩ := head?_escapeChar c
    rw [List.flatMap_cons, List.length_append, hfirst, List.length_cons, List.length_cons]
    omega

theorem readString_quote (s rest : Str) : readString (quote s ++ rest) = some (s, rest) := by
  have htext : quote s ++ rest = '"' :: (s.flatMap escapeChar ++ '"' :: rest) := by
    simp [quote]
  have hle := length_le_flatMap_escapeChar s
  rw [htext, readString]
  simp only [List.head?_cons, if_true, List.drop_succ_cons, List.drop_zero]
  apply readBody_flatMap
  simp only [List.length_cons, List.length_append]
  omega

/-! ## Numbers and literals -/

def skip (c : Char) : Str → Option Str
  | [] => none
  | d :: rest => if d = c then some rest else none

theorem skip_cons (c : Char) (rest : Str) : skip c (c :: rest) = some rest := if_pos rfl

def expect (token text : Str) : Option Str :=
  if text.take token.length = token then some (text.drop token.length) else none

theorem expect_append (token rest : Str) : expect token (token ++ rest) = some rest := by
  simp [expect]

def readU64 (text : Str) : UInt64 × Str :=
  (UInt64.ofNat (Nat.ofDigitChars 10 (text.takeWhile Char.isDigit) 0),
    text.dropWhile Char.isDigit)

theorem readU64_u64Text (n : UInt64) {c : Char} (hc : c.isDigit = false) (rest : Str) :
    readU64 (u64Text n ++ c :: rest) = (n, c :: rest) := by
  have hdigits : ∀ d ∈ u64Text n, d.isDigit = true :=
    fun d hd => Nat.isDigit_of_mem_toDigits (by decide) (by decide) hd
  rw [readU64, List.takeWhile_append_of_pos hdigits, List.dropWhile_append_of_pos hdigits,
    List.takeWhile_cons_of_neg (by simp [hc]), List.dropWhile_cons_of_neg (by simp [hc]),
    List.append_nil, u64Text, Nat.ofDigitChars_ten_toDigits, UInt64.ofNat_toNat]

/-! ## Lists -/

section Items

variable {α : Type} (item : Str → Option (α × Str))

/-- The items of a list that is not empty, up to its closing bracket. -/
def readItems : Nat → Str → Option (List α × Str)
  | 0, _ => none
  | fuel + 1, text => do
      let (a, rest) ← item text
      match rest with
      | ',' :: rest => do
          let (items, rest) ← readItems fuel rest
          some (a :: items, rest)
      | ']' :: rest => some ([a], rest)
      | _ => none

def readList (text : Str) : Option (List α × Str) :=
  if text.head? = some ']' then some ([], text.drop 1) else readItems item text.length text

variable {item} {write : α → Str}

theorem readItems_joinComma (hitem : ∀ a rest, item (write a ++ rest) = some (a, rest))
    (a : α) (items : List α) (rest : Str) {fuel : Nat} (hfuel : items.length < fuel) :
    readItems item fuel (joinComma ((a :: items).map write) ++ ']' :: rest) =
      some (a :: items, rest) := by
  induction items generalizing a fuel with
  | nil =>
    obtain ⟨n, rfl⟩ := Nat.exists_eq_succ_of_ne_zero (by omega : fuel ≠ 0)
    simp [readItems, joinComma, hitem]
  | cons b items ih =>
    obtain ⟨n, rfl⟩ := Nat.exists_eq_succ_of_ne_zero (by omega : fuel ≠ 0)
    have hlength : items.length < n := by
      rw [List.length_cons] at hfuel
      omega
    have htext : joinComma ((a :: b :: items).map write) ++ ']' :: rest =
        write a ++ ',' :: (joinComma ((b :: items).map write) ++ ']' :: rest) := by
      simp [joinComma]
    rw [htext, readItems, hitem]
    simp only [Option.bind_eq_bind, Option.bind_some, ih b hlength]

theorem length_le_joinComma (items : List Str) (h : ∀ s ∈ items, s ≠ []) :
    items.length ≤ (joinComma items).length := by
  induction items with
  | nil => simp
  | cons s items ih =>
    have hs : 0 < s.length := List.length_pos_iff.mpr (h s (by simp))
    have htail := ih fun t ht => h t (List.mem_cons_of_mem s ht)
    cases items with
    | nil =>
      rw [joinComma, List.length_singleton]
      exact hs
    | cons t items =>
      simp only [joinComma, List.length_append, List.length_cons] at htail ⊢
      omega

theorem readList_joinComma (hitem : ∀ a rest, item (write a ++ rest) = some (a, rest))
    (hwrite : ∀ a, ∃ first tail, write a = first :: tail ∧ first ≠ ']')
    (items : List α) (rest : Str) :
    readList item (joinComma (items.map write) ++ ']' :: rest) = some (items, rest) := by
  cases items with
  | nil => rfl
  | cons a items =>
    obtain ⟨first, tail, hfirst, hne⟩ := hwrite a
    have hhead : ¬(joinComma ((a :: items).map write) ++ ']' :: rest).head? = some ']' := by
      cases items with
      | nil => simpa [joinComma, hfirst] using hne
      | cons b items => simpa [joinComma, hfirst] using hne
    have hlength : (a :: items).length ≤ (joinComma ((a :: items).map write)).length := by
      rw [← List.length_map write]
      apply length_le_joinComma
      intro s hs
      obtain ⟨b, _, rfl⟩ := List.mem_map.mp hs
      obtain ⟨_, _, hb, _⟩ := hwrite b
      rw [hb]
      simp
    rw [readList, if_neg hhead]
    apply readItems_joinComma hitem
    rw [List.length_append, List.length_cons]
    rw [List.length_cons] at hlength
    omega

end Items

/-! ## The file -/

def readWalletNonce (text : Str) : Option (PersistedWalletNonce × Str) := do
  let rest ← expect "\"wallet\":".toList (← skip '{' text)
  let (wallet, rest) ← readString rest
  let rest ← expect "\"chain_id\":".toList (← skip ',' rest)
  let (chainId, rest) := readU64 rest
  let rest ← expect "\"next_nonce\":".toList (← skip ',' rest)
  let (nextNonce, rest) := readU64 rest
  let rest ← skip '}' rest
  some (⟨wallet, chainId, nextNonce⟩, rest)

theorem readWalletNonce_text (entry : PersistedWalletNonce) (rest : Str) :
    readWalletNonce (walletNonceText entry ++ rest) = some (entry, rest) := by
  have hchain (tail : Str) : readU64 (u64Text entry.chainId ++ ',' :: tail) =
      (entry.chainId, ',' :: tail) := readU64_u64Text _ (by decide) _
  have hnext (tail : Str) : readU64 (u64Text entry.nextNonce ++ '}' :: tail) =
      (entry.nextNonce, '}' :: tail) := readU64_u64Text _ (by decide) _
  simp only [readWalletNonce, walletNonceText, List.append_assoc, List.cons_append,
    List.nil_append, skip_cons, expect_append, readString_quote, hchain, hnext,
    Option.bind_eq_bind, Option.bind_some]

def readText (text : Str) : Option PersistedReplayState := do
  let rest ← expect "\"schema_version\":".toList (← skip '{' text)
  let (schemaVersion, rest) ← readString rest
  let rest ← expect "\"used_decisions\":[".toList (← skip ',' rest)
  let (usedDecisions, rest) ← readList readString rest
  let rest ← expect "\"wallet_nonces\":[".toList (← skip ',' rest)
  let (walletNonces, rest) ← readList readWalletNonce rest
  if rest = ['}', '\n'] then some ⟨schemaVersion, usedDecisions, walletNonces⟩ else none

theorem readText_text (p : PersistedReplayState) : readText (p.text ++ ['\n']) = some p := by
  have hused (tail : Str) : readList readString
      (joinComma (p.usedDecisions.map quote) ++ ']' :: tail) = some (p.usedDecisions, tail) :=
    readList_joinComma readString_quote (fun _ => ⟨'"', _, rfl, by decide⟩) _ _
  have hnonces (tail : Str) : readList readWalletNonce
      (joinComma (p.walletNonces.map walletNonceText) ++ ']' :: tail) =
        some (p.walletNonces, tail) :=
    readList_joinComma readWalletNonce_text (fun _ => ⟨'{', _, rfl, by decide⟩) _ _
  simp only [readText, PersistedReplayState.text, List.append_assoc, List.cons_append,
    List.nil_append, skip_cons, expect_append, readString_quote, hused, hnonces,
    Option.bind_eq_bind, Option.bind_some, if_true]

/-- The reader on bytes. -/
def readReplay (contents : Bytes) : Option PersistedReplayState := do
  let text ← contents.toByteArray.utf8Decode?
  readText text.toList

theorem readsBack_readReplay : ReadsBack readReplay := by
  intro p
  have hbytes : p.fileBytes.toByteArray = (p.text ++ ['\n']).utf8Encode := by
    rw [PersistedReplayState.fileBytes, utf8, List.utf8Encode, List.flatMap_append]
    rfl
  rw [readReplay, hbytes, List.utf8Decode?_utf8Encode]
  exact readText_text p

end AegisLedger.Signer.ReplayText
