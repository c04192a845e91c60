import AegisLedger.Gateway.Proofs.CanonicalText
import AegisLedger.Wallet.Payments

/-!
# What a digest determines

The wallet signs canonical text: the requirements of a payment as they are, a transaction by
its hash.  In that text every character outside printable ASCII is written as one or two
`\u` escapes.  These are told from the escapes of the plain writer, so the text determines
the value up to the order of members.
-/

namespace AegisLedger.Wallet.Digests

open AegisLedger.Support HexText
open AegisLedger.Gateway
open AegisLedger.Gateway.CanonicalText

/-! ## The text of the plain writer -/

/-- Text in which a backslash stands only where the writer puts it. -/
inductive Escaped : Str → Prop
  | nil : Escaped []
  | char {c : Char} {rest : Str} (hc : c ≠ '\\') (h : Escaped rest) : Escaped (c :: rest)
  | short {c : Char} {rest : Str} (hc : c ≠ 'u') (hascii : c.toNat ≤ 126) (h : Escaped rest) :
      Escaped ('\\' :: c :: rest)
  | control {n : Nat} {rest : Str} (hn : n < 32) (h : Escaped rest) :
      Escaped ('\\' :: 'u' :: (lowHexDigits 4 n ++ rest))

variable {s : Str}

theorem Escaped.append {t : Str} (hs : Escaped s) (ht : Escaped t) : Escaped (s ++ t) := by
  induction hs with
  | nil => exact ht
  | char hc _ ih => exact .char hc ih
  | short hc hascii _ ih => exact .short hc hascii ih
  | control hn _ ih =>
    rw [List.cons_append, List.cons_append, List.append_assoc]
    exact .control hn ih

theorem escaped_of_forall (h : ∀ c ∈ s, c ≠ '\\') : Escaped s := by
  induction s with
  | nil => exact .nil
  | cons c s ih =>
    rw [List.forall_mem_cons] at h
    exact .char h.1 (ih h.2)

theorem escaped_escapeChar (c : Char) : Escaped (escapeChar c) := by
  unfold escapeChar
  split_ifs with h34 h92 h32 h10 h13 h9 h8 h12
  · exact .short (by decide) (by decide) .nil
  · exact .short (by decide) (by decide) .nil
  · refine .char ?_ .nil
    rintro rfl
    exact h92 rfl
  · exact .short (by decide) (by decide) .nil
  · exact .short (by decide) (by decide) .nil
  · exact .short (by decide) (by decide) .nil
  · exact .short (by decide) (by decide) .nil
  · exact .short (by decide) (by decide) .nil
  · rw [← List.append_nil (lowHexDigits 4 c.toNat)]
    exact .control (by omega) .nil

theorem escaped_quote (s : Str) : Escaped (quote s) := by
  have hbody : Escaped (s.flatMap escapeChar) := by
    induction s with
    | nil => exact .nil
    | cons c s ih =>
      rw [List.flatMap_cons]
      exact (escaped_escapeChar c).append ih
  exact .char (by decide) (hbody.append (.char (by decide) .nil))

theorem escaped_joinComma {texts : List Str} (h : ∀ text ∈ texts, Escaped text) :
    Escaped (joinComma texts) := by
  induction texts with
  | nil => exact .nil
  | cons text texts ih =>
    rw [List.forall_mem_cons] at h
    cases texts with
    | nil => exact h.1
    | cons next texts => exact h.1.append (.char (by decide) (ih h.2))

mutual

theorem escaped_write : (content : Content) → Escaped content.write
  | .literal text => by
      refine escaped_of_forall ?_
      rintro c hc rfl
      exact absurd (text.property.2 _ hc) (by decide)
  | .text value => escaped_quote value
  | .items contents => .char (by decide)
      ((escaped_joinComma (escaped_writeItems contents)).append (.char (by decide) .nil))
  | .members fields => .char (by decide)
      ((escaped_joinComma (escaped_writeFields fields)).append (.char (by decide) .nil))

theorem escaped_writeItems : (contents : List Content) →
    ∀ text ∈ writeItems contents, Escaped text
  | [] => by
      intro text htext
      cases htext
  | content :: contents => by
      intro text htext
      rcases List.mem_cons.mp htext with rfl | htext
      · exact escaped_write content
      · exact escaped_writeItems contents text htext

theorem escaped_writeFields : (fields : List (Str × Content)) →
    ∀ text ∈ writeFields fields, Escaped text
  | [] => by
      intro text htext
      cases htext
  | (key, content) :: fields => by
      intro text htext
      rcases List.mem_cons.mp htext with rfl | htext
      · exact (escaped_quote key).append (.char (by decide) (escaped_write content))
      · exact escaped_writeFields fields text htext

end

/-! ## The escapes of other characters -/

theorem toNat_lt_or_lt (c : Char) : c.toNat < 0xD800 ∨ 0xDFFF < c.toNat ∧ c.toNat < 0x110000 :=
  c.valid

variable {c : Char}

theorem escapeNonAscii_of_le (h : c.toNat ≤ 126) : escapeNonAscii c = [c] := if_pos h

theorem flatMap_escapeNonAscii_of_ascii (h : ∀ c ∈ s, c.toNat ≤ 126) :
    s.flatMap escapeNonAscii = s := by
  induction s with
  | nil => rfl
  | cons c s ih =>
    rw [List.forall_mem_cons] at h
    rw [List.flatMap_cons, escapeNonAscii_of_le h.1, ih h.2]
    rfl

theorem ascii_lowHexDigits (count n : Nat) : ∀ c ∈ lowHexDigits count n, c.toNat ≤ 126 := by
  intro c hc
  obtain ⟨i, _, rfl⟩ := List.mem_map.mp hc
  have hdigit : n / 16 ^ i % 16 < 16 := Nat.mod_lt _ (by decide)
  generalize n / 16 ^ i % 16 = digit at hdigit
  interval_cases digit <;> decide

/-- A character is written as it is, as one escape or as a surrogate pair. -/
theorem escapeNonAscii_cases (c : Char) :
    c.toNat ≤ 126 ∧ escapeNonAscii c = [c] ∨
      (126 < c.toNat ∧ c.toNat < 0x10000 ∧
        escapeNonAscii c = '\\' :: 'u' :: lowHexDigits 4 c.toNat) ∨
      0x10000 ≤ c.toNat ∧ escapeNonAscii c =
        '\\' :: 'u' :: (lowHexDigits 4 (0xD800 + (c.toNat - 0x10000) / 1024) ++
          '\\' :: 'u' :: lowHexDigits 4 (0xDC00 + (c.toNat - 0x10000) % 1024)) := by
  unfold escapeNonAscii
  split_ifs with hascii hplane
  · exact .inl ⟨hascii, rfl⟩
  · exact .inr (.inl ⟨by omega, hplane, rfl⟩)
  · exact .inr (.inr ⟨by omega, rfl⟩)

/-- An escaped character starts with an escape that the plain writer does not use. -/
theorem head_escapeNonAscii (c : Char) :
    (∃ tail, escapeNonAscii c = c :: tail) ∨
      ∃ n tail, 126 < n ∧ n < 0x10000 ∧
        escapeNonAscii c = '\\' :: 'u' :: (lowHexDigits 4 n ++ tail) := by
  have hvalid := toNat_lt_or_lt c
  rcases escapeNonAscii_cases c with ⟨_, h⟩ | ⟨hlow, hhigh, h⟩ | ⟨hlow, h⟩
  · exact .inl ⟨[], h⟩
  · exact .inr ⟨c.toNat, [], hlow, hhigh, by rw [h, List.append_nil]⟩
  · exact .inr ⟨_, _, by omega, by omega, h⟩

variable {xs ys : Str}

theorem lowHexDigits_four_inj {n m : Nat} (hn : n < 0x10000) (hm : m < 0x10000)
    (h : lowHexDigits 4 n ++ xs = lowHexDigits 4 m ++ ys) : n = m ∧ xs = ys := by
  obtain ⟨hmod, hrest⟩ := lowHexDigits_append_inj h
  exact ⟨by omega, hrest⟩

theorem escapeNonAscii_append_inj {d : Char} (hc : c ≠ '\\') (hd : d ≠ '\\')
    (h : escapeNonAscii c ++ xs = escapeNonAscii d ++ ys) : c = d ∧ xs = ys := by
  have hvalidC := toNat_lt_or_lt c
  have hvalidD := toNat_lt_or_lt d
  rcases escapeNonAscii_cases c with ⟨_, hc'⟩ | ⟨hlow, hhigh, hc'⟩ | ⟨hlow, hc'⟩
  · rcases escapeNonAscii_cases d with ⟨_, hd'⟩ | ⟨_, _, hd'⟩ | ⟨_, hd'⟩
    · rw [hc', hd'] at h
      exact ⟨(List.cons.inj h).1, (List.cons.inj h).2⟩
    · rw [hc', hd'] at h
      exact absurd (List.cons.inj h).1 hc
    · rw [hc', hd'] at h
      exact absurd (List.cons.inj h).1 hc
  · rcases escapeNonAscii_cases d with ⟨_, hd'⟩ | ⟨_, hhigh', hd'⟩ | ⟨hlow', hd'⟩
    · rw [hc', hd'] at h
      exact absurd (List.cons.inj h).1.symm hd
    · rw [hc', hd'] at h
      obtain ⟨hsame, hrest⟩ :=
        lowHexDigits_four_inj hhigh hhigh' (List.cons.inj (List.cons.inj h).2).2
      exact ⟨Char.toNat_inj.mp hsame, hrest⟩
    · rw [hc', hd', List.cons_append, List.cons_append, List.cons_append, List.cons_append,
        List.append_assoc] at h
      obtain ⟨hsame, _⟩ :=
        lowHexDigits_four_inj hhigh (by omega) (List.cons.inj (List.cons.inj h).2).2
      omega
  · rcases escapeNonAscii_cases d with ⟨_, hd'⟩ | ⟨_, hhigh', hd'⟩ | ⟨hlow', hd'⟩
    · rw [hc', hd'] at h
      exact absurd (List.cons.inj h).1.symm hd
    · rw [hc', hd', List.cons_append, List.cons_append, List.cons_append, List.cons_append,
        List.append_assoc] at h
      obtain ⟨hsame, _⟩ :=
        lowHexDigits_four_inj (by omega) hhigh' (List.cons.inj (List.cons.inj h).2).2
      omega
    · rw [hc', hd'] at h
      simp only [List.cons_append, List.append_assoc, List.cons.injEq, true_and] at h
      obtain ⟨hfirst, h⟩ := lowHexDigits_four_inj (by omega) (by omega) h
      simp only [List.cons.injEq, true_and] at h
      obtain ⟨hsecond, hrest⟩ := lowHexDigits_four_inj (by omega) (by omega) h
      exact ⟨Char.toNat_inj.mp (by omega), hrest⟩

/-- No escape of the plain writer starts like another character. -/
theorem short_ne_escapeNonAscii {d : Char} (hc : c ≠ '\\') (hd : d ≠ 'u') :
    escapeNonAscii c ++ xs ≠ '\\' :: d :: ys := by
  intro h
  rcases head_escapeNonAscii c with ⟨tail, hhead⟩ | ⟨n, tail, _, _, hhead⟩
  · rw [hhead] at h
    exact hc (List.cons.inj h).1
  · rw [hhead] at h
    exact hd (List.cons.inj (List.cons.inj h).2).1.symm

theorem control_ne_escapeNonAscii {n : Nat} (hc : c ≠ '\\') (hn : n < 32) :
    escapeNonAscii c ++ xs ≠ '\\' :: 'u' :: (lowHexDigits 4 n ++ ys) := by
  intro h
  rcases head_escapeNonAscii c with ⟨tail, hhead⟩ | ⟨m, tail, hlow, hhigh, hhead⟩
  · rw [hhead] at h
    exact hc (List.cons.inj h).1
  · rw [hhead, List.cons_append, List.cons_append, List.append_assoc] at h
    obtain ⟨hsame, _⟩ :=
      lowHexDigits_four_inj hhigh (by omega) (List.cons.inj (List.cons.inj h).2).2
    omega

theorem eq_nil_of_flatMap_eq_nil (h : s.flatMap escapeNonAscii = []) : s = [] := by
  cases s with
  | nil => rfl
  | cons c s =>
    rw [List.flatMap_cons, List.append_eq_nil_iff] at h
    rcases head_escapeNonAscii c with ⟨tail, hhead⟩ | ⟨n, tail, _, _, hhead⟩
    · rw [hhead] at h
      cases h.1
    · rw [hhead] at h
      cases h.1

theorem flatMap_short (hascii : c.toNat ≤ 126) (rest : Str) :
    ('\\' :: c :: rest).flatMap escapeNonAscii = '\\' :: c :: rest.flatMap escapeNonAscii := by
  rw [List.flatMap_cons, List.flatMap_cons, escapeNonAscii_of_le hascii]
  rfl

theorem flatMap_control (n : Nat) (rest : Str) :
    ('\\' :: 'u' :: (lowHexDigits 4 n ++ rest)).flatMap escapeNonAscii =
      '\\' :: 'u' :: (lowHexDigits 4 n ++ rest.flatMap escapeNonAscii) := by
  rw [flatMap_short (by decide), List.flatMap_append,
    flatMap_escapeNonAscii_of_ascii (ascii_lowHexDigits 4 n)]

theorem escaped_flatMap_inj {t : Str} (hs : Escaped s) (ht : Escaped t)
    (h : s.flatMap escapeNonAscii = t.flatMap escapeNonAscii) : s = t := by
  induction hs generalizing t with
  | nil => exact (eq_nil_of_flatMap_eq_nil h.symm).symm
  | char hc _ ih =>
    cases ht with
    | nil => exact eq_nil_of_flatMap_eq_nil h
    | char hd hrest =>
      rw [List.flatMap_cons, List.flatMap_cons] at h
      obtain ⟨rfl, htail⟩ := escapeNonAscii_append_inj hc hd h
      rw [ih hrest htail]
    | short hd hascii _ =>
      rw [List.flatMap_cons, flatMap_short hascii] at h
      exact absurd h (short_ne_escapeNonAscii hc hd)
    | control hn _ =>
      rw [List.flatMap_cons, flatMap_control] at h
      exact absurd h (control_ne_escapeNonAscii hc hn)
  | short hc hascii _ ih =>
    rw [flatMap_short hascii] at h
    cases ht with
    | nil => cases h
    | char hd _ =>
      rw [List.flatMap_cons] at h
      exact absurd h.symm (short_ne_escapeNonAscii hd hc)
    | short hd hascii' hrest =>
      rw [flatMap_short hascii', List.cons.injEq, List.cons.injEq] at h
      obtain ⟨_, rfl, h⟩ := h
      rw [ih hrest h]
    | control hn _ =>
      rw [flatMap_control] at h
      exact absurd (List.cons.inj (List.cons.inj h).2).1 hc
  | control hn _ ih =>
    rw [flatMap_control] at h
    cases ht with
    | nil => cases h
    | char hd _ =>
      rw [List.flatMap_cons] at h
      exact absurd h.symm (control_ne_escapeNonAscii hd hn)
    | short hd hascii _ =>
      rw [flatMap_short hascii] at h
      exact absurd (List.cons.inj (List.cons.inj h).2).1.symm hd
    | control hm hrest =>
      rw [flatMap_control, List.cons.injEq, List.cons.injEq] at h
      obtain ⟨rfl, htail⟩ := lowHexDigits_four_inj (by omega) (by omega) h.2.2
      rw [ih hrest htail]

/-- Canonical text determines the content of a value. -/
theorem content_eq_of_canonicalWith {float : UInt64 → Literal} {value other : Json}
    (h : canonicalWith float value = canonicalWith float other) :
    contentOf float (sortKeys value) = contentOf float (sortKeys other) := by
  have htext := utf8_injective h
  rw [dumps_eq_write, dumps_eq_write] at htext
  exact Content.write_injective (escaped_flatMap_inj (escaped_write _) (escaped_write _) htext)

end AegisLedger.Wallet.Digests
