import AegisLedger.Gateway.Canonical

/-!
# Versioned contracts

`aegisledger/contracts.py`.  The models are the validated ones: a pattern, a
range or a cross-field rule that pydantic checks is part of the type, and text
that a validator lower-cases has a type of lower-case text.  `modelDump` is
`model_dump(mode="json")`.
-/

namespace AegisLedger.Gateway

open AegisLedger.Support HexText Checks

/-! ## Constrained scalars -/

def isLowerHexDigit (c : Char) : Bool :=
  (48 ≤ c.toNat && c.toNat ≤ 57) || (97 ≤ c.toNat && c.toNat ≤ 102)

def isHexDigit (c : Char) : Bool :=
  isLowerHexDigit c || (65 ≤ c.toNat && c.toNat ≤ 70)

def hasHexPrefix (s : Str) : Bool := s.take 2 == ['0', 'x']

/-- The pattern `^0x[..]{count}$`. -/
def matchesHex (digit : Char → Bool) (count : Nat) (s : Str) : Bool :=
  hasHexPrefix s && (s.drop 2).length == count && (s.drop 2).all digit

/-- The pattern `^0x(?:[..]{2})*$`. -/
def matchesHexBytes (digit : Char → Bool) (s : Str) : Bool :=
  hasHexPrefix s && s.length % 2 == 0 && (s.drop 2).all digit

/-- The pattern `^[A-Z][A-Z0-9._:-]{1,63}$`. -/
def matchesAssetId (s : Str) : Bool :=
  let upper (c : Char) : Bool := 65 ≤ c.toNat && c.toNat ≤ 90
  let digit (c : Char) : Bool := 48 ≤ c.toNat && c.toNat ≤ 57
  match s with
  | [] => false
  | c :: rest =>
    upper c && 1 ≤ rest.length && rest.length ≤ 63 &&
      rest.all (fun d => upper d || digit d || ['.', '_', ':', '-'].contains d)

/-- The pattern `^[A-Z][A-Z0-9_]{1,63}$`. -/
def matchesReasonCode (s : Str) : Bool :=
  let upper (c : Char) : Bool := 65 ≤ c.toNat && c.toNat ≤ 90
  let digit (c : Char) : Bool := 48 ≤ c.toNat && c.toNat ≤ 57
  match s with
  | [] => false
  | c :: rest =>
    upper c && 1 ≤ rest.length && rest.length ≤ 63 &&
      rest.all (fun d => upper d || digit d || d == '_')

abbrev Hex32 := {s : Str // matchesHex isLowerHexDigit 64 s = true}
abbrev Address := {s : Str // matchesHex isHexDigit 40 s = true}
abbrev LowerAddress := {s : Str // matchesHex isLowerHexDigit 40 s = true}
abbrev Selector := {s : Str // matchesHex isHexDigit 8 s = true}
abbrev LowerSelector := {s : Str // matchesHex isLowerHexDigit 8 s = true}
abbrev LowerCalldata := {s : Str // matchesHexBytes isLowerHexDigit s = true}
abbrev HexData := {s : Str // (matchesHexBytes isHexDigit s && s.length != 2) = true}
abbrev LowerHexData := {s : Str // (matchesHexBytes isLowerHexDigit s && s.length != 2) = true}
abbrev AssetId := {s : Str // matchesAssetId s = true}
abbrev ReasonText := {s : Str // matchesReasonCode s = true}
abbrev BoundedStr (low high : Nat) := {s : Str // low ≤ s.length ∧ s.length ≤ high}
abbrev PosInt := {n : Nat // 0 < n}

theorem toLower_of_isLowerHexDigit {c : Char} (h : isLowerHexDigit c = true) :
    c.toLower = c := by
  unfold Char.toLower
  split_ifs with hupper
  · exfalso
    simp only [isLowerHexDigit, Bool.or_eq_true, Bool.and_eq_true, decide_eq_true_eq] at h
    have hlow : 65 ≤ c.toNat := UInt32.le_iff_toNat_le.mp hupper.1
    have hhigh : c.toNat ≤ 90 := UInt32.le_iff_toNat_le.mp hupper.2
    omega
  · rfl

theorem asciiLower_of_matchesHex {count : Nat} {s : Str}
    (h : matchesHex isLowerHexDigit count s = true) : asciiLower s = s := by
  simp only [matchesHex, hasHexPrefix, Bool.and_eq_true, beq_iff_eq] at h
  obtain ⟨⟨hmark, _⟩, hdigits⟩ := h
  have hsplit : s = ['0', 'x'] ++ s.drop 2 := by
    rw [← hmark, List.take_append_drop]
  have htail : (s.drop 2).map Char.toLower = s.drop 2 := by
    conv_rhs => rw [← List.map_id (s.drop 2)]
    apply List.map_congr_left
    intro c hc
    exact toLower_of_isLowerHexDigit (List.all_eq_true.mp hdigits c hc)
  rw [asciiLower, hsplit, List.map_append, htail]
  rfl

theorem matchesHex_isHexDigit {count : Nat} {s : Str}
    (h : matchesHex isLowerHexDigit count s = true) : matchesHex isHexDigit count s = true := by
  simp only [matchesHex, Bool.and_eq_true, List.all_eq_true] at h ⊢
  refine ⟨h.1, fun c hc => ?_⟩
  rw [isHexDigit, h.2 c hc, Bool.true_or]

/-! ## Literals -/

instance posIntLiteral (n : Nat) : OfNat PosInt (n + 1) := ⟨⟨n + 1, Nat.succ_pos n⟩⟩

/-- The text `0x` followed by the low `count` hexadecimal digits of `n`. -/
def hexLiteral (count n : Nat) : Str := '0' :: 'x' :: lowHexDigits count n

theorem isLowerHexDigit_hexDigit {n : Nat} (h : n < 16) :
    isLowerHexDigit (hexDigit n) = true := by
  interval_cases n <;> rfl

theorem isLowerHexDigit_of_mem_toHex {bytes : Bytes} {c : Char} (h : c ∈ toHex bytes) :
    isLowerHexDigit c = true := by
  obtain ⟨b, _, hc⟩ := List.mem_flatMap.mp h
  have hb := b.toNat_lt
  simp only [hexPair, List.mem_cons, List.not_mem_nil, or_false] at hc
  rcases hc with rfl | rfl
  · exact isLowerHexDigit_hexDigit (by omega)
  · exact isLowerHexDigit_hexDigit (Nat.mod_lt _ (by omega))

theorem hasHexPrefix_prefixedHex (bytes : Bytes) : hasHexPrefix (prefixedHex bytes) = true := rfl

theorem length_prefixedHex (bytes : Bytes) :
    (prefixedHex bytes).length = 2 * bytes.length + 2 := by
  rw [prefixedHex, List.length_cons, List.length_cons, length_toHex]

theorem fromHex_drop_prefixedHex (bytes : Bytes) :
    fromHex ((prefixedHex bytes).drop 2) = some bytes := by
  simp [prefixedHex]

theorem matchesHex_prefixedHex (bytes : Bytes) :
    matchesHex isLowerHexDigit (2 * bytes.length) (prefixedHex bytes) = true := by
  have hdigits : (toHex bytes).all isLowerHexDigit = true :=
    List.all_eq_true.mpr fun c hc => isLowerHexDigit_of_mem_toHex hc
  have hdrop : (prefixedHex bytes).drop 2 = toHex bytes := rfl
  rw [matchesHex, hasHexPrefix_prefixedHex, hdrop, length_toHex, hdigits, beq_self_eq_true]
  rfl

theorem length_lowHexDigits (count n : Nat) : (lowHexDigits count n).length = count := by
  simp [lowHexDigits]

theorem all_lowHexDigits (count n : Nat) :
    (lowHexDigits count n).all isLowerHexDigit = true := by
  rw [List.all_eq_true]
  intro c hc
  obtain ⟨i, _, rfl⟩ := List.mem_map.mp hc
  exact isLowerHexDigit_hexDigit (Nat.mod_lt _ (by omega))

theorem hexDigit_inj {n m : Nat} (hn : n < 16) (hm : m < 16)
    (h : hexDigit n = hexDigit m) : n = m := by
  have hvalue := congrArg hexValue h
  rw [hexValue_hexDigit hn, hexValue_hexDigit hm, Option.some.injEq] at hvalue
  exact hvalue

theorem mod_eq_of_lowHexDigits {count n m : Nat}
    (h : lowHexDigits count n = lowHexDigits count m) : n % 16 ^ count = m % 16 ^ count := by
  have hdigit : ∀ i < count, n / 16 ^ i % 16 = m / 16 ^ i % 16 := by
    intro i hi
    have hmap := List.map_inj_left.mp h i (by simp [hi])
    exact hexDigit_inj (Nat.mod_lt _ (by omega)) (Nat.mod_lt _ (by omega)) hmap
  clear h
  induction count with
  | zero => rw [Nat.pow_zero, Nat.mod_one, Nat.mod_one]
  | succ count ih =>
    rw [Nat.mod_pow_succ, Nat.mod_pow_succ, ih fun i hi => hdigit i (by omega),
      hdigit count (by omega)]

theorem lowHexDigits_append_inj {count n m : Nat} {xs ys : Str}
    (h : lowHexDigits count n ++ xs = lowHexDigits count m ++ ys) :
    n % 16 ^ count = m % 16 ^ count ∧ xs = ys := by
  obtain ⟨hdigits, hrest⟩ :=
    List.append_inj h (by rw [length_lowHexDigits, length_lowHexDigits])
  exact ⟨mod_eq_of_lowHexDigits hdigits, hrest⟩

theorem matchesHex_hexLiteral (count n : Nat) :
    matchesHex isLowerHexDigit count (hexLiteral count n) = true := by
  simp only [matchesHex, hasHexPrefix, hexLiteral, List.take_succ_cons, List.take_zero,
    List.drop_succ_cons, List.drop_zero, length_lowHexDigits, all_lowHexDigits, beq_self_eq_true,
    Bool.and_self]

theorem matchesHexBytes_hexLiteral (size n : Nat) :
    matchesHexBytes isLowerHexDigit (hexLiteral (2 * size) n) = true := by
  have heven : (2 * size + 1 + 1) % 2 = 0 := by omega
  simp only [matchesHexBytes, hasHexPrefix, hexLiteral, List.take_succ_cons, List.take_zero,
    List.drop_succ_cons, List.drop_zero, List.length_cons, length_lowHexDigits,
    all_lowHexDigits, heven, beq_self_eq_true, Bool.and_self]

theorem length_hexLiteral_ne_two {size : Nat} (hsize : 0 < size) (n : Nat) :
    (hexLiteral (2 * size) n).length ≠ 2 := by
  simp only [hexLiteral, List.length_cons, length_lowHexDigits]
  omega

def hex32 (n : Nat) : Hex32 := ⟨hexLiteral 64 n, matchesHex_hexLiteral 64 n⟩

def lowerAddress (n : Nat) : LowerAddress := ⟨hexLiteral 40 n, matchesHex_hexLiteral 40 n⟩

def lowerSelector (n : Nat) : LowerSelector := ⟨hexLiteral 8 n, matchesHex_hexLiteral 8 n⟩

def lowerCalldata (size n : Nat) : LowerCalldata :=
  ⟨hexLiteral (2 * size) n, matchesHexBytes_hexLiteral size n⟩

def lowerHexData (size n : Nat) (hsize : 0 < size) : LowerHexData :=
  ⟨hexLiteral (2 * size) n, by
    rw [matchesHexBytes_hexLiteral, Bool.true_and, bne_iff_ne]
    exact length_hexLiteral_ne_two hsize n⟩

/-! ## Proposals -/

structure TransferIntentV1 where
  recipient : LowerAddress
  deriving DecidableEq

structure SwapIntentV1 where
  contract : LowerAddress
  selector : LowerSelector
  calldata : LowerCalldata
  minimumOutput : Nat
  outputAsset : AssetId
  deriving DecidableEq

inductive IntentV1
  | transfer (intent : TransferIntentV1)
  | swap (intent : SwapIntentV1)
  deriving DecidableEq

/-- The `kind` discriminator, also the `operation` of a transaction binding. -/
inductive Operation
  | transfer
  | swap
  deriving DecidableEq

def IntentV1.kind : IntentV1 → Operation
  | .transfer _ => .transfer
  | .swap _ => .swap

structure ProposalV1 where
  proposalId : {u : Uuid // uuidVersion u = some 7}
  principalId : BoundedStr 1 128
  wallet : LowerAddress
  chainId : PosInt
  asset : AssetId
  amount : PosInt
  intent : IntentV1
  deadline : Datetime
  idempotencyKey : BoundedStr 8 128
  mandateId : Option Uuid
  quoteReference : Option (BoundedStr 1 256)
  deriving DecidableEq

def IntentV1.modelDump : IntentV1 → Json
  | .transfer intent => .obj [
      ("kind".toList, .str "transfer".toList),
      ("recipient".toList, .str intent.recipient)]
  | .swap intent => .obj [
      ("kind".toList, .str "swap".toList),
      ("contract".toList, .str intent.contract),
      ("selector".toList, .str intent.selector),
      ("calldata".toList, .str intent.calldata),
      ("minimum_output".toList, .int intent.minimumOutput),
      ("output_asset".toList, .str intent.outputAsset)]

def optionalUuid : Option Uuid → Json
  | some u => .str (uuidText u)
  | none => .null

def optionalField (name : String) (value : Option Json) : List (Str × Json) :=
  match value with
  | some json => [(name.toList, json)]
  | none => []

/-- `model_dump(mode="json", exclude_none=True)`. -/
def ProposalV1.modelDump (host : Host) (p : ProposalV1) : Json := .obj ([
    ("schema_version".toList, .str "aegisledger.proposal.v1".toList),
    ("proposal_id".toList, .str (uuidText p.proposalId)),
    ("principal_id".toList, .str p.principalId),
    ("wallet".toList, .str p.wallet),
    ("chain_id".toList, .int p.chainId.val),
    ("asset".toList, .str p.asset),
    ("amount".toList, .int p.amount.val),
    ("intent".toList, p.intent.modelDump),
    ("deadline".toList, .str (host.datetimeText p.deadline)),
    ("idempotency_key".toList, .str p.idempotencyKey)] ++
  optionalField "mandate_id" (p.mandateId.map fun u => .str (uuidText u)) ++
  optionalField "quote_reference" (p.quoteReference.map fun s => .str s.val))

def ProposalV1.canonicalPayload (host : Host) (p : ProposalV1) :
    Except CanonicalError Bytes :=
  canonicalJson host (p.modelDump host)

def ProposalV1.proposalHash (host : Host) (p : ProposalV1) : Except CanonicalError Str := do
  let payload ← p.canonicalPayload host
  pure (prefixedHex (host.sha256 payload))

/-! ## Decisions -/

inductive DecisionVerdict
  | allow
  | deny
  deriving DecidableEq

def DecisionVerdict.text : DecisionVerdict → Str
  | .allow => "ALLOW".toList
  | .deny => "DENY".toList

structure DecisionTokenV1 where
  decisionId : Uuid
  proposalHash : Hex32
  policyVersionId : Uuid
  policyHash : Hex32
  stateVersion : Nat
  reservationId : Option Uuid
  verdict : DecisionVerdict
  reasonCodes : List ReasonText
  expiresAt : Datetime
  decisionNonce : Uuid
  policySigner : BoundedStr 1 256
  signature : {s : Str // (s.length == 128 && s.all isLowerHexDigit) = true}
  /-- `reservation_matches_verdict`. -/
  reservationMatchesVerdict :
    (verdict = .allow → reservationId ≠ none) ∧ (verdict = .deny → reservationId = none)
  deriving DecidableEq

/-- `model_dump(mode="json", exclude={"signature"})`. -/
def DecisionTokenV1.unsignedDump (host : Host) (d : DecisionTokenV1) : Json := .obj [
    ("schema_version".toList, .str "aegisledger.decision.v1".toList),
    ("decision_id".toList, .str (uuidText d.decisionId)),
    ("proposal_hash".toList, .str d.proposalHash),
    ("policy_version_id".toList, .str (uuidText d.policyVersionId)),
    ("policy_hash".toList, .str d.policyHash),
    ("state_version".toList, .int d.stateVersion),
    ("reservation_id".toList,
      match d.reservationId with
      | some u => .str (uuidText u)
      | none => .null),
    ("verdict".toList, .str d.verdict.text),
    ("reason_codes".toList, .arr (d.reasonCodes.map fun code => .str code.val)),
    ("expires_at".toList, .str (host.datetimeText d.expiresAt)),
    ("decision_nonce".toList, .str (uuidText d.decisionNonce)),
    ("policy_signer".toList, .str d.policySigner)]

/-! ## Signed transactions -/

structure SignedTransactionV1 where
  transactionId : Uuid
  eip712Hash : Hex32
  eip1559Hash : Hex32
  transactionHash : Hex32
  rawTransaction : HexData
  wallet : Address
  walletNonce : Nat
  chainId : PosInt
  decisionId : Uuid
  signerIdentity : BoundedStr 1 256
  enclaveEvidence : List (Str × Json)
  signature : {s : Str // matchesHex isLowerHexDigit 130 s = true}

/-! ## Lifecycle -/

inductive LifecycleState
  | proposed
  | reserved
  | signed
  | submitted
  | settled
  | denied
  | reverted
  | expired
  deriving DecidableEq

def LifecycleState.value : LifecycleState → String
  | .proposed => "PROPOSED"
  | .reserved => "RESERVED"
  | .signed => "SIGNED"
  | .submitted => "SUBMITTED"
  | .settled => "SETTLED"
  | .denied => "DENIED"
  | .reverted => "REVERTED"
  | .expired => "EXPIRED"

/-- `_ALLOWED_TRANSITIONS`. -/
def allowedTransitions : LifecycleState → List LifecycleState
  | .proposed => [.reserved, .denied, .expired]
  | .reserved => [.signed, .expired]
  | .signed => [.submitted, .expired]
  | .submitted => [.settled, .reverted]
  | .settled | .denied | .reverted | .expired => []

def requireTransition (current target : LifecycleState) : Except String Unit :=
  raiseIf (target ∉ allowedTransitions current)
    ("invalid lifecycle transition: " ++ current.value ++ " -> " ++ target.value)

end AegisLedger.Gateway
