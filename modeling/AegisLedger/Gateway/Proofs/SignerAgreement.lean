import AegisLedger.Gateway.Proofs.GateChecks
import AegisLedger.Gateway.SignerClient
import AegisLedger.Signer.Proofs.AtMostOnce

/-!
# The reference gate and the signer

`SignerAuthorizationGate` checks a validated request, the signer checks the JSON text of it.
Each function of the signer, applied to the text of a request, passes exactly when some of the
conditions hold that the gate checks, so the two accept the same requests.  What the crates of
the signer and the packages of the gateway have in common is stated in `SharedLibraries`, the
configuration and the replay state in `SameState`.
-/

namespace AegisLedger.Gateway.SignerAgreement

open AegisLedger.Support HexText Checks Eip1559 Eip1559Codec
open AegisLedger.Signer
open SignedEffect GateChecks SignerAuthorizationGate

/-! ## Text of identifiers -/

/-- The five groups of digits determine the 128 bits. -/
theorem uuidText_injective : Function.Injective uuidText := by
  intro u v h
  simp only [uuidText, List.append_assoc, List.cons_append] at h
  obtain ⟨h96, h⟩ := lowHexDigits_append_inj h
  obtain ⟨h80, h⟩ := lowHexDigits_append_inj (List.cons.inj h).2
  obtain ⟨h64, h⟩ := lowHexDigits_append_inj (List.cons.inj h).2
  obtain ⟨h48, h⟩ := lowHexDigits_append_inj (List.cons.inj h).2
  have h0 := mod_eq_of_lowHexDigits (List.cons.inj h).2
  apply BitVec.eq_of_toNat_eq
  have hu := u.isLt
  have hv := v.isLt
  omega

/-! ## What the two sides share -/

def maxSafeInteger : Nat := 2 ^ 53 - 1

mutual

/-- The values on which RFC 8785 and `json.dumps` write the same text: no floats, integers
that a double holds exactly, and names whose order is that of their code points. -/
def isInteroperable : Json → Bool
  | .null => true
  | .bool _ => true
  | .int n => n.natAbs ≤ maxSafeInteger
  | .float _ => false
  | .str _ => true
  | .arr items => interoperableItems items
  | .obj fields => interoperableFields fields

def interoperableItems : List Json → Bool
  | [] => true
  | item :: items => isInteroperable item && interoperableItems items

def interoperableFields : List (Str × Json) → Bool
  | [] => true
  | (key, item) :: fields =>
    key.all (·.toNat < 128) && isInteroperable item && interoperableFields fields

end

/-- A library that implements RFC 8785. -/
def ImplementsRfc8785 (canonicalize : Json → Option Bytes) : Prop :=
  ∀ value, isInteroperable value = true → canonicalize value = some (utf8 (dumps value))

/-- Lower-casing gives hexadecimal text exactly where it does so in ASCII: no other letter
has one of these characters as its lower case. -/
def LowersHex (lower : Str → Str) : Prop :=
  ∀ s text : Str, (∀ c ∈ text, c = 'x' ∨ isLowerHexDigit c = true) →
    (lower s = text ↔ asciiLower s = text)

/-- The transaction that alloy decodes from the encoding of `u`. -/
def txEip1559 (u : UnsignedEip1559) (targetBytes calldataBytes : Bytes) : TxEip1559 where
  chainId := u.chainId
  nonce := u.nonce
  gasLimit := u.gasLimit
  maxFeePerGas := u.maxFeePerGas
  maxPriorityFeePerGas := u.maxPriorityFeePerGas
  target := some targetBytes
  value := u.value
  input := calldataBytes
  accessList := []

/-- Integers that fit the fields of `TxEip1559`. -/
structure FitsWords (u : UnsignedEip1559) : Prop where
  chainId : u.chainId < 2 ^ 64
  nonce : u.nonce < 2 ^ 64
  gasLimit : u.gasLimit < 2 ^ 64
  maxFeePerGas : u.maxFeePerGas < 2 ^ 128
  maxPriorityFeePerGas : u.maxPriorityFeePerGas < 2 ^ 128
  value : u.value < 2 ^ 256

/-- The libraries on both sides. -/
structure SharedLibraries (host : Host) (crates : Crates) : Prop where
  sha256 : crates.sha256 = host.sha256
  keccak : crates.keccak = host.keccak
  ed25519Verify : crates.ed25519Verify = host.ed25519Verify
  rfc8785 : ∀ package, host.rfc8785 = some package → ImplementsRfc8785 package
  jcs : ImplementsRfc8785 crates.jcs
  hostLower : LowersHex host.lower
  lower : LowersHex crates.lower
  parseAddress : ∀ address : LowerAddress, crates.parseAddress address = some (hexBytes address)
  encodedForSigning : ∀ u targetBytes calldataBytes, FitsWords u → targetBytes.length = 20 →
    crates.encodedForSigning (txEip1559 u targetBytes calldataBytes) =
      transactionBytes u targetBytes calldataBytes
  decodeTx : ∀ u targetBytes calldataBytes, FitsWords u →
    Encodable u targetBytes calldataBytes →
    crates.decodeTx ((transactionBytes u targetBytes calldataBytes).drop 1) =
      some (txEip1559 u targetBytes calldataBytes, [])

/-- Microseconds from the start of year 1 to the start of 1970. -/
def unixEpoch : Int := 62135596800000000

/-- A timestamp of the gateway on the clock of the signer. -/
def unixNanos (t : Datetime) : Int := (t.val - unixEpoch) * 1000

/-- A reading of the signer's clock, which the gateway takes in whole microseconds. -/
def SameReading (now : Datetime) (nanos : Int) : Prop :=
  unixNanos now ≤ nanos ∧ nanos < unixNanos now + 1000

theorem lt_unixNanos_iff {now t : Datetime} {nanos : Int} (h : SameReading now nanos) :
    nanos < unixNanos t ↔ now < t := by
  obtain ⟨hlow, hhigh⟩ := h
  unfold unixNanos at *
  rw [Fin.lt_def]
  omega

theorem unixNanos_le_iff {t u : Datetime} : unixNanos t ≤ unixNanos u ↔ t ≤ u := by
  unfold unixNanos
  rw [Fin.le_def]
  omega

/-- The text of a request means to the signer what it meant to the gateway. -/
structure Transmits (host : Host) (crates : Crates) (request : TransactionSignRequestV1) :
    Prop where
  json : crates.parseJson (request.authorizationJson host) = some (request.modelDumpJson host)
  timestamps : ∀ t ∈ [request.expiresAt, request.decision.expiresAt, request.proposal.deadline],
    crates.parseRfc3339 (host.datetimeText t) = some (unixNanos t)

/-- Integers that the issuer can hash and that the signer can read, and a payload that the
encoder of the gateway can write. -/
structure WithinBounds (request : TransactionSignRequestV1) : Prop where
  proposalChain : request.proposal.chainId.val ≤ maxSafeInteger
  proposalAmount : request.proposal.amount.val ≤ maxSafeInteger
  minimumOutput : ∀ intent, request.proposal.intent = .swap intent →
    intent.minimumOutput ≤ maxSafeInteger
  stateVersion : request.decision.stateVersion ≤ maxSafeInteger
  walletNonce : request.walletNonce < 2 ^ 64
  chainId : request.chainId.val < 2 ^ 64
  bindingChain : request.transaction.chainId.val < 2 ^ 64
  bindingNonce : request.transaction.walletNonce < 2 ^ 64
  bindingAmount : request.transaction.amount.val < 2 ^ 64
  bindingValue : request.transaction.value < 2 ^ 64
  gasLimit : request.transaction.gasLimit.val < 2 ^ 64
  maxFeePerGas : request.transaction.maxFeePerGas.val < 2 ^ 64
  maxPriorityFeePerGas : request.transaction.maxPriorityFeePerGas < 2 ^ 64
  payload : (hexBytes request.eip1559UnsignedPayload).length ≤ maxTransactionBytes

/-- The wallet is the identity of the signer, and one that it manages. -/
structure ManagedWallet (crates : Crates) (service : SignerService)
    (request : TransactionSignRequestV1) : Prop where
  identity : request.proposal.wallet.val = service.signerIdentity crates
  managed : service.managedWallets = [] ∨ request.proposal.wallet.val ∈ service.managedWallets

/-- The same policy key, allowed chains, approved policies and replay state. -/
structure SameState (gate : SignerAuthorizationGate) (service : SignerService)
    (replay : ReplayState) : Prop where
  policyKey : gate.policyPublicKey = service.policyKey
  chains : ∀ chainId : UInt64, chainId.toNat ∈ gate.allowedChainIds ↔
    chainId ∈ service.allowedChains
  policyHashes : gate.allowedPolicyHashes =
    if service.allowedPolicyHashes = [] then none else some service.allowedPolicyHashes
  decisions : ∀ nonce, nonce ∈ gate.usedDecisions ↔ uuidText nonce ∈ replay.usedDecisions
  nonces : ∀ wallet (chainId : UInt64), gate.nextWalletNonce.get? (wallet, chainId.toNat) =
    (replay.nextWalletNonce.get? (wallet, chainId)).map UInt64.toNat

/-- The member that describes the transaction. -/
abbrev bindingJson (request : TransactionSignRequestV1) : Json :=
  request.transaction.toBindingFields.modelDumpJson

/-! ## Canonical JSON on both sides -/

mutual

theorem assertSupported_of_interoperable (path : Str) : (value : Json) →
    isInteroperable value = true → assertSupported path value = .ok ()
  | .null, _ => rfl
  | .bool _, _ => rfl
  | .int _, _ => rfl
  | .str _, _ => rfl
  | .float _, h => by cases h
  | .arr items, h => assertItems_of_interoperable path 0 items h
  | .obj fields, h => assertFields_of_interoperable path fields h

theorem assertItems_of_interoperable (path : Str) (index : Nat) : (items : List Json) →
    interoperableItems items = true → assertItems path index items = .ok ()
  | [], _ => rfl
  | item :: items, h => by
      rw [interoperableItems, Bool.and_eq_true] at h
      rw [assertItems, assertSupported_of_interoperable _ item h.1]
      exact assertItems_of_interoperable path (index + 1) items h.2

theorem assertFields_of_interoperable (path : Str) : (fields : List (Str × Json)) →
    interoperableFields fields = true → assertFields path fields = .ok ()
  | [], _ => rfl
  | (key, item) :: fields, h => by
      rw [interoperableFields, Bool.and_eq_true, Bool.and_eq_true] at h
      rw [assertFields, assertSupported_of_interoperable _ item h.1.2]
      exact assertFields_of_interoperable path fields h.2

end

variable {host : Host}

theorem canonicalJson_of_interoperable
    (hpackage : ∀ package, host.rfc8785 = some package → ImplementsRfc8785 package) {value : Json}
    (h : isInteroperable value = true) : canonicalJson host value = .ok (utf8 (dumps value)) := by
  rw [canonicalJson, assertSupported_of_interoperable _ value h]
  cases hhost : host.rfc8785 with
  | none => rfl
  | some package =>
    dsimp only
    rw [hpackage package hhost value h]
    rfl

theorem interoperableItems_texts {α : Type} (texts : List α) (f : α → Str) :
    interoperableItems (texts.map fun text => .str (f text)) = true := by
  induction texts with
  | nil => rfl
  | cons text texts ih =>
    rw [List.map_cons, interoperableItems, ih]
    rfl

/-! ## The text of a request -/

section Dump

variable {host : Host} {crates : Crates} {request : TransactionSignRequestV1}

theorem removeNull_proposal (p : ProposalV1) :
    removeNullObjectFields (p.modelDumpJson host) = p.modelDump host := by
  obtain ⟨_, _, _, _, _, _, intent, _, _, mandateId, quoteReference⟩ := p
  cases intent <;> cases mandateId <;> cases quoteReference <;> rfl

theorem unsignedDecision_dump (d : DecisionTokenV1) :
    unsignedDecision (d.modelDumpJson host) = .ok (d.unsignedDump host) := by
  obtain ⟨_, _, _, _, _, reservationId, _, _, _, _, _, _, _⟩ := d
  cases reservationId <;> rfl

variable {n : Nat}

theorem interoperable_natCast (h : n ≤ maxSafeInteger) : isInteroperable (.int n) = true := by
  rw [isInteroperable, Int.natAbs_natCast]
  exact decide_eq_true h

theorem interoperable_intent {intent : IntentV1}
    (h : ∀ swap, intent = .swap swap → swap.minimumOutput ≤ maxSafeInteger) :
    isInteroperable intent.modelDump = true := by
  cases intent with
  | transfer transfer => rfl
  | swap swap =>
    have hdump : isInteroperable (IntentV1.swap swap).modelDump =
      (isInteroperable (.int swap.minimumOutput) && true) := rfl
    rw [hdump, interoperable_natCast (h swap rfl)]
    rfl

theorem interoperable_proposal {proposal : ProposalV1}
    (hchain : proposal.chainId.val ≤ maxSafeInteger)
    (hamount : proposal.amount.val ≤ maxSafeInteger)
    (houtput : ∀ swap, proposal.intent = .swap swap → swap.minimumOutput ≤ maxSafeInteger) :
    isInteroperable (proposal.modelDump host) = true := by
  have hdump : isInteroperable (proposal.modelDump host) =
      (isInteroperable (.int proposal.chainId.val) &&
        (isInteroperable (.int proposal.amount.val) &&
          (isInteroperable proposal.intent.modelDump && true))) := by
    rw [ProposalV1.modelDump]
    cases proposal.mandateId <;> cases proposal.quoteReference <;> rfl
  rw [hdump, interoperable_natCast hchain, interoperable_natCast hamount,
    interoperable_intent houtput]
  rfl

theorem interoperable_decision {decision : DecisionTokenV1}
    (hversion : decision.stateVersion ≤ maxSafeInteger) :
    isInteroperable (decision.unsignedDump host) = true := by
  have hdump : isInteroperable (decision.unsignedDump host) =
      (isInteroperable (.int decision.stateVersion) &&
        (interoperableItems (decision.reasonCodes.map fun code => .str code.val) && true)) := by
    rw [DecisionTokenV1.unsignedDump]
    cases decision.reservationId <;> rfl
  rw [hdump, interoperable_natCast hversion, interoperableItems_texts]
  rfl

theorem isUnsigned_natCast (h : n < 2 ^ 64) : isUnsigned (.int n) = true := by
  simp only [isUnsigned, Bool.and_eq_true, decide_eq_true_eq]
  omega

theorem lt_of_safe (h : n ≤ maxSafeInteger) : n < 2 ^ 64 := by
  unfold maxSafeInteger at h
  omega

theorem number_natCast (h : n < 2 ^ 64) : number (.int n) [] = .ok (UInt64.ofNat n) := by
  have hrange : 0 ≤ (n : Int) ∧ (n : Int) < 2 ^ 64 := by omega
  unfold number
  rw [field, bind_eq_ok]
  refine ⟨_, rfl, ?_⟩
  dsimp only
  rw [if_pos hrange, Int.toNat_natCast]
  rfl

theorem matchesIntent_dump {intent : IntentV1}
    (h : ∀ swap, intent = .swap swap → swap.minimumOutput ≤ maxSafeInteger) :
    matchesIntent intent.modelDump = true := by
  cases intent with
  | transfer transfer => rfl
  | swap swap =>
    have houtput := isUnsigned_natCast (lt_of_safe (h swap rfl))
    simp [matchesIntent, matchesFlat, IntentV1.modelDump, houtput, isText]

variable {members : List (String × Shape)} {fields : List (Str × Json)}

theorem matchesMembers_of_notMem {name : Str} {value : Json}
    (h : name ∉ members.map fun member => member.1.toList) :
    matchesMembers members ((name, value) :: fields) = matchesMembers members fields := by
  induction members with
  | nil => rfl
  | cons member members ih =>
    rw [List.map_cons, List.mem_cons, not_or] at h
    obtain ⟨memberName, shape⟩ := member
    have hfilter : ((name, value) :: fields).filter (fun entry => entry.1 = memberName.toList) =
        fields.filter fun entry => entry.1 = memberName.toList :=
      List.filter_cons_of_neg (by simpa using h.1)
    cases shape <;> simp only [matchesMembers, hfilter, ih h.2]

/-- The members of the object are those of the envelope, in its order. -/
def Aligned (members : List (String × Shape)) (fields : List (Str × Json)) : Prop :=
  List.Forall₂ (fun member entry =>
    entry.1 = member.1.toList ∧ matchesShape member.2 entry.2 = true) members fields

theorem Aligned.names (h : Aligned members fields) :
    fields.map Prod.fst = members.map fun member => member.1.toList := by
  induction h with
  | nil => rfl
  | cons hhead _ ih => rw [List.map_cons, List.map_cons, ih, hhead.1]

theorem matchesMembers_of_aligned (h : Aligned members fields)
    (hnodup : (members.map fun member => member.1.toList).Nodup) :
    matchesMembers members fields = true := by
  induction h with
  | nil => rfl
  | @cons member entry members fields hhead htail ih =>
    obtain ⟨name, shape⟩ := member
    obtain ⟨entryName, value⟩ := entry
    obtain ⟨rfl, hshape⟩ := hhead
    rw [List.map_cons, List.nodup_cons] at hnodup
    have hfilter : ((name.toList, value) :: fields).filter
        (fun entry => entry.1 = name.toList) = [(name.toList, value)] := by
      rw [List.filter_cons_of_pos (by simp), List.cons.injEq, List.filter_eq_nil_iff]
      refine ⟨rfl, fun entry hentry hsame => hnodup.1 ?_⟩
      rw [← Aligned.names htail, ← of_decide_eq_true hsame]
      exact List.mem_map_of_mem hentry
    have hrest : matchesMembers members ((name.toList, value) :: fields) = true :=
      (matchesMembers_of_notMem hnodup.1).trans (ih hnodup.2)
    dsimp only at hshape
    cases shape <;> simp only [matchesMembers, hfilter, hrest, hshape, Bool.and_self]

theorem matchesShape_object (h : Aligned members fields)
    (hnodup : (members.map fun member => member.1.toList).Nodup) :
    matchesShape (.object members) (.obj fields) = true := by
  rw [matchesShape, matchesMembers_of_aligned h hnodup, Bool.and_true, List.all_eq_true]
  intro entry hentry
  have hname : entry.1 ∈ members.map fun member => member.1.toList := by
    rw [← h.names]
    exact List.mem_map_of_mem hentry
  obtain ⟨member, hmember, hsame⟩ := List.mem_map.mp hname
  exact List.any_eq_true.mpr ⟨member, hmember, decide_eq_true hsame.symm⟩

theorem matchesShape_unsigned (h : n < 2 ^ 64) : matchesShape .unsigned (.int n) = true := by
  rw [matchesShape]
  exact isUnsigned_natCast h

theorem matchesShape_optionalText (value : Option Str) :
    matchesShape .optionalText (optionalText value) = true := by
  cases value <;> rfl

theorem matchesShape_optionalUuid (value : Option Uuid) :
    matchesShape .optionalText (optionalUuid value) = true := by
  cases value <;> rfl

theorem matchesShape_proposal (hbounds : WithinBounds request) :
    matchesShape proposalEnvelope (request.proposal.modelDumpJson host) = true := by
  have hchain := matchesShape_unsigned (lt_of_safe hbounds.proposalChain)
  have hamount := matchesShape_unsigned (lt_of_safe hbounds.proposalAmount)
  have hintent : matchesShape .intent request.proposal.intent.modelDump = true := by
    rw [matchesShape]
    exact matchesIntent_dump hbounds.minimumOutput
  have hmandate := matchesShape_optionalUuid request.proposal.mandateId
  have hquote := matchesShape_optionalText (request.proposal.quoteReference.map Subtype.val)
  apply matchesShape_object
  · simp only [Aligned, List.forall₂_cons, List.forall₂_nil_right_iff, true_and,
      and_true]
    exact ⟨rfl, rfl, rfl, rfl, hchain, rfl,
      hamount, hintent, rfl, rfl, hmandate,
      hquote⟩
  · decide

theorem matchesShape_decision (hbounds : WithinBounds request) :
    matchesShape decisionEnvelope (request.decision.modelDumpJson host) = true := by
  have hversion := matchesShape_unsigned (lt_of_safe hbounds.stateVersion)
  have hreservation := matchesShape_optionalUuid request.decision.reservationId
  have hreasons : matchesShape .texts
      (.arr (request.decision.reasonCodes.map fun code => .str code.val)) = true := by
    simp [matchesShape, isText]
  apply matchesShape_object
  · simp only [Aligned, List.forall₂_cons, List.forall₂_nil_right_iff, true_and,
      and_true]
    exact ⟨rfl, rfl, rfl, rfl, rfl, hversion,
      hreservation, rfl, hreasons, rfl, rfl, rfl,
      rfl⟩
  · decide

theorem matchesShape_transaction (hbounds : WithinBounds request) :
    matchesShape transactionEnvelope (bindingJson request) = true := by
  have hchain := matchesShape_unsigned hbounds.bindingChain
  have hnonce := matchesShape_unsigned hbounds.bindingNonce
  have hamount := matchesShape_unsigned hbounds.bindingAmount
  have hvalue := matchesShape_unsigned hbounds.bindingValue
  have hgas := matchesShape_unsigned hbounds.gasLimit
  have hmaximum := matchesShape_unsigned hbounds.maxFeePerGas
  have hpriority := matchesShape_unsigned hbounds.maxPriorityFeePerGas
  have hrecipient := matchesShape_optionalText (request.transaction.recipient.map Subtype.val)
  have hcontract := matchesShape_optionalText (request.transaction.contract.map Subtype.val)
  have hselector := matchesShape_optionalText (request.transaction.selector.map Subtype.val)
  apply matchesShape_object
  · simp only [Aligned, List.forall₂_cons, List.forall₂_nil_right_iff, true_and,
      and_true]
    exact ⟨rfl, rfl, hchain, hnonce, rfl, hamount,
      hrecipient, hcontract, hselector, rfl, hvalue,
      hgas, hmaximum, hpriority⟩
  · decide

theorem matchesShape_request (hbounds : WithinBounds request) :
    matchesShape authorizationEnvelope (request.modelDumpJson host) = true := by
  have hproposal : matchesShape proposalEnvelope (request.proposal.modelDumpJson host) = true :=
    matchesShape_proposal hbounds
  have hdecision : matchesShape decisionEnvelope (request.decision.modelDumpJson host) = true :=
    matchesShape_decision hbounds
  have htransaction := matchesShape_transaction hbounds
  have hnonce := matchesShape_unsigned hbounds.walletNonce
  have hchain := matchesShape_unsigned hbounds.chainId
  apply matchesShape_object
  · simp only [Aligned, List.forall₂_cons, List.forall₂_nil_right_iff, true_and,
      and_true]
    exact ⟨rfl, hproposal, hdecision, rfl, hnonce,
      hchain, htransaction, rfl, rfl, rfl, rfl,
      rfl⟩
  · decide

theorem parseAuthorization_dump (hbounds : WithinBounds request)
    (htransmits : Transmits host crates request) :
    parseAuthorization crates (request.authorizationJson host) =
      .ok (request.modelDumpJson host) := by
  rw [parseAuthorization, orRaise_bind_eq_ok]
  refine ⟨_, htransmits.json, ?_⟩
  rw [matchesShape_request hbounds]
  rfl

end Dump

/-! ## Hexadecimal text on both sides -/

theorem hexDecode_toHex (bytes : Bytes) : hexDecode (toHex bytes) = some bytes := by
  induction bytes with
  | nil => rfl
  | cons b bytes ih =>
    have hb := b.toNat_lt
    have hhigh : b.toNat / 16 < 16 := by omega
    have hlow : b.toNat % 16 < 16 := Nat.mod_lt _ (by omega)
    have hvalue : 16 * (b.toNat / 16) + b.toNat % 16 = b.toNat := by omega
    rw [toHex, List.flatMap_cons, ← toHex, hexPair, List.cons_append, List.cons_append,
      List.nil_append, hexDecode, hexValue_hexDigit hhigh, hexValue_hexDigit hlow, ih]
    dsimp only
    rw [hvalue, UInt8.ofNat_toNat]

theorem decodeHex_prefixedHex (bytes : Bytes) : decodeHex (prefixedHex bytes) = .ok bytes := by
  have hdigits : decodeHex (prefixedHex bytes) =
      orRaise (hexDecode (toHex bytes)) (.malformed "invalid hexadecimal value") := rfl
  rw [hdigits, hexDecode_toHex]
  rfl

/-- Digits without a mark are read as they stand. -/
theorem decodeHex_toHex (bytes : Bytes) : decodeHex (toHex bytes) = .ok bytes := by
  have hmark : (toHex bytes).take 2 ≠ ['0', 'x'] := by
    intro htake
    have hx : 'x' ∈ (toHex bytes).take 2 := by
      rw [htake]
      decide
    exact absurd (isLowerHexDigit_of_mem_toHex (List.mem_of_mem_take hx)) (by decide)
  rw [decodeHex, if_neg hmark, hexDecode_toHex]
  rfl

theorem decodeHex_of_matchesHex {count : Nat} (heven : count % 2 = 0) {s : Str}
    (h : matchesHex isLowerHexDigit count s = true) : decodeHex s = .ok (hexBytes s) := by
  conv_lhs => rw [← prefixedHex_hexBytes_of_matchesHex heven h]
  exact decodeHex_prefixedHex _

theorem decodeHex_payload (payload : LowerHexData) :
    decodeHex payload = .ok (hexBytes payload) := by
  conv_lhs => rw [← prefixedHex_hexBytes_payload payload]
  exact decodeHex_prefixedHex _

theorem mem_prefixedHex {bytes : Bytes} : ∀ c ∈ prefixedHex bytes,
    c = 'x' ∨ isLowerHexDigit c = true := by
  intro c hc
  simp only [prefixedHex, List.mem_cons] at hc
  rcases hc with rfl | rfl | hc
  · exact Or.inr (by decide)
  · exact Or.inl rfl
  · exact Or.inr (isLowerHexDigit_of_mem_toHex hc)

namespace LowersHex

variable {lower : Str → Str} (h : LowersHex lower)

include h

/-- Text that is hexadecimal and lower case stays as it is. -/
theorem lower_prefixedHex (bytes : Bytes) : lower (prefixedHex bytes) = prefixedHex bytes :=
  (h _ _ mem_prefixedHex).mpr (asciiLower_of_matchesHex (matchesHex_prefixedHex bytes))

theorem lower_of_matchesHex {count : Nat} (heven : count % 2 = 0) {s : Str}
    (hs : matchesHex isLowerHexDigit count s = true) : lower s = s := by
  rw [← prefixedHex_hexBytes_of_matchesHex heven hs]
  exact h.lower_prefixedHex _

theorem lower_address (address : LowerAddress) : lower address = address.val :=
  h.lower_of_matchesHex (by decide) address.property

theorem lower_hex32 (hash : Hex32) : lower hash = hash.val :=
  h.lower_of_matchesHex (by decide) hash.property

end LowersHex

/-- The two policy identities are the last twenty bytes of the same digest. -/
theorem addressOf_eq {key : Bytes} (h : (host.sha256 key).length = 32) :
    addressOf host key = prefixedHex ((host.sha256 key).drop 12) := by
  have hdrop : (toHex (host.sha256 key)).drop 24 = toHex ((host.sha256 key).drop 12) := by
    conv_lhs => rw [← List.take_append_drop 12 (host.sha256 key)]
    rw [toHex, List.flatMap_append, ← toHex, ← toHex, List.drop_left']
    rw [length_toHex, List.length_take, h]
    rfl
  rw [addressOf, length_toHex, h, hdrop]
  rfl

/-! ## The checks of the signer on the text of a request -/

theorem requireEqual_eq_ok {α : Type} [DecidableEq α] {message : String}
    {left right : Except AuthorizationError α} {a b : α} (hleft : left = .ok a)
    (hright : right = .ok b) : requireEqual message left right = .ok () ↔ a = b := by
  rw [requireEqual, hleft, hright]
  exact raiseIf_eq_ok.trans not_not

section Checks

variable {host : Host} {crates : Crates} {request : TransactionSignRequestV1}
  {service : SignerService} {now : Datetime} {nanos : Int}

variable (host) in
theorem number_chainId (hbounds : WithinBounds request) :
    number (request.modelDumpJson host) ["chain_id"] = .ok (UInt64.ofNat request.chainId.val) :=
  number_natCast hbounds.chainId

variable (host) in
theorem number_walletNonce (hbounds : WithinBounds request) :
    number (request.modelDumpJson host) ["wallet_nonce"] =
      .ok (UInt64.ofNat request.walletNonce) :=
  number_natCast hbounds.walletNonce

theorem verifyDecisionToken_iff (hshared : SharedLibraries host crates)
    (hbounds : WithinBounds request) (key : Bytes) :
    verifyDecisionToken host request.decision key now = .ok true ↔
      now < request.decision.expiresAt ∧
        ∃ signature, fromHex request.decision.signature = some signature ∧
          host.ed25519Verify key (utf8 (dumps (request.decision.unsignedDump host))) signature =
            true := by
  have hcanonical : canonicalJson host (request.decision.unsignedDump host) =
      .ok (utf8 (dumps (request.decision.unsignedDump host))) :=
    canonicalJson_of_interoperable hshared.rfc8785
      (interoperable_decision hbounds.stateVersion)
  unfold verifyDecisionToken
  split_ifs with hexpired
  · exact ⟨nofun, fun h => absurd h.1 (not_lt.mpr hexpired)⟩
  · rw [decisionSignaturePayload, hcanonical]
    cases fromHex request.decision.signature with
    | none => simp [pure, Except.pure]
    | some signature => simp [not_le.mp hexpired, bind, Except.bind, pure, Except.pure]

theorem parseExpiry_dump {value : Json} {path : List String} {t : Datetime}
    (hread : string value path = .ok (host.datetimeText t))
    (htime : crates.parseRfc3339 (host.datetimeText t) = some (unixNanos t)) :
    parseExpiry crates value path = .ok (unixNanos t) := by
  rw [parseExpiry, hread]
  exact orRaise_eq_ok.mpr htime

/-- The signature bytes of a decision, as both sides read them. -/
theorem exists_signature (d : DecisionTokenV1) :
    ∃ signature, fromHex d.signature = some signature ∧
      decodeHex d.signature = .ok signature ∧ signature.length = 64 := by
  have hvalid := Bool.and_eq_true_iff.mp d.signature.property
  have hlength : d.signature.val.length = 128 := beq_iff_eq.mp hvalid.1
  obtain ⟨signature, hsignature⟩ := exists_toHex d.signature.val (by rw [hlength]) hvalid.2
  rw [← hsignature, length_toHex] at hlength
  refine ⟨signature, ?_, ?_, by omega⟩
  · rw [← hsignature, fromHex_toHex]
  · rw [← hsignature, decodeHex_toHex]

theorem policySigner_iff (hshared : SharedLibraries host crates)
    (hdigest : (host.sha256 service.policyKey).length = 32) (policySigner : Str) :
    crates.lower policySigner = service.policyIdentity crates ↔
      host.lower policySigner = host.lower (addressOf host service.policyKey) := by
  have hidentity : service.policyIdentity crates = addressOf host service.policyKey := by
    rw [SignerService.policyIdentity, hshared.sha256, addressOf_eq hdigest]
  rw [hidentity, addressOf_eq hdigest, hshared.hostLower.lower_prefixedHex,
    hshared.lower _ _ mem_prefixedHex, hshared.hostLower _ _ mem_prefixedHex]

theorem verdict_text_iff (verdict : DecisionVerdict) :
    verdict.text = "ALLOW".toList ↔ verdict = .allow := by
  cases verdict with
  | allow => exact iff_of_true rfl rfl
  | deny => exact iff_of_false (by decide) nofun

theorem verifyDecision_iff (hshared : SharedLibraries host crates)
    (hbounds : WithinBounds request) (htransmits : Transmits host crates request)
    (hdigest : (host.sha256 service.policyKey).length = 32) (hclock : SameReading now nanos) :
    service.verifyDecision crates (request.modelDumpJson host) nanos = .ok () ↔
      verifyDecisionToken host request.decision service.policyKey now = .ok true ∧
        host.lower request.decision.policySigner =
          host.lower (addressOf host service.policyKey) ∧
        request.decision.verdict = .allow ∧
        (service.allowedPolicyHashes ≠ [] →
          request.decision.policyHash.val ∈ service.allowedPolicyHashes) := by
  obtain ⟨signature, hsignature, hdecoded, hlength⟩ := exists_signature request.decision
  have hcanonical : crates.jcs (request.decision.unsignedDump host) =
      some (utf8 (dumps (request.decision.unsignedDump host))) :=
    hshared.jcs _ (interoperable_decision hbounds.stateVersion)
  have hexpiry : parseExpiry crates (request.decision.modelDumpJson host) ["expires_at"] =
      .ok (unixNanos request.decision.expiresAt) :=
    parseExpiry_dump rfl (htransmits.timestamps _ (by simp))
  have hpolicyHash := hshared.lower.lower_hex32 request.decision.policyHash
  have hfield : field (request.modelDumpJson host) ["decision"] =
      .ok (request.decision.modelDumpJson host) := rfl
  have hread : string (request.decision.modelDumpJson host) ["signature"] =
      .ok request.decision.signature.val := rfl
  have hsigner : string (request.decision.modelDumpJson host) ["policy_signer"] =
      .ok request.decision.policySigner.val := rfl
  have hverdict : string (request.decision.modelDumpJson host) ["verdict"] =
      .ok request.decision.verdict.text := rfl
  have hhash : string (request.decision.modelDumpJson host) ["policy_hash"] =
      .ok request.decision.policyHash.val := rfl
  rw [verifyDecisionToken_iff hshared hbounds, ← policySigner_iff hshared hdigest,
    ← verdict_text_iff, ← lt_unixNanos_iff hclock]
  unfold SignerService.verifyDecision
  simp only [hfield, hread, hdecoded, unsignedDecision_dump, hcanonical, hsigner, hverdict,
    hexpiry, hhash, hpolicyHash, hshared.ed25519Verify, ok_bind, orRaise, raiseIf_bind_eq_ok,
    raiseIf_eq_ok, hsignature, Option.some.injEq, exists_eq_left', hlength, true_and, not_le,
    ne_eq, not_not, not_and, Bool.not_eq_false]
  constructor
  · rintro ⟨hverify, hidentity, hallow, hnow, hpolicy⟩
    exact ⟨⟨hnow, hverify⟩, hidentity, hallow, hpolicy⟩
  · rintro ⟨⟨hnow, hverify⟩, hidentity, hallow, hpolicy⟩
    exact ⟨hverify, hidentity, hallow, hnow, hpolicy⟩

theorem ofNat_inj {n m : Nat} (hn : n < 2 ^ 64) (hm : m < 2 ^ 64) :
    UInt64.ofNat n = UInt64.ofNat m ↔ n = m := by
  constructor
  · intro h
    have hvalue := congrArg UInt64.toNat h
    rwa [UInt64.toNat_ofNat_of_lt' hn, UInt64.toNat_ofNat_of_lt' hm] at hvalue
  · rintro rfl
    rfl

theorem proposalHash_iff (hshared : SharedLibraries host crates)
    (hbounds : WithinBounds request) :
    requireEqual "proposal hash mismatch"
        (hashProposalJson crates (request.proposal.modelDumpJson host))
        ((string (request.decision.modelDumpJson host) ["proposal_hash"]).map crates.lower) =
        .ok () ↔
      request.proposal.proposalHash host = .ok request.decision.proposalHash.val := by
  have hsafe : isInteroperable (request.proposal.modelDump host) = true :=
    interoperable_proposal hbounds.proposalChain hbounds.proposalAmount hbounds.minimumOutput
  have hread : (string (request.decision.modelDumpJson host) ["proposal_hash"]).map
      crates.lower = .ok request.decision.proposalHash.val :=
    congrArg Except.ok (hshared.lower.lower_hex32 _)
  have hrust : hashProposalJson crates (request.proposal.modelDumpJson host) =
      .ok (prefixedHex (host.sha256 (utf8 (dumps (request.proposal.modelDump host))))) := by
    rw [hashProposalJson, removeNull_proposal, hashJson, hshared.jcs _ hsafe, hshared.sha256]
    rfl
  have hpython : request.proposal.proposalHash host =
      .ok (prefixedHex (host.sha256 (utf8 (dumps (request.proposal.modelDump host))))) := by
    rw [ProposalV1.proposalHash, ProposalV1.canonicalPayload,
      canonicalJson_of_interoperable hshared.rfc8785 hsafe]
    rfl
  rw [requireEqual_eq_ok hrust hread, hpython, Except.ok.injEq]

theorem reservation_iff :
    requireEqual "reservation mismatch"
        (string (request.modelDumpJson host) ["reservation_id"])
        (string (request.decision.modelDumpJson host) ["reservation_id"]) = .ok () ↔
      some request.reservationId = request.decision.reservationId := by
  have hread : string (request.modelDumpJson host) ["reservation_id"] =
      .ok (uuidText request.reservationId) := rfl
  have hdecision : string (request.decision.modelDumpJson host) ["reservation_id"] =
      string (optionalUuid request.decision.reservationId) [] := rfl
  rw [hdecision]
  cases request.decision.reservationId with
  | none =>
    rw [requireEqual, hread]
    exact iff_of_false nofun nofun
  | some reservationId =>
    have htext : string (optionalUuid (some reservationId)) [] =
      .ok (uuidText reservationId) := rfl
    rw [requireEqual_eq_ok hread htext, uuidText_injective.eq_iff, Option.some.injEq]

theorem verifyScope_iff (hshared : SharedLibraries host crates)
    (hbounds : WithinBounds request) (hwallet : ManagedWallet crates service request) :
    service.verifyScope crates (request.modelDumpJson host) (request.proposal.modelDumpJson host)
        (request.decision.modelDumpJson host) (bindingJson request) =
        .ok () ↔
      request.proposal.proposalHash host = .ok request.decision.proposalHash.val ∧
        some request.reservationId = request.decision.reservationId ∧
        UInt64.ofNat request.chainId.val ∈ service.allowedChains ∧
        request.chainId = request.proposal.chainId ∧
        request.transaction.chainId = request.chainId ∧
        request.transaction.wallet = request.proposal.wallet ∧
        request.transaction.walletNonce = request.walletNonce ∧
        request.transaction.asset = request.proposal.asset ∧
        request.transaction.amount = request.proposal.amount := by
  have hlowered := hshared.lower.lower_address
  have hproposalChain : number (request.proposal.modelDumpJson host) ["chain_id"] =
      .ok (UInt64.ofNat request.proposal.chainId.val) :=
    number_natCast (lt_of_safe hbounds.proposalChain)
  have hbindingChain : number (bindingJson request) ["chain_id"] =
      .ok (UInt64.ofNat request.transaction.chainId.val) := number_natCast hbounds.bindingChain
  have hproposalWallet : (string (request.proposal.modelDumpJson host) ["wallet"]).map
      crates.lower = .ok request.proposal.wallet.val := congrArg Except.ok (hlowered _)
  have hbindingWallet : (string (bindingJson request)
      ["wallet"]).map crates.lower = .ok request.transaction.wallet.val :=
    congrArg Except.ok (hlowered _)
  have hchain := number_chainId host hbounds
  have hnonce := number_walletNonce host hbounds
  have hbindingNonce : number (bindingJson request)
      ["wallet_nonce"] = .ok (UInt64.ofNat request.transaction.walletNonce) :=
    number_natCast hbounds.bindingNonce
  have hasset : string (request.proposal.modelDumpJson host) ["asset"] =
      .ok request.proposal.asset.val := rfl
  have hbindingAsset : string (bindingJson request) ["asset"] =
      .ok request.transaction.asset.val := rfl
  have hamount : number (request.proposal.modelDumpJson host) ["amount"] =
      .ok (UInt64.ofNat request.proposal.amount.val) :=
    number_natCast (lt_of_safe hbounds.proposalAmount)
  have hbindingAmount : number (bindingJson request) ["amount"] =
      .ok (UInt64.ofNat request.transaction.amount.val) := number_natCast hbounds.bindingAmount
  have hmanaged : ¬(service.managedWallets ≠ [] ∧
      request.proposal.wallet.val ∉ service.managedWallets) := by
    rintro ⟨hsome, hnot⟩
    exact hwallet.managed.elim hsome hnot
  unfold SignerService.verifyScope
  simp only [andThen_eq_ok, proposalHash_iff hshared hbounds, reservation_iff, hchain, ok_bind,
    raiseIf_eq_ok, not_not, hproposalWallet, requireEqual_eq_ok hproposalChain rfl,
    requireEqual_eq_ok hbindingChain rfl, requireEqual_eq_ok hbindingWallet rfl,
    requireEqual_eq_ok hnonce hbindingNonce, requireEqual_eq_ok hasset hbindingAsset,
    requireEqual_eq_ok hamount hbindingAmount, eq_true hwallet.identity, eq_false hmanaged,
    not_false_eq_true, true_and, Subtype.val_inj,
    ofNat_inj (lt_of_safe hbounds.proposalChain) hbounds.chainId,
    ofNat_inj hbounds.bindingChain hbounds.chainId,
    ofNat_inj hbounds.walletNonce hbounds.bindingNonce,
    ofNat_inj (lt_of_safe hbounds.proposalAmount) hbounds.bindingAmount,
    @eq_comm _ request.proposal.chainId, @eq_comm _ request.walletNonce,
    @eq_comm _ request.proposal.asset, @eq_comm _ request.proposal.amount]

theorem operation_text_injective : Function.Injective Operation.text := by
  intro left right h
  cases left <;> cases right <;> first | rfl | exact absurd h (by decide)

/-- What the shape of a transfer adds to the comparison with the proposal. -/
theorem shape_of_transfer (b : TransactionBindingV1) (htransfer : b.operation = .transfer) :
    (∃ recipient, b.recipient = some recipient) ∧ b.asset.val = nativeAsset b.chainId.val := by
  have h := b.shape
  unfold BindingFields.validateOperationShape at h
  rw [htransfer] at h
  simp only [raiseIf_bind_eq_ok, not_or, not_not] at h
  obtain ⟨⟨hrecipient, _⟩, hasset, _⟩ := h
  exact ⟨Option.ne_none_iff_exists'.mp hrecipient, hasset⟩

theorem shape_of_swap (b : TransactionBindingV1) (hswap : b.operation = .swap) :
    ∃ contract selector, b.contract = some contract ∧ b.selector = some selector := by
  have h := b.shape
  unfold BindingFields.validateOperationShape at h
  rw [hswap] at h
  simp only [raiseIf_bind_eq_ok, not_or] at h
  obtain ⟨⟨hcontract, hselector, _⟩, _⟩ := h
  obtain ⟨contract, hcontract⟩ := Option.ne_none_iff_exists'.mp hcontract
  obtain ⟨selector, hselector⟩ := Option.ne_none_iff_exists'.mp hselector
  exact ⟨contract, selector, hcontract, hselector⟩

/-- An optional field of the binding that is there. -/
theorem string_optionalText {value : Option Str} {text : Str} (h : value = some text) :
    string (optionalText value) [] = .ok text := by
  rw [h]
  rfl

theorem verifyIntent_transfer (hshared : SharedLibraries host crates)
    (hbounds : WithinBounds request) (hchains : request.transaction.chainId = request.chainId)
    {intent : TransferIntentV1} (hintent : request.proposal.intent = .transfer intent)
    (hoperation : request.transaction.operation = .transfer) :
    verifyIntent crates (request.proposal.modelDumpJson host)
        (bindingJson request) (UInt64.ofNat request.chainId.val)
        Operation.transfer.text = .ok () ↔
      request.transaction.recipient = some intent.recipient := by
  obtain ⟨⟨recipient, hrecipient⟩, hasset⟩ := shape_of_transfer request.transaction hoperation
  have hlowered := hshared.lower.lower_address
  have hop : string (bindingJson request) ["operation"] =
      .ok Operation.transfer.text := by
    rw [← hoperation]
    rfl
  have hproposal : (string (request.proposal.modelDumpJson host) ["intent", "recipient"]).map
      crates.lower = .ok intent.recipient.val := by
    rw [ProposalV1.modelDumpJson, hintent]
    exact congrArg Except.ok (hlowered _)
  have hbinding : (string (bindingJson request) ["recipient"]).map
      crates.lower = .ok recipient.val := by
    have hread : string (bindingJson request) ["recipient"] =
        .ok recipient.val := string_optionalText (by rw [hrecipient]; rfl)
    rw [hread]
    exact congrArg Except.ok (hlowered _)
  have hnative : string (bindingJson request) ["asset"] =
      .ok ("NATIVE:".toList ++ u64Text (UInt64.ofNat request.chainId.val)) := by
    rw [u64Text, UInt64.toNat_ofNat_of_lt' hbounds.chainId, ← hchains]
    exact congrArg Except.ok hasset
  have hvalue : number (bindingJson request) ["value"] =
      .ok (UInt64.ofNat request.transaction.value) := number_natCast hbounds.bindingValue
  have hamount : number (bindingJson request) ["amount"] =
      .ok (UInt64.ofNat request.transaction.value) := by
    rw [request.transaction.value_eq_amount hoperation]
    exact number_natCast hbounds.bindingAmount
  have hcalldata : string (bindingJson request) ["calldata"] =
      .ok "0x".toList :=
    congrArg Except.ok (request.transaction.calldata_eq_empty hoperation)
  have hkind : Operation.transfer.text = "transfer".toList := rfl
  unfold verifyIntent
  dsimp only
  rw [if_pos hkind]
  simp only [andThen_eq_ok, requireEqual_eq_ok hop rfl, requireEqual_eq_ok hproposal hbinding,
    requireEqual_eq_ok hnative rfl, requireEqual_eq_ok hvalue hamount,
    requireEqual_eq_ok hcalldata rfl, true_and, and_true, hrecipient, Option.some.injEq,
    Subtype.val_inj, @eq_comm _ intent.recipient]

theorem verifyIntent_swap (hshared : SharedLibraries host crates)
    {intent : SwapIntentV1} (hintent : request.proposal.intent = .swap intent)
    (hoperation : request.transaction.operation = .swap) (chainId : UInt64) :
    verifyIntent crates (request.proposal.modelDumpJson host)
        (bindingJson request) chainId Operation.swap.text = .ok () ↔
      request.transaction.contract = some intent.contract ∧
        request.transaction.selector = some intent.selector ∧
        request.transaction.calldata = intent.calldata := by
  obtain ⟨contract, selector, hcontract, hselector⟩ :=
    shape_of_swap request.transaction hoperation
  have haddress := hshared.lower.lower_address
  have hselectors : ∀ item : LowerSelector, crates.lower item = item.val := fun item =>
    hshared.lower.lower_of_matchesHex (by omega) item.property
  have hdata : ∀ data : LowerCalldata, crates.lower data = data.val := by
    intro data
    rw [← prefixedHex_hexBytes data.property]
    exact hshared.lower.lower_prefixedHex _
  have hop : string (bindingJson request) ["operation"] =
      .ok Operation.swap.text := by
    rw [← hoperation]
    rfl
  have hproposal : (string (request.proposal.modelDumpJson host) ["intent", "contract"]).map
        crates.lower = .ok intent.contract.val ∧
      (string (request.proposal.modelDumpJson host) ["intent", "selector"]).map crates.lower =
        .ok intent.selector.val ∧
      (string (request.proposal.modelDumpJson host) ["intent", "calldata"]).map crates.lower =
        .ok intent.calldata.val := by
    rw [ProposalV1.modelDumpJson, hintent]
    exact ⟨congrArg Except.ok (haddress _), congrArg Except.ok (hselectors _),
      congrArg Except.ok (hdata _)⟩
  have hbindingContract : (string (bindingJson request)
      ["contract"]).map crates.lower = .ok contract.val := by
    have hread : string (bindingJson request) ["contract"] =
        .ok contract.val := string_optionalText (by rw [hcontract]; rfl)
    rw [hread]
    exact congrArg Except.ok (haddress _)
  have hbindingSelector : (string (bindingJson request)
      ["selector"]).map crates.lower = .ok selector.val := by
    have hread : string (bindingJson request) ["selector"] =
        .ok selector.val := string_optionalText (by rw [hselector]; rfl)
    rw [hread]
    exact congrArg Except.ok (hselectors _)
  have hbindingCalldata : (string (bindingJson request)
      ["calldata"]).map crates.lower = .ok request.transaction.calldata.val :=
    congrArg Except.ok (hdata _)
  have hkind : ¬Operation.swap.text = "transfer".toList := by decide
  unfold verifyIntent
  dsimp only
  rw [if_neg hkind]
  simp only [andThen_eq_ok, requireEqual_eq_ok hop rfl,
    requireEqual_eq_ok hproposal.1 hbindingContract,
    requireEqual_eq_ok hproposal.2.1 hbindingSelector,
    requireEqual_eq_ok hproposal.2.2 hbindingCalldata, true_and, hcontract, hselector,
    Option.some.injEq, Subtype.val_inj, @eq_comm _ intent.contract, @eq_comm _ intent.selector,
    @eq_comm _ intent.calldata]

/-- A transfer carries in its shape what the signer compares beyond the recipient. -/
theorem verifyIntent_iff (hshared : SharedLibraries host crates) (hbounds : WithinBounds request)
    (hchains : request.transaction.chainId = request.chainId) :
    verifyIntent crates (request.proposal.modelDumpJson host)
        (bindingJson request) (UInt64.ofNat request.chainId.val)
        request.proposal.intent.kind.text = .ok () ↔
      request.transaction.operation = request.proposal.intent.kind ∧
        MatchesIntent request.transaction.toBindingFields request.proposal.intent := by
  by_cases hoperation : request.transaction.operation = request.proposal.intent.kind
  · rw [eq_true hoperation, true_and]
    cases hintent : request.proposal.intent with
    | transfer intent =>
      rw [hintent] at hoperation
      exact verifyIntent_transfer hshared hbounds hchains hintent hoperation
    | swap intent =>
      rw [hintent] at hoperation
      exact verifyIntent_swap hshared hintent hoperation _
  · have hread : string (bindingJson request) ["operation"] =
        .ok request.transaction.operation.text := rfl
    unfold verifyIntent
    dsimp only
    rw [andThen_eq_ok, requireEqual_eq_ok hread rfl, operation_text_injective.eq_iff]
    exact iff_of_false (fun h => hoperation h.1) fun h => hoperation h.1

theorem verifyExpiry_iff (htransmits : Transmits host crates request)
    (hclock : SameReading now nanos) :
    verifyExpiry crates (request.modelDumpJson host) (request.proposal.modelDumpJson host)
        (request.decision.modelDumpJson host) nanos = .ok () ↔
      now < request.expiresAt ∧ request.expiresAt ≤ request.decision.expiresAt ∧
        request.expiresAt ≤ request.proposal.deadline := by
  have hrequest : parseExpiry crates (request.modelDumpJson host) ["expires_at"] =
      .ok (unixNanos request.expiresAt) :=
    parseExpiry_dump rfl (htransmits.timestamps _ (by simp))
  have hdecision : parseExpiry crates (request.decision.modelDumpJson host) ["expires_at"] =
      .ok (unixNanos request.decision.expiresAt) :=
    parseExpiry_dump rfl (htransmits.timestamps _ (by simp))
  have hdeadline : parseExpiry crates (request.proposal.modelDumpJson host) ["deadline"] =
      .ok (unixNanos request.proposal.deadline) :=
    parseExpiry_dump rfl (htransmits.timestamps _ (by simp))
  unfold verifyExpiry
  simp only [hrequest, hdecision, hdeadline, ok_bind, raiseIf_bind_eq_ok, raiseIf_eq_ok, not_le,
    not_lt, lt_unixNanos_iff hclock, unixNanos_le_iff]

/-! ### The payload -/

theorem decodeEip1559_eq_ok {payload : LowerHexData} {raw : TxEip1559} :
    decodeEip1559 crates payload = .ok raw ↔
      (hexBytes payload).head? = some 2 ∧
        crates.decodeTx ((hexBytes payload).drop 1) = some (raw, []) ∧
        crates.encodedForSigning raw = hexBytes payload := by
  rw [decodeEip1559, decodeHex_payload, ok_bind, raiseIf_bind_eq_ok, orRaise_bind_eq_ok, not_not]
  constructor
  · rintro ⟨hhead, ⟨transaction, rest⟩, hdecode, h⟩
    rw [raiseIf_bind_eq_ok, pure_eq_ok] at h
    obtain ⟨hcanonical, rfl⟩ := h
    obtain ⟨hrest, hencoded⟩ := not_or.mp hcanonical
    rw [not_not.mp hrest] at hdecode
    exact ⟨hhead, hdecode, not_not.mp hencoded⟩
  · rintro ⟨hhead, hdecode, hencoded⟩
    refine ⟨hhead, (raw, []), hdecode, ?_⟩
    rw [raiseIf_bind_eq_ok]
    exact ⟨by simp [hencoded], rfl⟩

theorem priorityFee_le (b : TransactionBindingV1) :
    b.maxPriorityFeePerGas ≤ b.maxFeePerGas.val := by
  have h := b.shape
  unfold BindingFields.validateOperationShape at h
  cases hoperation : b.operation with
  | transfer =>
    rw [hoperation] at h
    simp only [raiseIf_bind_eq_ok, raiseIf_eq_ok] at h
    exact not_lt.mp h.2.2.2
  | swap =>
    rw [hoperation] at h
    simp only [raiseIf_bind_eq_ok, raiseIf_eq_ok] at h
    exact not_lt.mp h.2

/-- The transaction that the binding describes, as the signer reads it. -/
def boundTx (b : BindingFields) (target : LowerAddress) : TxEip1559 :=
  txEip1559 (unsignedTransaction b target) (hexBytes target) (hexBytes b.calldata)

theorem fitsWords_of_bounds (hbounds : WithinBounds request) (target : LowerAddress) :
    FitsWords (unsignedTransaction request.transaction.toBindingFields target) where
  chainId := hbounds.bindingChain
  nonce := hbounds.bindingNonce
  gasLimit := hbounds.gasLimit
  maxFeePerGas := lt_trans hbounds.maxFeePerGas (by norm_num)
  maxPriorityFeePerGas := lt_trans hbounds.maxPriorityFeePerGas (by norm_num)
  value := lt_trans hbounds.bindingValue (by norm_num)

variable {target : LowerAddress}

/-- The signer decodes the transaction of the binding exactly when the payload is what the
encoder of the gateway writes for it. -/
theorem decodeEip1559_iff (hshared : SharedLibraries host crates) (hbounds : WithinBounds request)
    (htarget : request.transaction.target = some target) :
    decodeEip1559 crates request.eip1559UnsignedPayload =
        .ok (boundTx request.transaction.toBindingFields target) ↔
      EncodesBinding request target := by
  have hfits := fitsWords_of_bounds hbounds target
  have hlength : (hexBytes target).length = 20 := length_hexBytes_of_matchesHex target.property
  rw [decodeEip1559_eq_ok, boundTx, hshared.encodedForSigning _ _ _ hfits hlength]
  constructor
  · rintro ⟨_, _, hencoded⟩
    refine ⟨htarget, ?_⟩
    have hencodable : Encodable
        (unsignedTransaction request.transaction.toBindingFields target) (hexBytes target)
        (hexBytes request.transaction.calldata) := {
      chainId := request.transaction.chainId.property
      gasLimit := request.transaction.gasLimit.property
      maxFeePerGas := request.transaction.maxFeePerGas.property
      priorityFee := priorityFee_le request.transaction
      targetLength := hlength
      target := (prefixedHex_hexBytes_of_matchesHex (by omega) target.property).symm
      calldata := (prefixedHex_hexBytes request.transaction.calldata.property).symm
      size := by
        rw [hencoded]
        exact hbounds.payload }
    rw [encodeUnsigned_of_encodable hencodable, hencoded, prefixedHex_hexBytes_payload]
  · rintro ⟨_, hencode⟩
    have hencodable := encodable_of_encodeUnsigned hencode
    have hbytes : hexBytes request.eip1559UnsignedPayload =
        transactionBytes (unsignedTransaction request.transaction.toBindingFields target)
          (hexBytes target) (hexBytes request.transaction.calldata) := by
      rw [encodeUnsigned_of_encodable hencodable, Except.ok.injEq] at hencode
      rw [← hencode, hexBytes_prefixedHex]
    rw [hbytes]
    exact ⟨rfl, hshared.decodeTx _ _ _ hfits hencodable, rfl⟩

theorem eq_boundTx_iff {raw : TxEip1559} {b : BindingFields} :
    raw = boundTx b target ↔
      raw.chainId = b.chainId.val ∧ raw.nonce = b.walletNonce ∧
        raw.gasLimit = b.gasLimit.val ∧ raw.maxFeePerGas = b.maxFeePerGas.val ∧
        raw.maxPriorityFeePerGas = b.maxPriorityFeePerGas ∧
        raw.target = some (hexBytes target) ∧ raw.value = b.value ∧
        raw.input = hexBytes b.calldata ∧ raw.accessList = [] := by
  constructor
  · rintro rfl
    exact ⟨rfl, rfl, rfl, rfl, rfl, rfl, rfl, rfl, rfl⟩
  · rintro ⟨hchain, hnonce, hgas, hmaximum, hpriority, htarget, hvalue, hinput, haccess⟩
    cases raw
    simp only [boundTx, txEip1559, unsignedTransaction, TxEip1559.mk.injEq]
    exact ⟨hchain, hnonce, hgas, hmaximum, hpriority, htarget, hvalue, hinput, haccess⟩

theorem exists_target (b : TransactionBindingV1) : ∃ target, b.target = some target := by
  unfold BindingFields.target
  cases hoperation : b.operation with
  | transfer => exact (shape_of_transfer b hoperation).1
  | swap =>
    obtain ⟨contract, _, hcontract, _⟩ := shape_of_swap b hoperation
    exact ⟨contract, hcontract⟩

/-- The member that names the account of the transaction. -/
theorem string_target {b : BindingFields} (h : b.target = some target) :
    string b.modelDumpJson
        [if b.operation.text = "transfer".toList then "recipient" else "contract"] =
      .ok target.val := by
  unfold BindingFields.target at h
  cases hoperation : b.operation with
  | transfer =>
    rw [hoperation] at h
    have hkind : Operation.transfer.text = "transfer".toList := rfl
    rw [if_pos hkind]
    exact string_optionalText (congrArg (Option.map Subtype.val) h)
  | swap =>
    rw [hoperation] at h
    have hkind : ¬Operation.swap.text = "transfer".toList := by decide
    rw [if_neg hkind]
    exact string_optionalText (congrArg (Option.map Subtype.val) h)

/-- The marks of the two payloads, in text and in bytes. -/
theorem typedMark_iff (payload : LowerHexData) :
    payload.val.take 6 = "0x1901".toList ↔ (hexBytes payload).take 2 = [0x19, 0x01] := by
  constructor
  · intro h
    rw [← prefixedHex_hexBytes_payload] at h
    exact take_prefixedHex_typedData h
  · intro h
    rw [← prefixedHex_hexBytes_payload, ← List.take_append_drop 2 (hexBytes payload), h]
    rfl

theorem take_of_typeTwo {payload : LowerHexData} (h : (hexBytes payload).head? = some 2) :
    payload.val.take 4 = "0x02".toList := by
  obtain ⟨rest, hrest⟩ := List.head?_eq_some_iff.mp h
  rw [← prefixedHex_hexBytes_payload, hrest]
  rfl

theorem verifyRaw_iff (hshared : SharedLibraries host crates) (hbounds : WithinBounds request)
    (hchains : request.transaction.chainId = request.chainId)
    (htarget : request.transaction.target = some target) :
    verifyRaw crates (request.modelDumpJson host) (request.decision.modelDumpJson host)
        (bindingJson request) (UInt64.ofNat request.chainId.val)
        request.transaction.operation.text = .ok () ↔
      EncodesBinding request target ∧ PayloadsBound host request := by
  have hnat : ∀ {n : Nat}, n < 2 ^ 64 → (number (.int n) []).map UInt64.toNat = .ok n := by
    intro n hn
    rw [number_natCast hn]
    exact congrArg Except.ok (UInt64.toNat_ofNat_of_lt' hn)
  have hpayload : string (request.modelDumpJson host) ["eip1559_unsigned_payload"] =
      .ok request.eip1559UnsignedPayload.val := rfl
  have hchain : (UInt64.ofNat request.chainId.val).toNat = request.transaction.chainId.val := by
    rw [hchains]
    exact UInt64.toNat_ofNat_of_lt' hbounds.chainId
  have hnonce : (number (bindingJson request)
      ["wallet_nonce"]).map UInt64.toNat = .ok request.transaction.walletNonce :=
    hnat hbounds.bindingNonce
  have hgas : (number (bindingJson request) ["gas_limit"]).map
      UInt64.toNat = .ok request.transaction.gasLimit.val := hnat hbounds.gasLimit
  have hmaximum : (number (bindingJson request)
      ["max_fee_per_gas"]).map UInt64.toNat = .ok request.transaction.maxFeePerGas.val :=
    hnat hbounds.maxFeePerGas
  have hpriority : (number (bindingJson request)
      ["max_priority_fee_per_gas"]).map UInt64.toNat =
      .ok request.transaction.maxPriorityFeePerGas := hnat hbounds.maxPriorityFeePerGas
  have hvalue : (number (bindingJson request) ["value"]).map
      UInt64.toNat = .ok request.transaction.value := hnat hbounds.bindingValue
  have hcalldata : string (bindingJson request) ["calldata"] =
      .ok request.transaction.calldata.val := rfl
  have hinput : decodeHex request.transaction.calldata =
      .ok (hexBytes request.transaction.calldata) := by
    conv_lhs => rw [← prefixedHex_hexBytes request.transaction.calldata.property]
    exact decodeHex_prefixedHex _
  have h1559 : string (request.modelDumpJson host) ["eip1559_hash"] =
      .ok request.eip1559Hash.val := rfl
  have h712 : string (request.modelDumpJson host) ["eip712_hash"] =
      .ok request.eip712Hash.val := rfl
  have htyped : string (request.modelDumpJson host) ["eip712_payload"] =
      .ok request.eip712Payload.val := rfl
  have hproposal : string (request.decision.modelDumpJson host) ["proposal_hash"] =
      .ok request.decision.proposalHash.val := rfl
  have hhash := decodeHex_of_matchesHex (by omega) request.decision.proposalHash.property
  have hlowered := hshared.lower.lower_hex32
  rw [← decodeEip1559_iff hshared hbounds htarget, ← validatePayloads_eq_ok_iff, verifyRaw,
    validatePayloads]
  dsimp only
  rw [hpayload, ok_bind, bind_eq_ok]
  simp only [hchain, hnonce, hgas, hmaximum, hpriority, hvalue, hcalldata, hinput, h1559, h712,
    htyped, hproposal, hhash, hlowered, string_target htarget, hshared.parseAddress,
    decodeHex_payload, hshared.keccak, ok_bind, requireEqual, orRaise, raiseIf_bind_eq_ok,
    raiseIf_eq_ok, not_not, not_or, typedMark_iff]
  constructor
  · rintro ⟨raw, hraw, hrawChain, hrawNonce, hrawGas, hrawMaximum, hrawPriority, hrawTarget,
      hrawValue, hrawInput, hrawAccess, hdigest, ⟨hlength, hmark, hbound⟩, htypedDigest⟩
    obtain rfl : raw = boundTx request.transaction.toBindingFields target :=
      eq_boundTx_iff.mpr ⟨hrawChain, hrawNonce, hrawGas, hrawMaximum, hrawPriority, hrawTarget,
        hrawValue, hrawInput, hrawAccess⟩
    obtain ⟨hhead, _, hencoded⟩ := decodeEip1559_eq_ok.mp hraw
    rw [hencoded] at hdigest
    exact ⟨hraw, hmark, take_of_typeTwo hhead, htypedDigest, hdigest, hlength, hbound⟩
  · rintro ⟨hraw, hmark, _, htypedDigest, hdigest, hlength, hbound⟩
    obtain ⟨_, _, hencoded⟩ := decodeEip1559_eq_ok.mp hraw
    refine ⟨_, hraw, rfl, rfl, rfl, rfl, rfl, rfl, rfl, rfl, rfl, ?_, ⟨hlength, hmark, hbound⟩,
      htypedDigest⟩
    rw [hencoded]
    exact hdigest

/-! ### The whole call -/

/-- Proposal, reservation, chain, wallet, nonce, asset and amount, as the gate compares
them. -/
structure ScopeMatches (host : Host) (service : SignerService)
    (request : TransactionSignRequestV1) : Prop where
  proposalHash : request.proposal.proposalHash host = .ok request.decision.proposalHash.val
  reservation : some request.reservationId = request.decision.reservationId
  allowedChain : UInt64.ofNat request.chainId.val ∈ service.allowedChains
  proposalChain : request.chainId = request.proposal.chainId
  bindingChain : request.transaction.chainId = request.chainId
  wallet : request.transaction.wallet = request.proposal.wallet
  bindingNonce : request.transaction.walletNonce = request.walletNonce
  asset : request.transaction.asset = request.proposal.asset
  amount : request.transaction.amount = request.proposal.amount

theorem verifyBinding_iff (hshared : SharedLibraries host crates)
    (hbounds : WithinBounds request) (htransmits : Transmits host crates request)
    (hwallet : ManagedWallet crates service request) (hclock : SameReading now nanos) :
    service.verifyBinding crates (request.modelDumpJson host) nanos = .ok () ↔
      ScopeMatches host service request ∧ BindsProposal request ∧
        (now < request.expiresAt ∧ request.expiresAt ≤ request.decision.expiresAt ∧
          request.expiresAt ≤ request.proposal.deadline) ∧
        (∃ target, EncodesBinding request target) ∧ PayloadsBound host request := by
  obtain ⟨target, htarget⟩ := exists_target request.transaction
  have hchain := number_chainId host hbounds
  have hkind : string (request.proposal.modelDumpJson host) ["intent", "kind"] =
      .ok request.proposal.intent.kind.text := by
    rw [ProposalV1.modelDumpJson]
    cases request.proposal.intent <;> rfl
  have hsplit : service.verifyBinding crates (request.modelDumpJson host) nanos = .ok () ↔
      service.verifyScope crates (request.modelDumpJson host)
          (request.proposal.modelDumpJson host) (request.decision.modelDumpJson host)
          (bindingJson request) = .ok () ∧
        verifyIntent crates (request.proposal.modelDumpJson host)
          (bindingJson request) (UInt64.ofNat request.chainId.val)
          request.proposal.intent.kind.text = .ok () ∧
        verifyExpiry crates (request.modelDumpJson host) (request.proposal.modelDumpJson host)
          (request.decision.modelDumpJson host) nanos = .ok () ∧
        verifyRaw crates (request.modelDumpJson host) (request.decision.modelDumpJson host)
          (bindingJson request) (UInt64.ofNat request.chainId.val)
          request.proposal.intent.kind.text = .ok () := by
    have hproposal : field (request.modelDumpJson host) ["proposal"] =
      .ok (request.proposal.modelDumpJson host) := rfl
    have hdecision : field (request.modelDumpJson host) ["decision"] =
      .ok (request.decision.modelDumpJson host) := rfl
    have htransaction : field (request.modelDumpJson host) ["transaction"] =
      .ok (bindingJson request) := rfl
    unfold SignerService.verifyBinding
    simp only [hproposal, hdecision, htransaction, hchain, hkind, ok_bind, andThen_eq_ok]
  have hexists : (∃ other, EncodesBinding request other) ↔ EncodesBinding request target := by
    constructor
    · rintro ⟨other, hother, hencode⟩
      obtain rfl : target = other := Option.some.inj (htarget.symm.trans hother)
      exact ⟨hother, hencode⟩
    · exact fun h => ⟨target, h⟩
  rw [hsplit, hexists, verifyExpiry_iff htransmits hclock, verifyScope_iff hshared hbounds hwallet]
  constructor
  · rintro ⟨⟨hhash, hreservation, hallowed, hproposalChain, hbindingChain, hwallets, hnonce,
      hasset, hamount⟩, hintent, hexpiry, hraw⟩
    obtain ⟨hoperation, hmatches⟩ := (verifyIntent_iff hshared hbounds hbindingChain).mp hintent
    rw [← hoperation] at hraw
    obtain ⟨hencodes, hpayloads⟩ := (verifyRaw_iff hshared hbounds hbindingChain htarget).mp hraw
    exact ⟨⟨hhash, hreservation, hallowed, hproposalChain, hbindingChain, hwallets, hnonce, hasset,
      hamount⟩, ⟨hoperation, hasset, hamount, hmatches⟩, hexpiry, hencodes, hpayloads⟩
  · rintro ⟨hscope, hbinds, hexpiry, hencodes, hpayloads⟩
    refine ⟨⟨hscope.proposalHash, hscope.reservation, hscope.allowedChain, hscope.proposalChain,
      hscope.bindingChain, hscope.wallet, hscope.bindingNonce, hscope.asset, hscope.amount⟩,
      ?_, hexpiry, ?_⟩
    · exact (verifyIntent_iff hshared hbounds hscope.bindingChain).mpr
        ⟨hbinds.operation, hbinds.intent⟩
    · rw [← hbinds.operation]
      exact (verifyRaw_iff hshared hbounds hscope.bindingChain htarget).mpr ⟨hencodes, hpayloads⟩

/-- The admission of a request that passes every check. -/
def admission (request : TransactionSignRequestV1) : Signer.Admission where
  decisionNonce := uuidText request.decision.decisionNonce
  wallet := request.proposal.wallet
  chainId := UInt64.ofNat request.chainId.val
  walletNonce := UInt64.ofNat request.walletNonce
  digestHex := request.eip1559Hash

theorem authorize_eq_ok_iff (hshared : SharedLibraries host crates)
    (hbounds : WithinBounds request) (htransmits : Transmits host crates request)
    {decisionNow bindingNow : Int} {a : Signer.Admission} :
    service.authorize crates (request.authorizationJson host) decisionNow bindingNow = .ok a ↔
      service.verifyDecision crates (request.modelDumpJson host) decisionNow = .ok () ∧
        service.verifyBinding crates (request.modelDumpJson host) bindingNow = .ok () ∧
        admission request = a := by
  have hparse := parseAuthorization_dump hbounds htransmits
  have hnonce : string (request.modelDumpJson host) ["decision", "decision_nonce"] =
      .ok (uuidText request.decision.decisionNonce) := rfl
  have hwallet : string (request.modelDumpJson host) ["proposal", "wallet"] =
      .ok request.proposal.wallet.val := rfl
  have hchain := number_chainId host hbounds
  have hwalletNonce := number_walletNonce host hbounds
  have hdigest : string (request.modelDumpJson host) ["eip1559_hash"] =
      .ok request.eip1559Hash.val := rfl
  have hlower := hshared.lower.lower_address request.proposal.wallet
  unfold SignerService.authorize
  simp only [mapError_bind_eq_ok, hparse, hnonce, hwallet, hchain, hwalletNonce, hdigest, hlower,
    Except.ok.injEq, exists_eq_left', pure_eq_ok]
  constructor
  · rintro ⟨_, hdecision, _, hbinding, rfl⟩
    exact ⟨hdecision, hbinding, rfl⟩
  · rintro ⟨hdecision, hbinding, rfl⟩
    exact ⟨(), hdecision, (), hbinding, rfl⟩

theorem accept_eq_ok_iff (hshared : SharedLibraries host crates) (hbounds : WithinBounds request)
    (htransmits : Transmits host crates request) {replay : ReplayState}
    {decisionNow bindingNow : Int} {a : Signer.Admission} :
    service.accept crates replay (request.authorizationJson host) decisionNow bindingNow = .ok a ↔
      service.verifyDecision crates (request.modelDumpJson host) decisionNow = .ok () ∧
        service.verifyBinding crates (request.modelDumpJson host) bindingNow = .ok () ∧
        uuidText request.decision.decisionNonce ∉ replay.usedDecisions ∧
        UInt64.ofNat request.walletNonce = replay.expectedNonce (admission request).key ∧
        admission request = a := by
  rw [SignerService.accept, bind_eq_ok]
  simp only [authorize_eq_ok_iff hshared hbounds htransmits, raiseIf_bind_eq_ok, pure_eq_ok,
    not_not]
  constructor
  · rintro ⟨_, ⟨hdecision, hbinding, rfl⟩, hfresh, hnonce, rfl⟩
    exact ⟨hdecision, hbinding, hfresh, hnonce, rfl⟩
  · rintro ⟨hdecision, hbinding, hfresh, hnonce, rfl⟩
    exact ⟨_, ⟨hdecision, hbinding, rfl⟩, hfresh, hnonce, rfl⟩

end Checks

/-! ## The two replay states -/

variable {gate : SignerAuthorizationGate} {service : SignerService} {replay : ReplayState}
  {request : TransactionSignRequestV1}

theorem allowedChain_iff (hstate : SameState gate service replay) (hbounds : WithinBounds request) :
    UInt64.ofNat request.chainId.val ∈ service.allowedChains ↔
      request.chainId.val ∈ gate.allowedChainIds := by
  rw [← hstate.chains, UInt64.toNat_ofNat_of_lt' hbounds.chainId]

theorem nextNonce_iff (hstate : SameState gate service replay) (hbounds : WithinBounds request) :
    UInt64.ofNat request.walletNonce = replay.expectedNonce (admission request).key ↔
      request.walletNonce = gate.expectedNonce request := by
  have hkey := hstate.nonces request.proposal.wallet.val (UInt64.ofNat request.chainId.val)
  rw [UInt64.toNat_ofNat_of_lt' hbounds.chainId] at hkey
  have hexpected : gate.expectedNonce request =
      (replay.expectedNonce (admission request).key).toNat := by
    rw [SignerAuthorizationGate.expectedNonce, SignerAuthorizationGate.walletKey, hkey,
      ReplayState.expectedNonce]
    change _ = ((replay.nextWalletNonce.get?
      (request.proposal.wallet.val, UInt64.ofNat request.chainId.val)).getD 0).toNat
    cases replay.nextWalletNonce.get? (request.proposal.wallet.val,
      UInt64.ofNat request.chainId.val) <;> rfl
  rw [hexpected, ← UInt64.toNat_inj, UInt64.toNat_ofNat_of_lt' hbounds.walletNonce]

theorem policyHash_iff {crates : Crates} (hshared : SharedLibraries host crates)
    (hstate : SameState gate service replay) :
    (∀ hashes, gate.allowedPolicyHashes = some hashes →
        host.lower request.decision.policyHash ∈ hashes) ↔
      (service.allowedPolicyHashes ≠ [] →
        request.decision.policyHash.val ∈ service.allowedPolicyHashes) := by
  rw [hstate.policyHashes, hshared.hostLower.lower_hex32]
  by_cases hempty : service.allowedPolicyHashes = []
  · simp [hempty]
  · simp [hempty]

/-- The reference gate and the production signer accept the same requests. -/
theorem gate_accepts_iff_signer_accepts {host : Host} {crates : Crates}
    {gate : SignerAuthorizationGate} {service : SignerService} {replay : ReplayState}
    {request : TransactionSignRequestV1} {now : Datetime} {nanos : Int}
    (hshared : SharedLibraries host crates) (htransmits : Transmits host crates request)
    (hbounds : WithinBounds request) (hwallet : ManagedWallet crates service request)
    (hstate : SameState gate service replay)
    (hdigest : (host.sha256 service.policyKey).length = 32) (hclock : SameReading now nanos) :
    (∃ gate', gate.validateAndConsume host request now = .ok gate') ↔
      ∃ a, service.accept crates replay (request.authorizationJson host) nanos nanos = .ok a := by
  rw [validateAndConsume_isOk_iff]
  simp only [accept_eq_ok_iff hshared hbounds htransmits, exists_and_left, exists_eq', and_true]
  rw [verifyDecision_iff hshared hbounds htransmits hdigest hclock,
    verifyBinding_iff hshared hbounds htransmits hwallet hclock, nextNonce_iff hstate hbounds,
    ← policyHash_iff hshared hstate, ← hstate.decisions, ← hstate.policyKey]
  constructor
  · rintro ⟨h, hpayloads, hproposal, hbinding⟩
    exact ⟨⟨h.verified, h.policySigner, h.verdict, h.policyHash⟩,
      ⟨⟨h.proposalHash, h.reservation, (allowedChain_iff hstate hbounds).mpr h.allowedChain,
        h.proposalChain, h.bindingChain, h.wallet, h.bindingNonce, hproposal.asset,
        hproposal.amount⟩, hproposal, ⟨h.unexpired, h.withinDecision, h.withinDeadline⟩, hbinding,
        hpayloads⟩, h.fresh, h.nextNonce⟩
  · rintro ⟨⟨hverified, hsigner, hverdict, hpolicy⟩, ⟨h, hproposal, hexpiry, hbinding, hpayloads⟩,
      hfresh, hnonce⟩
    exact ⟨⟨hexpiry.1, hverified, hsigner, hverdict, hpolicy, h.proposalHash, h.reservation,
      (allowedChain_iff hstate hbounds).mp h.allowedChain, h.proposalChain, h.bindingChain,
      h.wallet, h.bindingNonce, hexpiry.2.1, hexpiry.2.2, hfresh, hnonce⟩, hpayloads, hproposal,
      hbinding⟩

/-! ## A request that both accept -/

theorem typedData_size_pos : 0 < 66 := by decide

theorem unsignedPayload_size_pos : 0 < 43 := by decide

open AttestationSoundness AtMostOnce in
/-- The request for the transfer of the honest attestation. -/
def transferSignRequest : TransactionSignRequestV1 where
  proposal := honestAttestation.proposal
  decision := honestDecision
  reservationId := 0x19f7518fe0070008000000000000013
  walletNonce := 0
  chainId := 31337
  transaction := honestAttestation.transactionBinding
  eip712Payload := lowerHexData 66 AtMostOnce.typedData typedData_size_pos
  eip1559UnsignedPayload := lowerHexData 43 unsignedPayload unsignedPayload_size_pos
  eip712Hash := hex32 typedDataHash
  eip1559Hash := hex32 signingHash
  expiresAt := sampleExpiry

def signerHost : Host := { AttestationSoundness.attestationHost with
  sha256 := AtMostOnce.sampleCrates.sha256
  keccak := AtMostOnce.sampleCrates.keccak }

def unsignedOf (transaction : TxEip1559) : UnsignedEip1559 where
  chainId := transaction.chainId
  nonce := transaction.nonce
  maxPriorityFeePerGas := transaction.maxPriorityFeePerGas
  maxFeePerGas := transaction.maxFeePerGas
  gasLimit := transaction.gasLimit
  target := prefixedHex (transaction.target.getD [])
  value := transaction.value
  calldata := prefixedHex transaction.input

/-- The crates on the text of the request, with alloy as the decoder of the gateway. -/
def signerCrates : Crates := { AtMostOnce.sampleCrates with
  parseJson := fun bytes =>
    if bytes = transferSignRequest.authorizationJson signerHost then
      some (transferSignRequest.modelDumpJson signerHost)
    else none
  decodeTx := fun bytes =>
    match decodeUnsignedEip1559 (prefixedHex (2 :: bytes)) with
    | .error _ => none
    | .ok u => some (txEip1559 u (hexBytes u.target) (hexBytes u.calldata), [])
  encodedForSigning := fun transaction =>
    transactionBytes (unsignedOf transaction) (transaction.target.getD []) transaction.input
  parseAddress := fun text => some (hexBytes text) }

theorem sharedLibraries_sample : SharedLibraries signerHost signerCrates where
  sha256 := rfl
  keccak := rfl
  ed25519Verify := rfl
  rfc8785 := by
    intro package hpackage value _
    cases hpackage
    rfl
  jcs := fun _ _ => rfl
  hostLower := fun _ _ _ => Iff.rfl
  lower := fun _ _ _ => Iff.rfl
  parseAddress := fun _ => rfl
  encodedForSigning := fun _ _ _ _ _ => rfl
  decodeTx := by
    intro u targetBytes calldataBytes _ hencodable
    have hdecode := decodeUnsigned_of_encodable hencodable
    have htarget : hexBytes u.target = targetBytes := by
      rw [hencodable.target, hexBytes_prefixedHex]
    have hcalldata : hexBytes u.calldata = calldataBytes := by
      rw [hencodable.calldata, hexBytes_prefixedHex]
    change (match decodeUnsignedEip1559 (prefixedHex
        (transactionBytes u targetBytes calldataBytes)) with
      | .error _ => none
      | .ok u => some (txEip1559 u (hexBytes u.target) (hexBytes u.calldata), [])) = _
    rw [hdecode]
    change some (txEip1559 u (hexBytes u.target) (hexBytes u.calldata), ([] : Bytes)) = _
    rw [htarget, hcalldata]

theorem withinBounds_sample : WithinBounds transferSignRequest where
  proposalChain := by decide
  proposalAmount := by decide
  minimumOutput := by
    intro intent hintent
    cases hintent
  stateVersion := by decide
  walletNonce := by decide
  chainId := by decide
  bindingChain := by decide
  bindingNonce := by decide
  bindingAmount := by decide
  bindingValue := by decide
  gasLimit := by decide
  maxFeePerGas := by decide
  maxPriorityFeePerGas := by decide
  payload := by decide +kernel

theorem transmits_sample : Transmits signerHost signerCrates transferSignRequest where
  json := by
    simp only [signerCrates, if_true]
  timestamps := by
    simp only [List.forall_mem_cons]
    refine ⟨?_, ?_, ?_, ?_⟩
    · decide +kernel
    · decide +kernel
    · decide +kernel
    · simp

theorem sameState_sample : SameState (.init signerHost policyKey [31337] none)
    AtMostOnce.sampleService .default where
  policyKey := rfl
  chains := by
    intro chainId
    simp only [SignerAuthorizationGate.init, AtMostOnce.sampleService, List.mem_singleton]
    exact UInt64.toNat_inj (b := 31337)
  policyHashes := rfl
  decisions := by
    intro nonce
    simp [SignerAuthorizationGate.init, ReplayState.default]
  nonces := by
    intro wallet chainId
    rfl

theorem transferSignRequest_accepted :
    (∃ gate', (SignerAuthorizationGate.init signerHost policyKey [31337] none).validateAndConsume
        signerHost transferSignRequest sampleNow = .ok gate') ∧
      ∃ a, AtMostOnce.sampleService.accept signerCrates .default
        (transferSignRequest.authorizationJson signerHost) 1784376000000000000
        1784376000000000000 = .ok a := by
  have hgate : ∃ gate', (SignerAuthorizationGate.init signerHost policyKey [31337]
      none).validateAndConsume signerHost transferSignRequest sampleNow = .ok gate' :=
    exists_eq_ok (by decide +kernel)
  refine ⟨hgate, (gate_accepts_iff_signer_accepts sharedLibraries_sample transmits_sample
    withinBounds_sample ⟨?_, Or.inl rfl⟩ sameState_sample ?_ ?_).mp hgate⟩
  · decide +kernel
  · decide +kernel
  · constructor <;> decide +kernel

end AegisLedger.Gateway.SignerAgreement
