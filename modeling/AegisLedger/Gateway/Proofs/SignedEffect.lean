import AegisLedger.Gateway.Policy
import AegisLedger.Gateway.Signing

/-!
# What an accepted sign request makes the wallet do

The gate compares the proposal with the binding and the binding with the decoded
payload.  Composing the two comparisons gives the target and calldata of the
payload in terms of the proposal, and for a transfer its value as well.  Two
fields of a swap escape: the selector that the policy evaluates is never compared
with the calldata, and the native value is never compared with the amount.
-/

namespace AegisLedger.Gateway.SignedEffect

open AegisLedger.Support HexText Checks Eip1559
open SignerAuthorizationGate

/-! ## Inversion of the gate -/

/-- The binding carries the fields of the intent. -/
def MatchesIntent (b : BindingFields) : IntentV1 → Prop
  | .transfer intent => b.recipient = some intent.recipient
  | .swap intent => b.contract = some intent.contract ∧
      b.selector = some intent.selector ∧ b.calldata = intent.calldata

/-- The decoded payload carries the fields of the binding. -/
structure BindsRaw (b : BindingFields) (raw : UnsignedEip1559) : Prop where
  chainId : raw.chainId = b.chainId.val
  nonce : raw.nonce = b.walletNonce
  target : some raw.target = b.target.map Subtype.val
  value : raw.value = b.value
  calldata : raw.calldata = b.calldata.val
  gasLimit : raw.gasLimit = b.gasLimit.val
  maxFeePerGas : raw.maxFeePerGas = b.maxFeePerGas.val
  maxPriorityFeePerGas : raw.maxPriorityFeePerGas = b.maxPriorityFeePerGas

variable {request : TransactionSignRequestV1}

theorem validateBinding_eq_ok (h : validateBinding request = .ok ()) :
    request.transaction.operation = request.proposal.intent.kind ∧
      request.transaction.asset = request.proposal.asset ∧
      request.transaction.amount = request.proposal.amount ∧
      MatchesIntent request.transaction.toBindingFields request.proposal.intent := by
  unfold validateBinding at h
  simp only [raiseIf_bind_eq_ok, not_not] at h
  obtain ⟨hop, hasset, hamount, hintent⟩ := h
  refine ⟨hop, hasset, hamount, ?_⟩
  cases hcase : request.proposal.intent with
  | transfer intent =>
    rw [hcase] at hintent
    simpa [MatchesIntent] using hintent
  | swap intent =>
    rw [hcase] at hintent
    simpa [MatchesIntent] using hintent

theorem validateRaw_eq_ok (h : validateRaw request = .ok ()) {raw : UnsignedEip1559}
    (hraw : decodeUnsignedEip1559 request.eip1559UnsignedPayload = .ok raw) :
    BindsRaw request.transaction.toBindingFields raw := by
  unfold validateRaw at h
  rw [hraw] at h
  simp only [mapError_bind_eq_ok, raiseIf_bind_eq_ok, raiseIf_eq_ok, Except.ok.injEq,
    not_not, not_or, exists_eq_left'] at h
  obtain ⟨⟨hchain, hnonce⟩, htarget, hvalue, hcalldata, hgas, hmax, hpriority⟩ := h
  exact ⟨hchain, hnonce, htarget, hvalue, hcalldata, hgas, hmax, hpriority⟩

/-- What the first part of the gate has established when it returns. -/
structure Authorized (host : Host) (gate : SignerAuthorizationGate)
    (request : TransactionSignRequestV1) (now : Datetime) : Prop where
  unexpired : now < request.expiresAt
  verified : verifyDecisionToken host request.decision gate.policyPublicKey now = .ok true
  policySigner : host.lower request.decision.policySigner =
    host.lower (addressOf host gate.policyPublicKey)
  verdict : request.decision.verdict = .allow
  policyHash : ∀ hashes, gate.allowedPolicyHashes = some hashes →
    host.lower request.decision.policyHash ∈ hashes
  proposalHash : request.proposal.proposalHash host = .ok request.decision.proposalHash.val
  reservation : some request.reservationId = request.decision.reservationId
  allowedChain : request.chainId.val ∈ gate.allowedChainIds
  proposalChain : request.chainId = request.proposal.chainId
  bindingChain : request.transaction.chainId = request.chainId
  wallet : request.transaction.wallet = request.proposal.wallet
  bindingNonce : request.transaction.walletNonce = request.walletNonce
  withinDecision : request.expiresAt ≤ request.decision.expiresAt
  withinDeadline : request.expiresAt ≤ request.proposal.deadline
  fresh : request.decision.decisionNonce ∉ gate.usedDecisions
  nextNonce : request.walletNonce = gate.expectedNonce request

theorem authorized_of_validateAuthorization {host : Host} {gate : SignerAuthorizationGate}
    {now : Datetime} (h : gate.validateAuthorization host request now = .ok ()) :
    Authorized host gate request now := by
  unfold validateAuthorization at h
  simp only [raiseIf_bind_eq_ok, raiseIf_eq_ok, mapError_bind_eq_ok, not_not, not_or,
    not_le, not_lt, not_exists, not_and] at h
  obtain ⟨hexp, verified, hver, htrue, hsigner, hverdict, hpolicy, hash, hhash, hmatch,
    hres, hallowed, ⟨hpc, hbc⟩, hwallet, hbn, ⟨hdec, hdead⟩, hfresh, hnext⟩ := h
  refine ⟨hexp, ?_, hsigner, hverdict, hpolicy, ?_, hres, hallowed, hpc, hbc, hwallet,
    hbn, hdec, hdead, hfresh, hnext⟩
  · rw [hver, Bool.eq_true_of_not_eq_false htrue]
  · rw [hhash, hmatch]

theorem parts_of_validateAndConsume {host : Host} {gate gate' : SignerAuthorizationGate}
    {now : Datetime} (h : gate.validateAndConsume host request now = .ok gate') :
    Authorized host gate request now ∧ validatePayloads host request = .ok () ∧
      validateBinding request = .ok () ∧ validateRaw request = .ok () := by
  unfold validateAndConsume validate at h
  simp only [bind_eq_ok] at h
  obtain ⟨_, ⟨_, hauth, _, hpayloads, _, hbinding, hraw⟩, _⟩ := h
  exact ⟨authorized_of_validateAuthorization hauth, hpayloads, hbinding, hraw⟩

/-! ## Sample requests

One policy, one swap contract for which it allows the selector `0x12345678`, and
proposals for that selector that differ in their calldata.  Digests and signatures
are real ones. -/

/-- The low `size` bytes of `n`. -/
def bytesLiteral (size n : Nat) : Bytes :=
  (List.range size).reverse.map (fun i => UInt8.ofNat (n / 256 ^ i % 256))

def sampleNow : Datetime := 63919972800000000

def sampleExpiry : Datetime := 63919972830000000

def sampleDeadline : Datetime := 63919973100000000

def sampleContract : LowerAddress := lowerAddress 0x5656565656565656565656565656565656565656

def sampleWallet : LowerAddress := lowerAddress 0x1212121212121212121212121212121212121212

def sampleAsset : AssetId := ⟨"NATIVE:31337".toList, by decide +kernel⟩

def researcher : BoundedStr 1 128 := ⟨"researcher".toList, by decide⟩

def sampleProposalId : {u : Uuid // uuidVersion u = some 7} :=
  ⟨0x19f7518fe0070008000000000000001, by decide +kernel⟩

def samplePolicy : PolicyV1 where
  name := ⟨"research".toList, by decide⟩
  enabledWallets := [sampleWallet]
  enabledPrincipals := [researcher]
  enabledChains := [31337]
  enabledAssets := [sampleAsset]
  allowedRecipients := []
  contractRules := [⟨sampleContract, [⟨"0x12345678".toList, by decide +kernel⟩]⟩]
  perTransactionCap := 1000
  rollingCaps := [⟨3600, 5000⟩]
  maximumTransactionsPerHour := 10
  mandateRequiredAbove := 500
  risk := ⟨⟨50, by decide⟩, 30, true⟩
  emergencyStop := false
  coherent := by decide

def sampleProposal (calldata : LowerCalldata) : ProposalV1 where
  proposalId := sampleProposalId
  principalId := researcher
  wallet := sampleWallet
  chainId := 31337
  asset := sampleAsset
  amount := 100
  intent := .swap ⟨sampleContract, lowerSelector 0x12345678, calldata, 1, sampleAsset⟩
  deadline := sampleDeadline
  idempotencyKey := ⟨"signer-swap-request".toList, by decide⟩
  mandateId := none
  quoteReference := some ⟨"quote-1".toList, by decide⟩

def sampleDecision (proposalHash signature : Nat) : DecisionTokenV1 where
  decisionId := 0x19f7518fe0070008000000000000011
  proposalHash := hex32 proposalHash
  policyVersionId := 0x19f7518fe0070008000000000000012
  policyHash := hex32 1
  stateVersion := 1
  reservationId := some 0x19f7518fe0070008000000000000013
  verdict := .allow
  reasonCodes := []
  expiresAt := sampleExpiry
  decisionNonce := 0x19f7518fe0070008000000000000014
  policySigner := ⟨hexLiteral 40 0x9f1cf756aabef72c3b2a187069b5efad0aa3d765, by decide +kernel⟩
  signature := ⟨lowHexDigits 128 signature, by
    rw [length_lowHexDigits, all_lowHexDigits]
    rfl⟩
  reservationMatchesVerdict := by decide

def sampleBinding (calldata : LowerCalldata) (value : Nat) (gasLimit : PosInt) :
    TransactionBindingV1 where
  operation := .swap
  wallet := sampleWallet
  chainId := 31337
  walletNonce := 0
  asset := sampleAsset
  amount := 100
  recipient := none
  contract := some sampleContract
  selector := some (lowerSelector 0x12345678)
  calldata := calldata
  value := value
  gasLimit := gasLimit
  maxFeePerGas := 1000000000
  maxPriorityFeePerGas := 100000000
  shape := rfl

/-- A request for `sampleProposal calldata`.  The EIP-712 payload ends in the
proposal hash. -/
def sampleRequest (calldata : LowerCalldata) (decision : DecisionTokenV1)
    (value : Nat) (gasLimit : PosInt) (proposalHash eip712Hash : Nat) (payload : LowerHexData)
    (eip1559Hash : Nat) : TransactionSignRequestV1 where
  proposal := sampleProposal calldata
  decision := decision
  reservationId := 0x19f7518fe0070008000000000000013
  walletNonce := 0
  chainId := 31337
  transaction := sampleBinding calldata value gasLimit
  eip712Payload := lowerHexData 66
    (0x1901abababababababababababababababababababababababababababababababab * 2 ^ 256 +
      proposalHash) (by decide)
  eip1559UnsignedPayload := payload
  eip712Hash := hex32 eip712Hash
  eip1559Hash := hex32 eip1559Hash
  expiresAt := sampleExpiry

/-- Calldata that starts with the evaluated selector. -/
def swapCalldata : LowerCalldata := lowerCalldata 4 0x12345678

def swapProposalHash : Nat :=
  0x767692bda385c93de4fde7faf45f32f277af40b66dbb3983bb33d21a93a9b037

def swapDecision : DecisionTokenV1 := sampleDecision swapProposalHash
  (0x7befd99daf6b4133b3aa101e6541eb6209a27b18b8338982a379cbeb247e0a6d * 2 ^ 256 +
    0xeca77f0c3473436ec83fbc3656617d84e8db5c65c6dddcfad19c10a3bcdd540f)

/-- A request for the swap of `swapCalldata`. -/
def swapRequest (value : Nat) (gasLimit : PosInt) (payload : LowerHexData)
    (eip1559Hash : Nat) : TransactionSignRequestV1 :=
  sampleRequest swapCalldata swapDecision value gasLimit swapProposalHash
    0x3f230a6d281dc7193cbf102cb77098532494e29aa872abff4afed8cd0055e712 payload eip1559Hash

/-- The swap without native value. -/
def plainRequest : TransactionSignRequestV1 := swapRequest 0 100000
  (lowerHexData 48
    (0x02ee827a69808405f5e100843b9aca00830186a094 * 2 ^ 216 +
      0x5656565656565656565656565656565656565656808412345678c0) (by decide))
  0xf42fb81e7ab30340c4af48d0d06868d449c9eab267a34f24a2cf279eb3dbee01

/-- The swap without native value, with another gas limit. -/
def gasRequest : TransactionSignRequestV1 := swapRequest 0 120000
  (lowerHexData 48
    (0x02ee827a69808405f5e100843b9aca008301d4c094 * 2 ^ 216 +
      0x5656565656565656565656565656565656565656808412345678c0) (by decide))
  0xfe14a27d63b4e15a2aacc26ab7fdac7b0065c987a67bf22125837124c8f8ee05

/-- The swap with 5000 units of native value. -/
def valueRequest : TransactionSignRequestV1 := swapRequest 5000 100000
  (lowerHexData 50
    (0x02f0827a69808405f5e100843b9aca00830186a094 * 2 ^ 232 +
      0x56565656565656565656565656565656565656568213888412345678c0) (by decide))
  0xe73be88f55a9541f863e2ead65ef000c946430cbf65d111a876818d30e2f607d

/-- Calldata of an ERC-20 `transfer` of 100 units to `0x99..99`. -/
def transferCalldata : LowerCalldata := lowerCalldata 68
  (0xa9059cbb * 2 ^ 512 + 0x9999999999999999999999999999999999999999 * 2 ^ 256 + 100)

def transferProposalHash : Nat :=
  0x6af2c82e9fabd69b55d4cbc93311f3d59b1e350da0d5f841a8d0b73e6221cfb9

def transferDecision : DecisionTokenV1 := sampleDecision transferProposalHash
  (0xa63694496a28bdf9a122c03611b60c222e65642d701250569ccc2ebf67511da1 * 2 ^ 256 +
    0xdfa1b52a5fe79e884b6bd4ec4f63850fa8e19692b7f69d16a96ab28295b9a201)

/-- A request for the swap of `transferCalldata`. -/
def transferRequest : TransactionSignRequestV1 :=
  sampleRequest transferCalldata transferDecision 0 100000 transferProposalHash
    0x9762942ea28f5b2f9c1e33145a1208ab4f6c92c445ed061b23f09e0ffca3b8df
    (lowerHexData 114
      (0x02f86f827a69808405f5e100843b9aca00830186a094 * 2 ^ 736 +
        0x565656565656565656565656565656565656565680b844 * 2 ^ 552 +
        (0xa9059cbb * 2 ^ 512 + 0x9999999999999999999999999999999999999999 * 2 ^ 256 + 100) *
          2 ^ 8 + 0xc0) (by decide))
    0x8a3ef2a64ac4b9188260c5930ba8fe4ead7e9f27585ead2f4a36f24b6fae54cf

/-- The part of the host that writes canonical JSON. -/
def textHost : Host where
  rfc8785 := some (fun value => some (utf8 (dumps value)))
  sha256 := fun _ => []
  keccak := fun _ => []
  ed25519Verify := fun _ _ _ => false
  fromEncodedPoint := fun _ => none
  ecdsaVerify := fun _ _ _ _ => false
  lower := asciiLower
  datetimeText := fun t =>
    if t = sampleDeadline then "2026-07-18T12:05:00Z".toList else "2026-07-18T12:00:30Z".toList
  fromIsoformat := fun _ => none

def canonicalText (value : Json) : Bytes := utf8 (dumps value)

/-- A hash function by the digests of the inputs it is used on. -/
def digestTable (digests : List (Bytes × Nat)) (data : Bytes) : Bytes :=
  match digests.find? (fun entry => entry.1 = data) with
  | some entry => bytesLiteral 32 entry.2
  | none => []

def policyKey : Bytes :=
  bytesLiteral 32 0x536eb6eaa0fe6f8a219e57c6cbf79272f0b1b9a0e7d2ff2edccf1d12501c23a1

/-- The real digests and signatures of the sample requests. -/
def sampleHost : Host := { textHost with
  sha256 := digestTable [
    (policyKey, 0x37b95ba08e4454431c46ea309f1cf756aabef72c3b2a187069b5efad0aa3d765),
    (canonicalText ((sampleProposal swapCalldata).modelDump textHost), swapProposalHash),
    (canonicalText ((sampleProposal transferCalldata).modelDump textHost),
      transferProposalHash)]
  keccak := digestTable (
    [plainRequest, gasRequest, valueRequest, transferRequest].flatMap fun r =>
      [(hexBytes r.eip712Payload, fromBytes (hexBytes r.eip712Hash)),
        (hexBytes r.eip1559UnsignedPayload, fromBytes (hexBytes r.eip1559Hash))])
  ed25519Verify := fun key message signature =>
    key = policyKey ∧ ([swapDecision, transferDecision].any fun decision =>
      signature = (fromHex decision.signature).getD [] ∧
        message = canonicalText (decision.unsignedDump textHost)) }

def sampleGate : SignerAuthorizationGate := .init sampleHost policyKey [31337] none

theorem plainRequest_accepted :
    ∃ gate', sampleGate.validateAndConsume sampleHost plainRequest sampleNow = .ok gate' :=
  exists_eq_ok (by decide +kernel)

/-! ## The payload in terms of the proposal -/

section Effect

variable {host : Host} {gate gate' : SignerAuthorizationGate}
  {request : TransactionSignRequestV1} {now : Datetime} {raw : UnsignedEip1559}

theorem raw_chainId (haccept : gate.validateAndConsume host request now = .ok gate')
    (hraw : decodeUnsignedEip1559 request.eip1559UnsignedPayload = .ok raw) :
    raw.chainId = request.proposal.chainId.val := by
  obtain ⟨hauth, _, _, hvalid⟩ := parts_of_validateAndConsume haccept
  have hbinds := validateRaw_eq_ok hvalid hraw
  rw [hbinds.chainId, hauth.bindingChain, hauth.proposalChain]

theorem raw_value (haccept : gate.validateAndConsume host request now = .ok gate')
    (hraw : decodeUnsignedEip1559 request.eip1559UnsignedPayload = .ok raw) :
    raw.value = request.transaction.value := by
  obtain ⟨_, _, _, hvalid⟩ := parts_of_validateAndConsume haccept
  exact (validateRaw_eq_ok hvalid hraw).value

/-- A transfer sends the amount of the proposal to its recipient, without calldata. -/
theorem raw_of_transfer {intent : TransferIntentV1}
    (hintent : request.proposal.intent = .transfer intent)
    (haccept : gate.validateAndConsume host request now = .ok gate')
    (hraw : decodeUnsignedEip1559 request.eip1559UnsignedPayload = .ok raw) :
    raw.target = intent.recipient.val ∧ raw.value = request.proposal.amount.val ∧
      raw.calldata = "0x".toList := by
  obtain ⟨_, _, hbinding, hvalid⟩ := parts_of_validateAndConsume haccept
  obtain ⟨hop, _, hamount, hmatch⟩ := validateBinding_eq_ok hbinding
  have hbinds := validateRaw_eq_ok hvalid hraw
  rw [hintent] at hop hmatch
  have hrecipient : request.transaction.recipient = some intent.recipient := hmatch
  have htarget := hbinds.target
  simp only [BindingFields.target, hop, IntentV1.kind, hrecipient, Option.map_some,
    Option.some.injEq] at htarget
  refine ⟨htarget, ?_, ?_⟩
  · rw [hbinds.value, request.transaction.value_eq_amount hop, hamount]
  · rw [hbinds.calldata, request.transaction.calldata_eq_empty hop]

/-- A swap calls the contract of the proposal with its calldata. -/
theorem raw_of_swap {intent : SwapIntentV1}
    (hintent : request.proposal.intent = .swap intent)
    (haccept : gate.validateAndConsume host request now = .ok gate')
    (hraw : decodeUnsignedEip1559 request.eip1559UnsignedPayload = .ok raw) :
    raw.target = intent.contract.val ∧ raw.calldata = intent.calldata.val := by
  obtain ⟨_, _, hbinding, hvalid⟩ := parts_of_validateAndConsume haccept
  obtain ⟨hop, _, _, hmatch⟩ := validateBinding_eq_ok hbinding
  have hbinds := validateRaw_eq_ok hvalid hraw
  rw [hintent] at hop hmatch
  obtain ⟨hcontract, _, hcalldata⟩ := hmatch
  have htarget := hbinds.target
  simp only [BindingFields.target, hop, IntentV1.kind, hcontract, Option.map_some,
    Option.some.injEq] at htarget
  exact ⟨htarget, by rw [hbinds.calldata, hcalldata]⟩

/-! ## The function a swap calls -/

/-- Text of the first four bytes of calldata. -/
def leadingSelector (calldata : Str) : Str := prefixedHex ((hexBytes calldata).take 4)

/-- The payload calls a function that a contract rule of the policy lists. -/
def CallsAllowedFunction (policy : PolicyV1) (raw : UnsignedEip1559) : Prop :=
  4 ≤ (hexBytes raw.calldata).length ∧
    (raw.target, leadingSelector raw.calldata) ∈ policy.allowedCalls

theorem selector_allowed {policy : PolicyV1} {proposal : ProposalV1} {intent : SwapIntentV1}
    (hintent : proposal.intent = .swap intent)
    (hreasons : staticPolicyReasons proposal policy now = []) :
    (intent.contract.val, intent.selector.val) ∈ policy.allowedCalls := by
  unfold staticPolicyReasons at hreasons
  split_ifs at hreasons
  simp only [List.append_eq_nil_iff, intentReasons, hintent, noteIf_eq_nil, not_not]
    at hreasons
  obtain ⟨⟨_, hcall, _⟩, _⟩ := hreasons
  rwa [asciiLower_of_matchesHex intent.selector.property] at hcall

/-- The policy evaluated `intent.selector`, the wallet signs `intent.calldata`.  The
signed call is allowlisted exactly when the calldata starts with that selector, or
with another one that the policy lists for the contract. -/
theorem acceptedSwap_callsAllowedFunction_iff {policy : PolicyV1} {evaluated : Datetime}
    {intent : SwapIntentV1} (hintent : request.proposal.intent = .swap intent)
    (hreasons : staticPolicyReasons request.proposal policy evaluated = [])
    (haccept : gate.validateAndConsume host request now = .ok gate')
    (hraw : decodeUnsignedEip1559 request.eip1559UnsignedPayload = .ok raw) :
    CallsAllowedFunction policy raw ↔
      4 ≤ (hexBytes intent.calldata).length ∧
        (leadingSelector intent.calldata = intent.selector.val ∨
          (intent.contract.val, leadingSelector intent.calldata) ∈ policy.allowedCalls) := by
  obtain ⟨htarget, hcalldata⟩ := raw_of_swap hintent haccept hraw
  unfold CallsAllowedFunction
  rw [htarget, hcalldata]
  constructor
  · rintro ⟨hlength, hmem⟩
    exact ⟨hlength, Or.inr hmem⟩
  · rintro ⟨hlength, hselector | hmem⟩
    · refine ⟨hlength, ?_⟩
      rw [hselector]
      exact selector_allowed hintent hreasons
    · exact ⟨hlength, hmem⟩

end Effect

def plainRaw : UnsignedEip1559 where
  chainId := 31337
  nonce := 0
  maxPriorityFeePerGas := 100000000
  maxFeePerGas := 1000000000
  gasLimit := 100000
  target := sampleContract
  value := 0
  calldata := swapCalldata

theorem plainRaw_callsAllowedFunction : CallsAllowedFunction samplePolicy plainRaw := by
  obtain ⟨gate', haccept⟩ := plainRequest_accepted
  have hraw : decodeUnsignedEip1559 plainRequest.eip1559UnsignedPayload = .ok plainRaw := by
    decide +kernel
  have hreasons : staticPolicyReasons plainRequest.proposal samplePolicy sampleNow = [] := by
    decide +kernel
  rw [acceptedSwap_callsAllowedFunction_iff rfl hreasons haccept hraw]
  exact ⟨by decide +kernel, Or.inl (by decide +kernel)⟩

def transferRaw : UnsignedEip1559 := { plainRaw with calldata := transferCalldata }

/-- The evaluated selector is allowed, the signed call is an ERC-20 `transfer`. -/
theorem transferRequest_evadesSelectorRule :
    staticPolicyReasons transferRequest.proposal samplePolicy sampleNow = [] ∧
      (∃ gate', sampleGate.validateAndConsume sampleHost transferRequest sampleNow =
        .ok gate') ∧
      decodeUnsignedEip1559 transferRequest.eip1559UnsignedPayload = .ok transferRaw ∧
      ¬CallsAllowedFunction samplePolicy transferRaw := by
  refine ⟨by decide +kernel, exists_eq_ok (by decide +kernel), by decide +kernel, ?_⟩
  rintro ⟨_, hmem⟩
  revert hmem
  decide +kernel

/-! ## The effect of two requests for one proposal -/

/-- Two payloads with the same chain, target, value and calldata. -/
def SameEffect (raw₁ raw₂ : UnsignedEip1559) : Prop :=
  raw₁.chainId = raw₂.chainId ∧ raw₁.target = raw₂.target ∧ raw₁.value = raw₂.value ∧
    raw₁.calldata = raw₂.calldata

/-- The proposal fixes the effect, and the native value stays within the amount the
policy evaluated, exactly when the proposal is a transfer or the two bindings agree
on a value within the amount. -/
theorem sameProposal_fixesEffect_iff {host : Host}
    {gate₁ gate₁' gate₂ gate₂' : SignerAuthorizationGate}
    {request₁ request₂ : TransactionSignRequestV1} {now₁ now₂ : Datetime}
    {raw₁ raw₂ : UnsignedEip1559} (hproposal : request₁.proposal = request₂.proposal)
    (haccept₁ : gate₁.validateAndConsume host request₁ now₁ = .ok gate₁')
    (haccept₂ : gate₂.validateAndConsume host request₂ now₂ = .ok gate₂')
    (hraw₁ : decodeUnsignedEip1559 request₁.eip1559UnsignedPayload = .ok raw₁)
    (hraw₂ : decodeUnsignedEip1559 request₂.eip1559UnsignedPayload = .ok raw₂) :
    (SameEffect raw₁ raw₂ ∧ raw₁.value ≤ request₁.proposal.amount.val ∧
        raw₂.value ≤ request₁.proposal.amount.val) ↔
      (request₁.proposal.intent.kind = .transfer ∨
        (request₁.transaction.value = request₂.transaction.value ∧
          request₁.transaction.value ≤ request₁.proposal.amount.val)) := by
  have hchain : raw₁.chainId = raw₂.chainId := by
    rw [raw_chainId haccept₁ hraw₁, raw_chainId haccept₂ hraw₂, hproposal]
  have hvalue₁ := raw_value haccept₁ hraw₁
  have hvalue₂ := raw_value haccept₂ hraw₂
  unfold SameEffect
  cases hintent : request₁.proposal.intent with
  | transfer intent =>
    obtain ⟨ht₁, hv₁, hc₁⟩ := raw_of_transfer hintent haccept₁ hraw₁
    obtain ⟨ht₂, hv₂, hc₂⟩ := raw_of_transfer (hproposal ▸ hintent) haccept₂ hraw₂
    rw [← hproposal] at hv₂
    simp [IntentV1.kind, hchain, ht₁, ht₂, hv₁, hv₂, hc₁, hc₂]
  | swap intent =>
    obtain ⟨ht₁, hc₁⟩ := raw_of_swap hintent haccept₁ hraw₁
    obtain ⟨ht₂, hc₂⟩ := raw_of_swap (hproposal ▸ hintent) haccept₂ hraw₂
    simp only [IntentV1.kind, hchain, ht₁, ht₂, hc₁, hc₂, hvalue₁, hvalue₂, true_and,
      and_true, reduceCtorEq, false_or]
    constructor
    · rintro ⟨heq, hle, _⟩
      exact ⟨heq, hle⟩
    · rintro ⟨heq, hle⟩
      exact ⟨heq, hle, heq ▸ hle⟩

def gasRaw : UnsignedEip1559 := { plainRaw with gasLimit := 120000 }

/-- Two requests that differ in their gas limit have the same effect. -/
theorem gasRequest_sameEffect : SameEffect plainRaw gasRaw ∧
    plainRaw.value ≤ 100 ∧ gasRaw.value ≤ 100 := by
  obtain ⟨gate₁, haccept₁⟩ := plainRequest_accepted
  obtain ⟨gate₂, haccept₂⟩ : ∃ gate', sampleGate.validateAndConsume sampleHost gasRequest
      sampleNow = .ok gate' := exists_eq_ok (by decide +kernel)
  have hraw₁ : decodeUnsignedEip1559 plainRequest.eip1559UnsignedPayload = .ok plainRaw := by
    decide +kernel
  have hraw₂ : decodeUnsignedEip1559 gasRequest.eip1559UnsignedPayload = .ok gasRaw := by
    decide +kernel
  have hproposal : plainRequest.proposal = gasRequest.proposal := rfl
  exact (sameProposal_fixesEffect_iff hproposal haccept₁ haccept₂ hraw₁ hraw₂).mpr
    (Or.inr ⟨rfl, by decide⟩)

def valueRaw : UnsignedEip1559 := { plainRaw with value := 5000 }

/-- One proposal for 100 units, two accepted requests: one sends nothing, the other
5000 units of native value. -/
theorem valueRequest_changesEffect :
    plainRequest.proposal = valueRequest.proposal ∧ valueRequest.proposal.amount.val = 100 ∧
      (∃ gate', sampleGate.validateAndConsume sampleHost plainRequest sampleNow = .ok gate') ∧
      (∃ gate', sampleGate.validateAndConsume sampleHost valueRequest sampleNow = .ok gate') ∧
      decodeUnsignedEip1559 plainRequest.eip1559UnsignedPayload = .ok plainRaw ∧
      decodeUnsignedEip1559 valueRequest.eip1559UnsignedPayload = .ok valueRaw ∧
      ¬SameEffect plainRaw valueRaw ∧ 100 < valueRaw.value := by
  refine ⟨rfl, rfl, plainRequest_accepted, exists_eq_ok (by decide +kernel),
    by decide +kernel, by decide +kernel, ?_, by decide⟩
  rintro ⟨_, _, hvalue, _⟩
  exact absurd hvalue (by decide)

end AegisLedger.Gateway.SignedEffect
