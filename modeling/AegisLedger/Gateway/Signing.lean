import AegisLedger.Gateway.Eip1559
import AegisLedger.Support.Dict

/-!
# Decision tokens and the signer authorization gate

`verify_decision_token` of `aegisledger/decisions.py` and the whole of
`aegisledger/signing.py`.  The gate's `_validate` is cut into four parts that run
in the order of the source, so that each has one lemma that says what it has checked
when it returns.
-/

namespace AegisLedger.Gateway

open AegisLedger.Support HexText Checks Eip1559

/-- `bytes.fromhex(text[2:])` of text that a hexadecimal pattern has accepted. -/
def hexBytes (text : Str) : Bytes := (fromHex (text.drop 2)).getD []

/-! ## Decisions -/

def decisionSignaturePayload (host : Host) (token : DecisionTokenV1) :
    Except CanonicalError Bytes :=
  canonicalJson host (token.unsignedDump host)

def verifyDecisionToken (host : Host) (token : DecisionTokenV1) (publicKey : Bytes)
    (now : Datetime) : Except CanonicalError Bool :=
  if token.expiresAt ≤ now then pure false
  else
    match fromHex token.signature with
    | none => pure false
    | some signature => do
        let payload ← decisionSignaturePayload host token
        pure (host.ed25519Verify publicKey payload signature)

theorem unexpired_of_verifyDecisionToken {host : Host} {token : DecisionTokenV1}
    {publicKey : Bytes} {now : Datetime}
    (h : verifyDecisionToken host token publicKey now = .ok true) : now < token.expiresAt := by
  unfold verifyDecisionToken at h
  split_ifs at h with hexpired
  · cases h
  · exact lt_of_not_ge hexpired

/-- `address_of`. -/
def addressOf (host : Host) (publicKey : Bytes) : Str :=
  let hexdigest := toHex (host.sha256 publicKey)
  "0x".toList ++ hexdigest.drop (hexdigest.length - 40)

/-! ## Sign requests -/

def keccakHex (host : Host) (value : Str) : Str := prefixedHex (host.keccak (hexBytes value))

structure BindingFields where
  operation : Operation
  wallet : LowerAddress
  chainId : PosInt
  walletNonce : Nat
  asset : AssetId
  amount : PosInt
  recipient : Option LowerAddress
  contract : Option LowerAddress
  selector : Option LowerSelector
  calldata : LowerCalldata
  value : Nat
  gasLimit : PosInt
  maxFeePerGas : PosInt
  maxPriorityFeePerGas : Nat
  deriving DecidableEq

def nativeAsset (chainId : Nat) : Str := "NATIVE:".toList ++ Nat.toDigits 10 chainId

def BindingFields.validateOperationShape (b : BindingFields) : Except String Unit := do
  match b.operation with
  | .transfer => do
      raiseIf (b.recipient = none ∨ b.contract ≠ none ∨ b.selector ≠ none)
        "transfer binding requires only a recipient"
      raiseIf (b.asset.val ≠ nativeAsset b.chainId.val)
        "transfer binding supports only the chain native asset"
      raiseIf (b.value ≠ b.amount.val ∨ b.calldata.val ≠ "0x".toList)
        "native transfer value must equal amount with empty calldata"
  | .swap =>
    raiseIf (b.contract = none ∨ b.selector = none ∨ b.recipient ≠ none)
      "swap binding requires a contract and selector"
  raiseIf (b.maxFeePerGas.val < b.maxPriorityFeePerGas)
    "priority fee cannot exceed maximum fee"

/-- A binding that passed `validate_operation_shape`. -/
structure TransactionBindingV1 extends BindingFields where
  shape : toBindingFields.validateOperationShape = .ok ()
  deriving DecidableEq

/-- The account the transaction is sent to. -/
def BindingFields.target (b : BindingFields) : Option LowerAddress :=
  match b.operation with
  | .transfer => b.recipient
  | .swap => b.contract

structure TransactionSignRequestV1 where
  proposal : ProposalV1
  decision : DecisionTokenV1
  reservationId : Uuid
  walletNonce : Nat
  chainId : PosInt
  transaction : TransactionBindingV1
  eip712Payload : LowerHexData
  eip1559UnsignedPayload : LowerHexData
  eip712Hash : Hex32
  eip1559Hash : Hex32
  expiresAt : Datetime

theorem TransactionBindingV1.value_eq_amount (b : TransactionBindingV1)
    (htransfer : b.operation = .transfer) : b.value = b.amount.val := by
  have h := b.shape
  unfold BindingFields.validateOperationShape at h
  rw [htransfer] at h
  simp only [raiseIf_bind_eq_ok] at h
  obtain ⟨_, _, hvalue, _⟩ := h
  by_contra hne
  exact hvalue (Or.inl hne)

theorem TransactionBindingV1.calldata_eq_empty (b : TransactionBindingV1)
    (htransfer : b.operation = .transfer) : b.calldata.val = "0x".toList := by
  have h := b.shape
  unfold BindingFields.validateOperationShape at h
  rw [htransfer] at h
  simp only [raiseIf_bind_eq_ok] at h
  obtain ⟨_, _, hvalue, _⟩ := h
  by_contra hne
  exact hvalue (Or.inr hne)

/-! ## The gate -/

inductive GateError
  | authorization (message : String)
  | canonicalization (error : CanonicalError)
  deriving DecidableEq

structure SignerAuthorizationGate where
  policyPublicKey : Bytes
  allowedChainIds : List Nat
  allowedPolicyHashes : Option (List Str)
  usedDecisions : List Uuid
  nextWalletNonce : Dict (Str × Nat) Nat

namespace SignerAuthorizationGate

/-- `__init__`. -/
def init (host : Host) (policyPublicKey : Bytes) (allowedChainIds : List Nat)
    (allowedPolicyHashes : Option (List Str)) : SignerAuthorizationGate where
  policyPublicKey := policyPublicKey
  allowedChainIds := allowedChainIds
  allowedPolicyHashes := allowedPolicyHashes.map (·.map host.lower)
  usedDecisions := []
  nextWalletNonce := .empty

def walletKey (request : TransactionSignRequestV1) : Str × Nat :=
  (request.proposal.wallet.val, request.chainId.val)

def expectedNonce (gate : SignerAuthorizationGate) (request : TransactionSignRequestV1) : Nat :=
  (gate.nextWalletNonce.get? (walletKey request)).getD 0

/-- Expiry, decision, policy, reservation, chain, wallet and replay checks. -/
def validateAuthorization (host : Host) (gate : SignerAuthorizationGate)
    (request : TransactionSignRequestV1) (now : Datetime) : Except GateError Unit := do
  let decision := request.decision
  let proposal := request.proposal
  let transaction := request.transaction
  raiseIf (request.expiresAt ≤ now) (.authorization "sign request expired")
  let verified ← (verifyDecisionToken host decision gate.policyPublicKey now).mapError
    .canonicalization
  raiseIf (verified = false) (.authorization "decision signature invalid or expired")
  raiseIf (host.lower decision.policySigner ≠ host.lower (addressOf host gate.policyPublicKey))
    (.authorization "decision signer identity mismatch")
  raiseIf (decision.verdict ≠ .allow) (.authorization "decision does not authorize signing")
  raiseIf (∃ hashes, gate.allowedPolicyHashes = some hashes ∧
      host.lower decision.policyHash ∉ hashes)
    (.authorization "policy version is not approved by signer")
  let proposalHash ← (proposal.proposalHash host).mapError .canonicalization
  raiseIf (proposalHash ≠ decision.proposalHash.val)
    (.authorization "proposal hash does not match decision")
  raiseIf (some request.reservationId ≠ decision.reservationId)
    (.authorization "reservation does not match decision")
  raiseIf (request.chainId.val ∉ gate.allowedChainIds)
    (.authorization "chain is not enabled in signer")
  raiseIf (request.chainId ≠ proposal.chainId ∨ transaction.chainId ≠ request.chainId)
    (.authorization "chain binding mismatch")
  raiseIf (transaction.wallet ≠ proposal.wallet) (.authorization "wallet binding mismatch")
  raiseIf (transaction.walletNonce ≠ request.walletNonce)
    (.authorization "wallet nonce binding mismatch")
  raiseIf (decision.expiresAt < request.expiresAt ∨ proposal.deadline < request.expiresAt)
    (.authorization "sign request outlives authorization")
  raiseIf (decision.decisionNonce ∈ gate.usedDecisions)
    (.authorization "decision replay detected")
  raiseIf (request.walletNonce ≠ gate.expectedNonce request)
    (.authorization ("wallet nonce must be " ++ toString (gate.expectedNonce request) ++
      ", received " ++ toString request.walletNonce))

/-- The two payloads, their hashes, and the proposal hash inside the first. -/
def validatePayloads (host : Host) (request : TransactionSignRequestV1) :
    Except GateError Unit := do
  let eip712Bytes := hexBytes request.eip712Payload
  raiseIf (request.eip712Payload.val.take 6 ≠ "0x1901".toList)
    (.authorization "EIP-712 payload must start with 0x1901")
  raiseIf (request.eip1559UnsignedPayload.val.take 4 ≠ "0x02".toList)
    (.authorization "EIP-1559 payload must be a typed transaction")
  raiseIf (keccakHex host request.eip712Payload ≠ request.eip712Hash.val)
    (.authorization "EIP-712 hash does not match exact payload")
  raiseIf (keccakHex host request.eip1559UnsignedPayload ≠ request.eip1559Hash.val)
    (.authorization "EIP-1559 hash does not match exact payload")
  raiseIf (eip712Bytes.length ≠ 66 ∨
      eip712Bytes.drop 34 ≠ hexBytes request.decision.proposalHash)
    (.authorization "EIP-712 payload is not bound to authorized proposal")

/-- The binding against the proposal. -/
def validateBinding (request : TransactionSignRequestV1) : Except GateError Unit := do
  let proposal := request.proposal
  let transaction := request.transaction
  raiseIf (transaction.operation ≠ proposal.intent.kind)
    (.authorization "transaction operation does not match proposal")
  raiseIf (transaction.asset ≠ proposal.asset)
    (.authorization "transaction asset does not match proposal")
  raiseIf (transaction.amount ≠ proposal.amount)
    (.authorization "transaction amount does not match proposal")
  match proposal.intent with
  | .transfer intent =>
    raiseIf (transaction.recipient ≠ some intent.recipient)
      (.authorization "transaction recipient does not match proposal")
  | .swap intent => do
      raiseIf (transaction.contract ≠ some intent.contract)
        (.authorization "transaction contract does not match proposal")
      raiseIf (transaction.selector ≠ some intent.selector)
        (.authorization "transaction selector does not match proposal")
      raiseIf (transaction.calldata ≠ intent.calldata)
        (.authorization "transaction calldata does not match proposal")

/-- The decoded payload against the binding. -/
def validateRaw (request : TransactionSignRequestV1) : Except GateError Unit := do
  let transaction := request.transaction
  let raw ← (decodeUnsignedEip1559 request.eip1559UnsignedPayload).mapError
    (fun error => .authorization ("invalid EIP-1559 payload: " ++ error.message))
  raiseIf (raw.chainId ≠ transaction.chainId.val ∨ raw.nonce ≠ transaction.walletNonce)
    (.authorization "raw transaction chain or nonce binding mismatch")
  raiseIf (some raw.target ≠ transaction.target.map Subtype.val)
    (.authorization "raw transaction recipient or contract binding mismatch")
  raiseIf (raw.value ≠ transaction.value)
    (.authorization "raw transaction value binding mismatch")
  raiseIf (raw.calldata ≠ transaction.calldata.val)
    (.authorization "raw transaction calldata binding mismatch")
  raiseIf (raw.gasLimit ≠ transaction.gasLimit.val)
    (.authorization "raw transaction gas limit binding mismatch")
  raiseIf (raw.maxFeePerGas ≠ transaction.maxFeePerGas.val ∨
      raw.maxPriorityFeePerGas ≠ transaction.maxPriorityFeePerGas)
    (.authorization "raw transaction fee binding mismatch")

/-- `_validate`. -/
def validate (host : Host) (gate : SignerAuthorizationGate)
    (request : TransactionSignRequestV1) (now : Datetime) : Except GateError Unit := do
  gate.validateAuthorization host request now
  validatePayloads host request
  validateBinding request
  validateRaw request

def validateAndConsume (host : Host) (gate : SignerAuthorizationGate)
    (request : TransactionSignRequestV1) (now : Datetime) :
    Except GateError SignerAuthorizationGate := do
  gate.validate host request now
  pure { gate with
    usedDecisions := request.decision.decisionNonce :: gate.usedDecisions
    nextWalletNonce := gate.nextWalletNonce.set (walletKey request) (request.walletNonce + 1) }

end SignerAuthorizationGate

end AegisLedger.Gateway
