import AegisLedger.Gateway.Signing

/-!
# Complete attestations and their offline verifier

`aegisledger/attestations.py`.  The verifier collects an error for every comparison
that fails and reports an attestation valid when there is none.  A timestamp that
does not parse, or a value without a canonical form, raises.
-/

namespace AegisLedger.Gateway

open AegisLedger.Support HexText Checks

abbrev HexPublicKey :=
  {s : Str // (s.take 4 == ['0', 'x', '0', '4'] && matchesHex isLowerHexDigit 130 s) = true}

abbrev HexSignature := {s : Str // matchesHex isLowerHexDigit 130 s = true}

inductive EvidenceMode
  | localProcessOrNitro
  | awsNitro
  deriving DecidableEq

def EvidenceMode.text : EvidenceMode → Str
  | .localProcessOrNitro => "local-process-or-nitro".toList
  | .awsNitro => "aws-nitro".toList

structure EnclaveEvidenceV1 where
  mode : EvidenceMode
  buildMeasurement : BoundedStr 1 256
  signerIdentity : LowerAddress
  secp256k1PublicKey : HexPublicKey
  transactionHash : Hex32
  signingHash : Hex32
  proposalHash : Hex32
  policyVersionId : Uuid
  policyHash : Hex32
  stateVersion : Nat
  reservationId : Uuid
  wallet : LowerAddress
  principalId : BoundedStr 1 128
  chainId : PosInt
  walletNonce : Nat
  decisionId : Uuid
  decisionNonce : Uuid
  expiresAt : BoundedStr 20 40
  issuedAt : BoundedStr 20 40
  evidenceHash : Hex32
  evidenceSignature : HexSignature

namespace EnclaveEvidenceV1

/-- The fields that the evidence hash covers. -/
def unsignedFields (e : EnclaveEvidenceV1) : List (Str × Json) := [
    ("schema_version".toList, .str "aegisledger.enclave_evidence.v1".toList),
    ("mode".toList, .str e.mode.text),
    ("build_measurement".toList, .str e.buildMeasurement),
    ("signer_identity".toList, .str e.signerIdentity),
    ("secp256k1_public_key".toList, .str e.secp256k1PublicKey),
    ("transaction_hash".toList, .str e.transactionHash),
    ("signing_hash".toList, .str e.signingHash),
    ("proposal_hash".toList, .str e.proposalHash),
    ("policy_version_id".toList, .str (uuidText e.policyVersionId)),
    ("policy_hash".toList, .str e.policyHash),
    ("state_version".toList, .int e.stateVersion),
    ("reservation_id".toList, .str (uuidText e.reservationId)),
    ("wallet".toList, .str e.wallet),
    ("principal_id".toList, .str e.principalId),
    ("chain_id".toList, .int e.chainId.val),
    ("wallet_nonce".toList, .int e.walletNonce),
    ("decision_id".toList, .str (uuidText e.decisionId)),
    ("decision_nonce".toList, .str (uuidText e.decisionNonce)),
    ("expires_at".toList, .str e.expiresAt),
    ("issued_at".toList, .str e.issuedAt)]

/-- The members of `model_dump(mode="json")`. -/
def modelDump (e : EnclaveEvidenceV1) : List (Str × Json) :=
  e.unsignedFields ++ [
    ("evidence_hash".toList, .str e.evidenceHash),
    ("evidence_signature".toList, .str e.evidenceSignature)]

def unsignedPayload (host : Host) (e : EnclaveEvidenceV1) : Except CanonicalError Bytes :=
  canonicalJson host (.obj e.unsignedFields)

end EnclaveEvidenceV1

structure SettlementEvidenceV1 where
  transactionHash : Hex32
  blockHash : Hex32
  blockNumber : Nat
  chainId : PosInt
  success : Bool
  confirmations : Nat
  observedAt : Datetime

/-- The lifecycle states an attestation can be made in. -/
inductive AttestedState
  | signed
  | submitted
  | settled
  | reverted
  deriving DecidableEq

structure CompleteAttestationV1 where
  lifecycleState : AttestedState
  proposal : ProposalV1
  decision : DecisionTokenV1
  transactionBinding : TransactionBindingV1
  signedTransaction : SignedTransactionV1
  enclaveEvidence : EnclaveEvidenceV1
  settlement : Option SettlementEvidenceV1
  /-- `settlement_matches_state`. -/
  settlementMatchesState :
    (lifecycleState = .settled ∨ lifecycleState = .reverted) ↔ settlement.isSome = true

structure AttestationVerification where
  valid : Bool
  errors : List String
  deriving DecidableEq

inductive VerifierError
  | timestamp
  | canonicalization (error : CanonicalError)
  deriving DecidableEq

/-! ## The parts of the verifier -/

/-- `text.replace("Z", "+00:00")`. -/
def replaceZ (text : Str) : Str :=
  text.flatMap fun c => if c = 'Z' then "+00:00".toList else [c]

def evidenceDatetime (host : Host) (text : Str) : Except VerifierError Datetime :=
  orRaise (host.fromIsoformat (replaceZ text)) .timestamp

/-- The decision and the freshness and build of the evidence. -/
def decisionErrors (a : CompleteAttestationV1) (verified : Bool) (issuedAt expiresAt : Datetime)
    (allowedBuildMeasurements : List Str) : List String :=
  noteIf (verified = false) "policy decision signature is invalid" ++
  noteIf (expiresAt < issuedAt) "enclave evidence was issued after expiry" ++
  noteIf (a.enclaveEvidence.buildMeasurement.val ∉ allowedBuildMeasurements)
    "signer build measurement is not approved"

/-- One round of the loop over `expected`. -/
def bindingMismatch {α : Type} [DecidableEq α] (fieldName : String) (actual expected : α) :
    List String :=
  noteIf (actual ≠ expected) ("enclave evidence " ++ fieldName ++ " binding mismatch")

/-- The evidence against the proposal, the decision and the signed transaction. -/
def evidenceErrors (host : Host) (a : CompleteAttestationV1) (proposalHash : Str)
    (expiresAt : Datetime) : List String :=
  let proposal := a.proposal
  let decision := a.decision
  let signed := a.signedTransaction
  let evidence := a.enclaveEvidence
  bindingMismatch "proposal_hash" evidence.proposalHash.val proposalHash ++
  bindingMismatch "policy_version_id" evidence.policyVersionId decision.policyVersionId ++
  bindingMismatch "policy_hash" evidence.policyHash decision.policyHash ++
  bindingMismatch "state_version" evidence.stateVersion decision.stateVersion ++
  bindingMismatch "reservation_id" (some evidence.reservationId) decision.reservationId ++
  bindingMismatch "wallet" evidence.wallet proposal.wallet ++
  bindingMismatch "principal_id" evidence.principalId proposal.principalId ++
  bindingMismatch "chain_id" evidence.chainId proposal.chainId ++
  bindingMismatch "decision_id" evidence.decisionId decision.decisionId ++
  bindingMismatch "decision_nonce" evidence.decisionNonce decision.decisionNonce ++
  noteIf (evidence.transactionHash ≠ signed.transactionHash)
    "enclave evidence transaction hash mismatch" ++
  noteIf (evidence.signingHash ≠ signed.eip1559Hash) "enclave evidence signing hash mismatch" ++
  noteIf (evidence.walletNonce ≠ signed.walletNonce)
    "enclave evidence wallet nonce mismatch" ++
  noteIf (evidence.signerIdentity.val ≠ host.lower signed.signerIdentity)
    "enclave evidence signer identity mismatch" ++
  noteIf (decision.expiresAt < expiresAt ∨ proposal.deadline < expiresAt)
    "enclave evidence outlives authorization"

/-- The signed transaction and the binding against the proposal and the decision. -/
def scopeErrors (a : CompleteAttestationV1) : List String :=
  let proposal := a.proposal
  let signed := a.signedTransaction
  let binding := a.transactionBinding
  noteIf (signed.decisionId ≠ a.decision.decisionId)
    "signed transaction decision binding mismatch" ++
  noteIf (signed.wallet.val ≠ proposal.wallet.val ∨ signed.chainId ≠ proposal.chainId)
    "signed transaction scope mismatch" ++
  noteIf (binding.wallet ≠ proposal.wallet ∨ binding.chainId ≠ proposal.chainId)
    "transaction binding scope mismatch" ++
  noteIf (binding.walletNonce ≠ signed.walletNonce) "transaction binding nonce mismatch" ++
  noteIf (binding.asset ≠ proposal.asset ∨ binding.amount ≠ proposal.amount)
    "transaction binding value mismatch" ++
  match proposal.intent with
  | .transfer intent =>
    noteIf (binding.operation ≠ .transfer ∨ binding.recipient ≠ some intent.recipient)
      "transaction binding recipient mismatch"
  | .swap intent =>
    noteIf (binding.operation ≠ .swap ∨ binding.contract ≠ some intent.contract ∨
        binding.selector ≠ some intent.selector ∨ binding.calldata ≠ intent.calldata)
      "transaction binding contract call mismatch"

/-- The address of an uncompressed secp256k1 point. -/
def ethereumAddress (host : Host) (point : Bytes) : Str :=
  let digest := host.keccak (point.drop 1)
  prefixedHex (digest.drop (digest.length - 20))

/-- `_verify_raw_signature`. -/
def verifyRawSignature (host : Host) (point digest : Bytes) (signature : HexSignature)
    (message : String) : List String :=
  let raw := hexBytes signature
  let r := Eip1559.fromBytes (raw.take 32)
  let s := Eip1559.fromBytes ((raw.drop 32).take 32)
  noteIf (host.ecdsaVerify point digest r s = false) message

/-- Hash, key, identity and the two signatures. -/
def keyErrors (host : Host) (a : CompleteAttestationV1) (evidenceDigest : Bytes) :
    List String :=
  let signed := a.signedTransaction
  let evidence := a.enclaveEvidence
  noteIf (evidence.evidenceHash.val ≠ prefixedHex evidenceDigest)
    "enclave evidence hash mismatch" ++
  match host.fromEncodedPoint (hexBytes evidence.secp256k1PublicKey) with
  | none => ["secp256k1 public key is invalid"]
  | some point =>
    noteIf (ethereumAddress host point ≠ evidence.signerIdentity.val)
      "secp256k1 public key does not match signer identity" ++
    verifyRawSignature host point evidenceDigest evidence.evidenceSignature
      "enclave evidence signature is invalid" ++
    verifyRawSignature host point (hexBytes signed.eip1559Hash) signed.signature
      "transaction signature is invalid"

/-- The embedded copy of the evidence and the raw bytes. -/
def rawErrors (host : Host) (a : CompleteAttestationV1) (embedded own : Bytes) :
    List String :=
  let signed := a.signedTransaction
  noteIf (embedded ≠ own) "signed transaction carries different enclave evidence" ++
  match fromHex (signed.rawTransaction.val.drop 2) with
  | none => ["signed raw transaction is not hexadecimal"]
  | some rawTransaction =>
    noteIf (prefixedHex (host.keccak rawTransaction) ≠ signed.transactionHash.val)
      "signed raw transaction hash mismatch"

def settlementErrors (a : CompleteAttestationV1) : List String :=
  match a.settlement with
  | none => []
  | some settlement =>
    noteIf (settlement.transactionHash ≠ a.signedTransaction.transactionHash ∨
        settlement.chainId ≠ a.signedTransaction.chainId) "settlement scope mismatch" ++
    noteIf (settlement.success ≠ decide (a.lifecycleState = .settled))
      "settlement result does not match lifecycle state"

/-! ## The verifier -/

def verifyCompleteAttestation (host : Host) (a : CompleteAttestationV1)
    (policyPublicKey : Bytes) (allowedBuildMeasurements : List Str) :
    Except VerifierError AttestationVerification := do
  let evidence := a.enclaveEvidence
  let issuedAt ← evidenceDatetime host evidence.issuedAt
  let expiresAt ← evidenceDatetime host evidence.expiresAt
  let verified ← (verifyDecisionToken host a.decision policyPublicKey issuedAt).mapError
    .canonicalization
  let proposalHash ← (a.proposal.proposalHash host).mapError .canonicalization
  let payload ← (evidence.unsignedPayload host).mapError .canonicalization
  let embedded ← (canonicalJson host (.obj a.signedTransaction.enclaveEvidence)).mapError
    .canonicalization
  let own ← (canonicalJson host (.obj evidence.modelDump)).mapError .canonicalization
  let errors := decisionErrors a verified issuedAt expiresAt allowedBuildMeasurements ++
    evidenceErrors host a proposalHash expiresAt ++ scopeErrors a ++
    keyErrors host a (host.sha256 payload) ++ rawErrors host a embedded own ++
    settlementErrors a
  pure ⟨errors.isEmpty, errors⟩

end AegisLedger.Gateway
