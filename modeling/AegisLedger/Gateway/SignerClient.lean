import AegisLedger.Gateway.Artifacts
import AegisLedger.Gateway.Proofs.CanonicalText

/-!
# What the gateway sends to the signer, and what it takes back

`GrpcSignerClient.sign` of `aegisledger/signer_client.py`.  `modelDumpJson` is the value that
`model_dump_json` writes.  Unlike the payloads that are hashed it keeps the members that are
null.
-/

namespace AegisLedger.Signer

open AegisLedger.Support HexText

/-- The message that the signer answers with. -/
structure SignAuthorizedTransactionResponse where
  eip1559Hash : Str
  walletNonce : UInt64
  chainId : UInt64
  decisionId : Str
  signerIdentity : Str
  signature : Str
  enclaveEvidenceJson : Bytes
  signedTransaction : Bytes
  transactionHash : Str
  signingHash : Str

end AegisLedger.Signer

namespace AegisLedger.Gateway

open AegisLedger.Support HexText Checks
open AegisLedger.Signer (SignAuthorizedTransactionResponse)

/-! ## The request -/

def optionalText : Option Str → Json
  | some s => .str s
  | none => .null

def ProposalV1.modelDumpJson (host : Host) (p : ProposalV1) : Json := .obj [
    ("schema_version".toList, .str "aegisledger.proposal.v1".toList),
    ("proposal_id".toList, .str (uuidText p.proposalId)),
    ("principal_id".toList, .str p.principalId),
    ("wallet".toList, .str p.wallet),
    ("chain_id".toList, .int p.chainId.val),
    ("asset".toList, .str p.asset),
    ("amount".toList, .int p.amount.val),
    ("intent".toList, p.intent.modelDump),
    ("deadline".toList, .str (host.datetimeText p.deadline)),
    ("idempotency_key".toList, .str p.idempotencyKey),
    ("mandate_id".toList, optionalUuid p.mandateId),
    ("quote_reference".toList, optionalText (p.quoteReference.map Subtype.val))]

def DecisionTokenV1.modelDumpJson (host : Host) (d : DecisionTokenV1) : Json := .obj [
    ("schema_version".toList, .str "aegisledger.decision.v1".toList),
    ("decision_id".toList, .str (uuidText d.decisionId)),
    ("proposal_hash".toList, .str d.proposalHash),
    ("policy_version_id".toList, .str (uuidText d.policyVersionId)),
    ("policy_hash".toList, .str d.policyHash),
    ("state_version".toList, .int d.stateVersion),
    ("reservation_id".toList, optionalUuid d.reservationId),
    ("verdict".toList, .str d.verdict.text),
    ("reason_codes".toList, .arr (d.reasonCodes.map fun code => .str code.val)),
    ("expires_at".toList, .str (host.datetimeText d.expiresAt)),
    ("decision_nonce".toList, .str (uuidText d.decisionNonce)),
    ("policy_signer".toList, .str d.policySigner),
    ("signature".toList, .str d.signature)]

def Operation.text : Operation → Str
  | .transfer => "transfer".toList
  | .swap => "swap".toList

def BindingFields.modelDumpJson (b : BindingFields) : Json := .obj [
    ("operation".toList, .str b.operation.text),
    ("wallet".toList, .str b.wallet),
    ("chain_id".toList, .int b.chainId.val),
    ("wallet_nonce".toList, .int b.walletNonce),
    ("asset".toList, .str b.asset),
    ("amount".toList, .int b.amount.val),
    ("recipient".toList, optionalText (b.recipient.map Subtype.val)),
    ("contract".toList, optionalText (b.contract.map Subtype.val)),
    ("selector".toList, optionalText (b.selector.map Subtype.val)),
    ("calldata".toList, .str b.calldata),
    ("value".toList, .int b.value),
    ("gas_limit".toList, .int b.gasLimit.val),
    ("max_fee_per_gas".toList, .int b.maxFeePerGas.val),
    ("max_priority_fee_per_gas".toList, .int b.maxPriorityFeePerGas)]

namespace TransactionSignRequestV1

def modelDumpJson (host : Host) (r : TransactionSignRequestV1) : Json := .obj [
    ("schema_version".toList, .str "aegisledger.sign_request.v1".toList),
    ("proposal".toList, r.proposal.modelDumpJson host),
    ("decision".toList, r.decision.modelDumpJson host),
    ("reservation_id".toList, .str (uuidText r.reservationId)),
    ("wallet_nonce".toList, .int r.walletNonce),
    ("chain_id".toList, .int r.chainId.val),
    ("transaction".toList, r.transaction.toBindingFields.modelDumpJson),
    ("eip712_payload".toList, .str r.eip712Payload),
    ("eip1559_unsigned_payload".toList, .str r.eip1559UnsignedPayload),
    ("eip712_hash".toList, .str r.eip712Hash),
    ("eip1559_hash".toList, .str r.eip1559Hash),
    ("expires_at".toList, .str (host.datetimeText r.expiresAt))]

/-- `model_dump_json().encode()`. -/
def authorizationJson (host : Host) (r : TransactionSignRequestV1) : Bytes :=
  utf8 (CanonicalText.write (r.modelDumpJson host))

end TransactionSignRequestV1

/-! ## The response -/

/-- The readers of text that the gateway uses on the evidence. -/
structure Readers where
  /-- `json.loads`. -/
  jsonLoads : Bytes → Option Json
  /-- `uuid.UUID`. -/
  parseUuid : Str → Option Uuid
  /-- The offset of `datetime.fromisoformat(..)` in seconds; none for a naive one. -/
  utcOffset : Str → Option Int

/-- `evidence.get(name)`. -/
def evidenceMember (evidence : List (Str × Json)) (name : String) : Option Json :=
  (evidence.find? fun member => member.1 = name.toList).map Prod.snd

/-- `str(evidence.get(name, ""))` of a member that is a text.  The text of any other value is
none of those that it is compared with. -/
def evidenceText (evidence : List (Str × Json)) (name : String) : Option Str :=
  match evidenceMember evidence name with
  | none => some []
  | some (.str s) => some s
  | some _ => none

/-- `_validated_result`, or the message of the `SignerClientError` it raises. -/
def validatedResult (host : Host) (readers : Readers) (request : TransactionSignRequestV1)
    (response : SignAuthorizedTransactionResponse) : Except String SignerResult := do
  let signingHash := host.lower response.signingHash
  let transactionHash := host.lower response.transactionHash
  let rawTransaction := response.signedTransaction
  let signerIdentity := host.lower response.signerIdentity
  let signature := host.lower response.signature
  let decisionId := uuidText request.decision.decisionId
  raiseIf (signingHash ≠ request.eip1559Hash.val ∨
      host.lower response.eip1559Hash ≠ signingHash ∨
      response.walletNonce.toNat ≠ request.walletNonce ∨
      response.chainId.toNat ≠ request.chainId.val ∨ response.decisionId ≠ decisionId)
    "isolated signer response does not match the request"
  raiseIf (rawTransaction.head? ≠ some 0x02)
    "isolated signer omitted a signed type-2 transaction"
  raiseIf (transactionHash ≠ prefixedHex (host.keccak rawTransaction))
    "isolated signer transaction hash does not match raw bytes"
  raiseIf (hasHexPrefix signerIdentity = false ∨ signerIdentity.length ≠ 42 ∨
      hasHexPrefix signature = false ∨ signature.length ≠ 132)
    "isolated signer signature metadata is malformed"
  let loaded ← orRaise (readers.jsonLoads response.enclaveEvidenceJson)
    "isolated signer evidence is invalid JSON"
  match loaded with
  | .obj evidence => do
      raiseIf ((evidenceText evidence "transaction_hash").map host.lower ≠ some transactionHash ∨
          (evidenceText evidence "signing_hash").map host.lower ≠ some signingHash ∨
          evidenceText evidence "decision_id" ≠ some decisionId ∨
          (evidenceText evidence "signer_identity").map host.lower ≠ some signerIdentity)
        "isolated signer evidence does not match its response"
      pure {
        signingHash := signingHash
        transactionHash := transactionHash
        signedTransaction := rawTransaction
        walletNonce := request.walletNonce
        chainId := request.chainId.val
        decisionId := request.decision.decisionId
        signerIdentity := signerIdentity
        signature := signature
        enclaveEvidence := evidence }
  | _ => .error "isolated signer evidence must be an object"

end AegisLedger.Gateway
