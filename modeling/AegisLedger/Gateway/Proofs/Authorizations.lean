import AegisLedger.Gateway.Api
import AegisLedger.Gateway.Proofs.GateChecks

/-!
# The gateway's requests pass the gate

`DecisionIssuer.issue` and `_authorization` on one side, `_validate` on the other.  `Issued`
and `Authorizes` say what the first two have put into their results; each check of the gate
follows from one of these facts.
-/

namespace AegisLedger.Gateway.Authorizations

open AegisLedger.Support HexText Checks Eip1559 Eip1559Codec
open SignedEffect GateChecks SignerAuthorizationGate

/-! ## Issued decisions -/

/-- What `issue` puts into a decision. -/
structure Issued (host : Host) (issuer : DecisionIssuer) (record : ProposalRecord)
    (version : PolicyVersion host) (decision : DecisionTokenV1) : Prop where
  verdict : decision.verdict = verdictFor record.state
  reservation : decision.reservationId = record.reservationId
  policyHash : decision.policyHash.val = version.policyHash
  proposalHash : record.proposal.proposalHash host = .ok decision.proposalHash.val
  withinDeadline : decision.expiresAt ≤ record.proposal.deadline
  policySigner : decision.policySigner.val = issuer.identity
  signed : ∃ payload, decisionSignaturePayload host decision = .ok payload ∧
    decision.signature.val = toHex (issuer.sign payload)

variable {host : Host} {issuer : DecisionIssuer} {record : ProposalRecord} {now : Datetime}
  {decision : DecisionTokenV1}

theorem issued_of_issue {version : PolicyVersion host} {decisionId decisionNonce : Uuid}
    (h : issuer.issue record version decisionId decisionNonce now = .ok decision) :
    Issued host issuer record version decision := by
  rw [DecisionIssuer.issue, raiseIf_bind_eq_ok] at h
  obtain ⟨_, h⟩ := h
  rw [orRaise_bind_eq_ok] at h
  obtain ⟨lifetimeEnd, _, h⟩ := h
  rw [mapError_bind_eq_ok] at h
  obtain ⟨hash, hhash, h⟩ := h
  rw [bind_eq_ok] at h
  obtain ⟨proposalHash, hproposalHash, h⟩ := h
  rw [bind_eq_ok] at h
  obtain ⟨policyHash, hpolicyHash, h⟩ := h
  rw [bind_eq_ok] at h
  obtain ⟨policySigner, hpolicySigner, h⟩ := h
  rw [constrain_eq_ok] at hproposalHash hpolicyHash hpolicySigner
  split_ifs at h with hmatches
  rw [mapError_bind_eq_ok] at h
  obtain ⟨payload, hpayload, h⟩ := h
  rw [bind_eq_ok] at h
  obtain ⟨signature, hsignature, h⟩ := h
  rw [constrain_eq_ok] at hsignature
  rw [pure_eq_ok] at h
  rw [← h]
  exact {
    verdict := rfl
    reservation := rfl
    policyHash := hpolicyHash
    proposalHash := by
      rw [hproposalHash]
      exact hhash
    withinDeadline := min_le_left _ _
    policySigner := hpolicySigner
    signed := ⟨payload, hpayload, hsignature⟩ }

theorem version_of_issue {version : PolicyVersion host} {decisionId decisionNonce : Uuid}
    (h : issuer.issue record version decisionId decisionNonce now = .ok decision) :
    decision.policyVersionId = version.versionId ∧
      decision.stateVersion = record.stateVersion := by
  simp only [DecisionIssuer.issue, bind_eq_ok] at h
  obtain ⟨_, _, _, _, _, _, _, _, _, _, _, _, h⟩ := h
  split_ifs at h
  simp only [bind_eq_ok, pure_eq_ok] at h
  obtain ⟨_, _, _, _, rfl⟩ := h
  exact ⟨rfl, rfl⟩

/-- A decision verifies until it expires, under the key of its issuer. -/
theorem verifyDecisionToken_of_issued {version : PolicyVersion host} {publicKey : Bytes}
    (hsign : ∀ message, host.ed25519Verify publicKey message (issuer.sign message) = true)
    (h : Issued host issuer record version decision) (hnow : now < decision.expiresAt) :
    verifyDecisionToken host decision publicKey now = .ok true := by
  obtain ⟨payload, hpayload, hsignature⟩ := h.signed
  rw [verifyDecisionToken, if_neg (not_le.mpr hnow), hsignature, fromHex_toHex]
  dsimp only
  rw [hpayload]
  exact congrArg Except.ok (hsign payload)

/-! ## Built requests -/

/-- What `_authorization` puts into a sign request. -/
structure Authorizes (deployment : Deployment) (record : ProposalRecord)
    (decision : DecisionTokenV1) (request : ExecutionRequest)
    (authorized : TransactionSignRequestV1) : Prop where
  proposal : authorized.proposal = record.proposal
  token : authorized.decision = decision
  reservation : some authorized.reservationId = record.reservationId
  walletNonce : authorized.walletNonce = request.walletNonce
  chainId : authorized.chainId = record.proposal.chainId
  binding : authorized.transaction.toBindingFields = bindingFields record.proposal request
  expiresAt : authorized.expiresAt = min decision.expiresAt record.proposal.deadline
  separator : deployment.eip712DomainSeparator.length = 66
  eip712Payload : authorized.eip712Payload.val = asciiLower ("0x1901".toList ++
    deployment.eip712DomainSeparator.drop 2 ++ decision.proposalHash.val.drop 2)
  eip712Hash : authorized.eip712Hash.val =
    keccakHex deployment.host authorized.eip712Payload
  encoded : encodeUnsigned
      (unsignedTransaction (bindingFields record.proposal request) record.proposal.intent.target) =
    .ok authorized.eip1559UnsignedPayload.val
  eip1559Hash : authorized.eip1559Hash.val =
    keccakHex deployment.host authorized.eip1559UnsignedPayload

theorem hexDataField_eq_ok {value : Str} {data : LowerHexData}
    (h : hexDataField value = .ok data) : data.val = asciiLower value := by
  rw [hexDataField, raiseIf_bind_eq_ok, constrain_eq_ok] at h
  exact h.2

/-- The hash of the text as it stands is the hash of the lower-cased field. -/
theorem keccakHex_of_checked {value hash : Str} {data : LowerHexData}
    (hhash : keccakHexChecked host value = .ok hash) (hdata : hexDataField value = .ok data) :
    hash = keccakHex host data := by
  rw [keccakHexChecked, orRaise_bind_eq_ok] at hhash
  obtain ⟨bytes, hbytes, hhash⟩ := hhash
  rw [pure_eq_ok] at hhash
  have hlower : data.val.drop 2 = asciiLower (value.drop 2) := by
    rw [hexDataField_eq_ok hdata, asciiLower, asciiLower, List.map_drop]
  rw [← hhash, keccakHex, hexBytes, hlower, fromHex_asciiLower, hbytes, Option.getD_some]

theorem asciiLower_prefixedHex (bytes : Bytes) :
    asciiLower (prefixedHex bytes) = prefixedHex bytes :=
  asciiLower_of_matchesHex (matchesHex_prefixedHex bytes)

theorem asciiLower_toHex (bytes : Bytes) : asciiLower (toHex bytes) = toHex bytes :=
  (List.cons.inj (List.cons.inj (asciiLower_prefixedHex bytes)).2).2

theorem authorizes_of_authorization {deployment : Deployment} {request : ExecutionRequest}
    {authorized : TransactionSignRequestV1}
    (h : authorization deployment record decision request = .ok authorized) :
    Authorizes deployment record decision request authorized := by
  rw [authorization, orRaise_bind_eq_ok] at h
  obtain ⟨reservationId, hreservation, h⟩ := h
  dsimp only at h
  split_ifs at h with hshape
  rw [mapError_bind_eq_ok] at h
  obtain ⟨payload, hpayload, h⟩ := h
  rw [raiseIf_bind_eq_ok] at h
  obtain ⟨hseparator, h⟩ := h
  simp only [bind_eq_ok, constrain_eq_ok, pure_eq_ok] at h
  obtain ⟨eip712Text, h712, eip1559Text, h1559, eip712Payload, h712Payload, eip1559Payload,
    h1559Payload, eip712Hash, h712Hash, eip1559Hash, h1559Hash, rfl⟩ := h
  have hencoded : encodeUnsigned (unsignedTransaction (bindingFields record.proposal request)
      record.proposal.intent.target) = .ok payload := hpayload
  have hlower : asciiLower payload = payload := by
    have htext := encodeUnsigned_of_encodable (encodable_of_encodeUnsigned hencoded)
    rw [hencoded, Except.ok.injEq] at htext
    rw [htext, asciiLower_prefixedHex]
  exact {
    proposal := rfl
    token := rfl
    reservation := hreservation.symm
    walletNonce := rfl
    chainId := rfl
    binding := rfl
    expiresAt := rfl
    separator := not_not.mp (not_or.mp hseparator).1
    eip712Payload := hexDataField_eq_ok h712Payload
    eip712Hash := h712Hash.trans (keccakHex_of_checked h712 h712Payload)
    encoded := by
      rw [hencoded, hexDataField_eq_ok h1559Payload, hlower]
    eip1559Hash := h1559Hash.trans (keccakHex_of_checked h1559 h1559Payload) }

/-! ## Acceptance -/

theorem target_bindingFields (proposal : ProposalV1) (request : ExecutionRequest) :
    (bindingFields proposal request).target = some proposal.intent.target := by
  rw [BindingFields.target, bindingFields]
  cases proposal.intent with
  | transfer intent => rfl
  | swap intent => rfl

theorem matchesIntent_bindingFields (proposal : ProposalV1) (request : ExecutionRequest) :
    MatchesIntent (bindingFields proposal request) proposal.intent := by
  rw [bindingFields]
  cases proposal.intent with
  | transfer intent => rfl
  | swap intent => exact ⟨rfl, rfl, rfl⟩

section Acceptance

variable {deployment : Deployment} {record : ProposalRecord} {decision : DecisionTokenV1}
  {request : ExecutionRequest} {authorized : TransactionSignRequestV1}

/-- The separator of the deployment fills the free field of the typed data. -/
theorem typedData_of_authorizes
    (h : Authorizes deployment record decision request authorized) :
    ∃ domain : Bytes, domain.length = 32 ∧ authorized.eip712Payload.val =
      prefixedHex (typedData domain (hexBytes decision.proposalHash)) := by
  have hhash : decision.proposalHash.val.drop 2 = toHex (hexBytes decision.proposalHash) := by
    conv_lhs =>
      rw [← prefixedHex_hexBytes_of_matchesHex (by omega) decision.proposalHash.property]
    rfl
  have htext : authorized.eip712Payload.val = "0x1901".toList ++
      asciiLower (deployment.eip712DomainSeparator.drop 2) ++
      toHex (hexBytes decision.proposalHash) := by
    rw [h.eip712Payload, hhash, asciiLower, List.map_append, List.map_append, ← asciiLower,
      ← asciiLower, ← asciiLower, asciiLower_toHex]
    rfl
  have hdigits : (asciiLower (deployment.eip712DomainSeparator.drop 2)).all isLowerHexDigit =
      true := by
    have hpayload := (Bool.and_eq_true_iff.mp authorized.eip712Payload.property).1
    simp only [matchesHexBytes, Bool.and_eq_true] at hpayload
    have hall := hpayload.2
    rw [htext] at hall
    rw [List.all_eq_true] at hall ⊢
    intro c hc
    apply hall
    simp [hc]
  have hlength : (asciiLower (deployment.eip712DomainSeparator.drop 2)).length = 64 := by
    rw [asciiLower, List.length_map, List.length_drop, h.separator]
  obtain ⟨domain, hdomain⟩ := exists_toHex _ (by rw [hlength]) hdigits
  refine ⟨domain, ?_, ?_⟩
  · rw [← hdomain, length_toHex] at hlength
    omega
  · rw [htext, ← hdomain, prefixedHex, typedData, toHex, toHex, toHex, List.flatMap_cons,
      List.flatMap_cons, List.flatMap_append]
    rfl

theorem payloadsBound_of_authorizes
    (h : Authorizes deployment record decision request authorized) :
    PayloadsBound deployment.host authorized where
  typedData := by
    rw [h.token]
    exact typedData_of_authorizes h
  eip712Hash := h.eip712Hash.symm
  typed := by
    have htext := encodeUnsigned_of_encodable (encodable_of_encodeUnsigned h.encoded)
    rw [h.encoded, Except.ok.injEq] at htext
    rw [htext]
    rfl
  eip1559Hash := h.eip1559Hash.symm

theorem bindsProposal_of_authorizes
    (h : Authorizes deployment record decision request authorized) :
    BindsProposal authorized where
  operation := by
    rw [h.binding, h.proposal]
    rfl
  asset := by
    rw [h.binding, h.proposal]
    rfl
  amount := by
    rw [h.binding, h.proposal]
    rfl
  intent := by
    rw [h.binding, h.proposal]
    exact matchesIntent_bindingFields record.proposal request

theorem encodesBinding_of_authorizes
    (h : Authorizes deployment record decision request authorized) :
    EncodesBinding authorized record.proposal.intent.target := by
  rw [EncodesBinding, h.binding]
  exact ⟨target_bindingFields record.proposal request, h.encoded⟩

/-- Whatever the gateway builds for a reserved proposal and its decision, a gate with the
issuer's key accepts until it expires. -/
theorem authorization_accepted {publicKey : Bytes} {version : PolicyVersion deployment.host}
    {decisionId decisionNonce : Uuid} {issuedAt now : Datetime} {gate : SignerAuthorizationGate}
    (hidentity : deployment.issuer.identity = addressOf deployment.host publicKey)
    (hsign : ∀ message,
      deployment.host.ed25519Verify publicKey message (deployment.issuer.sign message) = true)
    (hreserved : record.state = .reserved)
    (hissue : deployment.issuer.issue record version decisionId decisionNonce issuedAt =
      .ok decision)
    (hbuilt : authorization deployment record decision request = .ok authorized)
    (hkey : gate.policyPublicKey = publicKey)
    (hchain : record.proposal.chainId.val ∈ gate.allowedChainIds)
    (hpolicy : gate.allowedPolicyHashes = none)
    (hfresh : decision.decisionNonce ∉ gate.usedDecisions)
    (hnonce : (gate.nextWalletNonce.get?
      (record.proposal.wallet.val, record.proposal.chainId.val)).getD 0 = request.walletNonce)
    (hnow : now < authorized.expiresAt) :
    ∃ gate', gate.validateAndConsume deployment.host authorized now = .ok gate' := by
  have hissued := issued_of_issue hissue
  have h := authorizes_of_authorization hbuilt
  have hbinding := h.binding
  have hexpires := h.expiresAt
  rw [validateAndConsume_isOk_iff]
  refine ⟨?_, payloadsBound_of_authorizes h, bindsProposal_of_authorizes h,
    _, encodesBinding_of_authorizes h⟩
  exact {
    unexpired := hnow
    verified := by
      rw [h.token, hkey]
      exact verifyDecisionToken_of_issued hsign hissued
        (hnow.trans_le (hexpires ▸ min_le_left decision.expiresAt record.proposal.deadline))
    policySigner := by
      rw [h.token, hissued.policySigner, hkey, hidentity]
    verdict := by
      rw [h.token, hissued.verdict, verdictFor, if_pos hreserved]
    policyHash := by
      intro hashes hhashes
      rw [hpolicy] at hhashes
      cases hhashes
    proposalHash := by
      rw [h.proposal, h.token, hissued.proposalHash]
    reservation := by
      rw [h.reservation, h.token, hissued.reservation]
    allowedChain := by
      rw [h.chainId]
      exact hchain
    proposalChain := by
      rw [h.chainId, h.proposal]
    bindingChain := by
      rw [hbinding, h.chainId]
      rfl
    wallet := by
      rw [hbinding, h.proposal]
      rfl
    bindingNonce := by
      rw [hbinding, h.walletNonce]
      rfl
    withinDecision := by
      rw [hexpires, h.token]
      exact min_le_left decision.expiresAt record.proposal.deadline
    withinDeadline := by
      rw [hexpires, h.proposal]
      exact min_le_right _ _
    fresh := by
      rw [h.token]
      exact hfresh
    nextNonce := by
      rw [h.walletNonce, expectedNonce, walletKey, h.proposal, h.chainId, hnonce] }

end Acceptance

/-! ## A sample request -/

def stamp : Bytes := bytesLiteral 64 1

/-- The sample host, with one signature that is good for every message. -/
def stampHost : Host := { sampleHost with
  sha256 := fun data =>
    if sampleHost.sha256 data = [] then bytesLiteral 32 0 else sampleHost.sha256 data
  ed25519Verify := fun key _ signature => key = policyKey ∧ signature = stamp }

/-- The domain separator in upper case. -/
def stampDeployment : Deployment where
  host := stampHost
  issuer := ⟨addressOf stampHost policyKey, fun _ => stamp, 30⟩
  signerConfigured := true
  chainBackends := [31337]
  eip712DomainSeparator := '0' :: 'x' :: (List.replicate 32 ['A', 'B']).flatten

def reservedSwap : ProposalRecord where
  proposal := sampleProposal swapCalldata
  state := .reserved
  stateVersion := 1
  reasonCodes := []
  reservationId := some 0x19f7518fe0070008000000000000013
  createdAt := sampleNow
  updatedAt := sampleNow

def swapVersion : PolicyVersion stampHost where
  versionId := 0x19f7518fe0070008000000000000012
  policy := samplePolicy
  policyHash := prefixedHex (bytesLiteral 32 0)
  createdBy := "author".toList
  createdAt := sampleNow
  status := .active
  approvals := ["administrator-1".toList, "administrator-2".toList]
  activatedAt := some sampleNow
  activatedBy := some "administrator-1".toList
  hashed := by decide +kernel

def swapExecution : ExecutionRequest where
  walletNonce := 0
  value := 0
  gasLimit := 100000
  maxFeePerGas := 1000000000
  maxPriorityFeePerGas := 100000000
  priorityFeeWithinMaximum := by decide

/-- Issue a decision for the swap and build its sign request. -/
def buildSwap : Except ServiceError (DecisionTokenV1 × TransactionSignRequestV1) := do
  let decision ← (stampDeployment.issuer.issue reservedSwap swapVersion
    0x19f7518fe0070008000000000000011 0x19f7518fe0070008000000000000014 sampleNow).mapError
    .issue
  let authorized ← authorization stampDeployment reservedSwap decision swapExecution
  pure (decision, authorized)

theorem buildSwap_accepted : ∃ decision authorized gate',
    buildSwap = .ok (decision, authorized) ∧
      sampleGate.validateAndConsume stampHost authorized sampleNow = .ok gate' := by
  have hbuilds : (buildSwap.toOption.map fun built => decide (sampleNow < built.2.expiresAt)) =
      some true := by
    decide +kernel
  cases hbuild : buildSwap with
  | error error =>
    rw [hbuild] at hbuilds
    cases hbuilds
  | ok built =>
    obtain ⟨decision, authorized⟩ := built
    rw [hbuild] at hbuilds
    have hnow : sampleNow < authorized.expiresAt :=
      of_decide_eq_true (Option.some.inj hbuilds)
    rw [buildSwap, mapError_bind_eq_ok] at hbuild
    obtain ⟨issued, hissue, hbuild⟩ := hbuild
    rw [bind_eq_ok] at hbuild
    obtain ⟨request, hauthorized, hbuild⟩ := hbuild
    rw [pure_eq_ok, Prod.mk.injEq] at hbuild
    obtain ⟨rfl, rfl⟩ := hbuild
    have hsign : ∀ message, stampDeployment.host.ed25519Verify policyKey message
        (stampDeployment.issuer.sign message) = true := by
      intro message
      have hboth : policyKey = policyKey ∧ stamp = stamp := ⟨rfl, rfl⟩
      exact decide_eq_true hboth
    have haccepts : ∃ gate', sampleGate.validateAndConsume stampDeployment.host request
        sampleNow = .ok gate' :=
      authorization_accepted rfl hsign rfl hissue hauthorized rfl (by decide) rfl
        List.not_mem_nil rfl hnow
    obtain ⟨gate', haccept⟩ := haccepts
    exact ⟨_, _, gate', rfl, haccept⟩

end AegisLedger.Gateway.Authorizations
