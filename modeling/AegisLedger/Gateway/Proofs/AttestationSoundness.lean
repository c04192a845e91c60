import AegisLedger.Gateway.Attestation
import AegisLedger.Gateway.Proofs.SignedEffect

/-!
# What a valid attestation establishes

Three conclusions are drawn from a valid report: the decision authorizes the attested
proposal, the signed bytes perform the attested binding, and the signing key is the
key of the wallet.  Each needs one comparison that the verifier does not make, and
holds exactly when that comparison would have succeeded.
-/

namespace AegisLedger.Gateway.AttestationSoundness

open AegisLedger.Support HexText Checks Eip1559
open SignedEffect

/-! ## Inversion of the verifier -/

/-- No part of the verifier has found an error. -/
structure Verified (host : Host) (a : CompleteAttestationV1) (policyPublicKey : Bytes)
    (builds : List Str) (issuedAt expiresAt : Datetime) (payload embedded own : Bytes) :
    Prop where
  issued : evidenceDatetime host a.enclaveEvidence.issuedAt = .ok issuedAt
  decision : verifyDecisionToken host a.decision policyPublicKey issuedAt = .ok true
  fresh : decisionErrors a true issuedAt expiresAt builds = []
  proposalHash : a.proposal.proposalHash host = .ok a.enclaveEvidence.proposalHash.val
  evidence : evidenceErrors host a a.enclaveEvidence.proposalHash.val expiresAt = []
  scope : scopeErrors a = []
  unsigned : a.enclaveEvidence.unsignedPayload host = .ok payload
  key : keyErrors host a (host.sha256 payload) = []
  raw : rawErrors host a embedded own = []
  settlement : settlementErrors a = []

/-- The comparisons of the evidence that the results below use. -/
structure EvidenceBinds (a : CompleteAttestationV1) (proposalHash : Str) : Prop where
  proposalHash : a.enclaveEvidence.proposalHash.val = proposalHash
  reservationId : some a.enclaveEvidence.reservationId = a.decision.reservationId
  wallet : a.enclaveEvidence.wallet = a.proposal.wallet
  transactionHash : a.enclaveEvidence.transactionHash = a.signedTransaction.transactionHash
  signingHash : a.enclaveEvidence.signingHash = a.signedTransaction.eip1559Hash

variable {host : Host} {a : CompleteAttestationV1}

theorem evidenceBinds_of_evidenceErrors {proposalHash : Str} {expiresAt : Datetime}
    (h : evidenceErrors host a proposalHash expiresAt = []) : EvidenceBinds a proposalHash := by
  simp only [evidenceErrors, bindingMismatch, List.append_eq_nil_iff, noteIf_eq_nil,
    not_not] at h
  obtain ⟨⟨⟨⟨⟨⟨⟨⟨⟨⟨⟨⟨⟨⟨hproposal, _⟩, _⟩, _⟩, hreservation⟩, hwallet⟩, _⟩, _⟩, _⟩, _⟩,
    htransaction⟩, hsigning⟩, _⟩, _⟩, _⟩ := h
  exact ⟨hproposal, hreservation, hwallet, htransaction, hsigning⟩

theorem verified_of_valid {policyPublicKey : Bytes} {builds : List Str} {errors : List String}
    (h : verifyCompleteAttestation host a policyPublicKey builds = .ok ⟨true, errors⟩) :
    ∃ issuedAt expiresAt payload embedded own,
      Verified host a policyPublicKey builds issuedAt expiresAt payload embedded own := by
  unfold verifyCompleteAttestation at h
  dsimp only at h
  rw [bind_eq_ok] at h
  obtain ⟨issuedAt, hissued, h⟩ := h
  rw [bind_eq_ok] at h
  obtain ⟨expiresAt, _, h⟩ := h
  simp only [mapError_bind_eq_ok, pure_eq_ok, AttestationVerification.mk.injEq,
    List.isEmpty_iff, List.append_eq_nil_iff] at h
  obtain ⟨verified, hverified, proposalHash, hhash, payload, hpayload, embedded, _, own, _,
    ⟨⟨⟨⟨⟨hdecision, hevidence⟩, hscope⟩, hkey⟩, hraw⟩, hsettlement⟩, _⟩ := h
  have htrue : verified = true := by
    simp only [decisionErrors, List.append_eq_nil_iff, noteIf_eq_nil] at hdecision
    exact Bool.eq_true_of_not_eq_false hdecision.1.1
  have hproposal : a.enclaveEvidence.proposalHash.val = proposalHash :=
    (evidenceBinds_of_evidenceErrors hevidence).proposalHash
  subst htrue
  subst hproposal
  exact ⟨issuedAt, expiresAt, payload, embedded, own, hissued, hverified, hdecision, hhash,
    hevidence, hscope, hpayload, hkey, hraw, hsettlement⟩

theorem keccak_of_rawErrors {embedded own : Bytes} (h : rawErrors host a embedded own = []) :
    prefixedHex (host.keccak (hexBytes a.signedTransaction.rawTransaction)) =
      a.signedTransaction.transactionHash.val := by
  simp only [rawErrors, List.append_eq_nil_iff] at h
  obtain ⟨_, h⟩ := h
  unfold hexBytes
  cases hraw : fromHex (a.signedTransaction.rawTransaction.val.drop 2) with
  | none =>
    rw [hraw] at h
    cases h
  | some rawTransaction =>
    rw [hraw] at h
    exact not_not.mp (noteIf_eq_nil.mp h)

theorem identity_of_keyErrors {digest : Bytes} (h : keyErrors host a digest = []) :
    (host.fromEncodedPoint (hexBytes a.enclaveEvidence.secp256k1PublicKey)).map
      (ethereumAddress host) = some a.enclaveEvidence.signerIdentity.val := by
  simp only [keyErrors, List.append_eq_nil_iff] at h
  obtain ⟨_, h⟩ := h
  cases hpoint : host.fromEncodedPoint (hexBytes a.enclaveEvidence.secp256k1PublicKey) with
  | none =>
    rw [hpoint] at h
    cases h
  | some point =>
    rw [hpoint] at h
    simp only [List.append_eq_nil_iff, noteIf_eq_nil, not_not] at h
    rw [Option.map_some, h.1.1]

theorem settled_of_settlementErrors {settlement : SettlementEvidenceV1}
    (hsome : a.settlement = some settlement) (h : settlementErrors a = []) :
    settlement.transactionHash = a.signedTransaction.transactionHash := by
  unfold settlementErrors at h
  rw [hsome] at h
  simp only [List.append_eq_nil_iff, noteIf_eq_nil, not_or, not_not] at h
  exact h.1.1

/-! ## Sample attestations

One honest attestation of a settled transfer, and one that reuses its decision for
another proposal, a wallet that is not the signer's and bytes that are no transaction.
Digests and signatures are real ones. -/

def hexSignature (n : Nat) : HexSignature := ⟨hexLiteral 130 n, matchesHex_hexLiteral 130 n⟩

def enclaveAddress : LowerAddress := lowerAddress 0x6a5d3f8df5ed873061c232168445a08394722c38

def enclavePoint : Nat :=
  0x04072cd7ef634897dd85caa1e9ef0bc84939d195d1b79437d2b32b50e74c8a9e21 * 2 ^ 256 +
    0x76a5bf5142301b41025a2d741bcaf3fe1f4efd37914a1d141d5eefecc234711b

def otherProposalId : {u : Uuid // uuidVersion u = some 7} :=
  ⟨0x19f7518fe0070008000000000000002, by decide +kernel⟩

def transferProposal (wallet recipient : LowerAddress) : ProposalV1 where
  proposalId := sampleProposalId
  principalId := researcher
  wallet := wallet
  chainId := 31337
  asset := sampleAsset
  amount := 100
  intent := .transfer ⟨recipient⟩
  deadline := sampleDeadline
  idempotencyKey := ⟨"complete-attestation".toList, by decide⟩
  mandateId := none
  quoteReference := none

def transferBinding (wallet recipient : LowerAddress) : TransactionBindingV1 where
  operation := .transfer
  wallet := wallet
  chainId := 31337
  walletNonce := 0
  asset := sampleAsset
  amount := 100
  recipient := some recipient
  contract := none
  selector := none
  calldata := lowerCalldata 0 0
  value := 100
  gasLimit := 21000
  maxFeePerGas := 1000000000
  maxPriorityFeePerGas := 100000000
  shape := by
    have hasset : sampleAsset.val = nativeAsset 31337 := by decide +kernel
    have hcalldata : (lowerCalldata 0 0).val = "0x".toList := by decide
    simp only [BindingFields.validateOperationShape, raiseIf, hasset, hcalldata]
    rfl

def honestProposalHash : Nat :=
  0x64d218030315b1fbe398b7f4efa219ac6ee531b70438de5de4182560e37a334e

def forgedProposalHash : Nat :=
  0x4ece84d443a3e8d7df7cf6603180e7c2b4a25a3206ab5b2dad73209e4cbb9178

def honestDecision : DecisionTokenV1 := sampleDecision honestProposalHash
  (0x5cc2426adeaffd8e42084780096b01c801f46630e805ca48dcefc21bd2924490 * 2 ^ 256 +
    0xb9f03f790b67e09a0fc6a4b64047321c0ff8c5714fde962ffcfffd1cbb233a05)

def sampleEvidence (wallet : LowerAddress)
    (transactionHash signingHash proposalHash evidenceHash evidenceSignature : Nat) :
    EnclaveEvidenceV1 where
  mode := .localProcessOrNitro
  buildMeasurement := ⟨"local-compose-v1".toList, by decide⟩
  signerIdentity := enclaveAddress
  secp256k1PublicKey := ⟨hexLiteral 130 enclavePoint, by decide +kernel⟩
  transactionHash := hex32 transactionHash
  signingHash := hex32 signingHash
  proposalHash := hex32 proposalHash
  policyVersionId := honestDecision.policyVersionId
  policyHash := honestDecision.policyHash
  stateVersion := 1
  reservationId := 0x19f7518fe0070008000000000000013
  wallet := wallet
  principalId := researcher
  chainId := 31337
  walletNonce := 0
  decisionId := honestDecision.decisionId
  decisionNonce := honestDecision.decisionNonce
  expiresAt := ⟨"2026-07-18T12:00:30Z".toList, by decide⟩
  issuedAt := ⟨"2026-07-18T12:00:01Z".toList, by decide⟩
  evidenceHash := hex32 evidenceHash
  evidenceSignature := hexSignature evidenceSignature

def sampleAttestation (recipient : LowerAddress) (evidence : EnclaveEvidenceV1)
    (rawTransaction : HexData) (signature : Nat) : CompleteAttestationV1 where
  lifecycleState := .settled
  proposal := transferProposal evidence.wallet recipient
  decision := honestDecision
  transactionBinding := transferBinding evidence.wallet recipient
  signedTransaction := {
    transactionId := 0x19f7518fe0070008000000000000015
    eip712Hash := hex32 0
    eip1559Hash := evidence.signingHash
    transactionHash := evidence.transactionHash
    rawTransaction := rawTransaction
    wallet := ⟨evidence.wallet.val, matchesHex_isHexDigit evidence.wallet.property⟩
    walletNonce := 0
    chainId := 31337
    decisionId := honestDecision.decisionId
    signerIdentity := ⟨enclaveAddress.val, by decide +kernel⟩
    enclaveEvidence := evidence.modelDump
    signature := hexSignature signature }
  enclaveEvidence := evidence
  settlement := some {
    transactionHash := evidence.transactionHash
    blockHash := hex32 1
    blockNumber := 10
    chainId := 31337
    success := true
    confirmations := 2
    observedAt := sampleDeadline }
  settlementMatchesState := by simp

def honestEvidence : EnclaveEvidenceV1 := sampleEvidence enclaveAddress
  0xcdfec75e73ee7f2e8af6fc24d8c8a6f225e58f00fd47ff33f751d565eced7453
  0x74160b5d390881c05de41fe275595d13ed1d06700308098d944b95bdf4189e41
  honestProposalHash
  0x9682fb83d25f23cee2bc6691ba35f2321e3c7cc881c4b5e4c3fd98606a86cc22
  ((0x84befdb97b9d609f60e6b31e43e6dd75853b913b1b09baae4f4f77a01daf75b1 * 2 ^ 256 +
    0x37fad0f29d9a1bdb56bc80676f00fa0dba5f7492b00ad714ff83570f8082d34b) * 2 ^ 8)

def honestAttestation : CompleteAttestationV1 :=
  sampleAttestation (lowerAddress 0x3434343434343434343434343434343434343434) honestEvidence
    ⟨hexLiteral 222
      (0x02f86c827a69808405f5e100843b9aca00825208943434343434343434 * 2 ^ 656 +
        0x3434343434343434343434346480c001 * 2 ^ 528 +
        0xa0514a6959339bd32394d45ff826c70a97e1a49fe62b5e4616a6e53515788d95ed * 2 ^ 264 +
        0xa03b28fd626ce0244f43ef12f9947c024b468d5013d57e247c54ab6e67655c7cea),
      by decide +kernel⟩
    ((0x514a6959339bd32394d45ff826c70a97e1a49fe62b5e4616a6e53515788d95ed * 2 ^ 256 +
      0x3b28fd626ce0244f43ef12f9947c024b468d5013d57e247c54ab6e67655c7cea) * 2 ^ 8 + 1)

def forgedEvidence : EnclaveEvidenceV1 := sampleEvidence sampleWallet
  0xcace66b6a82a5dc496a5b21a4032eb58baf223ea6f142a01593a5d105d5ee150
  0xabababababababababababababababababababababababababababababababab
  forgedProposalHash
  0x2cf9c20a15690a1cbab828fe9fb6891de16bed5b5bed1ba527232d07f9ed3236
  ((0x28d20d41c8d050daa9c3f5e3721809b03ec6215270165a4bb7456d5310d700ed * 2 ^ 256 +
    0x76dce273b624b9848e1e565603f16c481a10fbbbb8c0a047d51b89a7b8a71b6b) * 2 ^ 8 + 1)

def forgedAttestation : CompleteAttestationV1 :=
  sampleAttestation (lowerAddress 0x9999999999999999999999999999999999999999) forgedEvidence
    ⟨"0x02c0".toList, by decide +kernel⟩
    ((0x7585af502c98f5e3b7f2cedee0e490d01cbf83155547642e604b48970fdce077 * 2 ^ 256 +
      0x166da5827a73e9792d344990045d4dcedfca9f86e4cab703d56eec14676d73ca) * 2 ^ 8)

/-- The digests of the two attestations, and the signatures of their signers. -/
def attestationHost : Host := { textHost with
  sha256 := digestTable [
    (canonicalText (honestAttestation.proposal.modelDump textHost), honestProposalHash),
    (canonicalText (forgedAttestation.proposal.modelDump textHost), forgedProposalHash),
    (canonicalText (.obj honestEvidence.unsignedFields),
      fromBytes (hexBytes honestEvidence.evidenceHash)),
    (canonicalText (.obj forgedEvidence.unsignedFields),
      fromBytes (hexBytes forgedEvidence.evidenceHash))]
  keccak := digestTable [
    (bytesLiteral 64 enclavePoint,
      0x1c9c6b199002237e2c02738d6a5d3f8df5ed873061c232168445a08394722c38),
    (bytesLiteral 43 (0x02e9827a69808405f5e100843b9aca008252089434343434 * 2 ^ 152 +
      0x343434343434343434343434343434346480c0),
      0x74160b5d390881c05de41fe275595d13ed1d06700308098d944b95bdf4189e41),
    (hexBytes honestAttestation.signedTransaction.rawTransaction,
      0xcdfec75e73ee7f2e8af6fc24d8c8a6f225e58f00fd47ff33f751d565eced7453),
    ([0x02, 0xc0], 0xcace66b6a82a5dc496a5b21a4032eb58baf223ea6f142a01593a5d105d5ee150)]
  ed25519Verify := fun key message signature =>
    key = policyKey ∧ signature = (fromHex honestDecision.signature).getD [] ∧
      message = canonicalText (honestDecision.unsignedDump textHost)
  fromEncodedPoint := fun encoded =>
    if encoded = bytesLiteral 65 enclavePoint then some encoded else none
  ecdsaVerify := fun point digest r s =>
    point = bytesLiteral 65 enclavePoint ∧
      ([honestAttestation, forgedAttestation].any fun a =>
        (digest = hexBytes a.enclaveEvidence.evidenceHash ∧
          bytesLiteral 32 r ++ bytesLiteral 32 s =
            (hexBytes a.enclaveEvidence.evidenceSignature).take 64) ∨
        (digest = hexBytes a.enclaveEvidence.signingHash ∧
          bytesLiteral 32 r ++ bytesLiteral 32 s =
            (hexBytes a.signedTransaction.signature).take 64))
  fromIsoformat := fun text =>
    if text = "2026-07-18T12:00:30+00:00".toList then some sampleExpiry
    else if text = "2026-07-18T12:00:01+00:00".toList then some 63919972801000000
    else none }

def approvedBuilds : List Str := ["local-compose-v1".toList]

theorem honestAttestation_valid :
    verifyCompleteAttestation attestationHost honestAttestation policyKey approvedBuilds =
      .ok ⟨true, []⟩ := by
  decide +kernel

theorem forgedAttestation_valid :
    verifyCompleteAttestation attestationHost forgedAttestation policyKey approvedBuilds =
      .ok ⟨true, []⟩ := by
  decide +kernel

/-! ## The decision -/

section Valid

variable {host : Host} {a : CompleteAttestationV1} {policyPublicKey : Bytes}
  {builds : List Str} {errors : List String}

/-- The decision allows the attested proposal and was unexpired when the evidence was
issued. -/
def AuthorizesProposal (host : Host) (a : CompleteAttestationV1) : Prop :=
  a.proposal.proposalHash host = .ok a.decision.proposalHash.val ∧
    a.decision.verdict = .allow ∧
    ∃ issuedAt, evidenceDatetime host a.enclaveEvidence.issuedAt = .ok issuedAt ∧
      issuedAt < a.decision.expiresAt

theorem verdict_of_reservation {d : DecisionTokenV1} {u : Uuid}
    (h : some u = d.reservationId) : d.verdict = .allow := by
  cases hverdict : d.verdict with
  | allow => rfl
  | deny =>
    have hnone := d.reservationMatchesVerdict.2 hverdict
    rw [← h] at hnone
    cases hnone

/-- The verifier compares the evidence with the proposal and with the decision, but
their two proposal hashes only through the evidence. -/
theorem validAttestation_authorizesProposal_iff
    (hvalid : verifyCompleteAttestation host a policyPublicKey builds = .ok ⟨true, errors⟩) :
    AuthorizesProposal host a ↔
      a.enclaveEvidence.proposalHash = a.decision.proposalHash := by
  obtain ⟨issuedAt, expiresAt, payload, embedded, own, hverified⟩ := verified_of_valid hvalid
  have hbinds := evidenceBinds_of_evidenceErrors hverified.evidence
  unfold AuthorizesProposal
  rw [hverified.proposalHash, Except.ok.injEq, ← Subtype.ext_iff]
  constructor
  · rintro ⟨hhash, _⟩
    exact hhash
  · intro hhash
    refine ⟨hhash, verdict_of_reservation hbinds.reservationId, issuedAt, hverified.issued, ?_⟩
    exact unexpired_of_verifyDecisionToken hverified.decision

theorem honestAttestation_authorizesProposal :
    AuthorizesProposal attestationHost honestAttestation :=
  (validAttestation_authorizesProposal_iff honestAttestation_valid).mpr rfl

/-- The decision was issued for another proposal than the one attested. -/
theorem forgedAttestation_reusesDecision :
    verifyCompleteAttestation attestationHost forgedAttestation policyKey approvedBuilds =
        .ok ⟨true, []⟩ ∧
      ¬AuthorizesProposal attestationHost forgedAttestation := by
  refine ⟨forgedAttestation_valid, ?_⟩
  rintro ⟨hhash, _⟩
  obtain ⟨_, _, _, _, _, hverified⟩ := verified_of_valid forgedAttestation_valid
  rw [hverified.proposalHash] at hhash
  exact absurd hhash (by decide +kernel)

/-! ## The transaction -/

/-- The canonical unsigned encoding of a binding. -/
def bindingPayload (b : BindingFields) : Except String Str :=
  encodeUnsignedEip1559 b.chainId.val b.walletNonce b.maxPriorityFeePerGas b.maxFeePerGas.val
    b.gasLimit.val ((b.target.map Subtype.val).getD []) b.value b.calldata

def encodeNat (n : Nat) : Bytes := encodeBytes (toBytes n)

/-- The transaction of a binding with a signature `r`, `s`, `y_parity`: a typed
transaction whose list has the three after the nine unsigned fields. -/
def signedPayload (b : BindingFields) (signature : Bytes) : Bytes :=
  0x02 :: encodeList [
    encodeNat b.chainId.val,
    encodeNat b.walletNonce,
    encodeNat b.maxPriorityFeePerGas,
    encodeNat b.maxFeePerGas.val,
    encodeNat b.gasLimit.val,
    encodeBytes (hexBytes ((b.target.map Subtype.val).getD [])),
    encodeNat b.value,
    encodeBytes (hexBytes b.calldata),
    encodeList [],
    encodeNat (signature.getD 64 0).toNat,
    encodeNat (fromBytes (signature.take 32)),
    encodeNat (fromBytes ((signature.drop 32).take 32))]

/-- The bytes the attested signature makes of the attested binding. -/
def attestedPayload (a : CompleteAttestationV1) : Bytes :=
  signedPayload a.transactionBinding.toBindingFields (hexBytes a.signedTransaction.signature)

/-- The signing hash is the hash of the binding, the raw bytes are the binding with the
attested signature, and what settled is their hash. -/
def PerformsBinding (host : Host) (a : CompleteAttestationV1) : Prop :=
  (bindingPayload a.transactionBinding.toBindingFields).map (keccakHex host) =
      .ok a.signedTransaction.eip1559Hash.val ∧
    hexBytes a.signedTransaction.rawTransaction = attestedPayload a ∧
    ∀ settlement, a.settlement = some settlement →
      settlement.transactionHash.val = prefixedHex (host.keccak (attestedPayload a))

/-- The verifier never encodes the binding.  As long as Keccak does not collide on the
two byte strings, the bytes perform the binding exactly when the two hashes in the
evidence are those of the binding. -/
theorem validAttestation_performsBinding_iff
    (hcollision : host.keccak (hexBytes a.signedTransaction.rawTransaction) =
      host.keccak (attestedPayload a) →
        hexBytes a.signedTransaction.rawTransaction = attestedPayload a)
    (hvalid : verifyCompleteAttestation host a policyPublicKey builds = .ok ⟨true, errors⟩) :
    PerformsBinding host a ↔
      (bindingPayload a.transactionBinding.toBindingFields).map (keccakHex host) =
          .ok a.enclaveEvidence.signingHash.val ∧
        prefixedHex (host.keccak (attestedPayload a)) =
          a.enclaveEvidence.transactionHash.val := by
  obtain ⟨issuedAt, expiresAt, payload, embedded, own, hverified⟩ := verified_of_valid hvalid
  have hbinds := evidenceBinds_of_evidenceErrors hverified.evidence
  have hraw := keccak_of_rawErrors hverified.raw
  rw [hbinds.signingHash, hbinds.transactionHash]
  constructor
  · rintro ⟨hsigning, hbytes, _⟩
    exact ⟨hsigning, by rw [← hbytes, hraw]⟩
  · rintro ⟨hsigning, htransaction⟩
    refine ⟨hsigning, ?_, ?_⟩
    · apply hcollision
      rw [← hraw] at htransaction
      simp only [prefixedHex, List.cons.injEq, true_and] at htransaction
      exact (toHex_injective htransaction).symm
    · intro settlement hsome
      rw [settled_of_settlementErrors hsome hverified.settlement, htransaction]

theorem honestAttestation_performsBinding :
    PerformsBinding attestationHost honestAttestation := by
  have hbytes : hexBytes honestAttestation.signedTransaction.rawTransaction =
      attestedPayload honestAttestation := by
    decide +kernel
  exact (validAttestation_performsBinding_iff (fun _ => hbytes) honestAttestation_valid).mpr
    ⟨by decide +kernel, by decide +kernel⟩

/-- The attested bytes `0x02c0` are no transaction at all. -/
theorem forgedAttestation_performsNothing :
    verifyCompleteAttestation attestationHost forgedAttestation policyKey approvedBuilds =
        .ok ⟨true, []⟩ ∧
      ¬PerformsBinding attestationHost forgedAttestation := by
  refine ⟨forgedAttestation_valid, ?_⟩
  rintro ⟨_, hbytes, _⟩
  exact absurd hbytes (by decide +kernel)

/-! ## The key -/

/-- The identity of the signer is derived from the public key, and the wallet from the
proposal.  They agree exactly when the key is the key of the evidence's wallet. -/
theorem validAttestation_signerIdentity_iff
    (hvalid : verifyCompleteAttestation host a policyPublicKey builds = .ok ⟨true, errors⟩) :
    a.enclaveEvidence.signerIdentity = a.proposal.wallet ↔
      (host.fromEncodedPoint (hexBytes a.enclaveEvidence.secp256k1PublicKey)).map
        (ethereumAddress host) = some a.enclaveEvidence.wallet.val := by
  obtain ⟨issuedAt, expiresAt, payload, embedded, own, hverified⟩ := verified_of_valid hvalid
  have hbinds := evidenceBinds_of_evidenceErrors hverified.evidence
  rw [identity_of_keyErrors hverified.key, hbinds.wallet, Option.some.injEq, Subtype.ext_iff]

end Valid

theorem honestAttestation_signerIdentity :
    honestAttestation.enclaveEvidence.signerIdentity = honestAttestation.proposal.wallet :=
  (validAttestation_signerIdentity_iff honestAttestation_valid).mpr (by decide +kernel)

/-- The key that signed is not the key of the attested wallet. -/
theorem forgedAttestation_foreignSigner :
    verifyCompleteAttestation attestationHost forgedAttestation policyKey approvedBuilds =
        .ok ⟨true, []⟩ ∧
      forgedAttestation.enclaveEvidence.signerIdentity ≠ forgedAttestation.proposal.wallet :=
  ⟨forgedAttestation_valid, by decide +kernel⟩

end AegisLedger.Gateway.AttestationSoundness
