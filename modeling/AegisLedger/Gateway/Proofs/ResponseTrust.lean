import AegisLedger.Gateway.Proofs.AttestationSoundness
import AegisLedger.Gateway.Proofs.Eip1559Codec
import AegisLedger.Gateway.Proofs.GateChecks
import AegisLedger.Gateway.SignerClient

/-!
# What an accepted answer of the signer establishes

The client compares the metadata of an answer with its request and the transaction hash with
the raw bytes.  It reads neither the raw bytes nor the signature.  The raw bytes are the signed
form of the requested transaction exactly when the repository's own RLP reader finds the fields
of the request in them, followed by the signature, and the signature verifies.
-/

namespace AegisLedger.Gateway.ResponseTrust

open AegisLedger.Support HexText Checks Eip1559 RlpCodec Eip1559Codec
open AegisLedger.Signer (SignAuthorizedTransactionResponse)
open SignedEffect AttestationSoundness GateChecks

/-! ## Signed transactions -/

/-- A secp256k1 signature with its recovery id. -/
structure RecoverableSignature where
  r : BitVec 256
  s : BitVec 256
  recoveryId : UInt8
  deriving DecidableEq

namespace RecoverableSignature

/-- The signature behind `0x` and 130 digits. -/
def read (text : Str) : Option RecoverableSignature :=
  (fromHex (text.drop 2)).bind fun data =>
    if data.length = 65 then
      some ⟨BitVec.ofNat 256 (fromBytes (data.take 32)),
        BitVec.ofNat 256 (fromBytes (slice data 32 64)), data.getD 64 0⟩
    else none

def yParity (signature : RecoverableSignature) : Nat := signature.recoveryId.toNat % 2

/-- The three fields that a signed transaction has after the nine unsigned ones. -/
def fields (signature : RecoverableSignature) : List RlpValue := [
  .bytes (toBytes signature.yParity),
  .bytes (toBytes signature.r.toNat),
  .bytes (toBytes signature.s.toNat)]

end RecoverableSignature

/-- The EIP-1559 form of a signed transaction. -/
def signedBytes (tx : UnsignedEip1559) (targetBytes calldataBytes : Bytes)
    (signature : RecoverableSignature) : Bytes :=
  2 :: encodeRlp (.list (fieldsOf tx targetBytes calldataBytes ++ signature.fields))

/-- Recovery of secp256k1 keys. -/
structure Secp256k1 where
  /-- `VerifyingKey::recover_from_prehash`; the result is the uncompressed point. -/
  recover : Bytes → RecoverableSignature → Option Bytes
  /-- The parity and overflow of the nonce point that verification computes from key, digest,
  `r` and `s`. -/
  recoveryId : Bytes → Bytes → Nat → Nat → UInt8

/-- Recovery gives the one key that verifies the signature with the recovery id it carries. -/
def Secp256k1.Lawful (curve : Secp256k1) (host : Host) : Prop :=
  ∀ digest signature key, curve.recover digest signature = some key ↔
    host.ecdsaVerify key digest signature.r.toNat signature.s.toNat = true ∧
      curve.recoveryId key digest signature.r.toNat signature.s.toNat = signature.recoveryId

/-! ## The property and the comparison that decides it -/

/-- The result carries the signed form of the transaction of the request, under the signature
of the result, and that recovers to the signer of the result. -/
def Genuine (host : Host) (curve : Secp256k1) (request : TransactionSignRequestV1)
    (result : SignerResult) : Prop :=
  ∃ tx targetBytes calldataBytes signature key,
    decodeUnsignedEip1559 request.eip1559UnsignedPayload = .ok tx ∧
    tx.target = prefixedHex targetBytes ∧ tx.calldata = prefixedHex calldataBytes ∧
    RecoverableSignature.read result.signature = some signature ∧
    result.signedTransaction = signedBytes tx targetBytes calldataBytes signature ∧
    curve.recover (hexBytes request.eip1559Hash) signature = some key ∧
    ethereumAddress host key = result.signerIdentity

/-- The RLP list behind the type byte of `data`, when it takes up all of `data`. -/
def ReadsFields (data : Bytes) (fields : List RlpValue) : Prop :=
  decodeRlp data 1 0 = .ok (.list fields, data.length)

/-- `field` is the canonical form of `value`. -/
def ReadsInteger (field : RlpValue) (value : Nat) : Prop := integer field "signature" = .ok value

/-- The comparison that the client leaves out. -/
def Corroborated (host : Host) (curve : Secp256k1) (request : TransactionSignRequestV1)
    (response : SignAuthorizedTransactionResponse) : Prop :=
  (∃ tx, decodeUnsignedEip1559 request.eip1559UnsignedPayload = .ok tx) ∧
  ∃ fields yParity r s signature key,
    ReadsFields (hexBytes request.eip1559UnsignedPayload) fields ∧
    ReadsFields response.signedTransaction (fields ++ [yParity, r, s]) ∧
    RecoverableSignature.read (host.lower response.signature) = some signature ∧
    ReadsInteger yParity signature.yParity ∧ ReadsInteger r signature.r.toNat ∧
    ReadsInteger s signature.s.toNat ∧
    host.ecdsaVerify key (hexBytes request.eip1559Hash) signature.r.toNat signature.s.toNat =
      true ∧
    curve.recoveryId key (hexBytes request.eip1559Hash) signature.r.toNat signature.s.toNat =
      signature.recoveryId ∧
    ethereumAddress host key = host.lower response.signerIdentity

/-! ## Inversion of the client -/

/-- What an accepted result takes over from the answer. -/
structure TakenFrom (host : Host) (response : SignAuthorizedTransactionResponse)
    (result : SignerResult) : Prop where
  typeTwo : response.signedTransaction.head? = some 2
  signedTransaction : result.signedTransaction = response.signedTransaction
  signature : result.signature = host.lower response.signature
  signerIdentity : result.signerIdentity = host.lower response.signerIdentity

theorem takenFrom_of_validatedResult {host : Host} {readers : Readers}
    {request : TransactionSignRequestV1} {response : SignAuthorizedTransactionResponse}
    {result : SignerResult} (h : validatedResult host readers request response = .ok result) :
    TakenFrom host response result := by
  unfold validatedResult at h
  simp only [raiseIf_bind_eq_ok, orRaise_bind_eq_ok] at h
  obtain ⟨_, htype, _, _, loaded, _, h⟩ := h
  cases loaded with
  | obj evidence =>
    simp only [raiseIf_bind_eq_ok, pure_eq_ok] at h
    obtain ⟨_, rfl⟩ := h
    exact ⟨not_not.mp htype, rfl, rfl, rfl⟩
  | _ => cases h

/-! ## The signed form is read back -/

theorem length_encodeBytes_le {value : Bytes} (h : value.length < 56) :
    (encodeBytes value).length ≤ 1 + value.length := by
  unfold encodeBytes
  split_ifs
  · omega
  · rw [length_withHeader_short h]

theorem length_encodeInteger_le (word : BitVec 256) :
    (encodeRlp (.bytes (toBytes word.toNat))).length ≤ 33 := by
  have hbytes : byteLength word.toNat ≤ 32 := (byteLength_le_iff _ _).mpr word.isLt
  have hlength := length_toBytes word.toNat
  have hencoded := length_encodeBytes_le (show (toBytes word.toNat).length < 56 by omega)
  rw [encodeRlp]
  omega

theorem length_withHeader_le {short long : Nat} {payload : Bytes}
    (h : payload.length < 256 ^ 8) :
    (withHeader short long payload).length ≤ 9 + payload.length := by
  have hdigits : byteLength payload.length ≤ 8 := (byteLength_le_iff _ _).mpr h
  rcases Nat.lt_or_ge payload.length 56 with hsmall | hbig
  · rw [length_withHeader_short hsmall]
    omega
  · rw [length_withHeader_long hbig]
    omega

/-- Every item takes at least one byte. -/
theorem length_le_length_encodeItems (items : List RlpValue) :
    items.length ≤ (encodeItems items).length := by
  induction items with
  | nil => exact Nat.zero_le _
  | cons item items ih =>
    have hpos := List.length_pos_iff.mpr (encodeRlp_ne_nil item)
    rw [encodeItems_length_cons, List.length_cons]
    omega

section Signed

variable {tx : UnsignedEip1559} {targetBytes calldataBytes : Bytes}
  (signature : RecoverableSignature)

theorem length_encodeItems_fields : (encodeItems signature.fields).length ≤ 99 := by
  have hparity : (encodeRlp (.bytes (toBytes signature.yParity))).length ≤ 33 := by
    have hlt : signature.yParity < 2 := Nat.mod_lt _ (by decide)
    have hword := length_encodeInteger_le (BitVec.ofNat 256 signature.yParity)
    rwa [BitVec.toNat_ofNat, Nat.mod_eq_of_lt (by omega)] at hword
  have hr := length_encodeInteger_le signature.r
  have hs := length_encodeInteger_le signature.s
  simp only [RecoverableSignature.fields, encodeItems_length_cons]
  rw [encodeItems, List.length_nil]
  omega

/-- A transaction that the codec takes leaves room for its signature. -/
theorem length_signed_lt (h : Encodable tx targetBytes calldataBytes) :
    (encodeRlp (.list (fieldsOf tx targetBytes calldataBytes ++ signature.fields))).length <
      256 ^ 8 := by
  have hsize := h.size
  rw [transactionBytes_eq, List.length_cons, encodeRlp, maxTransactionBytes] at hsize
  have hpayload := length_le_withHeader 0xC0 0xF7 (encodeItems (fieldsOf tx targetBytes
    calldataBytes))
  have hfields := length_encodeItems_fields signature
  rw [encodeRlp, encodeItems_append]
  refine (length_withHeader_le ?_).trans_lt ?_
  · rw [List.length_append]
    omega
  · rw [List.length_append]
    omega

theorem readsFields_signedBytes (h : Encodable tx targetBytes calldataBytes) :
    ReadsFields (signedBytes tx targetBytes calldataBytes signature)
      (fieldsOf tx targetBytes calldataBytes ++ signature.fields) := by
  have hdepth : depth (.list (fieldsOf tx targetBytes calldataBytes ++ signature.fields)) < 5 := by
    simp [depth, depthItems, fieldsOf, RecoverableSignature.fields]
  have hread := readsBack_decodeRlpLevels
    (signedBytes tx targetBytes calldataBytes signature) 5 _
    (fits_of_depth 5 _ hdepth (length_signed_lt signature h)) [2] [] (by simp [signedBytes])
  have hlength : (signedBytes tx targetBytes calldataBytes signature).length =
      [(2 : UInt8)].length +
        (encodeRlp (.list (fieldsOf tx targetBytes calldataBytes ++ signature.fields))).length := by
    rw [signedBytes, List.length_cons, List.length_singleton]
    omega
  rw [ReadsFields, hlength]
  exact hread

end Signed

/-- What is read behind the type byte is the only encoding of its fields. -/
theorem ReadsFields.eq_encoded {data : Bytes} {fields : List RlpValue}
    (h : ReadsFields data fields) (htype : data.head? = some 2) :
    data = 2 :: encodeRlp (.list fields) := by
  obtain ⟨rest, rfl⟩ : ∃ rest, data = 2 :: rest := by
    cases data with
    | nil => cases htype
    | cons b rest => exact ⟨rest, by rw [Option.some.inj htype]⟩
  obtain ⟨-, -, hslice⟩ := readsCanonical_decodeRlpLevels _ _ _ _ _ h
  rw [slice_all, List.drop_one, List.tail_cons] at hslice
  rw [hslice]

theorem ReadsFields.unique {data : Bytes} {fields fields' : List RlpValue}
    (h : ReadsFields data fields) (h' : ReadsFields data fields') : fields = fields' := by
  have heq := h.symm.trans h'
  simpa using heq

theorem readsInteger_iff {field : RlpValue} {value : Nat} :
    ReadsInteger field value ↔ field = .bytes (toBytes value) := by
  constructor
  · exact integer_eq_ok
  · rintro rfl
    exact integer_toBytes value "signature"

/-! ## The request -/

/-- The fields of a payload that the codec takes. -/
theorem readsFields_payload {payload : LowerHexData} {tx : UnsignedEip1559}
    (h : decodeUnsignedEip1559 payload = .ok tx) :
    ∃ targetBytes calldataBytes, Encodable tx targetBytes calldataBytes ∧
      ReadsFields (hexBytes payload) (fieldsOf tx targetBytes calldataBytes) := by
  obtain ⟨encoded, fields, -, hencoded, -, hread, hfields⟩ := decodeUnsigned_eq_ok h
  obtain ⟨targetBytes, calldataBytes, hencodable, -⟩ := encodable_of_decodeUnsigned hencoded h
  obtain ⟨targetBytes', calldataBytes', rfl, -, htarget, hcalldata, -⟩ :=
    fromFields_eq_ok hfields
  have hsameTarget := prefixedHex_injective (htarget.symm.trans hencodable.target)
  have hsameCalldata := prefixedHex_injective (hcalldata.symm.trans hencodable.calldata)
  refine ⟨targetBytes, calldataBytes, hencodable, ?_⟩
  rw [ReadsFields, hexBytes, hencoded, Option.getD_some, ← hsameTarget, ← hsameCalldata]
  exact hread

/-! ## An accepted answer is genuine exactly when it is corroborated -/

section Trust

variable {host : Host} {curve : Secp256k1} {readers : Readers}
  {request : TransactionSignRequestV1} {response : SignAuthorizedTransactionResponse}
  {result : SignerResult}

theorem corroborated_of_genuine (hlawful : curve.Lawful host)
    (htaken : TakenFrom host response result) (h : Genuine host curve request result) :
    Corroborated host curve request response := by
  obtain ⟨tx, targetBytes, calldataBytes, signature, key, hdecode, htarget, hcalldata, hsignature,
    hraw, hrecover, haddress⟩ := h
  obtain ⟨targetBytes', calldataBytes', hencodable, hpayload⟩ := readsFields_payload hdecode
  obtain rfl := prefixedHex_injective (htarget.symm.trans hencodable.target)
  obtain rfl := prefixedHex_injective (hcalldata.symm.trans hencodable.calldata)
  obtain ⟨hverify, hid⟩ := (hlawful _ _ _).mp hrecover
  rw [htaken.signedTransaction] at hraw
  rw [htaken.signature] at hsignature
  rw [htaken.signerIdentity] at haddress
  refine ⟨⟨tx, hdecode⟩, _, _, _, _, signature, key, hpayload, ?_, hsignature,
    readsInteger_iff.mpr rfl, readsInteger_iff.mpr rfl, readsInteger_iff.mpr rfl, hverify, hid,
    haddress⟩
  rw [hraw]
  exact readsFields_signedBytes signature hencodable

theorem genuine_of_corroborated (hlawful : curve.Lawful host)
    (htaken : TakenFrom host response result) (h : Corroborated host curve request response) :
    Genuine host curve request result := by
  obtain ⟨⟨tx, hdecode⟩, fields, yParity, r, s, signature, key, hpayload, hraw, hsignature,
    hparity, hr, hs, hverify, hid, haddress⟩ := h
  obtain ⟨targetBytes, calldataBytes, hencodable, hfields⟩ := readsFields_payload hdecode
  obtain rfl := hpayload.unique hfields
  obtain rfl := readsInteger_iff.mp hparity
  obtain rfl := readsInteger_iff.mp hr
  obtain rfl := readsInteger_iff.mp hs
  refine ⟨tx, targetBytes, calldataBytes, signature, key, hdecode, hencodable.target,
    hencodable.calldata, ?_, ?_, (hlawful _ _ _).mpr ⟨hverify, hid⟩, ?_⟩
  · rw [htaken.signature]
    exact hsignature
  · rw [htaken.signedTransaction]
    exact hraw.eq_encoded htaken.typeTwo
  · rw [htaken.signerIdentity]
    exact haddress

/-- An accepted result carries the signed form of the requested transaction exactly when the
raw bytes and the signature of the answer stand the comparison that the client leaves out. -/
theorem validatedResult_genuine_iff (hlawful : curve.Lawful host)
    (h : validatedResult host readers request response = .ok result) :
    Genuine host curve request result ↔ Corroborated host curve request response := by
  have htaken := takenFrom_of_validatedResult h
  exact ⟨corroborated_of_genuine hlawful htaken, genuine_of_corroborated hlawful htaken⟩

end Trust

/-! ## An honest answer and a forged one -/

/-- The request for the honest transfer. -/
def honestRequest : TransactionSignRequestV1 where
  proposal := honestAttestation.proposal
  decision := honestDecision
  reservationId := honestEvidence.reservationId
  walletNonce := 0
  chainId := 31337
  transaction := honestAttestation.transactionBinding
  eip712Payload := lowerHexData 66
    (0x1901abababababababababababababababababababababababababababababababab * 2 ^ 256 +
      honestProposalHash) (Nat.succ_pos _)
  eip1559UnsignedPayload := lowerHexData 43
    (0x02e9827a69808405f5e100843b9aca008252089434343434 * 2 ^ 152 +
      0x343434343434343434343434343434346480c0) (Nat.succ_pos _)
  eip712Hash := honestAttestation.signedTransaction.eip712Hash
  eip1559Hash := honestEvidence.signingHash
  expiresAt := sampleExpiry

/-- The answer with `evidence`, `rawTransaction` and `signature`. -/
def answer (evidence : EnclaveEvidenceV1) (rawTransaction : Bytes) (signature : HexSignature) :
    SignAuthorizedTransactionResponse where
  eip1559Hash := honestEvidence.signingHash
  walletNonce := 0
  chainId := 31337
  decisionId := uuidText honestDecision.decisionId
  signerIdentity := evidence.signerIdentity
  signature := signature
  enclaveEvidenceJson := utf8 (CanonicalText.write (.obj evidence.modelDump))
  signedTransaction := rawTransaction
  transactionHash := evidence.transactionHash
  signingHash := honestEvidence.signingHash

def honestAnswer : SignAuthorizedTransactionResponse :=
  answer honestEvidence (hexBytes honestAttestation.signedTransaction.rawTransaction)
    honestAttestation.signedTransaction.signature

/-- Evidence of the forged bytes that names the hash of the honest request. -/
def misleadingEvidence : EnclaveEvidenceV1 :=
  { forgedEvidence with signingHash := honestEvidence.signingHash }

/-- An answer with bytes that are no transaction and 65 zero bytes for a signature. -/
def forgedAnswer : SignAuthorizedTransactionResponse :=
  answer misleadingEvidence [0x02, 0xc0] (hexSignature 0)

/-- The readers, on the evidence of the two answers. -/
def sampleReaders : Readers where
  jsonLoads := fun data =>
    ([honestEvidence, misleadingEvidence].map fun evidence => .obj evidence.modelDump).find?
      fun value => utf8 (CanonicalText.write value) = data
  parseUuid := fun _ => none
  utcOffset := fun _ => none

/-- Recovery, on the signatures that `attestationHost` verifies. -/
def sampleCurve : Secp256k1 where
  recover := fun digest signature =>
    if attestationHost.ecdsaVerify (bytesLiteral 65 enclavePoint) digest signature.r.toNat
        signature.s.toNat = true ∧ signature.recoveryId = 1 then
      some (bytesLiteral 65 enclavePoint)
    else none
  recoveryId := fun _ _ _ _ => 1

theorem sampleCurve_lawful : sampleCurve.Lawful attestationHost := by
  intro digest signature key
  have hkey : ∀ r s, attestationHost.ecdsaVerify key digest r s = true →
      key = bytesLiteral 65 enclavePoint := by
    intro r s h
    exact (of_decide_eq_true h).1
  simp only [sampleCurve, Option.ite_none_right_eq_some, Option.some.injEq]
  constructor
  · rintro ⟨⟨hverify, hid⟩, rfl⟩
    exact ⟨hverify, hid.symm⟩
  · rintro ⟨hverify, hid⟩
    obtain rfl := hkey _ _ hverify
    exact ⟨⟨hverify, hid.symm⟩, rfl⟩

def honestTransaction : UnsignedEip1559 where
  chainId := 31337
  nonce := 0
  maxPriorityFeePerGas := 100000000
  maxFeePerGas := 1000000000
  gasLimit := 21000
  target := prefixedHex (List.replicate 20 0x34)
  value := 100
  calldata := prefixedHex []

def honestSignature : RecoverableSignature where
  r := 0x514a6959339bd32394d45ff826c70a97e1a49fe62b5e4616a6e53515788d95ed
  s := 0x3b28fd626ce0244f43ef12f9947c024b468d5013d57e247c54ab6e67655c7cea
  recoveryId := 1

/-- What the honest request and its answer carry. -/
theorem honest_contents :
    decodeUnsignedEip1559 honestRequest.eip1559UnsignedPayload = .ok honestTransaction ∧
    RecoverableSignature.read (attestationHost.lower honestAnswer.signature) =
      some honestSignature ∧
    honestAnswer.signedTransaction =
      signedBytes honestTransaction (List.replicate 20 0x34) [] honestSignature ∧
    attestationHost.ecdsaVerify (bytesLiteral 65 enclavePoint)
      (hexBytes honestRequest.eip1559Hash) honestSignature.r.toNat honestSignature.s.toNat =
        true ∧
    ethereumAddress attestationHost (bytesLiteral 65 enclavePoint) =
      attestationHost.lower honestAnswer.signerIdentity := by
  decide +kernel

theorem honestAnswer_corroborated :
    Corroborated attestationHost sampleCurve honestRequest honestAnswer := by
  obtain ⟨hdecode, hsignature, hraw, hverify, haddress⟩ := honest_contents
  obtain ⟨targetBytes, calldataBytes, hencodable, hpayload⟩ := readsFields_payload hdecode
  obtain rfl := prefixedHex_injective hencodable.target
  obtain rfl := prefixedHex_injective hencodable.calldata
  refine ⟨⟨_, hdecode⟩, _, _, _, _, honestSignature, bytesLiteral 65 enclavePoint, hpayload, ?_,
    hsignature, readsInteger_iff.mpr rfl, readsInteger_iff.mpr rfl, readsInteger_iff.mpr rfl,
    hverify, rfl, haddress⟩
  rw [hraw]
  exact readsFields_signedBytes honestSignature hencodable

theorem honestAnswer_genuine :
    ∃ result, validatedResult attestationHost sampleReaders honestRequest honestAnswer =
        .ok result ∧
      Genuine attestationHost sampleCurve honestRequest result := by
  have haccepted : (validatedResult attestationHost sampleReaders honestRequest
      honestAnswer).isOk = true := by
    decide +kernel
  obtain ⟨result, hresult⟩ := exists_eq_ok haccepted
  exact ⟨result, hresult,
    (validatedResult_genuine_iff sampleCurve_lawful hresult).mpr honestAnswer_corroborated⟩

/-- The client accepts an answer whose raw bytes are `0x02c0` and whose signature is zero. -/
theorem forgedAnswer_accepted :
    ∃ result, validatedResult attestationHost sampleReaders honestRequest forgedAnswer =
        .ok result ∧
      result.signedTransaction = [0x02, 0xc0] ∧
      ∀ curve, ¬ Genuine attestationHost curve honestRequest result := by
  have haccepted : (validatedResult attestationHost sampleReaders honestRequest
      forgedAnswer).isOk = true := by
    decide +kernel
  obtain ⟨result, hresult⟩ := exists_eq_ok haccepted
  have hraw : result.signedTransaction = [0x02, 0xc0] :=
    (takenFrom_of_validatedResult hresult).signedTransaction
  refine ⟨result, hresult, hraw, ?_⟩
  rintro curve ⟨tx, targetBytes, calldataBytes, signature, key, -, -, -, -, hsigned, -⟩
  have hlength := congrArg List.length (hraw.symm.trans hsigned)
  have hpayload := length_le_withHeader 0xC0 0xF7
    (encodeItems (fieldsOf tx targetBytes calldataBytes ++ signature.fields))
  have hitems := length_le_length_encodeItems
    (fieldsOf tx targetBytes calldataBytes ++ signature.fields)
  have hcount : (fieldsOf tx targetBytes calldataBytes ++ signature.fields).length = 12 := rfl
  rw [signedBytes, List.length_cons, encodeRlp] at hlength
  simp only [List.length_cons, List.length_nil] at hlength
  omega

end AegisLedger.Gateway.ResponseTrust
