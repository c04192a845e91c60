import AegisLedger.Gateway.Proofs.Eip1559Codec
import AegisLedger.Gateway.Proofs.SignedEffect

/-!
# What the signer authorization gate accepts

Each part of the gate returns exactly when a condition on the request holds, so the whole
gate accepts exactly the requests that meet all four.  Two of the conditions are stated in
bytes: the EIP-712 payload has one free field, and the EIP-1559 payload is the encoding of
the binding.
-/

namespace AegisLedger.Gateway.GateChecks

open AegisLedger.Support HexText Checks Eip1559 Eip1559Codec
open SignedEffect SignerAuthorizationGate

/-! ## Lower-case hexadecimal text -/

theorem exists_hexDigit {c : Char} (h : isLowerHexDigit c = true) :
    ∃ n, n < 16 ∧ hexDigit n = c := by
  simp only [isLowerHexDigit, Bool.or_eq_true, Bool.and_eq_true, decide_eq_true_eq] at h
  rcases h with h | h
  · refine ⟨c.toNat - 48, by omega, ?_⟩
    have hcode : 48 + (c.toNat - 48) = c.toNat := by omega
    rw [hexDigit, if_pos (by omega), hcode, Char.ofNat_toNat]
  · refine ⟨c.toNat - 87, by omega, ?_⟩
    have hcode : 87 + (c.toNat - 87) = c.toNat := by omega
    rw [hexDigit, if_neg (by omega), hcode, Char.ofNat_toNat]

theorem exists_toHex : (s : Str) → s.length % 2 = 0 → s.all isLowerHexDigit = true →
    ∃ bytes, toHex bytes = s
  | [], _, _ => ⟨[], rfl⟩
  | [_], hlength, _ => by cases hlength
  | c :: d :: rest, hlength, hdigits => by
      simp only [List.length_cons] at hlength
      simp only [List.all_cons, Bool.and_eq_true] at hdigits
      obtain ⟨hc, hd, hrest⟩ := hdigits
      obtain ⟨bytes, hbytes⟩ := exists_toHex rest (by omega) hrest
      obtain ⟨high, hhigh, rfl⟩ := exists_hexDigit hc
      obtain ⟨low, hlow, rfl⟩ := exists_hexDigit hd
      refine ⟨UInt8.ofNat (16 * high + low) :: bytes, ?_⟩
      have hvalue : (UInt8.ofNat (16 * high + low)).toNat = 16 * high + low :=
        UInt8.toNat_ofNat_of_lt' (by
          have hsize : UInt8.size = 256 := rfl
          omega)
      have hdiv : (16 * high + low) / 16 = high := by omega
      have hmod : (16 * high + low) % 16 = low := by omega
      rw [toHex, List.flatMap_cons, ← toHex, hbytes, hexPair, hvalue, hdiv, hmod]
      rfl

variable {s : Str}

/-- Validated text is the text of the bytes it stands for. -/
theorem prefixedHex_hexBytes (h : matchesHexBytes isLowerHexDigit s = true) :
    prefixedHex (hexBytes s) = s := by
  simp only [matchesHexBytes, hasHexPrefix, Bool.and_eq_true, beq_iff_eq] at h
  obtain ⟨⟨hmark, heven⟩, hdigits⟩ := h
  have hsplit : s = '0' :: 'x' :: s.drop 2 := by
    conv_lhs => rw [← List.take_append_drop 2 s, hmark]
    rfl
  have hlength : (s.drop 2).length % 2 = 0 := by
    rw [hsplit, List.length_cons, List.length_cons] at heven
    omega
  obtain ⟨bytes, hbytes⟩ := exists_toHex _ hlength hdigits
  rw [hexBytes, ← hbytes, fromHex_toHex, Option.getD_some, prefixedHex, hbytes]
  exact hsplit.symm

theorem matchesHexBytes_of_matchesHex {count : Nat} (heven : count % 2 = 0)
    (h : matchesHex isLowerHexDigit count s = true) : matchesHexBytes isLowerHexDigit s = true := by
  simp only [matchesHex, Bool.and_eq_true, beq_iff_eq] at h
  obtain ⟨⟨hmark, hlength⟩, hdigits⟩ := h
  have htwo : (s.take 2).length = 2 := by
    rw [beq_iff_eq.mp hmark]
    rfl
  rw [List.length_take] at htwo
  rw [List.length_drop] at hlength
  simp only [matchesHexBytes, hmark, hdigits, Bool.true_and, Bool.and_true, beq_iff_eq]
  omega

theorem prefixedHex_hexBytes_of_matchesHex {count : Nat} (heven : count % 2 = 0)
    (h : matchesHex isLowerHexDigit count s = true) : prefixedHex (hexBytes s) = s :=
  prefixedHex_hexBytes (matchesHexBytes_of_matchesHex heven h)

theorem length_hexBytes_of_matchesHex {size : Nat}
    (h : matchesHex isLowerHexDigit (2 * size) s = true) : (hexBytes s).length = size := by
  have htext := prefixedHex_hexBytes_of_matchesHex (by omega) h
  simp only [matchesHex, Bool.and_eq_true, beq_iff_eq] at h
  have hlength := length_prefixedHex (hexBytes s)
  have hdrop := h.1.2
  rw [List.length_drop] at hdrop
  rw [htext] at hlength
  omega

theorem prefixedHex_hexBytes_payload (payload : LowerHexData) :
    prefixedHex (hexBytes payload) = payload.val :=
  prefixedHex_hexBytes (Bool.and_eq_true_iff.mp payload.property).1

theorem hexBytes_prefixedHex (bytes : Bytes) : hexBytes (prefixedHex bytes) = bytes := by
  rw [hexBytes, fromHex_drop_prefixedHex, Option.getD_some]

theorem prefixedHex_injective : Function.Injective prefixedHex := by
  intro left right h
  rw [← hexBytes_prefixedHex left, h, hexBytes_prefixedHex]

/-! ## The payload of a binding -/

/-- The transaction that a binding describes. -/
def unsignedTransaction (b : BindingFields) (target : LowerAddress) : UnsignedEip1559 where
  chainId := b.chainId.val
  nonce := b.walletNonce
  maxPriorityFeePerGas := b.maxPriorityFeePerGas
  maxFeePerGas := b.maxFeePerGas.val
  gasLimit := b.gasLimit.val
  target := target
  value := b.value
  calldata := b.calldata

/-- The EIP-1559 payload is what the encoder writes for the binding. -/
def EncodesBinding (request : TransactionSignRequestV1) (target : LowerAddress) : Prop :=
  request.transaction.target = some target ∧
    encodeUnsigned (unsignedTransaction request.transaction.toBindingFields target) =
      .ok request.eip1559UnsignedPayload.val

variable {b : BindingFields}

theorem encodable_of_encodeUnsigned {target : LowerAddress} {payload : Str}
    (h : encodeUnsigned (unsignedTransaction b target) = .ok payload) :
    Encodable (unsignedTransaction b target) (hexBytes target) (hexBytes b.calldata) := by
  have htarget : prefixedHex (hexBytes target) = target.val :=
    prefixedHex_hexBytes_of_matchesHex (by omega) target.property
  have hcalldata : prefixedHex (hexBytes b.calldata) = b.calldata.val :=
    prefixedHex_hexBytes b.calldata.property
  rw [encodeUnsigned, encodeUnsignedEip1559, raiseIf_bind_eq_ok, raiseIf_bind_eq_ok,
    orRaise_bind_eq_ok] at h
  obtain ⟨-, -, targetBytes, htargetBytes, h⟩ := h
  rw [orRaise_bind_eq_ok] at h
  obtain ⟨calldataBytes, hcalldataBytes, h⟩ := h
  rw [raiseIf_bind_eq_ok, raiseIf_bind_eq_ok] at h
  obtain ⟨hpositive, hfee, h⟩ := h
  simp only [encodeInteger_natCast] at h
  have hhexTarget : hexBytes target = targetBytes := by
    have hdrop : fromHex (target.val.drop 2) = some targetBytes := htargetBytes
    rw [hexBytes, hdrop, Option.getD_some]
  have hhexCalldata : hexBytes b.calldata = calldataBytes := by
    have hdrop : fromHex (b.calldata.val.drop 2) = some calldataBytes := hcalldataBytes
    rw [hexBytes, hdrop, Option.getD_some]
  obtain ⟨hsize, -⟩ := raiseIf_bind_eq_ok.mp h
  refine {
    chainId := b.chainId.property
    gasLimit := b.gasLimit.property
    maxFeePerGas := b.maxFeePerGas.property
    priorityFee := ?_
    targetLength := length_hexBytes_of_matchesHex target.property
    target := htarget.symm
    calldata := hcalldata.symm
    size := ?_ }
  · exact Int.ofNat_le.mp (not_lt.mp hfee)
  · rw [hhexTarget, hhexCalldata]
    exact not_lt.mp hsize

theorem decodeUnsigned_of_encodeUnsigned {target : LowerAddress} {payload : Str}
    (h : encodeUnsigned (unsignedTransaction b target) = .ok payload) :
    decodeUnsignedEip1559 payload = .ok (unsignedTransaction b target) := by
  have hencodable := encodable_of_encodeUnsigned h
  have hpayload := encodeUnsigned_of_encodable hencodable
  rw [h, Except.ok.injEq] at hpayload
  rw [hpayload]
  exact decodeUnsigned_of_encodable hencodable

theorem bindsRaw_iff {raw : UnsignedEip1559} :
    BindsRaw b raw ↔ ∃ target, b.target = some target ∧ raw = unsignedTransaction b target := by
  constructor
  · intro hbinds
    obtain ⟨target, htarget, hvalue⟩ := Option.map_eq_some_iff.mp hbinds.target.symm
    refine ⟨target, htarget, ?_⟩
    obtain ⟨hchain, hnonce, -, hamount, hcalldata, hgas, hmax, hpriority⟩ := hbinds
    cases raw
    simp only [unsignedTransaction, UnsignedEip1559.mk.injEq]
    exact ⟨hchain, hnonce, hpriority, hmax, hgas, hvalue.symm, hamount, hcalldata⟩
  · rintro ⟨target, htarget, rfl⟩
    refine ⟨rfl, rfl, ?_, rfl, rfl, rfl, rfl, rfl⟩
    rw [htarget]
    rfl

variable {request : TransactionSignRequestV1}

theorem validateRaw_eq_ok_iff_bindsRaw :
    validateRaw request = .ok () ↔
      ∃ raw, decodeUnsignedEip1559 request.eip1559UnsignedPayload = .ok raw ∧
        BindsRaw request.transaction.toBindingFields raw := by
  constructor
  · intro h
    have hdecode : ∃ raw, decodeUnsignedEip1559 request.eip1559UnsignedPayload = .ok raw := by
      rw [validateRaw, mapError_bind_eq_ok] at h
      obtain ⟨raw, hraw, -⟩ := h
      exact ⟨raw, hraw⟩
    obtain ⟨raw, hraw⟩ := hdecode
    exact ⟨raw, hraw, validateRaw_eq_ok h hraw⟩
  · rintro ⟨raw, hraw, hbinds⟩
    rw [validateRaw, mapError_bind_eq_ok]
    refine ⟨raw, hraw, ?_⟩
    simp only [raiseIf_bind_eq_ok, raiseIf_eq_ok, not_or, not_not]
    exact ⟨⟨hbinds.chainId, hbinds.nonce⟩, hbinds.target, hbinds.value, hbinds.calldata,
      hbinds.gasLimit, hbinds.maxFeePerGas, hbinds.maxPriorityFeePerGas⟩

theorem validateRaw_eq_ok_iff :
    validateRaw request = .ok () ↔ ∃ target, EncodesBinding request target := by
  rw [validateRaw_eq_ok_iff_bindsRaw]
  constructor
  · rintro ⟨raw, hraw, hbinds⟩
    obtain ⟨target, htarget, rfl⟩ := bindsRaw_iff.mp hbinds
    refine ⟨target, htarget, ?_⟩
    have htext := prefixedHex_hexBytes_payload request.eip1559UnsignedPayload
    have hbytes : fromHex (request.eip1559UnsignedPayload.val.drop 2) =
        some (hexBytes request.eip1559UnsignedPayload) := by
      rw [← htext, fromHex_drop_prefixedHex, hexBytes_prefixedHex]
    obtain ⟨targetBytes, calldataBytes, hencodable, hwhole⟩ :=
      encodable_of_decodeUnsigned hbytes hraw
    rw [encodeUnsigned_of_encodable hencodable, ← hwhole, htext]
  · rintro ⟨target, htarget, hencode⟩
    exact ⟨_, decodeUnsigned_of_encodeUnsigned hencode, bindsRaw_iff.mpr ⟨target, htarget, rfl⟩⟩

/-! ## The typed data -/

/-- The layout of the EIP-712 payload: a mark, a domain separator that the gate does not
look at, and the proposal hash. -/
def typedData (domain proposalHash : Bytes) : Bytes := 0x19 :: 0x01 :: (domain ++ proposalHash)

structure PayloadsBound (host : Host) (request : TransactionSignRequestV1) : Prop where
  typedData : ∃ domain : Bytes, domain.length = 32 ∧
    request.eip712Payload.val =
      prefixedHex (GateChecks.typedData domain (hexBytes request.decision.proposalHash))
  eip712Hash : keccakHex host request.eip712Payload = request.eip712Hash.val
  typed : request.eip1559UnsignedPayload.val.take 4 = "0x02".toList
  eip1559Hash : keccakHex host request.eip1559UnsignedPayload = request.eip1559Hash.val

/-- A text that starts with `0x1901` holds bytes that start with the mark. -/
theorem take_prefixedHex_typedData {bytes : Bytes}
    (h : (prefixedHex bytes).take 6 = "0x1901".toList) : bytes.take 2 = [0x19, 0x01] := by
  match bytes with
  | [] => cases h
  | [b] =>
    have hlength := congrArg List.length h
    simp [prefixedHex, toHex, hexPair] at hlength
  | a :: b :: rest =>
    have hmark : toHex [a, b] = toHex [0x19, 0x01] := by
      have htake : (prefixedHex (a :: b :: rest)).take 6 = '0' :: 'x' :: toHex [a, b] := rfl
      rw [htake] at h
      exact (List.cons.inj (List.cons.inj h).2).2
    have hpair := toHex_injective hmark
    simpa using hpair

theorem typedData_of_slices {bytes proposalHash : Bytes}
    (hmark : bytes.take 2 = [0x19, 0x01]) (hhash : bytes.drop 34 = proposalHash) :
    bytes = typedData ((bytes.drop 2).take 32) proposalHash := by
  have hrest : (bytes.drop 2).drop 32 = proposalHash := by
    rw [List.drop_drop, hhash]
  calc bytes = bytes.take 2 ++ ((bytes.drop 2).take 32 ++ (bytes.drop 2).drop 32) := by
        rw [List.take_append_drop, List.take_append_drop]
    _ = typedData ((bytes.drop 2).take 32) proposalHash := by
        rw [hmark, hrest]
        rfl

variable {host : Host}

theorem validatePayloads_eq_ok_iff :
    validatePayloads host request = .ok () ↔ PayloadsBound host request := by
  have htext := prefixedHex_hexBytes_payload request.eip712Payload
  have hhash : (hexBytes request.decision.proposalHash).length = 32 :=
    length_hexBytes_of_matchesHex request.decision.proposalHash.property
  simp only [validatePayloads, raiseIf_bind_eq_ok, raiseIf_eq_ok, not_or, not_not]
  constructor
  · rintro ⟨hmark, htyped, h712, h1559, hlength, hbound⟩
    refine ⟨⟨((hexBytes request.eip712Payload).drop 2).take 32, ?_, ?_⟩, h712, htyped, h1559⟩
    · rw [List.length_take, List.length_drop, hlength]
      rfl
    · rw [← htext] at hmark
      rw [← typedData_of_slices (take_prefixedHex_typedData hmark) hbound, htext]
  · rintro ⟨⟨domain, hdomain, hpayload⟩, h712, htyped, h1559⟩
    have hbytes : hexBytes request.eip712Payload =
        typedData domain (hexBytes request.decision.proposalHash) := by
      rw [hpayload, hexBytes_prefixedHex]
    refine ⟨?_, htyped, h712, h1559, ?_, ?_⟩
    · rw [hpayload]
      rfl
    · rw [hbytes, typedData, List.length_cons, List.length_cons, List.length_append, hdomain,
        hhash]
    · rw [hbytes, typedData, List.drop_succ_cons, List.drop_succ_cons, ← hdomain,
        List.drop_left]

/-! ## The gate -/

variable {gate : SignerAuthorizationGate} {now : Datetime}

theorem validateAuthorization_eq_ok_iff :
    gate.validateAuthorization host request now = .ok () ↔ Authorized host gate request now := by
  constructor
  · exact authorized_of_validateAuthorization
  · intro h
    simp only [validateAuthorization, raiseIf_bind_eq_ok, raiseIf_eq_ok, mapError_bind_eq_ok,
      not_not, not_or, not_le, not_lt, not_exists, not_and]
    exact ⟨h.unexpired, true, h.verified, Bool.noConfusion, h.policySigner, h.verdict,
      h.policyHash, _, h.proposalHash, rfl, h.reservation, h.allowedChain,
      ⟨h.proposalChain, h.bindingChain⟩, h.wallet, h.bindingNonce,
      ⟨h.withinDecision, h.withinDeadline⟩, h.fresh, h.nextNonce⟩

/-- The binding carries operation, asset, amount and intent of the proposal. -/
structure BindsProposal (request : TransactionSignRequestV1) : Prop where
  operation : request.transaction.operation = request.proposal.intent.kind
  asset : request.transaction.asset = request.proposal.asset
  amount : request.transaction.amount = request.proposal.amount
  intent : MatchesIntent request.transaction.toBindingFields request.proposal.intent

theorem validateBinding_eq_ok_iff : validateBinding request = .ok () ↔ BindsProposal request := by
  constructor
  · intro h
    obtain ⟨hop, hasset, hamount, hintent⟩ := validateBinding_eq_ok h
    exact ⟨hop, hasset, hamount, hintent⟩
  · rintro ⟨hop, hasset, hamount, hintent⟩
    simp only [validateBinding, raiseIf_bind_eq_ok, not_not]
    refine ⟨hop, hasset, hamount, ?_⟩
    cases hcase : request.proposal.intent with
    | transfer intent =>
      rw [hcase] at hintent
      simpa [MatchesIntent] using hintent
    | swap intent =>
      rw [hcase] at hintent
      simpa [MatchesIntent] using hintent

/-- Everything the gate checks. -/
structure Accepts (host : Host) (gate : SignerAuthorizationGate)
    (request : TransactionSignRequestV1) (now : Datetime) : Prop where
  authorized : Authorized host gate request now
  payloads : PayloadsBound host request
  proposal : BindsProposal request
  binding : ∃ target, EncodesBinding request target

theorem validateAndConsume_isOk_iff :
    (∃ gate', gate.validateAndConsume host request now = .ok gate') ↔
      Accepts host gate request now := by
  have hvalidate : gate.validate host request now = .ok () ↔ Accepts host gate request now := by
    simp only [validate, bind_eq_ok]
    constructor
    · rintro ⟨_, hauthorized, _, hpayloads, _, hproposal, hbinding⟩
      exact ⟨validateAuthorization_eq_ok_iff.mp hauthorized,
        validatePayloads_eq_ok_iff.mp hpayloads, validateBinding_eq_ok_iff.mp hproposal,
        validateRaw_eq_ok_iff.mp hbinding⟩
    · rintro ⟨hauthorized, hpayloads, hproposal, hbinding⟩
      exact ⟨(), validateAuthorization_eq_ok_iff.mpr hauthorized, (),
        validatePayloads_eq_ok_iff.mpr hpayloads, (), validateBinding_eq_ok_iff.mpr hproposal,
        validateRaw_eq_ok_iff.mpr hbinding⟩
  rw [← hvalidate]
  simp only [validateAndConsume, bind_eq_ok, pure_eq_ok]
  constructor
  · rintro ⟨_, _, h, _⟩
    exact h
  · intro h
    exact ⟨_, (), h, rfl⟩

/-! ## What is signed, to the byte -/

structure SignsExactly (host : Host) (request : TransactionSignRequestV1) : Prop where
  payload : ∃ target, request.transaction.target = some target ∧
    encodeUnsignedEip1559 request.transaction.chainId.val request.transaction.walletNonce
        request.transaction.maxPriorityFeePerGas request.transaction.maxFeePerGas.val
        request.transaction.gasLimit.val target request.transaction.value
        request.transaction.calldata =
      .ok request.eip1559UnsignedPayload.val
  digest : request.eip1559Hash.val =
    prefixedHex (host.keccak (hexBytes request.eip1559UnsignedPayload))
  /-- The domain separator is whatever the request has in its place. -/
  typedData : ∃ domain proposalHash : Bytes, domain.length = 32 ∧
    request.proposal.proposalHash host = .ok (prefixedHex proposalHash) ∧
    request.eip712Payload.val = prefixedHex (typedData domain proposalHash)
  transfer : ∀ intent, request.proposal.intent = .transfer intent →
    request.transaction.target = some intent.recipient ∧
      request.transaction.value = request.proposal.amount.val

theorem signsExactly_of_accepts (h : Accepts host gate request now) :
    SignsExactly host request where
  payload := h.binding
  digest := h.payloads.eip1559Hash.symm
  typedData := by
    obtain ⟨domain, hdomain, hpayload⟩ := h.payloads.typedData
    refine ⟨domain, hexBytes request.decision.proposalHash, hdomain, ?_, hpayload⟩
    rw [prefixedHex_hexBytes_of_matchesHex (by omega) request.decision.proposalHash.property]
    exact h.authorized.proposalHash
  transfer := by
    intro intent hintent
    have hop := h.proposal.operation
    have hrecipient := h.proposal.intent
    rw [hintent] at hop hrecipient
    constructor
    · rw [BindingFields.target, hop]
      exact hrecipient
    · rw [request.transaction.value_eq_amount hop, h.proposal.amount]

/-- An accepted request signs the encoding of its binding and nothing else, so the binding
alone decides what is signed. -/
theorem accepted_signsExactly {host : Host} {gate gate' : SignerAuthorizationGate}
    {request : TransactionSignRequestV1} {now : Datetime}
    (haccept : gate.validateAndConsume host request now = .ok gate') :
    SignsExactly host request ∧
      ∀ otherGate otherGate' other later,
        SignerAuthorizationGate.validateAndConsume host otherGate other later =
          .ok otherGate' →
        other.transaction = request.transaction →
        other.eip1559UnsignedPayload = request.eip1559UnsignedPayload ∧
          other.eip1559Hash = request.eip1559Hash := by
  have hsigns := signsExactly_of_accepts (validateAndConsume_isOk_iff.mp ⟨_, haccept⟩)
  refine ⟨hsigns, ?_⟩
  intro otherGate otherGate' other later hother hbinding
  have hothers := signsExactly_of_accepts (validateAndConsume_isOk_iff.mp ⟨_, hother⟩)
  obtain ⟨target, htarget, hencode⟩ := hsigns.payload
  obtain ⟨otherTarget, hotherTarget, hotherEncode⟩ := hothers.payload
  rw [hbinding] at hotherTarget hotherEncode
  obtain rfl : target = otherTarget := Option.some.inj (htarget.symm.trans hotherTarget)
  have hpayload : other.eip1559UnsignedPayload = request.eip1559UnsignedPayload :=
    Subtype.ext (Except.ok.inj (hotherEncode.symm.trans hencode))
  refine ⟨hpayload, Subtype.ext ?_⟩
  rw [hothers.digest, hsigns.digest, hpayload]

theorem plainRequest_signsExactly : SignsExactly sampleHost plainRequest := by
  obtain ⟨gate', haccept⟩ := plainRequest_accepted
  exact (accepted_signsExactly haccept).1

end AegisLedger.Gateway.GateChecks
