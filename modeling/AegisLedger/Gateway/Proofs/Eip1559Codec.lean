import AegisLedger.Gateway.Proofs.RlpCodec

/-!
# The unsigned EIP-1559 codec is a bijection onto what it accepts

The decoder inverts the encoder, and a payload the decoder accepts is the one
payload the encoder writes for the decoded transaction.  Over the RLP facts this
is a matter of the nine fields: integers without leading zeros, a target of
twenty bytes, and an empty access list.
-/

namespace AegisLedger.Gateway.Eip1559Codec

open AegisLedger.Support HexText Checks Eip1559 RlpCodec

/-- The encoder applied to the fields of a decoded transaction. -/
def encodeUnsigned (tx : UnsignedEip1559) : Except String Str :=
  encodeUnsignedEip1559 tx.chainId tx.nonce tx.maxPriorityFeePerGas tx.maxFeePerGas tx.gasLimit
    tx.target tx.value tx.calldata

/-- The bytes the encoder writes for a transaction to `targetBytes` with
`calldataBytes`, whatever their number. -/
def transactionBytes (tx : UnsignedEip1559) (targetBytes calldataBytes : Bytes) : Bytes :=
  2 :: encodeList [
    encodeBytes (toBytes tx.chainId),
    encodeBytes (toBytes tx.nonce),
    encodeBytes (toBytes tx.maxPriorityFeePerGas),
    encodeBytes (toBytes tx.maxFeePerGas),
    encodeBytes (toBytes tx.gasLimit),
    encodeBytes targetBytes,
    encodeBytes (toBytes tx.value),
    encodeBytes calldataBytes,
    encodeList []]

/-- The transactions the codec is for: positive chain, gas limit and maximum fee,
a priority fee within the maximum, a target of twenty bytes, lower-case hex, and
an encoding within the size limit. -/
structure Encodable (tx : UnsignedEip1559) (targetBytes calldataBytes : Bytes) : Prop where
  chainId : 0 < tx.chainId
  gasLimit : 0 < tx.gasLimit
  maxFeePerGas : 0 < tx.maxFeePerGas
  priorityFee : tx.maxPriorityFeePerGas ≤ tx.maxFeePerGas
  targetLength : targetBytes.length = 20
  target : tx.target = prefixedHex targetBytes
  calldata : tx.calldata = prefixedHex calldataBytes
  size : (transactionBytes tx targetBytes calldataBytes).length ≤ maxTransactionBytes

/-- The RLP values of the nine fields. -/
def fieldsOf (tx : UnsignedEip1559) (targetBytes calldataBytes : Bytes) : List RlpValue := [
  .bytes (toBytes tx.chainId),
  .bytes (toBytes tx.nonce),
  .bytes (toBytes tx.maxPriorityFeePerGas),
  .bytes (toBytes tx.maxFeePerGas),
  .bytes (toBytes tx.gasLimit),
  .bytes targetBytes,
  .bytes (toBytes tx.value),
  .bytes calldataBytes,
  .list []]

theorem transactionBytes_eq (tx : UnsignedEip1559) (targetBytes calldataBytes : Bytes) :
    transactionBytes tx targetBytes calldataBytes =
      2 :: encodeRlp (.list (fieldsOf tx targetBytes calldataBytes)) := by
  simp [transactionBytes, fieldsOf, encodeList, encodeRlp, encodeItems]

/-! ## Hexadecimal text -/

/-! ## Encoding -/

theorem encodeInteger_natCast (value : Nat) :
    encodeInteger (value : Int) = .ok (encodeBytes (toBytes value)) := by
  rw [encodeInteger, raiseIf_bind_eq_ok, pure_eq_ok, Int.toNat_natCast]
  exact ⟨by omega, rfl⟩

variable {tx : UnsignedEip1559} {targetBytes calldataBytes : Bytes}

theorem encodeUnsigned_of_encodable (h : Encodable tx targetBytes calldataBytes) :
    encodeUnsigned tx = .ok (prefixedHex (transactionBytes tx targetBytes calldataBytes)) := by
  have htarget := length_prefixedHex targetBytes
  have hcalldata := length_prefixedHex calldataBytes
  have hlength := h.targetLength
  have hchain := h.chainId
  have hgas := h.gasLimit
  have hmaxFee := h.maxFeePerGas
  have hpriority := h.priorityFee
  rw [encodeUnsigned, encodeUnsignedEip1559, h.target, h.calldata, raiseIf_bind_eq_ok,
    raiseIf_bind_eq_ok, orRaise_bind_eq_ok]
  refine ⟨?_, ?_, targetBytes, fromHex_drop_prefixedHex _, ?_⟩
  · rw [hasHexPrefix_prefixedHex]
    simp only [Bool.true_eq_false, false_or]
    omega
  · rw [hasHexPrefix_prefixedHex]
    simp only [Bool.true_eq_false, false_or]
    omega
  · rw [orRaise_bind_eq_ok]
    refine ⟨calldataBytes, fromHex_drop_prefixedHex _, ?_⟩
    rw [raiseIf_bind_eq_ok, raiseIf_bind_eq_ok]
    refine ⟨by omega, by omega, ?_⟩
    simp only [encodeInteger_natCast]
    have hsize := h.size
    rw [transactionBytes] at hsize ⊢
    simp only [bind, Except.bind, raiseIf]
    rw [if_neg (by omega)]
    rfl

/-! ## Decoding -/

theorem integer_toBytes (value : Nat) (name : String) :
    integer (.bytes (toBytes value)) name = .ok value := by
  rw [integer, raiseIf_bind_eq_ok, pure_eq_ok]
  exact ⟨head?_toBytes value, fromBytes_toBytes value⟩

theorem integer_eq_ok {value : RlpValue} {name : String} {n : Nat}
    (h : integer value name = .ok n) : value = .bytes (toBytes n) := by
  cases value with
  | list items => simp [integer] at h
  | bytes data =>
    rw [integer, raiseIf_bind_eq_ok, pure_eq_ok] at h
    rw [← h.2, toBytes_fromBytes h.1]

theorem fromFields_fieldsOf (h : Encodable tx targetBytes calldataBytes) :
    fromFields (fieldsOf tx targetBytes calldataBytes) = .ok tx := by
  have hchain := h.chainId
  have hgas := h.gasLimit
  have hmaxFee := h.maxFeePerGas
  have hpriority := h.priorityFee
  have htarget := h.targetLength
  rw [fieldsOf, fromFields]
  simp only [integer_toBytes, bind, Except.bind, pure, Except.pure, ← h.target, ← h.calldata,
    raiseIf]
  rw [if_neg (by omega)]
  dsimp only
  rw [if_neg (by omega)]
  dsimp only
  rw [if_neg (by omega)]

theorem fromFields_eq_ok {fields : List RlpValue} (h : fromFields fields = .ok tx) :
    ∃ targetBytes calldataBytes, fields = fieldsOf tx targetBytes calldataBytes ∧
      targetBytes.length = 20 ∧ tx.target = prefixedHex targetBytes ∧
      tx.calldata = prefixedHex calldataBytes ∧ 0 < tx.chainId ∧ 0 < tx.gasLimit ∧
      0 < tx.maxFeePerGas ∧ tx.maxPriorityFeePerGas ≤ tx.maxFeePerGas := by
  unfold fromFields at h
  split at h
  case h_2 => cases h
  case h_1 chainId nonce priorityFee maxFee gasLimit target value calldata accessList =>
      dsimp only at h
      cases target with
      | list items => cases h
      | bytes targetBytes =>
        rw [raiseIf_bind_eq_ok] at h
        obtain ⟨htarget, h⟩ := h
        cases calldata with
        | list items => cases h
        | bytes calldataBytes =>
          match accessList with
          | .bytes data => cases h
          | .list (item :: items) => cases h
          | .list [] =>
            simp only [pure_bind, bind_eq_ok, raiseIf_eq_ok] at h
            obtain ⟨chainIdValue, hchainId, nonceValue, hnonce, priorityFeeValue,
              hpriorityFee, maxFeeValue, hmaxFee, gasLimitValue, hgasLimit, amount, hvalue,
              _, hpositive, _, hfee, htx⟩ := h
            rw [pure_eq_ok] at htx
            subst htx
            refine ⟨targetBytes, calldataBytes, ?_, by omega, rfl, rfl, ?_⟩
            · rw [integer_eq_ok hchainId, integer_eq_ok hnonce, integer_eq_ok hpriorityFee,
                integer_eq_ok hmaxFee, integer_eq_ok hgasLimit, integer_eq_ok hvalue]
              rfl
            · dsimp only
              omega

variable {payload : Str}

theorem decodeUnsigned_eq_ok (h : decodeUnsignedEip1559 payload = .ok tx) :
    ∃ encoded fields, payload.take 4 = "0x02".toList ∧
      fromHex (payload.drop 2) = some encoded ∧ encoded.length ≤ maxTransactionBytes ∧
      decodeRlp encoded 1 0 = .ok (.list fields, encoded.length) ∧
      fromFields fields = .ok tx := by
  rw [decodeUnsignedEip1559, raiseIf_bind_eq_ok, orRaise_bind_eq_ok] at h
  obtain ⟨hshape, encoded, hencoded, h⟩ := h
  rw [raiseIf_bind_eq_ok, bind_eq_ok] at h
  obtain ⟨hsize, ⟨transaction, cursor⟩, hread, h⟩ := h
  rw [raiseIf_bind_eq_ok] at h
  obtain ⟨hcursor, h⟩ := h
  rw [not_not] at hcursor
  cases transaction with
  | bytes data => cases h
  | list fields =>
    rw [hcursor] at hread
    push Not at hshape
    exact ⟨encoded, fields, hshape.1, hencoded, by omega, hread, h⟩

/-- A payload that starts with `0x02` holds a byte string that starts with two. -/
theorem fromHex_typeTwo {encoded : Bytes} (hshape : payload.take 4 = "0x02".toList)
    (hencoded : fromHex (payload.drop 2) = some encoded) : ∃ rest, encoded = 2 :: rest := by
  have hsplit : payload.drop 2 = '0' :: '2' :: payload.drop 4 := by
    rw [← List.take_append_drop 4 payload, hshape]
    rfl
  rw [hsplit] at hencoded
  cases hrest : fromHex (payload.drop 4) with
  | none =>
    rw [fromHex, hrest] at hencoded
    cases hencoded
  | some rest =>
    rw [fromHex, hrest] at hencoded
    exact ⟨rest, (Option.some.inj hencoded).symm⟩

theorem encodable_of_decodeUnsigned {bytes : Bytes}
    (hbytes : fromHex (payload.drop 2) = some bytes) (h : decodeUnsignedEip1559 payload = .ok tx) :
    ∃ targetBytes calldataBytes, Encodable tx targetBytes calldataBytes ∧
      bytes = transactionBytes tx targetBytes calldataBytes := by
  obtain ⟨encoded, fields, hshape, hencoded, hsize, hread, hfields⟩ := decodeUnsigned_eq_ok h
  obtain rfl : bytes = encoded := Option.some.inj (hbytes.symm.trans hencoded)
  obtain ⟨rest, rfl⟩ := fromHex_typeTwo hshape hencoded
  obtain ⟨-, -, hslice⟩ := readsCanonical_decodeRlpLevels _ _ _ _ _ hread
  rw [slice_all, List.drop_one, List.tail_cons] at hslice
  obtain ⟨targetBytes, calldataBytes, rfl, hlength, htarget, hcalldata, hchain, hgas, hmaxFee,
    hpriority⟩ := fromFields_eq_ok hfields
  have hwhole : 2 :: rest = transactionBytes tx targetBytes calldataBytes := by
    rw [transactionBytes_eq, hslice]
  rw [hwhole] at hsize
  exact ⟨targetBytes, calldataBytes,
    ⟨hchain, hgas, hmaxFee, hpriority, hlength, htarget, hcalldata, hsize⟩, hwhole⟩

theorem decodeUnsigned_of_encodable (h : Encodable tx targetBytes calldataBytes) :
    decodeUnsignedEip1559 (prefixedHex (transactionBytes tx targetBytes calldataBytes)) =
      .ok tx := by
  have hsize := h.size
  have hbytes := transactionBytes_eq tx targetBytes calldataBytes
  generalize hencoded : transactionBytes tx targetBytes calldataBytes = encoded at hsize hbytes ⊢
  have hlength : encoded.length =
      1 + (encodeRlp (.list (fieldsOf tx targetBytes calldataBytes))).length := by
    rw [hbytes, List.length_cons]
    omega
  have hdepth : depth (.list (fieldsOf tx targetBytes calldataBytes)) < 5 := by
    simp [depth, depthItems, fieldsOf]
  have hread : decodeRlp encoded 1 0 =
      .ok (.list (fieldsOf tx targetBytes calldataBytes), encoded.length) := by
    rw [hlength]
    rw [maxTransactionBytes] at hsize
    apply readsBack_decodeRlpLevels encoded 5 _ (fits_of_depth 5 _ hdepth (by omega)) [2] []
    rw [hbytes]
    simp
  rw [decodeUnsignedEip1559, raiseIf_bind_eq_ok, orRaise_bind_eq_ok]
  refine ⟨?_, encoded, fromHex_drop_prefixedHex encoded, ?_⟩
  · push Not
    refine ⟨?_, ?_⟩
    · rw [hbytes]
      rfl
    · rw [length_prefixedHex]
      omega
  · rw [raiseIf_bind_eq_ok, bind_eq_ok]
    refine ⟨by omega, _, hread, ?_⟩
    dsimp only
    rw [raiseIf_bind_eq_ok]
    exact ⟨by simp, fromFields_fieldsOf h⟩

/-! ## The codec -/

/-- Every transaction within the size limit is decoded from its encoding as it
was, and every payload the decoder accepts is the encoding of what it decoded, up
to the case of its digits; so a transaction has one byte string. -/
theorem eip1559Codec_bijective :
    (∀ tx targetBytes calldataBytes, Encodable tx targetBytes calldataBytes →
      ∃ payload, encodeUnsigned tx = .ok payload ∧ decodeUnsignedEip1559 payload = .ok tx) ∧
    (∀ payload bytes tx, fromHex (payload.drop 2) = some bytes →
      decodeUnsignedEip1559 payload = .ok tx → encodeUnsigned tx = .ok (prefixedHex bytes)) ∧
    (∀ payload payload' bytes bytes' tx, fromHex (payload.drop 2) = some bytes →
      fromHex (payload'.drop 2) = some bytes' → decodeUnsignedEip1559 payload = .ok tx →
      decodeUnsignedEip1559 payload' = .ok tx → bytes = bytes') := by
  have hcanonical : ∀ payload bytes tx, fromHex (payload.drop 2) = some bytes →
      decodeUnsignedEip1559 payload = .ok tx → encodeUnsigned tx = .ok (prefixedHex bytes) := by
    intro payload bytes tx hbytes hdecode
    obtain ⟨targetBytes, calldataBytes, hencodable, rfl⟩ :=
      encodable_of_decodeUnsigned hbytes hdecode
    exact encodeUnsigned_of_encodable hencodable
  refine ⟨?_, hcanonical, ?_⟩
  · intro tx targetBytes calldataBytes h
    exact ⟨_, encodeUnsigned_of_encodable h, decodeUnsigned_of_encodable h⟩
  · intro payload payload' bytes bytes' tx hbytes hbytes' hdecode hdecode'
    have hleft := hcanonical payload bytes tx hbytes hdecode
    have hright := hcanonical payload' bytes' tx hbytes' hdecode'
    have hhex : prefixedHex bytes = prefixedHex bytes' :=
      Except.ok.inj (hleft.symm.trans hright)
    rw [prefixedHex, prefixedHex, List.cons.injEq, List.cons.injEq] at hhex
    exact toHex_injective hhex.2.2

/-- A call with three bytes of calldata, one of them above 127. -/
def sampleTransaction : UnsignedEip1559 where
  chainId := 31337
  nonce := 0
  maxPriorityFeePerGas := 100000000
  maxFeePerGas := 1000000000
  gasLimit := 100000
  target := prefixedHex (List.replicate 20 0x44)
  value := 100
  calldata := prefixedHex [1, 0x80, 0]

theorem eip1559Codec_bijective_sample :
    (∃ payload, encodeUnsigned sampleTransaction = .ok payload ∧
      decodeUnsignedEip1559 payload = .ok sampleTransaction) ∧
    encodeUnsigned sampleTransaction = .ok (prefixedHex
      (transactionBytes sampleTransaction (List.replicate 20 0x44) [1, 0x80, 0])) := by
  have hencodable : Encodable sampleTransaction (List.replicate 20 0x44) [1, 0x80, 0] :=
    ⟨by decide, by decide, by decide, by decide, by decide, rfl, rfl, by decide +kernel⟩
  have hdecode : decodeUnsignedEip1559 (prefixedHex
      (transactionBytes sampleTransaction (List.replicate 20 0x44) [1, 0x80, 0])) =
      .ok sampleTransaction := by
    decide +kernel
  exact ⟨eip1559Codec_bijective.1 _ _ _ hencodable,
    eip1559Codec_bijective.2.1 _ _ _ (fromHex_drop_prefixedHex _) hdecode⟩

end AegisLedger.Gateway.Eip1559Codec
