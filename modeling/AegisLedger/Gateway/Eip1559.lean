import AegisLedger.Gateway.Contracts

/-!
# The unsigned EIP-1559 codec

`aegisledger/eip1559.py`: an RLP reader that refuses every non-canonical form,
and the encoder of the one transaction shape the gateway signs.

The reader recurses on nesting depth, which is bounded by `maxRlpDepth`, and on
the items of a list, each of which takes at least one byte.  `decodeRlpLevels`
counts the levels that are left and `decodeItems` the bytes that are left, so
both are structural and neither count can run out before the loop it stands for
ends.
-/

namespace AegisLedger.Gateway.Eip1559

open AegisLedger.Support HexText Checks

def maxTransactionBytes : Nat := 128 * 1024

def maxRlpDepth : Nat := 4

structure Eip1559DecodeError where
  message : String
  deriving DecidableEq

/-- `to` is a keyword here, so the field is called `target`. -/
structure UnsignedEip1559 where
  chainId : Nat
  nonce : Nat
  maxPriorityFeePerGas : Nat
  maxFeePerGas : Nat
  gasLimit : Nat
  target : Str
  value : Nat
  calldata : Str
  deriving DecidableEq

inductive RlpValue
  | bytes (value : Bytes)
  | list (items : List RlpValue)

/-- `int.from_bytes(data, "big")`. -/
def fromBytes (data : Bytes) : Nat := data.foldl (fun acc b => acc * 256 + b.toNat) 0

/-- `data[start:stop]`. -/
def slice (data : Bytes) (start stop : Nat) : Bytes := (data.drop start).take (stop - start)

/-! ## Decoding -/

def readLength (data : Bytes) (offset lengthSize : Nat) :
    Except Eip1559DecodeError (Nat × Nat) := do
  raiseIf (lengthSize = 0 ∨ data.length < offset + lengthSize ∨ data.getD offset 0 = 0)
    ⟨"invalid RLP length"⟩
  pure (fromBytes (slice data offset (offset + lengthSize)), offset + lengthSize)

/-- The `while cursor < end` loop over the items of a list. -/
def decodeItems (decode : Nat → Except Eip1559DecodeError (RlpValue × Nat)) (stop : Nat) :
    Nat → Nat → List RlpValue → Except Eip1559DecodeError (List RlpValue × Nat)
  | 0, cursor, items => .ok (items, cursor)
  | bytesLeft + 1, cursor, items =>
    if cursor < stop then do
      let (item, next) ← decode cursor
      raiseIf (stop < next) ⟨"RLP child exceeds its list"⟩
      decodeItems decode stop bytesLeft next (items ++ [item])
    else .ok (items, cursor)

def decodeList (data : Bytes) (decode : Nat → Except Eip1559DecodeError (RlpValue × Nat))
    (start length : Nat) : Except Eip1559DecodeError (RlpValue × Nat) := do
  raiseIf (data.length < start + length) ⟨"truncated RLP list"⟩
  let (items, cursor) ← decodeItems decode (start + length) length start []
  raiseIf (cursor ≠ start + length) ⟨"invalid RLP list length"⟩
  pure (.list items, start + length)

/-- One item at `offset`, whose children are read by `decode`. -/
def decodeItem (data : Bytes) (decode : Nat → Except Eip1559DecodeError (RlpValue × Nat))
    (offset : Nat) : Except Eip1559DecodeError (RlpValue × Nat) :=
  let first := data.getD offset 0
  let head := first.toNat
  if head ≤ 0x7F then pure (.bytes [first], offset + 1)
  else if head ≤ 0xB7 then do
    let length := head - 0x80
    let start := offset + 1
    raiseIf (data.length < start + length) ⟨"truncated RLP string"⟩
    raiseIf (length = 1 ∧ (data.getD start 0).toNat < 0x80) ⟨"non-canonical RLP string"⟩
    pure (.bytes (slice data start (start + length)), start + length)
  else if head ≤ 0xBF then do
    let (length, start) ← readLength data (offset + 1) (head - 0xB7)
    raiseIf (length < 56) ⟨"non-canonical long RLP string"⟩
    raiseIf (data.length < start + length) ⟨"truncated long RLP string"⟩
    pure (.bytes (slice data start (start + length)), start + length)
  else if head ≤ 0xF7 then decodeList data decode (offset + 1) (head - 0xC0)
  else do
    let (length, start) ← readLength data (offset + 1) (head - 0xF7)
    raiseIf (length < 56) ⟨"non-canonical long RLP list"⟩
    decodeList data decode start length

def decodeRlpLevels (data : Bytes) : Nat → Nat → Except Eip1559DecodeError (RlpValue × Nat)
  | 0, offset => do
      raiseIf (data.length ≤ offset) ⟨"truncated RLP item"⟩
      .error ⟨"RLP nesting is too deep"⟩
  | levels + 1, offset => do
      raiseIf (data.length ≤ offset) ⟨"truncated RLP item"⟩
      decodeItem data (decodeRlpLevels data levels) offset

/-- `_decode_rlp`. -/
def decodeRlp (data : Bytes) (offset depth : Nat) :
    Except Eip1559DecodeError (RlpValue × Nat) :=
  decodeRlpLevels data (maxRlpDepth + 1 - depth) offset

/-- `_integer`. -/
def integer (value : RlpValue) (name : String) : Except Eip1559DecodeError Nat :=
  match value with
  | .list _ => .error ⟨name ++ " must be an RLP byte string"⟩
  | .bytes data => do
      raiseIf (data.head? = some 0) ⟨name ++ " has a non-canonical leading zero"⟩
      pure (fromBytes data)

/-- The nine fields of a decoded transaction, checked and converted in the order
of the source. -/
def fromFields : List RlpValue → Except Eip1559DecodeError UnsignedEip1559
  | [chainId, nonce, priorityFee, maxFee, gasLimit, target, value, calldata, accessList] => do
      let targetBytes ← match target with
        | .bytes targetBytes => do
            raiseIf (targetBytes.length ≠ 20)
              ⟨"contract creation and malformed targets are not authorized"⟩
            pure targetBytes
        | .list _ => .error ⟨"contract creation and malformed targets are not authorized"⟩
      let data ← match calldata with
        | .bytes data => pure data
        | .list _ => .error ⟨"calldata must be an RLP byte string"⟩
      match accessList with
        | .list [] => pure ()
        | _ => .error ⟨"access lists are not authorized"⟩
      let decoded : UnsignedEip1559 := {
        chainId := ← integer chainId "chain_id"
        nonce := ← integer nonce "nonce"
        maxPriorityFeePerGas := ← integer priorityFee "max_priority_fee_per_gas"
        maxFeePerGas := ← integer maxFee "max_fee_per_gas"
        gasLimit := ← integer gasLimit "gas_limit"
        target := prefixedHex targetBytes
        value := ← integer value "value"
        calldata := prefixedHex data }
      raiseIf (decoded.chainId = 0 ∨ decoded.gasLimit = 0 ∨ decoded.maxFeePerGas = 0)
        ⟨"chain, gas limit, and maximum fee must be positive"⟩
      raiseIf (decoded.maxFeePerGas < decoded.maxPriorityFeePerGas)
        ⟨"priority fee exceeds maximum fee"⟩
      pure decoded
  | _ => .error ⟨"type-2 transaction must contain exactly nine fields"⟩

def decodeUnsignedEip1559 (payload : Str) : Except Eip1559DecodeError UnsignedEip1559 := do
  raiseIf (payload.take 4 ≠ "0x02".toList ∨ payload.length % 2 ≠ 0)
    ⟨"payload must be an even-length 0x02 hex value"⟩
  let encoded ← orRaise (fromHex (payload.drop 2))
    ⟨"payload contains invalid hexadecimal data"⟩
  raiseIf (maxTransactionBytes < encoded.length)
    ⟨"payload exceeds the transaction size limit"⟩
  let (transaction, cursor) ← decodeRlp encoded 1 0
  raiseIf (cursor ≠ encoded.length) ⟨"payload contains trailing bytes"⟩
  match transaction with
  | .list fields => fromFields fields
  | .bytes _ => .error ⟨"type-2 transaction must contain exactly nine fields"⟩

/-! ## Encoding -/

/-- `value.to_bytes((value.bit_length() + 7) // 8, "big")`. -/
def toBytes (value : Nat) : Bytes :=
  let bitLength := if value = 0 then 0 else Nat.log2 value + 1
  (List.range ((bitLength + 7) / 8)).reverse.map
    (fun i => UInt8.ofNat (value / 256 ^ i % 256))

/-- The common shape of `_encode_bytes` and `_encode_list`: a one-byte header up
to 55 bytes of payload, a length of its own from 56 on. -/
def withHeader (short long : Nat) (payload : Bytes) : Bytes :=
  if payload.length < 56 then UInt8.ofNat (short + payload.length) :: payload
  else
    let length := toBytes payload.length
    UInt8.ofNat (long + length.length) :: (length ++ payload)

def encodeBytes (value : Bytes) : Bytes :=
  if value.length = 1 ∧ (value.getD 0 0).toNat < 0x80 then value
  else withHeader 0x80 0xB7 value

def encodeInteger (value : Int) : Except String Bytes := do
  raiseIf (value < 0) "EIP-1559 integers cannot be negative"
  pure (encodeBytes (toBytes value.toNat))

def encodeList (items : List Bytes) : Bytes := withHeader 0xC0 0xF7 items.flatten

def encodeUnsignedEip1559
    (chainId nonce maxPriorityFeePerGas maxFeePerGas gasLimit : Int) (target : Str)
    (value : Int) (calldata : Str) : Except String Str := do
  raiseIf (hasHexPrefix target = false ∨ target.length ≠ 42)
    "EIP-1559 target must be a 20-byte 0x-prefixed address"
  raiseIf (hasHexPrefix calldata = false ∨ calldata.length % 2 ≠ 0)
    "EIP-1559 calldata must be even-length 0x-prefixed hexadecimal data"
  let targetBytes ← orRaise (fromHex (target.drop 2))
    "EIP-1559 target or calldata contains invalid hex"
  let calldataBytes ← orRaise (fromHex (calldata.drop 2))
    "EIP-1559 target or calldata contains invalid hex"
  raiseIf (chainId ≤ 0 ∨ gasLimit ≤ 0 ∨ maxFeePerGas ≤ 0)
    "chain, gas limit, and maximum fee must be positive"
  raiseIf (maxFeePerGas < maxPriorityFeePerGas) "priority fee exceeds maximum fee"
  let fields := [
    ← encodeInteger chainId,
    ← encodeInteger nonce,
    ← encodeInteger maxPriorityFeePerGas,
    ← encodeInteger maxFeePerGas,
    ← encodeInteger gasLimit,
    encodeBytes targetBytes,
    ← encodeInteger value,
    encodeBytes calldataBytes,
    encodeList []]
  let encoded := 2 :: encodeList fields
  raiseIf (maxTransactionBytes < encoded.length)
    "encoded EIP-1559 transaction exceeds the size limit"
  pure (prefixedHex encoded)

end AegisLedger.Gateway.Eip1559
