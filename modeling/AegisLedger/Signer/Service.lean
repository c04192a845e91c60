import AegisLedger.Signer.Replay

/-!
# Authorization checks of the isolated signer

`parse_authorization`, `SignerService::verify_decision` and
`SignerService::verify_binding` of `signer/src/main.rs`.  The crates the signer is
built on are parameters (`Crates`).  Each check reads the clock for itself, so the
readings are arguments.  In a chain `a? != b? || c? != d?` a field is read only when
the comparison before it has not decided; such a chain is a sequence of checks with one
message.
-/

namespace AegisLedger.Signer

open AegisLedger.Support HexText Checks
open AegisLedger.Gateway (Json prefixedHex)

/-- The fields of `TxEip1559` the signer reads; `target` is `to`, absent for a
contract creation. -/
structure TxEip1559 where
  chainId : Nat
  nonce : Nat
  gasLimit : Nat
  maxFeePerGas : Nat
  maxPriorityFeePerGas : Nat
  target : Option Bytes
  value : Nat
  input : Bytes
  accessList : List (Bytes × List Bytes)
  deriving DecidableEq

structure Crates where
  /-- `serde_json::from_slice::<Value>`, with the members of an object as they stand in
  the text. -/
  parseJson : Bytes → Option Json
  /-- `serde_json::from_slice::<PersistedReplayState>`. -/
  fromSlice : Bytes → Option PersistedReplayState
  /-- `serde_jcs::to_vec`. -/
  jcs : Json → Option Bytes
  sha256 : Bytes → Bytes
  keccak : Bytes → Bytes
  /-- Ed25519 verification: public key, message, signature. -/
  ed25519Verify : Bytes → Bytes → Bytes → Bool
  /-- `str::to_lowercase`. -/
  lower : Str → Str
  /-- `DateTime::parse_from_rfc3339`, in nanoseconds. -/
  parseRfc3339 : Str → Option Int
  /-- `TxEip1559::decode`, with the bytes it leaves. -/
  decodeTx : Bytes → Option (TxEip1559 × Bytes)
  encodedForSigning : TxEip1559 → Bytes
  /-- `str::parse::<Address>`. -/
  parseAddress : Str → Option Bytes
  /-- `sign_prehash_recoverable`: signature and recovery id. -/
  signPrehash : Bytes → Option (Bytes × UInt8)

inductive AuthorizationError
  | malformed (message : String)
  | denied (message : String)
  deriving DecidableEq

structure SignerService where
  publicKey : Bytes
  policyKey : Bytes
  allowedChains : List UInt64
  allowedPolicyHashes : List Str
  managedWallets : List Str

/-- `ethereum_address`. -/
def ethereumAddress (crates : Crates) (publicKey : Bytes) : Str :=
  prefixedHex ((crates.keccak (publicKey.drop 1)).drop 12)

def SignerService.signerIdentity (service : SignerService) (crates : Crates) : Str :=
  ethereumAddress crates service.publicKey

/-- `policy_address` of the policy key. -/
def SignerService.policyIdentity (service : SignerService) (crates : Crates) : Str :=
  prefixedHex ((crates.sha256 service.policyKey).drop 12)

/-! ## Reading JSON -/

/-- `Value::get`; of repeated members a `Value` keeps the last. -/
def getMember (value : Json) (segment : String) : Option Json :=
  match value with
  | .obj fields => (fields.reverse.find? (fun member => member.1 = segment.toList)).map Prod.snd
  | _ => none

def field (value : Json) : List String → Except AuthorizationError Json
  | [] => .ok value
  | segment :: path => do
      let child ← orRaise (getMember value segment) (.malformed "required field missing")
      field child path

def string (value : Json) (path : List String) : Except AuthorizationError Str := do
  match ← field value path with
  | .str s => pure s
  | _ => .error (.malformed "field must be a string")

def number (value : Json) (path : List String) : Except AuthorizationError UInt64 := do
  match ← field value path with
  | .int n =>
    if 0 ≤ n ∧ n < 2 ^ 64 then pure (UInt64.ofNat n.toNat)
    else .error (.malformed "field must be an unsigned integer")
  | _ => .error (.malformed "field must be an unsigned integer")

def parseExpiry (crates : Crates) (value : Json) (path : List String) :
    Except AuthorizationError Int := do
  let raw ← string value path
  orRaise (crates.parseRfc3339 raw) (.malformed "expiry must be RFC 3339")

/-- `hex::decode`. -/
def hexDecode : Str → Option Bytes
  | [] => some []
  | [_] => none
  | c :: d :: rest =>
    match hexValue c, hexValue d, hexDecode rest with
    | some high, some low, some bytes => some (UInt8.ofNat (16 * high + low) :: bytes)
    | _, _, _ => none

def decodeHex (value : Str) : Except AuthorizationError Bytes :=
  let digits := if value.take 2 = ['0', 'x'] then value.drop 2 else value
  orRaise (hexDecode digits) (.malformed "invalid hexadecimal value")

mutual

def removeNullObjectFields : Json → Json
  | .arr items => .arr (removeNullItems items)
  | .obj fields => .obj (removeNullMembers fields)
  | value => value

def removeNullItems : List Json → List Json
  | [] => []
  | item :: items => removeNullObjectFields item :: removeNullItems items

def removeNullMembers : List (Str × Json) → List (Str × Json)
  | [] => []
  | (_, .null) :: fields => removeNullMembers fields
  | (key, child) :: fields => (key, removeNullObjectFields child) :: removeNullMembers fields

end

def hashJson (crates : Crates) (value : Json) : Except AuthorizationError Str := do
  let canonical ← orRaise (crates.jcs value) (.malformed "JSON cannot be canonicalized")
  pure (prefixedHex (crates.sha256 canonical))

def hashProposalJson (crates : Crates) (value : Json) : Except AuthorizationError Str :=
  hashJson crates (removeNullObjectFields value)

/-! ## The envelope -/

inductive Shape
  | text
  | unsigned
  | optionalText
  | texts
  | object (members : List (String × Shape))
  | intent

def isText : Json → Bool
  | .str _ => true
  | _ => false

def isUnsigned : Json → Bool
  | .int n => 0 ≤ n && n < 2 ^ 64
  | _ => false

/-- An object with exactly the given text and unsigned members, each once. -/
def matchesFlat (fields : List (Str × Json)) (members : List (String × (Json → Bool))) : Bool :=
  fields.length == members.length &&
    members.all fun member =>
      (fields.filter fun entry => entry.1 = member.1.toList).map (fun entry => member.2 entry.2)
        == [true]

/-- `IntentEnvelope`, tagged by `kind`. -/
def matchesIntent : Json → Bool
  | .obj fields =>
    let isKind (kind : String) : Json → Bool
      | .str s => s == kind.toList
      | _ => false
    matchesFlat fields [("kind", isKind "transfer"), ("recipient", isText)] ||
    matchesFlat fields [("kind", isKind "swap"), ("contract", isText), ("selector", isText),
      ("calldata", isText), ("minimum_output", isUnsigned), ("output_asset", isText)]
  | _ => false

mutual

/-- What `serde` accepts for a field of the envelope. -/
def matchesShape : Shape → Json → Bool
  | .text, value => isText value
  | .unsigned, value => isUnsigned value
  | .optionalText, .null => true
  | .optionalText, value => isText value
  | .texts, .arr items => items.all isText
  | .texts, _ => false
  | .intent, value => matchesIntent value
  | .object members, .obj fields =>
    (fields.all fun entry => members.any fun member => entry.1 = member.1.toList) &&
      matchesMembers members fields
  | .object _, _ => false

/-- Every member occurs once and matches; only an optional one may be missing. -/
def matchesMembers : List (String × Shape) → List (Str × Json) → Bool
  | [], _ => true
  | (name, shape) :: members, fields =>
    (match fields.filter fun entry => entry.1 = name.toList with
      | [] => match shape with
          | .optionalText => true
          | _ => false
      | [entry] => matchesShape shape entry.2
      | _ => false) && matchesMembers members fields

end

def proposalEnvelope : Shape := .object [("schema_version", .text),
  ("proposal_id", .optionalText), ("principal_id", .text), ("wallet", .text),
  ("chain_id", .unsigned), ("asset", .text), ("amount", .unsigned), ("intent", .intent),
  ("deadline", .text), ("idempotency_key", .text), ("mandate_id", .optionalText),
  ("quote_reference", .optionalText)]

def decisionEnvelope : Shape := .object [("schema_version", .text), ("decision_id", .text),
  ("proposal_hash", .text), ("policy_version_id", .text), ("policy_hash", .text),
  ("state_version", .unsigned), ("reservation_id", .optionalText), ("verdict", .text),
  ("reason_codes", .texts), ("expires_at", .text), ("decision_nonce", .text),
  ("policy_signer", .text), ("signature", .text)]

def transactionEnvelope : Shape := .object [("operation", .text), ("wallet", .text),
  ("chain_id", .unsigned), ("wallet_nonce", .unsigned), ("asset", .text),
  ("amount", .unsigned), ("recipient", .optionalText), ("contract", .optionalText),
  ("selector", .optionalText), ("calldata", .text), ("value", .unsigned),
  ("gas_limit", .unsigned), ("max_fee_per_gas", .unsigned),
  ("max_priority_fee_per_gas", .unsigned)]

def authorizationEnvelope : Shape := .object [("schema_version", .text),
  ("proposal", proposalEnvelope), ("decision", decisionEnvelope), ("reservation_id", .text),
  ("wallet_nonce", .unsigned), ("chain_id", .unsigned), ("transaction", transactionEnvelope),
  ("eip712_payload", .text), ("eip1559_unsigned_payload", .text), ("eip712_hash", .text),
  ("eip1559_hash", .text), ("expires_at", .text)]

def hasSchema (value : Json) (path : List String) (schema : String) : Bool :=
  match string value path with
  | .ok s => s == schema.toList
  | .error _ => false

def parseAuthorization (crates : Crates) (value : Bytes) : Except AuthorizationError Json := do
  let root ← orRaise (crates.parseJson value) (.malformed "authorization schema is invalid")
  raiseIf (matchesShape authorizationEnvelope root = false)
    (.malformed "authorization schema is invalid")
  raiseIf (hasSchema root ["schema_version"] "aegisledger.sign_request.v1" = false ∨
      hasSchema root ["proposal", "schema_version"] "aegisledger.proposal.v1" = false ∨
      hasSchema root ["decision", "schema_version"] "aegisledger.decision.v1" = false)
    (.malformed "authorization schema version is unsupported")
  pure root

/-! ## The checks -/

def decodeEip1559 (crates : Crates) (value : Str) : Except AuthorizationError TxEip1559 := do
  let encoded ← decodeHex value
  raiseIf (encoded.head? ≠ some 0x02) (.denied "unsigned transaction is not EIP-1559")
  let (transaction, rest) ← orRaise (crates.decodeTx (encoded.drop 1))
    (.malformed "invalid EIP-1559 RLP payload")
  raiseIf (rest ≠ [] ∨ crates.encodedForSigning transaction ≠ encoded)
    (.denied "unsigned transaction is not canonical EIP-1559")
  pure transaction

/-- The decision without its `signature` member. -/
def unsignedDecision : Json → Except AuthorizationError Json
  | .obj fields => .ok (.obj (fields.filter fun member => member.1 ≠ "signature".toList))
  | _ => .error (.malformed "decision must be an object")

def SignerService.verifyDecision (service : SignerService) (crates : Crates) (root : Json)
    (now : Int) : Except AuthorizationError Unit := do
  let decision ← field root ["decision"]
  let signature ← decodeHex (← string decision ["signature"])
  raiseIf (signature.length ≠ 64) (.malformed "invalid decision signature length")
  let unsigned ← unsignedDecision decision
  let canonical ← orRaise (crates.jcs unsigned) (.malformed "decision cannot be canonicalized")
  raiseIf (crates.ed25519Verify service.policyKey canonical signature = false)
    (.denied "invalid policy-service signature")
  let policySigner ← string decision ["policy_signer"]
  raiseIf (crates.lower policySigner ≠ service.policyIdentity crates)
    (.denied "policy signer identity mismatch")
  let verdict ← string decision ["verdict"]
  raiseIf (verdict ≠ "ALLOW".toList) (.denied "decision verdict is not ALLOW")
  let expiry ← parseExpiry crates decision ["expires_at"]
  raiseIf (expiry ≤ now) (.denied "decision expired")
  let policyHash ← string decision ["policy_hash"]
  raiseIf (service.allowedPolicyHashes ≠ [] ∧
      crates.lower policyHash ∉ service.allowedPolicyHashes)
    (.denied "policy hash is not approved")

/-- One comparison of two fields of a chain. -/
def requireEqual {α : Type} [DecidableEq α] (message : String)
    (left right : Except AuthorizationError α) : Except AuthorizationError Unit := do
  let a ← left
  let b ← right
  raiseIf (a ≠ b) (.denied message)

/-- Proposal, reservation, chain and wallet. -/
def SignerService.verifyScope (service : SignerService) (crates : Crates)
    (root proposal decision transaction : Json) : Except AuthorizationError Unit := do
  let lowered (value : Json) (path : List String) : Except AuthorizationError Str :=
    (string value path).map crates.lower
  requireEqual "proposal hash mismatch" (hashProposalJson crates proposal)
    (lowered decision ["proposal_hash"])
  requireEqual "reservation mismatch" (string root ["reservation_id"])
    (string decision ["reservation_id"])
  let chainId ← number root ["chain_id"]
  raiseIf (chainId ∉ service.allowedChains) (.denied "chain binding mismatch")
  requireEqual "chain binding mismatch" (number proposal ["chain_id"]) (.ok chainId)
  requireEqual "chain binding mismatch" (number transaction ["chain_id"]) (.ok chainId)
  let wallet ← lowered proposal ["wallet"]
  requireEqual "wallet binding mismatch" (lowered transaction ["wallet"]) (.ok wallet)
  raiseIf (wallet ≠ service.signerIdentity crates)
    (.denied "wallet does not match signer identity")
  raiseIf (service.managedWallets ≠ [] ∧ wallet ∉ service.managedWallets)
    (.denied "wallet is not managed by this signer")
  requireEqual "wallet nonce binding mismatch" (number root ["wallet_nonce"])
    (number transaction ["wallet_nonce"])
  requireEqual "asset or amount binding mismatch" (string proposal ["asset"])
    (string transaction ["asset"])
  requireEqual "asset or amount binding mismatch" (number proposal ["amount"])
    (number transaction ["amount"])

/-- The intent of the proposal against the transaction. -/
def verifyIntent (crates : Crates) (proposal transaction : Json) (chainId : UInt64)
    (kind : Str) : Except AuthorizationError Unit := do
  let lowered (value : Json) (path : List String) : Except AuthorizationError Str :=
    (string value path).map crates.lower
  requireEqual "operation binding mismatch" (string transaction ["operation"]) (.ok kind)
  if kind = "transfer".toList then do
    requireEqual "recipient binding mismatch" (lowered proposal ["intent", "recipient"])
      (lowered transaction ["recipient"])
    requireEqual "native transfer economic binding mismatch" (string transaction ["asset"])
      (.ok ("NATIVE:".toList ++ u64Text chainId))
    requireEqual "native transfer economic binding mismatch" (number transaction ["value"])
      (number transaction ["amount"])
    requireEqual "native transfer economic binding mismatch" (string transaction ["calldata"])
      (.ok "0x".toList)
  else do
    requireEqual "contract call binding mismatch" (lowered proposal ["intent", "contract"])
      (lowered transaction ["contract"])
    requireEqual "contract call binding mismatch" (lowered proposal ["intent", "selector"])
      (lowered transaction ["selector"])
    requireEqual "contract call binding mismatch" (lowered proposal ["intent", "calldata"])
      (lowered transaction ["calldata"])

/-- The expiry of the request. -/
def verifyExpiry (crates : Crates) (root proposal decision : Json) (now : Int) :
    Except AuthorizationError Unit := do
  let message := AuthorizationError.denied "request expiry is outside authorization"
  let requestExpiry ← parseExpiry crates root ["expires_at"]
  raiseIf (requestExpiry ≤ now) message
  let decisionExpiry ← parseExpiry crates decision ["expires_at"]
  raiseIf (decisionExpiry < requestExpiry) message
  let deadline ← parseExpiry crates proposal ["deadline"]
  raiseIf (deadline < requestExpiry) message

/-- The decoded payload against the transaction, and the digests. -/
def verifyRaw (crates : Crates) (root decision transaction : Json) (chainId : UInt64)
    (kind : Str) : Except AuthorizationError Unit := do
  let nat (path : List String) : Except AuthorizationError Nat :=
    (number transaction path).map UInt64.toNat
  let raw ← decodeEip1559 crates (← string root ["eip1559_unsigned_payload"])
  let scope := "raw transaction chain or nonce binding mismatch"
  raiseIf (raw.chainId ≠ chainId.toNat) (.denied scope)
  requireEqual scope (.ok raw.nonce) (nat ["wallet_nonce"])
  let gas := "raw transaction gas or fee binding mismatch"
  requireEqual gas (.ok raw.gasLimit) (nat ["gas_limit"])
  requireEqual gas (.ok raw.maxFeePerGas) (nat ["max_fee_per_gas"])
  requireEqual gas (.ok raw.maxPriorityFeePerGas) (nat ["max_priority_fee_per_gas"])
  let targetText ← string transaction
    [if kind = "transfer".toList then "recipient" else "contract"]
  let target ← orRaise (crates.parseAddress targetText)
    (.malformed "transaction target is not an address")
  raiseIf (raw.target ≠ some target)
    (.denied "raw transaction recipient or contract binding mismatch")
  requireEqual "raw transaction value binding mismatch" (.ok raw.value) (nat ["value"])
  let calldata ← decodeHex (← string transaction ["calldata"])
  raiseIf (raw.input ≠ calldata) (.denied "raw transaction calldata binding mismatch")
  raiseIf (raw.accessList ≠ []) (.denied "raw transaction access list is not authorized")
  let eip1559Hash ← string root ["eip1559_hash"]
  raiseIf (prefixedHex (crates.keccak (crates.encodedForSigning raw)) ≠
    crates.lower eip1559Hash) (.denied "EIP-1559 digest mismatch")
  let eip712 ← decodeHex (← string root ["eip712_payload"])
  let proposalHash ← decodeHex (← string decision ["proposal_hash"])
  raiseIf (eip712.length ≠ 66 ∨ eip712.take 2 ≠ [0x19, 0x01] ∨ eip712.drop 34 ≠ proposalHash)
    (.denied "typed-data payload is not bound to the authorized proposal")
  let eip712Hash ← string root ["eip712_hash"]
  raiseIf (prefixedHex (crates.keccak eip712) ≠ crates.lower eip712Hash)
    (.denied "EIP-712 digest mismatch")

def SignerService.verifyBinding (service : SignerService) (crates : Crates) (root : Json)
    (now : Int) : Except AuthorizationError Unit := do
  let proposal ← field root ["proposal"]
  let decision ← field root ["decision"]
  let transaction ← field root ["transaction"]
  service.verifyScope crates root proposal decision transaction
  let chainId ← number root ["chain_id"]
  let kind ← string proposal ["intent", "kind"]
  verifyIntent crates proposal transaction chainId kind
  verifyExpiry crates root proposal decision now
  verifyRaw crates root decision transaction chainId kind

end AegisLedger.Signer
