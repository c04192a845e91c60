import AegisLedger.Gateway.Signing

/-!
# Mandates

`aegisledger/mandates.py`: intent and cart mandates, and the ledger that registers,
revokes and charges them.  `_active` walks the chain of parents by recursion; nothing
bounds the chain but the interpreter's stack, so the number of frames left is an argument
and running out of it is an error of its own.  Clock readings are arguments.
-/

namespace AegisLedger.Gateway

open AegisLedger.Support HexText Checks

/-- The pattern `^(?:|[0-9a-f]{128})$`. -/
abbrev SignatureHex :=
  {s : Str // (s.isEmpty || (s.length == 128 && s.all isLowerHexDigit)) = true}

/-- Strict order of text by code points. -/
def codePointLt (left right : Str) : Bool := codePointLe left right && decide (left ≠ right)

structure IntentMandateV1 where
  mandateId : Option Uuid
  issuer : LowerAddress
  delegate : BoundedStr 1 256
  audience : BoundedStr 1 256
  chainIds : List PosInt
  assets : List AssetId
  recipients : List LowerAddress
  maximumAmount : PosInt
  expiresAt : Datetime
  nonce : BoundedStr 6 128
  parentMandateId : Option Uuid
  signature : SignatureHex
  /-- `normalize_scope` and `normalize_recipients`: sorted, without repetitions. -/
  normalized : chainIds.Pairwise (fun a b => a.val < b.val) ∧
    assets.Pairwise (fun a b => codePointLt a.val b.val) ∧
    recipients.Pairwise (fun a b => codePointLt a.val b.val)
  deriving DecidableEq

structure CartMandateV1 where
  cartId : Option Uuid
  merchant : LowerAddress
  mandateId : Uuid
  intentHash : Hex32
  proposalHash : Hex32
  chainId : PosInt
  asset : AssetId
  amount : PosInt
  expiresAt : Datetime
  nonce : BoundedStr 6 128
  signature : SignatureHex
  deriving DecidableEq

/-! ## Signed payloads -/

/-- `model_dump(mode="json", exclude={"signature"})`. -/
def IntentMandateV1.unsignedDump (host : Host) (m : IntentMandateV1) : Json := .obj [
    ("schema_version".toList, .str "aegisledger.intent_mandate.v1".toList),
    ("mandate_id".toList, optionalUuid m.mandateId),
    ("issuer".toList, .str m.issuer),
    ("delegate".toList, .str m.delegate),
    ("audience".toList, .str m.audience),
    ("chain_ids".toList, .arr (m.chainIds.map fun chainId => .int chainId.val)),
    ("assets".toList, .arr (m.assets.map fun asset => .str asset.val)),
    ("recipients".toList, .arr (m.recipients.map fun recipient => .str recipient.val)),
    ("maximum_amount".toList, .int m.maximumAmount.val),
    ("expires_at".toList, .str (host.datetimeText m.expiresAt)),
    ("nonce".toList, .str m.nonce),
    ("parent_mandate_id".toList, optionalUuid m.parentMandateId)]

def IntentMandateV1.signingPayload (host : Host) (m : IntentMandateV1) :
    Except CanonicalError Bytes :=
  canonicalJson host (m.unsignedDump host)

def IntentMandateV1.intentHash (host : Host) (m : IntentMandateV1) :
    Except CanonicalError Str := do
  let payload ← m.signingPayload host
  pure (prefixedHex (host.sha256 payload))

def CartMandateV1.unsignedDump (host : Host) (c : CartMandateV1) : Json := .obj [
    ("schema_version".toList, .str "aegisledger.cart_mandate.v1".toList),
    ("cart_id".toList, optionalUuid c.cartId),
    ("merchant".toList, .str c.merchant),
    ("mandate_id".toList, .str (uuidText c.mandateId)),
    ("intent_hash".toList, .str c.intentHash),
    ("proposal_hash".toList, .str c.proposalHash),
    ("chain_id".toList, .int c.chainId.val),
    ("asset".toList, .str c.asset),
    ("amount".toList, .int c.amount.val),
    ("expires_at".toList, .str (host.datetimeText c.expiresAt)),
    ("nonce".toList, .str c.nonce)]

def CartMandateV1.signingPayload (host : Host) (c : CartMandateV1) :
    Except CanonicalError Bytes :=
  canonicalJson host (c.unsignedDump host)

def CartMandateV1.cartHash (host : Host) (c : CartMandateV1) : Except CanonicalError Str := do
  let payload ← c.signingPayload host
  pure (prefixedHex (host.sha256 payload))

/-! ## The ledger -/

inductive LedgerError
  | mandateError (message : String)
  | keyError
  | assertionError
  | recursionError
  | canonical (error : CanonicalError)
  deriving DecidableEq

structure MandateLedger where
  mandates : Dict Uuid IntentMandateV1
  spent : Dict Uuid Nat
  revoked : List Uuid
  intentNonces : List (Str × Str)
  usedCartHashes : List Str
  usedCartNonces : List (Str × Str)
  deriving DecidableEq

/-- The clock readings of a call: its own, and the one that `_active` takes at each depth
of the chain. -/
structure LedgerReadings where
  own : Datetime
  chain : Nat → Datetime

/-- `_verify_signature`. -/
def verifySignature (host : Host) (publicKey payload : Bytes) (signature : Str) : Bool :=
  match fromHex signature with
  | some bytes => host.ed25519Verify publicKey payload bytes
  | none => false

namespace MandateLedger

def empty : MandateLedger := ⟨.empty, .empty, [], [], [], []⟩

/-- `_active`, with `stack` frames left and `depth` levels of the chain behind it. -/
def active (ledger : MandateLedger) (chain : Nat → Datetime) :
    Nat → Nat → Uuid → Except LedgerError IntentMandateV1
  | 0, _, _ => .error .recursionError
  | stack + 1, depth, mandateId => do
      let mandate ← orRaise (ledger.mandates.get? mandateId) (.mandateError "unknown mandate")
      raiseIf (mandateId ∈ ledger.revoked) (.mandateError "mandate revoked")
      raiseIf (mandate.expiresAt ≤ chain depth) (.mandateError "mandate expired")
      match mandate.parentMandateId with
      | some parentId => do
          let _ ← ledger.active chain stack (depth + 1) parentId
          pure mandate
      | none => pure mandate

/-- `_require_attenuation`. -/
def requireAttenuation (host : Host) (ledger : MandateLedger)
    (parent child : IntentMandateV1) : Except LedgerError Unit := do
  let parentId ← orRaise parent.mandateId .assertionError
  let spent ← orRaise (ledger.spent.get? parentId) .keyError
  let remaining : Int := (parent.maximumAmount.val : Int) - spent
  raiseIf (¬ (child.issuer.val = host.lower parent.delegate ∧
      child.audience = parent.audience ∧
      (∀ chainId ∈ child.chainIds, chainId ∈ parent.chainIds) ∧
      (∀ asset ∈ child.assets, asset ∈ parent.assets) ∧
      (∀ recipient ∈ child.recipients, recipient ∈ parent.recipients) ∧
      (child.maximumAmount.val : Int) ≤ remaining ∧
      child.expiresAt ≤ parent.expiresAt))
    (.mandateError "delegation must attenuate every parent permission")

/-- What `register` writes. -/
def enter (ledger : MandateLedger) (mandateId : Uuid) (mandate : IntentMandateV1) :
    MandateLedger :=
  { ledger with
    mandates := ledger.mandates.set mandateId mandate
    spent := ledger.spent.set mandateId 0
    intentNonces := (mandate.issuer.val, mandate.nonce.val) :: ledger.intentNonces }

def register (host : Host) (ledger : MandateLedger) (mandate : IntentMandateV1)
    (publicKey : Bytes) (readings : LedgerReadings) (stack : Nat) :
    Except LedgerError MandateLedger := do
  let mandateId ← orRaise mandate.mandateId (.mandateError "mandate ID is required")
  raiseIf (host.lower (addressOf host publicKey) ≠ mandate.issuer.val)
    (.mandateError "intent signer does not match issuer")
  let payload ← (mandate.signingPayload host).mapError .canonical
  raiseIf (verifySignature host publicKey payload mandate.signature ≠ true)
    (.mandateError "invalid intent signature")
  raiseIf (mandate.expiresAt ≤ readings.own) (.mandateError "mandate expired")
  raiseIf ((mandate.issuer.val, mandate.nonce.val) ∈ ledger.intentNonces)
    (.mandateError "intent nonce replay")
  match mandate.parentMandateId with
  | some parentId => do
      let parent ← ledger.active readings.chain stack 0 parentId
      ledger.requireAttenuation host parent mandate
      pure (ledger.enter mandateId mandate)
  | none => pure (ledger.enter mandateId mandate)

def revoke (host : Host) (ledger : MandateLedger) (mandateId : Uuid) (actor : Str) :
    Except LedgerError MandateLedger := do
  let mandate ← orRaise (ledger.mandates.get? mandateId) (.mandateError "unknown mandate")
  raiseIf (host.lower actor ≠ mandate.issuer.val)
    (.mandateError "only the mandate issuer can revoke")
  pure { ledger with revoked := mandateId :: ledger.revoked }

def consumed (ledger : MandateLedger) (mandateId : Uuid) : Nat :=
  (ledger.spent.get? mandateId).getD 0

/-- The checks of `consume` on the cart alone and against replay; the result is the
cart's hash. -/
def verifyCart (host : Host) (ledger : MandateLedger) (cart : CartMandateV1)
    (merchantPublicKey : Bytes) (now : Datetime) : Except LedgerError Str := do
  raiseIf (cart.expiresAt ≤ now) (.mandateError "cart expired")
  raiseIf (host.lower (addressOf host merchantPublicKey) ≠ cart.merchant.val)
    (.mandateError "cart signer does not match merchant")
  let payload ← (cart.signingPayload host).mapError .canonical
  raiseIf (verifySignature host merchantPublicKey payload cart.signature ≠ true)
    (.mandateError "invalid cart signature")
  let cartHash ← (cart.cartHash host).mapError .canonical
  raiseIf (cartHash ∈ ledger.usedCartHashes ∨
      (cart.merchant.val, cart.nonce.val) ∈ ledger.usedCartNonces)
    (.mandateError "cart replay detected")
  pure cartHash

/-- The recipient of a transfer. -/
def transferRecipient (proposal : ProposalV1) : Option LowerAddress :=
  match proposal.intent with
  | .transfer intent => some intent.recipient
  | .swap _ => none

/-- The checks of `consume` that compare mandate, cart and proposal. -/
def verifyScope (host : Host) (mandate : IntentMandateV1) (proposal : ProposalV1)
    (cart : CartMandateV1) (audience : Str) : Except LedgerError Unit := do
  let intentHash ← (mandate.intentHash host).mapError .canonical
  raiseIf (cart.intentHash.val ≠ intentHash)
    (.mandateError "cart is bound to a different intent")
  let proposalHash ← (proposal.proposalHash host).mapError .canonical
  raiseIf (cart.proposalHash.val ≠ proposalHash)
    (.mandateError "cart is bound to a different proposal")
  raiseIf (proposal.mandateId ≠ none ∧ proposal.mandateId ≠ mandate.mandateId)
    (.mandateError "proposal references a different mandate")
  raiseIf (audience ≠ mandate.audience.val) (.mandateError "mandate audience mismatch")
  raiseIf (proposal.principalId.val ≠ mandate.delegate.val)
    (.mandateError "mandate delegate mismatch")
  raiseIf (proposal.chainId ∉ mandate.chainIds ∨ cart.chainId ≠ proposal.chainId)
    (.mandateError "mandate chain mismatch")
  raiseIf (proposal.asset ∉ mandate.assets ∨ cart.asset ≠ proposal.asset)
    (.mandateError "mandate asset mismatch")
  let recipient ← orRaise (transferRecipient proposal)
    (.mandateError "cart mandates currently authorize transfers only")
  raiseIf (recipient ≠ cart.merchant ∨ recipient ∉ mandate.recipients)
    (.mandateError "mandate recipient mismatch")
  raiseIf (cart.amount ≠ proposal.amount)
    (.mandateError "cart amount does not match proposal")

/-- What `consume` writes. -/
def charge (ledger : MandateLedger) (mandateId : Uuid) (spent : Nat) (cartHash : Str)
    (cart : CartMandateV1) : MandateLedger :=
  { ledger with
    spent := ledger.spent.set mandateId spent
    usedCartHashes := cartHash :: ledger.usedCartHashes
    usedCartNonces := (cart.merchant.val, cart.nonce.val) :: ledger.usedCartNonces }

def consume (host : Host) (ledger : MandateLedger) (proposal : ProposalV1)
    (cart : CartMandateV1) (merchantPublicKey : Bytes) (audience : Str)
    (readings : LedgerReadings) (stack : Nat) : Except LedgerError MandateLedger := do
  let mandate ← ledger.active readings.chain stack 0 cart.mandateId
  let cartHash ← ledger.verifyCart host cart merchantPublicKey readings.own
  verifyScope host mandate proposal cart audience
  let mandateId ← orRaise mandate.mandateId .assertionError
  let spent ← orRaise (ledger.spent.get? mandateId) .keyError
  raiseIf (mandate.maximumAmount.val < spent + proposal.amount.val)
    (.mandateError "mandate budget exceeded")
  pure (ledger.charge mandateId (spent + proposal.amount.val) cartHash cart)

/-- `consume` with its writes in their order: `cart_hash()` is computed again after the
counter has been written. -/
def consumeInPlace (host : Host) (ledger : MandateLedger) (proposal : ProposalV1)
    (cart : CartMandateV1) (merchantPublicKey : Bytes) (audience : Str)
    (readings : LedgerReadings) (stack : Nat) : Except LedgerError Unit × MandateLedger :=
  let checked : Except LedgerError (Uuid × Nat) := do
    let mandate ← ledger.active readings.chain stack 0 cart.mandateId
    let _ ← ledger.verifyCart host cart merchantPublicKey readings.own
    verifyScope host mandate proposal cart audience
    let mandateId ← orRaise mandate.mandateId .assertionError
    let spent ← orRaise (ledger.spent.get? mandateId) .keyError
    raiseIf (mandate.maximumAmount.val < spent + proposal.amount.val)
      (.mandateError "mandate budget exceeded")
    pure (mandateId, spent)
  match checked with
  | .error error => (.error error, ledger)
  | .ok (mandateId, spent) =>
    let counted :=
      { ledger with spent := ledger.spent.set mandateId (spent + proposal.amount.val) }
    match cart.cartHash host with
    | .error error => (.error (.canonical error), counted)
    | .ok cartHash =>
      let hashed := { counted with usedCartHashes := cartHash :: counted.usedCartHashes }
      (.ok (), { hashed with
        usedCartNonces := (cart.merchant.val, cart.nonce.val) :: hashed.usedCartNonces })

/-! ## Runs -/

inductive Call
  | register (mandate : IntentMandateV1) (publicKey : Bytes) (readings : LedgerReadings)
      (stack : Nat)
  | revoke (mandateId : Uuid) (actor : Str)
  | consume (proposal : ProposalV1) (cart : CartMandateV1) (merchantPublicKey : Bytes)
      (audience : Str) (readings : LedgerReadings) (stack : Nat)

def perform (host : Host) (ledger : MandateLedger) : Call → Except LedgerError MandateLedger
  | .register mandate publicKey readings stack =>
    ledger.register host mandate publicKey readings stack
  | .revoke mandateId actor => ledger.revoke host mandateId actor
  | .consume proposal cart merchantPublicKey audience readings stack =>
    ledger.consume host proposal cart merchantPublicKey audience readings stack

/-- A call and whether it returned. -/
structure Event where
  call : Call
  returned : Bool

inductive Step (host : Host) : MandateLedger → Event → MandateLedger → Prop
  | returns {ledger after : MandateLedger} {call : Call}
      (hperform : ledger.perform host call = .ok after) : Step host ledger ⟨call, true⟩ after
  | raises {ledger : MandateLedger} {call : Call} {error : LedgerError}
      (hperform : ledger.perform host call = .error error) : Step host ledger ⟨call, false⟩ ledger

/-- The successful consumes of a run: the mandate each cart names, and its amount. -/
def charges (trace : List Event) : List (Uuid × Nat) :=
  trace.filterMap fun
    | ⟨.consume _ cart _ _ _ _, true⟩ => some (cart.mandateId, cart.amount.val)
    | _ => none

/-- The carts of the successful consumes of a run. -/
def consumedCarts (trace : List Event) : List CartMandateV1 :=
  trace.filterMap fun
    | ⟨.consume _ cart _ _ _ _, true⟩ => some cart
    | _ => none

/-- The successful registrations of a run. -/
def registrations (trace : List Event) : List (Uuid × IntentMandateV1) :=
  trace.filterMap fun
    | ⟨.register mandate _ _ _, true⟩ => mandate.mandateId.map fun mandateId =>
      (mandateId, mandate)
    | _ => none

end MandateLedger

end AegisLedger.Gateway
