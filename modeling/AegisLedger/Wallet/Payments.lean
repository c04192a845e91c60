import AegisLedger.Wallet.Chain

/-!
# Payments

`agentwallet/payments/x402.py`: the requirements a resource server states, the authorization
a payer signs, and the facilitator that verifies and settles it on the chain.  The
facilitator moves tokens without a transaction.
-/

namespace AegisLedger.Wallet

open AegisLedger.Support HexText Checks
open AegisLedger.Gateway (Host Json addressOf)

structure PaymentRequirements where
  scheme : Str
  network : Str
  asset : Str
  amount : Int
  payTo : Str
  resource : Str
  nonce : Str
  expiresAt : Int
  deriving DecidableEq

/-- `asdict`. -/
def PaymentRequirements.asdict (req : PaymentRequirements) : Json := .obj [
    ("scheme".toList, .str req.scheme),
    ("network".toList, .str req.network),
    ("asset".toList, .str req.asset),
    ("amount".toList, .int req.amount),
    ("pay_to".toList, .str req.payTo),
    ("resource".toList, .str req.resource),
    ("nonce".toList, .str req.nonce),
    ("expires_at".toList, .int req.expiresAt)]

def PaymentRequirements.digest (req : PaymentRequirements) : Bytes := canonical req.asdict

structure PaymentAuthorization where
  requirements : PaymentRequirements
  payer : Str
  payerPubHex : Str
  signatureHex : Str
  deriving DecidableEq

inductive PaymentError
  | valueError
  | chain (error : ChainError)
  deriving DecidableEq

/-- `payer_pub`. -/
def PaymentAuthorization.payerPub (auth : PaymentAuthorization) : Except PaymentError Bytes := do
  let publicKey ← orRaise (fromHex auth.payerPubHex) PaymentError.valueError
  raiseIf (publicKey.length ≠ 32) PaymentError.valueError
  pure publicKey

structure Facilitator where
  usedNonces : List Str
  deriving DecidableEq

namespace Facilitator

def init : Facilitator := ⟨[]⟩

/-- `verify`, with the clock reading it makes. -/
def verify (host : Host) (facilitator : Facilitator) (auth : PaymentAuthorization) (now : Int) :
    Except PaymentError (Bool × String) := do
  let req := auth.requirements
  if req.nonce ∈ facilitator.usedNonces then pure (false, "replay: nonce already used")
  else if req.expiresAt < now then pure (false, "expired requirements")
  else if req.amount ≤ 0 then pure (false, "non-positive amount")
  else
    let publicKey ← auth.payerPub
    if addressOf host publicKey ≠ auth.payer then pure (false, "pubkey does not match payer")
    else
      let signature ← orRaise (fromHex auth.signatureHex) PaymentError.valueError
      if host.ed25519Verify publicKey req.digest signature = false then
        pure (false, "bad signature")
      else pure (true, "ok")

/-- `settle`.  The nonce is used up before the tokens move. -/
def settle (host : Host) (facilitator : Facilitator) (chain : LocalChain)
    (auth : PaymentAuthorization) (now : Int) :
    Except PaymentError (Bool × String) × Facilitator × LocalChain :=
  match facilitator.verify host auth now with
  | .error error => (.error error, facilitator, chain)
  | .ok (false, why) => (.ok (false, why), facilitator, chain)
  | .ok (true, _) =>
    let req := auth.requirements
    let used : Facilitator := ⟨facilitator.usedNonces.insert req.nonce⟩
    match chain.transferToken req.asset auth.payer req.payTo req.amount with
    | .error error => (.error (.chain error), used, chain)
    | .ok paid => (.ok (true, "settled"), used, paid)

end Facilitator

end AegisLedger.Wallet
