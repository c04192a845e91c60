import AegisLedger.Gateway.Api
import AegisLedger.Gateway.Mandates

/-!
# The protocol adapters and the gateway around them

`X402Adapter` and `DelegatedMandateAdapter` of `aegisledger/protocols.py`, and a gateway that
has a service and a mandate ledger.  The three calls of the ledger, those of the service and
those of the delegated adapter interleave command by command.
-/

namespace AegisLedger.Gateway

open AegisLedger.Support HexText Checks Threads

/-! ## The x402 adapter -/

/-- The characters that `\s` matches. -/
def isWhitespace (c : Char) : Bool :=
  let n := c.toNat
  (9 ≤ n && n ≤ 13) || (0x2000 ≤ n && n ≤ 0x200A) ||
    [0x20, 0x85, 0xA0, 0x1680, 0x2028, 0x2029, 0x202F, 0x205F, 0x3000].contains n

/-- The pattern `^https://[^\s]{1,240}$`. -/
def matchesResource (s : Str) : Bool :=
  let rest := s.drop 8
  s.take 8 == "https://".toList && 1 ≤ rest.length && rest.length ≤ 240 &&
    rest.all fun c => !isWhitespace c

inductive X402Scheme
  | exact
  | upto
  deriving DecidableEq

structure X402PaymentRequestV1 where
  scheme : X402Scheme
  chainId : PosInt
  asset : AssetId
  amount : PosInt
  payTo : LowerAddress
  resource : {s : Str // matchesResource s = true}
  nonce : BoundedStr 8 96
  expiresAt : Datetime
  deriving DecidableEq

namespace X402PaymentRequestV1

theorem length_resource (request : X402PaymentRequestV1) :
    1 ≤ request.resource.val.length ∧ request.resource.val.length ≤ 256 := by
  have hmatches := request.resource.property
  simp only [matchesResource, Bool.and_eq_true, decide_eq_true_eq, List.length_drop] at hmatches
  omega

def idempotencyKey (request : X402PaymentRequestV1) : BoundedStr 8 128 :=
  ⟨"x402:".toList ++ request.nonce.val, by
    have hlow := request.nonce.property.1
    have hhigh := request.nonce.property.2
    rw [List.length_append]
    change 8 ≤ 5 + _ ∧ 5 + _ ≤ 128
    omega⟩

/-- The fields of `ProposalV1` that can fail to validate; the others come from a request that
is valid. -/
def invalidFields (principalId wallet : Str) : List String :=
  noteIf (¬(1 ≤ principalId.length ∧ principalId.length ≤ 128)) "principal_id" ++
    noteIf (matchesHex isHexDigit 40 wallet = false) "wallet"

/-- `ProposalV1.model_validate` of the fields of a request, with the identifier that `uuid7`
returns; the fields that are invalid otherwise. -/
def proposal (request : X402PaymentRequestV1) (principalId wallet : Str)
    (proposalId : {u : Uuid // uuidVersion u = some 7}) : Except (List String) ProposalV1 := do
  let invalid := invalidFields principalId wallet
  raiseIf (invalid ≠ []) invalid
  let principal ← constrain principalId invalid
  let account ← constrain (asciiLower wallet) invalid
  pure {
    proposalId := proposalId
    principalId := principal
    wallet := account
    chainId := request.chainId
    asset := request.asset
    amount := request.amount
    intent := .transfer ⟨request.payTo⟩
    deadline := request.expiresAt
    idempotencyKey := request.idempotencyKey
    mandateId := none
    quoteReference := some ⟨request.resource.val, request.length_resource⟩ }

end X402PaymentRequestV1

inductive X402Error (ε : Type)
  | validation (fields : List String)
  | submission (error : ε)
  deriving DecidableEq

/-- `X402Adapter.authorize`, with `submitProposal` as the adapter was made with: what it
returns is dropped. -/
def X402PaymentRequestV1.authorize {σ ρ ε : Type}
    (submitProposal : σ → ProposalV1 → Except ε (ρ × σ)) (request : X402PaymentRequestV1)
    (principalId wallet : Str) (proposalId : {u : Uuid // uuidVersion u = some 7}) (state : σ) :
    Except (X402Error ε) (ProposalV1 × σ) := do
  let proposal ← (request.proposal principalId wallet proposalId).mapError .validation
  let (_, after) ← (submitProposal state proposal).mapError .submission
  pure (proposal, after)

/-! ## The delegated mandate adapter -/

inductive AdapterError
  | valueError (message : String)
  | canonical (error : CanonicalError)
  deriving DecidableEq

structure DelegatedMandateRequestV1 where
  proposal : ProposalV1
  cart : CartMandateV1

/-- The comparisons of `authorize`. -/
def DelegatedMandateRequestV1.check (host : Host) (request : DelegatedMandateRequestV1) :
    Except AdapterError Unit := do
  let proposal := request.proposal
  let cart := request.cart
  let proposalHash ← (proposal.proposalHash host).mapError .canonical
  raiseIf (cart.proposalHash.val ≠ proposalHash)
    (.valueError "cart is bound to a different proposal")
  raiseIf (proposal.mandateId ≠ some cart.mandateId)
    (.valueError "proposal is bound to a different mandate")
  raiseIf (cart.chainId ≠ proposal.chainId ∨ cart.asset ≠ proposal.asset)
    (.valueError "cart scope does not match proposal scope")
  raiseIf (cart.amount ≠ proposal.amount)
    (.valueError "cart amount does not match proposal amount")
  raiseIf (MandateLedger.transferRecipient proposal ≠ some cart.merchant)
    (.valueError "cart merchant does not match proposal recipient")

/-- `DelegatedMandateAdapter.authorize`, with `submitProposal` as the adapter was made with. -/
def DelegatedMandateRequestV1.authorize {κ : Type} {Ans : κ → Type} {ε : Type} (host : Host)
    (raise : AdapterError → ε) (submitProposal : ProposalV1 → Prog κ Ans ε Unit)
    (request : DelegatedMandateRequestV1) : Prog κ Ans ε ProposalV1 := do
  Prog.ofExcept ((request.check host).mapError raise)
  submitProposal request.proposal
  pure request.proposal

/-! ## The gateway -/

structure Desk (host : Host) where
  service : Service host
  ledger : MandateLedger
  /-- The calls of the ledger so far. -/
  mandateCalls : List MandateLedger.Event

/-- The gateway when it is first started. -/
def Desk.new {host : Host} (policies : PolicyRegistry host) (now : Datetime) : Desk host :=
  ⟨.new policies now, .empty, []⟩

inductive DeskCommand (host : Host)
  | service (command : Command host)
  | ledger (call : MandateLedger.Call)

@[reducible] def DeskCommand.Answer {host : Host} : DeskCommand host → Type
  | .service command => command.Answer
  | .ledger _ => Unit

inductive DeskError
  | service (error : ServiceError)
  | ledger (error : LedgerError)
  | adapter (error : AdapterError)

def Desk.perform (deployment : Deployment) (outcome : Outcome) (desk : Desk deployment.host) :
    (command : DeskCommand deployment.host) →
      Except DeskError command.Answer × Desk deployment.host
  | .service command =>
    let result := desk.service.perform deployment outcome command
    (result.1.mapError .service, { desk with service := result.2 })
  | .ledger call =>
    match desk.ledger.perform deployment.host call with
    | .ok ledger => (.ok (), { desk with
        ledger := ledger, mandateCalls := desk.mandateCalls ++ [⟨call, true⟩] })
    | .error error => (.error (.ledger error), { desk with
        mandateCalls := desk.mandateCalls ++ [⟨call, false⟩] })

inductive DeskCall
  | service (call : ServiceCall)
  | ledger (call : MandateLedger.Call)
  /-- A delegated request, from an adapter that submits in the name of `actor`. -/
  | authorize (request : DelegatedMandateRequestV1) (actor : Str)

end AegisLedger.Gateway
