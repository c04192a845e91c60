import AegisLedger.Wallet.Chain

/-!
# The policy engine

`agentwallet/guard/engine.py` with the `Policy` of `agentwallet/guard/policy.py` and the
mandate chain of `agentwallet/payments/mandates.py`.  A policy is one that `load_policy` has
read: caps are not negative and windows are positive.

Each look at the history reads the clock for itself, so the readings of an evaluation are
arguments, one for each use.
-/

namespace AegisLedger.Wallet

open AegisLedger.Support HexText Checks
open AegisLedger.Gateway (Host Json PosInt intText)

/-- The host with `repr` of text, which follows the tables of printable characters. -/
structure Platform extends Host where
  repr : Str → Str

/-! ## Policies -/

structure WindowCap where
  windowS : PosInt
  cap : Nat
  deriving DecidableEq

structure RiskPolicy where
  dynamicTightening : Bool
  poolMoveThresholdBps : Nat
  maxSlippageBps : Nat
  deriving DecidableEq

structure Policy where
  perTxCap : Nat
  windowCaps : List WindowCap
  maxTxPerWindow : Nat
  velocityWindowS : PosInt
  allowedAssets : List Str
  allowlistRecipients : List Str
  blocklistRecipients : List Str
  requireMandateAbove : Nat
  risk : RiskPolicy
  killSwitch : Bool
  deriving DecidableEq

/-! ## Proposals -/

/-- `recipient` is `to`. -/
structure Proposal where
  kind : Str
  amount : Int
  asset : Str
  recipient : Str
  tokenIn : Str
  tokenOut : Str
  minOut : Int
  quotedOut : Int
  purpose : Str
  metadata : Dict Str Json

/-- `asdict`. -/
def Proposal.asdict (p : Proposal) : Json := .obj [
    ("kind".toList, .str p.kind),
    ("amount".toList, .int p.amount),
    ("asset".toList, .str p.asset),
    ("to".toList, .str p.recipient),
    ("token_in".toList, .str p.tokenIn),
    ("token_out".toList, .str p.tokenOut),
    ("min_out".toList, .int p.minOut),
    ("quoted_out".toList, .int p.quotedOut),
    ("purpose".toList, .str p.purpose),
    ("meta".toList, .obj p.metadata.entries)]

def Proposal.canonical (host : Host) (p : Proposal) : Bytes := canonicalWith host.floatText p.asdict

structure Verdict where
  allow : Bool
  reasons : List Str
  deriving DecidableEq

/-! ## Mandates -/

structure IntentMandate where
  user : Str
  agent : Str
  maxTotal : Int
  allowedMerchants : List Str
  expiresAt : Int
  nonce : Str
  signatureHex : Str
  deriving DecidableEq

structure CartMandate where
  merchant : Str
  intentHash : Str
  items : List Str
  total : Int
  expiresAt : Int
  signatureHex : Str
  deriving DecidableEq

def IntentMandate.digest (intent : IntentMandate) : Bytes := canonical (.obj [
    ("user".toList, .str intent.user),
    ("agent".toList, .str intent.agent),
    ("max_total".toList, .int intent.maxTotal),
    ("allowed_merchants".toList, .arr (intent.allowedMerchants.map .str)),
    ("expires_at".toList, .int intent.expiresAt),
    ("nonce".toList, .str intent.nonce)])

def CartMandate.digest (cart : CartMandate) : Bytes := canonical (.obj [
    ("merchant".toList, .str cart.merchant),
    ("intent_hash".toList, .str cart.intentHash),
    ("items".toList, .arr (cart.items.map .str)),
    ("total".toList, .int cart.total),
    ("expires_at".toList, .int cart.expiresAt)])

inductive EvaluationError
  | valueError
  | keyError (key : Str)
  deriving DecidableEq

/-- `verify(pub, digest, bytes.fromhex(signature_hex))`. -/
def verifySignature (host : Host) (publicKey digest : Bytes) (signatureHex : Str) :
    Except EvaluationError Bool := do
  let signature ← orRaise (fromHex signatureHex) EvaluationError.valueError
  pure (host.ed25519Verify publicKey digest signature)

/-- The clock readings of one evaluation: for the window cap at each position, for the
velocity limit, and for the expiry of either mandate. -/
structure Readings where
  caps : Nat → Int
  velocity : Int
  intent : Int
  cart : Int

/-- The agent that a proposal names in its metadata. -/
def namesAgent (metadata : Dict Str Json) (agent : Str) : Bool :=
  match metadata.get? "agent".toList with
  | some (.str named) => named = agent
  | some _ => false
  | none => agent = []

/-- `MandateVerifier.check_payment_against_chain`: nothing when it answers `(True, "ok")`,
its reason otherwise. -/
def checkPaymentAgainstChain (host : Host) (intent : IntentMandate) (cart : CartMandate)
    (userPub merchantPub : Bytes) (metadata : Dict Str Json) (merchant : Str)
    (amount alreadySpent : Int) (readings : Readings) :
    Except EvaluationError (Option String) := do
  if (← verifySignature host userPub intent.digest intent.signatureHex) = false then
    pure (some "bad intent signature")
  else if (← verifySignature host merchantPub cart.digest cart.signatureHex) = false then
    pure (some "bad cart signature")
  else if cart.intentHash ≠ sha256Hex host intent.digest then
    pure (some "cart not bound to intent")
  else if intent.expiresAt < readings.intent ∨ cart.expiresAt < readings.cart then
    pure (some "mandate expired")
  else if namesAgent metadata intent.agent = false then pure (some "agent mismatch")
  else if cart.merchant ≠ merchant then pure (some "merchant mismatch")
  else if intent.allowedMerchants ≠ [] ∧ merchant ∉ intent.allowedMerchants then
    pure (some "merchant not allowed by intent")
  else if cart.total ≠ amount then pure (some "payment amount != cart total")
  else if intent.maxTotal < alreadySpent + amount then pure (some "intent budget exceeded")
  else pure none

structure MandateChain where
  intent : IntentMandate
  cart : CartMandate
  pubs : Dict Str Bytes

/-! ## The engine -/

structure SpendRecord where
  ts : Int
  amount : Int
  asset : Str
  recipient : Str
  deriving DecidableEq

structure PolicyEngine where
  policy : Policy
  history : List SpendRecord
  poolMoveBps : Int

namespace PolicyEngine

/-- `_validate`, with the message of `MalformedProposal`. -/
def validate (platform : Platform) (p : Proposal) : Except Str Unit := do
  raiseIf (p.kind ≠ "transfer".toList ∧ p.kind ≠ "swap".toList)
    ("unknown kind ".toList ++ platform.repr p.kind)
  raiseIf (p.amount ≤ 0) "amount must be a positive integer".toList
  raiseIf (p.kind = "transfer".toList ∧ p.recipient = []) "transfer requires recipient".toList

def record (engine : PolicyEngine) (p : Proposal) (now : Int) : PolicyEngine :=
  { engine with history := engine.history ++ [⟨now, p.amount, p.asset, p.recipient⟩] }

/-- The records that count for a window that is looked at `now`. -/
def inWindow (engine : PolicyEngine) (windowS now : Int) : List SpendRecord :=
  engine.history.filter fun entry => decide (now - entry.ts < windowS)

/-- `_spent_in_window`. -/
def spentInWindow (engine : PolicyEngine) (windowS now : Int) : Int :=
  ((engine.inWindow windowS now).map (·.amount)).sum

/-- `_count_in_window`. -/
def countInWindow (engine : PolicyEngine) (windowS now : Int) : Nat :=
  (engine.inWindow windowS now).length

def spentUnderIntent (engine : PolicyEngine) : Int := (engine.history.map (·.amount)).sum

def capReasons (engine : PolicyEngine) (p : Proposal) (readings : Readings) : List Str :=
  engine.policy.windowCaps.zipIdx.flatMap fun (windowCap, position) =>
    let spent := engine.spentInWindow windowCap.windowS.val (readings.caps position)
    noteIf ((windowCap.cap : Int) < spent + p.amount)
      ("window cap exceeded: ".toList ++ intText spent ++ '+' :: intText p.amount ++
        " > ".toList ++ intText windowCap.cap ++ " over ".toList ++
        intText windowCap.windowS.val ++ ['s'])

def recipientReasons (policy : Policy) (p : Proposal) : List Str :=
  if p.kind = "transfer".toList then
    noteIf (p.recipient ∈ policy.blocklistRecipients)
        ("recipient ".toList ++ p.recipient ++ " blocklisted".toList) ++
      noteIf (policy.allowlistRecipients ≠ [] ∧ p.recipient ∉ policy.allowlistRecipients)
        ("recipient ".toList ++ p.recipient ++ " not on allowlist".toList)
  else []

def mandateReasons (host : Host) (engine : PolicyEngine) (p : Proposal)
    (mandateChain : Option MandateChain) (readings : Readings) :
    Except EvaluationError (List Str) :=
  if p.kind = "transfer".toList ∧ (engine.policy.requireMandateAbove : Int) < p.amount then
    match mandateChain with
    | none => pure ["amount ".toList ++ intText p.amount ++
        " requires an AP2 mandate chain".toList]
    | some chain => do
        let userPub ← orRaise (chain.pubs.get? "user".toList) (.keyError "user".toList)
        let merchantPub ← orRaise (chain.pubs.get? "merchant".toList)
          (.keyError "merchant".toList)
        let why ← checkPaymentAgainstChain host chain.intent chain.cart userPub merchantPub
          p.metadata p.recipient p.amount engine.spentUnderIntent readings
        pure (why.toList.map fun why => "mandate chain invalid: ".toList ++ why.toList)
  else pure []

def riskReasons (engine : PolicyEngine) (p : Proposal) : List Str :=
  let risk := engine.policy.risk
  if p.kind = "swap".toList ∧ risk.dynamicTightening = true then
    noteIf ((risk.poolMoveThresholdBps : Int) < engine.poolMoveBps)
        ("pool moved ".toList ++ intText engine.poolMoveBps ++ "bps > threshold ".toList ++
          intText risk.poolMoveThresholdBps ++ "bps (possible sandwich)".toList) ++
      (if p.quotedOut ≠ 0 ∧ p.minOut ≠ 0 then
        let slipBps := ((p.quotedOut - p.minOut) * 10000).fdiv (max p.quotedOut 1)
        noteIf ((risk.maxSlippageBps : Int) < slipBps)
          ("slippage tolerance ".toList ++ intText slipBps ++ "bps > policy max ".toList ++
            intText risk.maxSlippageBps ++ "bps".toList)
      else [])
  else []

def evaluate (platform : Platform) (engine : PolicyEngine) (p : Proposal)
    (mandateChain : Option MandateChain) (readings : Readings) :
    Except EvaluationError Verdict :=
  let policy := engine.policy
  match validate platform p with
  | .error message => pure ⟨false, ["malformed proposal: ".toList ++ message]⟩
  | .ok () =>
    if policy.killSwitch then pure ⟨false, ["kill switch engaged".toList]⟩
    else do
      let mandateReasons ← engine.mandateReasons platform.toHost p mandateChain readings
      let reasons :=
        noteIf (p.asset ∉ policy.allowedAssets)
            ("asset ".toList ++ p.asset ++ " not in allowed_assets".toList) ++
          noteIf (policy.perTxCap ≠ 0 ∧ (policy.perTxCap : Int) < p.amount)
            ("amount ".toList ++ intText p.amount ++ " > per-tx cap ".toList ++
              intText policy.perTxCap) ++
          engine.capReasons p readings ++
          noteIf (policy.maxTxPerWindow ≠ 0 ∧ policy.maxTxPerWindow <
              engine.countInWindow policy.velocityWindowS.val readings.velocity + 1)
            "velocity limit exceeded".toList ++
          recipientReasons policy p ++ mandateReasons ++ engine.riskReasons p
      pure ⟨reasons.isEmpty, reasons⟩

end PolicyEngine

end AegisLedger.Wallet
