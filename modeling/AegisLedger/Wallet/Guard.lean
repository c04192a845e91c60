import AegisLedger.Support.HashChain
import AegisLedger.Wallet.Engine
import AegisLedger.Wallet.Payments

/-!
# The guard

`agentwallet/guard/guard.py` with the attestor of `agentwallet/guard/attestation.py`: a
proposal is evaluated and attested, an allowed one is signed and handed to the chain, and
what the chain reports is reconciled with the history of the engine.  The requirements of a
payment are evaluated like a transfer before its digest is signed.

`reconcile` completes the receipts that `submit` has returned; here it returns them.
-/

namespace AegisLedger.Wallet

open AegisLedger.Support HexText Checks
open AegisLedger.Gateway (Host Json)

/-! ## Attestations -/

structure Attestation where
  policyHash : Str
  proposalHash : Str
  verdict : Str
  reasons : List Str
  timestamp : Int
  enclavePubHex : Str
  signatureHex : Str
  deriving DecidableEq

def Attestation.payload (att : Attestation) : Bytes := canonical (.obj [
    ("policy_hash".toList, .str att.policyHash),
    ("proposal_hash".toList, .str att.proposalHash),
    ("verdict".toList, .str att.verdict),
    ("reasons".toList, .arr (att.reasons.map .str)),
    ("timestamp".toList, .int att.timestamp),
    ("enclave_pub_hex".toList, .str att.enclavePubHex)])

/-- `EnclaveAttestor.attest`, by an attestor with these keys. -/
def KeyPair.attest (host : Host) (attestor : KeyPair) (policyHash : Str)
    (proposalCanonical : Bytes) (verdict : Str) (reasons : List Str) (now : Int) : Attestation :=
  let att : Attestation := {
    policyHash := policyHash
    proposalHash := sha256Hex host proposalCanonical
    verdict := verdict
    reasons := reasons
    timestamp := now
    enclavePubHex := toHex attestor.publicKeyBytes
    signatureHex := [] }
  { att with signatureHex := toHex (attestor.sign att.payload) }

def verdictStr (verdict : Verdict) : Str :=
  if verdict.allow then "ALLOW".toList else "DENY".toList

/-! ## The audit log -/

structure AuditEntry where
  seq : Int
  prevHash : Str
  proposal : Json
  verdict : Str
  attestationSig : Str
  settled : Bool

namespace AuditEntry

/-- The dictionary that is hashed. -/
def asdict (entry : AuditEntry) : Json := .obj [
    ("seq".toList, .int entry.seq),
    ("prev_hash".toList, .str entry.prevHash),
    ("proposal".toList, entry.proposal),
    ("verdict".toList, .str entry.verdict),
    ("attestation_sig".toList, .str entry.attestationSig),
    ("settled".toList, .bool entry.settled)]

def serialized (host : Host) (entry : AuditEntry) : Bytes :=
  canonicalWith host.floatText entry.asdict

def hash (host : Host) (entry : AuditEntry) : Str := sha256Hex host (entry.serialized host)

end AuditEntry

def genesis : Str := "GENESIS".toList

/-! ## The guard -/

structure GuardReceipt where
  verdict : Verdict
  attestation : Attestation
  settled : Bool
  amountSettled : Int
  deriving DecidableEq

structure PendingProposal where
  proposal : Proposal
  verdict : Verdict
  attestation : Attestation
  receipt : GuardReceipt

structure AgentGuard where
  engine : PolicyEngine
  attestor : KeyPair
  signer : KeyPair
  audit : List AuditEntry
  auditHead : Str
  policyHash : Str
  pending : Dict Str PendingProposal

inductive GuardError
  | evaluation (error : EvaluationError)
  | chain (error : ChainError)
  deriving DecidableEq

/-- `bool(value)`. -/
def truthy : Json → Bool
  | .null => false
  | .bool value => value
  | .int value => value ≠ 0
  | .float bits => bits.toNat % 2 ^ 63 ≠ 0
  | .str value => value ≠ []
  | .arr items => items.isEmpty = false
  | .obj fields => fields.isEmpty = false

namespace AgentGuard

/-- `__init__`; `policyHash` is `engine.policy.hash()`. -/
def init (engine : PolicyEngine) (attestor signer : KeyPair) (policyHash : Str) : AgentGuard where
  engine := engine
  attestor := attestor
  signer := signer
  audit := []
  auditHead := genesis
  policyHash := policyHash
  pending := .empty

/-- `_append_audit`; the proposal is what `json.loads` makes of its canonical text, which is
written as before. -/
def appendAudit (host : Host) (guard : AgentGuard) (p : Proposal) (verdict : Verdict)
    (att : Attestation) (settled : Bool) : AgentGuard :=
  let entry : AuditEntry := {
    seq := guard.audit.length
    prevHash := (guard.audit.getLast?.map (·.hash host)).getD genesis
    proposal := p.asdict
    verdict := verdictStr verdict
    attestationSig := att.signatureHex
    settled := settled }
  { guard with audit := guard.audit ++ [entry], auditHead := entry.hash host }

/-- `verify_audit_chain`. -/
def verifyAuditChain (host : Host) (guard : AgentGuard) : Bool :=
  HashChain.walk AuditEntry.prevHash (AuditEntry.hash host) genesis guard.audit =
    some guard.auditHead

/-- `_decide`. -/
def decide (platform : Platform) (guard : AgentGuard) (p : Proposal)
    (mandateChain : Option MandateChain) (readings : Readings) (attestedAt : Int) :
    Except GuardError (Verdict × Attestation) := do
  let verdict ← (guard.engine.evaluate platform p mandateChain readings).mapError .evaluation
  pure (verdict, guard.attestor.attest platform.toHost guard.policyHash
    (p.canonical platform.toHost) (verdictStr verdict) verdict.reasons attestedAt)

/-- `_to_tx`. -/
def toTx (host : Host) (guard : AgentGuard) (chain : LocalChain) (p : Proposal)
    (decisionHash : Str) : Except ChainError Tx :=
  let sender := guard.signer.address host
  let hidden := ((p.metadata.get? "private".toList).map truthy).getD false
  let nonce := chain.nextNonce host sender
  let deadline := chain.clock + 300
  if p.kind = "transfer".toList then
    guard.signer.authorizeTransaction host { Tx.new .transfer sender with
      recipient := some p.recipient
      amount := p.amount
      asset := p.asset
      hidden := hidden
      chainId := chain.chainId
      nonce := nonce
      deadline := deadline
      decisionHash := decisionHash }
  else
    guard.signer.authorizeTransaction host { Tx.new .swap sender with
      amountIn := p.amount
      tokenIn := p.tokenIn
      tokenOut := p.tokenOut
      minOut := p.minOut
      hidden := hidden
      chainId := chain.chainId
      nonce := nonce
      deadline := deadline
      decisionHash := decisionHash }

/-- Sign an allowed proposal, hand it to the chain and wait for its receipt. -/
def dispatch (host : Host) (guard : AgentGuard) (chain : LocalChain) (p : Proposal)
    (verdict : Verdict) (att : Attestation) (receipt : GuardReceipt) :
    Except ChainError (AgentGuard × LocalChain) := do
  let tx ← guard.toTx host chain p att.proposalHash
  let submitted ← chain.submit host tx
  pure ({ guard with pending := guard.pending.set (tx.hash host) ⟨p, verdict, att, receipt⟩ },
    submitted)

/-- `submit` of a guard that has a chain, with `settle=True`. -/
def submit (platform : Platform) (guard : AgentGuard) (chain : LocalChain) (p : Proposal)
    (mandateChain : Option MandateChain) (readings : Readings) (attestedAt : Int) :
    Except GuardError (GuardReceipt × AgentGuard × LocalChain) := do
  let (verdict, att) ← guard.decide platform p mandateChain readings attestedAt
  let receipt : GuardReceipt := ⟨verdict, att, false, 0⟩
  if verdict.allow then do
    let (dispatched, submitted) ← (guard.dispatch platform.toHost chain p verdict att
      receipt).mapError .chain
    pure (receipt, dispatched.appendAudit platform.toHost p verdict att false, submitted)
  else pure (receipt, guard.appendAudit platform.toHost p verdict att false, chain)

/-- `submit` with `settle=False`, or of a guard without a chain. -/
def submitUnsettled (platform : Platform) (guard : AgentGuard) (p : Proposal)
    (mandateChain : Option MandateChain) (readings : Readings) (attestedAt : Int) :
    Except GuardError (GuardReceipt × AgentGuard) := do
  let (verdict, att) ← guard.decide platform p mandateChain readings attestedAt
  pure (⟨verdict, att, false, 0⟩, guard.appendAudit platform.toHost p verdict att false)

/-- One receipt of `reconcile`, with the clock reading of `record`. -/
def reconcileOne (host : Host) (guard : AgentGuard) (chainReceipt : Receipt) (now : Int) :
    Option GuardReceipt × AgentGuard :=
  match guard.pending.get? (chainReceipt.tx.hash host) with
  | none => (none, guard)
  | some entry =>
    let popped := { guard with pending := guard.pending.erase (chainReceipt.tx.hash host) }
    if chainReceipt.success then
      let recorded := { popped with engine := popped.engine.record entry.proposal now }
      (some { entry.receipt with settled := true, amountSettled := entry.proposal.amount },
        recorded.appendAudit host entry.proposal entry.verdict entry.attestation true)
    else (none, popped)

/-- `reconcile`: each receipt with the clock reading of its `record`. -/
def reconcile (host : Host) (guard : AgentGuard) :
    List (Receipt × Int) → List GuardReceipt × AgentGuard
  | [] => ([], guard)
  | (chainReceipt, now) :: rest =>
    let (completed, after) := guard.reconcileOne host chainReceipt now
    let (later, final) := after.reconcile host rest
    (completed.toList ++ later, final)

/-- The proposal that `sign_for_x402` makes of the requirements. -/
def paymentProposal (req : PaymentRequirements) : Proposal where
  kind := "transfer".toList
  amount := req.amount
  asset := req.asset
  recipient := req.payTo
  tokenIn := "TUSDC".toList
  tokenOut := "DRB".toList
  minOut := 0
  quotedOut := 0
  purpose := "x402:".toList ++ req.resource
  metadata := (Dict.empty.set "agent".toList (.str "x402-client".toList)).set "nonce".toList
    (.str req.nonce)

/-- `sign_for_x402`, with the clock reading of `record`. -/
def signForX402 (platform : Platform) (guard : AgentGuard) (digest : Bytes)
    (req : PaymentRequirements) (readings : Readings) (attestedAt recordedAt : Int) :
    Except GuardError (Option (Str × Str) × AgentGuard) := do
  let p := paymentProposal req
  let (verdict, att) ← guard.decide platform p none readings attestedAt
  if verdict.allow then
    let recorded := { guard with engine := guard.engine.record p recordedAt }
    pure (some (guard.signer.signDigest digest),
      recorded.appendAudit platform.toHost p verdict att true)
  else pure (none, guard.appendAudit platform.toHost p verdict att false)

/-- `X402Client.create_authorization` of a client that signs with the guard. -/
def createAuthorization (platform : Platform) (guard : AgentGuard) (payer : Str)
    (req : PaymentRequirements) (readings : Readings) (attestedAt recordedAt : Int) :
    Except GuardError (Option PaymentAuthorization × AgentGuard) := do
  let (signed, after) ← guard.signForX402 platform req.digest req readings attestedAt recordedAt
  pure (signed.map fun signed => ⟨req, payer, signed.1, signed.2⟩, after)

end AgentGuard

/-- `GuardClient.submit` of the agent with this address. -/
def clientSubmit (platform : Platform) (agentAddress : Str) (guard : AgentGuard)
    (chain : LocalChain) (p : Proposal) (mandateChain : Option MandateChain)
    (readings : Readings) (attestedAt : Int) :
    Except GuardError (GuardReceipt × AgentGuard × LocalChain) :=
  let named := match p.metadata.get? "agent".toList with
    | some _ => p
    | none => { p with metadata := p.metadata.set "agent".toList (.str agentAddress) }
  guard.submit platform chain named mandateChain readings attestedAt

end AegisLedger.Wallet
