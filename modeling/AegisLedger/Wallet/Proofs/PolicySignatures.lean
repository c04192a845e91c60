import AegisLedger.Wallet.Guard
import AegisLedger.Wallet.Proofs.Conservation
import AegisLedger.Wallet.Proofs.Digests

/-!
# What the wallet key signs

The guard signs a transaction that it builds from an allowed proposal, and a digest that its
caller hands over together with requirements it allows.  Nothing ties that digest to those
requirements.  When the caller hands over the digest of the requirements themselves, the key
signs only what the policy allowed, and so the wallet pays only what the policy allowed.

The world keeps a log of the proposals that were allowed and of what was signed.
-/

namespace AegisLedger.Wallet.PolicySignatures

open AegisLedger.Support HexText Checks Balances Digests Evaluation
open AegisLedger.Gateway (Host addressOf)

/-! ## Runs -/

/-- What the wallet key was applied to. -/
inductive Signed
  | transaction (tx : Tx)
  | payment (digest : Bytes) (req : PaymentRequirements)

def Signed.message (host : Host) : Signed → Bytes
  | .transaction tx => tx.digest host
  | .payment digest _ => digest

/-- The guard beside the chain and the facilitator, with the log. -/
structure World where
  guard : AgentGuard
  system : System
  allowed : List Proposal
  signed : List Signed

inductive Action
  | submit (p : Proposal) (mandateChain : Option MandateChain) (readings : Readings)
      (attestedAt : Int)
  | signForX402 (digest : Bytes) (req : PaymentRequirements) (readings : Readings)
      (attestedAt recordedAt : Int)
  | reconcile (receipts : List (Receipt × Int))
  /-- The harness reports how far the pool has moved. -/
  | observePool (poolMoveBps : Int)
  /-- Anyone calls the chain or the facilitator. -/
  | call (call : Call)

/-- The proposal of a call, if it evaluates to ALLOW. -/
def allowedBy (platform : Platform) (guard : AgentGuard) (p : Proposal)
    (mandateChain : Option MandateChain) (readings : Readings) (attestedAt : Int) :
    Option Attestation :=
  match guard.decide platform p mandateChain readings attestedAt with
  | .ok (verdict, att) => if verdict.allow then some att else none
  | .error _ => none

/-- The log after a submission: an allowed proposal is signed whether or not the chain takes
the transaction. -/
def World.logSubmit (platform : Platform) (world : World) (p : Proposal) :
    Option Attestation → World
  | none => world
  | some att => { world with
      allowed := world.allowed ++ [p]
      signed := world.signed ++ ((world.guard.toTx platform.toHost world.system.chain p
        att.proposalHash).toOption.map Signed.transaction).toList }

/-- The log after a call of `sign_for_x402`. -/
def World.logDigest (world : World) (digest : Bytes) (req : PaymentRequirements) :
    Option Attestation → World
  | none => world
  | some _ => { world with
      allowed := world.allowed ++ [AgentGuard.paymentProposal req]
      signed := world.signed ++ [.payment digest req] }

/-- A call that raises leaves the guard as it is. -/
def World.perform (platform : Platform) (world : World) : Action → World
  | .submit p mandateChain readings attestedAt =>
    let logged := world.logSubmit platform p
      (allowedBy platform world.guard p mandateChain readings attestedAt)
    match world.guard.submit platform world.system.chain p mandateChain readings attestedAt with
    | .ok (_, guard, chain) => { logged with guard, system := { world.system with chain } }
    | .error _ => logged
  | .signForX402 digest req readings attestedAt recordedAt =>
    let logged := world.logDigest digest req
      (allowedBy platform world.guard (AgentGuard.paymentProposal req) none readings attestedAt)
    match world.guard.signForX402 platform digest req readings attestedAt recordedAt with
    | .ok (_, guard) => { logged with guard }
    | .error _ => logged
  | .reconcile receipts =>
    { world with guard := (world.guard.reconcile platform.toHost receipts).2 }
  | .observePool poolMoveBps =>
    { world with guard := { world.guard with
        engine := { world.guard.engine with poolMoveBps := poolMoveBps } } }
  | .call call => { world with system := world.system.perform platform.toHost call }

/-! ## What is assumed of a run -/

/-- Nobody but the signer makes a signature that verifies under a key of the wallet. -/
def Unforged (host : Host) (wallet : Str) (signed : List Signed) (message : Bytes)
    (publicKeyHex signatureHex : Str) : Prop :=
  ∀ publicKey signature, Verified host publicKeyHex signatureHex message publicKey signature →
    addressOf host publicKey = host.lower wallet ∨ addressOf host publicKey = wallet →
    message ∈ signed.map (Signed.message host)

/-- The transaction does not collide with one that was signed. -/
def CollisionFree (host : Host) (signed : List Signed) (tx : Tx) : Prop :=
  ∀ other, Signed.transaction other ∈ signed → tx.digest host = other.digest host →
    canonical tx.payload = canonical other.payload

/-- A swap is evaluated in the token it spends, and does not buy that token. -/
def SpendsItsAsset (p : Proposal) : Prop :=
  p.kind ≠ "transfer".toList → p.asset = p.tokenIn ∧ p.tokenIn ≠ p.tokenOut

/-- The digest handed over is that of the requirements, swaps spend the asset that is
evaluated, and signatures are not forged. -/
def Bound (host : Host) (world : World) : Action → Prop
  | .submit p _ _ _ => SpendsItsAsset p
  | .signForX402 digest req _ _ _ => digest = req.digest
  | .reconcile _ => True
  | .observePool _ => True
  | .call (.submit tx) => tx.sender = world.guard.signer.address host →
      Unforged host tx.sender world.signed (tx.digest host) tx.publicKeyHex tx.signatureHex ∧
        CollisionFree host world.signed tx
  | .call (.settle auth _) => auth.payer = world.guard.signer.address host →
      Unforged host auth.payer world.signed auth.requirements.digest auth.payerPubHex
        auth.signatureHex
  | .call _ => True

/-- The steps at which `allowed` holds. -/
abbrev Steps (platform : Platform) (allowed : World → Action → Prop) :
    World → Action → World → Prop :=
  Run.Guarded allowed (World.perform platform)

/-! ## What was allowed -/

/-- Whom a proposal pays. -/
def counterparty (p : Proposal) : Str :=
  if p.kind = "transfer".toList then p.recipient else LocalChain.pool

/-- Some allowed proposal is of that asset, amount and counterparty. -/
def Allowed (allowed : List Proposal) (asset payee : Str) (amount : Int) : Prop :=
  ∃ p ∈ allowed, p.asset = asset ∧ counterparty p = payee ∧ p.amount = amount

/-- What a message signs for: a transaction that `_to_tx` builds from an allowed proposal, or
requirements that were allowed. -/
def Authorized (host : Host) (guard : AgentGuard) (allowed : List Proposal) (message : Bytes) :
    Prop :=
  (∃ p ∈ allowed, ∃ chain decisionHash tx, guard.toTx host chain p decisionHash = .ok tx ∧
      message = tx.digest host) ∨
    ∃ req, AgentGuard.paymentProposal req ∈ allowed ∧ message = PaymentRequirements.digest req

/-- A transaction of the wallet pays what was allowed. -/
structure Backed (allowed : List Proposal) (tx : Tx) : Prop where
  transfer : ∀ recipient, tx.kind = .transfer → tx.recipient = some recipient →
    Allowed allowed tx.asset recipient tx.amount
  swap : tx.kind = .swap →
    Allowed allowed tx.tokenIn LocalChain.pool tx.amountIn ∧ tx.tokenIn ≠ tx.tokenOut

variable {allowed more : List Proposal}

variable {tx : Tx}

variable {host : Host} {guard : AgentGuard}

variable {chain : LocalChain}

section Log

variable {platform : Platform} {signer : KeyPair} {world : World}

variable {host : Host}

end Log

/-! ## What the wallet pays -/

/-- The world before the key has signed anything. -/
def World.fresh (guard : AgentGuard) (chain : LocalChain) (facilitator : Facilitator) : World :=
  ⟨guard, ⟨chain, facilitator⟩, [], []⟩

section Samples

open SettledCaps Conservation

instance (host : Host) (wallet : Str) (signed : List Signed) (message : Bytes)
    (publicKeyHex signatureHex : Str) :
    Decidable (Unforged host wallet signed message publicKeyHex signatureHex) :=
  decidable_of_iff (∀ publicKey ∈ fromHex publicKeyHex, ∀ signature ∈ fromHex signatureHex,
      host.ed25519Verify publicKey message signature = true →
      addressOf host publicKey = host.lower wallet ∨ addressOf host publicKey = wallet →
      message ∈ signed.map (Signed.message host))
    ⟨fun h publicKey signature hverified =>
      h publicKey hverified.keyText signature hverified.signatureText hverified.verifies,
    fun h publicKey hkey signature hsignature hverifies =>
      h publicKey signature ⟨hkey, hsignature, hverifies⟩⟩

/-- The transactions among what was signed. -/
def transactions (signed : List Signed) : List Tx :=
  signed.filterMap fun
    | .transaction tx => some tx
    | .payment _ _ => none

instance (host : Host) (signed : List Signed) (tx : Tx) : Decidable (CollisionFree host signed tx) :=
  decidable_of_iff (∀ other ∈ transactions signed, tx.digest host = other.digest host →
      canonical tx.payload = canonical other.payload) (by
    refine forall_congr' fun other => imp_congr_left ?_
    simp only [transactions, List.mem_filterMap]
    constructor
    · rintro ⟨entry, hentry, hsome⟩
      cases entry with
      | transaction tx => exact Option.some.inj hsome ▸ hentry
      | payment digest req => cases hsome
    · intro hentry
      exact ⟨_, hentry, rfl⟩)

instance (p : Proposal) : Decidable (SpendsItsAsset p) :=
  inferInstanceAs (Decidable (_ → _))

instance (host : Host) (world : World) : (action : Action) → Decidable (Bound host world action)
  | .submit p _ _ _ => inferInstanceAs (Decidable (SpendsItsAsset p))
  | .signForX402 digest req _ _ _ => inferInstanceAs (Decidable (digest = req.digest))
  | .reconcile _ => .isTrue trivial
  | .observePool _ => .isTrue trivial
  | .call (.submit _) => inferInstanceAs (Decidable (_ → _))
  | .call (.settle _ _) => inferInstanceAs (Decidable (_ → _))
  | .call (.mint _ _ _) => .isTrue trivial
  | .call .mineBlock => .isTrue trivial
  | .call (.registerRuleHook _ _) => .isTrue trivial

/-- A platform whose digests have 32 bytes. -/
def digestPlatform : Platform := { plainPlatform with
  sha256 := fun data => List.replicate 32 data.sum }

def walletPolicy : Policy := { hourlyPolicy with
  windowCaps := []
  maxTxPerWindow := 0 }

def walletGuard : AgentGuard := .init ⟨walletPolicy, [], 0⟩ walletKeys walletKeys "policy".toList

def guardWallet : Str := walletGuard.signer.address digestPlatform.toHost

def authorized (req : PaymentRequirements) : PaymentAuthorization :=
  { authorization req with payer := guardWallet }

def startWorld : World := .fresh walletGuard (.new 1000000 500000 31337) .init

def worldAfter (trace : List Action) : World :=
  trace.foldl (World.perform digestPlatform) startWorld

def readings : Readings := ⟨fun _ => 0, 0, 0, 0⟩

/-- The guard is asked to sign a digest for requirements. -/
def sign (digest : Bytes) (req : PaymentRequirements) : Action :=
  .signForX402 digest req readings 0 0

/-- What the wallet pays in an execution. -/
def spent (asset : Str) (e : Execution) : Int :=
  balanceOf e.before.tokens asset guardWallet - balanceOf e.after.tokens asset guardWallet

/-- Signatures are not forged; nothing is asked of the calls of the guard. -/
def Genuine (host : Host) (world : World) : Action → Prop
  | .call call => Bound host world (.call call)
  | _ => True

instance (host : Host) (world : World) : (action : Action) → Decidable (Genuine host world action)
  | .call call => inferInstanceAs (Decidable (Bound host world (.call call)))
  | .submit _ _ _ _ => .isTrue trivial
  | .signForX402 _ _ _ _ _ => .isTrue trivial
  | .reconcile _ => .isTrue trivial
  | .observePool _ => .isTrue trivial

/-- A swap that is evaluated in one token and spends another. -/
def swapTrace : List Action := [
  .call (.mint drb guardWallet 1000),
  .submit { payment with
    kind := "swap".toList
    tokenIn := drb
    tokenOut := usdc } none readings 0]

end Samples

end AegisLedger.Wallet.PolicySignatures
