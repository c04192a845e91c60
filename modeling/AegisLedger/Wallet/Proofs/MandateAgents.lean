import AegisLedger.Wallet.Proofs.Conservation

/-!
# Mandates and agents

Above the threshold of the policy a transfer needs a mandate chain, and the agent of the
intent is compared with `meta["agent"]`.  The client of an agent enters its address there
only if the agent has not: the comparison is with the submitting agent exactly when the
agent leaves the entry out or puts its own address.
-/

namespace AegisLedger.Wallet.MandateAgents

open AegisLedger.Support HexText Checks Dict Evaluation
open AegisLedger.Gateway (Host Json)

/-- The user has signed the intent, the merchant a cart for it over this payment, and both
are still good. -/
structure Mandated (host : Host) (intent : IntentMandate) (cart : CartMandate)
    (userPub merchantPub : Bytes) (recipient : Str) (amount : Int) (readings : Readings) :
    Prop where
  intentSigned : verifySignature host userPub intent.digest intent.signatureHex = .ok true
  cartSigned : verifySignature host merchantPub cart.digest cart.signatureHex = .ok true
  bound : cart.intentHash = sha256Hex host intent.digest
  intentLive : readings.intent ≤ intent.expiresAt
  cartLive : readings.cart ≤ cart.expiresAt
  merchant : cart.merchant = recipient
  total : cart.total = amount

section Verifier

variable {host : Host} {intent : IntentMandate} {cart : CartMandate} {userPub merchantPub : Bytes}
  {metadata : Dict Str Json} {merchant : Str} {amount alreadySpent : Int} {readings : Readings}

theorem mandated_of_check
    (h : checkPaymentAgainstChain host intent cart userPub merchantPub metadata merchant amount
      alreadySpent readings = .ok none) :
    Mandated host intent cart userPub merchantPub merchant amount readings ∧
      namesAgent metadata intent.agent = true := by
  rw [checkPaymentAgainstChain, bind_eq_ok] at h
  obtain ⟨intentSigned, hintent, h⟩ := h
  by_cases hintentSigned : intentSigned = false
  · rw [if_pos hintentSigned] at h
    cases h
  rw [if_neg hintentSigned, bind_eq_ok] at h
  obtain ⟨cartSigned, hcart, h⟩ := h
  split_ifs at h with hcartSigned hbound hexpired hagent hmerchant hallowed htotal hbudget
  all_goals try cases h
  rw [Bool.not_eq_false] at hintentSigned hcartSigned hagent
  rw [hintentSigned] at hintent
  rw [hcartSigned] at hcart
  rw [not_or, not_lt, not_lt] at hexpired
  exact ⟨⟨hintent, hcart, not_not.mp hbound, hexpired.1, hexpired.2, not_not.mp hmerchant,
    not_not.mp htotal⟩, hagent⟩

end Verifier

/-! ## The agent that is compared -/

/-- The metadata that reaches the guard from the client of an agent. -/
def clientMetadata (agentAddress : Str) (metadata : Dict Str Json) : Dict Str Json :=
  match metadata.get? "agent".toList with
  | some _ => metadata
  | none => metadata.set "agent".toList (.str agentAddress)

theorem clientSubmit_eq (platform : Platform) (agentAddress : Str) (guard : AgentGuard)
    (chain : LocalChain) (p : Proposal) (mandateChain : Option MandateChain)
    (readings : Readings) (attestedAt : Int) :
    clientSubmit platform agentAddress guard chain p mandateChain readings attestedAt =
      guard.submit platform chain { p with metadata := clientMetadata agentAddress p.metadata }
        mandateChain readings attestedAt := by
  rw [clientSubmit, clientMetadata]
  cases p.metadata.get? "agent".toList <;> rfl

/-- The agent leaves its name to the client, or gives its own. -/
def NamesItself (agentAddress : Str) (metadata : Dict Str Json) : Prop :=
  metadata.get? "agent".toList = none ∨
    metadata.get? "agent".toList = some (.str agentAddress)

theorem namesItself_iff {agentAddress agent : Str} {metadata : Dict Str Json}
    (h : namesAgent (clientMetadata agentAddress metadata) agent = true) :
    agent = agentAddress ↔ NamesItself agentAddress metadata := by
  unfold NamesItself
  cases hget : metadata.get? "agent".toList with
  | none =>
    rw [clientMetadata, hget] at h
    dsimp only at h
    rw [namesAgent, get?_set, if_pos rfl] at h
    have hagent : agentAddress = agent := of_decide_eq_true h
    simp [hagent]
  | some value =>
    rw [clientMetadata, hget] at h
    dsimp only at h
    rw [namesAgent, hget] at h
    cases value with
    | str named =>
      have hagent : named = agent := of_decide_eq_true h
      simp [hagent]
    | _ => cases h

/-! ## Allowed submissions -/

/-- A transfer above the threshold that is allowed comes with a mandate chain for it; the
intent names the submitting agent exactly if the agent has named itself. -/
theorem mandate_names_submitter_iff {platform : Platform} {agentAddress : Str}
    {guard after : AgentGuard} {chain later : LocalChain} {p : Proposal}
    {mandateChain : Option MandateChain} {readings : Readings} {attestedAt : Int}
    {receipt : GuardReceipt}
    (hsubmit : clientSubmit platform agentAddress guard chain p mandateChain readings attestedAt =
      .ok (receipt, after, later))
    (hallow : receipt.verdict.allow = true) (hkind : p.kind = "transfer".toList)
    (habove : (guard.engine.policy.requireMandateAbove : Int) < p.amount) :
    ∃ mandate userPub merchantPub, mandateChain = some mandate ∧
      mandate.pubs.get? "user".toList = some userPub ∧
      mandate.pubs.get? "merchant".toList = some merchantPub ∧
      Mandated platform.toHost mandate.intent mandate.cart userPub merchantPub p.recipient
        p.amount readings ∧
      (mandate.intent.agent = agentAddress ↔ NamesItself agentAddress p.metadata) := by
  rw [clientSubmit_eq] at hsubmit
  obtain ⟨verdict, att, hdecide, rfl, -⟩ := submitted_of_submit hsubmit
  have hmandate := (allows_of_evaluate (evaluate_of_decide hdecide) hallow).mandate
  unfold PolicyEngine.mandateReasons at hmandate
  rw [if_pos ⟨hkind, habove⟩] at hmandate
  cases mandateChain with
  | none => cases hmandate
  | some mandate =>
    dsimp only at hmandate
    rw [orRaise_bind_eq_ok] at hmandate
    obtain ⟨userPub, huser, hmandate⟩ := hmandate
    rw [orRaise_bind_eq_ok] at hmandate
    obtain ⟨merchantPub, hmerchant, hmandate⟩ := hmandate
    rw [bind_eq_ok] at hmandate
    obtain ⟨why, hcheck, hwhy⟩ := hmandate
    cases why with
    | some reason => cases hwhy
    | none =>
      obtain ⟨hmandated, hnames⟩ := mandated_of_check hcheck
      exact ⟨mandate, userPub, merchantPub, rfl, huser, hmerchant, hmandated,
        namesItself_iff hnames⟩

section Samples

open SettledCaps Conservation

def userKeys : KeyPair := ⟨List.replicate 32 1, fun message => message⟩

def merchantKeys : KeyPair := ⟨List.replicate 32 2, fun message => message⟩

def alice : Str := "alice".toList

def mallory : Str := "mallory".toList

/-- A user lets alice spend up to a thousand. -/
def aliceIntent : IntentMandate :=
  let unsigned : IntentMandate := ⟨"user".toList, alice, 1000, [], 300, "n1".toList, []⟩
  { unsigned with signatureHex := toHex (userKeys.sign unsigned.digest) }

/-- The vendor's cart over a hundred. -/
def aliceCart : CartMandate :=
  let unsigned : CartMandate :=
    ⟨"vendor".toList, sha256Hex plainHost aliceIntent.digest, ["report".toList], 100, 300, []⟩
  { unsigned with signatureHex := toHex (merchantKeys.sign unsigned.digest) }

def aliceMandate : MandateChain where
  intent := aliceIntent
  cart := aliceCart
  pubs := (Dict.empty.set "user".toList userKeys.publicKeyBytes).set "merchant".toList
    merchantKeys.publicKeyBytes

def mandatePolicy : Policy := { hourlyPolicy with requireMandateAbove := 50 }

def mandateGuard : AgentGuard :=
  .init ⟨mandatePolicy, [], 0⟩ walletKeys walletKeys "policy".toList

/-- A submission of a payment of a hundred with alice's mandate. -/
def submitWith (agentAddress : Str) (metadata : Dict Str Json) :
    Except GuardError (GuardReceipt × AgentGuard × LocalChain) :=
  clientSubmit plainPlatform agentAddress mandateGuard fundedChain
    { payment with metadata := metadata } (some aliceMandate) ⟨fun _ => 0, 0, 0, 0⟩ 0

theorem submitWith_alice :
    ∃ receipt after later, submitWith alice .empty = .ok (receipt, after, later) ∧
      receipt.verdict.allow = true ∧
      ∃ mandate, some aliceMandate = some mandate ∧ mandate.intent.agent = alice := by
  have hfacts : (submitWith alice .empty).map (fun result => result.1.verdict.allow) =
      .ok true := by decide +kernel
  obtain ⟨⟨receipt, after, later⟩, hsubmit, hallow⟩ := map_eq_ok hfacts
  obtain ⟨mandate, _, _, hmandate, _, _, _, hagent⟩ :=
    mandate_names_submitter_iff hsubmit hallow rfl (by decide)
  exact ⟨receipt, after, later, hsubmit, hallow, mandate, hmandate, hagent.mpr (.inl rfl)⟩

/-- The client of mallory spends the mandate of alice once mallory has entered that name. -/
theorem submitWith_mallory :
    aliceMandate.intent.agent = alice ∧ alice ≠ mallory ∧
      (submitWith mallory .empty).map (fun result => result.1.verdict) =
        .ok ⟨false, ["mandate chain invalid: agent mismatch".toList]⟩ ∧
      (submitWith mallory (Dict.empty.set "agent".toList (.str alice))).map
        (fun result => (result.1.verdict, result.2.2.mempool.map (·.amount))) =
          .ok (⟨true, []⟩, [100]) := by
  decide +kernel

end Samples

end AegisLedger.Wallet.MandateAgents
