import AegisLedger.Wallet.Guard

/-!
# What ALLOW means

An evaluation allows a proposal exactly when none of its checks has left a reason.
`Allows` names the checks; what the later modules need of a verdict they read off it, and of
a submission off the ways it can go (`Submitted`).
-/

namespace AegisLedger.Wallet.Evaluation

open AegisLedger.Support HexText Checks
open AegisLedger.Gateway (Host Json)

structure Allows (platform : Platform) (engine : PolicyEngine) (p : Proposal)
    (mandateChain : Option MandateChain) (readings : Readings) : Prop where
  valid : PolicyEngine.validate platform p = .ok ()
  live : engine.policy.killSwitch = false
  asset : p.asset ∈ engine.policy.allowedAssets
  perTx : ¬(engine.policy.perTxCap ≠ 0 ∧ (engine.policy.perTxCap : Int) < p.amount)
  caps : engine.capReasons p readings = []
  velocity : ¬(engine.policy.maxTxPerWindow ≠ 0 ∧ engine.policy.maxTxPerWindow <
    engine.countInWindow engine.policy.velocityWindowS.val readings.velocity + 1)
  recipient : PolicyEngine.recipientReasons engine.policy p = []
  mandate : engine.mandateReasons platform.toHost p mandateChain readings = .ok []
  risk : engine.riskReasons p = []

section Verdict

variable {platform : Platform} {engine : PolicyEngine} {p : Proposal}
  {mandateChain : Option MandateChain} {readings : Readings} {verdict : Verdict}

theorem allows_of_evaluate (h : engine.evaluate platform p mandateChain readings = .ok verdict)
    (hallow : verdict.allow = true) : Allows platform engine p mandateChain readings := by
  unfold PolicyEngine.evaluate at h
  cases hvalid : PolicyEngine.validate platform p with
  | error message =>
    rw [hvalid] at h
    rw [← Except.ok.inj h] at hallow
    cases hallow
  | ok _ =>
    rw [hvalid] at h
    dsimp only at h
    split_ifs at h with hkill
    · rw [← Except.ok.inj h] at hallow
      cases hallow
    · rw [bind_eq_ok] at h
      obtain ⟨mandateReasons, hmandate, h⟩ := h
      rw [pure_eq_ok] at h
      rw [← h] at hallow
      dsimp only at hallow
      rw [List.isEmpty_iff] at hallow
      simp only [List.append_eq_nil_iff, noteIf_eq_nil, not_not] at hallow
      obtain ⟨⟨⟨⟨⟨⟨hasset, hperTx⟩, hcaps⟩, hvelocity⟩, hrecipient⟩, rfl⟩, hrisk⟩ := hallow
      exact ⟨hvalid, Bool.not_eq_true _ ▸ hkill, hasset, hperTx, hcaps, hvelocity, hrecipient,
        hmandate, hrisk⟩

theorem Allows.amount_pos (h : Allows platform engine p mandateChain readings) :
    0 < p.amount := by
  have hvalid := h.valid
  rw [PolicyEngine.validate, raiseIf_bind_eq_ok, raiseIf_bind_eq_ok] at hvalid
  exact not_le.mp hvalid.2.1

end Verdict

/-! ## The transaction of a proposal -/

theorem authorizeTransaction_eq_ok {host : Host} {signer : KeyPair} {tx signed : Tx}
    (h : signer.authorizeTransaction host tx = .ok signed) :
    ∃ publicKeyHex signatureHex,
      signed = { tx with publicKeyHex := publicKeyHex, signatureHex := signatureHex } := by
  rw [KeyPair.authorizeTransaction, raiseIf_bind_eq_ok, pure_eq_ok] at h
  exact ⟨_, _, h.2.symm⟩

/-- What the transaction of a swap takes from the proposal. -/
structure SwapOf (host : Host) (signer : KeyPair) (p : Proposal) (tx : Tx) : Prop where
  kind : tx.kind = .swap
  sender : tx.sender = signer.address host
  amountIn : tx.amountIn = p.amount
  tokenIn : tx.tokenIn = p.tokenIn
  tokenOut : tx.tokenOut = p.tokenOut
  minOut : tx.minOut = p.minOut

theorem swapOf_toTx {host : Host} {guard : AgentGuard} {chain : LocalChain} {p : Proposal}
    {decisionHash : Str} {tx : Tx} (hkind : p.kind = "swap".toList)
    (h : guard.toTx host chain p decisionHash = .ok tx) : SwapOf host guard.signer p tx := by
  have hother : p.kind ≠ "transfer".toList := by
    rw [hkind]
    decide
  rw [AgentGuard.toTx, if_neg hother] at h
  obtain ⟨_, _, rfl⟩ := authorizeTransaction_eq_ok h
  exact ⟨rfl, rfl, rfl, rfl, rfl, rfl⟩

/-! ## Submissions -/

section Guard

variable {platform : Platform} {guard after : AgentGuard} {chain later : LocalChain}
  {p : Proposal} {mandateChain : Option MandateChain} {readings : Readings} {attestedAt : Int}
  {verdict : Verdict} {att : Attestation} {receipt : GuardReceipt}

theorem evaluate_of_decide
    (h : guard.decide platform p mandateChain readings attestedAt = .ok (verdict, att)) :
    guard.engine.evaluate platform p mandateChain readings = .ok verdict := by
  rw [AgentGuard.decide, mapError_bind_eq_ok] at h
  obtain ⟨evaluated, hevaluate, h⟩ := h
  rw [pure_eq_ok, Prod.mk.injEq] at h
  rw [hevaluate, h.1]

/-- The guard that waits for the receipt of `tx`. -/
def awaiting (host : Host) (guard : AgentGuard) (p : Proposal) (verdict : Verdict)
    (att : Attestation) (tx : Tx) : AgentGuard :=
  let receipt : GuardReceipt := ⟨verdict, att, false, 0⟩
  { guard with pending := guard.pending.set (tx.hash host) ⟨p, verdict, att, receipt⟩ }

/-- The ways in which a submission that has been decided can go, with the guard and the chain
after it. -/
inductive Submitted (host : Host) (guard : AgentGuard) (chain : LocalChain) (p : Proposal)
    (verdict : Verdict) (att : Attestation) : AgentGuard → LocalChain → Prop
  | denied (hdenied : verdict.allow = false) :
      Submitted host guard chain p verdict att (guard.appendAudit host p verdict att false) chain
  | dispatched {tx : Tx} {later : LocalChain} (hallow : verdict.allow = true)
      (htx : guard.toTx host chain p att.proposalHash = .ok tx)
      (hsubmit : chain.submit host tx = .ok later) :
      Submitted host guard chain p verdict att
        ((awaiting host guard p verdict att tx).appendAudit host p verdict att false) later

theorem submitted_of_submit
    (h : guard.submit platform chain p mandateChain readings attestedAt =
      .ok (receipt, after, later)) :
    ∃ verdict att, guard.decide platform p mandateChain readings attestedAt = .ok (verdict, att) ∧
      receipt = ⟨verdict, att, false, 0⟩ ∧
      Submitted platform.toHost guard chain p verdict att after later := by
  rw [AgentGuard.submit, bind_eq_ok] at h
  obtain ⟨⟨verdict, att⟩, hdecide, h⟩ := h
  dsimp only at h
  refine ⟨verdict, att, hdecide, ?_⟩
  split_ifs at h with hallow
  · rw [mapError_bind_eq_ok] at h
    obtain ⟨⟨dispatched, submitted⟩, hdispatch, h⟩ := h
    rw [pure_eq_ok, Prod.mk.injEq, Prod.mk.injEq] at h
    obtain ⟨rfl, rfl, rfl⟩ := h
    rw [AgentGuard.dispatch, bind_eq_ok] at hdispatch
    obtain ⟨tx, htx, hdispatch⟩ := hdispatch
    rw [bind_eq_ok] at hdispatch
    obtain ⟨taken, htaken, hdispatch⟩ := hdispatch
    rw [pure_eq_ok, Prod.mk.injEq] at hdispatch
    obtain ⟨rfl, rfl⟩ := hdispatch
    exact ⟨rfl, .dispatched hallow htx htaken⟩
  · rw [pure_eq_ok, Prod.mk.injEq, Prod.mk.injEq] at h
    obtain ⟨rfl, rfl, rfl⟩ := h
    exact ⟨rfl, .denied (Bool.not_eq_true _ ▸ hallow)⟩

end Guard

end AegisLedger.Wallet.Evaluation
