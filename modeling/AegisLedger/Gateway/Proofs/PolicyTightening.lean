import AegisLedger.Gateway.Proofs.BudgetSafety

/-!
# Tightening a policy

Every check of `_evaluate` is monotone: membership in a set that may shrink, an amount or a
count against a bound that may fall.  A rolling cap with a longer window counts at least the
reservations of the shorter one.
-/

namespace AegisLedger.Gateway.PolicyTightening

open AegisLedger.Support HexText Checks
open MemoryStateStore

/-! ## What no reasons means -/

/-- The intent is allowed. -/
def Permits (policy : PolicyV1) (proposal : ProposalV1) : Prop :=
  match proposal.intent with
  | .transfer intent => intent.recipient ∈ policy.allowedRecipients
  | .swap intent => (intent.contract.val, asciiLower intent.selector.val) ∈ policy.allowedCalls ∧
      (policy.risk.denyOnMissingQuote = true → proposal.quoteReference ≠ none)

variable {proposal : ProposalV1} {policy : PolicyV1}

theorem intentReasons_eq_nil : intentReasons proposal policy = [] ↔ Permits policy proposal := by
  unfold intentReasons Permits
  cases proposal.intent with
  | transfer intent => simp only [noteIf_eq_nil, not_not]
  | swap intent =>
    simp only [List.append_eq_nil_iff, noteIf_eq_nil, not_not, not_and, ne_eq]

structure StaticallyAdmits (policy : PolicyV1) (proposal : ProposalV1) (now : Datetime) :
    Prop where
  running : policy.emergencyStop = false
  inTime : now < proposal.deadline
  wallet : proposal.wallet ∈ policy.enabledWallets
  principal : proposal.principalId ∈ policy.enabledPrincipals
  chain : proposal.chainId ∈ policy.enabledChains
  asset : proposal.asset ∈ policy.enabledAssets
  amount : proposal.amount.val ≤ policy.perTransactionCap
  intent : Permits policy proposal
  mandate : policy.mandateRequiredAbove < proposal.amount.val → proposal.mandateId ≠ none

theorem staticPolicyReasons_eq_nil {now : Datetime} :
    staticPolicyReasons proposal policy now = [] ↔ StaticallyAdmits policy proposal now := by
  unfold staticPolicyReasons
  cases hstop : policy.emergencyStop with
  | true =>
    constructor
    · intro h
      cases h
    · intro h
      rw [h.running] at hstop
      cases hstop
  | false =>
    simp only [Bool.false_eq_true, if_false, List.append_eq_nil_iff, noteIf_eq_nil, not_not,
      not_le, not_lt, not_and, intentReasons_eq_nil]
    constructor
    · rintro ⟨⟨⟨⟨⟨⟨⟨htime, hwallet⟩, hprincipal⟩, hchain⟩, hasset⟩, hamount⟩, hintent⟩, hmandate⟩
      exact ⟨hstop, htime, hwallet, hprincipal, hchain, hasset, hamount, hintent, hmandate⟩
    · intro h
      exact ⟨⟨⟨⟨⟨⟨⟨h.inTime, h.wallet⟩, h.principal⟩, h.chain⟩, h.asset⟩, h.amount⟩, h.intent⟩,
        h.mandate⟩

/-- The reservations leave room for the proposal. -/
structure HasRoom (policy : PolicyV1) (active : List Reservation) (amount : Nat)
    (now : Datetime) : Prop where
  caps : ∀ cap ∈ policy.rollingCaps,
    spentWithin active now cap.windowSeconds.val + amount ≤ cap.amount
  velocity : countWithin active now 3600 + 1 ≤ policy.maximumTransactionsPerHour

theorem evaluate_eq_nil {store : MemoryStateStore} {deadlineNow now : Datetime} :
    store.evaluate proposal policy deadlineNow now = [] ↔
      StaticallyAdmits policy proposal deadlineNow ∧
        HasRoom policy (store.activeIn proposal.scope) proposal.amount.val now := by
  simp only [evaluate, List.append_eq_nil_iff, noteIf_eq_nil, staticPolicyReasons_eq_nil,
    not_exists, not_and, not_lt]
  constructor
  · rintro ⟨⟨hstatic, hcaps⟩, hvelocity⟩
    exact ⟨hstatic, hcaps, hvelocity⟩
  · rintro ⟨hstatic, hroom⟩
    exact ⟨⟨hstatic, hroom.caps⟩, hroom.velocity⟩

/-! ## Windows -/

theorem totalSecondsLt_mono {delta : Int} {shorter longer : Nat} (hle : shorter ≤ longer)
    (h : totalSecondsLt delta shorter = true) : totalSecondsLt delta longer = true := by
  simp only [totalSecondsLt, Bool.or_eq_true, decide_eq_true_eq] at h ⊢
  rcases h with hnegative | hyoung
  · exact Or.inl hnegative
  · exact Or.inr (hyoung.trans_le (Nat.mul_le_mul_right _ hle))

theorem spentWithin_mono (active : List Reservation) (now : Datetime) {shorter longer : Nat}
    (hle : shorter ≤ longer) : spentWithin active now shorter ≤ spentWithin active now longer := by
  apply List.Sublist.sum_le_sum
  · apply List.Sublist.map
    apply List.monotone_filter_right
    intro item hitem
    exact totalSecondsLt_mono hle hitem
  · intro amount _
    exact Nat.zero_le amount

/-! ## Tightening -/

/-- `tight` is at least as strict as `loose`. -/
structure Tightens (tight loose : PolicyV1) : Prop where
  wallets : tight.enabledWallets ⊆ loose.enabledWallets
  principals : tight.enabledPrincipals ⊆ loose.enabledPrincipals
  chains : tight.enabledChains ⊆ loose.enabledChains
  assets : tight.enabledAssets ⊆ loose.enabledAssets
  recipients : tight.allowedRecipients ⊆ loose.allowedRecipients
  calls : tight.allowedCalls ⊆ loose.allowedCalls
  perTransaction : tight.perTransactionCap ≤ loose.perTransactionCap
  hourly : tight.maximumTransactionsPerHour ≤ loose.maximumTransactionsPerHour
  threshold : tight.mandateRequiredAbove ≤ loose.mandateRequiredAbove
  caps : ∀ cap ∈ loose.rollingCaps, ∃ tighter ∈ tight.rollingCaps,
    cap.windowSeconds.val ≤ tighter.windowSeconds.val ∧ tighter.amount ≤ cap.amount
  quotes : loose.risk.denyOnMissingQuote = true → tight.risk.denyOnMissingQuote = true
  stop : loose.emergencyStop = true → tight.emergencyStop = true

section Tightens

variable {tight loose : PolicyV1} {proposal : ProposalV1} {now : Datetime}

theorem Tightens.permits (h : Tightens tight loose) (hpermits : Permits tight proposal) :
    Permits loose proposal := by
  unfold Permits at hpermits ⊢
  cases hintent : proposal.intent with
  | transfer intent =>
    rw [hintent] at hpermits
    exact h.recipients hpermits
  | swap intent =>
    rw [hintent] at hpermits
    exact ⟨h.calls hpermits.1, fun hdeny => hpermits.2 (h.quotes hdeny)⟩

theorem Tightens.staticallyAdmits (h : Tightens tight loose)
    (hadmits : StaticallyAdmits tight proposal now) : StaticallyAdmits loose proposal now where
  running := by
    have htight := hadmits.running
    cases hstop : loose.emergencyStop with
    | false => rfl
    | true =>
      rw [h.stop hstop] at htight
      exact htight
  inTime := hadmits.inTime
  wallet := h.wallets hadmits.wallet
  principal := h.principals hadmits.principal
  chain := h.chains hadmits.chain
  asset := h.assets hadmits.asset
  amount := hadmits.amount.trans h.perTransaction
  intent := h.permits hadmits.intent
  mandate := fun habove => hadmits.mandate (h.threshold.trans_lt habove)

theorem Tightens.hasRoom (h : Tightens tight loose) {active : List Reservation} {amount : Nat}
    (hroom : HasRoom tight active amount now) : HasRoom loose active amount now := by
  refine ⟨?_, hroom.velocity.trans h.hourly⟩
  intro cap hcap
  obtain ⟨tighter, htighter, hwindow, hamount⟩ := h.caps cap hcap
  calc spentWithin active now cap.windowSeconds.val + amount
      ≤ spentWithin active now tighter.windowSeconds.val + amount :=
        Nat.add_le_add_right (spentWithin_mono active now hwindow) amount
    _ ≤ tighter.amount := hroom.caps tighter htighter
    _ ≤ cap.amount := hamount

/-- A policy admits what a stricter one admits. -/
theorem evaluate_eq_nil_of_tightens (h : Tightens tight loose) (store : MemoryStateStore)
    (deadlineNow : Datetime) (hnone : store.evaluate proposal tight deadlineNow now = []) :
    store.evaluate proposal loose deadlineNow now = [] := by
  obtain ⟨hstatic, hroom⟩ := evaluate_eq_nil.mp hnone
  exact evaluate_eq_nil.mpr ⟨h.staticallyAdmits hstatic, h.hasRoom hroom⟩

end Tightens

section Samples

open SignedEffect BudgetSafety

def hourlyPolicy : PolicyV1 := budgetPolicy ⟨3600, 300⟩

/-- Half the cap over a whole day, a lower cap per transaction and fewer transactions. -/
def dailyPolicy : PolicyV1 := { budgetPolicy ⟨86400, 200⟩ with
  perTransactionCap := 100
  maximumTransactionsPerHour := 2
  coherent := ⟨List.nodup_singleton _, nofun⟩ }

/-- The store after the first proposal. -/
def reservedStore : MemoryStateStore := (hourCalls.take 2).foldl perform .empty

theorem dailyPolicy_tightens :
    reservedStore.evaluate secondProposal dailyPolicy sampleExpiry sampleExpiry = [] ∧
      reservedStore.evaluate secondProposal hourlyPolicy sampleExpiry sampleExpiry = [] := by
  have hnone : reservedStore.evaluate secondProposal dailyPolicy sampleExpiry sampleExpiry = [] := by
    decide +kernel
  have htightens : Tightens dailyPolicy hourlyPolicy := by
    refine ⟨List.Subset.refl _, List.Subset.refl _, List.Subset.refl _, List.Subset.refl _,
      List.Subset.refl _, List.Subset.refl _, by decide, by decide, le_refl _, ?_, id, id⟩
    intro cap hcap
    obtain rfl := List.mem_singleton.mp hcap
    exact ⟨⟨86400, 200⟩, List.mem_singleton_self _, by decide, by decide⟩
  exact ⟨hnone, evaluate_eq_nil_of_tightens htightens reservedStore sampleExpiry hnone⟩

end Samples

end AegisLedger.Gateway.PolicyTightening
