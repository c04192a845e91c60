import AegisLedger.Wallet.Proofs.Conservation

/-!
# Rules of a contract wallet

The executor asks the hook of the sender about a transaction before anything moves, and the
hook looks at transfers only.  A swap passes it unseen, and a settlement of the facilitator
never meets it.  The rules bind a wallet whose swaps and settlements keep them of their own.
-/

namespace AegisLedger.Wallet.ContractRules

open AegisLedger.Support Checks Dict Balances
open AegisLedger.Gateway (Host)

/-- What the rules allow the wallet to pay. -/
structure Permits (rules : ContractWalletRules) (asset payee : Str) (amount : Int) : Prop where
  capped : amount ≤ rules.perTxCap
  asset : asset ∈ rules.allowedAssets
  payee : payee ∈ rules.allowlist

/-- Where the balance of the wallet falls, it falls within the rules, and an allowed address
gains what the wallet loses. -/
abbrev Complies (rules : ContractWalletRules) : Str → Tokens → Tokens → Prop :=
  Pays (Permits rules)

/-! ## Transactions -/

/-- A swap of the wallet keeps the rules as a payment to the pool. -/
def SwapPermitted (rules : ContractWalletRules) (wallet : Str) (tx : Tx) : Prop :=
  tx.sender = wallet → tx.kind = .swap →
    Permits rules tx.tokenIn LocalChain.pool tx.amountIn

variable {rules : ContractWalletRules}

/-- What the hook lets pass. -/
theorem permits_of_hook (hcap : 0 < rules.perTxCap) (hallowlist : rules.allowlist ≠ []) {tx : Tx}
    {recipient : Str} (hkind : tx.kind = .transfer) (hrecipient : tx.recipient = some recipient)
    (h : rules.hook tx = .ok ()) : Permits rules tx.asset recipient tx.amount := by
  rw [ContractWalletRules.hook, hkind] at h
  simp only [raiseIf_bind_eq_ok, raiseIf_eq_ok, not_not, not_and] at h
  obtain ⟨hasset, hcapped, hpayee⟩ := h
  have hmem := hpayee hallowlist
  push Not at hmem
  obtain ⟨payee, hmem, hsame⟩ := hmem
  rw [hrecipient, Option.some.injEq] at hsame
  exact ⟨not_lt.mp (hcapped hcap.ne'), hasset, hsame ▸ hmem⟩

variable {wallet : Str} {chain : LocalChain}

theorem complies_execute (hwallet : wallet ≠ LocalChain.pool) (hcap : 0 < rules.perTxCap)
    (hallowlist : rules.allowlist ≠ []) {tx : Tx}
    (hhook : chain.ruleHooks.get? wallet = some rules.hook)
    (hswap : SwapPermitted rules wallet tx) :
    Complies rules wallet chain.tokens (chain.execute tx).2.tokens := by
  apply pays_execute hwallet
  · intro recipient hpasses hsender hkind hrecipient
    rw [← hsender] at hhook
    exact permits_of_hook hcap hallowlist hkind hrecipient (hpasses _ hhook)
  · intro hsender hkind
    have hpermits := hswap hsender hkind
    refine ⟨hpermits, fun _ out hout => ⟨?_, hpermits.asset, hpermits.payee⟩⟩
    have hcapped := hpermits.capped
    omega

/-! ## Settlements -/

def SettlementPermitted (rules : ContractWalletRules) (wallet : Str)
    (auth : PaymentAuthorization) : Prop :=
  auth.payer = wallet →
    Permits rules auth.requirements.asset auth.requirements.payTo auth.requirements.amount

theorem complies_settle {host : Host} {facilitator : Facilitator} {auth : PaymentAuthorization}
    {now : Int} (hpermitted : SettlementPermitted rules wallet auth) :
    Complies rules wallet chain.tokens (facilitator.settle host chain auth now).2.2.tokens := by
  rcases settle_cases host facilitator chain auth now with
    hsame | ⟨_, _, tokens, _, _, hmoves, hpaid⟩
  · rw [hsame]
    exact pays_refl _
  · rw [hpaid]
    exact pays_of_moves hmoves hpermitted

/-! ## Runs -/

/-- Swaps and settlements of the wallet keep its rules, and nobody replaces them. -/
def Permitted (rules : ContractWalletRules) (wallet : Str) : Call → Prop
  | .submit tx => SwapPermitted rules wallet tx
  | .settle auth _ => SettlementPermitted rules wallet auth
  | .registerRuleHook address _ => address ≠ wallet
  | .mint _ _ _ => True
  | .mineBlock => True

structure Guarded (rules : ContractWalletRules) (wallet : Str) (chain : LocalChain) : Prop where
  hook : chain.ruleHooks.get? wallet = some rules.hook
  pending : ∀ tx ∈ chain.mempool, SwapPermitted rules wallet tx

theorem ruleHooks_execute (chain : LocalChain) (tx : Tx) :
    (chain.execute tx).2.ruleHooks = chain.ruleHooks := by
  have hattempted := attempted chain tx
  generalize (chain.execute tx).2 = after at hattempted ⊢
  cases hattempted <;> rfl

theorem guarded_mineBlock (h : Guarded rules wallet chain) :
    Guarded rules wallet chain.mineBlock.2 := by
  have hhooks : chain.mineBlock.2.ruleHooks = chain.ruleHooks := by
    apply invariant_mineBlock (I := fun other => other.ruleHooks = chain.ruleHooks)
    · intro other tx _ hother
      exact (ruleHooks_execute other tx).trans hother
    · rfl
    · intro other blocks clock hother
      exact hother
  refine ⟨hhooks ▸ h.hook, ?_⟩
  rw [mempool_mineBlock]
  simp

theorem guarded_perform {host : Host} {system : System} {call : Call}
    (h : Guarded rules wallet system.chain) (hpermitted : Permitted rules wallet call) :
    Guarded rules wallet (system.perform host call).chain := by
  cases call with
  | mint asset address amount =>
    change Guarded rules wallet ((system.chain.mint asset address amount).toOption.getD _)
    rcases mint_cases system.chain asset address amount with ⟨hsame, _⟩ | ⟨_, _, hset⟩
    · rw [hsame]
      exact h
    · rw [hset]
      exact ⟨h.hook, h.pending⟩
  | submit tx =>
    change Guarded rules wallet ((system.chain.submit host tx).toOption.getD _)
    rcases submit_cases host system.chain tx with hsame | ⟨_, _, hjoined⟩
    · rw [hsame]
      exact h
    · rw [hjoined]
      refine ⟨h.hook, ?_⟩
      intro other hother
      rcases List.mem_append.mp hother with hother | hother
      · exact h.pending other hother
      · obtain rfl := List.mem_singleton.mp hother
        exact hpermitted
  | mineBlock => exact guarded_mineBlock h
  | settle auth now =>
    change Guarded rules wallet (system.facilitator.settle host system.chain auth now).2.2
    rcases settle_cases host system.facilitator system.chain auth now with
      hsame | ⟨_, _, _, _, _, _, hpaid⟩
    · rw [hsame]
      exact h
    · rw [hpaid]
      exact ⟨h.hook, h.pending⟩
  | registerRuleHook address hook =>
    refine ⟨?_, h.pending⟩
    change (system.chain.ruleHooks.set address hook).get? wallet = some rules.hook
    rw [get?_set_ne _ hpermitted.symm]
    exact h.hook

/-- In every run in which the swaps and settlements of the wallet keep its rules, so does
each execution of the next block and each such settlement. -/
theorem contractWallet_complies {host : Host} {rules : ContractWalletRules} {wallet : Str}
    (hwallet : wallet ≠ LocalChain.pool) (hcap : 0 < rules.perTxCap)
    (hallowlist : rules.allowlist ≠ []) {chain : LocalChain} {facilitator : Facilitator}
    (hpending : ∀ tx ∈ chain.mempool, SwapPermitted rules wallet tx) {trace : List Call}
    {system : System}
    (hrun : Run (Conservation.Steps host (Permitted rules wallet))
      ⟨deployContractWallet chain wallet rules, facilitator⟩ trace system) :
    (∀ e ∈ blockExecutions system.chain,
      Complies rules wallet e.before.tokens e.after.tokens) ∧
      ∀ auth now, SettlementPermitted rules wallet auth →
        Complies rules wallet system.chain.tokens
          (system.facilitator.settle host system.chain auth now).2.2.tokens := by
  have hguarded : Guarded rules wallet system.chain := by
    apply hrun.invariant (I := fun _ system => Guarded rules wallet system.chain)
    · exact ⟨get?_set_self _ _ _, hpending⟩
    · rintro _ _ _ _ _ hbefore ⟨hpermitted, rfl⟩
      exact guarded_perform hbefore hpermitted
  refine ⟨?_, fun auth now hpermitted => complies_settle hpermitted⟩
  intro e he
  have hkeeps : ∀ other : LocalChain, ∀ tx ∈ system.chain.mempool,
      other.ruleHooks.get? wallet = some rules.hook →
      (other.execute tx).2.ruleHooks.get? wallet = some rules.hook := by
    intro other tx _ hother
    rw [ruleHooks_execute]
    exact hother
  have hinit : { system.chain with mempool := [] }.ruleHooks.get? wallet = some rules.hook :=
    hguarded.hook
  obtain ⟨htx, hhook, hafter⟩ := mem_executions hkeeps hinit he
  rw [hafter]
  exact complies_execute hwallet hcap hallowlist hhook (hguarded.pending _ htx)

section Samples

open SettledCaps Conservation

/-- At most 100 TUSDC at a time, and to the vendor. -/
def vendorRules : ContractWalletRules := .init 100 ["vendor".toList] []

def deployed : System :=
  ⟨deployContractWallet (.new 1000000 500000 31337) walletAddress vendorRules, .init⟩

instance : DecidablePred (Permitted vendorRules walletAddress)
  | .submit tx => decidable_of_iff (tx.sender = walletAddress → tx.kind = .swap →
      tx.amountIn ≤ 100 ∧ tx.tokenIn ∈ [usdc] ∧ LocalChain.pool ∈ ["vendor".toList])
      ⟨fun h hsender hkind => ⟨(h hsender hkind).1, (h hsender hkind).2.1, (h hsender hkind).2.2⟩,
        fun h hsender hkind =>
          ⟨(h hsender hkind).capped, (h hsender hkind).asset, (h hsender hkind).payee⟩⟩
  | .settle auth _ => decidable_of_iff (auth.payer = walletAddress →
      auth.requirements.amount ≤ 100 ∧ auth.requirements.asset ∈ [usdc] ∧
        auth.requirements.payTo ∈ ["vendor".toList])
      ⟨fun h hpayer => ⟨(h hpayer).1, (h hpayer).2.1, (h hpayer).2.2⟩,
        fun h hpayer => ⟨(h hpayer).capped, (h hpayer).asset, (h hpayer).payee⟩⟩
  | .registerRuleHook address _ => inferInstanceAs (Decidable (address ≠ walletAddress))
  | .mint _ _ _ => .isTrue trivial
  | .mineBlock => .isTrue trivial

/-- A settlement, a payment within the rules, one above the cap and one to a stranger. -/
def vendorTrace : List Call := [
  .mint usdc walletAddress 1000,
  .settle (authorization (requirements 50 "vendor".toList "n1".toList)) 0,
  .submit (transferOrder 0 60 usdc "vendor".toList),
  .submit (transferOrder 1 500 usdc "vendor".toList),
  .submit (transferOrder 2 10 usdc "stranger".toList)]

def vendorSystem : System := vendorTrace.foldl (System.perform plainHost) deployed

/-- What the wallet pays in an execution. -/
def paid (e : Execution) : Int :=
  balanceOf e.before.tokens usdc walletAddress - balanceOf e.after.tokens usdc walletAddress

theorem vendorTrace_complies :
    (blockExecutions vendorSystem.chain).map paid = [60, 0, 0] ∧
      (∀ e ∈ blockExecutions vendorSystem.chain,
        Complies vendorRules walletAddress e.before.tokens e.after.tokens) ∧
      Complies vendorRules walletAddress vendorSystem.chain.tokens
        (vendorSystem.facilitator.settle plainHost vendorSystem.chain
          (authorization (requirements 70 "vendor".toList "n2".toList)) 0).2.2.tokens := by
  have hfacts : Run.Follows (fun _ call => Permitted vendorRules walletAddress call)
        (System.perform plainHost) deployed vendorTrace ∧
      (blockExecutions vendorSystem.chain).map paid = [60, 0, 0] ∧
      walletAddress ≠ LocalChain.pool := by
    decide +kernel
  obtain ⟨hfollows, hpaid, hwallet⟩ := hfacts
  have hrun : Run (Steps plainHost (Permitted vendorRules walletAddress)) deployed vendorTrace
      vendorSystem := hfollows.run
  obtain ⟨hblock, hsettle⟩ :=
    contractWallet_complies hwallet (by decide) (by decide) (by simp [LocalChain.new]) hrun
  exact ⟨hpaid, hblock, hsettle _ 0 fun _ => ⟨by decide, by decide, by decide⟩⟩

/-- A swap of the wallet for five times the cap. -/
def swapTrace : List Call :=
  [.mint usdc walletAddress 1000, .submit (swapOrder 0 500 0 usdc drb)]

def swapSystem : System := swapTrace.foldl (System.perform plainHost) deployed

def strangerPayment : PaymentAuthorization :=
  authorization (requirements 500 "stranger".toList "n1".toList)

theorem not_complies_of_paid {before after : Tokens}
    (h : balanceOf before usdc walletAddress - balanceOf after usdc walletAddress = 500) :
    ¬ Complies vendorRules walletAddress before after := by
  intro hcomplies
  obtain ⟨_, hpermits, _⟩ := hcomplies usdc (by omega)
  have hcapped := hpermits.capped
  rw [h] at hcapped
  exact absurd hcapped (by decide)

/-- The swap is executed, and a settlement for a stranger is paid. -/
theorem rules_bypassed :
    Run (Steps plainHost fun _ => True) deployed swapTrace swapSystem ∧
      (∃ e ∈ blockExecutions swapSystem.chain, paid e = 500 ∧
        ¬ Complies vendorRules walletAddress e.before.tokens e.after.tokens) ∧
      ∃ facilitator chain, swapSystem.facilitator.settle plainHost swapSystem.chain
          strangerPayment 0 = (.ok (true, "settled"), facilitator, chain) ∧
        ¬ Complies vendorRules walletAddress swapSystem.chain.tokens chain.tokens := by
  have hfacts : Run.Follows (fun _ _ => True) (System.perform plainHost) deployed swapTrace ∧
      500 ∈ (blockExecutions swapSystem.chain).map paid ∧
      (swapSystem.facilitator.settle plainHost swapSystem.chain strangerPayment 0).1 =
        .ok (true, "settled") ∧
      balanceOf swapSystem.chain.tokens usdc walletAddress - balanceOf
        (swapSystem.facilitator.settle plainHost swapSystem.chain strangerPayment 0).2.2.tokens
        usdc walletAddress = 500 := by
    decide +kernel
  obtain ⟨hfollows, hswap, hsettled, hdrop⟩ := hfacts
  have hrun : Run (Steps plainHost fun _ => True) deployed swapTrace swapSystem := hfollows.run
  obtain ⟨e, he, hpaid⟩ := List.mem_map.mp hswap
  generalize swapSystem.facilitator.settle plainHost swapSystem.chain strangerPayment 0 =
    settled at hsettled hdrop ⊢
  obtain ⟨result, facilitator, chain⟩ := settled
  exact ⟨hrun, ⟨e, he, hpaid, not_complies_of_paid hpaid⟩, facilitator, chain,
    Prod.ext hsettled rfl, not_complies_of_paid hdrop⟩

end Samples

end AegisLedger.Wallet.ContractRules
