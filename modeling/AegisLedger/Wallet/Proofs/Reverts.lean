import AegisLedger.Wallet.Proofs.Conservation

/-!
# Reverted transactions

The executor turns a refused transaction into a receipt but takes nothing back.  A transfer
is refused before it writes.  A swap moves the reserves of the pool first, and each of its
two payments can still be refused: the input if it is not positive, the output if the pool
quotes nothing for the input or its account does not hold the quote.
-/

namespace AegisLedger.Wallet.Reverts

open AegisLedger.Support Checks Dict Balances
open AegisLedger.Gateway (Host)

/-- Every balance and both reserves are as they were. -/
structure Unchanged (chain after : LocalChain) : Prop where
  balances : ∀ asset address,
    balanceOf after.tokens asset address = balanceOf chain.tokens asset address
  amm : after.amm = chain.amm

/-- The rules of the sender pass, both tokens exist, the sender holds the input and the pool
quotes `out`, no less than the bound. -/
structure ReachesPool (chain : LocalChain) (tx : Tx) (out : Int) : Prop where
  kind : tx.kind = .swap
  hook : HookPasses chain tx
  tokenIn : (chain.tokens.get? tx.tokenIn).isSome = true
  tokenOut : (chain.tokens.get? tx.tokenOut).isSome = true
  funds : tx.amountIn ≤ balanceOf chain.tokens tx.tokenIn tx.sender
  quote : chain.amm.quote tx.tokenIn tx.amountIn = .ok out
  bound : tx.minOut ≤ out

/-- What the account of the pool holds of the output token once the input is paid. -/
def poolFunds (chain : LocalChain) (tx : Tx) : Int :=
  balanceOf chain.tokens tx.tokenOut LocalChain.pool +
    if tx.tokenIn = tx.tokenOut ∧ tx.sender ≠ LocalChain.pool then tx.amountIn else 0

/-- A swap that gets to the pool is of nothing, or of a positive amount for which the pool
quotes a positive amount that its account holds. -/
def Covered (chain : LocalChain) (tx : Tx) : Prop :=
  ∀ out, ReachesPool chain tx out →
    tx.amountIn = 0 ∨ (0 < tx.amountIn ∧ 0 < out ∧ out ≤ poolFunds chain tx)

section Payment

variable (chain : LocalChain) {asset source : Str} (target : Str) {amount : Int}

/-- The two exceptions that the executor turns into a receipt. -/
def Reverting (error : ChainError) : Prop :=
  ∃ message, error = .insufficientFunds message ∨ error = .ruleViolation message

theorem transferToken_refused (hknown : (chain.tokens.get? asset).isSome = true)
    (h : ¬(0 < amount ∧ amount ≤ balanceOf chain.tokens asset source)) :
    ∃ error, chain.transferToken asset source target amount = .error error ∧
      Reverting error := by
  obtain ⟨token, htoken⟩ := Option.isSome_iff_exists.mp hknown
  rw [balanceOf, htoken] at h
  change ¬(0 < amount ∧ amount ≤ token.balance source) at h
  rw [LocalChain.transferToken, htoken]
  simp only [orRaise, ok_bind]
  unfold TestToken.transfer raiseIf
  by_cases hpositive : amount ≤ 0
  · rw [if_pos hpositive]
    exact ⟨_, rfl, _, .inr rfl⟩
  · have hshort : token.balance source < amount := by
      by_contra hcovered
      exact h ⟨by omega, by omega⟩
    rw [if_neg hpositive, if_pos hshort]
    exact ⟨_, rfl, _, .inl rfl⟩

theorem transferToken_accepted (hknown : (chain.tokens.get? asset).isSome = true)
    (hpositive : 0 < amount) (hcovered : amount ≤ balanceOf chain.tokens asset source) :
    ∃ after, chain.transferToken asset source target amount = .ok after := by
  obtain ⟨token, htoken⟩ := Option.isSome_iff_exists.mp hknown
  rw [balanceOf, htoken] at hcovered
  change amount ≤ token.balance source at hcovered
  rw [LocalChain.transferToken, htoken]
  simp only [orRaise, ok_bind]
  unfold TestToken.transfer raiseIf
  rw [if_neg (by omega), if_neg (by omega)]
  exact ⟨_, rfl⟩

end Payment

section Swap

variable {chain after : LocalChain} {tx : Tx} {out : Int} {error : ChainError}

theorem poolFunds_of_moves {tokens : Tokens}
    (h : Moves chain.tokens ⟨tx.tokenIn, tx.sender, LocalChain.pool, tx.amountIn⟩ tokens) :
    balanceOf tokens tx.tokenOut LocalChain.pool = poolFunds chain tx := by
  rw [h.balance, Move.debit, Move.credit, poolFunds]
  dsimp only
  by_cases htoken : tx.tokenOut = tx.tokenIn
  · by_cases hsender : LocalChain.pool = tx.sender
    · rw [if_pos ⟨htoken, hsender⟩, if_pos ⟨htoken, rfl⟩, if_neg fun h => h.2 hsender.symm]
      omega
    · rw [if_neg fun h => hsender h.2, if_pos ⟨htoken, rfl⟩,
        if_pos ⟨htoken.symm, fun h => hsender h.symm⟩]
      omega
  · rw [if_neg fun h => htoken h.1, if_neg fun h => htoken h.1, if_neg fun h => htoken h.1.symm]
    omega

/-- The chain once the pool has moved. -/
def swapped (chain : LocalChain) (tx : Tx) (out : Int) : LocalChain :=
  { chain with amm := Pool.exchanged chain.amm tx.tokenIn tx.amountIn out }

theorem swapped_ne (hamount : tx.amountIn ≠ 0) : (swapped chain tx out).amm ≠ chain.amm := by
  intro hsame
  change Pool.exchanged chain.amm tx.tokenIn tx.amountIn out = chain.amm at hsame
  unfold Pool.exchanged at hsame
  split_ifs at hsame
  · have ha := congrArg ConstantProductAMM.a hsame
    simp only at ha
    omega
  · have hb := congrArg ConstantProductAMM.b hsame
    simp only at hb
    omega

theorem attempt_of_hookPasses (hhook : HookPasses chain tx) (hkind : tx.kind = .swap) :
    chain.attempt tx = chain.executeSwap tx := by
  rw [LocalChain.attempt]
  cases hget : chain.ruleHooks.get? tx.sender with
  | none => rw [hkind]
  | some hook =>
    dsimp only
    rw [hhook hook hget, hkind]

theorem attempt_of_reachesPool (h : ReachesPool chain tx out) :
    chain.attempt tx =
      match (swapped chain tx out).transferToken tx.tokenIn tx.sender LocalChain.pool
          tx.amountIn with
      | .error error => (.error error, swapped chain tx out)
      | .ok paid =>
        match paid.transferToken tx.tokenOut LocalChain.pool tx.sender out with
        | .error error => (.error error, paid)
        | .ok received => (.ok out, received) := by
  obtain ⟨tokenIn, hin⟩ := Option.isSome_iff_exists.mp h.tokenIn
  obtain ⟨tokenOut, hout⟩ := Option.isSome_iff_exists.mp h.tokenOut
  have hfunds := h.funds
  rw [balanceOf, hin] at hfunds
  change tx.amountIn ≤ tokenIn.balance tx.sender at hfunds
  have hswap := Pool.swap_eq_ok_iff.mpr ⟨h.quote, h.bound, rfl⟩
  rw [attempt_of_hookPasses h.hook h.kind, LocalChain.executeSwap, hin, hout]
  dsimp only
  rw [if_neg (not_lt.mpr hfunds), hswap]
  rfl

/-- A transaction is refused with nothing written, is a transfer that is paid, or gets to the
pool. -/
theorem attempt_cases {result : Except ChainError Int} (h : chain.attempt tx = (result, after)) :
    (∃ error, result = .error error ∧ after = chain) ∨
      (tx.kind = .transfer ∧ result = .ok 0) ∨ ∃ out, ReachesPool chain tx out := by
  rw [LocalChain.attempt] at h
  split at h
  · exact .inl ⟨_, (Prod.mk.inj h).1.symm, (Prod.mk.inj h).2.symm⟩
  rename_i hchecked
  have hhook : HookPasses chain tx := by
    intro hook hget
    rw [hget] at hchecked
    exact hchecked
  cases hkind : tx.kind with
  | transfer =>
    rw [hkind] at h
    dsimp only at h
    rw [LocalChain.executeTransfer] at h
    split at h
    · exact .inl ⟨_, (Prod.mk.inj h).1.symm, (Prod.mk.inj h).2.symm⟩
    · split at h
      · exact .inl ⟨_, (Prod.mk.inj h).1.symm, (Prod.mk.inj h).2.symm⟩
      · exact .inr (.inl ⟨rfl, (Prod.mk.inj h).1.symm⟩)
  | swap =>
    rw [hkind] at h
    dsimp only at h
    rw [LocalChain.executeSwap] at h
    split at h
    · exact .inl ⟨_, (Prod.mk.inj h).1.symm, (Prod.mk.inj h).2.symm⟩
    · exact .inl ⟨_, (Prod.mk.inj h).1.symm, (Prod.mk.inj h).2.symm⟩
    · rename_i tokenIn tokenOut hin hout
      split_ifs at h with hfunds
      · exact .inl ⟨_, (Prod.mk.inj h).1.symm, (Prod.mk.inj h).2.symm⟩
      cases hswap : chain.amm.swap tx.tokenIn tx.amountIn tx.minOut with
      | error error =>
        rw [hswap] at h
        exact .inl ⟨_, (Prod.mk.inj h).1.symm, (Prod.mk.inj h).2.symm⟩
      | ok result =>
        obtain ⟨out, amm⟩ := result
        obtain ⟨hquote, hbound, -⟩ := Pool.swap_eq_ok_iff.mp hswap
        refine .inr (.inr ⟨out, hkind, hhook, ?_, ?_, ?_, hquote, hbound⟩)
        · rw [hin]
          rfl
        · rw [hout]
          rfl
        · rw [balanceOf, hin]
          exact not_lt.mp hfunds

/-- What a swap receives is positive and no less than its bound. -/
theorem received_of_attempt (hkind : tx.kind = .swap) (h : chain.attempt tx = (.ok out, after)) :
    tx.minOut ≤ out ∧ 0 < out := by
  rcases attempt_cases h with ⟨_, herror, -⟩ | ⟨htransfer, -⟩ | ⟨quoted, hreaches⟩
  · cases herror
  · rw [hkind] at htransfer
    cases htransfer
  rw [attempt_of_reachesPool hreaches] at h
  split at h
  · cases (Prod.mk.inj h).1
  split at h
  · cases (Prod.mk.inj h).1
  rename_i hreceived
  obtain ⟨tokens, -, hmoves⟩ := transferToken_eq_ok hreceived
  rw [← Except.ok.inj (Prod.mk.inj h).1]
  exact ⟨hreaches.bound, hmoves.positive⟩

/-- A swap that gets to the pool goes through if its payments are covered. -/
theorem attempt_of_covered (hreaches : ReachesPool chain tx out) (hpositive : 0 < tx.amountIn)
    (hout : 0 < out) (hfunds : out ≤ poolFunds chain tx) :
    ∃ after, chain.attempt tx = (.ok out, after) := by
  obtain ⟨paid, hpaid⟩ := transferToken_accepted (swapped chain tx out) LocalChain.pool
    hreaches.tokenIn hpositive hreaches.funds
  obtain ⟨tokens, rfl, hmoves⟩ := transferToken_eq_ok hpaid
  have hknown : (tokens.get? tx.tokenOut).isSome = true :=
    (hmoves.known tx.tokenOut).trans hreaches.tokenOut
  have hheld : out ≤ balanceOf tokens tx.tokenOut LocalChain.pool := by
    rw [poolFunds_of_moves hmoves]
    exact hfunds
  obtain ⟨received, hreceived⟩ := transferToken_accepted
    { swapped chain tx out with tokens := tokens } tx.sender hknown hout hheld
  refine ⟨received, ?_⟩
  rw [attempt_of_reachesPool hreaches, hpaid]
  dsimp only
  rw [hreceived]

/-- A covered swap that gets to the pool moves nothing or goes through. -/
theorem unchanged_of_reachesPool (hreaches : ReachesPool chain tx out)
    (hcovered : tx.amountIn = 0 ∨ (0 < tx.amountIn ∧ 0 < out ∧ out ≤ poolFunds chain tx))
    (h : chain.attempt tx = (.error error, after)) : Unchanged chain after := by
  rcases hcovered with hzero | ⟨hpositive, hout, hfunds⟩
  · have hswap := Pool.swap_eq_ok_iff.mpr ⟨hreaches.quote, hreaches.bound, rfl⟩
    rw [hzero] at hswap
    have hsame : swapped chain tx out = chain := by
      rw [swapped, hzero, Pool.swap_zero hswap]
    have hzeroRefused : ¬(0 < tx.amountIn ∧
        tx.amountIn ≤ balanceOf chain.tokens tx.tokenIn tx.sender) := by omega
    obtain ⟨refusal, hrefused, -⟩ := transferToken_refused chain LocalChain.pool hreaches.tokenIn
      hzeroRefused
    rw [attempt_of_reachesPool hreaches, hsame, hrefused] at h
    rw [← (Prod.mk.inj h).2]
    exact ⟨fun _ _ => rfl, rfl⟩
  · obtain ⟨received, hreceived⟩ := attempt_of_covered hreaches hpositive hout hfunds
    rw [hreceived] at h
    cases (Prod.mk.inj h).1

/-- A swap that is not covered is refused with the pool moved. -/
theorem reverted_of_not_covered (hreaches : ReachesPool chain tx out) (hamount : tx.amountIn ≠ 0)
    (hshort : ¬(0 < tx.amountIn ∧ 0 < out ∧ out ≤ poolFunds chain tx)) :
    ∃ error after, chain.attempt tx = (.error error, after) ∧ Reverting error ∧
      after.amm ≠ chain.amm := by
  rw [attempt_of_reachesPool hreaches]
  by_cases hpositive : 0 < tx.amountIn
  · obtain ⟨paid, hpaid⟩ := transferToken_accepted (swapped chain tx out) LocalChain.pool
      hreaches.tokenIn hpositive hreaches.funds
    obtain ⟨tokens, rfl, hmoves⟩ := transferToken_eq_ok hpaid
    have hknown : (tokens.get? tx.tokenOut).isSome = true :=
      (hmoves.known tx.tokenOut).trans hreaches.tokenOut
    have hunheld : ¬(0 < out ∧ out ≤ balanceOf tokens tx.tokenOut LocalChain.pool) := by
      rw [poolFunds_of_moves hmoves]
      exact fun h => hshort ⟨hpositive, h⟩
    obtain ⟨refusal, hrefused, hreverting⟩ := transferToken_refused
      { swapped chain tx out with tokens := tokens } tx.sender hknown hunheld
    rw [hpaid]
    dsimp only
    rw [hrefused]
    exact ⟨refusal, _, rfl, hreverting, swapped_ne hamount⟩
  · obtain ⟨refusal, hrefused, hreverting⟩ := transferToken_refused (swapped chain tx out)
      LocalChain.pool hreaches.tokenIn fun h => hpositive h.1
    rw [hrefused]
    exact ⟨refusal, _, rfl, hreverting, swapped_ne hamount⟩

theorem execute_of_reverting (h : chain.attempt tx = (.error error, after))
    (hreverting : Reverting error) :
    ∃ receipt, chain.execute tx = (.ok receipt, after) ∧ receipt.success = false := by
  rw [LocalChain.execute, h]
  obtain ⟨message, rfl | rfl⟩ := hreverting
  · exact ⟨_, rfl, rfl⟩
  · exact ⟨_, rfl, rfl⟩

/-- A receipt reports what the attempt came to. -/
theorem attempt_of_execute {receipt : Receipt} (h : chain.execute tx = (.ok receipt, after)) :
    (receipt.success = true ∧ chain.attempt tx = (.ok receipt.amountOut, after)) ∨
      (receipt.success = false ∧ ∃ error, chain.attempt tx = (.error error, after)) := by
  rw [LocalChain.execute] at h
  cases hattempt : chain.attempt tx with
  | mk result state =>
    rw [hattempt] at h
    cases result with
    | ok amountOut =>
      obtain ⟨hreceipt, rfl⟩ := Prod.mk.inj h
      rw [← Except.ok.inj hreceipt]
      exact .inl ⟨rfl, rfl⟩
    | error error =>
      cases error with
      | insufficientFunds message =>
        obtain ⟨hreceipt, rfl⟩ := Prod.mk.inj h
        rw [← Except.ok.inj hreceipt]
        exact .inr ⟨rfl, _, rfl⟩
      | ruleViolation message =>
        obtain ⟨hreceipt, rfl⟩ := Prod.mk.inj h
        rw [← Except.ok.inj hreceipt]
        exact .inr ⟨rfl, _, rfl⟩
      | keyError key => cases (Prod.mk.inj h).1
      | zeroDivision => cases (Prod.mk.inj h).1
      | foreign => cases (Prod.mk.inj h).1

end Swap

/-! ## The effect of a reverted transaction -/

/-- A transaction leaves nothing behind when it fails exactly if it is no swap that the pool
takes part in and that is then refused. -/
theorem reverted_unchanged_iff (chain : LocalChain) (tx : Tx) :
    (∀ receipt after, chain.execute tx = (.ok receipt, after) → receipt.success = false →
      Unchanged chain after) ↔ Covered chain tx := by
  constructor
  · intro hunchanged out hreaches
    by_contra hshort
    rw [not_or] at hshort
    obtain ⟨error, after, hattempt, hreverting, hmoved⟩ :=
      reverted_of_not_covered hreaches hshort.1 hshort.2
    obtain ⟨receipt, hexecute, hfailed⟩ := execute_of_reverting hattempt hreverting
    exact hmoved (hunchanged receipt after hexecute hfailed).amm
  · intro hcovered receipt after hexecute hfailed
    rcases attempt_of_execute hexecute with ⟨hsuccess, -⟩ | ⟨-, error, hattempt⟩
    · rw [hfailed] at hsuccess
      cases hsuccess
    rcases attempt_cases hattempt with ⟨-, -, rfl⟩ | ⟨-, hpaid⟩ | ⟨out, hreaches⟩
    · exact ⟨fun _ _ => rfl, rfl⟩
    · cases hpaid
    · exact unchanged_of_reachesPool hreaches (hcovered out hreaches) hattempt

section Samples

open Conservation SettledCaps

/-- One unit is too little for the pool to give anything. -/
def dustOrder : Tx := swapOrder 0 1 0 usdc drb

/-- The chain on which the wallet has submitted it. -/
def dustChain : LocalChain :=
  (systemAfter [.mint usdc walletAddress 1000, .submit dustOrder]).chain

/-- The swap is reported as failed, and the unit is gone. -/
theorem dustOrder_keepsTheInput :
    dustChain.mempool = [dustOrder] ∧
      ∃ receipt after, dustChain.execute dustOrder = (.ok receipt, after) ∧
        receipt.success = false ∧ receipt.error = "non-positive transfer".toList ∧
        balanceOf dustChain.tokens usdc walletAddress = 1000 ∧
        balanceOf after.tokens usdc walletAddress = 999 ∧
        dustChain.amm = ⟨1000000, 500000⟩ ∧ after.amm = ⟨1000001, 500000⟩ := by
  have hfacts : dustChain.mempool = [dustOrder] ∧
      (dustChain.execute dustOrder).1 =
        .ok ⟨dustOrder, false, 0, "non-positive transfer".toList⟩ ∧
      balanceOf dustChain.tokens usdc walletAddress = 1000 ∧
      balanceOf (dustChain.execute dustOrder).2.tokens usdc walletAddress = 999 ∧
      dustChain.amm = ⟨1000000, 500000⟩ ∧
      (dustChain.execute dustOrder).2.amm = ⟨1000001, 500000⟩ := by decide +kernel
  generalize dustChain.execute dustOrder = result at hfacts ⊢
  obtain ⟨outcome, after⟩ := result
  obtain ⟨hmempool, hreceipt, hfacts⟩ := hfacts
  exact ⟨hmempool, _, after, congrArg (·, after) hreceipt, rfl, rfl, hfacts⟩

end Samples

end AegisLedger.Wallet.Reverts
