import AegisLedger.Wallet.Proofs.Reverts

/-!
# The terms of a swap

The engine evaluates a swap by the field `asset` and by the ratio of `min_out` to
`quoted_out`, the transaction carries `token_in`, `token_out` and `min_out`.  Nothing ties
`asset` to the tokens, and the ratio is not looked at when `min_out` is zero, so the two say
the same only under conditions on the proposal.
-/

namespace AegisLedger.Wallet.SwapTerms

open AegisLedger.Support HexText Checks Dict Balances Evaluation Reverts
open AegisLedger.Gateway (Host addressOf)

section Proposal

variable {platform : Platform} {engine : PolicyEngine} {p : Proposal}
  {mandateChain : Option MandateChain} {readings : Readings} {verdict : Verdict}
  {guard : AgentGuard} {chain : LocalChain} {decisionHash : Str} {tx : Tx}

/-! ## Assets -/

/-- An allowed swap is evaluated in an allowed asset; it trades allowed assets exactly if the
two tokens of the proposal are such. -/
theorem allowed_swap_assets_iff (hkind : p.kind = "swap".toList)
    (hevaluate : engine.evaluate platform p mandateChain readings = .ok verdict)
    (hallow : verdict.allow = true)
    (htx : guard.toTx platform.toHost chain p decisionHash = .ok tx) :
    p.asset ∈ engine.policy.allowedAssets ∧
      ((tx.tokenIn ∈ engine.policy.allowedAssets ∧ tx.tokenOut ∈ engine.policy.allowedAssets) ↔
        (p.tokenIn ∈ engine.policy.allowedAssets ∧
          p.tokenOut ∈ engine.policy.allowedAssets)) := by
  have hswap := swapOf_toTx hkind htx
  rw [hswap.tokenIn, hswap.tokenOut]
  exact ⟨(allows_of_evaluate hevaluate hallow).asset, Iff.rfl⟩

section Samples

open SettledCaps Conservation

def tradingPolicy : Policy := { hourlyPolicy with
  allowedAssets := [usdc, drb]
  risk := ⟨true, 100, 50⟩ }

/-- A swap with the default tokens. -/
def swapProposal (minOut quotedOut : Int) : Proposal := { payment with
  kind := "swap".toList
  minOut := minOut
  quotedOut := quotedOut }

def instant : Readings := ⟨fun _ => 0, 0, 0, 0⟩

def guardWith (policy : Policy) : AgentGuard :=
  .init ⟨policy, [], 0⟩ walletKeys walletKeys "policy".toList

/-- The transaction that a guard builds for a proposal on the funded chain. -/
def transactionOf (p : Proposal) : Except ChainError Tx :=
  (guardWith tradingPolicy).toTx plainPlatform.toHost fundedChain p "decision".toList

theorem tradingPolicy_swap :
    usdc ∈ tradingPolicy.allowedAssets ∧
      ∃ tx, transactionOf (swapProposal 49 49) = .ok tx ∧
        tx.tokenIn ∈ tradingPolicy.allowedAssets ∧ tx.tokenOut ∈ tradingPolicy.allowedAssets := by
  have hevaluate : PolicyEngine.evaluate plainPlatform ⟨tradingPolicy, [], 0⟩
      (swapProposal 49 49) none instant = .ok ⟨true, []⟩ := by decide +kernel
  have hbuilt : (transactionOf (swapProposal 49 49)).isOk = true := by decide +kernel
  obtain ⟨tx, htx⟩ := exists_eq_ok hbuilt
  obtain ⟨hasset, hiff⟩ := allowed_swap_assets_iff rfl hevaluate rfl htx
  exact ⟨hasset, tx, htx, hiff.mpr ⟨by decide, by decide⟩⟩

/-- The policy allows TUSDC alone, and allows the default swap into DRB. -/
theorem hourlyPolicy_swap_trades_drb :
    hourlyPolicy.allowedAssets = [usdc] ∧
      PolicyEngine.evaluate plainPlatform ⟨hourlyPolicy, [], 0⟩ (swapProposal 49 49) none
        instant = .ok ⟨true, []⟩ ∧
      ∃ tx, (guardWith hourlyPolicy).toTx plainPlatform.toHost fundedChain (swapProposal 49 49)
          "decision".toList = .ok tx ∧
        tx.tokenOut = drb ∧ tx.tokenOut ∉ hourlyPolicy.allowedAssets := by
  have hfacts : hourlyPolicy.allowedAssets = [usdc] ∧
      PolicyEngine.evaluate plainPlatform ⟨hourlyPolicy, [], 0⟩ (swapProposal 49 49) none
        instant = .ok ⟨true, []⟩ ∧
      ((guardWith hourlyPolicy).toTx plainPlatform.toHost fundedChain (swapProposal 49 49)
        "decision".toList).map (·.tokenOut) = .ok drb := by decide +kernel
  obtain ⟨hassets, hevaluate, htoken⟩ := hfacts
  obtain ⟨tx, htx, hout⟩ := map_eq_ok htoken
  refine ⟨hassets, hevaluate, tx, htx, hout, ?_⟩
  rw [hout, hassets]
  decide

end Samples

/-! ## Slippage -/

/-- What the proposal gets is within the tolerance of the policy. -/
def WithinTolerance (policy : Policy) (p : Proposal) (out : Int) : Prop :=
  (p.quotedOut - out) * 10000 < ((policy.risk.maxSlippageBps : Int) + 1) * p.quotedOut

theorem WithinTolerance.mono {policy : Policy} {out more : Int}
    (h : WithinTolerance policy p out) (hle : out ≤ more) : WithinTolerance policy p more := by
  unfold WithinTolerance at h ⊢
  omega

/-- A bound that the engine has looked at is within the tolerance. -/
theorem withinTolerance_minOut (hkind : p.kind = "swap".toList)
    (htight : engine.policy.risk.dynamicTightening = true) (hquoted : 0 < p.quotedOut)
    (hmin : p.minOut ≠ 0) (hrisk : engine.riskReasons p = []) :
    WithinTolerance engine.policy p p.minOut := by
  rw [PolicyEngine.riskReasons, if_pos ⟨hkind, htight⟩, if_pos ⟨hquoted.ne', hmin⟩] at hrisk
  simp only [List.append_eq_nil_iff, noteIf_eq_nil, not_lt] at hrisk
  have hslip := hrisk.2
  rw [max_eq_left hquoted, Int.fdiv_eq_ediv_of_nonneg _ hquoted.le,
    ← Int.lt_add_one_iff, Int.ediv_lt_iff_lt_mul hquoted] at hslip
  exact hslip

/-! ### A pool that pays one unit -/

/-- The reserves at which `amount` of a token is paid with one unit of the other. -/
def tightReserves (tokenIn : Str) (amount : Int) : ConstantProductAMM :=
  if tokenIn = "TUSDC".toList then ⟨amount * 9970, 10001⟩ else ⟨10001, amount * 9970⟩

theorem quote_tightReserves (tokenIn : Str) {amount : Int} (hamount : 0 < amount) :
    (tightReserves tokenIn amount).quote tokenIn amount = .ok 1 := by
  have hreserves :
      Pool.reserves (tightReserves tokenIn amount) tokenIn = (amount * 9970, 10001) := by
    unfold Pool.reserves tightReserves
    split_ifs <;> rfl
  have hpositive : Pool.Positive (tightReserves tokenIn amount) := by
    rw [Pool.positive_iff tokenIn, hreserves]
    dsimp only
    omega
  have hdivisor : amount * 9970 * 10000 + amount * 9970 = amount * 9970 * 10001 := by ring
  rw [Pool.quote_eq hpositive hamount.le, hreserves]
  change Except.ok ((amount * 9970 * 10001).fdiv (amount * 9970 * 10000 + amount * 9970)) = _
  rw [hdivisor, Int.fdiv_self (by omega)]

/-- The balances of a token of which `sender` holds `amount` and the pool one unit. -/
def tightToken (sender : Str) (amount : Int) : TestToken :=
  TestToken.mint (TestToken.mint .empty sender amount) LocalChain.pool 1

/-- A chain on which `tx` is paid with one unit. -/
def tightChain (tx : Tx) : LocalChain where
  tokens := (Dict.empty.set tx.tokenOut (tightToken tx.sender tx.amountIn)).set tx.tokenIn
    (tightToken tx.sender tx.amountIn)
  amm := tightReserves tx.tokenIn tx.amountIn
  mempool := []
  blocks := []
  clock := 0
  chainId := tx.chainId
  nextNonces := .empty
  ruleHooks := .empty

theorem balance_tightToken (sender : Str) {amount : Int} (hamount : 0 < amount) :
    amount ≤ (tightToken sender amount).balance sender ∧
      1 ≤ (tightToken sender amount).balance LocalChain.pool := by
  unfold tightToken TestToken.mint TestToken.balance
  simp only [get?_set, get?_empty]
  by_cases hsender : sender = LocalChain.pool
  · simp [hsender]
    omega
  · simp [hsender, Ne.symm hsender]

theorem get?_tightChain {asset : Str} (h : asset = tx.tokenIn ∨ asset = tx.tokenOut) :
    (tightChain tx).tokens.get? asset = some (tightToken tx.sender tx.amountIn) := by
  change ((Dict.empty.set _ _).set _ _).get? asset = _
  rw [get?_set, get?_set]
  split_ifs with hin hout
  · rfl
  · rfl
  · exact absurd h (not_or.mpr ⟨hin, hout⟩)

theorem execute_tightChain (hkind : tx.kind = .swap) (hamount : 0 < tx.amountIn)
    (hmin : tx.minOut ≤ 1) :
    ∃ receipt after, (tightChain tx).execute tx = (.ok receipt, after) ∧
      receipt.success = true ∧ receipt.amountOut = 1 := by
  have hbalance := balance_tightToken tx.sender hamount
  have hin := get?_tightChain (.inl rfl : tx.tokenIn = tx.tokenIn ∨ tx.tokenIn = tx.tokenOut)
  have hout := get?_tightChain (.inr rfl : tx.tokenOut = tx.tokenIn ∨ tx.tokenOut = tx.tokenOut)
  have hreaches : ReachesPool (tightChain tx) tx 1 := by
    refine ⟨hkind, ?_, ?_, ?_, ?_, quote_tightReserves tx.tokenIn hamount, hmin⟩
    · intro hook hget
      cases hget
    · rw [hin]
      rfl
    · rw [hout]
      rfl
    · rw [balanceOf, hin]
      exact hbalance.1
  have hfunds : 1 ≤ poolFunds (tightChain tx) tx := by
    have hheld : 1 ≤ balanceOf (tightChain tx).tokens tx.tokenOut LocalChain.pool := by
      rw [balanceOf, hout]
      exact hbalance.2
    rw [poolFunds]
    split_ifs <;> omega
  obtain ⟨after, hattempt⟩ := attempt_of_covered hreaches hamount one_pos hfunds
  refine ⟨⟨tx, true, 1, []⟩, after, ?_, rfl, rfl⟩
  rw [LocalChain.execute, hattempt]

/-! ### The bound at execution -/

/-- What an allowed swap gets is within the tolerance in every later state of the chain
exactly if the engine had a bound to look at, or any amount is within it. -/
theorem slippage_protected_iff (hkind : p.kind = "swap".toList)
    (htight : engine.policy.risk.dynamicTightening = true) (hquoted : 0 < p.quotedOut)
    (hevaluate : engine.evaluate platform p mandateChain readings = .ok verdict)
    (hallow : verdict.allow = true)
    (htx : guard.toTx platform.toHost chain p decisionHash = .ok tx) :
    (∀ (later : LocalChain) (receipt : Receipt) (after : LocalChain),
      later.execute tx = (.ok receipt, after) → receipt.success = true →
        WithinTolerance engine.policy p receipt.amountOut) ↔
      (p.minOut ≠ 0 ∨ WithinTolerance engine.policy p 1) := by
  have hallows := allows_of_evaluate hevaluate hallow
  have hswap := swapOf_toTx hkind htx
  constructor
  · intro hprotected
    by_cases hmin : p.minOut = 0
    · have hamount : 0 < tx.amountIn := by
        rw [hswap.amountIn]
        exact hallows.amount_pos
      have hbound : tx.minOut ≤ 1 := by
        rw [hswap.minOut, hmin]
        exact zero_le_one
      obtain ⟨receipt, after, hexecute, hsuccess, hout⟩ :=
        execute_tightChain hswap.kind hamount hbound
      have hwithin := hprotected _ receipt after hexecute hsuccess
      rw [hout] at hwithin
      exact .inr hwithin
    · exact .inl hmin
  · intro hcondition later receipt after hexecute hsuccess
    rcases attempt_of_execute hexecute with ⟨-, hattempt⟩ | ⟨hfailed, -⟩
    · obtain ⟨hbound, hpositive⟩ := received_of_attempt hswap.kind hattempt
      rcases hcondition with hmin | hany
      · have hwithin := withinTolerance_minOut hkind htight hquoted hmin hallows.risk
        rw [hswap.minOut] at hbound
        exact hwithin.mono hbound
      · exact hany.mono hpositive
    · rw [hsuccess] at hfailed
      cases hfailed

section Samples

open SettledCaps Conservation

/-- With a bound of 49 for a quote of 49, no later pool pays less. -/
theorem tradingPolicy_protects :
    ∃ tx, transactionOf (swapProposal 49 49) = .ok tx ∧
      ∀ (later : LocalChain) (receipt : Receipt) (after : LocalChain),
        later.execute tx = (.ok receipt, after) → receipt.success = true →
          WithinTolerance tradingPolicy (swapProposal 49 49) receipt.amountOut := by
  have hevaluate : PolicyEngine.evaluate plainPlatform ⟨tradingPolicy, [], 0⟩
      (swapProposal 49 49) none instant = .ok ⟨true, []⟩ := by decide +kernel
  have hbuilt : (transactionOf (swapProposal 49 49)).isOk = true := by decide +kernel
  obtain ⟨tx, htx⟩ := exists_eq_ok hbuilt
  refine ⟨tx, htx, ?_⟩
  exact (slippage_protected_iff rfl rfl (by decide) hevaluate rfl htx).mpr (.inl (by decide))

/-- A swap of another account that doubles the reserve, ahead in the mempool. -/
def moverKeys : KeyPair := ⟨List.replicate 32 8, fun message => message⟩

def moverOrder : Tx :=
  let unsigned := { Tx.new .swap (moverKeys.address plainHost) with
    amountIn := 1000000
    chainId := 31337
    deadline := 300
    decisionHash := "decision".toList }
  (moverKeys.authorizeTransaction plainHost unsigned).toOption.getD unsigned

def movedChain : LocalChain :=
  ((fundedChain.mint usdc (moverKeys.address plainHost) 1000000).toOption.bind fun chain =>
    (chain.submit plainHost moverOrder).toOption).getD fundedChain

/-- The guard's submission on that chain and the block after it. -/
def minedSwap (p : Proposal) : Option (List Receipt) :=
  ((guardWith tradingPolicy).submit plainPlatform movedChain p none instant 0).toOption.bind
    fun (_, _, chain) => chain.mineBlock.1.toOption

/-- Without a bound the swap is allowed at a quote of 49 and gets 12, with a tolerance of half
a percent. -/
theorem unboundedSwap_slips :
    movedChain.amm.quote usdc 100 = .ok 49 ∧
      PolicyEngine.evaluate plainPlatform ⟨tradingPolicy, [], 0⟩ (swapProposal 0 49) none
        instant = .ok ⟨true, []⟩ ∧
      (minedSwap (swapProposal 0 49)).map (·.map fun receipt =>
        (receipt.tx.sender, receipt.success, receipt.amountOut)) =
          some [(moverKeys.address plainHost, true, 249624), (walletAddress, true, 12)] ∧
      ¬WithinTolerance tradingPolicy (swapProposal 0 49) 12 := by
  unfold WithinTolerance
  decide +kernel

end Samples

end Proposal

end AegisLedger.Wallet.SwapTerms
