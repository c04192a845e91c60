import AegisLedger.Support.Raises
import AegisLedger.Wallet.Proofs.Conservation

/-!
# Block production

The executor turns the two exceptions of the ledger into a receipt and lets every other one
out of `mine_block`, after the mempool has been emptied.  A token that the chain does not have
raises `KeyError`, and a swap that pays a negative amount can divide by zero.  Where the
pending transactions name the two tokens of the chain and pay no negative amount, every
execution ends in a receipt, so the block has one for each of them.
-/

namespace AegisLedger.Wallet.BlockProduction

open AegisLedger.Support Checks Dict Balances Conservation
open AegisLedger.Gateway (Host)

/-! ## What an execution raises -/

/-- The exceptions that become a receipt. -/
def Caught : ChainError → Prop
  | .insufficientFunds _ => True
  | .ruleViolation _ => True
  | _ => False

/-- A rule that raises no other exception. -/
def Tame (hook : RuleHook) : Prop := ∀ tx, OnlyRaises Caught (hook tx)

/-- A transaction that names tokens of the chain and swaps no negative amount. -/
def Executable (tx : Tx) : Prop :=
  match tx.kind with
  | .transfer => tx.recipient ≠ none → Listed tx.asset
  | .swap => Listed tx.tokenIn ∧ Listed tx.tokenOut ∧ 0 ≤ tx.amountIn

/-- A chain with its two tokens, positive reserves and tame rules. -/
structure Ready (chain : LocalChain) : Prop where
  known : ∀ asset, Listed asset → (chain.tokens.get? asset).isSome = true
  positive : ∀ asset, 0 < reserve chain.amm asset
  tame : ∀ address hook, chain.ruleHooks.get? address = some hook → Tame hook

theorem caught_transfer (token : TestToken) (source target : Str) (amount : Int) :
    OnlyRaises Caught (token.transfer source target amount) := by
  unfold TestToken.transfer
  exact .raiseIf_bind trivial (.raiseIf_bind trivial (.ok _))

variable {chain : LocalChain}

theorem caught_transferToken {asset : Str} (hknown : (chain.tokens.get? asset).isSome = true)
    (source target : Str) (amount : Int) :
    OnlyRaises Caught (chain.transferToken asset source target amount) := by
  apply OnlyRaises.bind
  · apply OnlyRaises.orRaise
    intro hnone
    rw [hnone] at hknown
    cases hknown
  · intro token _
    apply OnlyRaises.bind (caught_transfer token source target amount)
    intro moved _
    exact .ok _

/-- Positive reserves never divide a non-negative amount by zero. -/
theorem caught_swap {amm : ConstantProductAMM} (hreserves : ∀ asset, 0 < reserve amm asset)
    (tokenIn : Str) {amountIn : Int} (hamount : 0 ≤ amountIn) (minOut : Int) :
    OnlyRaises Caught (amm.swap tokenIn amountIn minOut) := by
  have ha : 0 < amm.a := hreserves usdc
  have hb : 0 < amm.b := hreserves drb
  apply OnlyRaises.bind
  · apply OnlyRaises.bind
    · apply OnlyRaises.raiseIf
      intro hzero
      rw [ConstantProductAMM.feeBps] at hzero
      split_ifs at hzero <;> omega
    · intro _ _
      exact .ok _
  · intro out _
    refine .raiseIf_bind trivial ?_
    split_ifs
    · exact .ok _
    · exact .ok _

/-- The rules of a contract wallet are tame. -/
theorem tame_hook (rules : ContractWalletRules) : Tame rules.hook := by
  intro tx
  unfold ContractWalletRules.hook
  cases tx.kind with
  | swap => exact .ok ()
  | transfer =>
    exact .raiseIf_bind trivial (.raiseIf_bind trivial (.raiseIf fun _ => trivial))

section Execute

variable {chain : LocalChain} {tx : Tx}

theorem caught_executeTransfer (hknown : tx.recipient ≠ none →
      (chain.tokens.get? tx.asset).isSome = true) :
    OnlyRaises Caught (chain.executeTransfer tx).1 := by
  unfold LocalChain.executeTransfer
  cases hrecipient : tx.recipient with
  | none => exact .error trivial
  | some recipient =>
    have hasset := hknown (by simp [hrecipient])
    have htransfer := caught_transferToken hasset tx.sender recipient tx.amount
    dsimp only
    cases hpaid : chain.transferToken tx.asset tx.sender recipient tx.amount with
    | error error => exact .error (htransfer error hpaid)
    | ok paid => exact .ok 0

theorem caught_executeSwap (hready : Ready chain) (hin : Listed tx.tokenIn)
    (hout : Listed tx.tokenOut) (hamount : 0 ≤ tx.amountIn) :
    OnlyRaises Caught (chain.executeSwap tx).1 := by
  have hswap := caught_swap hready.positive tx.tokenIn hamount tx.minOut
  obtain ⟨tokenIn, hgetIn⟩ := Option.isSome_iff_exists.mp (hready.known _ hin)
  obtain ⟨tokenOut, hgetOut⟩ := Option.isSome_iff_exists.mp (hready.known _ hout)
  unfold LocalChain.executeSwap
  rw [hgetIn, hgetOut]
  dsimp only
  split_ifs
  · exact .error trivial
  cases hswapped : chain.amm.swap tx.tokenIn tx.amountIn tx.minOut with
  | error error => exact .error (hswap error hswapped)
  | ok swapped =>
    obtain ⟨out, amm⟩ := swapped
    dsimp only
    have hknown : ({ chain with amm := amm }.tokens.get? tx.tokenIn).isSome = true :=
      hready.known _ hin
    have htransfer : OnlyRaises Caught ({ chain with amm := amm }.transferToken tx.tokenIn
        tx.sender LocalChain.pool tx.amountIn) :=
      caught_transferToken hknown tx.sender LocalChain.pool tx.amountIn
    cases hpay : { chain with amm := amm }.transferToken tx.tokenIn tx.sender LocalChain.pool
        tx.amountIn with
    | error error => exact .error (htransfer error hpay)
    | ok paid =>
      obtain ⟨middle, rfl, hpaid⟩ := transferToken_eq_ok hpay
      have hknown : (middle.get? tx.tokenOut).isSome = true :=
        (hpaid.known _).trans (hready.known _ hout)
      dsimp only
      cases hreceive : LocalChain.transferToken { chain with amm := amm, tokens := middle }
          tx.tokenOut LocalChain.pool tx.sender out with
      | error error => exact .error (caught_transferToken hknown _ _ _ error hreceive)
      | ok received => exact .ok out

theorem caught_attempt (hready : Ready chain) (hexecutable : Executable tx) :
    OnlyRaises Caught (chain.attempt tx).1 := by
  unfold Executable at hexecutable
  unfold LocalChain.attempt
  dsimp only
  split
  · rename_i error hraised
    cases hget : chain.ruleHooks.get? tx.sender with
    | none =>
      rw [hget] at hraised
      cases hraised
    | some hook =>
      rw [hget] at hraised
      exact .error (hready.tame _ hook hget tx error hraised)
  · cases hkind : tx.kind with
    | transfer =>
      rw [hkind] at hexecutable
      exact caught_executeTransfer fun hrecipient => hready.known _ (hexecutable hrecipient)
    | swap =>
      rw [hkind] at hexecutable
      obtain ⟨hin, hout, hamount⟩ := hexecutable
      exact caught_executeSwap hready hin hout hamount

/-- The transaction gets its receipt. -/
theorem execute_eq_ok (hready : Ready chain) (hexecutable : Executable tx) :
    ∃ receipt, (chain.execute tx).1 = .ok receipt ∧ receipt.tx = tx := by
  have hcaught := caught_attempt hready hexecutable
  unfold LocalChain.execute
  split
  · exact ⟨_, rfl, rfl⟩
  · exact ⟨_, rfl, rfl⟩
  · exact ⟨_, rfl, rfl⟩
  · rename_i error after hfunds hrule hattempt
    rw [hattempt] at hcaught
    have herror := hcaught error rfl
    cases error with
    | insufficientFunds message => exact absurd rfl (hfunds message)
    | ruleViolation message => exact absurd rfl (hrule message)
    | keyError key => exact herror.elim
    | zeroDivision => exact herror.elim
    | foreign => exact herror.elim

theorem unmined_execute (chain : LocalChain) (tx : Tx) :
    (chain.execute tx).2.clock = chain.clock ∧ (chain.execute tx).2.blocks = chain.blocks := by
  have hattempted := attempted chain tx
  generalize (chain.execute tx).2 = after at hattempted ⊢
  cases hattempted <;> exact ⟨rfl, rfl⟩

theorem ready_execute (hready : Ready chain) (hexecutable : Executable tx) :
    Ready (chain.execute tx).2 := by
  have hattempted := attempted chain tx
  generalize (chain.execute tx).2 = after at hattempted ⊢
  have hswapped : ∀ {out : Int} {amm : ConstantProductAMM}, tx.kind = .swap →
      chain.amm.swap tx.tokenIn tx.amountIn tx.minOut = .ok (out, amm) →
      ∀ asset, 0 < reserve amm asset := by
    intro out amm hkind hswap
    unfold Executable at hexecutable
    rw [hkind] at hexecutable
    exact positive_swap hready.positive hexecutable.2.2 hswap
  cases hattempted with
  | nothing => exact hready
  | transferred _ _ _ hmoves =>
    exact ⟨fun asset hasset => (hmoves.known asset).trans (hready.known asset hasset),
      hready.positive, hready.tame⟩
  | unpaid hkind hswap _ => exact ⟨hready.known, hswapped hkind hswap, hready.tame⟩
  | paid hkind hswap hmoves =>
    exact ⟨fun asset hasset => (hmoves.known asset).trans (hready.known asset hasset),
      hswapped hkind hswap, hready.tame⟩
  | exchanged hkind hswap hpaid hreceived =>
    exact ⟨fun asset hasset => ((hreceived.known asset).trans (hpaid.known asset)).trans
      (hready.known asset hasset), hswapped hkind hswap, hready.tame⟩

end Execute

/-! ## A block -/

theorem executeAll_eq_ok {txs : List Tx} (hexecutable : ∀ tx ∈ txs, Executable tx)
    (hready : Ready chain) (receipts : List Receipt) :
    ∃ added, (chain.executeAll receipts txs).1 = .ok (receipts ++ added) ∧
      added.map (·.tx) = txs := by
  induction txs generalizing chain receipts with
  | nil => exact ⟨[], by rw [List.append_nil]; rfl, rfl⟩
  | cons tx txs ih =>
    have hfirst := hexecutable tx List.mem_cons_self
    obtain ⟨receipt, hreceipt, htx⟩ := execute_eq_ok hready hfirst
    obtain ⟨added, hadded, hrest⟩ := ih
      (fun other hother => hexecutable other (List.mem_cons_of_mem tx hother))
      (ready_execute hready hfirst) (receipts ++ [receipt])
    refine ⟨receipt :: added, ?_, by rw [List.map_cons, htx, hrest]⟩
    unfold LocalChain.executeAll
    split
    · rename_i error after hexecute
      rw [hexecute] at hreceipt
      cases hreceipt
    · rename_i other after hexecute
      rw [hexecute] at hreceipt hadded
      cases hreceipt
      rw [hadded, List.append_assoc]
      rfl

/-- A block with one receipt for each pending transaction, in their order. -/
def Produces (chain : LocalChain) : Prop :=
  ∃ receipts, chain.mineBlock.1 = .ok receipts ∧
    receipts.map (·.tx) = chain.mempool ∧
    chain.mineBlock.2.blocks = chain.blocks ++ [receipts] ∧
    chain.mineBlock.2.mempool = [] ∧
    chain.mineBlock.2.clock = chain.clock + 1

theorem produces_of_ready (hready : Ready chain) (hpending : ∀ tx ∈ chain.mempool, Executable tx) :
    Produces chain := by
  let emptied := { chain with mempool := [] }
  obtain ⟨receipts, hreceipts, htxs⟩ :=
    executeAll_eq_ok hpending (show Ready emptied from ⟨hready.known, hready.positive,
      hready.tame⟩) []
  obtain ⟨hclock, hblocks⟩ : (emptied.executeAll [] chain.mempool).2.clock = chain.clock ∧
      (emptied.executeAll [] chain.mempool).2.blocks = chain.blocks :=
    invariant_executeAll (I := fun other => other.clock = chain.clock ∧
        other.blocks = chain.blocks)
      (fun other tx _ h => ⟨(unmined_execute other tx).1.trans h.1,
        (unmined_execute other tx).2.trans h.2⟩) [] ⟨rfl, rfl⟩
  have hmine : chain.mineBlock = (.ok receipts, { (emptied.executeAll [] chain.mempool).2 with
      blocks := chain.blocks ++ [receipts], clock := chain.clock + 1 }) := by
    unfold LocalChain.mineBlock
    split
    · rename_i error after hall
      rw [hall] at hreceipts
      cases hreceipts
    · rename_i found after hall
      change emptied.executeAll [] chain.mempool = _ at hall
      rw [hall] at hreceipts hclock hblocks ⊢
      cases hreceipts
      dsimp only at hclock hblocks ⊢
      rw [hclock, hblocks, List.nil_append]
  refine ⟨receipts, ?_, htxs, ?_, mempool_mineBlock chain, ?_⟩
  · rw [hmine]
  · rw [hmine]
  · rw [hmine]

/-! ## Runs of the chain -/

structure ReadyRun (chain : LocalChain) : Prop where
  ready : Ready chain
  pending : ∀ tx ∈ chain.mempool, Executable tx

theorem readyRun_start {ammA ammB chainId : Int} (ha : 0 < ammA) (hb : 0 < ammB) :
    ReadyRun (start ammA ammB chainId).chain := by
  refine ⟨⟨?_, ?_, ?_⟩, ?_⟩
  · intro asset hasset
    rw [get?_start]
    rcases hasset with rfl | rfl <;> rfl
  · intro asset
    change 0 < if asset = usdc then ammA else ammB
    split_ifs <;> assumption
  · intro address hook hget
    cases hget
  · intro tx htx
    cases htx

theorem readyRun_tokens (h : ReadyRun chain) {tokens : Tokens}
    (hknown : ∀ asset, (tokens.get? asset).isSome = (chain.tokens.get? asset).isSome) :
    ReadyRun { chain with tokens := tokens } :=
  ⟨⟨fun asset hasset => (hknown asset).trans (h.ready.known asset hasset), h.ready.positive,
    h.ready.tame⟩, h.pending⟩

theorem readyRun_mint (h : ReadyRun chain) (asset address : Str) (amount : Int) :
    ReadyRun ((chain.mint asset address amount).toOption.getD chain) := by
  rcases mint_cases chain asset address amount with ⟨hsame, _⟩ | ⟨token, hget, hset⟩
  · rw [hsame]
    exact h
  · rw [hset]
    exact readyRun_tokens h (isSome_set hget _)

variable {host : Host}

theorem readyRun_submit {tx : Tx} (h : ReadyRun chain) (hexecutable : Executable tx) :
    ReadyRun ((chain.submit host tx).toOption.getD chain) := by
  rcases submit_cases host chain tx with hsame | ⟨nonces, _, hjoined⟩
  · rw [hsame]
    exact h
  · rw [hjoined]
    refine ⟨⟨h.ready.known, h.ready.positive, h.ready.tame⟩, ?_⟩
    intro other hother
    rcases List.mem_append.mp hother with hother | hother
    · exact h.pending other hother
    · obtain rfl := List.mem_singleton.mp hother
      exact hexecutable

theorem readyRun_mineBlock (h : ReadyRun chain) : ReadyRun chain.mineBlock.2 := by
  have hready : Ready chain.mineBlock.2 := by
    apply invariant_mineBlock (I := Ready)
    · intro other tx htx hother
      exact ready_execute hother (h.pending tx htx)
    · exact ⟨h.ready.known, h.ready.positive, h.ready.tame⟩
    · intro other blocks clock hother
      exact ⟨hother.known, hother.positive, hother.tame⟩
  refine ⟨hready, ?_⟩
  rw [mempool_mineBlock]
  simp

theorem readyRun_settle {facilitator : Facilitator} {auth : PaymentAuthorization} {now : Int}
    (h : ReadyRun chain) : ReadyRun (facilitator.settle host chain auth now).2.2 := by
  rcases settle_cases host facilitator chain auth now with
    hsame | ⟨_, _, tokens, _, _, hmoves, hpaid⟩
  · rw [hsame]
    exact h
  · rw [hpaid]
    exact readyRun_tokens h hmoves.known

/-- Submissions of executable transactions and registrations of tame rules. -/
def Expected : Call → Prop
  | .submit tx => Executable tx
  | .registerRuleHook _ hook => Tame hook
  | _ => True

theorem readyRun_perform {system : System} {call : Call} (h : ReadyRun system.chain)
    (hexpected : Expected call) : ReadyRun (system.perform host call).chain := by
  cases call with
  | mint asset address amount => exact readyRun_mint h asset address amount
  | submit tx => exact readyRun_submit h hexpected
  | mineBlock => exact readyRun_mineBlock h
  | settle auth now => exact readyRun_settle h
  | registerRuleHook address hook =>
    refine ⟨⟨h.ready.known, h.ready.positive, ?_⟩, h.pending⟩
    intro other found hget
    change (system.chain.ruleHooks.set address hook).get? other = some found at hget
    rw [get?_set] at hget
    split_ifs at hget with hsame
    · cases hget
      exact hexpected
    · exact h.ready.tame other found hget

/-- In every run of expected calls the next block is produced. -/
theorem blocks_produced {host : Host} {ammA ammB chainId : Int} (ha : 0 < ammA) (hb : 0 < ammB)
    {trace : List Call} {system : System}
    (hrun : Run (Steps host Expected) (start ammA ammB chainId) trace system) :
    Produces system.chain := by
  have hready : ReadyRun system.chain := by
    apply hrun.invariant (I := fun _ system => ReadyRun system.chain)
    · exact readyRun_start ha hb
    · rintro _ _ _ _ _ hbefore ⟨hexpected, rfl⟩
      exact readyRun_perform hbefore hexpected
  exact produces_of_ready hready.ready hready.pending

section Samples

open SettledCaps HexText

/-- Two transactions of a contract wallet, the second of more than it has. -/
def pendingTrace : List Call := [
  .mint usdc walletAddress 1000,
  .registerRuleHook walletAddress (ContractWalletRules.init 500 [] []).hook,
  .submit (transferOrder 0 100 usdc "vendor".toList),
  .submit (swapOrder 1 5000 0 usdc drb)]

theorem pendingTrace_produced :
    (systemAfter pendingTrace).chain.mempool.length = 2 ∧
      ∃ receipts, (systemAfter pendingTrace).chain.mineBlock.1 = .ok receipts ∧
        receipts.map (·.tx) = (systemAfter pendingTrace).chain.mempool ∧
        (systemAfter pendingTrace).chain.mineBlock.2.clock = 1 := by
  have hfacts : (systemAfter pendingTrace).chain.mempool.length = 2 ∧
      (systemAfter pendingTrace).chain.clock = 0 ∧
      (transferOrder 0 100 usdc "vendor".toList).asset = usdc ∧
      (transferOrder 0 100 usdc "vendor".toList).kind = .transfer ∧
      (swapOrder 1 5000 0 usdc drb).kind = .swap ∧
      (swapOrder 1 5000 0 usdc drb).tokenIn = usdc ∧
      (swapOrder 1 5000 0 usdc drb).tokenOut = drb ∧
      (swapOrder 1 5000 0 usdc drb).amountIn = 5000 := by
    decide +kernel
  obtain ⟨hpending, hclock, hasset, htransfer, hswap, hin, hout, hamount⟩ := hfacts
  have hfirst : Executable (transferOrder 0 100 usdc "vendor".toList) := by
    rw [Executable, htransfer, hasset]
    exact fun _ => Or.inl rfl
  have hsecond : Executable (swapOrder 1 5000 0 usdc drb) := by
    rw [Executable, hswap, hin, hout, hamount]
    exact ⟨Or.inl rfl, Or.inr rfl, by decide⟩
  have hfollows : Run.Follows (fun _ call => Expected call) (System.perform plainHost)
      (start 1000000 500000 31337) pendingTrace :=
    ⟨trivial, tame_hook _, hfirst, hsecond, trivial⟩
  have hrun : Run (Steps plainHost Expected) (start 1000000 500000 31337) pendingTrace
      (systemAfter pendingTrace) := hfollows.run
  obtain ⟨receipts, hmined, htxs, _, _, hadvanced⟩ :=
    blocks_produced (by decide) (by decide) hrun
  rw [hclock] at hadvanced
  exact ⟨hpending, receipts, hmined, htxs, hadvanced⟩

def strangerKeys : KeyPair := ⟨List.replicate 32 9, fun message => message⟩

/-- A transaction of a second wallet, signed. -/
def strangerOrder (tx : Tx) : Tx :=
  let unsigned := { tx with
    chainId := 31337
    deadline := 300
    decisionHash := "decision".toList }
  (strangerKeys.authorizeTransaction plainHost unsigned).toOption.getD unsigned

/-- A transfer of a token that the chain does not have, before one of the wallet. -/
def unknownTrace : List Call := [
  .mint usdc walletAddress 1000,
  .submit (strangerOrder { Tx.new .transfer (strangerKeys.address plainHost) with
    amount := 1
    asset := "ABC".toList
    recipient := some "vendor".toList }),
  .submit (transferOrder 0 100 usdc "vendor".toList)]

/-- A swap that empties the denominator of the quote, before a transfer of the wallet. -/
def dividingTrace : List Call := [
  .mint usdc walletAddress 1000,
  .submit (strangerOrder { Tx.new .swap (strangerKeys.address plainHost) with
    amountIn := -1000000 }),
  .submit (transferOrder 0 100 usdc "vendor".toList)]

/-- Both blocks abort at the first transaction, and the mempool has lost the second. -/
theorem block_aborted :
    Run (Steps plainHost MintsNonNegative) (start 1000000 500000 31337) unknownTrace
        (systemAfter unknownTrace) ∧
      (systemAfter unknownTrace).chain.mempool.length = 2 ∧
      (systemAfter unknownTrace).chain.mineBlock.1 = .error (.keyError "ABC".toList) ∧
      (systemAfter unknownTrace).chain.mineBlock.2.mempool = [] ∧
      (systemAfter unknownTrace).chain.mineBlock.2.blocks = [] ∧
      (systemAfter unknownTrace).chain.mineBlock.2.clock = 0 ∧
      balanceOf (systemAfter unknownTrace).chain.mineBlock.2.tokens usdc "vendor".toList = 0 ∧
      Run (Steps plainHost MintsNonNegative) (start 997000 500000 31337) dividingTrace
        (dividingTrace.foldl (System.perform plainHost) (start 997000 500000 31337)) ∧
      (dividingTrace.foldl (System.perform plainHost)
        (start 997000 500000 31337)).chain.mempool.length = 2 ∧
      (dividingTrace.foldl (System.perform plainHost)
        (start 997000 500000 31337)).chain.mineBlock.1 = .error .zeroDivision := by
  refine ⟨Run.Follows.run ?_, ?_, ?_, ?_, ?_, ?_, ?_, Run.Follows.run ?_, ?_, ?_⟩ <;>
    decide +kernel

end Samples

end AegisLedger.Wallet.BlockProduction
