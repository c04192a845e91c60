import AegisLedger.Support.Run
import AegisLedger.Wallet.Payments

/-!
# What the chain does to balances

Every operation of the chain and of the facilitator moves tokens by `TestToken.transfer`, so
what it does to the balances is a list of moves.  A move takes a positive amount that its
source has, gives it to its target and leaves every other balance and every supply alone.
The cases of an executed transaction are stated once (`attempted`), and a block is a list of
executions.
-/

namespace AegisLedger.Wallet.Balances

open AegisLedger.Support Checks Dict
open AegisLedger.Gateway (Host)

/-! ## One token -/

/-- The balances of all addresses, added up. -/
def total (token : TestToken) : Int := token.values.sum

theorem total_set (token : TestToken) (address : Str) (amount : Int) :
    total (token.set address amount) = total token - token.balance address + amount := by
  cases hget : token.get? address with
  | none =>
    have hbalance : token.balance address = 0 := by
      rw [TestToken.balance, hget]
      rfl
    rw [total, values_set_of_notMem (get?_eq_none_iff.mp hget), List.sum_append,
      List.sum_singleton, hbalance, total]
    omega
  | some old =>
    have hbalance : token.balance address = old := by
      rw [TestToken.balance, hget]
      rfl
    have hsum := sum_values_set (id : Int → Int) amount hget
    simp only [List.map_id, id_eq] at hsum
    rw [hbalance, total, total]
    omega

theorem balance_set (token : TestToken) (address other : Str) (amount : Int) :
    TestToken.balance (token.set address amount) other =
      if other = address then amount else token.balance other := by
  rw [TestToken.balance, get?_set]
  split_ifs
  · rfl
  · rfl

theorem total_mint (token : TestToken) (address : Str) (amount : Int) :
    total (token.mint address amount) = total token + amount := by
  rw [TestToken.mint, total_set]
  omega

theorem balance_mint (token : TestToken) (address other : Str) (amount : Int) :
    (token.mint address amount).balance other =
      token.balance other + if other = address then amount else 0 := by
  rw [TestToken.mint, balance_set]
  split_ifs with h
  · rw [h]
  · omega

variable {token : TestToken} {source target : Str} {amount : Int}

theorem transfer_eq_ok {after : TestToken} (h : token.transfer source target amount = .ok after) :
    0 < amount ∧ amount ≤ token.balance source ∧ total after = total token ∧
      ∀ address, after.balance address = token.balance address -
        (if address = source then amount else 0) + if address = target then amount else 0 := by
  rw [TestToken.transfer, raiseIf_bind_eq_ok, raiseIf_bind_eq_ok, pure_eq_ok] at h
  obtain ⟨hpositive, hcovered, rfl⟩ := h
  refine ⟨by omega, by omega, ?_, ?_⟩
  · rw [total_set, total_set]
    omega
  · intro address
    simp only [balance_set]
    split_ifs <;> simp_all

theorem transfer_eq_error {error : ChainError}
    (h : token.transfer source target amount = .error error)
    (hcovered : amount ≤ token.balance source) : amount ≤ 0 := by
  by_contra hpositive
  rw [TestToken.transfer, raiseIf, if_neg hpositive, raiseIf, if_neg (not_lt.mpr hcovered)] at h
  cases h

/-! ## All tokens -/

abbrev Tokens := Dict Str TestToken

def balanceOf (tokens : Tokens) (asset address : Str) : Int :=
  ((tokens.get? asset).map fun token => token.balance address).getD 0

def supply (tokens : Tokens) (asset : Str) : Int := ((tokens.get? asset).map total).getD 0

theorem balanceOf_set (tokens : Tokens) (asset other address : Str) (token : TestToken) :
    balanceOf (tokens.set asset token) other address =
      if other = asset then token.balance address else balanceOf tokens other address := by
  rw [balanceOf, get?_set]
  split_ifs
  · rfl
  · rfl

theorem supply_set (tokens : Tokens) (asset other : Str) (token : TestToken) :
    supply (tokens.set asset token) other =
      if other = asset then total token else supply tokens other := by
  rw [supply, get?_set]
  split_ifs
  · rfl
  · rfl

variable {asset : Str}

theorem isSome_set {tokens : Tokens} {old : TestToken} (hold : tokens.get? asset = some old)
    (token : TestToken) (other : Str) :
    ((tokens.set asset token).get? other).isSome = (tokens.get? other).isSome := by
  rw [get?_set]
  split_ifs with h
  · rw [h, hold]
    rfl
  · rfl

structure Move where
  asset : Str
  source : Str
  target : Str
  amount : Int

def Move.debit (m : Move) (asset address : Str) : Int :=
  if asset = m.asset ∧ address = m.source then m.amount else 0

def Move.credit (m : Move) (asset address : Str) : Int :=
  if asset = m.asset ∧ address = m.target then m.amount else 0

structure Moves (before : Tokens) (m : Move) (after : Tokens) : Prop where
  positive : 0 < m.amount
  covered : m.amount ≤ balanceOf before m.asset m.source
  balance : ∀ asset address, balanceOf after asset address =
    balanceOf before asset address - m.debit asset address + m.credit asset address
  supply : ∀ asset, supply after asset = supply before asset
  known : ∀ asset, (after.get? asset).isSome = (before.get? asset).isSome

variable {chain : LocalChain}

theorem transferToken_eq_ok {after : LocalChain}
    (h : chain.transferToken asset source target amount = .ok after) :
    ∃ tokens, after = { chain with tokens := tokens } ∧
      Moves chain.tokens ⟨asset, source, target, amount⟩ tokens := by
  rw [LocalChain.transferToken, orRaise_bind_eq_ok] at h
  obtain ⟨token, hget, h⟩ := h
  rw [bind_eq_ok] at h
  obtain ⟨moved, hmoved, h⟩ := h
  rw [pure_eq_ok] at h
  obtain ⟨hpositive, hcovered, htotal, hbalance⟩ := transfer_eq_ok hmoved
  have hbalanceOf : ∀ address, balanceOf chain.tokens asset address = token.balance address := by
    intro address
    rw [balanceOf, hget]
    rfl
  refine ⟨chain.tokens.set asset moved, h.symm, hpositive, ?_, ?_, ?_, isSome_set hget moved⟩
  · rw [hbalanceOf]
    exact hcovered
  · intro other address
    rw [balanceOf_set, Move.debit, Move.credit]
    by_cases hother : other = asset
    · rw [if_pos hother, hbalance, hother, hbalanceOf]
      simp only [true_and]
    · simp [hother]
  · intro other
    rw [supply_set]
    split_ifs with hother
    · rw [htotal, hother, supply, hget]
      rfl
    · rfl

theorem transferToken_eq_error {error : ChainError}
    (h : chain.transferToken asset source target amount = .error error)
    (hget : chain.tokens.get? asset = some token) (hcovered : amount ≤ token.balance source) :
    amount ≤ 0 := by
  rw [LocalChain.transferToken, hget] at h
  change (token.transfer source target amount >>= fun moved => _) = .error error at h
  cases hmoved : token.transfer source target amount with
  | error other => exact transfer_eq_error hmoved hcovered
  | ok moved =>
    rw [hmoved] at h
    cases h

/-! ## One transaction -/

/-- The contract wallet of the sender, if there is one, lets the transaction pass. -/
def HookPasses (chain : LocalChain) (tx : Tx) : Prop :=
  ∀ hook, chain.ruleHooks.get? tx.sender = some hook → hook tx = .ok ()

/-- What an executed transaction may leave behind, whether or not it succeeds. -/
inductive Attempted (chain : LocalChain) (tx : Tx) : LocalChain → Prop
  | nothing : Attempted chain tx chain
  | transferred {recipient : Str} {tokens : Tokens} (hhook : HookPasses chain tx)
      (hkind : tx.kind = .transfer) (hrecipient : tx.recipient = some recipient)
      (hmoves : Moves chain.tokens ⟨tx.asset, tx.sender, recipient, tx.amount⟩ tokens) :
      Attempted chain tx { chain with tokens := tokens }
  /-- The pool has moved and the payment is refused. -/
  | unpaid {out : Int} {amm : ConstantProductAMM} (hkind : tx.kind = .swap)
      (hswap : chain.amm.swap tx.tokenIn tx.amountIn tx.minOut = .ok (out, amm))
      (hamount : tx.amountIn ≤ 0) :
      Attempted chain tx { chain with amm := amm }
  /-- The payment is made and nothing comes back. -/
  | paid {out : Int} {amm : ConstantProductAMM} {tokens : Tokens} (hkind : tx.kind = .swap)
      (hswap : chain.amm.swap tx.tokenIn tx.amountIn tx.minOut = .ok (out, amm))
      (hmoves : Moves chain.tokens ⟨tx.tokenIn, tx.sender, LocalChain.pool, tx.amountIn⟩ tokens) :
      Attempted chain tx { chain with amm := amm, tokens := tokens }
  | exchanged {out : Int} {amm : ConstantProductAMM} {middle tokens : Tokens}
      (hkind : tx.kind = .swap)
      (hswap : chain.amm.swap tx.tokenIn tx.amountIn tx.minOut = .ok (out, amm))
      (hpaid : Moves chain.tokens ⟨tx.tokenIn, tx.sender, LocalChain.pool, tx.amountIn⟩ middle)
      (hreceived : Moves middle ⟨tx.tokenOut, LocalChain.pool, tx.sender, out⟩ tokens) :
      Attempted chain tx { chain with amm := amm, tokens := tokens }

variable {tx : Tx}

theorem attempted_transfer (hhook : HookPasses chain tx) (hkind : tx.kind = .transfer) :
    Attempted chain tx (chain.executeTransfer tx).2 := by
  unfold LocalChain.executeTransfer
  cases hrecipient : tx.recipient with
  | none => exact .nothing
  | some recipient =>
    dsimp only
    cases htransfer : chain.transferToken tx.asset tx.sender recipient tx.amount with
    | error error => exact .nothing
    | ok paid =>
      obtain ⟨tokens, rfl, hmoves⟩ := transferToken_eq_ok htransfer
      exact .transferred hhook hkind hrecipient hmoves

theorem attempted_swap (hkind : tx.kind = .swap) : Attempted chain tx (chain.executeSwap tx).2 := by
  unfold LocalChain.executeSwap
  cases hin : chain.tokens.get? tx.tokenIn with
  | none => exact .nothing
  | some tokenIn =>
    cases chain.tokens.get? tx.tokenOut with
    | none => exact .nothing
    | some tokenOut =>
      dsimp only
      split_ifs with hfunds
      · exact .nothing
      cases hswap : chain.amm.swap tx.tokenIn tx.amountIn tx.minOut with
      | error error => exact .nothing
      | ok swapped =>
        obtain ⟨out, amm⟩ := swapped
        dsimp only
        cases hpay : { chain with amm := amm }.transferToken tx.tokenIn tx.sender
            LocalChain.pool tx.amountIn with
        | error error =>
          exact .unpaid hkind hswap (transferToken_eq_error hpay hin (not_lt.mp hfunds))
        | ok paid =>
          obtain ⟨middle, rfl, hpaid⟩ := transferToken_eq_ok hpay
          dsimp only
          cases hreceive : LocalChain.transferToken { chain with
              amm := amm, tokens := middle } tx.tokenOut LocalChain.pool tx.sender out with
          | error error => exact .paid hkind hswap hpaid
          | ok received =>
            obtain ⟨tokens, rfl, hreceived⟩ := transferToken_eq_ok hreceive
            exact .exchanged hkind hswap hpaid hreceived

theorem attempted (chain : LocalChain) (tx : Tx) : Attempted chain tx (chain.execute tx).2 := by
  have hexecute : (chain.execute tx).2 = (chain.attempt tx).2 := by
    unfold LocalChain.execute
    split <;> simp_all
  rw [hexecute]
  unfold LocalChain.attempt
  dsimp only
  split
  · exact .nothing
  · rename_i hchecked
    have hhook : HookPasses chain tx := by
      intro hook hget
      rw [hget] at hchecked
      exact hchecked
    cases hkind : tx.kind with
    | transfer => exact attempted_transfer hhook hkind
    | swap => exact attempted_swap hkind

theorem mempool_execute (chain : LocalChain) (tx : Tx) :
    (chain.execute tx).2.mempool = chain.mempool := by
  have hattempted := attempted chain tx
  generalize (chain.execute tx).2 = after at hattempted ⊢
  cases hattempted <;> rfl

/-! ## A block -/

structure Execution where
  before : LocalChain
  tx : Tx
  after : LocalChain

/-- The executions of a block, up to one that aborts it. -/
def executions (chain : LocalChain) : List Tx → List Execution
  | [] => []
  | tx :: rest =>
    ⟨chain, tx, (chain.execute tx).2⟩ ::
      match (chain.execute tx).1 with
      | .error _ => []
      | .ok _ => executions (chain.execute tx).2 rest

/-- The executions of the next block. -/
def blockExecutions (chain : LocalChain) : List Execution :=
  executions { chain with mempool := [] } chain.mempool

section Block

variable {I : LocalChain → Prop} {txs : List Tx}

variable {chain : LocalChain}

/-- What every execution of one of the transactions keeps, the executor keeps. -/
theorem invariant_executeAll (hstep : ∀ chain, ∀ tx ∈ txs, I chain → I (chain.execute tx).2)
    (receipts : List Receipt) (hinit : I chain) : I (chain.executeAll receipts txs).2 := by
  induction txs generalizing chain receipts with
  | nil => exact hinit
  | cons tx txs ih =>
    have hfirst := hstep chain tx List.mem_cons_self hinit
    unfold LocalChain.executeAll
    split
    · rename_i hexecute
      rw [hexecute] at hfirst
      exact hfirst
    · rename_i hexecute
      rw [hexecute] at hfirst
      exact ih (fun chain other hother => hstep chain other (List.mem_cons_of_mem tx hother)) _
        hfirst

theorem mem_executions (hstep : ∀ chain, ∀ tx ∈ txs, I chain → I (chain.execute tx).2)
    (hinit : I chain) {e : Execution} (he : e ∈ executions chain txs) :
    e.tx ∈ txs ∧ I e.before ∧ e.after = (e.before.execute e.tx).2 := by
  induction txs generalizing chain with
  | nil => cases he
  | cons tx txs ih =>
    rcases List.mem_cons.mp he with rfl | he
    · exact ⟨List.mem_cons_self, hinit, rfl⟩
    · cases hexecute : (chain.execute tx).1 with
      | error error =>
        rw [hexecute] at he
        cases he
      | ok receipt =>
        rw [hexecute] at he
        obtain ⟨htx, hbefore, hafter⟩ := ih
          (fun chain other hother => hstep chain other (List.mem_cons_of_mem tx hother))
          (hstep chain tx List.mem_cons_self hinit) he
        exact ⟨List.mem_cons_of_mem tx htx, hbefore, hafter⟩

theorem invariant_mineBlock
    (hstep : ∀ chain', ∀ tx ∈ chain.mempool, I chain' → I (chain'.execute tx).2)
    (hinit : I { chain with mempool := [] }) (hseal : ∀ (chain : LocalChain) blocks clock, I chain →
      I { chain with blocks := blocks, clock := clock }) : I chain.mineBlock.2 := by
  have hall := invariant_executeAll hstep [] hinit
  unfold LocalChain.mineBlock
  split
  · rename_i hexecute
    rw [hexecute] at hall
    exact hall
  · rename_i hexecute
    rw [hexecute] at hall
    exact hseal _ _ _ hall

theorem mempool_mineBlock (chain : LocalChain) : chain.mineBlock.2.mempool = [] := by
  apply invariant_mineBlock (I := fun other => other.mempool = [])
  · intro other tx _ hempty
    exact (mempool_execute other tx).trans hempty
  · rfl
  · intro other blocks clock hempty
    exact hempty

end Block

/-! ## The chain with its facilitator -/

structure System where
  chain : LocalChain
  facilitator : Facilitator

inductive Call
  | mint (asset address : Str) (amount : Int)
  | submit (tx : Tx)
  | mineBlock
  | settle (auth : PaymentAuthorization) (now : Int)
  | registerRuleHook (address : Str) (hook : RuleHook)

/-- A call that raises leaves what it has written. -/
def System.perform (host : Host) (system : System) : Call → System
  | .mint asset address amount =>
    { system with chain := (system.chain.mint asset address amount).toOption.getD system.chain }
  | .submit tx =>
    { system with chain := (system.chain.submit host tx).toOption.getD system.chain }
  | .mineBlock => { system with chain := system.chain.mineBlock.2 }
  | .settle auth now =>
    let (_, facilitator, chain) := system.facilitator.settle host system.chain auth now
    ⟨chain, facilitator⟩
  | .registerRuleHook address hook =>
    { system with chain := system.chain.registerRuleHook address hook }

theorem mint_cases (chain : LocalChain) (asset address : Str) (amount : Int) :
    (chain.mint asset address amount).toOption.getD chain = chain ∧
        chain.tokens.get? asset = none ∨
      ∃ token, chain.tokens.get? asset = some token ∧
        (chain.mint asset address amount).toOption.getD chain =
          { chain with tokens := chain.tokens.set asset (token.mint address amount) } := by
  cases hget : chain.tokens.get? asset with
  | none =>
    refine Or.inl ⟨?_, rfl⟩
    rw [LocalChain.mint, hget]
    rfl
  | some token =>
    refine Or.inr ⟨token, rfl, ?_⟩
    rw [LocalChain.mint, hget]
    rfl

/-- An accepted transaction joins the mempool, any other changes nothing. -/
theorem submit_cases (host : Host) (chain : LocalChain) (tx : Tx) :
    (chain.submit host tx).toOption.getD chain = chain ∨
      ∃ nonces, chain.verifyAuthorization host tx = .ok () ∧
        (chain.submit host tx).toOption.getD chain = { chain with
          mempool := chain.mempool ++ [{ tx with submittedAt := chain.clock }]
          nextNonces := nonces } := by
  cases hverify : chain.verifyAuthorization host tx with
  | error error =>
    left
    rw [LocalChain.submit, hverify]
    rfl
  | ok accepted =>
    right
    refine ⟨chain.nextNonces.set (host.lower tx.sender)
      (chain.nextNonce host (host.lower tx.sender) + 1), rfl, ?_⟩
    rw [LocalChain.submit, hverify]
    rfl

/-- A presented signature verifies under a presented key. -/
structure Verified (host : Host) (publicKeyHex signatureHex : Str)
    (message publicKey signature : Bytes) : Prop where
  keyText : HexText.fromHex publicKeyHex = some publicKey
  signatureText : HexText.fromHex signatureHex = some signature
  verifies : host.ed25519Verify publicKey message signature = true

/-- The key of an accepted transaction has the address of its sender, up to the case of the
sender's letters. -/
theorem verifyAuthorization_eq_ok {host : Host} (h : chain.verifyAuthorization host tx = .ok ()) :
    ∃ publicKey signature,
      Verified host tx.publicKeyHex tx.signatureHex (tx.digest host) publicKey signature ∧
      (Gateway.addressOf host publicKey = host.lower tx.sender ∨
        Gateway.addressOf host publicKey = tx.sender) := by
  simp only [LocalChain.verifyAuthorization, raiseIf_bind_eq_ok, orRaise_bind_eq_ok,
    raiseIf_eq_ok] at h
  obtain ⟨_, _, _, _, _, publicKey, hkey, _, signature, hsignature, hverify⟩ := h
  rw [verifyWithAddress] at hverify
  split_ifs at hverify with haddress
  · exact absurd rfl hverify
  · rw [not_and_or, not_not, not_not] at haddress
    exact ⟨publicKey, signature, ⟨hkey, hsignature, Bool.not_eq_false _ ▸ hverify⟩, haddress⟩

theorem verify_eq_true {host : Host} {facilitator : Facilitator} {auth : PaymentAuthorization}
    {now : Int} {why : String} (h : facilitator.verify host auth now = .ok (true, why)) :
    ∃ publicKey signature, Verified host auth.payerPubHex auth.signatureHex
        auth.requirements.digest publicKey signature ∧
      Gateway.addressOf host publicKey = auth.payer := by
  unfold Facilitator.verify at h
  dsimp only at h
  split_ifs at h
  · cases h
  · cases h
  · cases h
  · rw [bind_eq_ok] at h
    obtain ⟨publicKey, hpub, h⟩ := h
    simp only [PaymentAuthorization.payerPub, orRaise_bind_eq_ok, raiseIf_bind_eq_ok,
      pure_eq_ok] at hpub
    obtain ⟨_, hkey, _, rfl⟩ := hpub
    split_ifs at h with haddress
    · cases h
    · rw [orRaise_bind_eq_ok] at h
      obtain ⟨signature, hsignature, h⟩ := h
      split_ifs at h with hverify
      · cases h
      · exact ⟨_, signature, ⟨hkey, hsignature, Bool.not_eq_false _ ▸ hverify⟩,
          not_not.mp haddress⟩

/-- A settlement moves the amount of the requirements from the payer, whose signature over
them verifies. -/
theorem settle_cases (host : Host) (facilitator : Facilitator) (chain : LocalChain)
    (auth : PaymentAuthorization) (now : Int) :
    (facilitator.settle host chain auth now).2.2 = chain ∨
      ∃ publicKey signature tokens, Verified host auth.payerPubHex auth.signatureHex
          auth.requirements.digest publicKey signature ∧
        Gateway.addressOf host publicKey = auth.payer ∧
        Moves chain.tokens ⟨auth.requirements.asset, auth.payer, auth.requirements.payTo,
          auth.requirements.amount⟩ tokens ∧
        (facilitator.settle host chain auth now).2.2 = { chain with tokens := tokens } := by
  unfold Facilitator.settle
  cases hverify : facilitator.verify host auth now with
  | error error => exact Or.inl rfl
  | ok answer =>
    obtain ⟨accepted, why⟩ := answer
    cases accepted with
    | false => exact Or.inl rfl
    | true =>
      obtain ⟨publicKey, signature, hverified, haddress⟩ := verify_eq_true hverify
      dsimp only
      cases hpaid : chain.transferToken auth.requirements.asset auth.payer
          auth.requirements.payTo auth.requirements.amount with
      | error error => exact Or.inl rfl
      | ok paid =>
        obtain ⟨tokens, rfl, hmoves⟩ := transferToken_eq_ok hpaid
        exact Or.inr ⟨publicKey, signature, tokens, hverified, haddress, hmoves, rfl⟩

/-! ## What a wallet pays -/

/-- Where the balance of the wallet falls, some address gains what the wallet loses, and the
payment is permitted. -/
def Pays (permits : Str → Str → Int → Prop) (wallet : Str) (before after : Tokens) : Prop :=
  ∀ asset, balanceOf after asset wallet < balanceOf before asset wallet →
    ∃ payee, permits asset payee
        (balanceOf before asset wallet - balanceOf after asset wallet) ∧
      balanceOf after asset payee - balanceOf before asset payee =
        balanceOf before asset wallet - balanceOf after asset wallet

section Pays

variable {permits : Str → Str → Int → Prop} {wallet : Str} {before middle after : Tokens}
  {m : Move}

theorem pays_refl (tokens : Tokens) : Pays permits wallet tokens tokens :=
  fun _ hfalls => absurd hfalls (lt_irrefl _)

theorem not_falls_of_moves (h : Moves before m after) (hsource : m.source ≠ wallet)
    (asset : Str) : balanceOf before asset wallet ≤ balanceOf after asset wallet := by
  have hpositive := h.positive
  have hdebit : m.debit asset wallet = 0 := if_neg fun hboth => hsource hboth.2.symm
  rw [h.balance, hdebit, Move.credit]
  split_ifs <;> omega

theorem pays_of_moves (h : Moves before m after)
    (hpermits : m.source = wallet → permits m.asset m.target m.amount) :
    Pays permits wallet before after := by
  intro asset hfalls
  have hpositive := h.positive
  by_cases hsource : m.source = wallet
  · have hasset : asset = m.asset := by
      by_contra hother
      have hdebit : m.debit asset wallet = 0 := if_neg fun hboth => hother hboth.1
      have hcredit : m.credit asset wallet = 0 := if_neg fun hboth => hother hboth.1
      rw [h.balance, hdebit, hcredit] at hfalls
      omega
    have htarget : m.target ≠ wallet := by
      intro htarget
      rw [h.balance, Move.debit, Move.credit, htarget, hsource] at hfalls
      omega
    have hloss : balanceOf before asset wallet - balanceOf after asset wallet = m.amount := by
      rw [h.balance, Move.debit, Move.credit, if_pos ⟨hasset, hsource.symm⟩,
        if_neg fun hboth => htarget hboth.2.symm]
      omega
    have hgain : balanceOf after asset m.target - balanceOf before asset m.target = m.amount := by
      rw [h.balance, Move.debit, Move.credit,
        if_neg fun hboth => htarget (hboth.2.trans hsource), if_pos ⟨hasset, rfl⟩]
      omega
    refine ⟨m.target, ?_, hgain.trans hloss.symm⟩
    rw [hloss, hasset]
    exact hpermits hsource
  · exact absurd hfalls (not_lt.mpr (not_falls_of_moves h hsource asset))

/-- A payment to the pool of which a part comes back if it is in the same token. -/
theorem pays_of_exchange {tokenIn tokenOut : Str} {amountIn out : Int}
    (hwallet : wallet ≠ LocalChain.pool)
    (hpaid : Moves before ⟨tokenIn, wallet, LocalChain.pool, amountIn⟩ middle)
    (hreceived : Moves middle ⟨tokenOut, LocalChain.pool, wallet, out⟩ after)
    (hpermits : permits tokenIn LocalChain.pool
      (amountIn - if tokenIn = tokenOut then out else 0)) :
    Pays permits wallet before after := by
  intro asset hfalls
  have hamount : 0 < amountIn := hpaid.positive
  have hout : 0 < out := hreceived.positive
  have hwalletBalance : balanceOf after asset wallet = balanceOf before asset wallet -
      (if asset = tokenIn then amountIn else 0) + if asset = tokenOut then out else 0 := by
    rw [hreceived.balance, hpaid.balance]
    simp [Move.debit, Move.credit, hwallet]
  have hpoolBalance : balanceOf after asset LocalChain.pool =
      balanceOf before asset LocalChain.pool + (if asset = tokenIn then amountIn else 0) -
        if asset = tokenOut then out else 0 := by
    rw [hreceived.balance, hpaid.balance]
    simp [Move.debit, Move.credit, hwallet.symm]
  have hasset : asset = tokenIn := by
    by_contra hother
    rw [if_neg hother] at hwalletBalance
    split_ifs at hwalletBalance <;> omega
  subst hasset
  rw [if_pos rfl] at hwalletBalance hpoolBalance
  have hloss : balanceOf before asset wallet - balanceOf after asset wallet =
      amountIn - if asset = tokenOut then out else 0 := by
    omega
  refine ⟨LocalChain.pool, ?_, by omega⟩
  rw [hloss]
  exact hpermits

/-- The wallet pays in an execution what its transfers and swaps are permitted to pay. -/
theorem pays_execute (hwallet : wallet ≠ LocalChain.pool) {chain : LocalChain} {tx : Tx}
    (htransfer : ∀ recipient, HookPasses chain tx → tx.sender = wallet → tx.kind = .transfer →
      tx.recipient = some recipient → permits tx.asset recipient tx.amount)
    (hswap : tx.sender = wallet → tx.kind = .swap →
      permits tx.tokenIn LocalChain.pool tx.amountIn ∧ (tx.tokenIn = tx.tokenOut →
        ∀ out, 0 < out → permits tx.tokenIn LocalChain.pool (tx.amountIn - out))) :
    Pays permits wallet chain.tokens (chain.execute tx).2.tokens := by
  have hattempted := attempted chain tx
  generalize (chain.execute tx).2 = after at hattempted ⊢
  cases hattempted with
  | nothing => exact pays_refl _
  | transferred hpasses hkind hrecipient hmoves =>
    exact pays_of_moves hmoves fun hsender => htransfer _ hpasses hsender hkind hrecipient
  | unpaid _ _ _ => exact pays_refl _
  | paid hkind _ hmoves =>
    exact pays_of_moves hmoves fun hsender => (hswap hsender hkind).1
  | exchanged hkind _ hpaid hreceived =>
    by_cases hsender : tx.sender = wallet
    · obtain ⟨hwhole, hpart⟩ := hswap hsender hkind
      rw [hsender] at hpaid hreceived
      apply pays_of_exchange hwallet hpaid hreceived
      split_ifs with hsame
      · exact hpart hsame _ hreceived.positive
      · rw [sub_zero]
        exact hwhole
    · intro asset hfalls
      have hfirst := not_falls_of_moves hpaid hsender asset
      have hsecond := not_falls_of_moves hreceived hwallet.symm asset
      exact absurd hfalls (not_lt.mpr (hfirst.trans hsecond))

end Pays

end AegisLedger.Wallet.Balances
