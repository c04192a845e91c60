import AegisLedger.Wallet.Proofs.Balances
import AegisLedger.Wallet.Proofs.Pool
import AegisLedger.Wallet.Proofs.SettledCaps

/-!
# Conservation of tokens and backing of the pool

Moves keep every supply and never make a balance negative, so a supply is what was minted.
The reserves of the pool are numbers beside its balances: they stay backed as long as the
swaps that reach the executor pay a non-negative amount of one token for the other.
-/

namespace AegisLedger.Wallet.Conservation

open AegisLedger.Support Checks Dict Balances
open AegisLedger.Gateway (Host)

def usdc : Str := "TUSDC".toList

def drb : Str := "DRB".toList

/-- The steps at which `allowed` holds. -/
abbrev Steps (host : Host) (allowed : Call → Prop) : System → Call → System → Prop :=
  Run.Guarded (fun _ call => allowed call) (System.perform host)

def start (ammA ammB chainId : Int) : System := ⟨LocalChain.new ammA ammB chainId, .init⟩

/-! ## Supplies -/

/-- No supply changes and no balance becomes negative. -/
structure Keeps (before after : Tokens) : Prop where
  supply : ∀ asset, supply after asset = supply before asset
  known : ∀ asset, (after.get? asset).isSome = (before.get? asset).isSome
  nonneg : (∀ asset address, 0 ≤ balanceOf before asset address) →
    ∀ asset address, 0 ≤ balanceOf after asset address

theorem Keeps.refl (tokens : Tokens) : Keeps tokens tokens := ⟨fun _ => rfl, fun _ => rfl, id⟩

theorem Keeps.trans {first middle last : Tokens} (h : Keeps first middle)
    (h' : Keeps middle last) : Keeps first last where
  supply := fun asset => (h'.supply asset).trans (h.supply asset)
  known := fun asset => (h'.known asset).trans (h.known asset)
  nonneg := fun hfirst => h'.nonneg (h.nonneg hfirst)

variable {before after : Tokens} {m : Move}

theorem keeps_of_moves (h : Moves before m after) :
    Keeps before after where
  supply := h.supply
  known := h.known
  nonneg := by
    intro hbefore asset address
    have hpositive := h.positive
    have hcovered := h.covered
    have hbalance := hbefore asset address
    have hcredit : 0 ≤ m.credit asset address := by
      unfold Move.credit
      split_ifs <;> omega
    have hdebit : m.debit asset address ≤ balanceOf before asset address := by
      unfold Move.debit
      split_ifs with hsource
      · rw [hsource.1, hsource.2]
        exact hcovered
      · exact hbalance
    rw [h.balance]
    omega

variable {chain : LocalChain}

theorem keeps_of_attempted {after : LocalChain} {tx : Tx} (h : Attempted chain tx after) :
    Keeps chain.tokens after.tokens := by
  cases h with
  | nothing => exact .refl _
  | transferred _ _ _ hmoves => exact keeps_of_moves hmoves
  | unpaid _ _ _ => exact .refl _
  | paid _ _ hmoves => exact keeps_of_moves hmoves
  | exchanged _ _ hpaid hreceived => exact (keeps_of_moves hpaid).trans (keeps_of_moves hreceived)

theorem keeps_mineBlock (chain : LocalChain) : Keeps chain.tokens chain.mineBlock.2.tokens := by
  apply invariant_mineBlock (I := fun other => Keeps chain.tokens other.tokens)
  · intro other tx _ hother
    exact hother.trans (keeps_of_attempted (attempted other tx))
  · exact .refl _
  · intro other blocks clock hother
    exact hother

theorem keeps_submit (host : Host) (chain : LocalChain) (tx : Tx) :
    Keeps chain.tokens ((chain.submit host tx).toOption.getD chain).tokens := by
  rcases submit_cases host chain tx with hsame | ⟨_, _, hjoined⟩
  · rw [hsame]
    exact .refl _
  · rw [hjoined]
    exact .refl _

theorem keeps_settle (host : Host) (facilitator : Facilitator) (chain : LocalChain)
    (auth : PaymentAuthorization) (now : Int) :
    Keeps chain.tokens (facilitator.settle host chain auth now).2.2.tokens := by
  rcases settle_cases host facilitator chain auth now with
    hsame | ⟨_, _, _, _, _, hmoves, hpaid⟩
  · rw [hsame]
    exact .refl _
  · rw [hpaid]
    exact keeps_of_moves hmoves

/-- What was minted of an asset. -/
def minted (asset : Str) (trace : List Call) : Int :=
  (trace.map fun
    | .mint named _ amount => if named = asset then amount else 0
    | _ => 0).sum

theorem minted_append (asset : Str) (trace : List Call) (call : Call) :
    minted asset (trace ++ [call]) = minted asset trace + minted asset [call] := by
  rw [minted, List.map_append, List.sum_append]
  rfl

structure Conserved (initial : Tokens) (trace : List Call) (tokens : Tokens) : Prop where
  known : ∀ asset, (tokens.get? asset).isSome = (initial.get? asset).isSome
  supply : ∀ asset, (tokens.get? asset).isSome = true →
    supply tokens asset = Balances.supply initial asset + minted asset trace
  nonneg : ∀ asset address, 0 ≤ balanceOf tokens asset address

variable {initial : Tokens} {trace : List Call} {call : Call}

theorem Conserved.keeps {tokens : Tokens} (h : Conserved initial trace tokens)
    (hkeeps : Keeps tokens after) (hcall : ∀ asset, minted asset [call] = 0) :
    Conserved initial (trace ++ [call]) after where
  known := fun asset => (hkeeps.known asset).trans (h.known asset)
  supply := by
    intro asset hknown
    rw [hkeeps.known] at hknown
    rw [hkeeps.supply, h.supply asset hknown, minted_append, hcall]
    omega
  nonneg := hkeeps.nonneg h.nonneg

variable {asset : Str}

theorem Conserved.mint {tokens : Tokens} {address : Str} {amount : Int} {token : TestToken}
    (h : Conserved initial trace tokens) (hget : tokens.get? asset = some token)
    (hamount : 0 ≤ amount) :
    Conserved initial (trace ++ [.mint asset address amount])
      (tokens.set asset (token.mint address amount)) where
  known := fun other => (isSome_set hget _ other).trans (h.known other)
  supply := by
    intro other hknown
    rw [isSome_set hget] at hknown
    have hsupply := h.supply other hknown
    rw [supply_set, minted_append]
    by_cases hother : other = asset
    · have htotal : Balances.supply tokens asset = total token := by
        rw [Balances.supply, hget]
        rfl
      rw [hother, htotal] at hsupply
      rw [hother, if_pos rfl, total_mint, hsupply]
      simp [minted]
      omega
    · have hne : asset ≠ other := fun hsame => hother hsame.symm
      rw [if_neg hother, hsupply]
      simp [minted, hne]
  nonneg := by
    intro other holder
    have hbalance := h.nonneg other holder
    rw [balanceOf_set]
    split_ifs with hother
    · rw [hother, balanceOf, hget] at hbalance
      have hheld : 0 ≤ token.balance holder := hbalance
      rw [balance_mint]
      split_ifs <;> omega
    · exact hbalance

variable {host : Host}

theorem conserved_step {system : System} (h : Conserved initial trace system.chain.tokens)
    (hmint : ∀ asset address amount, call = .mint asset address amount → 0 ≤ amount) :
    Conserved initial (trace ++ [call]) (system.perform host call).chain.tokens := by
  cases call with
  | mint asset address amount =>
    have hamount := hmint asset address amount rfl
    change Conserved initial _
      ((system.chain.mint asset address amount).toOption.getD system.chain).tokens
    rcases mint_cases system.chain asset address amount with
      ⟨hsame, hunknown⟩ | ⟨token, hget, hset⟩
    · rw [hsame]
      refine ⟨h.known, fun other hknown => ?_, h.nonneg⟩
      have hne : asset ≠ other := by
        rintro rfl
        rw [hunknown] at hknown
        cases hknown
      rw [h.supply other hknown, minted_append]
      simp [minted, hne]
    · rw [hset]
      exact h.mint hget hamount
  | submit tx => exact h.keeps (keeps_submit host system.chain tx) fun _ => rfl
  | mineBlock => exact h.keeps (keeps_mineBlock system.chain) fun _ => rfl
  | settle auth now =>
    exact h.keeps (keeps_settle host system.facilitator system.chain auth now) fun _ => rfl
  | registerRuleHook address hook => exact h.keeps (.refl _) fun _ => rfl

/-- What the pool is funded with. -/
def funding (ammA ammB : Int) (asset : Str) : Int := if asset = usdc then ammA else ammB

theorem get?_start (ammA ammB chainId : Int) (asset : Str) :
    (start ammA ammB chainId).chain.tokens.get? asset =
      if asset = drb then some (TestToken.mint .empty LocalChain.pool ammB)
      else if asset = usdc then some (TestToken.mint .empty LocalChain.pool ammA) else none := by
  change ((Dict.empty.set usdc (TestToken.mint .empty LocalChain.pool ammA)).set drb
    (TestToken.mint .empty LocalChain.pool ammB)).get? asset = _
  rw [get?_set, get?_set]
  rfl

theorem conserved_start {ammA ammB chainId : Int} (ha : 0 < ammA) (hb : 0 < ammB) :
    Conserved (start ammA ammB chainId).chain.tokens []
      (start ammA ammB chainId).chain.tokens where
  known := fun _ => rfl
  supply := by
    intro asset _
    simp [minted]
  nonneg := by
    intro asset address
    have hempty : TestToken.balance (.empty : TestToken) address = 0 := rfl
    rw [balanceOf, get?_start]
    split_ifs
    · change 0 ≤ (TestToken.mint .empty LocalChain.pool ammB).balance address
      rw [balance_mint, hempty]
      split_ifs <;> omega
    · change 0 ≤ (TestToken.mint .empty LocalChain.pool ammA).balance address
      rw [balance_mint, hempty]
      split_ifs <;> omega
    · exact le_refl 0

def MintsNonNegative : Call → Prop
  | .mint _ _ amount => 0 ≤ amount
  | _ => True

instance : DecidablePred MintsNonNegative
  | .mint _ _ amount => inferInstanceAs (Decidable (0 ≤ amount))
  | .submit _ => .isTrue trivial
  | .mineBlock => .isTrue trivial
  | .settle _ _ => .isTrue trivial
  | .registerRuleHook _ _ => .isTrue trivial

/-- Whatever is submitted, mined or settled, and whatever rules contract wallets have: the
balances of a token add up to the funding of the pool and what was minted, and none of them
is negative. -/
theorem tokens_conserved {host : Host} {ammA ammB chainId : Int} (ha : 0 < ammA) (hb : 0 < ammB)
    {trace : List Call} {system : System}
    (hrun : Run (Steps host MintsNonNegative) (start ammA ammB chainId) trace system)
    {asset : Str} {token : TestToken} (htoken : system.chain.tokens.get? asset = some token) :
    token.values.sum = funding ammA ammB asset + minted asset trace ∧
      ∀ address, 0 ≤ token.balance address := by
  have hconserved : Conserved (start ammA ammB chainId).chain.tokens trace system.chain.tokens := by
    apply hrun.invariant (I := fun trace system =>
      Conserved (start ammA ammB chainId).chain.tokens trace system.chain.tokens)
    · exact conserved_start ha hb
    · rintro _ other call _ _ hbefore ⟨hallowed, rfl⟩
      apply conserved_step hbefore
      rintro _ _ _ rfl
      exact hallowed
  have hknown : (system.chain.tokens.get? asset).isSome = true := by
    rw [htoken]
    rfl
  have hfunding : Balances.supply (start ammA ammB chainId).chain.tokens asset =
      funding ammA ammB asset := by
    rw [hconserved.known, get?_start] at hknown
    rw [Balances.supply, get?_start, funding]
    split_ifs at hknown ⊢ with hdrb husdc husdc
    · rw [hdrb] at husdc
      cases husdc
    · exact total_mint .empty LocalChain.pool ammB |>.trans (by simp [total, values, Dict.empty])
    · exact total_mint .empty LocalChain.pool ammA |>.trans (by simp [total, values, Dict.empty])
    · cases hknown
  have hsupply := hconserved.supply asset hknown
  rw [hfunding, Balances.supply, htoken] at hsupply
  refine ⟨hsupply, ?_⟩
  intro address
  have hnonneg := hconserved.nonneg asset address
  rw [balanceOf, htoken] at hnonneg
  exact hnonneg

section Samples

open SettledCaps HexText

def walletAddress : Str := walletKeys.address plainHost

/-- A transaction of the wallet, signed. -/
def order (nonce : Int) (tx : Tx) : Tx :=
  let unsigned := { tx with
    nonce := nonce
    chainId := 31337
    deadline := 300
    decisionHash := "decision".toList }
  (walletKeys.authorizeTransaction plainHost unsigned).toOption.getD unsigned

def transferOrder (nonce amount : Int) (asset recipient : Str) : Tx :=
  order nonce { Tx.new .transfer walletAddress with
    amount := amount
    asset := asset
    recipient := some recipient }

def swapOrder (nonce amountIn minOut : Int) (tokenIn tokenOut : Str) : Tx :=
  order nonce { Tx.new .swap walletAddress with
    amountIn := amountIn
    minOut := minOut
    tokenIn := tokenIn
    tokenOut := tokenOut }

def requirements (amount : Int) (payTo nonce : Str) : PaymentRequirements where
  scheme := "exact".toList
  network := "local-test".toList
  asset := usdc
  amount := amount
  payTo := payTo
  resource := "/report".toList
  nonce := nonce
  expiresAt := 300

def authorization (req : PaymentRequirements) : PaymentAuthorization where
  requirements := req
  payer := walletAddress
  payerPubHex := (walletKeys.signDigest req.digest).1
  signatureHex := (walletKeys.signDigest req.digest).2

def systemAfter (trace : List Call) : System :=
  trace.foldl (System.perform plainHost) (start 1000000 500000 31337)

/-- A transfer, a swap, a transfer of more than there is, a settlement. -/
def busyTrace : List Call := [
  .mint usdc walletAddress 1000,
  .submit (transferOrder 0 100 usdc "vendor".toList),
  .submit (swapOrder 1 200 0 usdc drb),
  .submit (transferOrder 2 5000 usdc "vendor".toList),
  .mineBlock,
  .settle (authorization (requirements 50 "vendor".toList "n1".toList)) 0]

theorem busyTrace_conserved :
    (systemAfter busyTrace).chain.blocks.map (·.map (·.success)) = [[true, true, false]] ∧
      ∃ token, (systemAfter busyTrace).chain.tokens.get? usdc = some token ∧
        token.balance "vendor".toList = 150 ∧ token.values.sum = 1001000 ∧
        ∀ address, 0 ≤ token.balance address := by
  have hfacts : Run.Follows (fun _ call => MintsNonNegative call) (System.perform plainHost)
        (start 1000000 500000 31337) busyTrace ∧
      (systemAfter busyTrace).chain.blocks.map (·.map (·.success)) = [[true, true, false]] ∧
      ((systemAfter busyTrace).chain.tokens.get? usdc).map (·.balance "vendor".toList) =
        some 150 ∧ minted usdc busyTrace = 1000 := by
    decide +kernel
  obtain ⟨hfollows, hblocks, hvendor, hminted⟩ := hfacts
  have hrun : Run (Steps plainHost MintsNonNegative) (start 1000000 500000 31337) busyTrace
      (systemAfter busyTrace) := hfollows.run
  obtain ⟨token, htoken, hbalance⟩ := Option.map_eq_some_iff.mp hvendor
  obtain ⟨hsum, hnonneg⟩ := tokens_conserved (by decide) (by decide) hrun htoken
  rw [hminted] at hsum
  exact ⟨hblocks, token, htoken, hbalance, hsum, hnonneg⟩

end Samples

/-! ## Reserves -/

def reserve (amm : ConstantProductAMM) (asset : Str) : Int :=
  if asset = usdc then amm.a else amm.b

/-- The two tokens of the chain. -/
def Listed (asset : Str) : Prop := asset = usdc ∨ asset = drb

theorem positive_iff {amm : ConstantProductAMM} :
    (∀ asset, 0 < reserve amm asset) ↔ Pool.Positive amm := by
  constructor
  · intro h
    exact ⟨h usdc, h drb⟩
  · intro h asset
    unfold reserve
    split_ifs
    · exact h.a
    · exact h.b

/-- The pool adds what is paid to one reserve and takes what it gives from the other. -/
theorem reserve_swap {amm after : ConstantProductAMM} {tokenIn : Str} {amountIn minOut out : Int}
    (h : amm.swap tokenIn amountIn minOut = .ok (out, after)) (hin : Listed tokenIn)
    (hasset : Listed asset) :
    reserve after asset =
      if asset = tokenIn then reserve amm asset + amountIn else reserve amm asset - out := by
  have hne : drb ≠ usdc := by decide
  obtain ⟨-, -, rfl⟩ := Pool.swap_eq_ok_iff.mp h
  change reserve (if tokenIn = usdc then _ else _) asset = _
  rcases hin with rfl | rfl <;> rcases hasset with rfl | rfl <;> simp [reserve, hne, hne.symm]

/-! ## Backing -/

/-- The reserves that the pool quotes against are in its account. -/
def Backed (amm : ConstantProductAMM) (tokens : Tokens) : Prop :=
  ∀ asset, Listed asset → reserve amm asset ≤ balanceOf tokens asset LocalChain.pool

/-- A swap of a non-negative amount of one token for another. -/
def PlainSwap (tx : Tx) : Prop := tx.kind = .swap → 0 ≤ tx.amountIn ∧ tx.tokenIn ≠ tx.tokenOut

structure Solvent (amm : ConstantProductAMM) (tokens : Tokens) : Prop where
  backed : Backed amm tokens
  positive : ∀ asset, 0 < reserve amm asset
  known : ∀ asset, (tokens.get? asset).isSome = true → Listed asset

theorem listed_of_moves (h : Moves before m after)
    (hknown : ∀ asset, (before.get? asset).isSome = true → Listed asset) : Listed m.asset := by
  apply hknown
  cases hget : before.get? m.asset with
  | some token => rfl
  | none =>
    have hpositive := h.positive
    have hcovered := h.covered
    rw [balanceOf, hget] at hcovered
    exact absurd (hpositive.trans_le hcovered) (lt_irrefl 0)

theorem known_of_moves (h : Moves before m after)
    (hknown : ∀ asset, (before.get? asset).isSome = true → Listed asset) (asset : Str)
    (hafter : (after.get? asset).isSome = true) : Listed asset := by
  rw [h.known] at hafter
  exact hknown asset hafter

/-- A payment to the pool or past it. -/
theorem poolBalance_of_moves (h : Moves before m after) (hsource : m.source ≠ LocalChain.pool)
    (asset : Str) :
    balanceOf after asset LocalChain.pool =
      balanceOf before asset LocalChain.pool + m.credit asset LocalChain.pool := by
  have hdebit : m.debit asset LocalChain.pool = 0 := by
    rw [Move.debit, if_neg]
    rintro ⟨_, hpool⟩
    exact hsource hpool.symm
  rw [h.balance, hdebit]
  omega

theorem credit_nonneg (h : Moves before m after) (asset address : Str) :
    0 ≤ m.credit asset address := by
  have hpositive := h.positive
  unfold Move.credit
  split_ifs <;> omega

section Execute

variable {chain : LocalChain} {tx : Tx} {out : Int} {amm : ConstantProductAMM}

theorem positive_swap (hreserves : ∀ asset, 0 < reserve chain.amm asset)
    (hamount : 0 ≤ tx.amountIn)
    (hswap : chain.amm.swap tx.tokenIn tx.amountIn tx.minOut = .ok (out, amm)) :
    ∀ asset, 0 < reserve amm asset :=
  positive_iff.mpr (Pool.positive_swap (positive_iff.mp hreserves) hamount hswap)

/-- After the payment the pool holds what it counts, and what it is about to give. -/
theorem backed_paid (h : Solvent chain.amm chain.tokens) (hsender : tx.sender ≠ LocalChain.pool)
    (hamount : 0 ≤ tx.amountIn)
    (hswap : chain.amm.swap tx.tokenIn tx.amountIn tx.minOut = .ok (out, amm)) {tokens : Tokens}
    (hmoves : Moves chain.tokens ⟨tx.tokenIn, tx.sender, LocalChain.pool, tx.amountIn⟩ tokens)
    (asset : Str) (hasset : Listed asset) :
    0 ≤ out ∧ reserve amm asset + (if asset = tx.tokenIn then 0 else out) ≤
      balanceOf tokens asset LocalChain.pool := by
  have hbacked := h.backed asset hasset
  refine ⟨(Pool.out_bounds (positive_iff.mp h.positive) hamount hswap).1, ?_⟩
  rw [reserve_swap hswap (listed_of_moves hmoves h.known) hasset,
    poolBalance_of_moves hmoves hsender, Move.credit]
  dsimp only
  by_cases hsame : asset = tx.tokenIn
  · rw [if_pos hsame, if_pos hsame, if_pos ⟨hsame, rfl⟩]
    omega
  · rw [if_neg hsame, if_neg hsame, if_neg fun hboth => hsame hboth.1]
    omega

theorem solvent_execute (h : Solvent chain.amm chain.tokens) (hsender : tx.sender ≠ LocalChain.pool)
    (hplain : PlainSwap tx) :
    Solvent (chain.execute tx).2.amm (chain.execute tx).2.tokens := by
  have hattempted := attempted chain tx
  generalize (chain.execute tx).2 = after at hattempted ⊢
  cases hattempted with
  | nothing => exact h
  | transferred _ _ _ hmoves =>
    refine ⟨fun asset hasset => ?_, h.positive, known_of_moves hmoves h.known⟩
    have hbacked := h.backed asset hasset
    have hcredit := credit_nonneg hmoves asset LocalChain.pool
    change reserve chain.amm asset ≤ balanceOf _ asset LocalChain.pool
    rw [poolBalance_of_moves hmoves hsender]
    omega
  | unpaid hkind hswap hamount =>
    have hzero : tx.amountIn = 0 := le_antisymm hamount (hplain hkind).1
    rw [hzero] at hswap
    rw [Pool.swap_zero hswap]
    exact h
  | paid hkind hswap hmoves =>
    have hamount := (hplain hkind).1
    refine ⟨fun asset hasset => ?_,
      positive_swap h.positive hamount hswap,
      known_of_moves hmoves h.known⟩
    obtain ⟨hout, hbacked⟩ := backed_paid h hsender hamount hswap hmoves asset hasset
    dsimp only
    split_ifs at hbacked <;> omega
  | exchanged hkind hswap hpaid hreceived =>
    obtain ⟨hamount, hdistinct⟩ := hplain hkind
    refine ⟨fun asset hasset => ?_,
      positive_swap h.positive hamount hswap,
      known_of_moves hreceived (known_of_moves hpaid h.known)⟩
    obtain ⟨hout, hbacked⟩ := backed_paid h hsender hamount hswap hpaid asset hasset
    have hcredit : ∀ amount, Move.credit ⟨tx.tokenOut, LocalChain.pool, tx.sender, amount⟩ asset
        LocalChain.pool = 0 := fun amount => if_neg fun hboth => hsender hboth.2.symm
    dsimp only
    rw [hreceived.balance, hcredit, Move.debit]
    dsimp only
    by_cases hsame : asset = tx.tokenOut
    · have hother : asset ≠ tx.tokenIn := fun heq => hdistinct (heq.symm.trans hsame)
      rw [if_neg hother] at hbacked
      rw [if_pos ⟨hsame, rfl⟩]
      omega
    · rw [if_neg fun hboth => hsame hboth.1]
      split_ifs at hbacked <;> omega

end Execute

/-! ## Runs of the chain -/

theorem addressOf_ne_pool (host : Host) (publicKey : Bytes) :
    Gateway.addressOf host publicKey ≠ LocalChain.pool := by
  intro h
  have hhead := congrArg List.head? h
  cases hhead

structure SolventRun (chain : LocalChain) : Prop where
  solvent : Solvent chain.amm chain.tokens
  pending : ∀ tx ∈ chain.mempool, tx.sender ≠ LocalChain.pool ∧ PlainSwap tx

theorem solventRun_mineBlock (h : SolventRun chain) : SolventRun chain.mineBlock.2 := by
  have hsolvent : Solvent chain.mineBlock.2.amm chain.mineBlock.2.tokens := by
    apply invariant_mineBlock (I := fun other => Solvent other.amm other.tokens)
    · intro other tx htx hother
      obtain ⟨hsender, hplain⟩ := h.pending tx htx
      exact solvent_execute hother hsender hplain
    · exact h.solvent
    · intro other blocks clock hother
      exact hother
  refine ⟨hsolvent, ?_⟩
  rw [mempool_mineBlock]
  simp

theorem solventRun_submit (hpool : host.lower LocalChain.pool = LocalChain.pool) {tx : Tx}
    (h : SolventRun chain) (hplain : PlainSwap tx) :
    SolventRun ((chain.submit host tx).toOption.getD chain) := by
  rcases submit_cases host chain tx with hsame | ⟨nonces, hverify, hjoined⟩
  · rw [hsame]
    exact h
  · rw [hjoined]
    refine ⟨h.solvent, ?_⟩
    intro other hother
    rcases List.mem_append.mp hother with hother | hother
    · exact h.pending other hother
    · obtain rfl := List.mem_singleton.mp hother
      refine ⟨?_, hplain⟩
      intro hsender
      change tx.sender = LocalChain.pool at hsender
      obtain ⟨publicKey, _, _, haddress⟩ := verifyAuthorization_eq_ok hverify
      rw [hsender, hpool, or_self] at haddress
      exact addressOf_ne_pool host publicKey haddress

theorem solventRun_settle {facilitator : Facilitator} {auth : PaymentAuthorization} {now : Int}
    (h : SolventRun chain) : SolventRun (facilitator.settle host chain auth now).2.2 := by
  rcases settle_cases host facilitator chain auth now with
    hsame | ⟨publicKey, _, tokens, _, haddress, hmoves, hpaid⟩
  · rw [hsame]
    exact h
  · rw [hpaid]
    have hpayer : auth.payer ≠ LocalChain.pool := haddress ▸ addressOf_ne_pool host publicKey
    refine ⟨⟨fun asset hasset => ?_, h.solvent.positive, known_of_moves hmoves h.solvent.known⟩,
      h.pending⟩
    have hbacked := h.solvent.backed asset hasset
    have hcredit := credit_nonneg hmoves asset LocalChain.pool
    change reserve chain.amm asset ≤ balanceOf tokens asset LocalChain.pool
    rw [poolBalance_of_moves hmoves hpayer]
    omega

theorem solventRun_mint {address : Str} {amount : Int} (h : SolventRun chain)
    (hamount : 0 ≤ amount) :
    SolventRun ((chain.mint asset address amount).toOption.getD chain) := by
  rcases mint_cases chain asset address amount with ⟨hsame, _⟩ | ⟨token, hget, hset⟩
  · rw [hsame]
    exact h
  · rw [hset]
    refine ⟨⟨fun other hother => ?_, h.solvent.positive, fun other hknown => ?_⟩, h.pending⟩
    · refine (h.solvent.backed other hother).trans ?_
      rw [balanceOf_set]
      split_ifs with hsame
      · rw [balance_mint, hsame, balanceOf, hget]
        change token.balance LocalChain.pool ≤ _
        split_ifs <;> omega
      · exact le_refl _
    · change ((chain.tokens.set asset _).get? other).isSome = true at hknown
      rw [isSome_set hget] at hknown
      exact h.solvent.known other hknown

/-- Mints of non-negative amounts, and swaps of a non-negative amount of one token for
another. -/
def Ordinary : Call → Prop
  | .mint _ _ amount => 0 ≤ amount
  | .submit tx => PlainSwap tx
  | _ => True

theorem solventRun_perform (hpool : host.lower LocalChain.pool = LocalChain.pool)
    {system : System} (h : SolventRun system.chain) (hordinary : Ordinary call) :
    SolventRun (system.perform host call).chain := by
  cases call with
  | mint asset address amount => exact solventRun_mint h hordinary
  | submit tx => exact solventRun_submit hpool h hordinary
  | mineBlock => exact solventRun_mineBlock h
  | settle auth now => exact solventRun_settle h
  | registerRuleHook address hook => exact ⟨h.solvent, h.pending⟩

theorem solventRun_start {ammA ammB chainId : Int} (ha : 0 < ammA) (hb : 0 < ammB) :
    SolventRun (start ammA ammB chainId).chain := by
  refine ⟨⟨?_, ?_, ?_⟩, ?_⟩
  · have hempty : TestToken.balance (.empty : TestToken) LocalChain.pool = 0 := rfl
    intro asset hasset
    rw [balanceOf, get?_start]
    rcases hasset with rfl | rfl
    · change ammA ≤ (TestToken.mint .empty LocalChain.pool ammA).balance LocalChain.pool
      rw [balance_mint, hempty, if_pos rfl]
      omega
    · change ammB ≤ (TestToken.mint .empty LocalChain.pool ammB).balance LocalChain.pool
      rw [balance_mint, hempty, if_pos rfl]
      omega
  · intro asset
    change 0 < if asset = usdc then ammA else ammB
    split_ifs <;> assumption
  · intro asset hknown
    rw [get?_start] at hknown
    split_ifs at hknown with hdrb husdc
    · exact Or.inr hdrb
    · exact Or.inl husdc
    · cases hknown
  · intro tx htx
    cases htx

/-- In every run of ordinary calls the reserves are backed. -/
theorem reserves_backed {host : Host} (hpool : host.lower LocalChain.pool = LocalChain.pool)
    {ammA ammB chainId : Int} (ha : 0 < ammA) (hb : 0 < ammB) {trace : List Call}
    {system : System} (hrun : Run (Steps host Ordinary) (start ammA ammB chainId) trace system) :
    system.chain.amm.a ≤ balanceOf system.chain.tokens usdc LocalChain.pool ∧
      system.chain.amm.b ≤ balanceOf system.chain.tokens drb LocalChain.pool := by
  have hsolvent : SolventRun system.chain := by
    apply hrun.invariant (I := fun _ system => SolventRun system.chain)
    · exact solventRun_start ha hb
    · rintro _ _ _ _ _ hbefore ⟨hordinary, rfl⟩
      exact solventRun_perform hpool hbefore hordinary
  exact ⟨hsolvent.solvent.backed usdc (Or.inl rfl), hsolvent.solvent.backed drb (Or.inr rfl)⟩

section Samples

open SettledCaps

instance (tx : Tx) : Decidable (PlainSwap tx) :=
  inferInstanceAs (Decidable (tx.kind = .swap → 0 ≤ tx.amountIn ∧ tx.tokenIn ≠ tx.tokenOut))

instance : DecidablePred Ordinary
  | .mint _ _ amount => inferInstanceAs (Decidable (0 ≤ amount))
  | .submit tx => inferInstanceAs (Decidable (PlainSwap tx))
  | .mineBlock => .isTrue trivial
  | .settle _ _ => .isTrue trivial
  | .registerRuleHook _ _ => .isTrue trivial

theorem busyTrace_backed :
    (systemAfter busyTrace).chain.amm = ⟨1000200, 499901⟩ ∧
      1000200 ≤ balanceOf (systemAfter busyTrace).chain.tokens usdc LocalChain.pool ∧
      499901 ≤ balanceOf (systemAfter busyTrace).chain.tokens drb LocalChain.pool := by
  have hfacts : Run.Follows (fun _ call => Ordinary call) (System.perform plainHost)
        (start 1000000 500000 31337) busyTrace ∧
      (systemAfter busyTrace).chain.amm = ⟨1000200, 499901⟩ := by
    decide +kernel
  obtain ⟨hfollows, hamm⟩ := hfacts
  have hrun : Run (Steps plainHost Ordinary) (start 1000000 500000 31337) busyTrace
      (systemAfter busyTrace) := hfollows.run
  have hbacked := reserves_backed (by decide) (by decide) (by decide) hrun
  rw [hamm] at hbacked
  exact ⟨hamm, hbacked⟩

/-- A swap of a negative amount. -/
def negativeTrace : List Call := [.submit (swapOrder 0 (-100000) (-100000) usdc drb), .mineBlock]

/-- A swap of a token for itself. -/
def circularTrace : List Call :=
  [.mint usdc walletAddress 1000, .submit (swapOrder 0 1000 0 usdc usdc), .mineBlock]

/-- The first swap is refused and has moved the reserves, the second takes from the account
of one token what it subtracts from the reserve of the other. -/
theorem unbackedReserves :
    Run (Steps plainHost MintsNonNegative) (start 1000000 500000 31337) negativeTrace
        (systemAfter negativeTrace) ∧
      (systemAfter negativeTrace).chain.blocks.map (·.map (·.success)) = [[false]] ∧
      (systemAfter negativeTrace).chain.amm = ⟨900000, 555371⟩ ∧
      balanceOf (systemAfter negativeTrace).chain.tokens drb LocalChain.pool = 500000 ∧
      Run (Steps plainHost MintsNonNegative) (start 1000000 500000 31337) circularTrace
        (systemAfter circularTrace) ∧
      (systemAfter circularTrace).chain.blocks.map (·.map (·.success)) = [[true]] ∧
      (systemAfter circularTrace).chain.amm = ⟨1001000, 499502⟩ ∧
      balanceOf (systemAfter circularTrace).chain.tokens usdc LocalChain.pool = 1000502 := by
  refine ⟨Run.Follows.run ?_, ?_, ?_, ?_, Run.Follows.run ?_, ?_⟩ <;> decide +kernel

end Samples

end AegisLedger.Wallet.Conservation
