import AegisLedger.Gateway.Signing

/-!
# The local chain

`agentwallet/chain/ledger.py`: signed transactions, tokens, the constant-product pool, the
mempool and the block executor; with `KeyPair` and `verify_with_address` of
`agentwallet/chain/crypto.py`, and the signer and the contract-wallet rules of
`agentwallet/wallet`.

An exception leaves what was written before it, so a step that can fail half-way returns
the chain beside its result.  The executor turns the two exceptions of the ledger into a
receipt; every other one leaves `mine_block`.
-/

namespace AegisLedger.Wallet

open AegisLedger.Support HexText Checks
open AegisLedger.Gateway (Host Json Literal addressOf dumpsWith floatBits intText lowHexDigits utf8)

/-! ## JSON text -/

/-- How `json.dumps` writes a character outside the printable ASCII range. -/
def escapeNonAscii (c : Char) : Str :=
  if c.toNat ≤ 126 then [c]
  else if c.toNat < 0x10000 then '\\' :: 'u' :: lowHexDigits 4 c.toNat
  else
    let offset := c.toNat - 0x10000
    '\\' :: 'u' :: lowHexDigits 4 (0xD800 + offset / 1024) ++
      '\\' :: 'u' :: lowHexDigits 4 (0xDC00 + offset % 1024)

/-- `json.dumps(value, sort_keys=True, separators=(",", ":")).encode()`. -/
def canonicalWith (float : UInt64 → Literal) (value : Json) : Bytes :=
  utf8 ((dumpsWith float value).flatMap escapeNonAscii)

/-- The same of a value without floats. -/
def canonical (value : Json) : Bytes := canonicalWith floatBits value

def sha256Hex (host : Host) (data : Bytes) : Str := toHex (host.sha256 data)

/-! ## Keys -/

/-- A key pair by its public bytes and by what it signs. -/
structure KeyPair where
  publicKeyBytes : Bytes
  sign : Bytes → Bytes

def KeyPair.address (host : Host) (keys : KeyPair) : Str := addressOf host keys.publicKeyBytes

def verifyWithAddress (host : Host) (address : Str) (message signature publicKey : Bytes) :
    Bool :=
  if addressOf host publicKey ≠ host.lower address ∧ addressOf host publicKey ≠ address then
    false
  else host.ed25519Verify publicKey message signature

/-! ## Transactions -/

inductive TxKind
  | transfer
  | swap
  deriving DecidableEq

def TxKind.value : TxKind → String
  | .transfer => "transfer"
  | .swap => "swap"

/-- `recipient` is `to` and `hidden` is `private`. -/
structure Tx where
  kind : TxKind
  sender : Str
  recipient : Option Str
  amount : Int
  asset : Str
  amountIn : Int
  tokenIn : Str
  tokenOut : Str
  minOut : Int
  hidden : Bool
  submittedAt : Int
  nonce : Int
  chainId : Int
  deadline : Int
  decisionHash : Str
  publicKeyHex : Str
  signatureHex : Str
  deriving DecidableEq

/-- A transaction with the defaults of the source. -/
def Tx.new (kind : TxKind) (sender : Str) : Tx where
  kind := kind
  sender := sender
  recipient := none
  amount := 0
  asset := "TUSDC".toList
  amountIn := 0
  tokenIn := "TUSDC".toList
  tokenOut := "DRB".toList
  minOut := 0
  hidden := false
  submittedAt := 0
  nonce := 0
  chainId := 0
  deadline := 0
  decisionHash := []
  publicKeyHex := []
  signatureHex := []

def Tx.payload (tx : Tx) : Json := .obj [
    ("amount".toList, .int tx.amount),
    ("amount_in".toList, .int tx.amountIn),
    ("asset".toList, .str tx.asset),
    ("chain_id".toList, .int tx.chainId),
    ("deadline".toList, .int tx.deadline),
    ("decision_hash".toList, .str tx.decisionHash),
    ("kind".toList, .str tx.kind.value.toList),
    ("min_out".toList, .int tx.minOut),
    ("nonce".toList, .int tx.nonce),
    ("private".toList, .bool tx.hidden),
    ("sender".toList, .str tx.sender),
    ("to".toList, match tx.recipient with
      | some recipient => .str recipient
      | none => .null),
    ("token_in".toList, .str tx.tokenIn),
    ("token_out".toList, .str tx.tokenOut)]

def Tx.digest (host : Host) (tx : Tx) : Bytes := host.sha256 (canonical tx.payload)

def Tx.hash (host : Host) (tx : Tx) : Str := toHex (tx.digest host)

structure Receipt where
  tx : Tx
  success : Bool
  amountOut : Int
  error : Str
  deriving DecidableEq

inductive ChainError
  | insufficientFunds (message : Str)
  | ruleViolation (message : Str)
  | keyError (key : Str)
  | zeroDivision
  | foreign
  deriving DecidableEq

/-! ## Tokens -/

/-- The balances of a token. -/
abbrev TestToken := Dict Str Int

namespace TestToken

def balance (token : TestToken) (address : Str) : Int := (token.get? address).getD 0

def mint (token : TestToken) (address : Str) (amount : Int) : TestToken :=
  token.set address (balance token address + amount)

def transfer (token : TestToken) (source target : Str) (amount : Int) :
    Except ChainError TestToken := do
  raiseIf (amount ≤ 0) (.ruleViolation "non-positive transfer".toList)
  raiseIf (balance token source < amount) (.insufficientFunds
    (source ++ " has ".toList ++ intText (balance token source) ++ " < ".toList ++
      intText amount))
  let debited : TestToken := token.set source (balance token source - amount)
  pure (debited.set target (balance debited target + amount))

end TestToken

/-! ## The pool -/

structure ConstantProductAMM where
  a : Int
  b : Int
  deriving DecidableEq

namespace ConstantProductAMM

def feeBps : Int := 30

def quote (amm : ConstantProductAMM) (tokenIn : Str) (amountIn : Int) : Except ChainError Int := do
  let reserves := if tokenIn = "TUSDC".toList then (amm.a, amm.b) else (amm.b, amm.a)
  let effective := amountIn * (10000 - feeBps)
  raiseIf (reserves.1 * 10000 + effective = 0) ChainError.zeroDivision
  pure ((effective * reserves.2).fdiv (reserves.1 * 10000 + effective))

def swap (amm : ConstantProductAMM) (tokenIn : Str) (amountIn minOut : Int) :
    Except ChainError (Int × ConstantProductAMM) := do
  let out ← amm.quote tokenIn amountIn
  raiseIf (out < minOut) (.ruleViolation
    ("slippage: out ".toList ++ intText out ++ " < min_out ".toList ++ intText minOut))
  if tokenIn = "TUSDC".toList then pure (out, ⟨amm.a + amountIn, amm.b - out⟩)
  else pure (out, ⟨amm.a - out, amm.b + amountIn⟩)

end ConstantProductAMM

/-! ## The chain -/

/-- A rule of a contract wallet.  What it raises beside the two exceptions of the ledger is
`foreign`. -/
abbrev RuleHook := Tx → Except ChainError Unit

structure LocalChain where
  tokens : Dict Str TestToken
  amm : ConstantProductAMM
  mempool : List Tx
  blocks : List (List Receipt)
  clock : Int
  chainId : Int
  nextNonces : Dict Str Int
  ruleHooks : Dict Str RuleHook

namespace LocalChain

def pool : Str := "amm:pool".toList

/-- `__init__`. -/
def new (ammA ammB chainId : Int) : LocalChain where
  tokens := (Dict.empty.set "TUSDC".toList (TestToken.mint .empty pool ammA)).set "DRB".toList
    (TestToken.mint .empty pool ammB)
  amm := ⟨ammA, ammB⟩
  mempool := []
  blocks := []
  clock := 0
  chainId := chainId
  nextNonces := .empty
  ruleHooks := .empty

def mint (chain : LocalChain) (asset address : Str) (amount : Int) :
    Except ChainError LocalChain := do
  let token ← orRaise (chain.tokens.get? asset) (ChainError.keyError asset)
  pure { chain with tokens := chain.tokens.set asset (token.mint address amount) }

def registerRuleHook (chain : LocalChain) (address : Str) (hook : RuleHook) : LocalChain :=
  { chain with ruleHooks := chain.ruleHooks.set address hook }

def nextNonce (host : Host) (chain : LocalChain) (address : Str) : Int :=
  (chain.nextNonces.get? (host.lower address)).getD 0

/-- `_verify_authorization`. -/
def verifyAuthorization (host : Host) (chain : LocalChain) (tx : Tx) : Except ChainError Unit := do
  let malformed := ChainError.ruleViolation "malformed transaction signature".toList
  raiseIf (tx.publicKeyHex = [] ∨ tx.signatureHex = [])
    (.ruleViolation "transaction signature required".toList)
  raiseIf (tx.chainId ≠ chain.chainId) (.ruleViolation
    ("wrong chain: transaction ".toList ++ intText tx.chainId ++ ", backend ".toList ++
      intText chain.chainId))
  raiseIf (tx.deadline < chain.clock) (.ruleViolation "transaction expired".toList)
  raiseIf (tx.nonce ≠ chain.nextNonce host tx.sender) (.ruleViolation
    ("invalid nonce: expected ".toList ++ intText (chain.nextNonce host tx.sender) ++
      ", received ".toList ++ intText tx.nonce))
  raiseIf (tx.decisionHash = [])
    (.ruleViolation "transaction is not bound to a decision".toList)
  let publicKey ← orRaise (fromHex tx.publicKeyHex) malformed
  raiseIf (publicKey.length ≠ 32) malformed
  let signature ← orRaise (fromHex tx.signatureHex) malformed
  raiseIf (verifyWithAddress host tx.sender (tx.digest host) signature publicKey = false)
    (.ruleViolation "invalid transaction signature".toList)

def submit (host : Host) (chain : LocalChain) (tx : Tx) : Except ChainError LocalChain := do
  chain.verifyAuthorization host tx
  let key := host.lower tx.sender
  pure { chain with
    mempool := chain.mempool ++ [{ tx with submittedAt := chain.clock }]
    nextNonces := chain.nextNonces.set key (chain.nextNonce host key + 1) }

/-! ## Execution -/

/-- `self.tokens[asset].transfer(source, target, amount)`. -/
def transferToken (chain : LocalChain) (asset source target : Str) (amount : Int) :
    Except ChainError LocalChain := do
  let token ← orRaise (chain.tokens.get? asset) (ChainError.keyError asset)
  let moved ← token.transfer source target amount
  pure { chain with tokens := chain.tokens.set asset moved }

/-- The swap of `_execute`.  The pool has moved before the tokens do. -/
def executeSwap (chain : LocalChain) (tx : Tx) : Except ChainError Int × LocalChain :=
  match chain.tokens.get? tx.tokenIn, chain.tokens.get? tx.tokenOut with
  | none, _ => (.error (.keyError tx.tokenIn), chain)
  | some _, none => (.error (.keyError tx.tokenOut), chain)
  | some tokenIn, some _ =>
    if tokenIn.balance tx.sender < tx.amountIn then
      (.error (.insufficientFunds "swap input exceeds balance".toList), chain)
    else
      match chain.amm.swap tx.tokenIn tx.amountIn tx.minOut with
      | .error error => (.error error, chain)
      | .ok (out, amm) =>
        let swapped := { chain with amm := amm }
        match swapped.transferToken tx.tokenIn tx.sender pool tx.amountIn with
        | .error error => (.error error, swapped)
        | .ok paid =>
          match paid.transferToken tx.tokenOut pool tx.sender out with
          | .error error => (.error error, paid)
          | .ok received => (.ok out, received)

def executeTransfer (chain : LocalChain) (tx : Tx) : Except ChainError Int × LocalChain :=
  match tx.recipient with
  | none => (.error (.ruleViolation "transfer recipient is required".toList), chain)
  | some recipient =>
    match chain.transferToken tx.asset tx.sender recipient tx.amount with
    | .error error => (.error error, chain)
    | .ok paid => (.ok 0, paid)

/-- The body of the `try` of `_execute`, with the amount received. -/
def attempt (chain : LocalChain) (tx : Tx) : Except ChainError Int × LocalChain :=
  let checked : Except ChainError Unit :=
    match chain.ruleHooks.get? tx.sender with
    | some hook => hook tx
    | none => .ok ()
  match checked with
  | .error error => (.error error, chain)
  | .ok () =>
    match tx.kind with
    | .transfer => chain.executeTransfer tx
    | .swap => chain.executeSwap tx

/-- `_execute`. -/
def execute (chain : LocalChain) (tx : Tx) : Except ChainError Receipt × LocalChain :=
  match chain.attempt tx with
  | (.ok amountOut, after) => (.ok ⟨tx, true, amountOut, []⟩, after)
  | (.error (.insufficientFunds message), after) => (.ok ⟨tx, false, 0, message⟩, after)
  | (.error (.ruleViolation message), after) => (.ok ⟨tx, false, 0, message⟩, after)
  | (.error error, after) => (.error error, after)

/-- The loop of `mine_block`, with the receipts so far. -/
def executeAll (chain : LocalChain) (receipts : List Receipt) :
    List Tx → Except ChainError (List Receipt) × LocalChain
  | [] => (.ok receipts, chain)
  | tx :: rest =>
    match chain.execute tx with
    | (.error error, after) => (.error error, after)
    | (.ok receipt, after) => after.executeAll (receipts ++ [receipt]) rest

def mineBlock (chain : LocalChain) : Except ChainError (List Receipt) × LocalChain :=
  match { chain with mempool := [] }.executeAll [] chain.mempool with
  | (.error error, after) => (.error error, after)
  | (.ok receipts, after) =>
    (.ok receipts, { after with blocks := after.blocks ++ [receipts], clock := after.clock + 1 })

end LocalChain

/-! ## The isolated signer -/

/-- `IsolatedSigner.authorize_transaction`. -/
def KeyPair.authorizeTransaction (host : Host) (signer : KeyPair) (tx : Tx) :
    Except ChainError Tx := do
  raiseIf (host.lower tx.sender ≠ host.lower (signer.address host))
    (.ruleViolation "isolated signer does not control transaction sender".toList)
  pure { tx with
    publicKeyHex := toHex signer.publicKeyBytes
    signatureHex := toHex (signer.sign (tx.digest host)) }

/-- `IsolatedSigner.sign`: the public key and the signature. -/
def KeyPair.signDigest (signer : KeyPair) (digest : Bytes) : Str × Str :=
  (toHex signer.publicKeyBytes, toHex (signer.sign digest))

/-! ## Contract wallets -/

structure ContractWalletRules where
  perTxCap : Int
  allowlist : List Str
  allowedAssets : List Str

namespace ContractWalletRules

/-- `__init__`; a missing list and an empty one are the same. -/
def init (perTxCap : Int) (allowlist allowedAssets : List Str) : ContractWalletRules where
  perTxCap := perTxCap
  allowlist := allowlist
  allowedAssets := if allowedAssets = [] then ["TUSDC".toList] else allowedAssets

def hook (rules : ContractWalletRules) : RuleHook := fun tx =>
  match tx.kind with
  | .swap => .ok ()
  | .transfer => do
      raiseIf (tx.asset ∉ rules.allowedAssets) (ChainError.ruleViolation
        ("contract wallet: asset ".toList ++ tx.asset ++ " not allowed".toList))
      raiseIf (rules.perTxCap ≠ 0 ∧ rules.perTxCap < tx.amount) (ChainError.ruleViolation
        ("contract wallet: ".toList ++ intText tx.amount ++ " > on-chain per-tx cap ".toList ++
          intText rules.perTxCap))
      raiseIf (rules.allowlist ≠ [] ∧ ∀ recipient ∈ rules.allowlist,
          tx.recipient ≠ some recipient) (ChainError.ruleViolation
        ("contract wallet: recipient ".toList ++ tx.recipient.getD "None".toList ++
          " not allowlisted".toList))

end ContractWalletRules

def deployContractWallet (chain : LocalChain) (address : Str) (rules : ContractWalletRules) :
    LocalChain :=
  chain.registerRuleHook address rules.hook

end AegisLedger.Wallet
