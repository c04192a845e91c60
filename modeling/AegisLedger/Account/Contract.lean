import AegisLedger.Support.Checks
import AegisLedger.Support.HexText

/-!
# The smart account

`contracts/src/AegisSmartAccount.sol`.  Words are bit vectors of the width the
contract declares, and arithmetic is checked as the compiler checks it.  The hash
function, `ecrecover` and the calldata decoder the compiler generates are parameters
(`Evm`).

An external call hands control to code nobody here wrote.  `execute` therefore takes
the low-level call as an argument, and `AegisLedger.Account.Calls` says what such a
call can do to the account.
-/

namespace AegisLedger.Account

open AegisLedger.Support Checks

abbrev Word := BitVec 256

abbrev Address := BitVec 160

/-- `bytes4`. -/
abbrev Selector := BitVec 32

/-! ## Data -/

inductive Operation
  | nativeTransfer
  | erc20Transfer
  | contractCall
  deriving DecidableEq

def Operation.code : Operation → Nat
  | .nativeTransfer => 0
  | .erc20Transfer => 1
  | .contractCall => 2

structure Execution where
  operation : Operation
  target : Address
  value : Word
  data : Bytes
  asset : Address
  amount : Word
  recipient : Address
  nonce : Word
  deadline : Word
  deriving DecidableEq

structure SessionKey where
  budget : BitVec 128
  spent : BitVec 128
  validUntil : BitVec 64
  active : Bool
  deriving DecidableEq

inductive Revert
  | notOwner
  | emergencyStopped
  | invalidNonce (expected received : Word)
  | authorizationExpired
  | perTransactionCapExceeded
  | lifetimeCapExceeded
  | assetNotAllowed
  | recipientNotAllowed
  | targetNotAllowed
  | selectorNotAllowed
  | invalidCalldataBinding
  | invalidValueBinding
  | invalidSigner
  | invalidSignature
  | sessionExpiredOrRevoked
  | sessionBudgetExceeded
  | reentrantExecution
  | executionFailed (returnData : Bytes)
  | require (message : String)
  /-- Checked arithmetic, `Panic(0x11)`. -/
  | overflow
  /-- Calldata that does not decode, or value sent to a function that takes none. -/
  | empty
  deriving DecidableEq

/-- The first topic of `RuleUpdated`. -/
inductive Rule
  | asset
  | recipient
  | target
  | selector
  deriving DecidableEq

inductive Event
  | ruleUpdated (rule : Rule) (subject : Address) (selector : Selector) (allowed : Bool)
  | sessionKeyUpdated (key : Address) (budget : BitVec 128) (validUntil : BitVec 64)
      (active : Bool)
  | emergencyStopUpdated (stopped : Bool)
  | executed (digest : Word) (signer : Address) (nonce amount : Word)
  deriving DecidableEq

/-- The functions of the account; `view` stands for the getters and
`executionDigest`, which change nothing. -/
inductive Request
  | receive
  | setAsset (asset : Address) (allowed : Bool)
  | setRecipient (recipient : Address) (allowed : Bool)
  | setTarget (target : Address) (allowed : Bool)
  | setSelector (target : Address) (selector : Selector) (allowed : Bool)
  | setEmergencyStop (stopped : Bool)
  | grantSessionKey (key : Address) (budget : BitVec 128) (validUntil : BitVec 64)
  | revokeSessionKey (key : Address)
  | execute (execution : Execution) (signature : Bytes)
  | view (returnData : Bytes)

structure Evm where
  keccak256 : Bytes → Word
  /-- The precompile: digest, `v`, `r`, `s`; the zero address when it fails. -/
  ecrecover : Word → BitVec 8 → Word → Word → Address
  /-- The generated dispatcher on non-empty calldata. -/
  decodeCall : Bytes → Option Request
  encodeRevert : Revert → Bytes

/-- The immutables, with what the constructor required of them, and where the
account lives. -/
structure Deployment where
  chainId : Word
  self : Address
  owner : Address
  perTransactionCap : Word
  lifetimeCap : Word
  ownerNonzero : owner ≠ 0
  capNonzero : 0 < perTransactionCap.toNat
  capWithinLifetime : perTransactionCap.toNat ≤ lifetimeCap.toNat

/-- Storage, balance and log of the account. -/
structure State where
  nonce : Word
  totalSpent : Word
  emergencyStopped : Bool
  executing : Bool
  allowedAssets : Address → Bool
  allowedRecipients : Address → Bool
  allowedTargets : Address → Bool
  allowedSelectors : Address → Selector → Bool
  sessionKeys : Address → SessionKey
  balance : Nat
  events : List Event

/-- The state the constructor leaves; the address may have been funded before. -/
def State.deployed (balance : Nat) : State where
  nonce := 0
  totalSpent := 0
  emergencyStopped := false
  executing := false
  allowedAssets := fun _ => false
  allowedRecipients := fun _ => false
  allowedTargets := fun _ => false
  allowedSelectors := fun _ _ => false
  sessionKeys := fun _ => ⟨0, 0, 0, false⟩
  balance := balance
  events := []

structure Message where
  sender : Address
  value : Word
  timestamp : Word

/-! ## Words and bytes -/

def checkedAdd {w : Nat} (a b : BitVec w) : Except Revert (BitVec w) :=
  if a.toNat + b.toNat < 2 ^ w then .ok (a + b) else .error .overflow

/-- Big-endian value of a byte string. -/
def beNat (bytes : Bytes) : Nat := bytes.foldl (fun acc b => acc * 256 + b.toNat) 0

/-- `calldataload`, as a word, of the bytes from `offset` on; zero past the end. -/
def wordAt (bytes : Bytes) (offset : Nat) : Word :=
  BitVec.ofNat 256 (beNat ((bytes.drop offset ++ List.replicate 32 0).take 32))

def bigEndian (size n : Nat) : Bytes :=
  (List.range size).reverse.map (fun i => UInt8.ofNat (n / 256 ^ i % 256))

/-- `abi.encode` of static values, each widened to a word. -/
def abiEncode (words : List Nat) : Bytes := words.flatMap (bigEndian 32)

/-- `abi.decode(data, (address, uint256))`: it takes 64 bytes, ignores what follows,
and refuses an address with higher bits set. -/
def abiDecodeTransfer (data : Bytes) : Option (Address × Word) :=
  if 64 ≤ data.length ∧ (wordAt data 0).toNat < 2 ^ 160 then
    some (BitVec.ofNat 160 (wordAt data 0).toNat, wordAt data 32)
  else none

def ascii (text : String) : Bytes := text.toList.map (fun c => UInt8.ofNat c.toNat)

def leadingSelector (data : Bytes) : Selector := BitVec.ofNat 32 (beNat (data.take 4))

/-! ## Constants -/

def erc20TransferSelector : Selector := 0xa9059cbb

def executionType : Bytes :=
  ascii "Execution(uint8 operation,address target," ++
    ascii "uint256 value,bytes32 dataHash,address asset," ++
    ascii "uint256 amount,address recipient,uint256 nonce," ++ ascii "uint256 deadline)"

def executionTypehash (evm : Evm) : Word := evm.keccak256 executionType

def domainType : Bytes :=
  ascii "EIP712Domain(string name,string version," ++
    ascii "uint256 chainId,address verifyingContract)"

def domainSeparator (evm : Evm) (d : Deployment) : Word :=
  evm.keccak256 (abiEncode [
    (evm.keccak256 domainType).toNat,
    (evm.keccak256 (ascii "AegisSmartAccount")).toNat,
    (evm.keccak256 (ascii "1")).toNat,
    d.chainId.toNat,
    d.self.toNat])

/-- The constructor. -/
def construct (chainId : Word) (self owner : Address) (perTransactionCap lifetimeCap : Word) :
    Except Revert Deployment :=
  if howner : owner = 0 then .error (.require "owner is zero")
  else if hcap : perTransactionCap.toNat = 0 then
    .error (.require "per-transaction cap is zero")
  else if hlifetime : lifetimeCap.toNat < perTransactionCap.toNat then
    .error (.require "lifetime cap below transaction cap")
  else .ok ⟨chainId, self, owner, perTransactionCap, lifetimeCap, howner,
    Nat.pos_of_ne_zero hcap, Nat.le_of_not_lt hlifetime⟩

/-! ## Execution -/

def executionDigest (evm : Evm) (d : Deployment) (execution : Execution) : Word :=
  let structHash := evm.keccak256 (abiEncode [
    (executionTypehash evm).toNat,
    execution.operation.code,
    execution.target.toNat,
    execution.value.toNat,
    (evm.keccak256 execution.data).toNat,
    execution.asset.toNat,
    execution.amount.toNat,
    execution.recipient.toNat,
    execution.nonce.toNat,
    execution.deadline.toNat])
  evm.keccak256 ([0x19, 0x01] ++ bigEndian 32 (domainSeparator evm d).toNat ++
    bigEndian 32 structHash.toNat)

/-- `_validateOperation`. -/
def validateOperation (state : State) (message : Message) (execution : Execution) :
    Except Revert Unit :=
  match execution.operation with
  | .nativeTransfer =>
    raiseIf (execution.asset ≠ 0 ∨ execution.target ≠ execution.recipient ∨
      execution.value ≠ execution.amount ∨ execution.data.length ≠ 0 ∨
      message.value ≠ execution.value) .invalidValueBinding
  | operation => do
      raiseIf (state.allowedTargets execution.target = false) .targetNotAllowed
      raiseIf (execution.data.length < 4) .invalidCalldataBinding
      let selector := leadingSelector execution.data
      raiseIf (state.allowedSelectors execution.target selector = false) .selectorNotAllowed
      if operation = .erc20Transfer then do
        raiseIf (message.value ≠ 0 ∨ execution.value ≠ 0) .invalidValueBinding
        raiseIf (state.allowedAssets execution.asset = false) .assetNotAllowed
        raiseIf (execution.target ≠ execution.asset ∨ selector ≠ erc20TransferSelector)
          .invalidCalldataBinding
        let (recipient, amount) ← orRaise (abiDecodeTransfer (execution.data.drop 4)) .empty
        raiseIf (recipient ≠ execution.recipient ∨ amount ≠ execution.amount)
          .invalidCalldataBinding
      else
        raiseIf (execution.asset ≠ 0 ∨ execution.value ≠ execution.amount ∨
          message.value ≠ execution.value) .invalidValueBinding

/-- The largest `s` of a signature that is not malleable. -/
def maximumS : Nat := 0x7fffffffffffffffffffffffffffffff5d576e7357a4501ddfe92f46681b20a0

/-- `_recover`. -/
def recover (evm : Evm) (d : Deployment) (state : State) (digest : Word)
    (signature : Bytes) : Except Revert Address := do
  raiseIf (signature.length ≠ 65) .invalidSignature
  let r := wordAt signature 0
  let s := wordAt signature 32
  let v := (signature.getD 64 0).toNat
  let v := if v < 27 then v + 27 else v
  raiseIf ((v ≠ 27 ∧ v ≠ 28) ∨ maximumS < s.toNat) .invalidSignature
  let signer := evm.ecrecover digest (BitVec.ofNat 8 v) r s
  raiseIf (signer = 0) .invalidSignature
  raiseIf (signer ≠ d.owner ∧ (state.sessionKeys signer).active = false) .invalidSigner
  pure signer

/-- Charge a session key; the owner has no session. -/
def chargeSession (d : Deployment) (state : State) (message : Message) (signer : Address)
    (amount : Word) : Except Revert State :=
  if signer = d.owner then pure state
  else do
    let session := state.sessionKeys signer
    raiseIf (session.active = false ∨ session.validUntil.toNat < message.timestamp.toNat)
      .sessionExpiredOrRevoked
    let charged ← checkedAdd (session.spent.setWidth 256) amount
    raiseIf (session.budget.toNat < charged.toNat) .sessionBudgetExceeded
    let spent ← checkedAdd session.spent (amount.setWidth 128)
    pure { state with
      sessionKeys := Function.update state.sessionKeys signer { session with spent := spent } }

structure Authorization where
  digest : Word
  signer : Address
  /-- The state in which the target is called: nonce and budgets are committed. -/
  charged : State

/-- `execute` up to the external call. -/
def authorize (evm : Evm) (d : Deployment) (state : State) (message : Message)
    (execution : Execution) (signature : Bytes) : Except Revert Authorization := do
  raiseIf (state.emergencyStopped = true) .emergencyStopped
  raiseIf (execution.deadline.toNat < message.timestamp.toNat) .authorizationExpired
  raiseIf (execution.nonce ≠ state.nonce) (.invalidNonce state.nonce execution.nonce)
  raiseIf (d.perTransactionCap.toNat < execution.amount.toNat) .perTransactionCapExceeded
  let total ← checkedAdd state.totalSpent execution.amount
  raiseIf (d.lifetimeCap.toNat < total.toNat) .lifetimeCapExceeded
  raiseIf (state.allowedRecipients execution.recipient = false) .recipientNotAllowed
  validateOperation state message execution
  let digest := executionDigest evm d execution
  let signer ← recover evm d state digest signature
  let state ← chargeSession d state message signer execution.amount
  let nonce ← checkedAdd execution.nonce 1
  let totalSpent ← checkedAdd state.totalSpent execution.amount
  pure ⟨digest, signer, { state with nonce := nonce, totalSpent := totalSpent }⟩

/-- What a low-level call returns, with the account as it is afterwards. -/
structure Reply where
  success : Bool
  returnData : Bytes
  state : State

/-- `execute` with `nonReentrant` around it, run on an account to which the value of
the message has been credited. -/
def execute (evm : Evm) (d : Deployment) (state : State) (message : Message)
    (execution : Execution) (signature : Bytes) (call : Execution → State → Reply) :
    Except Revert (State × Bytes) := do
  raiseIf (state.executing = true) .reentrantExecution
  let authorization ←
    authorize evm d { state with executing := true } message execution signature
  let reply := call execution authorization.charged
  raiseIf (reply.success = false) (.executionFailed reply.returnData)
  let event := .executed authorization.digest authorization.signer execution.nonce
    execution.amount
  pure ({ reply.state with executing := false, events := event :: reply.state.events },
    reply.returnData)

/-! ## The other functions -/

/-- A function that is not payable and only for the owner. -/
def ownerOnly (d : Deployment) (message : Message) : Except Revert Unit := do
  raiseIf (message.value ≠ 0) .empty
  raiseIf (message.sender ≠ d.owner) .notOwner

def setAsset (state : State) (asset : Address) (allowed : Bool) : State :=
  { state with
    allowedAssets := Function.update state.allowedAssets asset allowed
    events := .ruleUpdated .asset asset 0 allowed :: state.events }

def setRecipient (state : State) (recipient : Address) (allowed : Bool) : State :=
  { state with
    allowedRecipients := Function.update state.allowedRecipients recipient allowed
    events := .ruleUpdated .recipient recipient 0 allowed :: state.events }

def setTarget (state : State) (target : Address) (allowed : Bool) : State :=
  { state with
    allowedTargets := Function.update state.allowedTargets target allowed
    events := .ruleUpdated .target target 0 allowed :: state.events }

def setSelector (state : State) (target : Address) (selector : Selector) (allowed : Bool) :
    State :=
  { state with
    allowedSelectors := Function.update state.allowedSelectors target
      (Function.update (state.allowedSelectors target) selector allowed)
    events := .ruleUpdated .selector target selector allowed :: state.events }

def setEmergencyStop (state : State) (stopped : Bool) : State :=
  { state with
    emergencyStopped := stopped
    events := .emergencyStopUpdated stopped :: state.events }

def grantSessionKey (state : State) (message : Message) (key : Address)
    (budget : BitVec 128) (validUntil : BitVec 64) : Except Revert State := do
  raiseIf (key = 0) (.require "session key is zero")
  raiseIf (validUntil.toNat ≤ message.timestamp.toNat) (.require "session already expired")
  pure { state with
    sessionKeys := Function.update state.sessionKeys key ⟨budget, 0, validUntil, true⟩
    events := .sessionKeyUpdated key budget validUntil true :: state.events }

def revokeSessionKey (state : State) (key : Address) : State :=
  let session := state.sessionKeys key
  { state with
    sessionKeys := Function.update state.sessionKeys key { session with active := false }
    events := .sessionKeyUpdated key session.budget session.validUntil false :: state.events }

/-- The value of the message arrives. -/
def State.credited (state : State) (message : Message) : State :=
  { state with balance := state.balance + message.value.toNat }

/-- One call into the account. -/
def transact (evm : Evm) (d : Deployment) (state : State) (message : Message)
    (request : Request) (call : Execution → State → Reply) :
    Except Revert (State × Bytes) :=
  match request with
  | .receive => pure (state.credited message, [])
  | .view returnData => do
      raiseIf (message.value ≠ 0) .empty
      pure (state, returnData)
  | .setAsset asset allowed => do
      ownerOnly d message
      pure (setAsset state asset allowed, [])
  | .setRecipient recipient allowed => do
      ownerOnly d message
      pure (setRecipient state recipient allowed, [])
  | .setTarget target allowed => do
      ownerOnly d message
      pure (setTarget state target allowed, [])
  | .setSelector target selector allowed => do
      ownerOnly d message
      pure (setSelector state target selector allowed, [])
  | .setEmergencyStop stopped => do
      ownerOnly d message
      pure (setEmergencyStop state stopped, [])
  | .grantSessionKey key budget validUntil => do
      ownerOnly d message
      let state ← grantSessionKey state message key budget validUntil
      pure (state, [])
  | .revokeSessionKey key => do
      ownerOnly d message
      pure (revokeSessionKey state key, [])
  | .execute execution signature =>
    execute evm d (state.credited message) message execution signature call

end AegisLedger.Account
