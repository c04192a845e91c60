import AegisLedger.Gateway.Signing

/-!
# Decisions, executions and tracked transactions

The in-memory repositories of `aegisledger/artifact_store.py`, and the registration of
submitted transactions in `MemorySettlementStore` of `aegisledger/reconciler.py`.  Both
keep the first artifact that is put for a proposal.
-/

namespace AegisLedger.Gateway

open AegisLedger.Support HexText Checks

/-- `SignerResult` of `aegisledger/signer_client.py`. -/
structure SignerResult where
  signingHash : Str
  transactionHash : Str
  signedTransaction : Bytes
  walletNonce : Nat
  chainId : Nat
  decisionId : Uuid
  signerIdentity : Str
  signature : Str
  enclaveEvidence : List (Str × Json)

structure StoredExecutionV1 where
  transactionId : Uuid
  proposalId : Uuid
  authorization : TransactionSignRequestV1
  signingHash : Hex32
  transactionHash : Hex32
  rawTransaction : HexData
  signerIdentity : Address
  signature : {s : Str // matchesHex isLowerHexDigit 130 s = true}
  enclaveEvidence : List (Str × Json)
  signedAt : Datetime
  submittedAt : Option Datetime

/-- `from_signer`; a field that breaks its constraint raises `error`. -/
def StoredExecutionV1.fromSigner {ε : Type} (error : ε) (proposalId : Uuid)
    (authorization : TransactionSignRequestV1) (result : SignerResult) (transactionId : Uuid)
    (now : Datetime) : Except ε StoredExecutionV1 := do
  let signingHash ← constrain result.signingHash error
  let transactionHash ← constrain result.transactionHash error
  let rawTransaction ← constrain (prefixedHex result.signedTransaction) error
  let signerIdentity ← constrain result.signerIdentity error
  let signature ← constrain result.signature error
  pure {
    transactionId := transactionId
    proposalId := proposalId
    authorization := authorization
    signingHash := signingHash
    transactionHash := transactionHash
    rawTransaction := rawTransaction
    signerIdentity := signerIdentity
    signature := signature
    enclaveEvidence := result.enclaveEvidence
    signedAt := now
    submittedAt := none }

/-! ## The artifact store -/

structure AuthorizationArtifactStore where
  decisions : Dict Uuid DecisionTokenV1
  executions : Dict Uuid StoredExecutionV1

namespace AuthorizationArtifactStore

def empty : AuthorizationArtifactStore := ⟨.empty, .empty⟩

def getDecision (store : AuthorizationArtifactStore) (proposalId : Uuid) : Option DecisionTokenV1 :=
  store.decisions.get? proposalId

def putDecision (store : AuthorizationArtifactStore) (proposalId : Uuid) (decision : DecisionTokenV1) :
    (DecisionTokenV1 × Bool) × AuthorizationArtifactStore :=
  match store.decisions.get? proposalId with
  | some existing => ((existing, false), store)
  | none => ((decision, true),
      { store with decisions := store.decisions.set proposalId decision })

def getExecution (store : AuthorizationArtifactStore) (proposalId : Uuid) : Option StoredExecutionV1 :=
  store.executions.get? proposalId

def putExecution (store : AuthorizationArtifactStore) (execution : StoredExecutionV1) :
    (StoredExecutionV1 × Bool) × AuthorizationArtifactStore :=
  match store.executions.get? execution.proposalId with
  | some existing => ((existing, false), store)
  | none => ((execution, true),
      { store with executions := store.executions.set execution.proposalId execution })

/-- `mark_submitted`; `none` is the `KeyError` of a proposal without an execution. -/
def markSubmitted (store : AuthorizationArtifactStore) (proposalId : Uuid) (submittedAt : Datetime) :
    Option (StoredExecutionV1 × AuthorizationArtifactStore) :=
  match store.executions.get? proposalId with
  | none => none
  | some execution =>
    match execution.submittedAt with
    | some _ => some (execution, store)
    | none =>
      let marked := { execution with submittedAt := some submittedAt }
      some (marked, { store with executions := store.executions.set proposalId marked })

end AuthorizationArtifactStore

/-! ## Tracked transactions -/

inductive SettlementStatus
  | pending
  | settled
  | reverted
  deriving DecidableEq

structure TrackedTransaction where
  transactionHash : Str
  proposalId : Uuid
  chainId : Nat
  status : SettlementStatus
  blockHash : Option Str
  blockNumber : Option Nat
  success : Option Bool
  confirmations : Nat
  reorgCount : Nat
  observedAt : Option Datetime
  deriving DecidableEq

/-- A transaction as `register` enters it. -/
def TrackedTransaction.new (transactionHash : Str) (proposalId : Uuid) (chainId : Nat) :
    TrackedTransaction where
  transactionHash := transactionHash
  proposalId := proposalId
  chainId := chainId
  status := .pending
  blockHash := none
  blockNumber := none
  success := none
  confirmations := 0
  reorgCount := 0
  observedAt := none

structure MemorySettlementStore where
  transactions : Dict Str TrackedTransaction
  proposals : Dict Uuid Str

namespace MemorySettlementStore

def empty : MemorySettlementStore := ⟨.empty, .empty⟩

/-- `register`, or the message of the `ValueError` it raises. -/
def register (store : MemorySettlementStore) (transactionHash : Str) (proposalId : Uuid)
    (chainId : Nat) : Except String MemorySettlementStore :=
  match store.transactions.get? transactionHash with
  | some existing =>
    if existing.proposalId = proposalId ∧ existing.chainId = chainId then pure store
    else .error "transaction hash is already bound"
  | none => do
      raiseIf (store.proposals.get? proposalId ≠ none) "proposal already has a transaction"
      pure {
        transactions := store.transactions.set transactionHash
          (.new transactionHash proposalId chainId)
        proposals := store.proposals.set proposalId transactionHash }

end MemorySettlementStore

end AegisLedger.Gateway
