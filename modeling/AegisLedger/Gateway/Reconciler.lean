import AegisLedger.Gateway.Api

/-!
# Settlement reconciliation

`MemorySettlementStore` and `SettlementReconciler.poll_once` of `aegisledger/reconciler.py`.
A poll is a program over the lifecycle store and the settlement store, of which each access
is one command; what the chain backends return is an outcome.  The poll does not take the
lock of `execute`.

Two systems run it.  `Reconciliation` makes one poll after the other while other code calls
the two stores, and remembers the receipts of the current poll.  `GatewayStep` interleaves
any number of polls with the calls of the service.
-/

namespace AegisLedger.Gateway

open AegisLedger.Support HexText Checks Threads

structure EvmReceipt where
  transactionHash : Str
  blockHash : Str
  blockNumber : Nat
  success : Bool
  confirmations : Nat
  deriving DecidableEq

/-- The lifecycle state that a final receipt calls for. -/
def EvmReceipt.target (receipt : EvmReceipt) : LifecycleState :=
  if receipt.success then .settled else .reverted

/-- What asking a backend for a receipt comes to, unless it raises. -/
inductive ReceiptReply
  | timeout
  | missing
  | found (receipt : EvmReceipt)

inductive PollError
  | keyError
  | runtimeError (message : String)
  | valueError (message : String)
  | store (error : StoreError)
  | backend
  deriving DecidableEq

/-! ## The settlement store -/

structure SettlementObservation where
  transactionHash : Str
  blockHash : Str
  blockNumber : Nat
  chainId : Nat
  success : Bool
  confirmations : Nat
  observedAt : Datetime
  deriving DecidableEq

def TrackedTransaction.observation (tracked : TrackedTransaction) :
    Option SettlementObservation := do
  let blockHash ← tracked.blockHash
  let blockNumber ← tracked.blockNumber
  let success ← tracked.success
  let observedAt ← tracked.observedAt
  pure {
    transactionHash := tracked.transactionHash
    blockHash := blockHash
    blockNumber := blockNumber
    chainId := tracked.chainId
    success := success
    confirmations := tracked.confirmations
    observedAt := observedAt }

namespace MemorySettlementStore

def pending (store : MemorySettlementStore) : List TrackedTransaction :=
  store.transactions.values.filter fun item => item.status = .pending

def observe (store : MemorySettlementStore) (transactionHash : Str) (receipt : EvmReceipt)
    (now : Datetime) : Except PollError MemorySettlementStore := do
  let tracked ← orRaise (store.transactions.get? transactionHash) .keyError
  let reorged := tracked.blockHash ≠ none ∧ tracked.blockHash ≠ some receipt.blockHash
  pure { store with transactions := store.transactions.set transactionHash { tracked with
    reorgCount := if reorged then tracked.reorgCount + 1 else tracked.reorgCount
    blockHash := some receipt.blockHash
    blockNumber := some receipt.blockNumber
    success := some receipt.success
    confirmations := receipt.confirmations
    observedAt := some now } }

def complete (store : MemorySettlementStore) (transactionHash : Str)
    (status : SettlementStatus) : Except PollError MemorySettlementStore := do
  raiseIf (status = .pending) (.valueError "invalid terminal settlement status")
  let tracked ← orRaise (store.transactions.get? transactionHash) .keyError
  pure { store with
    transactions := store.transactions.set transactionHash { tracked with status := status } }

def observation (store : MemorySettlementStore) (transactionHash : Str) :
    Option SettlementObservation :=
  (store.transactions.get? transactionHash).bind TrackedTransaction.observation

end MemorySettlementStore

/-- The settlement status with the value of a lifecycle state; only two states have one. -/
def LifecycleState.status : LifecycleState → SettlementStatus
  | .settled => .settled
  | .reverted => .reverted
  | _ => .pending

/-! ## Commands of a poll -/

/-- The stores of a reconciler. -/
structure Tracking where
  lifecycle : MemoryStateStore
  settlements : MemorySettlementStore

inductive PollCommand
  | pending
  | receipt (chainId : Nat) (transactionHash : Str)
  | observe (transactionHash : Str) (receipt : EvmReceipt)
  /-- Read the record of a proposal whose final receipt calls for `target`. -/
  | getRecord (proposalId : Uuid) (target : LifecycleState)
  | transition (proposalId : Uuid) (target : LifecycleState)
  | complete (transactionHash : Str) (status : SettlementStatus)

@[reducible] def PollCommand.Answer : PollCommand → Type
  | .pending => List TrackedTransaction
  | .receipt _ _ => ReceiptReply
  | .observe _ _ => Unit
  | .getRecord _ _ => Option ProposalRecord
  | .transition _ _ => ProposalRecord
  | .complete _ _ => Unit

/-- What a poll draws from outside: the reply of the backend, unless it raises, and the
time. -/
structure PollOutcome where
  reply : Option ReceiptReply
  now : Datetime

namespace Tracking

/-- The settlement store after a call, whether it returns or raises. -/
def settling (tracking : Tracking) :
    Except PollError MemorySettlementStore → Except PollError Unit × Tracking
  | .ok settlements => (.ok (), { tracking with settlements })
  | .error error => (.error error, tracking)

def perform (outcome : PollOutcome) (tracking : Tracking) :
    (command : PollCommand) → Except PollError command.Answer × Tracking
  | .pending => (.ok tracking.settlements.pending, tracking)
  | .receipt _ _ => (orRaise outcome.reply .backend, tracking)
  | .observe transactionHash receipt =>
    tracking.settling (tracking.settlements.observe transactionHash receipt outcome.now)
  | .getRecord proposalId _ => (.ok (tracking.lifecycle.get proposalId), tracking)
  | .transition proposalId target =>
    match tracking.lifecycle.transition proposalId target outcome.now with
    | .ok (record, lifecycle) => (.ok record, { tracking with lifecycle })
    | .error error => (.error (.store error), tracking)
  | .complete transactionHash status =>
    tracking.settling (tracking.settlements.complete transactionHash status)

end Tracking

/-! ## A poll -/

abbrev PollProgram (ρ : Type) : Type := Prog PollCommand PollCommand.Answer PollError ρ

abbrev pollCall (command : PollCommand) : PollProgram command.Answer := Prog.call command

/-- A reconciler; its chains are those that have a backend. -/
structure SettlementReconciler where
  host : Host
  backends : List Nat
  finality : Nat
  finalityPositive : 1 ≤ finality

namespace SettlementReconciler

variable (reconciler : SettlementReconciler)

/-- Move a record that is SUBMITTED. -/
def advance (record : ProposalRecord) (proposalId : Uuid) (target : LifecycleState) :
    PollProgram Unit :=
  if record.state = .submitted then do
    let _ ← pollCall (.transition proposalId target)
    pure ()
  else pure ()

/-- The loop body of `poll_once`, from a receipt on. -/
def settle (tracked : TrackedTransaction) (receipt : EvmReceipt) : PollProgram Unit := do
  Prog.ofExcept (raiseIf
    (reconciler.host.lower receipt.transactionHash ≠ reconciler.host.lower tracked.transactionHash)
    (PollError.runtimeError "backend returned a receipt for a different transaction"))
  let _ ← pollCall (.observe tracked.transactionHash receipt)
  if receipt.confirmations < reconciler.finality then pure ()
  else do
    let found ← pollCall (.getRecord tracked.proposalId receipt.target)
    let record ← Prog.ofExcept (orRaise found
      (PollError.runtimeError "tracked settlement references an unknown proposal"))
    advance record tracked.proposalId receipt.target
    let _ ← pollCall (.complete tracked.transactionHash receipt.target.status)
    pure ()

/-- The loop body of `poll_once`, from the reply of the backend on. -/
def takeReply (tracked : TrackedTransaction) : ReceiptReply → PollProgram Unit
  | .timeout => pure ()
  | .missing => pure ()
  | .found receipt => reconciler.settle tracked receipt

/-- The loop body of `poll_once`. -/
def pollTracked (tracked : TrackedTransaction) : PollProgram Unit :=
  if tracked.chainId ∈ reconciler.backends then do
    let reply ← pollCall (.receipt tracked.chainId tracked.transactionHash)
    reconciler.takeReply tracked reply
  else pure ()

def pollAll : List TrackedTransaction → PollProgram Unit
  | [] => pure ()
  | tracked :: items => do
      pollTracked reconciler tracked
      pollAll items

/-- `poll_once`. -/
def pollOnce : PollProgram Unit := do
  let items ← pollCall .pending
  pollAll reconciler items

end SettlementReconciler

/-! ## One poll after the other -/

/-- The stores, what is left of the current poll, and the receipts the backends have
returned to it, each with the hash that was asked for. -/
structure Reconciliation where
  tracking : Tracking
  program : PollProgram Unit
  received : List (Str × EvmReceipt)

inductive Activity
  /-- Another part of the service calls the lifecycle store. -/
  | call (call : MemoryStateStore.Call)
  | register (transactionHash : Str) (proposalId : Uuid) (chainId : Nat)
  /-- A poll starts; one that was under way has stopped. -/
  | start
  /-- The poll performs its next command. -/
  | advance (outcome : PollOutcome)

namespace Reconciliation

/-- No poll, on new stores. -/
def idle : Reconciliation := ⟨⟨.empty, .empty⟩, .ret (), []⟩

/-- The receipts after an answer to a command. -/
def receive (received : List (Str × EvmReceipt)) :
    (command : PollCommand) → Except PollError command.Answer → List (Str × EvmReceipt)
  | .receipt _ transactionHash, .ok (.found receipt) => received ++ [(transactionHash, receipt)]
  | _, _ => received

def perform (reconciler : SettlementReconciler) (state : Reconciliation) :
    Activity → Reconciliation
  | .call call => { state with
      tracking := { state.tracking with lifecycle := state.tracking.lifecycle.perform call } }
  | .register transactionHash proposalId chainId =>
    match state.tracking.settlements.register transactionHash proposalId chainId with
    | .ok settlements => { state with tracking := { state.tracking with settlements } }
    | .error _ => state
  | .start => { state with program := reconciler.pollOnce, received := [] }
  | .advance outcome =>
    match state.program with
    | .op command next =>
      let result := state.tracking.perform outcome command
      ⟨result.2, resume next result.1, receive state.received command result.1⟩
    | _ => state

/-- The calls that other parts of the service made of the lifecycle store. -/
def storeCalls (trace : List Activity) : List MemoryStateStore.Call :=
  trace.filterMap fun
    | .call call => some call
    | _ => none

end Reconciliation

/-! ## Polls beside the calls of the service -/

inductive GatewayCommand (host : Host)
  | service (command : Command host)
  | poll (command : PollCommand)

@[reducible] def GatewayCommand.Answer {host : Host} : GatewayCommand host → Type
  | .service command => command.Answer
  | .poll command => command.Answer

inductive GatewayError
  | service (error : ServiceError)
  | poll (error : PollError)
  deriving DecidableEq

structure GatewayOutcome where
  service : Outcome
  poll : PollOutcome

def Service.tracking {host : Host} (service : Service host) : Tracking :=
  ⟨service.state, service.settlements⟩

def Service.withTracking {host : Host} (service : Service host) (tracking : Tracking) :
    Service host :=
  { service with state := tracking.lifecycle, settlements := tracking.settlements }

/-- One command of a poll, on the stores of the service. -/
def Service.performPoll {host : Host} (outcome : PollOutcome) (service : Service host)
    (command : PollCommand) : Except PollError command.Answer × Service host :=
  let result := service.tracking.perform outcome command
  (result.1, service.withTracking result.2)

def gatewayPerform (deployment : Deployment) (outcome : GatewayOutcome)
    (service : Service deployment.host) :
    (command : GatewayCommand deployment.host) →
      Except GatewayError command.Answer × Service deployment.host
  | .service command =>
    let result := service.perform deployment outcome.service command
    (result.1.mapError .service, result.2)
  | .poll command =>
    let result := service.performPoll outcome.poll command
    (result.1.mapError .poll, result.2)

abbrev GatewayProgram (host : Host) : Type :=
  Prog (GatewayCommand host) GatewayCommand.Answer GatewayError Unit

inductive GatewayCall
  | execute (proposalId : Uuid) (request : ExecutionRequest) (actor : Str)
  | pollOnce

def gatewayProgram (deployment : Deployment) (reconciler : SettlementReconciler) :
    GatewayCall → GatewayProgram deployment.host
  | .execute proposalId request actor =>
    (execute deployment proposalId request actor >>= fun _ => pure ()).embed .service
      (fun _ answer => answer) .service
  | .pollOnce => reconciler.pollOnce.embed .poll (fun _ answer => answer) .poll

abbrev GatewayConfig (deployment : Deployment) : Type :=
  Config (Service deployment.host) (GatewayCommand deployment.host) GatewayCommand.Answer
    GatewayError Unit

/-- One step of executions and polls whose commands meet `guard`. -/
abbrev GatewayStep (deployment : Deployment) (reconciler : SettlementReconciler)
    (guard : Service deployment.host → GatewayCommand deployment.host → Prop) :
    GatewayConfig deployment → Label GatewayCall GatewayOutcome → GatewayConfig deployment →
      Prop :=
  Step (gatewayPerform deployment) (gatewayProgram deployment reconciler) (fun _ => True) guard

end AegisLedger.Gateway
