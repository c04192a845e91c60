import AegisLedger.Gateway.Artifacts
import AegisLedger.Gateway.Audit
import AegisLedger.Gateway.Decisions
import AegisLedger.Support.Threads

/-!
# Submitting and executing proposals

`ServiceContainer.submit` and `ServiceContainer.execute` of `aegisledger/api.py` as programs
over the stores that all API processes share.  A program stops between any two of its
commands when its process does.  `_execution_lock` is not modelled: it orders the calls of
one process only, so every order it allows is among the runs here.

Beside the stores the state has three histories: what the isolated signer has signed, what
was handed to the chain backends, and under which policy each proposal was admitted.
-/

namespace AegisLedger.Gateway

open AegisLedger.Support HexText Checks Threads

/-! ## Requests and responses -/

structure ExecutionRequest where
  walletNonce : Nat
  value : Nat
  gasLimit : PosInt
  maxFeePerGas : PosInt
  maxPriorityFeePerGas : Nat
  /-- `priority_fee_within_maximum`. -/
  priorityFeeWithinMaximum : maxPriorityFeePerGas ≤ maxFeePerGas.val

structure SubmissionResponse where
  proposalId : Uuid
  state : LifecycleState
  stateVersion : Nat
  created : Bool
  decision : DecisionTokenV1
  deriving DecidableEq

structure ExecutionResponse where
  proposalId : Uuid
  transactionId : Uuid
  state : LifecycleState
  stateVersion : Nat
  signingHash : Str
  transactionHash : Str
  signerIdentity : Str
  submitted : Bool
  created : Bool
  deriving DecidableEq

inductive ServiceError
  | assertionError
  | missingKey (key : Uuid)
  | keyError (message : String)
  | permissionError (message : String)
  | runtimeError (message : String)
  | valueError (message : String)
  | validation
  | policy (error : PolicyError)
  | store (error : StoreError)
  | issue (error : IssueError)
  | audit (error : AuditError)
  | signerClient
  | chainBackend
  deriving DecidableEq

/-! ## The shared state -/

/-- The configuration of the service. -/
structure Deployment where
  host : Host
  issuer : DecisionIssuer
  signerConfigured : Bool
  /-- The chains that have a backend. -/
  chainBackends : List Nat
  eip712DomainSeparator : Str

structure ChainSubmission where
  chainId : Nat
  transactionHash : Str
  rawTransaction : Str
  deriving DecidableEq

/-- A proposal that `reserve` has admitted under a policy. -/
structure Admission where
  proposal : ProposalV1
  reservationId : Uuid
  policy : PolicyV1
  deriving DecidableEq

structure Service (host : Host) where
  policies : PolicyRegistry host
  state : MemoryStateStore
  artifacts : AuthorizationArtifactStore
  audit : AuditJournal
  settlements : MemorySettlementStore
  signed : List (TransactionSignRequestV1 × SignerResult)
  submissions : List (Uuid × ChainSubmission)
  admissions : List Admission

/-- The service when it is first started, with the policies it finds. -/
def Service.new {host : Host} (policies : PolicyRegistry host) (now : Datetime) : Service host :=
  ⟨policies, .empty, .empty, .new now, .empty, [], [], []⟩

/-! ## Commands -/

/-- The steps of the calls that touch shared state, or draw an identifier or the time. -/
inductive Command (host : Host)
  | createPolicy (policy : PolicyV1) (createdBy : Str)
  | approvePolicy (versionId : Uuid) (administratorId : Str)
  | activatePolicy (versionId : Uuid) (activatedBy : Str)
  | activePolicy
  | reserve (proposal : ProposalV1) (policy : PolicyV1)
  | getRecord (proposalId : Uuid)
  | transition (proposalId : Uuid) (target : LifecycleState)
  | registerDecisionNonce (nonce : Uuid)
  | registerWalletNonce (wallet : Str) (chainId nonce : Nat)
  | issue (record : ProposalRecord) (version : PolicyVersion host)
  | getDecision (proposalId : Uuid)
  | putDecision (proposalId : Uuid) (decision : DecisionTokenV1)
  | sign (authorization : TransactionSignRequestV1)
  | fromSigner (proposalId : Uuid) (authorization : TransactionSignRequestV1)
      (result : SignerResult)
  | getExecution (proposalId : Uuid)
  | putExecution (execution : StoredExecutionV1)
  | markSubmitted (proposalId : Uuid)
  | submit (proposalId : Uuid) (submission : ChainSubmission)
  | registerSettlement (transactionHash : Str) (proposalId : Uuid) (chainId : Nat)
  | appendAudit (eventType actor : Str) (payload : List (Str × Json))
      (aggregateId : Option Uuid)

@[reducible] def Command.Answer {host : Host} : Command host → Type
  | .createPolicy _ _ => PolicyVersion host
  | .approvePolicy _ _ => PolicyVersion host
  | .activatePolicy _ _ => PolicyVersion host
  | .activePolicy => PolicyVersion host
  | .reserve _ _ => ReservationResult
  | .getRecord _ => Option ProposalRecord
  | .transition _ _ => ProposalRecord
  | .registerDecisionNonce _ => Unit
  | .registerWalletNonce _ _ _ => Unit
  | .issue _ _ => DecisionTokenV1
  | .getDecision _ => Option DecisionTokenV1
  | .putDecision _ _ => DecisionTokenV1 × Bool
  | .sign _ => SignerResult
  | .fromSigner _ _ _ => StoredExecutionV1
  | .getExecution _ => Option StoredExecutionV1
  | .putExecution _ => StoredExecutionV1 × Bool
  | .markSubmitted _ => StoredExecutionV1
  | .submit _ _ => Str
  | .registerSettlement _ _ _ => Unit
  | .appendAudit _ _ _ _ => AuditEventV1

/-- What the isolated signer does with a request.  When it signs, the answer may be lost on
the way or refused by the client. -/
inductive SignerReply
  | refuses
  | signs (result : SignerResult) (delivered : Bool)

/-- What a command draws from outside: identifiers, clock readings, and the answers of the
signer and of the chain backend. -/
structure Outcome where
  id : Uuid
  nonce : Uuid
  now : Datetime
  readings : ReserveReadings
  signer : SignerReply
  backend : Option Str

/-- The answer and the state after a call of one of the stores. -/
def settleCall {σ α β ε : Type} (wrap : ε → ServiceError) (service : σ) (put : β → σ) :
    Except ε (α × β) → Except ServiceError α × σ
  | .ok (answer, after) => (.ok answer, put after)
  | .error error => (.error (wrap error), service)

/-- The history of admissions after a `reserve` call. -/
def recordAdmission (admissions : List Admission) (proposal : ProposalV1) (policy : PolicyV1)
    (result : ReservationResult) : List Admission :=
  match result.created, result.record.reservationId with
  | true, some reservationId => admissions ++ [⟨proposal, reservationId, policy⟩]
  | _, _ => admissions

/-- `signer.sign`.  The signer signs once for each decision nonce. -/
def Service.sign {host : Host} (service : Service host) (authorization : TransactionSignRequestV1) :
    SignerReply → Except ServiceError SignerResult × Service host
  | .refuses => (.error .signerClient, service)
  | .signs result delivered =>
    if authorization.decision.decisionNonce ∈
        service.signed.map (fun entry => entry.1.decision.decisionNonce) then
      (.error .signerClient, service)
    else
      (if delivered then .ok result else .error .signerClient,
        { service with signed := service.signed ++ [(authorization, result)] })

/-- One command, performed atomically. -/
def Service.perform (deployment : Deployment) (outcome : Outcome)
    (service : Service deployment.host) :
    (command : Command deployment.host) →
      Except ServiceError command.Answer × Service deployment.host
  | .createPolicy policy createdBy =>
    settleCall .policy service (fun policies => { service with policies })
      (service.policies.create policy createdBy outcome.id outcome.now)
  | .approvePolicy versionId administratorId =>
    settleCall .policy service (fun policies => { service with policies })
      (service.policies.approve versionId administratorId)
  | .activatePolicy versionId activatedBy =>
    settleCall .policy service (fun policies => { service with policies })
      (service.policies.activate versionId activatedBy outcome.now)
  | .activePolicy => (service.policies.active.mapError .policy, service)
  | .reserve proposal policy =>
    match service.state.reserve proposal policy outcome.readings outcome.id with
    | .error error => (.error (.store error), service)
    | .ok (result, state) => (.ok result, { service with
        state := state
        admissions := recordAdmission service.admissions proposal policy result })
  | .getRecord proposalId => (.ok (service.state.get proposalId), service)
  | .transition proposalId target =>
    settleCall .store service (fun state => { service with state })
      (service.state.transition proposalId target outcome.now)
  | .registerDecisionNonce nonce =>
    settleCall .store service (fun state => { service with state })
      ((service.state.registerDecisionNonce nonce).map fun state => ((), state))
  | .registerWalletNonce wallet chainId nonce =>
    settleCall .store service (fun state => { service with state })
      ((service.state.registerWalletNonce deployment.host wallet chainId nonce).map
        fun state => ((), state))
  | .issue record version =>
    ((deployment.issuer.issue record version outcome.id outcome.nonce outcome.now).mapError
      .issue, service)
  | .getDecision proposalId => (.ok (service.artifacts.getDecision proposalId), service)
  | .putDecision proposalId decision =>
    let result := service.artifacts.putDecision proposalId decision
    (.ok result.1, { service with artifacts := result.2 })
  | .sign authorization => service.sign authorization outcome.signer
  | .fromSigner proposalId authorization result =>
    (StoredExecutionV1.fromSigner .validation proposalId authorization result outcome.id outcome.now, service)
  | .getExecution proposalId => (.ok (service.artifacts.getExecution proposalId), service)
  | .putExecution execution =>
    let result := service.artifacts.putExecution execution
    (.ok result.1, { service with artifacts := result.2 })
  | .markSubmitted proposalId =>
    settleCall .missingKey service (fun artifacts => { service with artifacts })
      (orRaise (service.artifacts.markSubmitted proposalId outcome.now) proposalId)
  | .submit proposalId submission =>
    (orRaise outcome.backend .chainBackend,
      { service with submissions := service.submissions ++ [(proposalId, submission)] })
  | .registerSettlement transactionHash proposalId chainId =>
    settleCall .valueError service (fun settlements => { service with settlements })
      ((service.settlements.register transactionHash proposalId chainId).map
        fun settlements => ((), settlements))
  | .appendAudit eventType actor payload aggregateId =>
    settleCall .audit service (fun audit => { service with audit })
      (service.audit.append deployment.host eventType actor payload aggregateId outcome.id
        outcome.now)

/-! ## Submission -/

abbrev Program (host : Host) (ρ : Type) : Type := Prog (Command host) Command.Answer ServiceError ρ

abbrev call {host : Host} (command : Command host) : Program host command.Answer :=
  Prog.call command

/-- The branch of `submit` for a proposal without a decision. -/
def issueDecision {host : Host} (record : ProposalRecord) (version : PolicyVersion host)
    (actor : Str) : Program host DecisionTokenV1 := do
  let proposalId := record.proposal.proposalId.val
  let candidate ← call (.issue record version)
  let stored ← call (.putDecision proposalId candidate)
  if stored.2 then do
    let _ ← call (.appendAudit "POLICY_DECISION_ISSUED".toList actor [
      ("proposal_id".toList, .str (uuidText proposalId)),
      ("state".toList, .str record.state.value.toList),
      ("decision_id".toList, .str (uuidText stored.1.decisionId)),
      ("policy_hash".toList, .str version.policyHash)] (some proposalId))
    pure stored.1
  else pure stored.1

/-- `ServiceContainer.submit`. -/
def submit {host : Host} (proposal : ProposalV1) (actor : Str) :
    Program host SubmissionResponse := do
  let version ← call .activePolicy
  let result ← call (.reserve proposal version.policy)
  let proposalId := result.record.proposal.proposalId.val
  let existing ← call (.getDecision proposalId)
  let decision ← (match existing with
    | some decision => pure decision
    | none => issueDecision result.record version actor)
  pure {
    proposalId := proposalId
    state := result.record.state
    stateVersion := result.record.stateVersion
    created := result.created
    decision := decision }

/-! ## Execution -/

/-- `"0x"`. -/
def emptyCalldata : LowerCalldata := ⟨"0x".toList, rfl⟩

/-- The binding that `_authorization` builds from a proposal and a request. -/
def bindingFields (proposal : ProposalV1) (request : ExecutionRequest) : BindingFields where
  operation := proposal.intent.kind
  wallet := proposal.wallet
  chainId := proposal.chainId
  walletNonce := request.walletNonce
  asset := proposal.asset
  amount := proposal.amount
  recipient := match proposal.intent with
    | .transfer intent => some intent.recipient
    | .swap _ => none
  contract := match proposal.intent with
    | .transfer _ => none
    | .swap intent => some intent.contract
  selector := match proposal.intent with
    | .transfer _ => none
    | .swap intent => some intent.selector
  calldata := match proposal.intent with
    | .transfer _ => emptyCalldata
    | .swap intent => intent.calldata
  value := request.value
  gasLimit := request.gasLimit
  maxFeePerGas := request.maxFeePerGas
  maxPriorityFeePerGas := request.maxPriorityFeePerGas

/-- The account that the transaction of an intent is sent to. -/
def IntentV1.target : IntentV1 → LowerAddress
  | .transfer intent => intent.recipient
  | .swap intent => intent.contract

/-- `keccak_hex` of text that may not be hexadecimal. -/
def keccakHexChecked (host : Host) (value : Str) : Except ServiceError Str := do
  let bytes ← orRaise (fromHex (value.drop 2))
    (ServiceError.valueError "non-hexadecimal number found in fromhex() arg")
  pure (prefixedHex (host.keccak bytes))

/-- A `HexData` field, which a validator lower-cases. -/
def hexDataField (value : Str) : Except ServiceError LowerHexData := do
  raiseIf (matchesHexBytes isHexDigit value = false ∨ value.length = 2) ServiceError.validation
  constrain (asciiLower value) ServiceError.validation

/-- `ServiceContainer._authorization`. -/
def authorization (deployment : Deployment) (record : ProposalRecord)
    (decision : DecisionTokenV1) (request : ExecutionRequest) :
    Except ServiceError TransactionSignRequestV1 := do
  let reservationId ← orRaise record.reservationId
    (ServiceError.valueError "proposal has no active reservation")
  let proposal := record.proposal
  let fields := bindingFields proposal request
  if shape : fields.validateOperationShape = .ok () then do
    let transaction : TransactionBindingV1 := { toBindingFields := fields, shape := shape }
    let unsignedPayload ← (Eip1559.encodeUnsignedEip1559 proposal.chainId.val
      request.walletNonce request.maxPriorityFeePerGas request.maxFeePerGas.val
      request.gasLimit.val proposal.intent.target request.value
      fields.calldata).mapError ServiceError.valueError
    let separator := deployment.eip712DomainSeparator
    raiseIf (separator.length ≠ 66 ∨ hasHexPrefix separator = false)
      (ServiceError.valueError "EIP-712 domain separator is invalid")
    let eip712Payload := "0x1901".toList ++ separator.drop 2 ++ decision.proposalHash.val.drop 2
    let eip712Hash ← keccakHexChecked deployment.host eip712Payload
    let eip1559Hash ← keccakHexChecked deployment.host unsignedPayload
    let eip712Payload ← hexDataField eip712Payload
    let eip1559UnsignedPayload ← hexDataField unsignedPayload
    let eip712Hash ← constrain eip712Hash ServiceError.validation
    let eip1559Hash ← constrain eip1559Hash ServiceError.validation
    pure {
      proposal := proposal
      decision := decision
      reservationId := reservationId
      walletNonce := request.walletNonce
      chainId := proposal.chainId
      transaction := transaction
      eip712Payload := eip712Payload
      eip1559UnsignedPayload := eip1559UnsignedPayload
      eip712Hash := eip712Hash
      eip1559Hash := eip1559Hash
      expiresAt := min decision.expiresAt proposal.deadline }
  else .error .validation

/-- `_execution_matches_request`. -/
def executionMatchesRequest (execution : StoredExecutionV1) (request : ExecutionRequest) : Bool :=
  let transaction := execution.authorization.transaction
  transaction.walletNonce == request.walletNonce &&
    transaction.value == request.value &&
    transaction.gasLimit == request.gasLimit &&
    transaction.maxFeePerGas == request.maxFeePerGas &&
    transaction.maxPriorityFeePerGas == request.maxPriorityFeePerGas

section Execute

variable (deployment : Deployment) (proposalId : Uuid) (request : ExecutionRequest) (actor : Str)

/-- Raise unless the execution is one of this request. -/
def requireMatch (execution : StoredExecutionV1) : Program deployment.host Unit :=
  Prog.ofExcept (raiseIf (executionMatchesRequest execution request = false)
    (.valueError "proposal already has a different signed execution"))

/-- The branch of `execute` for a proposal without an execution: sign, store, and move the
proposal to SIGNED. -/
def signExecution (record : ProposalRecord) :
    Program deployment.host (StoredExecutionV1 × Bool) := do
  Prog.ofExcept (raiseIf (record.state ≠ .reserved)
    (ServiceError.valueError ("proposal cannot be signed from " ++ record.state.value)))
  let found ← call (.getDecision proposalId)
  let decision ← Prog.ofExcept
    (orRaise found (ServiceError.runtimeError "proposal decision is unavailable"))
  let authorization ← Prog.ofExcept (authorization deployment record decision request)
  let result ← call (.sign authorization)
  let _ ← call (.registerDecisionNonce decision.decisionNonce)
  let _ ← call (.registerWalletNonce record.proposal.wallet record.proposal.chainId.val
    request.walletNonce)
  let candidate ← call (.fromSigner proposalId authorization result)
  let stored ← call (.putExecution candidate)
  requireMatch deployment request stored.1
  let _ ← call (.transition proposalId .signed)
  let _ ← call (.appendAudit "TRANSACTION_SIGNED".toList actor [
    ("proposal_id".toList, .str (uuidText proposalId)),
    ("transaction_id".toList, .str (uuidText stored.1.transactionId)),
    ("transaction_hash".toList, .str stored.1.transactionHash),
    ("signing_hash".toList, .str stored.1.signingHash)] (some proposalId))
  pure stored

/-- The current record, moved on to SUBMITTED if it is SIGNED. -/
def advanceToSubmitted (register : Program deployment.host Unit) :
    Program deployment.host ProposalRecord := do
  let found ← call (.getRecord proposalId)
  let current ← Prog.ofExcept (orRaise found ServiceError.assertionError)
  if current.state = .signed then do
    register
    let moved ← call (.transition proposalId .submitted)
    pure moved
  else pure current

/-- The branch of `execute` for an execution that was not yet submitted. -/
def submitExecution (execution : StoredExecutionV1) :
    Program deployment.host (StoredExecutionV1 × ProposalRecord) := do
  let transactionHash ← call (.submit proposalId {
    chainId := execution.authorization.chainId.val
    transactionHash := execution.transactionHash
    rawTransaction := execution.rawTransaction })
  Prog.ofExcept (raiseIf (deployment.host.lower transactionHash ≠ execution.transactionHash.val)
    (ServiceError.runtimeError "chain backend returned a different transaction hash"))
  let execution ← call (.markSubmitted proposalId)
  let _ ← call (.registerSettlement execution.transactionHash proposalId
    execution.authorization.chainId.val)
  let record ← advanceToSubmitted deployment proposalId (pure ())
  let _ ← call (.appendAudit "TRANSACTION_SUBMITTED".toList actor [
    ("proposal_id".toList, .str (uuidText proposalId)),
    ("transaction_id".toList, .str (uuidText execution.transactionId)),
    ("transaction_hash".toList, .str execution.transactionHash)] (some proposalId))
  pure (execution, record)

/-- The branch of `execute` for an execution that was submitted before. -/
def resumeExecution (execution : StoredExecutionV1) :
    Program deployment.host (StoredExecutionV1 × ProposalRecord) := do
  let record ← advanceToSubmitted deployment proposalId
    (call (.registerSettlement execution.transactionHash proposalId
      execution.authorization.chainId.val))
  pure (execution, record)

/-- `ServiceContainer.execute`. -/
def execute : Program deployment.host ExecutionResponse := do
  let found ← call (.getRecord proposalId)
  let record ← Prog.ofExcept (orRaise found (ServiceError.keyError "proposal does not exist"))
  Prog.ofExcept (raiseIf (record.proposal.principalId.val ≠ actor)
    (ServiceError.permissionError "proposal belongs to another principal"))
  Prog.ofExcept (raiseIf (deployment.signerConfigured = false)
    (ServiceError.runtimeError "isolated signer is not configured"))
  Prog.ofExcept (raiseIf (record.proposal.chainId.val ∉ deployment.chainBackends)
    (ServiceError.runtimeError "chain backend is not configured"))
  let existing ← call (.getExecution proposalId)
  let stored ← (match existing with
    | none => signExecution deployment proposalId request actor record
    | some execution => do
        requireMatch deployment request execution
        pure (execution, false))
  let submitted ← (match stored.1.submittedAt with
    | none => submitExecution deployment proposalId actor stored.1
    | some _ => resumeExecution deployment proposalId stored.1)
  pure {
    proposalId := proposalId
    transactionId := submitted.1.transactionId
    state := submitted.2.state
    stateVersion := submitted.2.stateVersion
    signingHash := submitted.1.signingHash
    transactionHash := submitted.1.transactionHash
    signerIdentity := submitted.1.signerIdentity
    submitted := submitted.1.submittedAt.isSome
    created := stored.2 }

end Execute

/-! ## Calls -/

inductive ServiceCall
  | submit (proposal : ProposalV1) (actor : Str)
  | execute (proposalId : Uuid) (request : ExecutionRequest) (actor : Str)
  | createPolicy (policy : PolicyV1) (createdBy : Str)
  | approvePolicy (versionId : Uuid) (administratorId : Str)
  | activatePolicy (versionId : Uuid) (activatedBy : Str)
  /-- The lifecycle step of `SettlementReconciler` for a final transaction. -/
  | reconcile (proposalId : Uuid) (success : Bool)

/-- What a call returns, where it is the result of `submit` or `execute`. -/
inductive Response
  | submission (response : SubmissionResponse)
  | execution (response : ExecutionResponse)
  | done
  deriving DecidableEq

/-- A call that consists of one command. -/
def commandCall {host : Host} (command : Command host) : Program host Response := do
  let _ ← call command
  pure .done

def serviceProgram (deployment : Deployment) :
    ServiceCall → Program deployment.host Response
  | .submit proposal actor => do
      let response ← submit proposal actor
      pure (.submission response)
  | .execute proposalId request actor => do
      let response ← execute deployment proposalId request actor
      pure (.execution response)
  | .createPolicy policy createdBy => commandCall (.createPolicy policy createdBy)
  | .approvePolicy versionId administratorId =>
    commandCall (.approvePolicy versionId administratorId)
  | .activatePolicy versionId activatedBy =>
    commandCall (.activatePolicy versionId activatedBy)
  | .reconcile proposalId success =>
    commandCall (.transition proposalId (if success then .settled else .reverted))

abbrev ServiceConfig (deployment : Deployment) : Type :=
  Config (Service deployment.host) (Command deployment.host) Command.Answer ServiceError Response

/-- One step of the service, of which only calls of `entry` are made and whose commands
meet `guard`. -/
abbrev ServiceStep (deployment : Deployment) (entry : ServiceCall → Prop)
    (guard : Service deployment.host → Command deployment.host → Prop) :
    ServiceConfig deployment → Label ServiceCall Outcome → ServiceConfig deployment → Prop :=
  Step (Service.perform deployment) (serviceProgram deployment) entry guard

end AegisLedger.Gateway
