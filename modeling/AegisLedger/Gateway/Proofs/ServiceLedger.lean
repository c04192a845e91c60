import AegisLedger.Gateway.Proofs.Authorizations
import AegisLedger.Gateway.Proofs.BudgetSafety

/-!
# The ledger of the service

What the calls of the service have to agree on: the records, the artifacts and the
histories.  `Change` says what one command can do to it, and `Answered` what its answer
says about it.  A discipline is an invariant of the ledger with what no command undoes and
what a command needs; a program that meets the needs of its commands is safe.
-/

namespace AegisLedger.Gateway.ServiceLedger

open AegisLedger.Support HexText Checks Dict Threads
open BudgetSafety

structure Ledger where
  records : Dict Uuid ProposalRecord
  idempotency : Dict (Str × Str) Uuid
  decisions : Dict Uuid DecisionTokenV1
  executions : Dict Uuid StoredExecutionV1
  signed : List (TransactionSignRequestV1 × SignerResult)
  submissions : List (Uuid × ChainSubmission)
  admissions : List Admission

def ledger {host : Host} (service : Service host) : Ledger where
  records := service.state.records
  idempotency := service.state.idempotency
  decisions := service.artifacts.decisions
  executions := service.artifacts.executions
  signed := service.signed
  submissions := service.submissions
  admissions := service.admissions

def idempotencyKey (proposal : ProposalV1) : Str × Str :=
  (proposal.principalId.val, proposal.idempotencyKey.val)

def decisionNonces (signed : List (TransactionSignRequestV1 × SignerResult)) : List Uuid :=
  signed.map fun entry => entry.1.decision.decisionNonce

/-! ## What a command does -/

/-- The ledger after a new proposal got its record. -/
def Ledger.create (l : Ledger) (policy : PolicyV1) (record : ProposalRecord) : Ledger :=
  { l with
    records := l.records.set record.proposal.proposalId.val record
    idempotency := l.idempotency.set (idempotencyKey record.proposal)
      record.proposal.proposalId.val
    admissions := recordAdmission l.admissions record.proposal policy ⟨record, true⟩ }

def marked (execution : StoredExecutionV1) (now : Datetime) : StoredExecutionV1 :=
  { execution with submittedAt := some now }

inductive Change {host : Host} : Command host → Ledger → Ledger → Prop
  | same {command : Command host} {l : Ledger} : Change command l l
  | reserve (record : ProposalRecord) {policy : PolicyV1} {l : Ledger}
      (hnew : l.idempotency.get? (idempotencyKey record.proposal) = none) :
      Change (.reserve record.proposal policy) l (l.create policy record)
  | transition {proposalId : Uuid} {target : LifecycleState} {record moved : ProposalRecord}
      {l : Ledger} (hrecord : l.records.get? proposalId = some record)
      (hallowed : target ∈ allowedTransitions record.state)
      (hproposal : moved.proposal = record.proposal) (hstate : moved.state = target)
      (hreservation : moved.reservationId = record.reservationId) :
      Change (.transition proposalId target) l
        { l with records := l.records.set proposalId moved }
  | putDecision {proposalId : Uuid} {decision : DecisionTokenV1} {l : Ledger}
      (hnew : l.decisions.get? proposalId = none) :
      Change (.putDecision proposalId decision) l
        { l with decisions := l.decisions.set proposalId decision }
  | sign {authorization : TransactionSignRequestV1} {result : SignerResult} {l : Ledger}
      (hnew : authorization.decision.decisionNonce ∉ decisionNonces l.signed) :
      Change (.sign authorization) l { l with signed := l.signed ++ [(authorization, result)] }
  | putExecution {execution : StoredExecutionV1} {l : Ledger}
      (hnew : l.executions.get? execution.proposalId = none) :
      Change (.putExecution execution) l
        { l with executions := l.executions.set execution.proposalId execution }
  | markSubmitted {proposalId : Uuid} {execution : StoredExecutionV1} {now : Datetime}
      {l : Ledger} (hexecution : l.executions.get? proposalId = some execution) :
      Change (.markSubmitted proposalId) l
        { l with executions := l.executions.set proposalId (marked execution now) }
  | submit {proposalId : Uuid} {submission : ChainSubmission} {l : Ledger} :
      Change (.submit proposalId submission) l
        { l with submissions := l.submissions ++ [(proposalId, submission)] }

variable {deployment : Deployment}

variable {ε : Type}

theorem settleCall_cases {σ α β : Type} (wrap : ε → ServiceError) (service : σ) (put : β → σ)
    (x : Except ε (α × β)) :
    (∃ error, settleCall wrap service put x = (.error error, service)) ∨
      ∃ answer after, x = .ok (answer, after) ∧
        settleCall wrap service put x = (.ok answer, put after) := by
  cases x with
  | error error => exact Or.inl ⟨_, rfl⟩
  | ok result => exact Or.inr ⟨result.1, result.2, rfl, rfl⟩

/-- A store outside the ledger is written. -/
theorem ledger_settleCall {α β : Type} (wrap : ε → ServiceError)
    (service : Service deployment.host) (put : β → Service deployment.host) (x : Except ε (α × β))
    (hput : ∀ answer after, x = .ok (answer, after) →
      ledger (put after) = ledger service) :
    ledger (settleCall wrap service put x).2 = ledger service := by
  rcases settleCall_cases wrap service put x with ⟨error, h⟩ | ⟨answer, after, hx, h⟩
  · rw [h]
  · rw [h]
    exact hput answer after hx

variable {store : MemoryStateStore} {record : ProposalRecord} {target : LifecycleState}

theorem records_applyTarget {applied : MemoryStateStore}
    (h : store.applyTarget record target = .ok applied) :
    applied.records = store.records ∧ applied.idempotency = store.idempotency := by
  rcases applyTarget_cases h with rfl | ⟨_, _, _, _, _, _, _, rfl⟩
  · exact ⟨rfl, rfl⟩
  · exact ⟨rfl, rfl⟩

variable {after : MemoryStateStore}

theorem registerDecisionNonce_cases {nonce : Uuid}
    (h : store.registerDecisionNonce nonce = .ok after) :
    after.records = store.records ∧ after.idempotency = store.idempotency := by
  rw [MemoryStateStore.registerDecisionNonce, raiseIf_bind_eq_ok, pure_eq_ok] at h
  rw [← h.2]
  exact ⟨rfl, rfl⟩

variable {host : Host}

theorem registerWalletNonce_cases {wallet : Str} {chainId nonce : Nat}
    (h : store.registerWalletNonce host wallet chainId nonce = .ok after) :
    after.records = store.records ∧ after.idempotency = store.idempotency := by
  rw [MemoryStateStore.registerWalletNonce, raiseIf_bind_eq_ok, pure_eq_ok] at h
  rw [← h.2]
  exact ⟨rfl, rfl⟩

variable {service : Service deployment.host}

/-- Another state store with the same records. -/
theorem ledger_state {state : MemoryStateStore} (h : state.records = service.state.records ∧
      state.idempotency = service.state.idempotency) :
    ledger { service with state := state } = ledger service := by
  simp only [ledger, h.1, h.2]

variable {outcome : Outcome}

theorem change_reserve {proposal : ProposalV1} {policy : PolicyV1} {result : ReservationResult}
    (h : service.state.reserve proposal policy outcome.readings outcome.id =
      .ok (result, after)) :
    Change (.reserve proposal policy : Command deployment.host) (ledger service)
      (ledger { service with
        state := after
        admissions := recordAdmission service.admissions proposal policy result }) := by
  rcases reserve_cases h with ⟨_, _, _, _, rfl, rfl⟩ | ⟨hnew, hwritten⟩
  · exact .same
  · rcases hwritten with ⟨reasons, _, _, rfl, rfl⟩ | ⟨_, rfl, rfl⟩
    · exact .reserve ⟨proposal, .denied, service.state.version + 1, reasons, none,
        outcome.readings.recordCreated, outcome.readings.recordUpdated⟩ hnew
    · exact .reserve ⟨proposal, .reserved, service.state.version + 1, [], some outcome.id,
        outcome.readings.recordCreated, outcome.readings.recordUpdated⟩ hnew

variable {proposalId : Uuid}

theorem change_transition {updated : ProposalRecord}
    (h : service.state.transition proposalId target outcome.now = .ok (updated, after)) :
    Change (.transition proposalId target : Command deployment.host) (ledger service)
      (ledger { service with state := after }) := by
  obtain ⟨record, applied, hrecord, hallowed, happlied, rfl⟩ := transition_cases h
  obtain ⟨hrecords, hidempotency⟩ := records_applyTarget happlied
  have hledger : ledger { service with
      state := moved applied proposalId record target outcome.now } =
      { ledger service with records := service.state.records.set proposalId { record with
          state := target, stateVersion := applied.version + 1, updatedAt := outcome.now } } := by
    simp only [ledger, moved, hrecords, hidempotency]
  rw [hledger]
  exact .transition hrecord hallowed rfl rfl rfl

/-- Whatever a command does, and whether it returns or raises, it changes the ledger in one
of these ways. -/
theorem change_perform (outcome : Outcome) (service : Service deployment.host)
    (command : Command deployment.host) :
    Change command (ledger service) (ledger (service.perform deployment outcome command).2) := by
  cases command with
  | activePolicy | getRecord _ | issue _ _ | getDecision _ | fromSigner _ _ _
  | getExecution _ => exact .same
  | createPolicy _ _ | approvePolicy _ _ | activatePolicy _ _ | registerSettlement _ _ _
  | appendAudit _ _ _ _ =>
    rw [Service.perform, ledger_settleCall]
    · exact .same
    · intro answer after h
      rfl
  | registerDecisionNonce nonce =>
    rw [Service.perform, ledger_settleCall]
    · exact .same
    · intro answer after h
      obtain ⟨state, hstate, heq⟩ := map_eq_ok h
      rw [← (Prod.mk.inj heq).2]
      exact ledger_state (registerDecisionNonce_cases hstate)
  | registerWalletNonce wallet chainId nonce =>
    rw [Service.perform, ledger_settleCall]
    · exact .same
    · intro answer after h
      obtain ⟨state, hstate, heq⟩ := map_eq_ok h
      rw [← (Prod.mk.inj heq).2]
      exact ledger_state (registerWalletNonce_cases hstate)
  | reserve proposal policy =>
    rw [Service.perform]
    split
    · exact .same
    · rename_i result after h
      exact change_reserve h
  | transition proposalId target =>
    rw [Service.perform]
    rcases settleCall_cases ServiceError.store service (fun state => { service with state })
      (service.state.transition proposalId target outcome.now) with
      ⟨error, h⟩ | ⟨updated, after, htransition, h⟩
    · rw [h]
      exact .same
    · rw [h]
      exact change_transition htransition
  | putDecision proposalId decision =>
    rw [Service.perform, AuthorizationArtifactStore.putDecision]
    cases hget : service.artifacts.decisions.get? proposalId with
    | some existing => exact .same
    | none => exact .putDecision hget
  | putExecution execution =>
    rw [Service.perform, AuthorizationArtifactStore.putExecution]
    cases hget : service.artifacts.executions.get? execution.proposalId with
    | some existing => exact .same
    | none => exact .putExecution hget
  | markSubmitted proposalId =>
    rw [Service.perform, AuthorizationArtifactStore.markSubmitted]
    cases hget : service.artifacts.executions.get? proposalId with
    | none => exact .same
    | some execution =>
      dsimp only
      cases execution.submittedAt with
      | some _ => exact .same
      | none => exact .markSubmitted hget
  | sign authorization =>
    rw [Service.perform]
    cases outcome.signer with
    | refuses => exact .same
    | signs result delivered =>
      rw [Service.sign]
      by_cases hused : authorization.decision.decisionNonce ∈
          service.signed.map fun entry => entry.1.decision.decisionNonce
      · rw [if_pos hused]
        exact .same
      · rw [if_neg hused]
        exact .sign hused
  | submit proposalId submission => exact .submit

/-! ## What an answer says -/

variable {now : Datetime}

theorem issue_eq_ok {issuer : DecisionIssuer} {version : PolicyVersion host}
    {decisionId decisionNonce : Uuid} {decision : DecisionTokenV1}
    (h : issuer.issue record version decisionId decisionNonce now = .ok decision) :
    (decision.verdict = .allow → record.state = .reserved) ∧
      decision.reservationId = record.reservationId ∧
      decision.policyHash.val = version.policyHash ∧
      record.proposal.proposalHash host = .ok decision.proposalHash.val := by
  have hissued := Authorizations.issued_of_issue h
  refine ⟨?_, hissued.reservation, hissued.policyHash, hissued.proposalHash⟩
  intro hallow
  rw [hissued.verdict] at hallow
  by_contra hstate
  rw [verdictFor, if_neg hstate] at hallow
  cases hallow

variable {execution : StoredExecutionV1}

theorem fromSigner_eq_ok {error : ε} {transactionId : Uuid}
    {authorization : TransactionSignRequestV1} {result : SignerResult}
    (h : StoredExecutionV1.fromSigner error proposalId authorization result transactionId now =
      .ok execution) :
    execution.proposalId = proposalId ∧
      execution.rawTransaction.val = prefixedHex result.signedTransaction := by
  simp only [StoredExecutionV1.fromSigner, bind_eq_ok, constrain_eq_ok, pure_eq_ok] at h
  obtain ⟨_, _, _, _, rawTransaction, hraw, _, _, _, _, rfl⟩ := h
  exact ⟨rfl, hraw⟩

/-- What an answer says about the ledgers before and after the command. -/
def Answered {host : Host} (before after : Ledger) :
    (command : Command host) → command.Answer → Prop
  | .reserve proposal policy, result =>
    (∃ duplicateId, before.idempotency.get? (idempotencyKey proposal) = some duplicateId ∧
      before.records.get? duplicateId = some result.record) ∨
    ∀ reservationId, result.record.reservationId = some reservationId →
      ⟨result.record.proposal, reservationId, policy⟩ ∈ after.admissions
  | .getRecord proposalId, found => found = before.records.get? proposalId
  | .transition proposalId target, record =>
    record.state = target ∧ after.records.get? proposalId = some record
  | .issue record version, decision =>
    (decision.verdict = .allow → record.state = .reserved) ∧
      decision.reservationId = record.reservationId ∧
      decision.policyHash.val = version.policyHash ∧
      record.proposal.proposalHash host = .ok decision.proposalHash.val
  | .getDecision proposalId, found => found = before.decisions.get? proposalId
  | .sign authorization, result => (authorization, result) ∈ after.signed
  | .fromSigner proposalId _ result, execution =>
    execution.proposalId = proposalId ∧
      execution.rawTransaction.val = prefixedHex result.signedTransaction
  | .getExecution proposalId, found => found = before.executions.get? proposalId
  | .putExecution execution, stored =>
    after.executions.get? execution.proposalId = some stored.1
  | .markSubmitted proposalId, execution =>
    after.executions.get? proposalId = some execution
  | .createPolicy _ _, _ => True
  | .approvePolicy _ _, _ => True
  | .activatePolicy _ _, _ => True
  | .activePolicy, _ => True
  | .registerDecisionNonce _, _ => True
  | .registerWalletNonce _ _ _, _ => True
  | .putDecision _ _, _ => True
  | .submit _ _, _ => True
  | .registerSettlement _ _ _, _ => True
  | .appendAudit _ _ _ _, _ => True

theorem answered_reserve {proposal : ProposalV1} {policy : PolicyV1} {result : ReservationResult}
    (h : service.state.reserve proposal policy outcome.readings outcome.id =
      .ok (result, after)) :
    (∃ duplicateId,
        service.state.idempotency.get? (idempotencyKey proposal) = some duplicateId ∧
        service.state.records.get? duplicateId = some result.record) ∨
      ∀ reservationId, result.record.reservationId = some reservationId →
        ⟨result.record.proposal, reservationId, policy⟩ ∈
          recordAdmission service.admissions proposal policy result := by
  rcases reserve_cases h with ⟨duplicateId, record, hid, hrecord, rfl, _⟩ | ⟨_, hwritten⟩
  · exact Or.inl ⟨duplicateId, hid, hrecord⟩
  · right
    intro reservationId hreservation
    rcases hwritten with ⟨_, _, _, rfl, _⟩ | ⟨_, rfl, _⟩
    · cases hreservation
    · rw [Option.some.inj hreservation, recordAdmission]
      exact List.mem_append_right _ List.mem_cons_self

theorem answered_transition {updated : ProposalRecord}
    (h : store.transition proposalId target now = .ok (updated, after)) :
    updated.state = target ∧ after.records.get? proposalId = some updated := by
  rw [MemoryStateStore.transition, orRaise_bind_eq_ok] at h
  obtain ⟨record, _, h⟩ := h
  rw [mapError_bind_eq_ok] at h
  obtain ⟨_, _, h⟩ := h
  rw [bind_eq_ok] at h
  obtain ⟨applied, _, h⟩ := h
  rw [pure_eq_ok, Prod.mk.injEq] at h
  rw [← h.1, ← h.2]
  exact ⟨rfl, get?_set_self _ _ _⟩

theorem answered_perform {command : Command deployment.host} {answer : command.Answer}
    (h : (service.perform deployment outcome command).1 = .ok answer) :
    Answered (ledger service) (ledger (service.perform deployment outcome command).2) command
      answer := by
  cases command with
  | createPolicy _ _ | approvePolicy _ _ | activatePolicy _ _ | activePolicy
  | registerDecisionNonce _ | registerWalletNonce _ _ _ | putDecision _ _ | submit _ _
  | registerSettlement _ _ _ | appendAudit _ _ _ _ => trivial
  | getRecord _ | getDecision _ | getExecution _ => exact (Except.ok.inj h).symm
  | issue record version => exact issue_eq_ok (mapError_eq_ok.mp h)
  | fromSigner proposalId authorization result => exact fromSigner_eq_ok h
  | reserve proposal policy =>
    rw [Service.perform] at h ⊢
    split at h
    · cases h
    · rename_i result after hreserve
      rw [← Except.ok.inj h]
      exact answered_reserve hreserve
  | transition proposalId target =>
    rw [Service.perform] at h ⊢
    rcases settleCall_cases ServiceError.store service (fun state => { service with state })
      (service.state.transition proposalId target outcome.now) with
      ⟨error, hcall⟩ | ⟨updated, after, htransition, hcall⟩
    · rw [hcall] at h
      cases h
    · rw [hcall] at h ⊢
      rw [← Except.ok.inj h]
      exact answered_transition htransition
  | sign authorization =>
    rw [Service.perform] at h ⊢
    cases hsigner : outcome.signer with
    | refuses =>
      rw [hsigner] at h
      cases h
    | signs result delivered =>
      rw [hsigner, Service.sign] at h
      rw [Service.sign]
      split_ifs at h ⊢ with hused
      rw [← Except.ok.inj h]
      exact List.mem_append_right _ List.mem_cons_self
  | putExecution execution =>
    rw [Service.perform, AuthorizationArtifactStore.putExecution] at h ⊢
    cases hget : service.artifacts.executions.get? execution.proposalId with
    | some existing =>
      rw [hget] at h
      rw [← Except.ok.inj h]
      exact hget
    | none =>
      rw [hget] at h
      rw [← Except.ok.inj h]
      exact get?_set_self _ _ _
  | markSubmitted proposalId =>
    rw [Service.perform, AuthorizationArtifactStore.markSubmitted] at h ⊢
    cases hget : service.artifacts.executions.get? proposalId with
    | none =>
      rw [hget] at h
      cases h
    | some execution =>
      rw [hget] at h
      dsimp only at h ⊢
      cases hsubmitted : execution.submittedAt with
      | some _ =>
        rw [hsubmitted] at h
        rw [← Except.ok.inj h]
        exact hget
      | none =>
        rw [hsubmitted] at h
        rw [← Except.ok.inj h]
        exact get?_set_self _ _ _

/-! ## Records are kept under their proposal -/

def Keyed (l : Ledger) : Prop :=
  ∀ ⦃proposalId record⦄, l.records.get? proposalId = some record →
    record.proposal.proposalId.val = proposalId

variable {l m : Ledger}

theorem Change.keyed {command : Command host} (h : Change command l m) (hkeyed : Keyed l) :
    Keyed m := by
  cases h with
  | same | putDecision | sign | putExecution | markSubmitted | submit => exact hkeyed
  | reserve record hnew =>
    intro otherId other hother
    rw [Ledger.create, get?_set] at hother
    split_ifs at hother with hid
    · rw [← Option.some.inj hother, hid]
    · exact hkeyed hother
  | transition hrecord hallowed hproposal hstate hreservation =>
    intro otherId other hother
    rw [get?_set] at hother
    split_ifs at hother with hid
    · rw [← Option.some.inj hother, hproposal, hid]
      exact hkeyed hrecord
    · exact hkeyed hother

/-! ## What is never undone -/

/-- Decisions stay as they are, and the histories only grow. -/
structure Grows (l m : Ledger) : Prop where
  decisions : ∀ {proposalId decision}, l.decisions.get? proposalId = some decision →
    m.decisions.get? proposalId = some decision
  signed : l.signed ⊆ m.signed
  admissions : l.admissions ⊆ m.admissions

theorem Grows.refl (l : Ledger) : Grows l l :=
  ⟨id, List.Subset.refl _, List.Subset.refl _⟩

theorem Grows.trans {n : Ledger} (hfirst : Grows l m) (hsecond : Grows m n) : Grows l n :=
  ⟨fun h => hsecond.decisions (hfirst.decisions h),
    List.Subset.trans hfirst.signed hsecond.signed,
    List.Subset.trans hfirst.admissions hsecond.admissions⟩

/-- What has no decision now had none before. -/
theorem Grows.undecided (h : Grows l m) (hnone : m.decisions.get? proposalId = none) :
    l.decisions.get? proposalId = none := by
  cases hget : l.decisions.get? proposalId with
  | none => rfl
  | some decision =>
    rw [h.decisions hget] at hnone
    cases hnone

theorem Change.grows {command : Command host} (h : Change command l m) : Grows l m := by
  cases h with
  | same | transition | putExecution | markSubmitted | submit =>
    exact ⟨id, List.Subset.refl _, List.Subset.refl _⟩
  | reserve record hnew =>
    refine ⟨id, List.Subset.refl _, ?_⟩
    rw [Ledger.create, recordAdmission]
    split
    · exact List.subset_append_left _ _
    · exact List.Subset.refl _
  | putDecision hnew =>
    refine ⟨?_, List.Subset.refl _, List.Subset.refl _⟩
    intro otherId other hother
    rw [get?_set_ne]
    · exact hother
    · rintro rfl
      rw [hnew] at hother
      cases hother
  | sign hnew => exact ⟨id, List.subset_append_left _ _, List.Subset.refl _⟩

/-! ## Disciplines -/

/-- An invariant of the ledger, what no command undoes, and what a command needs for both. -/
structure Discipline (host : Host) where
  invariant : Ledger → Prop
  keeps : Ledger → Ledger → Prop
  guard : Ledger → Command host → Prop
  needs : Ledger → Command host → Prop
  keeps_refl : ∀ l, keeps l l
  keeps_trans : ∀ {l m n}, keeps l m → keeps m n → keeps l n
  step : ∀ {l m command}, invariant l → guard l command → needs l command →
    Change command l m → invariant m ∧ keeps l m

namespace Discipline

def protocol {host : Host} {ρ : Type} (discipline : Discipline host)
    (post : Ledger → ρ → Prop) : Protocol (Service host) ρ where
  invariant := fun s => discipline.invariant (ledger s)
  keeps := fun s t => discipline.keeps (ledger s) (ledger t)
  post := fun s result => post (ledger s) result
  keeps_refl := fun s => discipline.keeps_refl (ledger s)
  keeps_trans := discipline.keeps_trans

variable {ρ ρ' : Type}

/-- A program that meets the needs of its commands from the ledger `l` on, and returns what
meets `post`. -/
def Keeps (discipline : Discipline deployment.host) (post : Ledger → ρ → Prop)
    (program : Program deployment.host ρ) (l : Ledger) : Prop :=
  ∀ s, ledger s = l →
    Safe (Service.perform deployment) (fun s command => discipline.guard (ledger s) command)
      (discipline.protocol post) program s

/-- Nothing is asked of the result. -/
def anything (_ : Ledger) (_ : ρ) : Prop := True

variable {discipline : Discipline deployment.host} {post : Ledger → ρ → Prop} {l : Ledger}

theorem keeps_call {command : Command deployment.host}
    {rest : command.Answer → Program deployment.host ρ}
    (hneeds : ∀ m, discipline.keeps l m → discipline.invariant m →
      discipline.guard m command → discipline.needs m command)
    (hrest : ∀ m n answer, discipline.keeps l m → discipline.invariant m →
      discipline.guard m command → discipline.keeps m n → discipline.invariant n →
      Answered m n command answer → discipline.Keeps post (rest answer) n) :
    discipline.Keeps post (call command >>= rest) l := by
  rintro s rfl
  apply safe_call
  intro t hkeeps hinv hguard outcome
  have hstep := discipline.step hinv hguard (hneeds (ledger t) hkeeps hinv hguard)
    (change_perform outcome t command)
  refine ⟨hstep.1, hstep.2, ?_⟩
  intro answer hanswer
  exact hrest (ledger t) _ answer hkeeps hinv hguard hstep.2 hstep.1 (answered_perform hanswer)
    _ rfl

/-- A command whose answer does not matter. -/
theorem keeps_then {command : Command deployment.host}
    {rest : command.Answer → Program deployment.host ρ}
    (hneeds : ∀ m, discipline.needs m command)
    (hrest : ∀ n answer, discipline.keeps l n → discipline.invariant n →
      discipline.Keeps post (rest answer) n) :
    discipline.Keeps post (call command >>= rest) l := by
  apply keeps_call
  · intro m _ _ _
    exact hneeds m
  · intro m n answer hbefore _ _ hafter hinv _
    exact hrest n answer (discipline.keeps_trans hbefore hafter) hinv

theorem keeps_ofExcept {x : Except ServiceError ρ'} {rest : ρ' → Program deployment.host ρ}
    (h : ∀ value, x = .ok value → discipline.Keeps post (rest value) l) :
    discipline.Keeps post (Prog.ofExcept x >>= rest) l :=
  fun s hs => safe_ofExcept fun value hvalue => h value hvalue s hs

theorem keeps_bind {part : Program deployment.host ρ'} {rest : ρ' → Program deployment.host ρ}
    {q : Ledger → ρ' → Prop} (h : discipline.Keeps q part l)
    (hrest : ∀ m result, discipline.keeps l m → discipline.invariant m → q m result →
      discipline.Keeps post (rest result) m) :
    discipline.Keeps post (part >>= rest) l := by
  rintro s rfl
  exact safe_bind (h s rfl) fun t result hkeeps hinv hmid =>
    hrest (ledger t) result hkeeps hinv hmid t rfl

theorem keeps_pure {result : ρ}
    (h : ∀ m, discipline.keeps l m → discipline.invariant m → post m result) :
    discipline.Keeps post (pure result) l := by
  rintro s rfl
  exact safe_ret fun t hkeeps hinv => h (ledger t) hkeeps hinv

/-- In every run of calls that keep to a discipline its invariant holds, and every result
that was returned meets its condition. -/
theorem run_keeps (discipline : Discipline deployment.host) (post : Ledger → Response → Prop)
    {entry : ServiceCall → Prop} (hentry : ∀ request, entry request → ∀ l, discipline.invariant l →
      discipline.Keeps post (serviceProgram deployment request) l)
    {start : Service deployment.host} (hstart : discipline.invariant (ledger start))
    {trace : List (Label ServiceCall Outcome)} {config : ServiceConfig deployment}
    (hrun : Run (ServiceStep deployment entry fun s command =>
      discipline.guard (ledger s) command) ⟨start, []⟩ trace config) :
    discipline.invariant (ledger config.shared) ∧
      ∀ result ∈ config.results, post (ledger config.shared) result := by
  have hsafe : ∀ request, entry request → ∀ s : Service deployment.host,
      discipline.invariant (ledger s) →
      Safe (Service.perform deployment) (fun s command => discipline.guard (ledger s) command)
        (discipline.protocol post) (serviceProgram deployment request) s :=
    fun request hrequest s hinv => hentry request hrequest (ledger s) hinv s rfl
  exact safe_run (discipline.protocol post) hsafe hstart hrun

end Discipline

/-! ## The commands of `execute` -/

/-- The commands of `execute` once it has an execution. -/
def Concludes {host : Host} : Command host → Prop
  | .getRecord _ => True
  | .submit _ _ => True
  | .markSubmitted _ => True
  | .registerSettlement _ _ _ => True
  | .transition _ target => target = .submitted
  | .appendAudit _ _ _ _ => True
  | _ => False

def Executes {host : Host} : Command host → Prop
  | .getExecution _ => True
  | .getDecision _ => True
  | .sign _ => True
  | .registerDecisionNonce _ => True
  | .registerWalletNonce _ _ _ => True
  | .fromSigner _ _ _ => True
  | .putExecution _ => True
  | .transition _ target => target = .signed ∨ target = .submitted
  | command => Concludes command

theorem executes_of_concludes {command : Command host} (h : Concludes command) :
    Executes command := by
  cases command
  case transition proposalId target => exact Or.inr h
  all_goals trivial

theorem uses_advanceToSubmitted {register : Program deployment.host Unit}
    (hregister : register.Uses Concludes) :
    (advanceToSubmitted deployment proposalId register).Uses Concludes := by
  refine Prog.uses_call trivial fun found => Prog.uses_ofExcept fun current => ?_
  split_ifs
  · exact Prog.uses_bind hregister fun _ => Prog.uses_call rfl fun _ => trivial
  · trivial

variable {actor : Str}

theorem uses_submitExecution :
    (submitExecution deployment proposalId actor execution).Uses Concludes := by
  refine Prog.uses_call trivial fun _ => Prog.uses_ofExcept fun _ => ?_
  refine Prog.uses_call trivial fun _ => Prog.uses_call trivial fun _ => ?_
  refine Prog.uses_bind (uses_advanceToSubmitted trivial) fun _ => ?_
  exact Prog.uses_call trivial fun _ => trivial

theorem uses_resumeExecution :
    (resumeExecution deployment proposalId execution).Uses Concludes := by
  refine Prog.uses_bind (uses_advanceToSubmitted ?_) fun _ => trivial
  exact ⟨trivial, fun _ => trivial⟩

theorem uses_signExecution {request : ExecutionRequest} :
    (signExecution deployment proposalId request actor record).Uses Executes := by
  refine Prog.uses_ofExcept fun _ => Prog.uses_call trivial fun _ => ?_
  refine Prog.uses_ofExcept fun _ => Prog.uses_ofExcept fun _ => ?_
  refine Prog.uses_call trivial fun _ => Prog.uses_call trivial fun _ => ?_
  refine Prog.uses_call trivial fun _ => Prog.uses_call trivial fun _ => ?_
  refine Prog.uses_call trivial fun _ => Prog.uses_ofExcept fun _ => ?_
  exact Prog.uses_call (Or.inl rfl) fun _ => Prog.uses_call trivial fun _ => trivial

theorem uses_execute {request : ExecutionRequest} :
    (execute deployment proposalId request actor).Uses Executes := by
  refine Prog.uses_call trivial fun _ => Prog.uses_ofExcept fun _ => ?_
  refine Prog.uses_ofExcept fun _ => Prog.uses_ofExcept fun _ => ?_
  refine Prog.uses_ofExcept fun _ => Prog.uses_call trivial fun existing => ?_
  apply Prog.uses_bind
  · cases existing with
    | none => exact uses_signExecution
    | some execution => exact Prog.uses_ofExcept fun _ => trivial
  · intro stored
    apply Prog.uses_bind
    · cases stored.1.submittedAt with
      | none => exact uses_submitExecution.mono fun _ => executes_of_concludes
      | some _ => exact uses_resumeExecution.mono fun _ => executes_of_concludes
    · exact fun _ => trivial

/-! ## A sample deployment

A transfer of 100 and two policies, of which the second would refuse it.  The digests of
the policies, of the proposal and of what is signed are real ones. -/

open SignedEffect AttestationSoundness

def sampleRecipient : LowerAddress := lowerAddress 0x3434343434343434343434343434343434343434

def widePolicy : PolicyV1 := { samplePolicy with
  enabledWallets := [enclaveAddress]
  allowedRecipients := [sampleRecipient] }

def tightPolicy : PolicyV1 := { widePolicy with
  perTransactionCap := 50
  coherent := ⟨widePolicy.coherent.1, nofun⟩ }

def sampleTransfer : ProposalV1 := transferProposal enclaveAddress sampleRecipient

theorem priorityFee_le_maxFee : 100000000 ≤ (1000000000 : PosInt).val := by decide

def sampleExecution : ExecutionRequest where
  walletNonce := 0
  value := 100
  gasLimit := 21000
  maxFeePerGas := 1000000000
  maxPriorityFeePerGas := 100000000
  priorityFeeWithinMaximum := priorityFee_le_maxFee

/-- A hash function by the digests that matter; anything else hashes to zero. -/
def digestsOrZero (digests : List (Bytes × Nat)) (data : Bytes) : Bytes :=
  match digests.find? (fun entry => entry.1 = data) with
  | some entry => bytesLiteral 32 entry.2
  | none => bytesLiteral 32 0

def serviceHost : Host := { textHost with
  sha256 := digestsOrZero [
    (canonicalText widePolicy.normalized,
      0x9bd474f8e05784ca2afcec9e6f47620d60fbf4575a2aa14cfca4f4fb9d3948e7),
    (canonicalText tightPolicy.normalized,
      0x181331884df9fac0e6f2deb2a8814ab12eec69567f976b0f36fd7c2286d0b11e),
    (canonicalText (sampleTransfer.modelDump textHost), honestProposalHash)]
  keccak := digestsOrZero [
    (bytesLiteral 66 (0x1901 * 2 ^ 512 + honestProposalHash),
      0xb3a6a8c7cf9d0fe1163471b724e5a6b81dc06d97eba07fa4f1cf3fc9ed90ebf8),
    (bytesLiteral 43 (0x02e9827a69808405f5e100843b9aca008252089434343434 * 2 ^ 152 +
      0x343434343434343434343434343434346480c0),
      0x74160b5d390881c05de41fe275595d13ed1d06700308098d944b95bdf4189e41)] }

def sampleDeployment : Deployment where
  host := serviceHost
  issuer := ⟨honestDecision.policySigner, fun _ => bytesLiteral 64 0, 30⟩
  signerConfigured := true
  chainBackends := [31337]
  eip712DomainSeparator := prefixedHex (bytesLiteral 32 0)

def wideVersionId : Uuid := 0x19f7518fe0070008000000000000021

def tightVersionId : Uuid := 0x19f7518fe0070008000000000000022

/-- Two administrators approve a new policy. -/
def approvedPolicy (registry : PolicyRegistry serviceHost) (policy : PolicyV1)
    (versionId : Uuid) : Except PolicyError (PolicyRegistry serviceHost) := do
  let created ← registry.create policy "author".toList versionId sampleNow
  let first ← created.2.approve versionId "administrator-1".toList
  let second ← first.2.approve versionId "administrator-2".toList
  pure second.2

/-- Both policies are approved, and the first one is active. -/
def sampleRegistry : PolicyRegistry serviceHost :=
  let registry := do
    let wide ← approvedPolicy .empty widePolicy wideVersionId
    let both ← approvedPolicy wide tightPolicy tightVersionId
    let activated ← both.activate wideVersionId "administrator-1".toList sampleNow
    pure activated.2
  registry.toOption.getD .empty

def sampleService : Service sampleDeployment.host := .new sampleRegistry sampleNow

/-- What the signer returns for the transfer. -/
def sampleResult : SignerResult where
  signingHash := honestEvidence.signingHash
  transactionHash := honestEvidence.transactionHash
  signedTransaction := hexBytes honestAttestation.signedTransaction.rawTransaction
  walletNonce := 0
  chainId := 31337
  decisionId := honestDecision.decisionId
  signerIdentity := enclaveAddress
  signature := honestAttestation.signedTransaction.signature
  enclaveEvidence := []

/-- The signer signs and the chain backend accepts, should they be asked. -/
def sampleOutcome : Outcome where
  id := firstReservation
  nonce := honestDecision.decisionNonce
  now := sampleNow
  readings := readingsAt sampleNow
  signer := .signs sampleResult true
  backend := some honestEvidence.transactionHash

/-- The next `count` commands of a thread. -/
def advances (index count : Nat) : List (Label ServiceCall Outcome) :=
  List.replicate count (.advance index sampleOutcome)

def configAfter (start : Service sampleDeployment.host)
    (trace : List (Label ServiceCall Outcome)) : ServiceConfig sampleDeployment :=
  Config.performAll (Service.perform sampleDeployment) (serviceProgram sampleDeployment)
    ⟨start, []⟩ trace

/-- The trace is one of the calls of `entry`, and its commands meet `guard`. -/
abbrev SampleFollows (entry : ServiceCall → Prop)
    (guard : Service sampleDeployment.host → Command sampleDeployment.host → Prop)
    (start : Service sampleDeployment.host) (trace : List (Label ServiceCall Outcome)) : Prop :=
  Follows (Service.perform sampleDeployment) (serviceProgram sampleDeployment) entry guard
    ⟨start, []⟩ trace

theorem SampleFollows.run {entry : ServiceCall → Prop}
    {guard : Service sampleDeployment.host → Command sampleDeployment.host → Prop}
    {start : Service sampleDeployment.host} {trace : List (Label ServiceCall Outcome)}
    (h : SampleFollows entry guard start trace) :
    Run (ServiceStep sampleDeployment entry guard) ⟨start, []⟩ trace (configAfter start trace) :=
  Follows.run h

end AegisLedger.Gateway.ServiceLedger
