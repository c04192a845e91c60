import AegisLedger.Gateway.Proofs.ExecutionRecovery

/-!
# Audit events of an execution

`execute` appends an event after the state that it describes is stored: TRANSACTION_SIGNED
after the execution, TRANSACTION_SUBMITTED after the mark on it.  A retry starts from what is
stored, and appends neither event again.  So nothing is missing as long as whoever finds an
execution finds its events in the journal.
-/

namespace AegisLedger.Gateway.AuditCompleteness

open AegisLedger.Support HexText Checks Dict Threads
open ServiceLedger

/-! ## Events -/

/-- The text of a member of the payload. -/
def payloadText (event : AuditEventV1) (member : String) : Option Str :=
  match event.payload.lookup member.toList with
  | some (.str text) => some text
  | _ => none

/-- The journal has an event of this type for the proposal, with the transaction hash. -/
def Announced (eventType : String) (proposalId : Uuid) (transactionHash : Str)
    (events : List AuditEventV1) : Prop :=
  ∃ event ∈ events, event.eventType.val = eventType.toList ∧
    event.aggregateId = some proposalId ∧
    payloadText event "proposal_id" = some (uuidText proposalId) ∧
    payloadText event "transaction_hash" = some transactionHash

instance (eventType : String) (proposalId : Uuid) (transactionHash : Str)
    (events : List AuditEventV1) :
    Decidable (Announced eventType proposalId transactionHash events) := by
  delta Announced
  infer_instance

variable {proposalId : Uuid}

theorem Announced.mono {eventType : String} {transactionHash : Str}
    {events later : List AuditEventV1} (h : Announced eventType proposalId transactionHash events)
    (hlater : events ⊆ later) : Announced eventType proposalId transactionHash later := by
  obtain ⟨event, hevent, h⟩ := h
  exact ⟨event, hlater hevent, h⟩

variable {host : Host}

theorem append_cases {journal after : AuditJournal} {eventType actor : Str}
    {payload : List (Str × Json)} {aggregateId : Option Uuid} {eventId : Uuid} {now : Datetime}
    {event : AuditEventV1}
    (h : journal.append host eventType actor payload aggregateId eventId now =
      .ok (event, after)) :
    event.eventType.val = eventType ∧ event.aggregateId = aggregateId ∧
      event.payload = payload ∧ after.events = journal.events ++ [event] := by
  simp only [AuditJournal.append, bind_eq_ok, constrain_eq_ok, pure_eq_ok, Prod.mk.injEq] at h
  obtain ⟨_, htype, _, _, _, _, _, _, rfl, rfl⟩ := h
  exact ⟨htype, rfl, rfl, rfl⟩

/-- The events that an execution of the proposal calls for. -/
def Logged (proposalId : Uuid) (execution : StoredExecutionV1) (events : List AuditEventV1) :
    Prop :=
  Announced "TRANSACTION_SIGNED" proposalId execution.transactionHash events ∧
    (execution.submittedAt.isSome = true →
      Announced "TRANSACTION_SUBMITTED" proposalId execution.transactionHash events)

variable {execution : StoredExecutionV1}

theorem Logged.mono {events later : List AuditEventV1} (h : Logged proposalId execution events)
    (hlater : events ⊆ later) : Logged proposalId execution later :=
  ⟨h.1.mono hlater, fun hsubmitted => (h.2 hsubmitted).mono hlater⟩

/-! ## What is never undone -/

/-- The journal grows, and an execution keeps its transaction. -/
structure Kept {host : Host} (service later : Service host) : Prop where
  events : service.audit.events ⊆ later.audit.events
  executions : ∀ {proposalId execution},
    service.artifacts.executions.get? proposalId = some execution →
    ∃ kept, later.artifacts.executions.get? proposalId = some kept ∧
      kept.transactionHash = execution.transactionHash

theorem Kept.refl (service : Service host) : Kept service service :=
  ⟨List.Subset.refl _, fun h => ⟨_, h, rfl⟩⟩

theorem Kept.trans {first second third : Service host} (h : Kept first second)
    (h' : Kept second third) : Kept first third where
  events := List.Subset.trans h.events h'.events
  executions := by
    intro proposalId execution hexecution
    obtain ⟨kept, hkept, hsame⟩ := h.executions hexecution
    obtain ⟨last, hlast, hlastSame⟩ := h'.executions hkept
    exact ⟨last, hlast, hlastSame.trans hsame⟩

variable {deployment : Deployment}

theorem events_perform (outcome : Outcome) (service : Service deployment.host)
    (command : Command deployment.host) :
    service.audit.events ⊆ (service.perform deployment outcome command).2.audit.events := by
  cases command with
  | activePolicy | getRecord _ | issue _ _ | getDecision _ | fromSigner _ _ _ | getExecution _
  | putDecision _ _ | putExecution _ | submit _ _ => exact List.Subset.refl _
  | reserve proposal policy =>
    rw [Service.perform]
    split <;> exact List.Subset.refl _
  | sign authorization =>
    rw [Service.perform]
    cases outcome.signer with
    | refuses => exact List.Subset.refl _
    | signs result delivered =>
      rw [Service.sign]
      split_ifs <;> exact List.Subset.refl _
  | createPolicy _ _ | approvePolicy _ _ | activatePolicy _ _ | transition _ _
  | registerDecisionNonce _ | registerWalletNonce _ _ _ | markSubmitted _
  | registerSettlement _ _ _ =>
    rw [Service.perform]
    unfold settleCall
    split <;> exact List.Subset.refl _
  | appendAudit eventType actor payload aggregateId =>
    rw [Service.perform]
    rcases settleCall_cases ServiceError.audit service (fun audit => { service with audit })
      (service.audit.append deployment.host eventType actor payload aggregateId outcome.id
        outcome.now) with ⟨error, hcall⟩ | ⟨event, after, happend, hcall⟩
    · rw [hcall]
      exact List.Subset.refl _
    · rw [hcall, (append_cases happend).2.2.2]
      exact List.subset_append_left _ _

theorem kept_perform (outcome : Outcome) (service : Service deployment.host)
    (command : Command deployment.host) :
    Kept service (service.perform deployment outcome command).2 where
  events := events_perform outcome service command
  executions := by
    have hchange := change_perform outcome service command
    intro proposalId execution hexecution
    have hbefore : (ledger service).executions.get? proposalId = some execution := hexecution
    have hafter : (service.perform deployment outcome command).2.artifacts.executions =
        (ledger (service.perform deployment outcome command).2).executions := rfl
    rw [hafter]
    generalize ledger service = l at hchange hbefore
    generalize ledger (service.perform deployment outcome command).2 = m at hchange
    cases hchange with
    | same | reserve | transition | putDecision | sign | submit => exact ⟨execution, hbefore, rfl⟩
    | putExecution hnew =>
      refine ⟨execution, ?_, rfl⟩
      rw [get?_set_ne]
      · exact hbefore
      · rintro rfl
        rw [hnew] at hbefore
        cases hbefore
    | markSubmitted hfound =>
      rw [get?_set]
      split_ifs with hid
      · rw [hid, hfound] at hbefore
        refine ⟨_, rfl, ?_⟩
        rw [← Option.some.inj hbefore]
        rfl
      · exact ⟨execution, hbefore, rfl⟩

/-! ## Calls -/

/-- The execution that a command finds in the store. -/
def foundExecution {host : Host} (service : Service host) :
    Command host → Option (Uuid × StoredExecutionV1)
  | .getExecution proposalId =>
    (service.artifacts.executions.get? proposalId).map fun execution => (proposalId, execution)
  | .putExecution execution =>
    (service.artifacts.executions.get? execution.proposalId).map fun found =>
      (execution.proposalId, found)
  | _ => none

/-- Whoever finds an execution finds its events in the journal. -/
def FindsLogged {host : Host} (service : Service host) (command : Command host) : Prop :=
  ∀ found ∈ foundExecution service command, Logged found.1 found.2 service.audit.events

def protocol {ρ : Type} (post : Service deployment.host → ρ → Prop) :
    Protocol (Service deployment.host) ρ where
  invariant := fun _ => True
  keeps := Kept
  post := post
  keeps_refl := Kept.refl
  keeps_trans := .trans

abbrev Keeps {ρ : Type} (post : Service deployment.host → ρ → Prop)
    (program : Program deployment.host ρ) (service : Service deployment.host) : Prop :=
  Safe (Service.perform deployment) FindsLogged (protocol post) program service

section Rules

variable {ρ : Type} {post : Service deployment.host → ρ → Prop}
  {service : Service deployment.host}

theorem keeps_command {command : Command deployment.host}
    {rest : command.Answer → Program deployment.host ρ}
    (hrest : ∀ t outcome answer, Kept service t → FindsLogged t command →
      (t.perform deployment outcome command).1 = .ok answer →
      Keeps post (rest answer) (t.perform deployment outcome command).2) :
    Keeps post (call command >>= rest) service := by
  apply safe_call
  intro t hkept _ hfinds outcome
  exact ⟨trivial, kept_perform outcome t command, fun answer hanswer =>
    hrest t outcome answer hkept hfinds hanswer⟩

/-- A command whose answer does not matter. -/
theorem keeps_then {command : Command deployment.host}
    {rest : command.Answer → Program deployment.host ρ}
    (hrest : ∀ t answer, Kept service t → Keeps post (rest answer) t) :
    Keeps post (call command >>= rest) service :=
  keeps_command fun t outcome answer hkept _ _ =>
    hrest _ answer (hkept.trans (kept_perform outcome t command))

/-- Nothing is asked of the result. -/
theorem keeps_anything (hpost : ∀ t result, post t result) (program : Program deployment.host ρ) :
    Keeps post program service :=
  safe_of_uses (Prog.uses_of_forall (p := fun _ => True) (fun _ => trivial) program) hpost
    fun t command _ _ _ outcome => ⟨trivial, kept_perform outcome t command⟩

/-- An event is in the journal once `append` has returned. -/
theorem announced_append {t : Service deployment.host} {outcome : Outcome} {eventType : String}
    {actor : Str} {payload : List (Str × Json)} {proposalId : Uuid} {event : AuditEventV1}
    (hanswer : (t.perform deployment outcome
      (.appendAudit eventType.toList actor payload (some proposalId))).1 = .ok event)
    (transactionHash : Str)
    (hproposal : payload.lookup "proposal_id".toList = some (.str (uuidText proposalId)))
    (htransaction : payload.lookup "transaction_hash".toList = some (.str transactionHash)) :
    Announced eventType proposalId transactionHash (t.perform deployment outcome
      (.appendAudit eventType.toList actor payload (some proposalId))).2.audit.events := by
  rw [Service.perform] at hanswer ⊢
  rcases settleCall_cases ServiceError.audit t (fun audit => { t with audit })
    (t.audit.append deployment.host eventType.toList actor payload (some proposalId) outcome.id
      outcome.now) with ⟨error, hcall⟩ | ⟨appended, after, happend, hcall⟩
  · rw [hcall] at hanswer
    cases hanswer
  · rw [hcall]
    obtain ⟨htype, haggregate, hpayload, hevents⟩ := append_cases happend
    refine ⟨appended, ?_, htype, haggregate, ?_, ?_⟩
    · rw [hevents]
      exact List.mem_append_right _ List.mem_cons_self
    · rw [payloadText, hpayload, hproposal]
    · rw [payloadText, hpayload, htransaction]

end Rules

/-- The store has an execution of the proposal with this transaction. -/
def Stores (proposalId : Uuid) (execution : StoredExecutionV1)
    (service : Service deployment.host) : Prop :=
  ∃ stored, service.artifacts.executions.get? proposalId = some stored ∧
    stored.transactionHash = execution.transactionHash

variable {later service : Service deployment.host}

theorem Stores.kept (h : Stores proposalId execution service) (hkept : Kept service later) :
    Stores proposalId execution later := by
  obtain ⟨stored, hstored, hsame⟩ := h
  obtain ⟨kept, hkeptStored, hkeptSame⟩ := hkept.executions hstored
  exact ⟨kept, hkeptStored, hkeptSame.trans hsame⟩

/-- Both events of the transaction are in the journal. -/
def BothAnnounced (proposalId : Uuid) (transactionHash : Str) (service : Service deployment.host) :
    Prop :=
  Announced "TRANSACTION_SIGNED" proposalId transactionHash service.audit.events ∧
    Announced "TRANSACTION_SUBMITTED" proposalId transactionHash service.audit.events

theorem BothAnnounced.kept {transactionHash : Str}
    (h : BothAnnounced proposalId transactionHash service) (hkept : Kept service later) :
    BothAnnounced proposalId transactionHash later :=
  ⟨h.1.mono hkept.events, h.2.mono hkept.events⟩

theorem keeps_submitExecution (hstores : Stores proposalId execution service)
    (hsigned : Announced "TRANSACTION_SIGNED" proposalId execution.transactionHash
      service.audit.events) (actor : Str) :
    Keeps (fun service result => BothAnnounced proposalId result.1.transactionHash service)
      (submitExecution deployment proposalId actor execution) service := by
  refine keeps_then fun t transactionHash hsubmitted => ?_
  refine safe_ofExcept fun _ _ => ?_
  refine keeps_command fun u outcome marked hbefore _ hmarked => ?_
  have hafter := kept_perform outcome u (.markSubmitted proposalId)
  have hsame : marked.transactionHash = execution.transactionHash := by
    obtain ⟨stored, hstored, hstoredSame⟩ := ((hstores.kept hsubmitted).kept hbefore).kept hafter
    have hnow : (u.perform deployment outcome
        (.markSubmitted proposalId)).2.artifacts.executions.get? proposalId = some marked :=
      answered_perform hmarked
    rw [hnow] at hstored
    rw [Option.some.inj hstored]
    exact hstoredSame
  have hkept := (hsubmitted.trans hbefore).trans hafter
  refine keeps_then fun v _ hregistered => ?_
  apply safe_bind (q := fun _ _ => True)
  · exact keeps_anything (fun _ _ => trivial) _
  · intro w record hmoved _ _
    refine keeps_command fun x outcome event haudit _ hanswer => ?_
    have hannounced := announced_append hanswer marked.transactionHash.val rfl rfl
    have hearlier : Announced "TRANSACTION_SIGNED" proposalId marked.transactionHash
        x.audit.events := by
      rw [hsame]
      exact hsigned.mono (((hkept.trans hregistered).trans hmoved).trans haudit).events
    refine safe_ret fun y hlast _ => ?_
    exact ⟨hearlier.mono ((kept_perform outcome x _).trans hlast).events,
      hannounced.mono hlast.events⟩

theorem keeps_resumeExecution (hboth : BothAnnounced proposalId execution.transactionHash service) :
    Keeps (fun service result => BothAnnounced proposalId result.1.transactionHash service)
      (resumeExecution deployment proposalId execution) service := by
  apply safe_bind (q := fun _ _ => True)
  · exact keeps_anything (fun _ _ => trivial) _
  · intro t record hkept _ _
    exact safe_ret fun u hlast _ => (hboth.kept hkept).kept hlast

/-- What `execute` knows of the execution that it goes on with. -/
def Resumable (proposalId : Uuid) (service : Service deployment.host)
    (stored : StoredExecutionV1 × Bool) : Prop :=
  Stores proposalId stored.1 service ∧ Logged proposalId stored.1 service.audit.events

theorem Resumable.kept {stored : StoredExecutionV1 × Bool}
    (h : Resumable proposalId service stored) (hkept : Kept service later) :
    Resumable proposalId later stored :=
  ⟨h.1.kept hkept, h.2.mono hkept.events⟩

theorem submittedAt_fromSigner {ε : Type} {error : ε} {transactionId : Uuid}
    {authorization : TransactionSignRequestV1} {result : SignerResult} {now : Datetime}
    (h : StoredExecutionV1.fromSigner error proposalId authorization result transactionId now =
      .ok execution) : execution.submittedAt = none := by
  simp only [StoredExecutionV1.fromSigner, bind_eq_ok, constrain_eq_ok, pure_eq_ok] at h
  obtain ⟨_, _, _, _, _, _, _, _, _, _, rfl⟩ := h
  rfl

/-- An execution that comes back submitted was there before. -/
theorem found_of_submitted {outcome : Outcome} {candidate : StoredExecutionV1}
    {stored : StoredExecutionV1 × Bool}
    (hanswer : (service.perform deployment outcome (.putExecution candidate)).1 = .ok stored)
    (hnew : candidate.submittedAt = none) (hsubmitted : stored.1.submittedAt.isSome = true) :
    service.artifacts.executions.get? candidate.proposalId = some stored.1 := by
  rw [Service.perform, AuthorizationArtifactStore.putExecution] at hanswer
  cases hget : service.artifacts.executions.get? candidate.proposalId with
  | some existing =>
    rw [hget] at hanswer
    rw [← Except.ok.inj hanswer]
  | none =>
    rw [hget] at hanswer
    rw [← Except.ok.inj hanswer, hnew] at hsubmitted
    cases hsubmitted

theorem keeps_signExecution {record : ProposalRecord} (request : ExecutionRequest) (actor : Str) :
    Keeps (Resumable proposalId) (signExecution deployment proposalId request actor record)
      service := by
  refine safe_ofExcept fun _ _ => ?_
  refine keeps_then fun _ found _ => ?_
  refine safe_ofExcept fun decision _ => safe_ofExcept fun authorized _ => ?_
  refine keeps_then fun _ result _ => ?_
  refine keeps_then fun _ _ _ => ?_
  refine keeps_then fun _ _ _ => ?_
  refine keeps_command fun t outcome candidate _ _ hcandidate => ?_
  have hid : candidate.proposalId = proposalId := (fromSigner_eq_ok hcandidate).1
  refine keeps_command fun u outcome stored _ hfinds hstored => ?_
  have hstores : Stores proposalId stored.1
      (u.perform deployment outcome (.putExecution candidate)).2 := by
    have hnow : (u.perform deployment outcome
        (.putExecution candidate)).2.artifacts.executions.get? candidate.proposalId =
          some stored.1 :=
      answered_perform hstored
    rw [hid] at hnow
    exact ⟨stored.1, hnow, rfl⟩
  have hsubmitted : stored.1.submittedAt.isSome = true →
      Announced "TRANSACTION_SUBMITTED" proposalId stored.1.transactionHash
        u.audit.events := by
    intro hsome
    have hfound := found_of_submitted hstored (submittedAt_fromSigner hcandidate) hsome
    have hlogged : Logged candidate.proposalId stored.1 u.audit.events :=
      hfinds (candidate.proposalId, stored.1) (by rw [foundExecution, hfound]; rfl)
    rw [hid] at hlogged
    exact hlogged.2 hsome
  have hput := kept_perform outcome u (.putExecution candidate)
  refine safe_ofExcept fun _ _ => ?_
  refine keeps_then fun v _ hmoved => ?_
  refine keeps_command fun w outcome event haudit _ hanswer => ?_
  have hsigned := announced_append hanswer stored.1.transactionHash.val rfl rfl
  refine safe_ret fun x hlast _ => ?_
  have hkept := hmoved.trans (haudit.trans ((kept_perform outcome w _).trans hlast))
  refine ⟨hstores.kept hkept, hsigned.mono hlast.events, ?_⟩
  exact fun hsome => (hsubmitted hsome).mono (hput.trans hkept).events

def ReturnsAnnounced (service : Service deployment.host) (response : ExecutionResponse) : Prop :=
  BothAnnounced response.proposalId response.transactionHash service

theorem keeps_execute (proposalId : Uuid) (request : ExecutionRequest) (actor : Str)
    (service : Service deployment.host) :
    Keeps ReturnsAnnounced (execute deployment proposalId request actor) service := by
  refine keeps_then fun _ found _ => ?_
  refine safe_ofExcept fun record _ => safe_ofExcept fun _ _ => ?_
  refine safe_ofExcept fun _ _ => safe_ofExcept fun _ _ => ?_
  refine keeps_command fun t outcome existing _ hfinds hexisting => ?_
  have hexisting : existing = t.artifacts.executions.get? proposalId := (Except.ok.inj hexisting).symm
  apply safe_bind (q := Resumable proposalId)
  · cases existing with
    | none => exact keeps_signExecution request actor
    | some execution =>
      have hresumable : Resumable proposalId t (execution, false) := by
        refine ⟨⟨execution, hexisting.symm, rfl⟩, ?_⟩
        exact hfinds (proposalId, execution) (by rw [foundExecution, ← hexisting]; rfl)
      refine safe_ofExcept fun _ _ => ?_
      exact safe_ret fun u hkept _ => hresumable.kept hkept
  · intro u stored _ _ hresumable
    apply safe_bind (q := fun service result =>
      BothAnnounced proposalId result.1.transactionHash service)
    · cases hsubmitted : stored.1.submittedAt with
      | none => exact keeps_submitExecution hresumable.1 hresumable.2.1 actor
      | some submittedAt =>
        apply keeps_resumeExecution
        exact ⟨hresumable.2.1, hresumable.2.2 (by rw [hsubmitted]; rfl)⟩
    · intro v submitted _ _ hboth
      exact safe_ret fun w hkept _ => hboth.kept hkept

/-- What an `execute` call that returned has left in the journal. -/
def Complete (service : Service deployment.host) : Response → Prop
  | .execution response => ReturnsAnnounced service response
  | .submission _ => True
  | .done => True

theorem keeps_serviceProgram (request : ServiceCall) (service : Service deployment.host) :
    Keeps Complete (serviceProgram deployment request) service := by
  cases request with
  | execute proposalId request actor =>
    apply safe_bind (keeps_execute proposalId request actor service)
    intro t response _ _ hboth
    exact safe_ret fun u hkept _ => hboth.kept hkept
  | submit proposal actor =>
    apply safe_bind (keeps_anything (fun _ _ => trivial) (submit proposal actor))
      (q := fun _ _ => True)
    intro t response _ _ _
    exact safe_ret fun _ _ _ => trivial
  | createPolicy _ _ | approvePolicy _ _ | activatePolicy _ _ | reconcile _ _ =>
    exact keeps_then fun _ _ _ => safe_ret fun _ _ _ => trivial

/-! ## Every run -/

/-- Whatever calls fail or stop, and wherever: as long as whoever finds an execution finds its
events, a call that returns leaves both events of its transaction in the journal. -/
theorem execution_announced {start : Service deployment.host}
    {trace : List (Label ServiceCall Outcome)} {config : ServiceConfig deployment}
    (hrun : Run (ServiceStep deployment (fun _ => True) FindsLogged) ⟨start, []⟩ trace config)
    {response : ExecutionResponse} (hresponse : .execution response ∈ config.results) :
    Announced "TRANSACTION_SIGNED" response.proposalId response.transactionHash
        config.shared.audit.events ∧
      Announced "TRANSACTION_SUBMITTED" response.proposalId response.transactionHash
        config.shared.audit.events := by
  have hpost := (safe_run (protocol Complete)
    (fun request _ s _ => keeps_serviceProgram request s) trivial hrun).2 _ hresponse
  exact hpost

open SignedEffect AttestationSoundness ExecutionRecovery

instance (proposalId : Uuid) (execution : StoredExecutionV1) (events : List AuditEventV1) :
    Decidable (Logged proposalId execution events) :=
  inferInstanceAs (Decidable (_ ∧ _))

instance {host : Host} (service : Service host) (command : Command host) :
    Decidable (FindsLogged service command) := by
  delta FindsLogged
  infer_instance

/-- The first call stops once it has appended TRANSACTION_SIGNED. -/
theorem stoppedAfterAppended_announced :
    .execution (secondResponse .submitted 3) ∈
        (configAfter reservedService (stoppedAfter 10)).results ∧
      Announced "TRANSACTION_SIGNED" sampleProposalId honestEvidence.transactionHash
        (configAfter reservedService (stoppedAfter 10)).shared.audit.events ∧
      Announced "TRANSACTION_SUBMITTED" sampleProposalId honestEvidence.transactionHash
        (configAfter reservedService (stoppedAfter 10)).shared.audit.events := by
  have hfacts : SampleFollows (fun _ => True) FindsLogged reservedService (stoppedAfter 10) ∧
      .execution (secondResponse .submitted 3) ∈
        (configAfter reservedService (stoppedAfter 10)).results := by
    decide +kernel
  obtain ⟨hfollows, hresponse⟩ := hfacts
  exact ⟨hresponse, execution_announced hfollows.run hresponse⟩

/-- The first call stops between moving the proposal to SIGNED and appending the event.  The
second one submits the transaction and says so, and the event is never written. -/
theorem stoppedBeforeAppended_unannounced :
    Run (ServiceStep sampleDeployment (fun _ => True) fun _ _ => True) ⟨reservedService, []⟩
        (stoppedAfter 9) (configAfter reservedService (stoppedAfter 9)) ∧
      .execution (secondResponse .submitted 3) ∈
        (configAfter reservedService (stoppedAfter 9)).results ∧
      (secondResponse .submitted 3).submitted = true ∧
      ¬ Announced "TRANSACTION_SIGNED" sampleProposalId honestEvidence.transactionHash
        (configAfter reservedService (stoppedAfter 9)).shared.audit.events := by
  exact ⟨SampleFollows.run (by decide +kernel), by decide +kernel⟩

end AegisLedger.Gateway.AuditCompleteness
