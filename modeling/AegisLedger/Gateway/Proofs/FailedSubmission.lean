import AegisLedger.Gateway.Proofs.ServiceLedger
import AegisLedger.Gateway.Proofs.SignerAgreement

/-!
# Submissions that raise

`submit` reserves first and hashes, signs and journals afterwards, without a transaction.
What it raises later leaves the record, and the reservation if there is one, in the store.
Beside the configuration of the service only integers and the name of the actor decide whether
that happens: the package for canonical JSON refuses integers that a double does not hold
exactly, and the journal an actor whose name is empty or too long.
-/

namespace AegisLedger.Gateway.FailedSubmission

open AegisLedger.Support HexText Checks Dict Threads
open BudgetSafety ServiceLedger SignerAgreement

/-! ## Canonical JSON -/

mutual

/-- The integers in a value. -/
def integers : Json → List Int
  | .null => []
  | .bool _ => []
  | .int n => [n]
  | .float _ => []
  | .str _ => []
  | .arr items => integersOfItems items
  | .obj fields => integersOfFields fields

def integersOfItems : List Json → List Int
  | [] => []
  | item :: items => integers item ++ integersOfItems items

def integersOfFields : List (Str × Json) → List Int
  | [] => []
  | (_, item) :: fields => integers item ++ integersOfFields fields

end

/-- The package is installed, implements RFC 8785, and raises on integers that a double does
not hold exactly. -/
def RefusesLargeIntegers (host : Host) : Prop :=
  ∃ package, host.rfc8785 = some package ∧ ImplementsRfc8785 package ∧
    ∀ value, (∃ n ∈ integers value, maxSafeInteger < n.natAbs) → package value = none

variable {host : Host}

theorem canonicalJson_interoperable (h : RefusesLargeIntegers host) {value : Json}
    (hvalue : isInteroperable value = true) :
    canonicalJson host value = .ok (utf8 (dumps value)) := by
  obtain ⟨package, hpackage, himplements, _⟩ := h
  apply canonicalJson_of_interoperable _ hvalue
  intro other hother
  rw [hpackage] at hother
  rw [← Option.some.inj hother]
  exact himplements

theorem natAbs_le_of_canonicalJson (h : RefusesLargeIntegers host) {value : Json} {bytes : Bytes}
    (hok : canonicalJson host value = .ok bytes) {n : Int} (hn : n ∈ integers value) :
    n.natAbs ≤ maxSafeInteger := by
  obtain ⟨package, hpackage, _, hrefuses⟩ := h
  by_contra hlarge
  rw [canonicalJson, andThen_eq_ok, hpackage] at hok
  have hraises := hrefuses value ⟨n, hn, not_le.mp hlarge⟩
  rw [orRaise_eq_ok.mp hok.2] at hraises
  cases hraises

/-- The integers of a proposal. -/
structure SmallIntegers (proposal : ProposalV1) : Prop where
  chainId : proposal.chainId.val ≤ maxSafeInteger
  amount : proposal.amount.val ≤ maxSafeInteger
  minimumOutput : ∀ swap, proposal.intent = .swap swap → swap.minimumOutput ≤ maxSafeInteger

theorem integers_proposal (host : Host) (proposal : ProposalV1) :
    integers (proposal.modelDump host) =
      [(proposal.chainId.val : Int), proposal.amount.val] ++ integers proposal.intent.modelDump := by
  rw [ProposalV1.modelDump]
  cases proposal.intent <;> cases proposal.mandateId <;> cases proposal.quoteReference <;> rfl

theorem proposalHash_isOk_iff (h : RefusesLargeIntegers host) (proposal : ProposalV1) :
    (∃ hash, proposal.proposalHash host = .ok hash) ↔ SmallIntegers proposal := by
  constructor
  · rintro ⟨hash, hhash⟩
    rw [ProposalV1.proposalHash, bind_eq_ok] at hhash
    obtain ⟨bytes, hbytes, _⟩ := hhash
    have hsmall : ∀ n ∈ integers (proposal.modelDump host), n.natAbs ≤ maxSafeInteger :=
      fun n hn => natAbs_le_of_canonicalJson h hbytes hn
    rw [integers_proposal] at hsmall
    refine ⟨hsmall proposal.chainId.val (by simp), hsmall proposal.amount.val (by simp), ?_⟩
    intro swap hswap
    apply hsmall swap.minimumOutput
    rw [hswap]
    exact List.mem_append_right _ (by simp [IntentV1.modelDump, integers, integersOfFields])
  · intro hsmall
    have hdump : isInteroperable (proposal.modelDump host) = true :=
      interoperable_proposal hsmall.chainId hsmall.amount hsmall.minimumOutput
    rw [ProposalV1.proposalHash, ProposalV1.canonicalPayload,
      canonicalJson_interoperable h hdump]
    exact ⟨_, rfl⟩

theorem signaturePayload_isOk_iff (h : RefusesLargeIntegers host) (decision : DecisionTokenV1) :
    (∃ payload, decisionSignaturePayload host decision = .ok payload) ↔
      decision.stateVersion ≤ maxSafeInteger := by
  constructor
  · rintro ⟨payload, hpayload⟩
    apply natAbs_le_of_canonicalJson h hpayload (n := decision.stateVersion)
    rw [DecisionTokenV1.unsignedDump]
    simp [integers, integersOfFields]
  · intro hversion
    exact ⟨_, canonicalJson_interoperable h (interoperable_decision hversion)⟩

/-! ## The configuration -/

/-- What is outside the repository, and the identity of the issuer. -/
structure Configured (deployment : Deployment) : Prop where
  package : RefusesLargeIntegers deployment.host
  digest : ∀ data, (deployment.host.sha256 data).length = 32
  identity : 1 ≤ deployment.issuer.identity.length ∧ deployment.issuer.identity.length ≤ 256
  signature : ∀ payload, (deployment.issuer.sign payload).length = 64

variable {deployment : Deployment}

theorem matchesHex_digest (h : Configured deployment) (data : Bytes) :
    matchesHex isLowerHexDigit 64 (prefixedHex (deployment.host.sha256 data)) = true := by
  have hmatches := matchesHex_prefixedHex (deployment.host.sha256 data)
  rw [h.digest] at hmatches
  exact hmatches

/-! ## Issuing and journalling -/

/-- A record as `reserve` makes it. -/
def NewRecord (record : ProposalRecord) : Prop :=
  (record.state = .reserved ∧ record.reservationId ≠ none) ∨
    (record.state = .denied ∧ record.reservationId = none)

variable {record : ProposalRecord}

theorem matches_of_newRecord (h : NewRecord record) :
    (verdictFor record.state = .allow → record.reservationId ≠ none) ∧
      (verdictFor record.state = .deny → record.reservationId = none) := by
  rcases h with ⟨hstate, hreservation⟩ | ⟨hstate, hreservation⟩
  · rw [hstate]
    exact ⟨fun _ => hreservation, nofun⟩
  · rw [hstate]
    exact ⟨nofun, fun _ => hreservation⟩

theorem policyHash_version (h : Configured deployment)
    (version : PolicyVersion deployment.host) :
    matchesHex isLowerHexDigit 64 version.policyHash = true := by
  have hhashed := version.hashed
  rw [PolicyV1.policyHash, bind_eq_ok] at hhashed
  obtain ⟨bytes, _, hhash⟩ := hhashed
  rw [pure_eq_ok] at hhash
  rw [← hhash]
  exact matchesHex_digest h bytes

theorem issue_isOk_iff (h : Configured deployment) (hrecord : NewRecord record)
    (version : PolicyVersion deployment.host) (decisionId decisionNonce : Uuid) {now : Datetime}
    (hclock : (addSeconds now deployment.issuer.lifetimeSeconds).isSome = true) :
    (∃ decision, deployment.issuer.issue record version decisionId decisionNonce now =
      .ok decision) ↔ SmallIntegers record.proposal ∧ record.stateVersion ≤ maxSafeInteger := by
  constructor
  · rintro ⟨decision, hissue⟩
    have hissued := Authorizations.issued_of_issue hissue
    obtain ⟨payload, hpayload, _⟩ := hissued.signed
    rw [← (Authorizations.version_of_issue hissue).2]
    exact ⟨(proposalHash_isOk_iff h.package _).mp ⟨_, hissued.proposalHash⟩,
      (signaturePayload_isOk_iff h.package _).mp ⟨payload, hpayload⟩⟩
  · rintro ⟨hsmall, hversion⟩
    obtain ⟨lifetimeEnd, hlifetime⟩ := Option.isSome_iff_exists.mp hclock
    obtain ⟨hash, hhash⟩ := (proposalHash_isOk_iff h.package record.proposal).mpr hsmall
    have hhex : matchesHex isLowerHexDigit 64 hash = true := by
      rw [ProposalV1.proposalHash, bind_eq_ok] at hhash
      obtain ⟨bytes, _, hhash⟩ := hhash
      rw [pure_eq_ok] at hhash
      rw [← hhash]
      exact matchesHex_digest h bytes
    have hmatches := matches_of_newRecord hrecord
    have hstate : ¬(record.state ≠ .reserved ∧ record.state ≠ .denied) := by
      rcases hrecord with ⟨hstate, _⟩ | ⟨hstate, _⟩
      · exact fun hne => hne.1 hstate
      · exact fun hne => hne.2 hstate
    have hpayload : ∀ decision : DecisionTokenV1, decision.stateVersion = record.stateVersion →
        ∃ payload, decisionSignaturePayload deployment.host decision = .ok payload :=
      fun decision hsame => (signaturePayload_isOk_iff h.package decision).mpr (hsame ▸ hversion)
    have hsignature : ∀ payload,
        ((toHex (deployment.issuer.sign payload)).length == 128 &&
          (toHex (deployment.issuer.sign payload)).all isLowerHexDigit) = true := by
      intro payload
      rw [length_toHex, h.signature, Bool.and_eq_true]
      exact ⟨rfl, List.all_eq_true.mpr fun c hc => isLowerHexDigit_of_mem_toHex hc⟩
    unfold DecisionIssuer.issue
    simp only [exists_bind_eq_ok]
    refine ⟨(), raiseIf_eq_ok.mpr hstate, lifetimeEnd, orRaise_eq_ok.mpr hlifetime, hash,
      mapError_eq_ok.mpr hhash, ⟨hash, hhex⟩, constrain_eq_ok.mpr rfl,
      ⟨_, policyHash_version h version⟩, constrain_eq_ok.mpr rfl, ⟨_, h.identity⟩,
      constrain_eq_ok.mpr rfl, ?_⟩
    rw [dif_pos hmatches]
    simp only [exists_bind_eq_ok, mapError_eq_ok]
    exact ⟨_, (hpayload _ rfl).choose_spec, ⟨_, hsignature _⟩, constrain_eq_ok.mpr rfl, _, rfl⟩

/-- What the journal of the service can append for `submit`. -/
structure Journalable (actor : Str) (journal : AuditJournal) : Prop where
  actor : 1 ≤ actor.length ∧ actor.length ≤ 256
  sequence : journal.events.length + 1 ≤ maxSafeInteger

theorem interoperable_event (host : Host) {event : AuditEventV1}
    (hsequence : event.sequence.val ≤ maxSafeInteger)
    (hpayload : interoperableFields event.payload = true) :
    isInteroperable (.obj (event.unhashedFields host)) = true := by
  have hdump : isInteroperable (.obj (event.unhashedFields host)) =
      (isInteroperable (.int event.sequence.val) && (interoperableFields event.payload && true)) := by
    rw [AuditEventV1.unhashedFields]
    cases event.aggregateId <;> rfl
  rw [hdump, interoperable_natCast hsequence, hpayload]
  rfl

theorem append_isOk_iff (h : Configured deployment) (journal : AuditJournal) (actor : Str)
    {payload : List (Str × Json)} (hpayload : interoperableFields payload = true)
    {proposalId eventId : Uuid} {now : Datetime} :
    (∃ appended, journal.append deployment.host "POLICY_DECISION_ISSUED".toList actor payload
        (some proposalId) eventId now = .ok appended) ↔ Journalable actor journal := by
  have htype : matchesEventType "POLICY_DECISION_ISSUED".toList = true := by decide
  simp only [AuditJournal.append, exists_bind_eq_ok, mapError_eq_ok]
  constructor
  · rintro ⟨_, _, ⟨_, hactor⟩, hname, bytes, hbytes, _⟩
    refine ⟨constrain_eq_ok.mp hname ▸ hactor, ?_⟩
    exact natAbs_le_of_canonicalJson h.package hbytes (n := (journal.events.length + 1 : Nat))
      (by simp [AuditEventV1.unhashedFields, integers, integersOfFields])
  · rintro ⟨hactor, hsequence⟩
    refine ⟨⟨_, htype⟩, constrain_eq_ok.mpr rfl, ⟨actor, hactor⟩, constrain_eq_ok.mpr rfl, ?_⟩
    exact ⟨_, canonicalJson_interoperable h.package (interoperable_event _ hsequence hpayload),
      ⟨_, matchesHex_digest h _⟩, constrain_eq_ok.mpr rfl, _, rfl⟩

/-! ## `submit` alone -/

abbrev runAlone {ρ : Type} (program : Program deployment.host ρ) (outcomes : Nat → Outcome)
    (service : Service deployment.host) : Except ServiceError ρ × Service deployment.host :=
  program.exec (Service.perform deployment) outcomes service

/-- The call raises. -/
def Raises {σ ρ : Type} (result : Except ServiceError ρ × σ) : Prop :=
  ∃ error, result.1 = .error error

/-- The members of the POLICY_DECISION_ISSUED event. -/
def issuedPayload (record : ProposalRecord) (version : PolicyVersion deployment.host)
    (decision : DecisionTokenV1) : List (Str × Json) := [
  ("proposal_id".toList, .str (uuidText record.proposal.proposalId.val)),
  ("state".toList, .str record.state.value.toList),
  ("decision_id".toList, .str (uuidText decision.decisionId)),
  ("policy_hash".toList, .str version.policyHash)]

/-- The service with a decision for the proposal. -/
def withDecision (service : Service deployment.host) (proposalId : Uuid)
    (decision : DecisionTokenV1) : Service deployment.host :=
  { service with artifacts := { service.artifacts with
    decisions := service.artifacts.decisions.set proposalId decision } }

section IssueDecision

variable {ρ : Type} {record : ProposalRecord} {version : PolicyVersion deployment.host}
  {actor : Str} {outcomes : Nat → Outcome} {service : Service deployment.host}

theorem runAlone_issue_raises (next : DecisionTokenV1 → ρ) {error : IssueError}
    (hissue : deployment.issuer.issue record version (outcomes 0).id (outcomes 0).nonce
      (outcomes 0).now = .error error) :
    runAlone (issueDecision record version actor >>= fun decision => pure (next decision))
      outcomes service = (.error (.issue error), service) := by
  apply Prog.exec_of_error
  rw [Service.perform, hissue]
  rfl

theorem runAlone_issue (next : DecisionTokenV1 → ρ) {decision : DecisionTokenV1}
    (hnone : service.artifacts.decisions.get? record.proposal.proposalId.val = none)
    (hissue : deployment.issuer.issue record version (outcomes 0).id (outcomes 0).nonce
      (outcomes 0).now = .ok decision) :
    runAlone (issueDecision record version actor >>= fun decision => pure (next decision))
        outcomes service =
      (match service.audit.append deployment.host "POLICY_DECISION_ISSUED".toList actor
          (issuedPayload record version decision) (some record.proposal.proposalId.val)
          (outcomes 2).id (outcomes 2).now with
        | .error error => (.error (.audit error),
            withDecision service record.proposal.proposalId.val decision)
        | .ok (_, journal) => (.ok (next decision),
            { withDecision service record.proposal.proposalId.val decision with
              audit := journal })) := by
  have hissued : service.perform deployment (outcomes 0) (.issue record version) =
      (.ok decision, service) := by
    rw [Service.perform, hissue]
    rfl
  have hput : service.perform deployment (outcomes 1)
      (.putDecision record.proposal.proposalId.val decision) =
      (.ok (decision, true), withDecision service record.proposal.proposalId.val decision) := by
    rw [Service.perform, AuthorizationArtifactStore.putDecision, hnone]
    rfl
  refine (Prog.exec_of_ok _ hissued).trans ?_
  refine (Prog.exec_of_ok _ hput).trans ?_
  have hevent : ∀ outcome, (withDecision service record.proposal.proposalId.val decision).perform
      deployment outcome (.appendAudit "POLICY_DECISION_ISSUED".toList actor
        (issuedPayload record version decision) (some record.proposal.proposalId.val)) =
      settleCall .audit (withDecision service record.proposal.proposalId.val decision)
        (fun audit => { withDecision service record.proposal.proposalId.val decision with audit })
        (service.audit.append deployment.host "POLICY_DECISION_ISSUED".toList actor
          (issuedPayload record version decision) (some record.proposal.proposalId.val)
          outcome.id outcome.now) := fun _ => rfl
  cases happend : service.audit.append deployment.host "POLICY_DECISION_ISSUED".toList actor
      (issuedPayload record version decision) (some record.proposal.proposalId.val)
      (outcomes 2).id (outcomes 2).now with
  | error error =>
    apply Prog.exec_of_error
    exact (hevent (outcomes 2)).trans (by rw [happend]; rfl)
  | ok appended =>
    refine (Prog.exec_of_ok _ ((hevent (outcomes 2)).trans (by rw [happend]; rfl))).trans ?_
    rfl

variable (record version actor outcomes) in
/-- The call raises unless the decision is issued and journalled, and it leaves the state store
as it is. -/
theorem runAlone_issueDecision (next : DecisionTokenV1 → ρ)
    (hnone : service.artifacts.decisions.get? record.proposal.proposalId.val = none) :
    (runAlone (issueDecision record version actor >>= fun decision => pure (next decision))
        outcomes service).2.state = service.state ∧
      (Raises (runAlone (issueDecision record version actor >>= fun decision =>
          pure (next decision)) outcomes service) ↔
        ¬∃ decision, deployment.issuer.issue record version (outcomes 0).id (outcomes 0).nonce
            (outcomes 0).now = .ok decision ∧
          ∃ appended, service.audit.append deployment.host "POLICY_DECISION_ISSUED".toList actor
            (issuedPayload record version decision) (some record.proposal.proposalId.val)
            (outcomes 2).id (outcomes 2).now = .ok appended) := by
  cases hissue : deployment.issuer.issue record version (outcomes 0).id (outcomes 0).nonce
      (outcomes 0).now with
  | error error =>
    rw [runAlone_issue_raises next hissue]
    refine ⟨rfl, fun _ => ?_, fun _ => ⟨_, rfl⟩⟩
    rintro ⟨decision, hdecision, _⟩
    cases hdecision
  | ok decision =>
    rw [runAlone_issue next hnone hissue]
    cases happend : service.audit.append deployment.host "POLICY_DECISION_ISSUED".toList actor
        (issuedPayload record version decision) (some record.proposal.proposalId.val)
        (outcomes 2).id (outcomes 2).now with
    | error error =>
      refine ⟨rfl, fun _ => ?_, fun _ => ⟨_, rfl⟩⟩
      rintro ⟨found, hfound, appended, happended⟩
      rw [← Except.ok.inj hfound, happend] at happended
      cases happended
    | ok appended =>
      refine ⟨rfl, ?_, ?_⟩
      · rintro ⟨error, herror⟩
        cases herror
      · intro hnot
        exact absurd ⟨decision, rfl, appended, happend⟩ hnot

end IssueDecision

section Submit

variable {proposal : ProposalV1} {actor : Str} {outcomes : Nat → Outcome}
  {service : Service deployment.host} {version : PolicyVersion deployment.host}

theorem runAlone_submit_raises (hactive : service.policies.active = .ok version)
    {error : StoreError}
    (hreserve : service.state.reserve proposal version.policy (outcomes 1).readings
      (outcomes 1).id = .error error) :
    runAlone (submit proposal actor) outcomes service = (.error (.store error), service) := by
  have hversion : service.perform deployment (outcomes 0) .activePolicy =
      (.ok version, service) := by
    rw [Service.perform, hactive]
    rfl
  refine (Prog.exec_of_ok _ hversion).trans ?_
  apply Prog.exec_of_error
  show service.perform deployment (outcomes 1) (.reserve proposal version.policy) = _
  rw [Service.perform, hreserve]

/-- The service after `reserve`. -/
def reservedWith (service : Service deployment.host) (proposal : ProposalV1) (policy : PolicyV1)
    (result : ReservationResult) (state : MemoryStateStore) : Service deployment.host :=
  { service with
    state := state
    admissions := recordAdmission service.admissions proposal policy result }

/-- What `submit` returns for the result of `reserve` and a decision. -/
def submissionResponse (result : ReservationResult) (decision : DecisionTokenV1) :
    SubmissionResponse where
  proposalId := result.record.proposal.proposalId.val
  state := result.record.state
  stateVersion := result.record.stateVersion
  created := result.created
  decision := decision

theorem runAlone_submit (hactive : service.policies.active = .ok version)
    {result : ReservationResult} {state : MemoryStateStore}
    (hreserve : service.state.reserve proposal version.policy (outcomes 1).readings
      (outcomes 1).id = .ok (result, state)) :
    (runAlone (submit proposal actor) outcomes service).2.state = state ∧
      (Raises (runAlone (submit proposal actor) outcomes service) ↔
        service.artifacts.decisions.get? result.record.proposal.proposalId.val = none ∧
        ¬∃ decision, deployment.issuer.issue result.record version (outcomes 3).id
            (outcomes 3).nonce (outcomes 3).now = .ok decision ∧
          ∃ appended, service.audit.append deployment.host "POLICY_DECISION_ISSUED".toList actor
            (issuedPayload result.record version decision)
            (some result.record.proposal.proposalId.val) (outcomes 5).id (outcomes 5).now =
              .ok appended) := by
  have hversion : service.perform deployment (outcomes 0) .activePolicy =
      (.ok version, service) := by
    rw [Service.perform, hactive]
    rfl
  have hreserved : service.perform deployment (outcomes 1) (.reserve proposal version.policy) =
      (.ok result, reservedWith service proposal version.policy result state) := by
    rw [Service.perform, hreserve]
    rfl
  have hfound : ∀ {found}, service.artifacts.decisions.get?
        result.record.proposal.proposalId.val = found →
      (reservedWith service proposal version.policy result state).perform deployment (outcomes 2)
        (.getDecision result.record.proposal.proposalId.val) =
      (.ok found, reservedWith service proposal version.policy result state) := by
    rintro _ rfl
    rfl
  cases hdecision : service.artifacts.decisions.get? result.record.proposal.proposalId.val with
  | some decision =>
    have hrun : runAlone (submit proposal actor) outcomes service =
        (.ok (submissionResponse result decision),
          reservedWith service proposal version.policy result state) := by
      refine (Prog.exec_of_ok _ hversion).trans ?_
      refine (Prog.exec_of_ok _ hreserved).trans ?_
      exact (Prog.exec_of_ok _ (hfound hdecision)).trans rfl
    rw [hrun]
    refine ⟨rfl, ?_, ?_⟩
    · rintro ⟨error, herror⟩
      cases herror
    · rintro ⟨hnone, _⟩
      cases hnone
  | none =>
    have hrun : runAlone (submit proposal actor) outcomes service =
        runAlone (issueDecision result.record version actor >>= fun decision =>
          pure (submissionResponse result decision)) (fun n => outcomes (n + 3))
          (reservedWith service proposal version.policy result state) := by
      refine (Prog.exec_of_ok _ hversion).trans ?_
      refine (Prog.exec_of_ok _ hreserved).trans ?_
      exact (Prog.exec_of_ok _ (hfound hdecision)).trans rfl
    have hnone : (reservedWith service proposal version.policy result
        state).artifacts.decisions.get? result.record.proposal.proposalId.val = none := hdecision
    obtain ⟨hstate, hraises⟩ := runAlone_issueDecision result.record version actor
      (fun n => outcomes (n + 3)) (submissionResponse result) hnone
    rw [hrun]
    exact ⟨hstate, hraises.trans (and_iff_right rfl).symm⟩

end Submit

/-! ## What a failed submission leaves -/

def activeReservations (store : MemoryStateStore) : List Reservation :=
  store.reservations.values.filter Reservation.active

/-- The budgets are what they were. -/
structure BudgetKept (host : Host) (before after : MemoryStateStore) : Prop where
  totals : ∀ principal wallet chainId asset,
    after.budgetTotals host principal wallet chainId asset =
      before.budgetTotals host principal wallet chainId asset
  active : activeReservations after = activeReservations before

/-- How a proposal is evaluated: the proposal that the answer is about, its state and the
reasons. -/
def evaluation (store : MemoryStateStore) (proposal : ProposalV1) (policy : PolicyV1)
    (readings : ReserveReadings) (reservationId : Uuid) :
    Except StoreError (ProposalV1 × LifecycleState × List ReasonCode) :=
  (store.reserve proposal policy readings reservationId).map fun reserved =>
    (reserved.1.record.proposal, reserved.1.record.state, reserved.1.record.reasonCodes)

/-- The budgets are what they were, and whatever the principal submits later is evaluated as
it would have been. -/
structure NoTrace (host : Host) (principalId : Str) (before after : MemoryStateStore) : Prop
    extends BudgetKept host before after where
  later : ∀ (proposal : ProposalV1) policy readings reservationId,
    proposal.principalId.val = principalId →
      evaluation after proposal policy readings reservationId =
        evaluation before proposal policy readings reservationId

/-- The submission was made before, or its decision is there, or can be issued and
journalled. -/
def Completes (service : Service deployment.host) (proposal : ProposalV1) (actor : Str) : Prop :=
  service.state.idempotency.get? (idempotencyKey proposal) ≠ none ∨
    service.artifacts.decisions.get? proposal.proposalId.val ≠ none ∨
    SmallIntegers proposal ∧ service.state.version + 1 ≤ maxSafeInteger ∧
      Journalable actor service.audit

theorem budgetKept_denied (host : Host) (store : MemoryStateStore) (proposal : ProposalV1)
    (readings : ReserveReadings) (reasons : List ReasonCode) :
    BudgetKept host store (denied store proposal readings reasons) :=
  ⟨fun _ _ _ _ => rfl, rfl⟩

theorem not_budgetKept_admitted {store : MemoryStateStore} {proposal : ProposalV1}
    {readings : ReserveReadings} {reservationId : Uuid}
    (hfresh : store.reservations.get? reservationId = none) :
    ¬BudgetKept host store (admitted store proposal readings reservationId) := by
  intro hkept
  have hactive : activeReservations (admitted store proposal readings reservationId) =
      activeReservations store ++
        [MemoryStateStore.newReservation proposal readings.reservation reservationId] := by
    unfold activeReservations admitted MemoryStateStore.putRecord MemoryStateStore.setReservation
    rw [values_set_of_notMem (get?_eq_none_iff.mp hfresh), List.filter_append]
    rfl
  rw [hkept.active] at hactive
  have hlength := congrArg List.length hactive
  simp at hlength

/-- The proposal with another amount. -/
def raised (proposal : ProposalV1) : ProposalV1 :=
  { proposal with amount := ⟨proposal.amount.val + 1, Nat.succ_pos _⟩ }

theorem raised_ne (proposal : ProposalV1) : raised proposal ≠ proposal := by
  intro h
  have hamount := congrArg (fun p => p.amount.val) h
  simp [raised] at hamount

/-- The key is taken: another proposal under it is answered with the record that is there. -/
theorem not_noTrace_putRecord {store written : MemoryStateStore} {proposal : ProposalV1}
    (hnew : store.idempotency.get? (idempotencyKey proposal) = none)
    (hproposal : record.proposal = proposal)
    (hidempotency : written.idempotency.get? (idempotencyKey proposal) =
      some proposal.proposalId.val)
    (hrecord : written.records.get? proposal.proposalId.val = some record) (policy : PolicyV1)
    (readings : ReserveReadings) (reservationId : Uuid) :
    ¬NoTrace host proposal.principalId.val store written := by
  intro htrace
  have hlater := htrace.later (raised proposal) policy readings reservationId rfl
  have hafter : evaluation written (raised proposal) policy readings reservationId =
      .ok (proposal, record.state, record.reasonCodes) := by
    have hkey : written.idempotency.get? ((raised proposal).principalId.val,
        (raised proposal).idempotencyKey.val) = some proposal.proposalId.val := hidempotency
    rw [evaluation, MemoryStateStore.reserve, hkey]
    dsimp only
    rw [hrecord, ← hproposal]
    rfl
  have hbefore : ∃ state reasons,
      evaluation store (raised proposal) policy readings reservationId =
        .ok (raised proposal, state, reasons) := by
    have hkey : store.idempotency.get? ((raised proposal).principalId.val,
        (raised proposal).idempotencyKey.val) = none := hnew
    rw [evaluation, MemoryStateStore.reserve, hkey]
    dsimp only
    split_ifs
    · exact ⟨_, _, rfl⟩
    · exact ⟨_, _, rfl⟩
  obtain ⟨state, reasons, hbefore⟩ := hbefore
  rw [hafter, hbefore] at hlater
  exact raised_ne proposal (Prod.mk.inj (Except.ok.inj hlater)).1.symm

section Failure

variable {proposal : ProposalV1} {actor : Str} {outcomes : Nat → Outcome}
  {service : Service deployment.host} {version : PolicyVersion deployment.host}

theorem runAlone_submit_known (hactive : service.policies.active = .ok version)
    {proposalId : Uuid}
    (hkey : service.state.idempotency.get? (idempotencyKey proposal) = some proposalId) :
    (runAlone (submit proposal actor) outcomes service).2.state = service.state := by
  cases hreserve : service.state.reserve proposal version.policy (outcomes 1).readings
      (outcomes 1).id with
  | error error => rw [runAlone_submit_raises hactive hreserve]
  | ok reserved =>
    rw [(runAlone_submit hactive hreserve).1]
    rcases reserve_cases hreserve with ⟨_, _, _, _, _, hafter⟩ | ⟨hnew, _⟩
    · exact hafter
    · have hknown : service.state.idempotency.get? (proposal.principalId.val,
          proposal.idempotencyKey.val) = some proposalId := hkey
      rw [hknown] at hnew
      cases hnew

/-- A new submission raises exactly where its decision is missing and cannot be issued and
journalled. -/
theorem raises_iff_of_new (h : Configured deployment)
    (hactive : service.policies.active = .ok version)
    (hclock : (addSeconds (outcomes 3).now deployment.issuer.lifetimeSeconds).isSome = true)
    (hnew : service.state.idempotency.get? (idempotencyKey proposal) = none)
    {result : ReservationResult} {state : MemoryStateStore}
    (hreserve : service.state.reserve proposal version.policy (outcomes 1).readings
      (outcomes 1).id = .ok (result, state))
    (hrecord : NewRecord result.record) (hproposal : result.record.proposal = proposal)
    (hversion : result.record.stateVersion = service.state.version + 1) :
    Raises (runAlone (submit proposal actor) outcomes service) ↔
      ¬Completes service proposal actor := by
  have hissues : (∃ decision, deployment.issuer.issue result.record version (outcomes 3).id
        (outcomes 3).nonce (outcomes 3).now = .ok decision ∧
      ∃ appended, service.audit.append deployment.host "POLICY_DECISION_ISSUED".toList actor
        (issuedPayload result.record version decision)
        (some result.record.proposal.proposalId.val) (outcomes 5).id (outcomes 5).now =
          .ok appended) ↔
      SmallIntegers proposal ∧ service.state.version + 1 ≤ maxSafeInteger ∧
        Journalable actor service.audit := by
    have hissue := issue_isOk_iff h hrecord version (outcomes 3).id (outcomes 3).nonce hclock
    rw [hproposal, hversion] at hissue
    rw [← and_assoc, ← hissue]
    constructor
    · rintro ⟨decision, hdecision, happended⟩
      exact ⟨⟨decision, hdecision⟩, (append_isOk_iff h service.audit actor rfl).mp happended⟩
    · rintro ⟨⟨decision, hdecision⟩, hjournal⟩
      exact ⟨decision, hdecision, (append_isOk_iff h service.audit actor rfl).mpr hjournal⟩
  rw [(runAlone_submit hactive hreserve).2, hissues, hproposal, Completes, hnew]
  simp only [ne_eq, not_true_eq_false, false_or, not_or, not_not]

/-- The record of a proposal that is evaluated now. -/
def newRecord (store : MemoryStateStore) (proposal : ProposalV1) (readings : ReserveReadings)
    (state : LifecycleState) (reasons : List ReasonCode) (reservationId : Option Uuid) :
    ProposalRecord :=
  ⟨proposal, state, store.version + 1, reasons, reservationId, readings.recordCreated,
    readings.recordUpdated⟩

theorem reserve_admitted {store : MemoryStateStore} {policy : PolicyV1}
    {readings : ReserveReadings} (reservationId : Uuid)
    (hnew : store.idempotency.get? (idempotencyKey proposal) = none)
    (hreasons : store.evaluate proposal policy readings.deadline readings.evaluation = []) :
    store.reserve proposal policy readings reservationId =
      .ok (⟨newRecord store proposal readings .reserved [] (some reservationId), true⟩,
        admitted store proposal readings reservationId) := by
  have hkey : store.idempotency.get? (proposal.principalId.val,
      proposal.idempotencyKey.val) = none := hnew
  rw [MemoryStateStore.reserve, hkey]
  dsimp only
  rw [if_pos hreasons]
  rfl

theorem reserve_denied {store : MemoryStateStore} {policy : PolicyV1}
    {readings : ReserveReadings} (reservationId : Uuid)
    (hnew : store.idempotency.get? (idempotencyKey proposal) = none)
    (hreasons : store.evaluate proposal policy readings.deadline readings.evaluation ≠ []) :
    store.reserve proposal policy readings reservationId =
      .ok (⟨newRecord store proposal readings .denied
          (store.evaluate proposal policy readings.deadline readings.evaluation) none, true⟩,
        denied store proposal readings
          (store.evaluate proposal policy readings.deadline readings.evaluation)) := by
  have hkey : store.idempotency.get? (proposal.principalId.val,
      proposal.idempotencyKey.val) = none := hnew
  rw [MemoryStateStore.reserve, hkey]
  dsimp only
  rw [if_neg hreasons]
  rfl

/-- A submission that raises leaves no trace, in the budgets and for later ones, exactly if it
was made before, or its decision is there or can be issued and journalled; and it leaves the
budgets alone also where the proposal is refused. -/
theorem failed_submission_noTrace_iff (h : Configured deployment)
    (hactive : service.policies.active = .ok version)
    (hclock : (addSeconds (outcomes 3).now deployment.issuer.lifetimeSeconds).isSome = true)
    (hfresh : service.state.reservations.get? (outcomes 1).id = none) :
    ((Raises (runAlone (submit proposal actor) outcomes service) →
        NoTrace deployment.host proposal.principalId.val service.state
          (runAlone (submit proposal actor) outcomes service).2.state) ↔
      Completes service proposal actor) ∧
    ((Raises (runAlone (submit proposal actor) outcomes service) →
        BudgetKept deployment.host service.state
          (runAlone (submit proposal actor) outcomes service).2.state) ↔
      Completes service proposal actor ∨
        service.state.evaluate proposal version.policy (outcomes 1).readings.deadline
          (outcomes 1).readings.evaluation ≠ []) := by
  cases hkey : service.state.idempotency.get? (idempotencyKey proposal) with
  | some proposalId =>
    have hcompletes : Completes service proposal actor := by
      left
      rw [hkey]
      exact Option.some_ne_none _
    have hkept : BudgetKept deployment.host service.state service.state :=
      ⟨fun _ _ _ _ => rfl, rfl⟩
    rw [runAlone_submit_known hactive hkey]
    exact ⟨iff_of_true (fun _ => ⟨hkept, fun _ _ _ _ _ => rfl⟩) hcompletes,
      iff_of_true (fun _ => hkept) (Or.inl hcompletes)⟩
  | none =>
    have himplies : ∀ {p q : Prop}, ¬q → ((¬p → q) ↔ p) := by
      intro p q hq
      exact ⟨fun himp => by_contra fun hp => hq (himp hp), fun hp hnot => absurd hp hnot⟩
    by_cases hreasons : service.state.evaluate proposal version.policy
      (outcomes 1).readings.deadline (outcomes 1).readings.evaluation = []
    · have hreserve := reserve_admitted (outcomes 1).id hkey hreasons
      have hraises : Raises (runAlone (submit proposal actor) outcomes service) ↔
          ¬Completes service proposal actor :=
        raises_iff_of_new h hactive hclock hkey hreserve
          (Or.inl ⟨rfl, Option.some_ne_none _⟩) rfl rfl
      rw [hraises, (runAlone_submit hactive hreserve).1, or_iff_left (not_not.mpr hreasons)]
      have hleft : ¬BudgetKept deployment.host service.state
          (admitted service.state proposal (outcomes 1).readings (outcomes 1).id) :=
        not_budgetKept_admitted hfresh
      exact ⟨himplies fun htrace => hleft htrace.toBudgetKept, himplies hleft⟩
    · have hreserve := reserve_denied (outcomes 1).id hkey hreasons
      have hraises : Raises (runAlone (submit proposal actor) outcomes service) ↔
          ¬Completes service proposal actor :=
        raises_iff_of_new h hactive hclock hkey hreserve (Or.inr ⟨rfl, rfl⟩) rfl rfl
      rw [hraises, (runAlone_submit hactive hreserve).1]
      constructor
      · apply himplies
        exact not_noTrace_putRecord hkey rfl (get?_set_self _ _ _) (get?_set_self _ _ _)
          version.policy (outcomes 1).readings (outcomes 1).id
      · exact iff_of_true (fun _ => budgetKept_denied _ _ _ _ _) (Or.inr hreasons)

end Failure

/-! ## Sample submissions -/

open SignedEffect

/-- RFC 8785 with its limit on integers. -/
def strictDumps (value : Json) : Option Bytes :=
  if (integers value).all (fun n => n.natAbs ≤ maxSafeInteger) then some (utf8 (dumps value))
  else none

mutual

theorem integers_of_interoperable : (value : Json) → isInteroperable value = true →
    (integers value).all (fun n => n.natAbs ≤ maxSafeInteger) = true
  | .null, _ => rfl
  | .bool _, _ => rfl
  | .int n, h => by
      rw [integers, List.all_cons, List.all_nil, Bool.and_true]
      exact h
  | .float _, _ => rfl
  | .str _, _ => rfl
  | .arr items, h => integersOfItems_of_interoperable items h
  | .obj fields, h => integersOfFields_of_interoperable fields h

theorem integersOfItems_of_interoperable : (items : List Json) →
    interoperableItems items = true →
      (integersOfItems items).all (fun n => n.natAbs ≤ maxSafeInteger) = true
  | [], _ => rfl
  | item :: items, h => by
      rw [interoperableItems, Bool.and_eq_true] at h
      rw [integersOfItems, List.all_append, Bool.and_eq_true]
      exact ⟨integers_of_interoperable item h.1, integersOfItems_of_interoperable items h.2⟩

theorem integersOfFields_of_interoperable : (fields : List (Str × Json)) →
    interoperableFields fields = true →
      (integersOfFields fields).all (fun n => n.natAbs ≤ maxSafeInteger) = true
  | [], _ => rfl
  | (key, item) :: fields, h => by
      rw [interoperableFields, Bool.and_eq_true, Bool.and_eq_true] at h
      rw [integersOfFields, List.all_append, Bool.and_eq_true]
      exact ⟨integers_of_interoperable item h.1.2, integersOfFields_of_interoperable fields h.2⟩

end

def strictHost : Host := { textHost with
  rfc8785 := some strictDumps
  sha256 := fun _ => bytesLiteral 32 0 }

theorem refusesLargeIntegers_strictHost : RefusesLargeIntegers strictHost := by
  refine ⟨strictDumps, rfl, ?_, ?_⟩
  · intro value hvalue
    exact if_pos (integers_of_interoperable value hvalue)
  · rintro value ⟨n, hn, hlarge⟩
    apply if_neg
    rw [List.all_eq_true]
    intro hall
    have hsmall := of_decide_eq_true (hall n hn)
    omega

def strictDeployment : Deployment where
  host := strictHost
  issuer := ⟨hexLiteral 40 1, fun _ => bytesLiteral 64 0, 30⟩
  signerConfigured := true
  chainBackends := [31337]
  eip712DomainSeparator := prefixedHex (bytesLiteral 32 0)

theorem configured_strictDeployment : Configured strictDeployment where
  package := refusesLargeIntegers_strictHost
  digest := fun _ => rfl
  identity := by decide +kernel
  signature := fun _ => rfl

def strictRegistry : PolicyRegistry strictHost :=
  let registry := do
    let created ← PolicyRegistry.empty.create samplePolicy "author".toList wideVersionId sampleNow
    let first ← created.2.approve wideVersionId "administrator-1".toList
    let second ← first.2.approve wideVersionId "administrator-2".toList
    let activated ← second.2.activate wideVersionId "administrator-1".toList sampleNow
    pure activated.2
  registry.toOption.getD .empty

def strictService : Service strictDeployment.host := .new strictRegistry sampleNow

/-- The sample swap with another least output. -/
def swapFor (minimumOutput : Nat) : ProposalV1 :=
  { sampleProposal swapCalldata with
    intent := .swap ⟨sampleContract, lowerSelector 0x12345678, swapCalldata, minimumOutput,
      sampleAsset⟩ }

def sampleOutcomes (_ : Nat) : Outcome := sampleOutcome

abbrev submitSwap (minimumOutput : Nat) :
    Except ServiceError SubmissionResponse × Service strictDeployment.host :=
  runAlone (submit (swapFor minimumOutput) researcher) sampleOutcomes strictService

theorem smallOutput_noTrace :
    Completes strictService (swapFor 1) researcher ∧
      (Raises (submitSwap 1) → NoTrace strictDeployment.host (swapFor 1).principalId.val
        strictService.state (submitSwap 1).2.state) := by
  have hcompletes : Completes strictService (swapFor 1) researcher := by
    right
    right
    refine ⟨⟨by decide, by decide, ?_⟩, by decide, ⟨by decide, by decide⟩⟩
    intro swap hswap
    rw [← IntentV1.swap.inj hswap]
    decide
  have hactive : strictService.policies.active.isOk = true := by
    decide +kernel
  have hclock : (addSeconds (sampleOutcomes 3).now
      strictDeployment.issuer.lifetimeSeconds).isSome = true := by
    decide +kernel
  have hfresh : strictService.state.reservations.get? (sampleOutcomes 1).id = none := by
    decide +kernel
  obtain ⟨version, hversion⟩ := exists_eq_ok hactive
  refine ⟨hcompletes, ?_⟩
  rw [(failed_submission_noTrace_iff configured_strictDeployment hversion hclock hfresh).1]
  exact hcompletes

/-- A least output beyond what the package writes: the swap is admitted, no decision can be
issued for it, and its amount stays reserved. -/
theorem largeOutput_reserved :
    (submitSwap (2 ^ 53)).1 = .error (.issue (.canonical .rfc8785)) ∧
      activeReservations strictService.state = [] ∧
      (activeReservations (submitSwap (2 ^ 53)).2.state).length = 1 ∧
      strictService.state.budgetTotals strictHost researcher sampleWallet 31337 sampleAsset =
        (0, 0) ∧
      (submitSwap (2 ^ 53)).2.state.budgetTotals strictHost researcher sampleWallet 31337
        sampleAsset = (100, 0) := by
  decide +kernel

end AegisLedger.Gateway.FailedSubmission
