import AegisLedger.Gateway.Proofs.ServiceLedger

/-!
# Which policy a decision names

`submit` reads the active policy, has the proposal evaluated under it, and issues the
decision in a later step.  A call that stops between the two leaves an admitted proposal
without a decision; a retry reads the active policy anew, gets the record of the first
evaluation, and issues the decision in the name of the policy it has read.
-/

namespace AegisLedger.Gateway.DecisionPolicy

open AegisLedger.Support HexText Checks Dict Threads
open ServiceLedger Discipline

/-- The proposal was admitted with the reservation of the decision, under the policy that
the decision names. -/
def NamesPolicy (host : Host) (admissions : List Admission) (proposalId : Uuid)
    (decision : DecisionTokenV1) : Prop :=
  ∃ admission ∈ admissions, admission.proposal.proposalId.val = proposalId ∧
    admission.proposal.proposalHash host = .ok decision.proposalHash.val ∧
    decision.reservationId = some admission.reservationId ∧
    admission.policy.policyHash host = .ok decision.policyHash.val

variable {host : Host}

theorem NamesPolicy.mono {admissions later : List Admission} {proposalId : Uuid}
    {decision : DecisionTokenV1} (h : NamesPolicy host admissions proposalId decision)
    (hlater : admissions ⊆ later) : NamesPolicy host later proposalId decision := by
  obtain ⟨admission, hadmission, h⟩ := h
  exact ⟨admission, hlater hadmission, h⟩

/-- The record's own admission, under a policy with this hash. -/
def AdmittedUnder (host : Host) (l : Ledger) (record : ProposalRecord) (hash : Str) : Prop :=
  ∀ reservationId, record.reservationId = some reservationId →
    ∃ admission ∈ l.admissions, admission.proposal = record.proposal ∧
      admission.reservationId = reservationId ∧ admission.policy.policyHash host = .ok hash

variable {l m : Ledger} {record : ProposalRecord}

theorem AdmittedUnder.grows {hash : Str} (h : AdmittedUnder host l record hash)
    (hgrows : Grows l m) : AdmittedUnder host m record hash := by
  intro reservationId hreservation
  obtain ⟨admission, hadmission, h⟩ := h reservationId hreservation
  exact ⟨admission, hgrows.admissions hadmission, h⟩

structure PolicyNamed (host : Host) (l : Ledger) : Prop where
  keyed : Keyed l
  admitted : ∀ {proposalId record reservationId}, l.records.get? proposalId = some record →
    record.reservationId = some reservationId → ∃ admission ∈ l.admissions,
      admission.proposal = record.proposal ∧ admission.reservationId = reservationId
  named : ∀ {proposalId decision}, l.decisions.get? proposalId = some decision →
    decision.verdict = .allow → NamesPolicy host l.admissions proposalId decision

/-- The arguments of a `reserve` command. -/
def reserveArguments {host : Host} : Command host → Option (ProposalV1 × PolicyV1)
  | .reserve proposal policy => some (proposal, policy)
  | _ => none

/-- The record that `reserve` returns for a proposal it knows, while that has no decision. -/
def undecidedRecord (l : Ledger) (proposal : ProposalV1) : Option ProposalRecord :=
  (l.idempotency.get? (idempotencyKey proposal)).bind fun proposalId =>
    if l.decisions.get? proposalId = none then l.records.get? proposalId else none

theorem undecidedRecord_eq_some {proposal : ProposalV1} {proposalId : Uuid}
    (hid : l.idempotency.get? (idempotencyKey proposal) = some proposalId)
    (hrecord : l.records.get? proposalId = some record)
    (hnone : l.decisions.get? proposalId = none) : undecidedRecord l proposal = some record := by
  rw [undecidedRecord, hid, Option.bind_some, if_pos hnone, hrecord]

/-- A `reserve` that finds an admitted proposal without a decision is made under a policy
with the hash of the one that admitted it. -/
def RetriesUnderSamePolicy {host : Host} (l : Ledger) (command : Command host) : Prop :=
  ∀ arguments ∈ reserveArguments command, ∀ record ∈ undecidedRecord l arguments.1,
    record.state = .reserved →
      ∀ admission ∈ l.admissions, admission.proposal = record.proposal →
        record.reservationId = some admission.reservationId →
          admission.policy.policyHash host = arguments.2.policyHash host

/-- A decision that is about to be stored names the policy of the admission. -/
def Needs {host : Host} (l : Ledger) : Command host → Prop
  | .putDecision proposalId decision => l.decisions.get? proposalId = none →
      decision.verdict = .allow → NamesPolicy host l.admissions proposalId decision
  | _ => True

theorem policyNamed_step {command : Command host} (hinv : PolicyNamed host l)
    (hneeds : Needs l command) (hchange : Change command l m) : PolicyNamed host m := by
  have hgrows := hchange.grows
  have hkeyed := hchange.keyed hinv.keyed
  cases hchange with
  | same | sign _ | putExecution _ | markSubmitted _ | submit =>
    exact ⟨hkeyed, hinv.admitted, hinv.named⟩
  | @reserve record policy _ hnew =>
    refine ⟨hkeyed, ?_, ?_⟩
    · intro otherId other reservationId hother hreservation
      rw [Ledger.create, get?_set] at hother
      split_ifs at hother with hid
      · rw [← Option.some.inj hother] at hreservation ⊢
        refine ⟨⟨record.proposal, reservationId, policy⟩, ?_, rfl, rfl⟩
        rw [Ledger.create, recordAdmission, hreservation]
        exact List.mem_append_right _ List.mem_cons_self
      · obtain ⟨admission, hadmission, h⟩ := hinv.admitted hother hreservation
        exact ⟨admission, hgrows.admissions hadmission, h⟩
    · intro otherId decision hdecision hallow
      exact (hinv.named hdecision hallow).mono hgrows.admissions
  | transition hrecord hallowed hproposal hstate hsame =>
    refine ⟨hkeyed, ?_, hinv.named⟩
    intro otherId other reservationId hother hreservation
    rw [get?_set] at hother
    split_ifs at hother with hid
    · rw [← Option.some.inj hother] at hreservation ⊢
      rw [hsame] at hreservation
      rw [hproposal]
      exact hinv.admitted hrecord hreservation
    · exact hinv.admitted hother hreservation
  | putDecision hnew =>
    refine ⟨hkeyed, hinv.admitted, ?_⟩
    intro otherId decision hdecision hallow
    rw [get?_set] at hdecision
    split_ifs at hdecision with hid
    · rw [← Option.some.inj hdecision] at hallow ⊢
      rw [hid]
      exact hneeds hnew hallow
    · exact hinv.named hdecision hallow

def discipline (host : Host) : Discipline host where
  invariant := PolicyNamed host
  keeps := Grows
  guard := RetriesUnderSamePolicy
  needs := Needs
  keeps_refl := Grows.refl
  keeps_trans := Grows.trans
  step := fun hinv _ hneeds hchange => ⟨policyNamed_step hinv hneeds hchange, hchange.grows⟩

/-! ## The calls -/

variable {deployment : Deployment} {ρ : Type}

abbrev Kept (post : Ledger → ρ → Prop) (program : Program deployment.host ρ) (l : Ledger) : Prop :=
  (discipline deployment.host).Keeps post program l

/-- After `reserve` an admitted proposal has a decision, or was admitted under the policy
that was read. -/
theorem evaluated_reserve {proposal : ProposalV1} {version : PolicyVersion deployment.host}
    {result : ReservationResult} (hinv : PolicyNamed deployment.host l)
    (hguard : RetriesUnderSamePolicy l
      (.reserve proposal version.policy : Command deployment.host)) (hgrows : Grows l m)
    (hanswer : Answered l m (.reserve proposal version.policy : Command deployment.host) result)
    (hreserved : result.record.state = .reserved)
    (hopen : m.decisions.get? result.record.proposal.proposalId.val = none) :
    AdmittedUnder deployment.host m result.record version.policyHash := by
  intro reservationId hreservation
  rcases hanswer with ⟨duplicateId, hduplicate, hrecord⟩ | hcreated
  · have hid := hinv.keyed hrecord
    have hundecided : l.decisions.get? duplicateId = none := by
      rw [← hid]
      exact hgrows.undecided hopen
    obtain ⟨admission, hadmission, hproposal, rfl⟩ := hinv.admitted hrecord hreservation
    have hpolicy := hguard _ rfl result.record
      (undecidedRecord_eq_some hduplicate hrecord hundecided) hreserved admission hadmission
      hproposal hreservation
    rw [version.hashed] at hpolicy
    exact ⟨admission, hgrows.admissions hadmission, hproposal, rfl, hpolicy⟩
  · exact ⟨_, hcreated reservationId hreservation, rfl, rfl, version.hashed⟩

theorem kept_issueDecision {version : PolicyVersion deployment.host}
    (hadmitted : record.state = .reserved →
      AdmittedUnder deployment.host l record version.policyHash) (actor : Str) :
    Kept anything (issueDecision record version actor) l := by
  refine keeps_call (fun _ _ _ _ => trivial)
    fun _ m candidate hearlier _ _ hlater _ hissued => ?_
  have hgrows := Grows.trans hearlier hlater
  obtain ⟨hreserved, hreservation, hhash, hproposal⟩ := hissued
  refine keeps_call ?_ fun _ n stored _ _ _ _ _ _ => ?_
  · intro n hstored _ _ _ hallow
    have hsome := candidate.reservationMatchesVerdict.1 hallow
    obtain ⟨reservationId, hid⟩ := Option.ne_none_iff_exists'.mp hsome
    rw [hreservation] at hid
    obtain ⟨admission, hadmission, hsame, rfl, hpolicy⟩ :=
      ((hadmitted (hreserved hallow)).grows (Grows.trans hgrows hstored)) reservationId hid
    rw [← hhash] at hpolicy
    exact ⟨admission, hadmission, by rw [hsame], by rw [hsame]; exact hproposal,
      hreservation.trans hid, hpolicy⟩
  · split_ifs
    · refine keeps_then (fun _ => trivial) fun _ _ _ _ => ?_
      exact keeps_pure fun _ _ _ => trivial
    · exact keeps_pure fun _ _ _ => trivial

theorem kept_submit (proposal : ProposalV1) (actor : Str) (l : Ledger) :
    Kept anything (submit proposal actor : Program deployment.host SubmissionResponse) l := by
  refine keeps_then (fun _ => trivial) fun _ version _ _ => ?_
  refine keeps_call (fun _ _ _ _ => trivial)
    fun before m result _ hinv hguard hreserve _ hanswer => ?_
  refine keeps_call (fun _ _ _ _ => trivial)
    fun n o existing hbetween _ _ hread _ hexisting => ?_
  apply keeps_bind (q := anything)
  · cases existing with
    | some decision => exact keeps_pure fun _ _ _ => trivial
    | none =>
      apply kept_issueDecision
      intro hreserved
      have hopen := Grows.undecided hbetween hexisting.symm
      exact (evaluated_reserve hinv hguard hreserve hanswer hreserved hopen).grows
        (Grows.trans hbetween hread)
  · intro m decision _ _ _
    exact keeps_pure fun _ _ _ => trivial

/-- The calls that submit proposals or administer policies. -/
def submits : ServiceCall → Bool
  | .submit _ _ => true
  | .createPolicy _ _ => true
  | .approvePolicy _ _ => true
  | .activatePolicy _ _ => true
  | .execute _ _ _ => false
  | .reconcile _ _ => false

theorem kept_serviceProgram {request : ServiceCall} (hrequest : submits request = true)
    (l : Ledger) : Kept anything (serviceProgram deployment request) l := by
  cases request with
  | submit proposal actor =>
    apply keeps_bind (kept_submit proposal actor l)
    intro m response _ _ _
    exact keeps_pure fun _ _ _ => trivial
  | createPolicy _ _ | approvePolicy _ _ | activatePolicy _ _ =>
    apply keeps_then
    · intro m
      trivial
    · intro m version _ _
      exact keeps_pure fun _ _ _ => trivial
  | execute _ _ _ | reconcile _ _ => cases hrequest

/-! ## Every run -/

theorem policyNamed_new (policies : PolicyRegistry host) (now : Datetime) :
    PolicyNamed host (ledger (Service.new policies now)) where
  keyed := by
    intro proposalId record hrecord
    cases hrecord
  admitted := by
    intro proposalId record reservationId hrecord
    cases hrecord
  named := by
    intro proposalId decision hdecision
    cases hdecision

/-- As long as no retry meets an admitted proposal without a decision under another policy,
every stored ALLOW decision names the policy that admitted its proposal. -/
theorem decision_namesPolicy {policies : PolicyRegistry deployment.host} {now : Datetime}
    {trace : List (Label ServiceCall Outcome)} {config : ServiceConfig deployment}
    (hrun : Run (ServiceStep deployment (fun request => submits request = true)
      fun service command => RetriesUnderSamePolicy (ledger service) command)
      ⟨Service.new policies now, []⟩ trace config)
    {proposalId : Uuid} {decision : DecisionTokenV1}
    (hstored : config.shared.artifacts.getDecision proposalId = some decision)
    (hallow : decision.verdict = .allow) :
    NamesPolicy deployment.host config.shared.admissions proposalId decision := by
  have hinv := (run_keeps (discipline deployment.host) anything
    (fun request hrequest l _ => kept_serviceProgram hrequest l)
    (policyNamed_new policies now) hrun).1
  exact hinv.named hstored hallow

open SignedEffect AttestationSoundness BudgetSafety

instance (host : Host) (admissions : List Admission) (proposalId : Uuid)
    (decision : DecisionTokenV1) :
    Decidable (NamesPolicy host admissions proposalId decision) := by
  delta NamesPolicy
  infer_instance

instance {host : Host} (l : Ledger) (command : Command host) :
    Decidable (RetriesUnderSamePolicy l command) := by
  delta RetriesUnderSamePolicy
  infer_instance

/-- A call stops after `reserve`, and is made again under the same policy. -/
def retryTrace : List (Label ServiceCall Outcome) :=
  .start (.submit sampleTransfer "agent".toList) :: advances 0 2 ++
    .crash 0 :: .start (.submit sampleTransfer "agent".toList) :: advances 0 6

/-- Between the two calls the other policy is activated. -/
def switchTrace : List (Label ServiceCall Outcome) :=
  .start (.submit sampleTransfer "agent".toList) :: advances 0 2 ++
    .crash 0 :: .start (.activatePolicy tightVersionId "administrator-1".toList) ::
    advances 0 1 ++ .start (.submit sampleTransfer "agent".toList) :: advances 1 6

def retryConfig : ServiceConfig sampleDeployment := configAfter sampleService retryTrace

def switchConfig : ServiceConfig sampleDeployment := configAfter sampleService switchTrace

theorem retryTrace_namesPolicy :
    ∃ decision, retryConfig.shared.artifacts.getDecision sampleProposalId =
        some decision ∧ decision.verdict = .allow ∧
      NamesPolicy sampleDeployment.host retryConfig.shared.admissions sampleProposalId decision := by
  have hfacts : SampleFollows (fun request => submits request = true)
        (fun service command => RetriesUnderSamePolicy (ledger service) command) sampleService
        retryTrace ∧
      ∃ decision ∈ retryConfig.shared.artifacts.getDecision sampleProposalId,
        decision.verdict = .allow := by
    decide +kernel
  obtain ⟨hfollows, decision, hstored, hallow⟩ := hfacts
  have hrun : Run (ServiceStep sampleDeployment (fun request => submits request = true)
      fun service command => RetriesUnderSamePolicy (ledger service) command)
      ⟨sampleService, []⟩ retryTrace retryConfig := hfollows.run
  exact ⟨decision, hstored, hallow, decision_namesPolicy hrun hstored hallow⟩

/-- The decision names the policy activated in between, which the proposal was never
evaluated under and which refuses it. -/
theorem switchTrace_namesOther :
    Run (ServiceStep sampleDeployment (fun request => submits request = true) fun _ _ => True)
        ⟨sampleService, []⟩ switchTrace switchConfig ∧
      ∃ decision ∈ switchConfig.shared.artifacts.getDecision sampleProposalId,
        decision.verdict = .allow ∧
        tightPolicy.policyHash serviceHost = .ok decision.policyHash.val ∧
        ¬ NamesPolicy sampleDeployment.host switchConfig.shared.admissions sampleProposalId decision ∧
        MemoryStateStore.empty.evaluate sampleTransfer tightPolicy sampleNow sampleNow =
          [.perTransactionCapExceeded] := by
  exact ⟨SampleFollows.run (by decide +kernel), by decide +kernel⟩

end AegisLedger.Gateway.DecisionPolicy
