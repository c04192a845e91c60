import AegisLedger.Gateway.Proofs.PolicyVersions

/-!
# Signing under the policy in force

`execute` presents the decision that `submit` has stored, and does not look at the registry.
So what was admitted under one version is signed under the next one, unless versions are
replaced only while nothing is reserved and no call is under way.

A thread that has found its proposal RESERVED may rely on the version active then: until the
thread has ended no other version becomes active, and the decision of the proposal, if it is
issued meanwhile, names that version.
-/

namespace AegisLedger.Gateway.PolicyInForce

open AegisLedger.Support HexText Checks Dict Threads
open BudgetSafety ServiceLedger PolicyVersions PolicyRegistry

/-! ## What the signer is asked -/

/-- The service, with what its signer was asked to sign and the version active then. -/
structure Watched (host : Host) where
  service : Service host
  asked : List (TransactionSignRequestV1 × Except PolicyError (PolicyVersion host))

variable {host : Host} {deployment : Deployment}

def asks (service : Service host) :
    Command host → List (TransactionSignRequestV1 × Except PolicyError (PolicyVersion host))
  | .sign authorization => [(authorization, service.policies.active)]
  | _ => []

def Watched.perform (deployment : Deployment) (outcome : Outcome)
    (watched : Watched deployment.host) (command : Command deployment.host) :
    Except ServiceError command.Answer × Watched deployment.host :=
  ((watched.service.perform deployment outcome command).1,
    ⟨(watched.service.perform deployment outcome command).2,
      watched.asked ++ asks watched.service command⟩)

abbrev WatchedConfig (deployment : Deployment) : Type :=
  Config (Watched deployment.host) (Command deployment.host) Command.Answer ServiceError Response

/-- The decision allows the proposal, in the name of the version active now, and that does
not stop everything. -/
def Presented (decision : DecisionTokenV1) (active : Except PolicyError (PolicyVersion host)) :
    Prop :=
  decision.verdict = .allow ∧ ∃ version, active = .ok version ∧
    decision.policyVersionId = version.versionId ∧ version.policy.emergencyStop = false

/-! ## Orderly replacement -/

/-- No call but that of thread `index` is under way, and no proposal is RESERVED. -/
def Undisturbed (config : WatchedConfig deployment) (index : Nat) : Prop :=
  (∀ thread ∈ config.threads.eraseIdx index, thread.ended = true) ∧
    ∀ record ∈ config.shared.service.state.records.values, record.state ≠ .reserved

/-- A `reserve` under a new key names a proposal that has no record yet. -/
def NamesNew (l : Ledger) : Command host → Prop
  | .reserve proposal _ => l.idempotency.get? (idempotencyKey proposal) = none →
      l.records.get? proposal.proposalId.val = none
  | _ => True

def Orderly (config : WatchedConfig deployment) (index : Nat) (outcome : Outcome)
    (command : Command deployment.host) : Prop :=
  match command with
  | .createPolicy _ _ => config.shared.service.policies.versions.get? outcome.id = none
  | .activatePolicy versionId _ =>
    config.shared.service.policies.activeId = none ∨
      config.shared.service.policies.activeId = some versionId ∨ Undisturbed config index
  | command => NamesNew (ledger config.shared.service) command

variable {config : WatchedConfig deployment} {index : Nat} {outcome : Outcome}
  {command : Command deployment.host}

theorem namesNew_of_orderly (h : Orderly config index outcome command) :
    NamesNew (ledger config.shared.service) command := by
  cases command with
  | reserve _ _ => exact h
  | _ => trivial

/-- Where one version replaces another nothing is disturbed, no identifier of a proposal is
brought again under another key, and `uuid7` draws new identifiers for versions. -/
def OrderlyLabel (config : WatchedConfig deployment) : Label ServiceCall Outcome → Prop
  | .advance index outcome =>
    match config.threads[index]? with
    | some (.op command _) => Orderly config index outcome command
    | _ => True
  | .start _ => True
  | .crash _ => True

/-- One step of the service whose signer is watched. -/
abbrev WatchedStep (deployment : Deployment)
    (allowed : WatchedConfig deployment → Label ServiceCall Outcome → Prop) :
    WatchedConfig deployment → Label ServiceCall Outcome → WatchedConfig deployment → Prop :=
  Run.Guarded allowed (Config.perform (Watched.perform deployment) (serviceProgram deployment))

/-! ## What a thread may rely on -/

/-- The same policy stays in force. -/
def ActiveKept (before after : PolicyRegistry host) : Prop :=
  ∀ ⦃version⦄, before.active = .ok version → ∃ kept, after.active = .ok kept ∧
    kept.versionId = version.versionId ∧ kept.policy = version.policy

/-- Whatever decision the proposal has, it may be presented. -/
def Covered (policies : PolicyRegistry host) (l : Ledger) (proposalId : Uuid) : Prop :=
  ∃ version, policies.active = .ok version ∧ version.policy.emergencyStop = false ∧
    ∀ decision, l.decisions.get? proposalId = some decision →
      decision.verdict = .allow ∧ decision.policyVersionId = version.versionId

structure InForce (policies : PolicyRegistry host) (l : Ledger) : Prop where
  consistent : Consistent policies
  keyed : Keyed l
  decided : ∀ {proposalId decision}, l.decisions.get? proposalId = some decision →
    ∃ record, l.records.get? proposalId = some record
  reserved : ∀ {proposalId record}, l.records.get? proposalId = some record →
    record.state = .reserved → record.reservationId ≠ none ∧ Covered policies l proposalId

structure Kept (policies : PolicyRegistry host) (l : Ledger) (later : PolicyRegistry host)
    (m : Ledger) : Prop where
  active : ActiveKept policies later
  decisions : ∀ {proposalId decision}, l.decisions.get? proposalId = some decision →
    m.decisions.get? proposalId = some decision
  records : ∀ {proposalId record}, l.records.get? proposalId = some record →
    ∃ kept, m.records.get? proposalId = some kept ∧ kept.reservationId = record.reservationId
  covered : ∀ {proposalId record}, l.records.get? proposalId = some record →
    record.reservationId ≠ none → Covered policies l proposalId → Covered later m proposalId

theorem ActiveKept.refl (policies : PolicyRegistry host) : ActiveKept policies policies :=
  fun version hactive => ⟨version, hactive, rfl, rfl⟩

theorem ActiveKept.trans {first second third : PolicyRegistry host}
    (h : ActiveKept first second) (h' : ActiveKept second third) : ActiveKept first third := by
  intro version hactive
  obtain ⟨kept, hkept, hid, hpolicy⟩ := h hactive
  obtain ⟨last, hlast, hlastId, hlastPolicy⟩ := h' hkept
  exact ⟨last, hlast, hlastId.trans hid, hlastPolicy.trans hpolicy⟩

section Keeping

variable {policies later last : PolicyRegistry host} {l m n : Ledger}

theorem Kept.refl (policies : PolicyRegistry host) (l : Ledger) : Kept policies l policies l :=
  ⟨.refl policies, id, fun h => ⟨_, h, rfl⟩, fun _ _ h => h⟩

theorem Kept.trans (h : Kept policies l later m) (h' : Kept later m last n) :
    Kept policies l last n where
  active := h.active.trans h'.active
  decisions := fun hdecision => h'.decisions (h.decisions hdecision)
  records := by
    intro proposalId record hrecord
    obtain ⟨kept, hkept, hsame⟩ := h.records hrecord
    obtain ⟨final, hfinal, hfinalSame⟩ := h'.records hkept
    exact ⟨final, hfinal, hfinalSame.trans hsame⟩
  covered := by
    intro proposalId record hrecord hreservation hcovered
    obtain ⟨kept, hkept, hsame⟩ := h.records hrecord
    exact h'.covered hkept (hsame ▸ hreservation) (h.covered hrecord hreservation hcovered)

/-! ## Commands on the registry -/

variable {proposalId : Uuid}

theorem Covered.registry (h : Covered policies l proposalId) (hactive : ActiveKept policies later) :
    Covered later l proposalId := by
  obtain ⟨version, hversion, hrunning, hdecisions⟩ := h
  obtain ⟨kept, hkept, hid, hpolicy⟩ := hactive hversion
  refine ⟨kept, hkept, hpolicy ▸ hrunning, ?_⟩
  intro decision hdecision
  rw [hid]
  exact hdecisions decision hdecision

/-- A registry in which the same policy is in force. -/
theorem InForce.registry (h : InForce policies l) (hconsistent : Consistent later)
    (hactive : ActiveKept policies later) : InForce later l ∧ Kept policies l later l where
  left := {
    consistent := hconsistent
    keyed := h.keyed
    decided := h.decided
    reserved := fun hrecord hstate =>
      ⟨(h.reserved hrecord hstate).1, (h.reserved hrecord hstate).2.registry hactive⟩ }
  right := ⟨hactive, id, fun hrecord => ⟨_, hrecord, rfl⟩, fun _ _ hcovered =>
    hcovered.registry hactive⟩

/-- Any other registry, as long as nothing is reserved. -/
theorem InForce.replaced (h : InForce policies l) (hconsistent : Consistent later)
    (hnone : ∀ record ∈ l.records.values, record.state ≠ .reserved) : InForce later l where
  consistent := hconsistent
  keyed := h.keyed
  decided := h.decided
  reserved := by
    intro proposalId record hrecord hstate
    exact absurd hstate (hnone record (List.mem_map.mpr ⟨_, mem_entries_of_get? hrecord, rfl⟩))

theorem activeKept_put {version : PolicyVersion host} (hinactive : Inactive policies version) :
    ActiveKept policies (policies.put version) := by
  intro active hactive
  refine ⟨active, ?_, rfl, rfl⟩
  rw [PolicyRegistry.active, orRaise_bind_eq_ok] at hactive ⊢
  obtain ⟨activeId, hpointed, hget⟩ := hactive
  refine ⟨activeId, hpointed, ?_⟩
  rw [get_eq_ok] at hget ⊢
  rw [get?_put, if_neg]
  · exact hget
  · rintro rfl
    exact hinactive.pointer hpointed

/-- A version is activated that was active already, or the first one ever. -/
theorem activeKept_activate (hconsistent : Consistent policies) {versionId : Uuid}
    {activatedBy : Str} {now : Datetime} {activated : PolicyVersion host}
    (hactivate : policies.activate versionId activatedBy now = .ok (activated, later))
    (hpointer : policies.activeId = none ∨ policies.activeId = some versionId) :
    ActiveKept policies later := by
  intro active hactive
  obtain ⟨version, retired, hget, _, _, rfl, rfl⟩ := activate_cases hactivate
  rw [PolicyRegistry.active, orRaise_bind_eq_ok] at hactive
  obtain ⟨activeId, hpointed, hfound⟩ := hactive
  rw [get_eq_ok] at hfound
  have hid : activeId = versionId := by
    rcases hpointer with hnone | hsome
    · rw [hnone] at hpointed
      cases hpointed
    · rw [hsome] at hpointed
      exact (Option.some.inj hpointed).symm
  rw [hid, hget] at hfound
  obtain rfl := Option.some.inj hfound
  refine ⟨{ version with
    status := .active, activatedAt := some now, activatedBy := some activatedBy }, ?_, rfl, rfl⟩
  rw [PolicyRegistry.active, orRaise_bind_eq_ok]
  refine ⟨versionId, rfl, ?_⟩
  rw [get_eq_ok]
  refine (get?_put _ _ _).trans (if_pos ?_)
  exact (hconsistent.versions hget).keyed.symm

/-! ## Commands on the ledger -/

variable {command : Command host}

/-- What a command of `submit` or `execute` needs; none of them touches the registry. -/
def Needs (policies : PolicyRegistry host) (l : Ledger) : Command host → Prop
  | .createPolicy _ _ => False
  | .approvePolicy _ _ => False
  | .activatePolicy _ _ => False
  | .reserve _ policy => ∃ version, policies.active = .ok version ∧ version.policy = policy
  | .transition _ target => target ≠ .reserved
  | .putDecision proposalId decision => ∃ record, l.records.get? proposalId = some record ∧
      (record.reservationId ≠ none → decision.verdict = .allow ∧
        ∃ version, policies.active = .ok version ∧ decision.policyVersionId = version.versionId)
  | .sign authorization => Presented authorization.decision policies.active
  | _ => True

/-- The records and the decisions are all that matters. -/
theorem InForce.same (h : InForce policies l) (hrecords : m.records = l.records)
    (hdecisions : m.decisions = l.decisions) :
    InForce policies m ∧ Kept policies l policies m := by
  have hcovered : ∀ {proposalId}, Covered policies l proposalId →
      Covered policies m proposalId := by
    intro proposalId hcovered
    unfold Covered
    rw [hdecisions]
    exact hcovered
  refine ⟨⟨h.consistent, ?_, ?_, ?_⟩, ⟨.refl _, ?_, ?_, fun _ _ => hcovered⟩⟩
  · intro proposalId record hrecord
    rw [hrecords] at hrecord
    exact h.keyed hrecord
  · intro proposalId decision hdecision
    rw [hdecisions] at hdecision
    rw [hrecords]
    exact h.decided hdecision
  · intro proposalId record hrecord hstate
    rw [hrecords] at hrecord
    exact ⟨(h.reserved hrecord hstate).1, hcovered (h.reserved hrecord hstate).2⟩
  · intro proposalId decision hdecision
    rw [hdecisions]
    exact hdecision
  · intro proposalId record hrecord
    rw [hrecords]
    exact ⟨record, hrecord, rfl⟩

/-- A record is written over one with the same reservation, or where there was none. -/
theorem InForce.setRecord (h : InForce policies l) {record : ProposalRecord}
    (hid : record.proposal.proposalId.val = proposalId)
    (hreplaced : ∀ old, l.records.get? proposalId = some old →
      record.reservationId = old.reservationId) (hreserved : record.state = .reserved →
      record.reservationId ≠ none ∧ Covered policies l proposalId)
    (hm : m.records = l.records.set proposalId record) (hdecisions : m.decisions = l.decisions) :
    InForce policies m ∧ Kept policies l policies m := by
  have hcovered : ∀ {otherId}, Covered policies l otherId → Covered policies m otherId := by
    intro otherId hcovered
    unfold Covered
    rw [hdecisions]
    exact hcovered
  have hrecords : ∀ {otherId old}, l.records.get? otherId = some old →
      ∃ kept, m.records.get? otherId = some kept ∧ kept.reservationId = old.reservationId := by
    intro otherId old hold
    rw [hm, get?_set]
    split_ifs with hother
    · subst hother
      exact ⟨record, rfl, hreplaced old hold⟩
    · exact ⟨old, hold, rfl⟩
  refine ⟨⟨h.consistent, ?_, ?_, ?_⟩, ⟨.refl _, ?_, hrecords, fun _ _ => hcovered⟩⟩
  · intro otherId other hother
    rw [hm, get?_set] at hother
    split_ifs at hother with hsame
    · rw [← Option.some.inj hother, hsame]
      exact hid
    · exact h.keyed hother
  · intro otherId decision hdecision
    rw [hdecisions] at hdecision
    obtain ⟨old, hold⟩ := h.decided hdecision
    obtain ⟨kept, hkept, _⟩ := hrecords hold
    exact ⟨kept, hkept⟩
  · intro otherId other hother hstate
    rw [hm, get?_set] at hother
    split_ifs at hother with hsame
    · rw [← Option.some.inj hother] at hstate ⊢
      rw [hsame]
      exact ⟨(hreserved hstate).1, hcovered (hreserved hstate).2⟩
    · exact ⟨(h.reserved hother hstate).1, hcovered (h.reserved hother hstate).2⟩
  · intro otherId decision hdecision
    rw [hdecisions]
    exact hdecision

theorem Covered.putDecision {otherId : Uuid} {decision : DecisionTokenV1}
    (h : Covered policies l otherId) (hneeds : otherId = proposalId → decision.verdict = .allow ∧
      ∃ version, policies.active = .ok version ∧ decision.policyVersionId = version.versionId) :
    Covered policies { l with decisions := l.decisions.set proposalId decision } otherId := by
  obtain ⟨version, hactive, hrunning, hdecisions⟩ := h
  refine ⟨version, hactive, hrunning, ?_⟩
  intro found hfound
  rw [get?_set] at hfound
  split_ifs at hfound with hid
  · obtain ⟨hallow, named, hnamed, hname⟩ := hneeds hid
    rw [hactive] at hnamed
    rw [← Option.some.inj hfound, Except.ok.inj hnamed]
    exact ⟨hallow, hname⟩
  · exact hdecisions found hfound

theorem InForce.putDecision (h : InForce policies l) {decision : DecisionTokenV1}
    (hnew : l.decisions.get? proposalId = none)
    (hneeds : Needs policies l (.putDecision proposalId decision)) :
    InForce policies { l with decisions := l.decisions.set proposalId decision } ∧
      Kept policies l policies { l with decisions := l.decisions.set proposalId decision } := by
  obtain ⟨record, hrecord, hpresentable⟩ := hneeds
  have hcovered : ∀ {otherId other}, l.records.get? otherId = some other →
      other.reservationId ≠ none → Covered policies l otherId →
      Covered policies { l with decisions := l.decisions.set proposalId decision } otherId := by
    intro otherId other hother hreservation hcovered
    apply hcovered.putDecision
    rintro rfl
    rw [hrecord] at hother
    rw [← Option.some.inj hother] at hreservation
    exact hpresentable hreservation
  refine ⟨⟨h.consistent, h.keyed, ?_, ?_⟩,
    ⟨.refl _, ?_, fun hother => ⟨_, hother, rfl⟩, hcovered⟩⟩
  · intro otherId other hother
    rw [get?_set] at hother
    split_ifs at hother with hid
    · exact ⟨record, hid ▸ hrecord⟩
    · exact h.decided hother
  · intro otherId other hother hstate
    obtain ⟨hreservation, hbefore⟩ := h.reserved hother hstate
    exact ⟨hreservation, hcovered hother hreservation hbefore⟩
  · intro otherId other hother
    rw [get?_set_ne]
    · exact hother
    · rintro rfl
      rw [hnew] at hother
      cases hother

/-- Every command but `reserve`, whose record the change does not tell. -/
theorem InForce.change (h : InForce policies l) (hneeds : Needs policies l command)
    (hother : ∀ proposal policy, command ≠ .reserve proposal policy)
    (hchange : Change command l m) : InForce policies m ∧ Kept policies l policies m := by
  cases hchange with
  | same | sign | putExecution | markSubmitted | submit => exact h.same rfl rfl
  | reserve record hnew => exact absurd rfl (hother _ _)
  | transition hrecord hallowed hproposal hstate hsame =>
    refine h.setRecord ?_ ?_ ?_ rfl rfl
    · rw [hproposal]
      exact h.keyed hrecord
    · intro old hold
      rw [hrecord] at hold
      rw [hsame, Option.some.inj hold]
    · intro hreserved
      exact absurd (hstate.symm.trans hreserved) hneeds
  | putDecision hnew => exact h.putDecision hnew hneeds

end Keeping

/-! ## Commands of the service -/

variable {service : Service deployment.host}

theorem policies_perform (hneeds : Needs service.policies (ledger service) command) :
    (service.perform deployment outcome command).2.policies = service.policies := by
  cases command with
  | createPolicy _ _ | approvePolicy _ _ | activatePolicy _ _ => exact hneeds.elim
  | activePolicy | getRecord _ | issue _ _ | getDecision _ | fromSigner _ _ _ | getExecution _
  | putDecision _ _ | putExecution _ | submit _ _ => rfl
  | reserve proposal policy =>
    rw [Service.perform]
    split <;> rfl
  | sign authorization =>
    rw [Service.perform]
    cases outcome.signer with
    | refuses => rfl
    | signs result delivered =>
      rw [Service.sign]
      split_ifs <;> rfl
  | transition _ _ | registerDecisionNonce _ | registerWalletNonce _ _ _ | markSubmitted _
  | registerSettlement _ _ _ | appendAudit _ _ _ _ =>
    rw [Service.perform]
    unfold settleCall
    split <;> rfl

/-- `reserve` under the active policy: nothing is admitted under an emergency stop. -/
theorem InForce.reserve {proposal : ProposalV1} {policy : PolicyV1} {result : ReservationResult}
    {after : MemoryStateStore} (h : InForce service.policies (ledger service))
    (hneeds : Needs service.policies (ledger service) (.reserve proposal policy))
    (hnew : NamesNew (ledger service) (.reserve proposal policy : Command deployment.host))
    (hreserve : service.state.reserve proposal policy outcome.readings outcome.id =
      .ok (result, after)) :
    (InForce service.policies (ledger { service with
        state := after
        admissions := recordAdmission service.admissions proposal policy result }) ∧
      Kept service.policies (ledger service) service.policies (ledger { service with
        state := after
        admissions := recordAdmission service.admissions proposal policy result })) ∧
      ∃ record, after.records.get? result.record.proposal.proposalId.val = some record ∧
        record.reservationId = result.record.reservationId := by
  obtain ⟨version, hactive, rfl⟩ := hneeds
  rcases reserve_cases hreserve with ⟨duplicateId, record, _, hrecord, rfl, rfl⟩ | ⟨hfree, hwritten⟩
  · refine ⟨h.same rfl rfl, record, ?_, rfl⟩
    rw [h.keyed hrecord]
    exact hrecord
  · have hnone : service.state.records.get? proposal.proposalId.val = none := hnew hfree
    have hold : ∀ {reservationId : Option Uuid} old,
        (ledger service).records.get? proposal.proposalId.val = some old →
        reservationId = old.reservationId := by
      intro reservationId old hold
      exact absurd (hnone.symm.trans hold) nofun
    rcases hwritten with ⟨reasons, _, _, rfl, rfl⟩ | ⟨hreasons, rfl, rfl⟩
    · refine ⟨h.setRecord rfl hold ?_ rfl rfl, _, get?_set_self _ _ _, rfl⟩
      intro hstate
      cases hstate
    · refine ⟨h.setRecord rfl hold ?_ rfl rfl, _, get?_set_self _ _ _, rfl⟩
      refine fun _ => ⟨Option.some_ne_none _, version, hactive, ?_, ?_⟩
      · by_contra hstop
        rw [Bool.not_eq_false] at hstop
        rw [MemoryStateStore.evaluate, staticPolicyReasons, if_pos hstop] at hreasons
        cases hreasons
      · intro decision hdecision
        obtain ⟨record, hrecord⟩ := h.decided hdecision
        exact absurd (hnone.symm.trans hrecord) nofun

theorem InForce.perform (h : InForce service.policies (ledger service)) (outcome : Outcome)
    (hneeds : Needs service.policies (ledger service) command)
    (hnew : NamesNew (ledger service) command) :
    InForce (service.perform deployment outcome command).2.policies
        (ledger (service.perform deployment outcome command).2) ∧
      Kept service.policies (ledger service)
        (service.perform deployment outcome command).2.policies
        (ledger (service.perform deployment outcome command).2) := by
  rw [policies_perform hneeds]
  by_cases hreserve : ∃ proposal policy, command = .reserve proposal policy
  · obtain ⟨proposal, policy, rfl⟩ := hreserve
    rw [Service.perform]
    split
    · exact h.same rfl rfl
    · rename_i result after hok
      exact (h.reserve hneeds hnew hok).1
  · exact h.change hneeds (fun proposal policy heq => hreserve ⟨proposal, policy, heq⟩)
      (change_perform outcome service command)

theorem stored_of_reserve {proposal : ProposalV1} {policy : PolicyV1} {result : ReservationResult}
    (h : InForce service.policies (ledger service))
    (hneeds : Needs service.policies (ledger service) (.reserve proposal policy))
    (hnew : NamesNew (ledger service) (.reserve proposal policy : Command deployment.host))
    (hanswer : (service.perform deployment outcome (.reserve proposal policy)).1 = .ok result) :
    ∃ record, (service.perform deployment outcome
        (.reserve proposal policy)).2.state.records.get? result.record.proposal.proposalId.val =
          some record ∧
      record.reservationId = result.record.reservationId := by
  rw [Service.perform] at hanswer ⊢
  split at hanswer
  · cases hanswer
  · rename_i reserved after hok
    rw [← Except.ok.inj hanswer]
    exact (h.reserve hneeds hnew hok).2

/-! ## Threads -/

def protocol {ρ : Type} (post : Service deployment.host → ρ → Prop) :
    Protocol (Watched deployment.host) ρ where
  invariant := fun watched => InForce watched.service.policies (ledger watched.service) ∧
    ∀ entry ∈ watched.asked, Presented entry.1.decision entry.2
  keeps := fun before after => Kept before.service.policies (ledger before.service)
    after.service.policies (ledger after.service)
  post := fun watched result => post watched.service result
  keeps_refl := fun _ => .refl _ _
  keeps_trans := .trans

/-- The program keeps to the protocol from `service` on. -/
abbrev Keeps {ρ : Type} (post : Service deployment.host → ρ → Prop)
    (program : Program deployment.host ρ) (watched : Watched deployment.host) : Prop :=
  Safe (Watched.perform deployment) (fun watched command => NamesNew (ledger watched.service) command)
    (protocol post) program watched

section Calls

variable {ρ : Type} {post : Service deployment.host → ρ → Prop} {watched : Watched deployment.host}

theorem protocol_perform (outcome : Outcome) {command : Command deployment.host}
    (hinv : (protocol post).invariant watched)
    (hneeds : Needs watched.service.policies (ledger watched.service) command)
    (hnew : NamesNew (ledger watched.service) command) :
    (protocol post).invariant (watched.perform deployment outcome command).2 ∧
      (protocol post).keeps watched (watched.perform deployment outcome command).2 := by
  obtain ⟨hforce, hkept⟩ := hinv.1.perform outcome hneeds hnew
  refine ⟨⟨hforce, ?_⟩, hkept⟩
  intro entry hentry
  rcases List.mem_append.mp hentry with hold | hnow
  · exact hinv.2 entry hold
  · cases command with
    | sign authorization =>
      rw [List.mem_singleton.mp hnow]
      exact hneeds
    | _ => cases hnow

theorem keeps_command {command : Command deployment.host}
    {rest : command.Answer → Program deployment.host ρ}
    (hneeds : ∀ t : Watched deployment.host, (protocol post).keeps watched t →
      (protocol post).invariant t →
      Needs t.service.policies (ledger t.service) command)
    (hrest : ∀ (t : Watched deployment.host) (outcome : Outcome) (answer : command.Answer),
      (protocol post).keeps watched t → (protocol post).invariant t →
      NamesNew (ledger t.service) command →
      (t.service.perform deployment outcome command).1 = .ok answer →
      Keeps post (rest answer) (t.perform deployment outcome command).2) :
    Keeps post (call command >>= rest) watched := by
  apply safe_call
  intro t hkept hinv hnew outcome
  obtain ⟨hafter, hkeeps⟩ := protocol_perform outcome hinv (hneeds t hkept hinv) hnew
  exact ⟨hafter, hkeeps, fun answer hanswer => hrest t outcome answer hkept hinv hnew hanswer⟩

/-- A program all of whose commands need nothing. -/
theorem keeps_of_concludes {program : Program deployment.host ρ} (huses : program.Uses Concludes)
    (hpost : ∀ service result, post service result) : Keeps post program watched := by
  refine safe_of_uses huses (fun t result => hpost t.service result) ?_
  intro t command hcommand hinv hnew outcome
  refine protocol_perform outcome hinv ?_ hnew
  cases command
  case transition proposalId target =>
    rw [show target = .submitted from hcommand]
    exact nofun
  all_goals trivial

end Calls

variable {record : ProposalRecord}

/-- A decision with a reservation allows. -/
theorem verdict_of_issued {issuer : DecisionIssuer} {version : PolicyVersion host}
    {decision : DecisionTokenV1} (h : Authorizations.Issued host issuer record version decision)
    (hreservation : record.reservationId ≠ none) : decision.verdict = .allow := by
  have hverdict := h.verdict
  rw [verdictFor] at hverdict
  split_ifs at hverdict with hstate
  · exact hverdict
  · rw [← h.reservation] at hreservation
    exact absurd (decision.reservationMatchesVerdict.2 hverdict) hreservation

variable {watched : Watched deployment.host}

theorem keeps_issueDecision {version current : PolicyVersion deployment.host}
    (hactive : watched.service.policies.active = .ok current)
    (hcurrent : current.versionId = version.versionId) {stored : ProposalRecord}
    (hstored : watched.service.state.records.get? record.proposal.proposalId.val = some stored)
    (hsame : stored.reservationId = record.reservationId) (actor : Str) :
    Keeps (fun _ _ => True) (issueDecision record version actor) watched := by
  refine keeps_command (fun _ _ _ => trivial) fun t outcome candidate hkept hinv _ hissue => ?_
  have hissue := mapError_eq_ok.mp hissue
  refine keeps_command ?_ fun _ _ created _ _ _ _ => ?_
  · intro u hlater _
    obtain ⟨kept, hkeptRecord, hkeptSame⟩ := (hkept.trans hlater).records hstored
    obtain ⟨active, hnow, hid, _⟩ := (hkept.trans hlater).active hactive
    refine ⟨kept, hkeptRecord, ?_⟩
    intro hreservation
    rw [hkeptSame, hsame] at hreservation
    refine ⟨verdict_of_issued (Authorizations.issued_of_issue hissue) hreservation, active, hnow, ?_⟩
    rw [hid, hcurrent]
    exact (Authorizations.version_of_issue hissue).1
  · split_ifs
    · refine keeps_command (fun _ _ _ => trivial) fun _ _ _ _ _ _ _ => ?_
      exact safe_ret fun _ _ _ => trivial
    · exact safe_ret fun _ _ _ => trivial

theorem keeps_submit (proposal : ProposalV1) (actor : Str) (watched : Watched deployment.host) :
    Keeps (fun _ _ => True) (submit proposal actor) watched := by
  refine keeps_command (fun _ _ _ => trivial) fun t outcome version _ _ _ hversion => ?_
  have hactive : t.service.policies.active = .ok version := mapError_eq_ok.mp hversion
  have hneeds : ∀ u : Watched deployment.host,
      Kept t.service.policies (ledger t.service) u.service.policies (ledger u.service) →
      Needs u.service.policies (ledger u.service)
        (.reserve proposal version.policy : Command deployment.host) := by
    intro u hkept
    obtain ⟨active, hnow, _, hpolicy⟩ := hkept.active hactive
    exact ⟨active, hnow, hpolicy⟩
  refine keeps_command (fun u hkept _ => hneeds u hkept)
    fun u outcome result hkept hinv hnew hanswer => ?_
  have hkeptAfter := (hinv.1.perform outcome (hneeds u hkept) hnew).2
  obtain ⟨stored, hstored, hsame⟩ := stored_of_reserve hinv.1 (hneeds u hkept) hnew hanswer
  refine keeps_command (fun _ _ _ => trivial) fun x _ existing hread _ _ _ => ?_
  apply safe_bind (q := fun _ _ => True)
  · cases existing with
    | some decision => exact safe_ret fun _ _ _ => trivial
    | none =>
      obtain ⟨kept, hkeptRecord, hkeptSame⟩ := hread.records hstored
      obtain ⟨active, hnow, hid, _⟩ := ((hkept.trans hkeptAfter).trans hread).active hactive
      exact keeps_issueDecision hnow hid hkeptRecord (hkeptSame.trans hsame) actor
  · intro y decision _ _ _
    exact safe_ret fun _ _ _ => trivial

theorem keeps_signExecution {proposalId : Uuid} (hcovered : record.state = .reserved → ∃ stored,
      watched.service.state.records.get? proposalId = some stored ∧
      stored.reservationId ≠ none ∧
      Covered watched.service.policies (ledger watched.service) proposalId)
    (request : ExecutionRequest) (actor : Str) :
    Keeps (fun _ _ => True) (signExecution deployment proposalId request actor record)
      watched := by
  refine safe_ofExcept fun _ hreserved => ?_
  rw [raiseIf_eq_ok, not_not] at hreserved
  obtain ⟨stored, hstored, hreservation, hcovered⟩ := hcovered hreserved
  refine keeps_command (fun _ _ _ => trivial) fun t outcome found hkept _ _ hfound => ?_
  have hfound : found = t.service.artifacts.decisions.get? proposalId := (Except.ok.inj hfound).symm
  refine safe_ofExcept fun decision hdecision => ?_
  rw [orRaise_eq_ok, hfound] at hdecision
  refine safe_ofExcept fun authorized hauthorized => ?_
  have htoken := (Authorizations.authorizes_of_authorization hauthorized).token
  refine keeps_command ?_ fun _ _ result _ _ _ _ => ?_
  · intro u hlater _
    obtain ⟨version, hactive, hrunning, hdecisions⟩ :=
      (hkept.trans hlater).covered hstored hreservation hcovered
    obtain ⟨hallow, hnamed⟩ := hdecisions decision (hlater.decisions hdecision)
    exact ⟨htoken ▸ hallow, version, hactive, htoken ▸ hnamed, hrunning⟩
  · refine keeps_command (fun _ _ _ => trivial) fun _ _ _ _ _ _ _ => ?_
    refine keeps_command (fun _ _ _ => trivial) fun _ _ _ _ _ _ _ => ?_
    refine keeps_command (fun _ _ _ => trivial) fun _ _ _ _ _ _ _ => ?_
    refine keeps_command (fun _ _ _ => trivial) fun _ _ _ _ _ _ _ => ?_
    refine safe_ofExcept fun _ _ => ?_
    refine keeps_command (fun _ _ _ => nofun) fun _ _ _ _ _ _ _ => ?_
    refine keeps_command (fun _ _ _ => trivial) fun _ _ _ _ _ _ _ => ?_
    exact safe_ret fun _ _ _ => trivial

theorem keeps_execute (proposalId : Uuid) (request : ExecutionRequest) (actor : Str)
    (watched : Watched deployment.host) :
    Keeps (fun _ _ => True) (execute deployment proposalId request actor) watched := by
  refine keeps_command (fun _ _ _ => trivial) fun t outcome found _ hinv _ hfound => ?_
  have hfound : found = t.service.state.records.get? proposalId := (Except.ok.inj hfound).symm
  refine safe_ofExcept fun record hrecord => ?_
  rw [orRaise_eq_ok, hfound] at hrecord
  refine safe_ofExcept fun _ _ => safe_ofExcept fun _ _ => safe_ofExcept fun _ _ => ?_
  refine keeps_command (fun _ _ _ => trivial) fun u _ existing hkept _ _ _ => ?_
  apply safe_bind (q := fun _ _ => True)
  · cases existing with
    | none =>
      apply keeps_signExecution
      intro hstate
      obtain ⟨hreservation, hcovered⟩ := hinv.1.reserved hrecord hstate
      obtain ⟨kept, hkeptRecord, hsame⟩ := hkept.records hrecord
      exact ⟨kept, hkeptRecord, hsame ▸ hreservation,
        hkept.covered hrecord hreservation hcovered⟩
    | some execution =>
      refine safe_ofExcept fun _ _ => ?_
      exact safe_ret fun _ _ _ => trivial
  · intro v stored _ _ _
    apply safe_bind (q := fun _ _ => True)
    · cases stored.1.submittedAt with
      | none => exact keeps_of_concludes uses_submitExecution fun _ _ => trivial
      | some _ => exact keeps_of_concludes uses_resumeExecution fun _ _ => trivial
    · intro w submitted _ _ _
      exact safe_ret fun _ _ _ => trivial

/-! ## Every interleaving -/

/-- The commands on the registry, each of which is a call of its own. -/
def Administers : Command host → Prop
  | .createPolicy _ _ => True
  | .approvePolicy _ _ => True
  | .activatePolicy _ _ => True
  | _ => False

def Behaves (watched : Watched deployment.host) (thread : Program deployment.host Response) :
    Prop :=
  (∃ command, Administers command ∧ thread = commandCall command) ∨
    Keeps (fun _ _ => True) thread watched

def Behaved (config : WatchedConfig deployment) : Prop :=
  (protocol fun _ (_ : Response) => True).invariant config.shared ∧
    ∀ thread ∈ config.threads, Behaves config.shared thread

theorem behaves_serviceProgram (request : ServiceCall) (watched : Watched deployment.host) :
    Behaves watched (serviceProgram deployment request) := by
  cases request with
  | submit proposal actor =>
    right
    apply safe_bind (q := fun _ _ => True) (keeps_submit proposal actor watched)
    intro t response _ _ _
    exact safe_ret fun _ _ _ => trivial
  | execute proposalId request actor =>
    right
    apply safe_bind (q := fun _ _ => True) (keeps_execute proposalId request actor watched)
    intro t response _ _ _
    exact safe_ret fun _ _ _ => trivial
  | createPolicy _ _ => exact Or.inl ⟨.createPolicy _ _, trivial, rfl⟩
  | approvePolicy _ _ => exact Or.inl ⟨.approvePolicy _ _, trivial, rfl⟩
  | activatePolicy _ _ => exact Or.inl ⟨.activatePolicy _ _, trivial, rfl⟩
  | reconcile proposalId success =>
    right
    refine keeps_command ?_ fun _ _ _ _ _ _ _ => ?_
    · intro t _ _
      cases success <;> exact nofun
    · exact safe_ret fun _ _ _ => trivial

/-- The service with another registry. -/
def Watched.withPolicies (watched : Watched deployment.host)
    (policies : PolicyRegistry deployment.host) : Watched deployment.host :=
  ⟨{ watched.service with policies }, watched.asked⟩

theorem protocol_withPolicies {policies : PolicyRegistry deployment.host}
    (hinv : (protocol fun _ (_ : Response) => True).invariant watched)
    (hconsistent : Consistent policies) (hactive : ActiveKept watched.service.policies policies) :
    (protocol fun _ (_ : Response) => True).invariant (watched.withPolicies policies) ∧
      (protocol fun _ (_ : Response) => True).keeps watched (watched.withPolicies policies) := by
  obtain ⟨hforce, hkept⟩ := hinv.1.registry hconsistent hactive
  exact ⟨⟨hforce, hinv.2⟩, hkept⟩

/-- A command on the registry raises, or writes another registry. -/
theorem watched_settleCall {α : Type}
    {x : Except PolicyError (α × PolicyRegistry deployment.host)}
    (hperform : (watched.service.perform deployment outcome command).2 =
      (settleCall ServiceError.policy watched.service
        (fun policies => { watched.service with policies }) x).2)
    (hadministers : Administers command) :
    (watched.perform deployment outcome command).2 = watched ∨
      ∃ answer after, x = .ok (answer, after) ∧
        (watched.perform deployment outcome command).2 = watched.withPolicies after := by
  have hasked : watched.asked ++ asks watched.service command = watched.asked := by
    cases command
    case sign => exact hadministers.elim
    all_goals exact List.append_nil _
  rw [Watched.perform, hperform, hasked]
  rcases settleCall_cases ServiceError.policy watched.service
    (fun policies => { watched.service with policies }) x with
    ⟨error, hcall⟩ | ⟨answer, after, hx, hcall⟩
  · rw [hcall]
    exact Or.inl rfl
  · rw [hcall]
    exact Or.inr ⟨answer, after, hx, rfl⟩

/-- A command on the registry: either the same policy stays in force, or nobody relied on the
one that was. -/
theorem administered (hadministers : Administers command)
    (hinv : (protocol fun _ (_ : Response) => True).invariant config.shared)
    (horderly : Orderly config index outcome command) :
    (protocol fun _ (_ : Response) => True).invariant
        (config.shared.perform deployment outcome command).2 ∧
      ((protocol fun _ (_ : Response) => True).keeps config.shared
          (config.shared.perform deployment outcome command).2 ∨
        ∀ thread ∈ config.threads.eraseIdx index, thread.ended = true) := by
  have hconsistent := hinv.1.consistent
  cases command with
  | createPolicy policy createdBy =>
    rcases watched_settleCall rfl hadministers with hsame | ⟨created, after, hcreate, hafter⟩
    · rw [hsame]
      exact ⟨hinv, Or.inl (.refl _ _)⟩
    · obtain ⟨version, _, hinactive, rfl⟩ := hconsistent.create horderly hcreate
      rw [hafter]
      obtain ⟨hkeptInv, hkept⟩ := protocol_withPolicies hinv (hconsistent.put hinactive)
        (activeKept_put hinactive)
      exact ⟨hkeptInv, Or.inl hkept⟩
  | approvePolicy versionId administratorId =>
    rcases watched_settleCall rfl hadministers with hsame | ⟨approved, after, happrove, hafter⟩
    · rw [hsame]
      exact ⟨hinv, Or.inl (.refl _ _)⟩
    · obtain ⟨hinactive, rfl⟩ := hconsistent.approve happrove
      rw [hafter]
      obtain ⟨hkeptInv, hkept⟩ := protocol_withPolicies hinv (hconsistent.put hinactive)
        (activeKept_put hinactive)
      exact ⟨hkeptInv, Or.inl hkept⟩
  | activatePolicy versionId activatedBy =>
    rcases watched_settleCall rfl hadministers with hsame | ⟨activated, after, hactivate, hafter⟩
    · rw [hsame]
      exact ⟨hinv, Or.inl (.refl _ _)⟩
    · rw [hafter]
      have hlater := (hconsistent.activate hactivate).1
      rcases or_assoc.mpr horderly with hpointer | ⟨hended, hnone⟩
      · obtain ⟨hkeptInv, hkept⟩ := protocol_withPolicies hinv hlater
          (activeKept_activate hconsistent hactivate hpointer)
        exact ⟨hkeptInv, Or.inl hkept⟩
      · exact ⟨⟨hinv.1.replaced hlater hnone, hinv.2⟩, Or.inr hended⟩
  | _ => exact hadministers.elim

theorem mem_set_cases {α : Type} {items : List α} {item new : α} (h : item ∈ items.set index new) :
    item = new ∨ item ∈ items.eraseIdx index := by
  obtain ⟨i, hi⟩ := List.mem_iff_getElem?.mp h
  rw [List.getElem?_set] at hi
  split_ifs at hi with hindex hlength
  · exact Or.inl (Option.some.inj hi).symm
  · exact Or.inr (List.mem_eraseIdx_iff_getElem?.mpr ⟨i, fun heq => hindex heq.symm, hi⟩)

theorem Behaves.mono {later : Watched deployment.host} {thread : Program deployment.host Response}
    (h : Behaves watched thread)
    (hkept : (protocol fun _ (_ : Response) => True).keeps watched later) : Behaves later thread :=
  h.imp_right fun hkeeps => hkeeps.mono hkept

theorem behaves_of_ended {thread : Program deployment.host Response} (h : thread.ended = true) :
    Behaves watched thread :=
  Or.inr (safe_of_ended h fun _ _ => trivial)

theorem behaved_step {after : WatchedConfig deployment} {label : Label ServiceCall Outcome}
    (h : Behaved config) (hstep : WatchedStep deployment OrderlyLabel config label after) :
    Behaved after := by
  obtain ⟨horderly, rfl⟩ := hstep
  obtain ⟨hinv, hthreads⟩ := h
  cases label with
  | start request =>
    refine ⟨hinv, ?_⟩
    intro thread hthread
    rcases List.mem_append.mp hthread with hold | hnew
    · exact hthreads thread hold
    · rw [List.mem_singleton.mp hnew]
      exact behaves_serviceProgram request _
  | crash index =>
    exact ⟨hinv, fun thread hthread => hthreads thread (List.mem_of_mem_eraseIdx hthread)⟩
  | advance index outcome =>
    rw [Config.perform]
    split
    · rename_i command next hnow
      rw [OrderlyLabel, hnow] at horderly
      rcases hthreads _ (List.mem_of_getElem? hnow) with ⟨called, hadministers, hcall⟩ | hkeeps
      · have hcall : Prog.op command next = Prog.op called fun _ => .ret .done := hcall
        cases hcall
        obtain ⟨hafter, hothers⟩ := administered hadministers hinv horderly
        refine ⟨hafter, ?_⟩
        intro thread hthread
        rcases mem_set_cases hthread with rfl | hother
        · apply behaves_of_ended
          cases (config.shared.perform deployment outcome command).1 <;> rfl
        · rcases hothers with hkept | hended
          · exact (hthreads thread (List.mem_of_mem_eraseIdx hother)).mono hkept
          · exact behaves_of_ended (hended thread hother)
      · obtain ⟨hafter, hkept, hnext⟩ := hkeeps config.shared (.refl _ _) hinv
          (namesNew_of_orderly horderly) outcome
        refine ⟨hafter, ?_⟩
        intro thread hthread
        rcases List.mem_or_eq_of_mem_set hthread with hold | rfl
        · exact (hthreads thread hold).mono hkept
        · cases hanswer : (config.shared.perform deployment outcome command).1 with
          | error error => exact behaves_of_ended rfl
          | ok answer => exact Or.inr (hnext answer hanswer)
    · exact ⟨hinv, hthreads⟩

theorem inForce_new {policies : PolicyRegistry host} (hpolicies : Consistent policies)
    (now : Datetime) : InForce policies (ledger (Service.new policies now)) where
  consistent := hpolicies
  keyed := by
    intro proposalId record hrecord
    cases hrecord
  decided := by
    intro proposalId decision hdecision
    cases hdecision
  reserved := by
    intro proposalId record hrecord
    cases hrecord

theorem behaved_run {policies : PolicyRegistry deployment.host} (hpolicies : Consistent policies)
    {now : Datetime} {trace : List (Label ServiceCall Outcome)}
    (hrun : Run (WatchedStep deployment OrderlyLabel) ⟨⟨Service.new policies now, []⟩, []⟩ trace
      config) : Behaved config := by
  apply hrun.invariant (I := fun _ config => Behaved config)
  · refine ⟨⟨inForce_new hpolicies now, ?_⟩, ?_⟩
    · exact fun _ hentry => absurd hentry List.not_mem_nil
    · exact fun _ hthread => absurd hthread List.not_mem_nil
  · exact fun _ => behaved_step

/-- As long as versions are replaced in an orderly way, the signer is asked only to sign what
the version active at that moment allows. -/
theorem signs_under_active {calls : List RegistryCall} {governance : Governance deployment.host}
    (hgoverned : RegistryRun Governance.new calls governance) {now : Datetime}
    {trace : List (Label ServiceCall Outcome)} {config : WatchedConfig deployment}
    (hrun : Run (WatchedStep deployment OrderlyLabel)
      ⟨⟨Service.new governance.registry now, []⟩, []⟩ trace config) :
    ∀ entry ∈ config.shared.asked, Presented entry.1.decision entry.2 :=
  (behaved_run (governed_run hgoverned).consistent hrun).1.2

open SignedEffect

instance (decision : DecisionTokenV1) (active : Except PolicyError (PolicyVersion host)) :
    Decidable (Presented decision active) :=
  match active with
  | .ok version => decidable_of_iff (decision.verdict = .allow ∧
      decision.policyVersionId = version.versionId ∧ version.policy.emergencyStop = false)
      (and_congr_right fun _ => ⟨fun h => ⟨version, rfl, h⟩, fun ⟨_, hsame, h⟩ =>
        Except.ok.inj hsame ▸ h⟩)
  | .error _ => .isFalse fun ⟨_, _, hok, _⟩ => nomatch hok

instance (config : WatchedConfig deployment) (index : Nat) : Decidable (Undisturbed config index) :=
  inferInstanceAs (Decidable (_ ∧ _))

instance (config : WatchedConfig deployment) (index : Nat) (outcome : Outcome)
    (command : Command deployment.host) : Decidable (Orderly config index outcome command) := by
  cases command <;> (dsimp only [Orderly, NamesNew]; infer_instance)

instance (config : WatchedConfig deployment) (label : Label ServiceCall Outcome) :
    Decidable (OrderlyLabel config label) :=
  match label with
  | .start _ => .isTrue trivial
  | .crash _ => .isTrue trivial
  | .advance index outcome => by
      dsimp only [OrderlyLabel]
      split <;> infer_instance

/-- The policy that refuses everything. -/
def haltPolicy : PolicyV1 := { widePolicy with
  emergencyStop := true
  coherent := ⟨widePolicy.coherent.1, fun _ => rfl⟩ }

def haltVersionId : Uuid := 0x19f7518fe0070008000000000000023

/-- One policy is active, and the halt is approved. -/
def haltCalls : List RegistryCall :=
  rollout widePolicy wideVersionId ++ (rollout haltPolicy haltVersionId).dropLast

def haltGovernance : Governance sampleDeployment.host := haltCalls.foldl Governance.perform .new

def watchedStart : WatchedConfig sampleDeployment :=
  ⟨⟨Service.new haltGovernance.registry sampleNow, []⟩, []⟩

def watchedAfter (trace : List (Label ServiceCall Outcome)) : WatchedConfig sampleDeployment :=
  trace.foldl (Config.perform (Watched.perform sampleDeployment) (serviceProgram sampleDeployment))
    watchedStart

/-- The halt is activated when the transfer has been signed and submitted. -/
def signedFirst : List (Label ServiceCall Outcome) :=
  .start (.submit sampleTransfer "agent".toList) :: advances 0 6 ++
    .start (.execute sampleProposalId sampleExecution researcher) :: advances 1 16 ++
    .start (.activatePolicy haltVersionId "administrator-1".toList) :: advances 2 1

/-- The halt is activated between the two calls for the transfer. -/
def haltedFirst : List (Label ServiceCall Outcome) :=
  .start (.submit sampleTransfer "agent".toList) :: advances 0 6 ++
    .start (.activatePolicy haltVersionId "administrator-1".toList) :: advances 1 1 ++
    .start (.execute sampleProposalId sampleExecution researcher) :: advances 2 4

theorem signedFirst_presented :
    (watchedAfter signedFirst).shared.asked.length = 1 ∧
      (watchedAfter signedFirst).shared.service.policies.activeId = some haltVersionId ∧
      ∀ entry ∈ (watchedAfter signedFirst).shared.asked, Presented entry.1.decision entry.2 := by
  have hfacts : (Run.Follows Fresh Governance.perform (.new : Governance sampleDeployment.host)
        haltCalls ∧
      Run.Follows OrderlyLabel (Config.perform (Watched.perform sampleDeployment)
        (serviceProgram sampleDeployment)) watchedStart signedFirst) ∧
      (watchedAfter signedFirst).shared.asked.length = 1 ∧
      (watchedAfter signedFirst).shared.service.policies.activeId = some haltVersionId := by
    decide +kernel
  obtain ⟨⟨hcalls, hfollows⟩, hasked, hactive⟩ := hfacts
  exact ⟨hasked, hactive, signs_under_active hcalls.run hfollows.run⟩

/-- The signer signs the transfer while the halt is in force. -/
theorem haltedFirst_signed :
    Run (WatchedStep sampleDeployment fun _ _ => True) watchedStart haltedFirst
        (watchedAfter haltedFirst) ∧
      (watchedAfter haltedFirst).shared.service.signed.length = 1 ∧
      ∃ entry ∈ (watchedAfter haltedFirst).shared.asked,
        entry.1.decision.policyVersionId = wideVersionId ∧
        (entry.2.toOption.map fun version => (version.versionId, version.policy.emergencyStop)) =
          some (haltVersionId, true) ∧
        ¬ Presented entry.1.decision entry.2 := by
  have hfollows : Run.Follows (fun _ _ => True) (Config.perform (Watched.perform sampleDeployment)
      (serviceProgram sampleDeployment)) watchedStart haltedFirst := by
    decide +kernel
  refine ⟨hfollows.run, ?_⟩
  decide +kernel

end AegisLedger.Gateway.PolicyInForce
