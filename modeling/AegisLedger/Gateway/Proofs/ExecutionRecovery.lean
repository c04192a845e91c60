import AegisLedger.Gateway.Proofs.ServiceLedger

/-!
# Recovery of an execution

How far a proposal has come is measured by its lifecycle state, and no step of `execute` or
of the reconciler takes it back.  A call that stores an execution moves the proposal on to
SIGNED in a later step.  If it stops between the two, a retry finds the execution, submits
it, and leaves the proposal where it was: only a SIGNED proposal is moved on to SUBMITTED.
-/

namespace AegisLedger.Gateway.ExecutionRecovery

open AegisLedger.Support HexText Checks Dict Threads
open ServiceLedger Discipline

/-- How far on its way to settlement a proposal is. -/
def progress : LifecycleState → Nat
  | .proposed => 0
  | .denied => 0
  | .expired => 0
  | .reserved => 1
  | .signed => 2
  | .submitted => 3
  | .settled => 4
  | .reverted => 4

variable {state : LifecycleState}

theorem progress_le_of_allowed {target : LifecycleState}
    (hallowed : target ∈ allowedTransitions state) (hne : target ≠ .expired) :
    progress state ≤ progress target := by
  revert hallowed hne
  cases state <;> cases target <;> decide

theorem signed_le_progress (h : 1 ≤ progress state) (hne : state ≠ .reserved) :
    2 ≤ progress state := by
  revert h hne
  cases state <;> decide

theorem submitted_le_progress (h : 2 ≤ progress state) (hne : state ≠ .signed) :
    3 ≤ progress state := by
  revert h hne
  cases state <;> decide

/-- The states from which a proposal is settled, or in which it is. -/
def settleable : List LifecycleState := [.submitted, .settled, .reverted]

theorem mem_settleable (h : 3 ≤ progress state) : state ∈ settleable := by
  revert h
  cases state <;> decide

def Reached (n : Nat) (l : Ledger) (proposalId : Uuid) : Prop :=
  ∃ record, l.records.get? proposalId = some record ∧ n ≤ progress record.state

def NoneFallsBack (l m : Ledger) : Prop :=
  ∀ ⦃n proposalId⦄, Reached n l proposalId → Reached n m proposalId

/-- An execution is stored only for a proposal that was reserved. -/
def ExecutionsReserved (l : Ledger) : Prop :=
  ∀ ⦃proposalId execution⦄, l.executions.get? proposalId = some execution →
    Reached 1 l proposalId

/-- The record of a proposal whose stored execution is read. -/
def executedRecord {host : Host} (l : Ledger) : Command host → Option ProposalRecord
  | .getExecution proposalId =>
    if (l.executions.get? proposalId).isSome then l.records.get? proposalId else none
  | _ => none

/-- No call finds an execution of a proposal that is still RESERVED. -/
def FindsSigned {host : Host} (l : Ledger) (command : Command host) : Prop :=
  ∀ record ∈ executedRecord l command, record.state ≠ .reserved

/-- No proposal is created or expires, and an execution is stored for a reserved one. -/
def Needs {host : Host} (l : Ledger) : Command host → Prop
  | .reserve _ _ => False
  | .transition _ target => target ≠ .expired
  | .putExecution execution => Reached 1 l execution.proposalId
  | _ => True

variable {l m : Ledger}

theorem noneFallsBack_of_records (h : m.records = l.records) : NoneFallsBack l m := by
  intro n proposalId hreached
  rw [Reached, h]
  exact hreached

variable {host : Host}

theorem noneFallsBack_step {command : Command host} (hneeds : Needs l command)
    (hchange : Change command l m) : NoneFallsBack l m := by
  cases hchange with
  | same | putDecision _ | sign _ | putExecution _ | markSubmitted _ | submit =>
    exact noneFallsBack_of_records rfl
  | reserve _ _ => exact hneeds.elim
  | @transition proposalId target record moved _ hrecord hallowed hproposal hstate hsame =>
    intro n otherId hreached
    obtain ⟨other, hother, hn⟩ := hreached
    by_cases hid : otherId = proposalId
    · rw [hid, hrecord] at hother
      rw [← Option.some.inj hother] at hn
      refine ⟨moved, by rw [hid]; exact get?_set_self _ _ _, ?_⟩
      rw [hstate]
      exact hn.trans (progress_le_of_allowed hallowed hneeds)
    · exact ⟨other, by rw [get?_set_ne _ hid]; exact hother, hn⟩

theorem executionsReserved_step {command : Command host} (hinv : ExecutionsReserved l)
    (hneeds : Needs l command) (hchange : Change command l m) : ExecutionsReserved m := by
  have hkept := noneFallsBack_step hneeds hchange
  cases hchange with
  | same | reserve _ _ | transition _ _ _ _ _ | putDecision _ | sign _ | submit =>
    intro proposalId execution hexecution
    exact hkept (hinv hexecution)
  | @putExecution execution _ hnew =>
    intro otherId other hother
    rw [get?_set] at hother
    split_ifs at hother with hid
    · rw [hid]
      exact hkept hneeds
    · exact hkept (hinv hother)
  | @markSubmitted proposalId execution now _ hexecution =>
    intro otherId other hother
    rw [get?_set] at hother
    split_ifs at hother with hid
    · rw [hid]
      exact hkept (hinv hexecution)
    · exact hkept (hinv hother)

def discipline (host : Host) : Discipline host where
  invariant := ExecutionsReserved
  keeps := NoneFallsBack
  guard := FindsSigned
  needs := Needs
  keeps_refl := fun _ => noneFallsBack_of_records rfl
  keeps_trans := fun hfirst hsecond _ _ hreached => hsecond (hfirst hreached)
  step := fun hinv _ hneeds hchange =>
    ⟨executionsReserved_step hinv hneeds hchange, noneFallsBack_step hneeds hchange⟩

/-! ## The calls -/

variable {deployment : Deployment} {ρ : Type}

abbrev Kept (post : Ledger → ρ → Prop) (program : Program deployment.host ρ) (l : Ledger) : Prop :=
  (discipline deployment.host).Keeps post program l

/-- The proposal was moved on to SUBMITTED, and so says the record that is returned. -/
def Advanced (proposalId : Uuid) (l : Ledger) (record : ProposalRecord) : Prop :=
  3 ≤ progress record.state ∧ Reached 3 l proposalId

variable {proposalId : Uuid} {record : ProposalRecord}

theorem Advanced.kept (h : Advanced proposalId l record) (hkept : NoneFallsBack l m) :
    Advanced proposalId m record :=
  ⟨h.1, hkept h.2⟩

theorem Reached.progress_le {n : Nat} (h : Reached n l proposalId)
    (hrecord : l.records.get? proposalId = some record) : n ≤ progress record.state := by
  obtain ⟨other, hother, hn⟩ := h
  rw [hrecord] at hother
  rw [Option.some.inj hother]
  exact hn

theorem kept_advanceToSubmitted {register : Program deployment.host Unit}
    (hregister : ∀ l, Kept anything register l) (hsigned : Reached 2 l proposalId) :
    Kept (Advanced proposalId) (advanceToSubmitted deployment proposalId register) l := by
  refine keeps_call (fun _ _ _ _ => trivial)
    fun before m found hearlier _ _ hlater _ hfound => ?_
  refine keeps_ofExcept fun current hcurrent => ?_
  rw [orRaise_eq_ok, hfound] at hcurrent
  have hprogress := (hearlier hsigned).progress_le hcurrent
  split_ifs with hstate
  · apply keeps_bind (hregister m)
    intro m _ _ _ _
    refine keeps_call (fun _ _ _ _ => nofun) fun _ n moved _ _ _ _ _ hmoved => ?_
    have hadvanced : Advanced proposalId n moved := by
      have hthree : 3 ≤ progress moved.state := by
        rw [hmoved.1]
        decide
      exact ⟨hthree, moved, hmoved.2, hthree⟩
    exact keeps_pure fun o hkept _ => hadvanced.kept hkept
  · have hthree := submitted_le_progress hprogress hstate
    have hadvanced : Advanced proposalId m current :=
      ⟨hthree, hlater ⟨current, hcurrent, hthree⟩⟩
    exact keeps_pure fun o hkept _ => hadvanced.kept hkept

/-- The record in a result of the last part of `execute`. -/
def ReturnsAdvanced (proposalId : Uuid) (l : Ledger)
    (submitted : StoredExecutionV1 × ProposalRecord) : Prop :=
  Advanced proposalId l submitted.2

theorem kept_submitExecution (hsigned : Reached 2 l proposalId) (execution : StoredExecutionV1)
    (actor : Str) :
    Kept (ReturnsAdvanced proposalId)
      (submitExecution deployment proposalId actor execution) l := by
  refine keeps_then (fun _ => trivial) fun _ _ hsubmitted _ => ?_
  refine keeps_ofExcept fun _ _ => ?_
  refine keeps_then (fun _ => trivial) fun _ marked hmarked _ => ?_
  refine keeps_then (fun _ => trivial) fun m _ hregistered _ => ?_
  apply keeps_bind (kept_advanceToSubmitted (fun _ => keeps_pure fun _ _ _ => trivial)
    (hregistered (hmarked (hsubmitted hsigned))))
  intro m record _ _ hadvanced
  refine keeps_then (fun _ => trivial) fun n _ haudited _ => ?_
  exact keeps_pure fun o hkept _ => (hadvanced.kept haudited).kept hkept

theorem kept_resumeExecution (hsigned : Reached 2 l proposalId) (execution : StoredExecutionV1) :
    Kept (ReturnsAdvanced proposalId) (resumeExecution deployment proposalId execution) l := by
  apply keeps_bind (q := Advanced proposalId)
  · apply kept_advanceToSubmitted _ hsigned
    intro m
    exact keeps_then (fun _ => trivial) fun _ _ _ _ => keeps_pure fun _ _ _ => trivial
  · intro m record _ _ hadvanced
    exact keeps_pure fun o hkept _ => hadvanced.kept hkept

/-- The proposal has been signed for when an execution is returned. -/
def ReturnsSigned (proposalId : Uuid) (l : Ledger) (_ : StoredExecutionV1 × Bool) : Prop :=
  Reached 2 l proposalId

theorem kept_signExecution (hrecord : record.state = .reserved → Reached 1 l proposalId)
    (request : ExecutionRequest) (actor : Str) :
    Kept (ReturnsSigned proposalId) (signExecution deployment proposalId request actor record)
      l := by
  refine keeps_ofExcept fun _ hreserved => ?_
  rw [raiseIf_eq_ok, not_not] at hreserved
  refine keeps_then (fun _ => trivial) fun _ found hfound _ => ?_
  refine keeps_ofExcept fun decision _ => ?_
  refine keeps_ofExcept fun authorized _ => ?_
  refine keeps_then (fun _ => trivial) fun _ result hsigned _ => ?_
  refine keeps_then (fun _ => trivial) fun _ _ hdecision _ => ?_
  refine keeps_then (fun _ => trivial) fun m _ hwallet _ => ?_
  have hlive : Reached 1 m proposalId :=
    hwallet (hdecision (hsigned (hfound (hrecord hreserved))))
  refine keeps_call (fun _ _ _ _ => trivial)
    fun _ n candidate hearlier _ _ hlater _ hcandidate => ?_
  replace hlive := hlater (hearlier hlive)
  refine keeps_call ?_ fun _ _ stored _ _ _ _ _ _ => ?_
  · intro o hkept _ _
    have hreached := hkept hlive
    rw [← hcandidate.1] at hreached
    exact hreached
  refine keeps_ofExcept fun _ _ => ?_
  refine keeps_call (fun _ _ _ _ => nofun) fun _ o moved _ _ _ _ _ hmoved => ?_
  have hreached : Reached 2 o proposalId := by
    refine ⟨moved, hmoved.2, ?_⟩
    rw [hmoved.1]
    decide
  refine keeps_then (fun _ => trivial) fun _ _ haudited _ => ?_
  exact keeps_pure fun _ hkept _ => hkept (haudited hreached)

/-- A response says that the proposal was moved on. -/
def ReturnsSettleable (l : Ledger) (response : ExecutionResponse) : Prop :=
  3 ≤ progress response.state ∧ Reached 3 l response.proposalId

theorem kept_execute (proposalId : Uuid) (request : ExecutionRequest) (actor : Str) (l : Ledger) :
    Kept ReturnsSettleable (execute deployment proposalId request actor) l := by
  refine keeps_call (fun _ _ _ _ => trivial) fun before m found _ _ _ hread _ hfound => ?_
  refine keeps_ofExcept fun record hrecord => ?_
  rw [orRaise_eq_ok, hfound] at hrecord
  refine keeps_ofExcept fun _ _ => ?_
  refine keeps_ofExcept fun _ _ => ?_
  refine keeps_ofExcept fun _ _ => ?_
  refine keeps_call (fun _ _ _ _ => trivial)
    fun n o existing hbetween hinv hguard hlater _ hexisting => ?_
  apply keeps_bind (q := ReturnsSigned proposalId)
  · cases existing with
    | none =>
      apply kept_signExecution
      intro hreserved
      have hlive : Reached 1 before proposalId := by
        refine ⟨record, hrecord, ?_⟩
        rw [hreserved]
        decide
      exact hlater (hbetween (hread hlive))
    | some execution =>
      obtain ⟨current, hcurrent, hlive⟩ := hinv hexisting.symm
      have hfinds : executedRecord n (.getExecution proposalId : Command deployment.host) =
          some current := by
        rw [executedRecord, ← hexisting, Option.isSome_some, if_pos rfl, hcurrent]
      have hsigned : Reached 2 n proposalId :=
        ⟨current, hcurrent, signed_le_progress hlive (hguard current hfinds)⟩
      refine keeps_ofExcept fun _ _ => ?_
      exact keeps_pure fun _ hkept _ => hkept (hlater hsigned)
  intro m stored _ _ hsigned
  apply keeps_bind (q := ReturnsAdvanced proposalId)
  · cases stored.1.submittedAt with
    | none => exact kept_submitExecution hsigned stored.1 actor
    | some _ => exact kept_resumeExecution hsigned stored.1
  · intro m submitted _ _ hadvanced
    exact keeps_pure fun o hkept _ => hadvanced.kept hkept

/-- The calls that execute proposals, and the reconciler. -/
def executes : ServiceCall → Bool
  | .execute _ _ _ => true
  | .reconcile _ _ => true
  | .submit _ _ => false
  | .createPolicy _ _ => false
  | .approvePolicy _ _ => false
  | .activatePolicy _ _ => false

def Settleable (l : Ledger) : Response → Prop
  | .execution response => ReturnsSettleable l response
  | .submission _ => True
  | .done => True

theorem kept_serviceProgram {request : ServiceCall} (hrequest : executes request = true)
    (l : Ledger) : Kept Settleable (serviceProgram deployment request) l := by
  cases request with
  | execute proposalId request actor =>
    apply keeps_bind (kept_execute proposalId request actor l)
    intro m response _ _ hsettleable
    exact keeps_pure fun o hkept _ => ⟨hsettleable.1, hkept hsettleable.2⟩
  | reconcile proposalId success =>
    apply keeps_then
    · intro m
      cases success
      · exact nofun
      · exact nofun
    · intro m record _ _
      exact keeps_pure fun _ _ _ => trivial
  | submit _ _ | createPolicy _ _ | approvePolicy _ _ | activatePolicy _ _ => cases hrequest

/-! ## Every run -/

theorem executionsReserved_of_keys {start : Service host}
    (hstart : start.artifacts.executions.keys = []) : ExecutionsReserved (ledger start) := by
  intro proposalId execution hexecution
  have hkey := mem_keys_of_get? hexecution
  have hkeys : (ledger start).executions.keys = [] := hstart
  rw [hkeys] at hkey
  cases hkey

/-- Whatever calls fail or stop, and wherever: as long as none finds the execution of a
proposal that is still RESERVED, a call that returns leaves the proposal where the reconciler
can settle it. -/
theorem execution_settleable {start : Service deployment.host}
    (hstart : start.artifacts.executions.keys = [])
    {trace : List (Label ServiceCall Outcome)} {config : ServiceConfig deployment}
    (hrun : Run (ServiceStep deployment (fun request => executes request = true)
      fun service command => FindsSigned (ledger service) command) ⟨start, []⟩ trace config)
    {response : ExecutionResponse} (hresponse : .execution response ∈ config.results) :
    response.state ∈ settleable ∧
      ∃ record, config.shared.state.get response.proposalId = some record ∧
        record.state ∈ settleable := by
  have hpost := (run_keeps (discipline deployment.host) Settleable
    (fun request hrequest l _ => kept_serviceProgram hrequest l)
    (executionsReserved_of_keys hstart) hrun).2 _ hresponse
  obtain ⟨hreturned, record, hrecord, hreached⟩ := hpost
  exact ⟨mem_settleable hreturned, record, hrecord, mem_settleable hreached⟩

open SignedEffect AttestationSoundness BudgetSafety

instance {host : Host} (l : Ledger) (command : Command host) :
    Decidable (FindsSigned l command) := by
  delta FindsSigned
  infer_instance

/-- The service once the transfer was submitted and allowed. -/
def reservedService : Service sampleDeployment.host :=
  (configAfter sampleService
    (.start (.submit sampleTransfer "agent".toList) :: advances 0 6)).shared

/-- An `execute` call that stops after some of its commands, and one that is let run. -/
def stoppedAfter (count : Nat) : List (Label ServiceCall Outcome) :=
  .start (.execute sampleProposalId sampleExecution researcher) :: advances 0 count ++
    .crash 0 :: .start (.execute sampleProposalId sampleExecution researcher) :: advances 0 8

/-- The response of the second call, with the record as it leaves it. -/
def secondResponse (state : LifecycleState) (stateVersion : Nat) : ExecutionResponse where
  proposalId := sampleProposalId
  transactionId := firstReservation
  state := state
  stateVersion := stateVersion
  signingHash := honestEvidence.signingHash
  transactionHash := honestEvidence.transactionHash
  signerIdentity := enclaveAddress
  submitted := true
  created := false

/-- The first call stops after it has moved the proposal to SIGNED. -/
theorem stoppedAfterSigned_settleable :
    .execution (secondResponse .submitted 3) ∈
        (configAfter reservedService (stoppedAfter 9)).results ∧
      ∃ record, (configAfter reservedService (stoppedAfter 9)).shared.state.get
          sampleProposalId = some record ∧ record.state ∈ settleable := by
  have hfacts : reservedService.artifacts.executions.keys = [] ∧
      SampleFollows (fun request => executes request = true)
        (fun service command => FindsSigned (ledger service) command) reservedService
        (stoppedAfter 9) ∧
      .execution (secondResponse .submitted 3) ∈
        (configAfter reservedService (stoppedAfter 9)).results := by
    decide +kernel
  obtain ⟨hstart, hfollows, hresponse⟩ := hfacts
  exact ⟨hresponse, (execution_settleable hstart hfollows.run hresponse).2⟩

/-- The first call stops between storing the execution and moving the proposal to SIGNED.
The second one submits the transaction, says so, and leaves the proposal RESERVED. -/
theorem stoppedAfterStored_reserved :
    reservedService.artifacts.executions.keys = [] ∧
      Run (ServiceStep sampleDeployment (fun request => executes request = true) fun _ _ => True)
        ⟨reservedService, []⟩ (stoppedAfter 8) (configAfter reservedService (stoppedAfter 8)) ∧
      .execution (secondResponse .reserved 1) ∈
        (configAfter reservedService (stoppedAfter 8)).results ∧
      (configAfter reservedService (stoppedAfter 8)).shared.submissions.length = 1 ∧
      ((configAfter reservedService (stoppedAfter 8)).shared.state.get sampleProposalId).map
        ProposalRecord.state = some .reserved := by
  exact ⟨by decide +kernel, SampleFollows.run (by decide +kernel), by decide +kernel⟩

end AegisLedger.Gateway.ExecutionRecovery
