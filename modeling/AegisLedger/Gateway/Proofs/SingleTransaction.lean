import AegisLedger.Gateway.Proofs.ServiceLedger

/-!
# One signed transaction for each proposal

Decisions are first-wins and never replaced, so every request that the signer gets for a
proposal carries the same decision, and the signer answers one of them.  What is stored or
submitted for the proposal is what the signer produced then.
-/

namespace AegisLedger.Gateway.SingleTransaction

open AegisLedger.Support HexText Checks Dict Threads
open ServiceLedger Discipline

/-- The signer has produced this transaction for the proposal. -/
def Produced (l : Ledger) (proposalId : Uuid) (raw : Str) : Prop :=
  ∃ entry ∈ l.signed, entry.1.proposal.proposalId.val = proposalId ∧
    prefixedHex entry.2.signedTransaction = raw

variable {l : Ledger} {proposalId : Uuid} {raw : Str}

theorem Produced.grows {m : Ledger} (h : Produced l proposalId raw) (hgrows : Grows l m) :
    Produced m proposalId raw := by
  obtain ⟨entry, hentry, hid, hraw⟩ := h
  exact ⟨entry, hgrows.signed hentry, hid, hraw⟩

structure OneTransaction (l : Ledger) : Prop where
  keyed : Keyed l
  decided : ∀ {entry}, entry ∈ l.signed →
    l.decisions.get? entry.1.proposal.proposalId.val = some entry.1.decision
  once : (decisionNonces l.signed).Nodup
  stored : ∀ {proposalId execution}, l.executions.get? proposalId = some execution →
    Produced l proposalId execution.rawTransaction
  submitted : ∀ {proposalId submission}, (proposalId, submission) ∈ l.submissions →
    Produced l proposalId submission.rawTransaction

/-- Of two requests for a proposal that the signer has answered, both are the same one. -/
theorem OneTransaction.produced_unique (h : OneTransaction l) {other : Str}
    (hraw : Produced l proposalId raw) (hother : Produced l proposalId other) : raw = other := by
  obtain ⟨entry, hentry, hid, rfl⟩ := hraw
  obtain ⟨entry', hentry', hid', rfl⟩ := hother
  have hdecision : entry.1.decision = entry'.1.decision := by
    have hfirst := h.decided hentry
    rw [hid, ← hid', h.decided hentry'] at hfirst
    exact (Option.some.inj hfirst).symm
  have hsame : entry = entry' :=
    List.inj_on_of_nodup_map h.once hentry hentry' (by rw [hdecision])
  rw [hsame]

/-- What a command needs: the signer is asked with the decision of the proposal, and what is
stored or submitted was produced for it. -/
def Needs {host : Host} (l : Ledger) : Command host → Prop
  | .sign authorization =>
    l.decisions.get? authorization.proposal.proposalId.val = some authorization.decision
  | .putExecution execution => Produced l execution.proposalId execution.rawTransaction
  | .submit proposalId submission => Produced l proposalId submission.rawTransaction
  | _ => True

variable {host : Host}

theorem oneTransaction_step {m : Ledger} {command : Command host} (hinv : OneTransaction l)
    (hneeds : Needs l command) (hchange : Change command l m) : OneTransaction m := by
  have hgrows := hchange.grows
  have hkeyed := hchange.keyed hinv.keyed
  cases hchange with
  | same => exact hinv
  | reserve _ _ | transition _ _ _ _ _ =>
    exact ⟨hkeyed, hinv.decided, hinv.once, hinv.stored, hinv.submitted⟩
  | putDecision hnew =>
    refine ⟨hkeyed, ?_, hinv.once, hinv.stored, hinv.submitted⟩
    intro entry hentry
    exact hgrows.decisions (hinv.decided hentry)
  | @sign authorization result _ hnew =>
    refine ⟨hkeyed, ?_, ?_, ?_, ?_⟩
    · intro entry hentry
      rcases List.mem_append.mp hentry with hold | hlast
      · exact hinv.decided hold
      · rw [List.mem_singleton.mp hlast]
        exact hneeds
    · rw [decisionNonces, List.map_append, List.nodup_append]
      refine ⟨hinv.once, by simp, ?_⟩
      intro nonce hnonce last hlast heq
      rw [List.map_singleton, List.mem_singleton] at hlast
      rw [heq, hlast] at hnonce
      exact hnew hnonce
    · intro proposalId execution hget
      exact (hinv.stored hget).grows hgrows
    · intro proposalId submission hmem
      exact (hinv.submitted hmem).grows hgrows
  | @putExecution execution _ hnew =>
    refine ⟨hkeyed, hinv.decided, hinv.once, ?_, hinv.submitted⟩
    intro otherId other hother
    rw [get?_set] at hother
    split_ifs at hother with hid
    · rw [← Option.some.inj hother, hid]
      exact hneeds
    · exact hinv.stored hother
  | @markSubmitted proposalId execution now _ hexecution =>
    refine ⟨hkeyed, hinv.decided, hinv.once, ?_, hinv.submitted⟩
    intro otherId other hother
    rw [get?_set] at hother
    split_ifs at hother with hid
    · have hproduced : Produced l proposalId execution.rawTransaction := hinv.stored hexecution
      rw [← Option.some.inj hother, hid]
      exact hproduced
    · exact hinv.stored hother
  | @submit proposalId submission _ =>
    refine ⟨hkeyed, hinv.decided, hinv.once, hinv.stored, ?_⟩
    intro otherId other hother
    rcases List.mem_append.mp hother with hold | hlast
    · exact hinv.submitted hold
    · rw [List.mem_singleton, Prod.mk.injEq] at hlast
      rw [hlast.1, hlast.2]
      exact hneeds

def discipline (host : Host) : Discipline host where
  invariant := OneTransaction
  keeps := Grows
  guard := fun _ _ => True
  needs := Needs
  keeps_refl := Grows.refl
  keeps_trans := Grows.trans
  step := fun hinv _ hneeds hchange => ⟨oneTransaction_step hinv hneeds hchange, hchange.grows⟩

/-! ## The calls -/

variable {deployment : Deployment} {ρ : Type}

abbrev Kept (post : Ledger → ρ → Prop) (program : Program deployment.host ρ) (l : Ledger) : Prop :=
  (discipline deployment.host).Keeps post program l

theorem kept_issueDecision (record : ProposalRecord) (version : PolicyVersion deployment.host)
    (actor : Str) (l : Ledger) : Kept anything (issueDecision record version actor) l := by
  refine keeps_then (fun _ => trivial) fun _ candidate _ _ => ?_
  refine keeps_then (fun _ => trivial) fun _ stored _ _ => ?_
  split_ifs
  · refine keeps_then (fun _ => trivial) fun _ _ _ _ => ?_
    exact keeps_pure fun _ _ _ => trivial
  · exact keeps_pure fun _ _ _ => trivial

theorem kept_submit (proposal : ProposalV1) (actor : Str) (l : Ledger) :
    Kept anything (submit proposal actor : Program deployment.host SubmissionResponse) l := by
  refine keeps_then (fun _ => trivial) fun _ version _ _ => ?_
  refine keeps_then (fun _ => trivial) fun _ result _ _ => ?_
  refine keeps_then (fun _ => trivial) fun m existing _ _ => ?_
  apply keeps_bind (q := anything)
  · cases existing with
    | some decision => exact keeps_pure fun _ _ _ => trivial
    | none => exact kept_issueDecision result.record version actor m
  · intro m decision _ _ _
    exact keeps_pure fun _ _ _ => trivial

/-- The transaction of the execution that a program returns was produced. -/
def returnsProduced (proposalId : Uuid) (l : Ledger) (stored : StoredExecutionV1 × Bool) : Prop :=
  Produced l proposalId stored.1.rawTransaction

theorem kept_requireMatch {request : ExecutionRequest} {execution : StoredExecutionV1}
    {post : Ledger → ρ → Prop} {rest : Unit → Program deployment.host ρ}
    (h : Kept post (rest ()) l) :
    Kept post (requireMatch deployment request execution >>= rest) l :=
  keeps_ofExcept fun _ _ => h

theorem kept_signExecution {record : ProposalRecord}
    (hkeyed : record.proposal.proposalId.val = proposalId) (request : ExecutionRequest)
    (actor : Str) (l : Ledger) :
    Kept (returnsProduced proposalId) (signExecution deployment proposalId request actor record)
      l := by
  refine keeps_ofExcept fun _ _ => ?_
  refine keeps_call (fun _ _ _ _ => trivial) fun before l found _ _ _ hgrows _ hfound => ?_
  refine keeps_ofExcept fun decision hdecision => ?_
  have hdecided : l.decisions.get? proposalId = some decision := by
    rw [orRaise_eq_ok, hfound] at hdecision
    exact hgrows.decisions hdecision
  refine keeps_ofExcept fun authorized hauthorized => ?_
  have hbuilt := Authorizations.authorizes_of_authorization hauthorized
  have hproposal := hbuilt.proposal
  obtain rfl := hbuilt.token
  have hid : authorized.proposal.proposalId.val = proposalId := by
    rw [hproposal]
    exact hkeyed
  refine keeps_call ?_ fun _ l result _ _ _ _ _ hsigned => ?_
  · intro m hlater _ _
    have hpresent := Grows.decisions hlater hdecided
    rw [← hid] at hpresent
    exact hpresent
  have hproduced : Produced l proposalId (prefixedHex result.signedTransaction) :=
    ⟨_, hsigned, hid, rfl⟩
  refine keeps_then (fun _ => trivial) fun m _ hlater _ => ?_
  replace hproduced := hproduced.grows hlater
  refine keeps_then (fun _ => trivial) fun m _ hlater _ => ?_
  replace hproduced := hproduced.grows hlater
  refine keeps_call (fun _ _ _ _ => trivial)
    fun _ m candidate hearlier _ _ hlater _ hcandidate => ?_
  replace hproduced := hproduced.grows (hearlier.trans hlater)
  rw [← hcandidate.1, ← hcandidate.2] at hproduced
  refine keeps_call ?_ fun _ m stored _ _ _ _ hinv hstored => ?_
  · intro m hlater _ _
    exact hproduced.grows hlater
  have hreturned : Produced m proposalId stored.1.rawTransaction := by
    rw [← hcandidate.1]
    exact hinv.stored hstored
  apply kept_requireMatch
  refine keeps_then (fun _ => trivial) fun _ _ hmoved _ => ?_
  refine keeps_then (fun _ => trivial) fun _ _ haudited _ => ?_
  exact keeps_pure fun n hlater _ => hreturned.grows ((hmoved.trans haudited).trans hlater)

theorem kept_advanceToSubmitted {register : Program deployment.host Unit}
    (hregister : ∀ l, Kept anything register l) (l : Ledger) :
    Kept anything (advanceToSubmitted deployment proposalId register) l := by
  refine keeps_then (fun _ => trivial) fun m found _ _ => ?_
  refine keeps_ofExcept fun current _ => ?_
  split_ifs
  · apply keeps_bind (hregister m)
    intro m _ _ _ _
    refine keeps_then (fun _ => trivial) fun _ _ _ _ => ?_
    exact keeps_pure fun _ _ _ => trivial
  · exact keeps_pure fun _ _ _ => trivial

theorem kept_submitExecution {execution : StoredExecutionV1}
    (hproduced : Produced l proposalId execution.rawTransaction) (actor : Str) :
    Kept anything (submitExecution deployment proposalId actor execution) l := by
  refine keeps_call ?_ fun _ m transactionHash _ _ _ _ _ _ => ?_
  · intro m hlater _ _
    exact hproduced.grows hlater
  refine keeps_ofExcept fun _ _ => ?_
  refine keeps_then (fun _ => trivial) fun _ marked _ _ => ?_
  refine keeps_then (fun _ => trivial) fun m _ _ _ => ?_
  apply keeps_bind (kept_advanceToSubmitted (fun _ => keeps_pure fun _ _ _ => trivial) m)
  intro m record _ _ _
  refine keeps_then (fun _ => trivial) fun _ _ _ _ => ?_
  exact keeps_pure fun _ _ _ => trivial

theorem kept_resumeExecution (proposalId : Uuid) (execution : StoredExecutionV1) (l : Ledger) :
    Kept anything (resumeExecution deployment proposalId execution) l := by
  apply keeps_bind (q := anything)
  · apply kept_advanceToSubmitted
    intro m
    exact keeps_then (fun _ => trivial) fun _ _ _ _ => keeps_pure fun _ _ _ => trivial
  · intro m record _ _ _
    exact keeps_pure fun _ _ _ => trivial

theorem kept_execute (proposalId : Uuid) (request : ExecutionRequest) (actor : Str) (l : Ledger) :
    Kept anything (execute deployment proposalId request actor) l := by
  refine keeps_call (fun _ _ _ _ => trivial) fun before l found _ hinv _ _ _ hfound => ?_
  refine keeps_ofExcept fun record hrecord => ?_
  have hkeyed : record.proposal.proposalId.val = proposalId := by
    rw [orRaise_eq_ok, hfound] at hrecord
    exact hinv.keyed hrecord
  refine keeps_ofExcept fun _ _ => ?_
  refine keeps_ofExcept fun _ _ => ?_
  refine keeps_ofExcept fun _ _ => ?_
  refine keeps_call (fun _ _ _ _ => trivial)
    fun before l existing _ hinv _ hgrows _ hexisting => ?_
  apply keeps_bind (q := returnsProduced proposalId)
  · cases existing with
    | none => exact kept_signExecution hkeyed request actor l
    | some execution =>
      have hproduced : Produced l proposalId execution.rawTransaction :=
        (hinv.stored hexisting.symm).grows hgrows
      apply kept_requireMatch
      exact keeps_pure fun m hlater _ => hproduced.grows hlater
  intro m stored _ _ hproduced
  apply keeps_bind (q := anything)
  · cases stored.1.submittedAt with
    | none => exact kept_submitExecution hproduced actor
    | some _ => exact kept_resumeExecution proposalId stored.1 m
  · intro m submitted _ _ _
    exact keeps_pure fun _ _ _ => trivial

theorem kept_commandCall {command : Command deployment.host} (hneeds : ∀ l, Needs l command)
    (l : Ledger) : Kept anything (commandCall command) l :=
  keeps_then hneeds fun _ _ _ _ => keeps_pure fun _ _ _ => trivial

theorem kept_serviceProgram (request : ServiceCall) (l : Ledger) :
    Kept anything (serviceProgram deployment request) l := by
  cases request with
  | submit proposal actor =>
    apply keeps_bind (kept_submit proposal actor l)
    intro m response _ _ _
    exact keeps_pure fun _ _ _ => trivial
  | execute proposalId request actor =>
    apply keeps_bind (kept_execute proposalId request actor l)
    intro m response _ _ _
    exact keeps_pure fun _ _ _ => trivial
  | createPolicy _ _ | approvePolicy _ _ | activatePolicy _ _ | reconcile _ _ =>
    apply kept_commandCall
    intro m
    trivial

/-! ## Every run -/

theorem oneTransaction_new (policies : PolicyRegistry host) (now : Datetime) :
    OneTransaction (ledger (Service.new policies now)) where
  keyed := by
    intro proposalId record hrecord
    cases hrecord
  decided := by
    intro entry hentry
    cases hentry
  once := List.nodup_nil
  stored := by
    intro proposalId execution hexecution
    cases hexecution
  submitted := by
    intro proposalId submission hsubmission
    cases hsubmission

/-- The transactions that the signer has produced, that are stored, and that were submitted
for a proposal. -/
def transactionsOf {host : Host} (service : Service host) (proposalId : Uuid) : List Str :=
  (service.signed.filter fun entry => entry.1.proposal.proposalId.val = proposalId).map
      (fun entry => prefixedHex entry.2.signedTransaction) ++
    (service.artifacts.getExecution proposalId).toList.map
      (fun execution => execution.rawTransaction.val) ++
    (service.submissions.filter fun entry => entry.1 = proposalId).map
      (fun entry => entry.2.rawTransaction)

theorem produced_of_mem_transactionsOf {service : Service host}
    (h : OneTransaction (ledger service)) (hmem : raw ∈ transactionsOf service proposalId) :
    Produced (ledger service) proposalId raw := by
  rw [transactionsOf, List.mem_append, List.mem_append] at hmem
  rcases hmem with (hsigned | hstored) | hsubmitted
  · obtain ⟨entry, hentry, rfl⟩ := List.mem_map.mp hsigned
    obtain ⟨hentry, hid⟩ := List.mem_filter.mp hentry
    exact ⟨entry, hentry, of_decide_eq_true hid, rfl⟩
  · obtain ⟨execution, hexecution, rfl⟩ := List.mem_map.mp hstored
    exact h.stored (Option.mem_toList.mp hexecution)
  · obtain ⟨⟨otherId, submission⟩, hentry, rfl⟩ := List.mem_map.mp hsubmitted
    obtain ⟨hentry, hid⟩ := List.mem_filter.mp hentry
    rw [← of_decide_eq_true hid]
    exact h.submitted hentry

/-- At most one signed transaction is ever produced, stored or submitted for a proposal,
however the calls of any number of processes interleave and wherever they stop. -/
theorem transactionsOf_unique {policies : PolicyRegistry deployment.host} {now : Datetime}
    {trace : List (Label ServiceCall Outcome)} {config : ServiceConfig deployment}
    (hrun : Run (ServiceStep deployment (fun _ => True) fun _ _ => True)
      ⟨Service.new policies now, []⟩ trace config)
    {proposalId : Uuid} {raw other : Str} (hraw : raw ∈ transactionsOf config.shared proposalId)
    (hother : other ∈ transactionsOf config.shared proposalId) : raw = other := by
  have hinv := (run_keeps (discipline deployment.host) anything
    (fun request _ l _ => kept_serviceProgram request l) (oneTransaction_new policies now) hrun).1
  exact hinv.produced_unique (produced_of_mem_transactionsOf hinv hraw)
    (produced_of_mem_transactionsOf hinv hother)

open SignedEffect AttestationSoundness

def otherExecution : ExecutionRequest := { sampleExecution with gasLimit := 30000 }

/-- The transfer is submitted; two calls with different gas limits both find it unsigned, and
the signer refuses the second one. -/
def racingTrace : List (Label ServiceCall Outcome) :=
  .start (.submit sampleTransfer "agent".toList) :: advances 0 6 ++
    .start (.execute sampleProposalId sampleExecution researcher) ::
    .start (.execute sampleProposalId otherExecution researcher) ::
    advances 1 3 ++ advances 2 3 ++ advances 1 1 ++ advances 2 1 ++ advances 1 12

def racingConfig : ServiceConfig sampleDeployment := configAfter sampleService racingTrace

/-- The transfer is signed, stored and submitted, each time as the same transaction. -/
theorem racingConfig_singleTransaction :
    transactionsOf racingConfig.shared sampleProposalId =
        List.replicate 3 honestAttestation.signedTransaction.rawTransaction.val ∧
      ∀ raw ∈ transactionsOf racingConfig.shared sampleProposalId,
        raw = honestAttestation.signedTransaction.rawTransaction.val := by
  have hfacts : SampleFollows (fun _ => True) (fun _ _ => True) sampleService racingTrace ∧
      transactionsOf racingConfig.shared sampleProposalId =
        List.replicate 3 honestAttestation.signedTransaction.rawTransaction.val := by
    decide +kernel
  obtain ⟨hfollows, hall⟩ := hfacts
  have hsigned : honestAttestation.signedTransaction.rawTransaction.val ∈
      transactionsOf racingConfig.shared sampleProposalId := by
    rw [hall]
    exact List.mem_cons_self
  exact ⟨hall, fun raw hraw => transactionsOf_unique hfollows.run hraw hsigned⟩

end AegisLedger.Gateway.SingleTransaction
