import AegisLedger.Gateway.Proofs.ExecutionRecovery
import AegisLedger.Gateway.Proofs.SettlementTotals

/-!
# Settlement status and lifecycle

`execute` registers a transaction before it moves the proposal to SUBMITTED, and a poll marks
a transaction complete whether or not it moved the proposal.  A poll that reads the record in
between, or after another poll has moved it the other way, completes the transaction and
leaves the proposal where it is.  Polls that read a record which is SUBMITTED, or already
where the receipt would move it, keep the two stores in agreement under every interleaving.
-/

namespace AegisLedger.Gateway.SettlementAgreement

open AegisLedger.Support Checks Dict Threads
open ServiceLedger SettlementTotals

def stateOf (store : MemoryStateStore) (proposalId : Uuid) : Option LifecycleState :=
  (store.get proposalId).map (·.state)

/-- The lifecycle state that a completed transaction stands for. -/
def completedState : SettlementStatus → Option LifecycleState
  | .pending => none
  | .settled => some .settled
  | .reverted => some .reverted

/-- A transaction that is SETTLED or REVERTED has a proposal in that state. -/
def SettlementsAgree {host : Host} (service : Service host) : Prop :=
  ∀ tracked ∈ service.settlements.transactions.values, ∀ target ∈ completedState tracked.status,
    stateOf service.state tracked.proposalId = some target

/-! ## What commands keep -/

/-- What is SETTLED or REVERTED stays so, and what is tracked stays tracked. -/
structure Keeps {host : Host} (before after : Service host) : Prop where
  tracked : Extends before.settlements after.settlements
  terminal : ∀ {proposalId target}, Terminal target →
    stateOf before.state proposalId = some target → stateOf after.state proposalId = some target

theorem Keeps.refl {host : Host} (service : Service host) : Keeps service service :=
  ⟨fun _ _ h => h, fun _ h => h⟩

theorem Keeps.trans {host : Host} {s t u : Service host} (hfirst : Keeps s t)
    (hsecond : Keeps t u) : Keeps s u :=
  ⟨fun _ _ h => hsecond.tracked (hfirst.tracked h),
    fun hterminal h => hsecond.terminal hterminal (hfirst.terminal hterminal h)⟩

/-- The invariant of the shared state. -/
structure Agreed {host : Host} (service : Service host) : Prop where
  keyed : Keyed service.settlements
  agree : SettlementsAgree service

def protocol {host : Host} {ρ : Type} (post : Service host → ρ → Prop) :
    Protocol (Service host) ρ where
  invariant := Agreed
  keeps := Keeps
  post := post
  keeps_refl := Keeps.refl
  keeps_trans := Keeps.trans

theorem stateOf_eq {store : MemoryStateStore} {proposalId : Uuid} {target : LifecycleState} :
    stateOf store proposalId = some target ↔
      ∃ record, store.records.get? proposalId = some record ∧ record.state = target := by
  rw [stateOf, MemoryStateStore.get, Option.map_eq_some_iff]

/-- A record is written under a state that the old one could move to. -/
theorem terminal_set {records : Dict Uuid ProposalRecord} {proposalId otherId : Uuid}
    {record moved : ProposalRecord} {target : LifecycleState} (hterminal : Terminal target)
    (hrecord : records.get? proposalId = some record)
    (hallowed : moved.state ∈ allowedTransitions record.state)
    (h : ∃ old, records.get? otherId = some old ∧ old.state = target) :
    ∃ new, (records.set proposalId moved).get? otherId = some new ∧ new.state = target := by
  obtain ⟨old, hold, hstate⟩ := h
  refine ⟨old, ?_, hstate⟩
  rw [get?_set_ne]
  · exact hold
  · rintro rfl
    rw [hrecord, Option.some.injEq] at hold
    rw [hold, hstate] at hallowed
    rcases hterminal with rfl | rfl <;> cases hallowed

section Agreement

variable {host : Host} {service after : Service host}

/-- The statuses stay, and so do the states that they stand for. -/
theorem agree_of_keeps (hagree : SettlementsAgree service) (hkeeps : Keeps service after)
    (hstatus : ∀ tracked ∈ after.settlements.transactions.values, tracked.status = .pending ∨
      ∃ old ∈ service.settlements.transactions.values,
        old.status = tracked.status ∧ old.proposalId = tracked.proposalId) :
    SettlementsAgree after := by
  intro tracked htracked target htarget
  rcases hstatus tracked htracked with hpending | ⟨old, hold, hsame, hproposal⟩
  · rw [hpending] at htarget
    cases htarget
  · rw [← hsame] at htarget
    have hterminal : Terminal target := by
      revert htarget
      cases old.status with
      | pending => exact nofun
      | settled => exact fun h => Or.inl (Option.some.inj h).symm
      | reverted => exact fun h => Or.inr (Option.some.inj h).symm
    rw [← hproposal]
    exact hkeeps.terminal hterminal (hagree old hold target htarget)

theorem mem_values {settlements : MemorySettlementStore} {tracked : TrackedTransaction} :
    tracked ∈ settlements.transactions.values ↔
      ∃ transactionHash, settlements.transactions.get? transactionHash = some tracked := by
  constructor
  · intro h
    obtain ⟨entry, hentry, rfl⟩ := List.mem_map.mp h
    exact ⟨entry.1, get?_of_mem_entries hentry⟩
  · rintro ⟨transactionHash, hget⟩
    exact List.mem_map.mpr ⟨_, mem_entries_of_get? hget, rfl⟩

/-- A new transaction is pending, and the others are as they were. -/
theorem status_of_register {settlements later : MemorySettlementStore} {transactionHash : Str}
    {proposalId : Uuid} {chainId : Nat}
    (h : settlements.register transactionHash proposalId chainId = .ok later)
    {tracked : TrackedTransaction} (htracked : tracked ∈ later.transactions.values) :
    tracked.status = .pending ∨ tracked ∈ settlements.transactions.values := by
  unfold MemorySettlementStore.register at h
  split at h
  · split_ifs at h
    rw [pure_eq_ok] at h
    rw [h]
    exact Or.inr htracked
  · rw [raiseIf_bind_eq_ok, pure_eq_ok] at h
    rw [← h.2] at htracked
    obtain ⟨otherHash, hget⟩ := mem_values.mp htracked
    rw [get?_set] at hget
    split_ifs at hget
    · rw [← Option.some.inj hget]
      exact Or.inl rfl
    · exact Or.inr (mem_values.mpr ⟨otherHash, hget⟩)

end Agreement

/-! ## The commands of `execute` -/

/-- `execute` reserves nothing. -/
def reservesNothing {host : Host} : Command host → Prop
  | .reserve _ _ => False
  | _ => True

section Execute

variable {deployment : Deployment}

theorem terminal_of_change {command : Command deployment.host}
    {service after : Service deployment.host} (hcommand : reservesNothing command)
    (h : Change command (ledger service) (ledger after)) {proposalId : Uuid}
    {target : LifecycleState} (hterminal : Terminal target)
    (hbefore : stateOf service.state proposalId = some target) :
    stateOf after.state proposalId = some target := by
  rw [stateOf_eq] at hbefore ⊢
  have hrecords : (ledger after).records = after.state.records := rfl
  generalize ledger after = l at h hrecords
  rw [← hrecords]
  cases h with
  | same | putDecision | sign | putExecution | markSubmitted | submit => exact hbefore
  | reserve record hnew => exact hcommand.elim
  | transition hrecord hallowed _ hstate _ =>
    exact terminal_set hterminal hrecord (hstate ▸ hallowed) hbefore

theorem settlements_settleCall {α β ε : Type} (wrap : ε → ServiceError)
    (service : Service deployment.host) (put : β → Service deployment.host)
    (x : Except ε (α × β)) (hput : ∀ after, (put after).settlements = service.settlements) :
    (settleCall wrap service put x).2.settlements = service.settlements := by
  cases x with
  | error error => rfl
  | ok result => exact hput result.2

/-- The settlement store is written by `register` only. -/
theorem settlements_perform (outcome : Outcome) (service : Service deployment.host)
    (command : Command deployment.host) :
    (service.perform deployment outcome command).2.settlements = service.settlements ∨
      ∃ transactionHash proposalId chainId later,
        service.settlements.register transactionHash proposalId chainId = .ok later ∧
        (service.perform deployment outcome command).2.settlements = later := by
  cases command with
  | registerSettlement transactionHash proposalId chainId =>
    rw [Service.perform]
    rcases settleCall_cases ServiceError.valueError service
      (fun settlements => { service with settlements })
      ((service.settlements.register transactionHash proposalId chainId).map
        fun settlements => ((), settlements)) with ⟨_, h⟩ | ⟨_, later, hregister, h⟩
    · rw [h]
      exact Or.inl rfl
    · obtain ⟨settlements, hok, heq⟩ := map_eq_ok hregister
      rw [h]
      exact Or.inr ⟨transactionHash, proposalId, chainId, settlements, hok,
        (Prod.mk.inj heq).2.symm⟩
  | reserve proposal policy =>
    rw [Service.perform]
    split <;> exact Or.inl rfl
  | sign authorization =>
    rw [Service.perform]
    cases outcome.signer with
    | refuses => exact Or.inl rfl
    | signs result delivered =>
      rw [Service.sign]
      split_ifs <;> exact Or.inl rfl
  | activePolicy | getRecord _ | issue _ _ | getDecision _ | putDecision _ _ | fromSigner _ _ _
  | getExecution _ | putExecution _ | submit _ _ => exact Or.inl rfl
  | createPolicy _ _ | approvePolicy _ _ | activatePolicy _ _ | transition _ _
  | registerDecisionNonce _ | registerWalletNonce _ _ _ | markSubmitted _
  | appendAudit _ _ _ _ =>
    exact Or.inl (settlements_settleCall _ _ _ _ fun _ => rfl)

theorem agreed_perform (outcome : Outcome) (service : Service deployment.host)
    (command : Command deployment.host) (hcommand : reservesNothing command)
    (hagreed : Agreed service) :
    Agreed (service.perform deployment outcome command).2 ∧
      Keeps service (service.perform deployment outcome command).2 := by
  have hterminal : ∀ {proposalId target}, Terminal target →
      stateOf service.state proposalId = some target →
      stateOf (service.perform deployment outcome command).2.state proposalId = some target :=
    terminal_of_change hcommand (change_perform outcome service command)
  rcases settlements_perform outcome service command with
    hsame | ⟨transactionHash, proposalId, chainId, later, hregister, hlater⟩
  · have hkeeps : Keeps service (service.perform deployment outcome command).2 :=
      ⟨fun _ _ h => hsame ▸ h, hterminal⟩
    refine ⟨⟨hsame ▸ hagreed.keyed, agree_of_keeps hagreed.agree hkeeps ?_⟩, hkeeps⟩
    intro tracked htracked
    rw [hsame] at htracked
    exact Or.inr ⟨tracked, htracked, rfl, rfl⟩
  · obtain ⟨hkeyed, hextends⟩ := kept_register hagreed.keyed hregister
    have hkeeps : Keeps service (service.perform deployment outcome command).2 :=
      ⟨hlater ▸ hextends, hterminal⟩
    refine ⟨⟨hlater ▸ hkeyed, agree_of_keeps hagreed.agree hkeeps ?_⟩, hkeeps⟩
    intro tracked htracked
    rw [hlater] at htracked
    exact (status_of_register hregister htracked).imp_right fun hold =>
      ⟨tracked, hold, rfl, rfl⟩

theorem reservesNothing_of_executes {command : Command deployment.host}
    (h : Executes command) : reservesNothing command := by
  cases command
  case reserve => exact h
  all_goals trivial

end Execute

/-! ## The commands of a poll -/

/-- A poll that has a final receipt finds the record SUBMITTED, or where the receipt would
move it. -/
def FindsMovable {host : Host} (service : Service host) : PollCommand → Prop
  | .getRecord proposalId target =>
    ∀ state ∈ stateOf service.state proposalId, state = .submitted ∨ state = target
  | _ => True

/-- A command that a poll may perform. -/
def Completes {host : Host} (service : Service host) : PollCommand → Prop
  | .complete transactionHash status => ∃ proposalId target,
      Registered service.settlements transactionHash proposalId ∧
      stateOf service.state proposalId = some target ∧ completedState status = some target
  | _ => True

section Poll

variable {host : Host} {service after : Service host}

theorem keeps_lifecycle {lifecycle : MemoryStateStore} {proposalId : Uuid}
    {target : LifecycleState} {now : Datetime} {updated : ProposalRecord}
    (h : service.state.transition proposalId target now = .ok (updated, lifecycle)) :
    Keeps service { service with state := lifecycle } := by
  obtain ⟨record, applied, hrecord, hallowed, happlied, rfl⟩ :=
    BudgetSafety.transition_cases h
  refine ⟨fun _ _ hregistered => hregistered, ?_⟩
  intro otherId other hterminal hbefore
  rw [stateOf_eq] at hbefore ⊢
  have hrecords := (records_applyTarget happlied).1
  rw [BudgetSafety.moved, hrecords]
  exact terminal_set hterminal hrecord hallowed hbefore

variable {tracked : TrackedTransaction}

/-- A tracked transaction is overwritten, and its proposal is where its status says. -/
theorem agreed_set {later : MemorySettlementStore} {transactionHash : Str}
    {updated : TrackedTransaction} (hlater : { service.settlements with
      transactions := service.settlements.transactions.set transactionHash updated } = later)
    (hagreed : Agreed service)
    (hget : service.settlements.transactions.get? transactionHash = some tracked)
    (hhash : updated.transactionHash = tracked.transactionHash)
    (hproposal : updated.proposalId = tracked.proposalId)
    (hstatus : ∀ target ∈ completedState updated.status,
      stateOf service.state tracked.proposalId = some target) :
    Agreed { service with settlements := later } ∧
      Keeps service { service with settlements := later } := by
  obtain ⟨hkeyed, hextends⟩ := kept_set hagreed.keyed hget hhash hproposal
  rw [hlater] at hkeyed hextends
  refine ⟨⟨hkeyed, ?_⟩, hextends, fun _ h => h⟩
  intro other hother target htarget
  obtain ⟨otherHash, hfound⟩ := mem_values.mp hother
  dsimp only at hfound
  rw [← hlater, get?_set] at hfound
  split_ifs at hfound
  · rw [← Option.some.inj hfound] at htarget ⊢
    rw [hproposal]
    exact hstatus target htarget
  · exact hagreed.agree other (mem_values.mpr ⟨otherHash, hfound⟩) target htarget

theorem agreed_performPoll (outcome : PollOutcome) (command : PollCommand)
    (hagreed : Agreed service) (hcompletes : Completes service command) :
    Agreed (service.performPoll outcome command).2 ∧
      Keeps service (service.performPoll outcome command).2 := by
  have hsame : Agreed service ∧ Keeps service service := ⟨hagreed, Keeps.refl service⟩
  cases command with
  | pending => exact hsame
  | receipt chainId transactionHash => exact hsame
  | getRecord proposalId target => exact hsame
  | transition proposalId target =>
    rw [Service.performPoll, Tracking.perform]
    cases htransition : service.tracking.lifecycle.transition proposalId target
        outcome.now with
    | error error => exact hsame
    | ok result =>
      have hkeeps := keeps_lifecycle htransition
      refine ⟨⟨hagreed.keyed, agree_of_keeps hagreed.agree hkeeps ?_⟩, hkeeps⟩
      intro tracked htracked
      exact Or.inr ⟨tracked, htracked, rfl, rfl⟩
  | observe transactionHash receipt =>
    rw [Service.performPoll, Tracking.perform]
    cases hobserve : service.tracking.settlements.observe transactionHash receipt
        outcome.now with
    | error error => exact hsame
    | ok later =>
      rw [MemorySettlementStore.observe, orRaise_bind_eq_ok] at hobserve
      obtain ⟨tracked, hget, h⟩ := hobserve
      rw [pure_eq_ok] at h
      exact agreed_set h hagreed hget rfl rfl
        (hagreed.agree tracked (mem_values.mpr ⟨_, hget⟩))
  | complete transactionHash status =>
    rw [Service.performPoll, Tracking.perform]
    cases hcomplete : service.tracking.settlements.complete transactionHash status with
    | error error => exact hsame
    | ok later =>
      rw [MemorySettlementStore.complete, raiseIf_bind_eq_ok, orRaise_bind_eq_ok]
        at hcomplete
      obtain ⟨_, tracked, hget, h⟩ := hcomplete
      rw [pure_eq_ok] at h
      refine agreed_set h hagreed hget rfl rfl ?_
      obtain ⟨proposalId, reached, ⟨found, hfound, rfl⟩, hstate, hstatus⟩ := hcompletes
      intro target htarget
      have hsame : some found = some tracked := hfound.symm.trans hget
      rw [Option.some.inj hsame] at hstate
      rw [hstate, ← hstatus]
      exact htarget

/-! ## Polls are safe -/

variable {ρ ρ' : Type} {post : Service host → ρ → Prop} {reconciler : SettlementReconciler}
  {proposalId : Uuid} {target : LifecycleState}

/-- From `service` on the poll completes only what agrees. -/
abbrev SafePoll (post : Service host → ρ → Prop) (program : PollProgram ρ)
    (service : Service host) : Prop :=
  Safe Service.performPoll FindsMovable (protocol post) program service

theorem safe_pollCall {command : PollCommand} {rest : command.Answer → PollProgram ρ}
    (hneeds : ∀ t, Keeps service t → Completes t command)
    (hrest : ∀ t outcome answer, Keeps service t → FindsMovable t command →
      (t.performPoll outcome command).1 = .ok answer →
      Keeps t (t.performPoll outcome command).2 → Agreed t →
      SafePoll post (rest answer) (t.performPoll outcome command).2) :
    SafePoll post (pollCall command >>= rest) service := by
  apply safe_call
  intro t hkeeps hagreed hmovable outcome
  obtain ⟨hafter, hkept⟩ := agreed_performPoll outcome command hagreed (hneeds t hkeeps)
  exact ⟨hafter, hkept, fun answer hanswer =>
    hrest t outcome answer hkeeps hmovable hanswer hkept hagreed⟩

theorem stateOf_of_transition {t : Service host} {outcome : PollOutcome}
    {record : ProposalRecord}
    (h : (t.performPoll outcome (.transition proposalId target)).1 = .ok record) :
    stateOf (t.performPoll outcome (.transition proposalId target)).2.state proposalId =
      some target := by
  rw [Service.performPoll, Tracking.perform] at h ⊢
  cases htransition : t.tracking.lifecycle.transition proposalId target outcome.now with
  | error error =>
    rw [htransition] at h
    cases h
  | ok result =>
    rw [stateOf_eq]
    have hmoved := answered_transition htransition
    exact ⟨result.1, hmoved.2, hmoved.1⟩

/-- After `advance` the proposal is where the receipt moves it. -/
theorem safe_advance {record : ProposalRecord} (hterminal : Terminal target)
    (hfound : record.state = .submitted ∨ stateOf service.state proposalId = some target) :
    SafePoll (fun t _ => stateOf t.state proposalId = some target)
      (SettlementReconciler.advance record proposalId target) service := by
  unfold SettlementReconciler.advance
  split_ifs with hsubmitted
  · apply safe_pollCall
    · exact fun _ _ => trivial
    · intro t outcome moved _ _ hmoved _ _
      exact safe_ret fun u hkeeps _ => hkeeps.terminal hterminal (stateOf_of_transition hmoved)
  · rcases hfound with hstate | hstate
    · exact absurd hstate hsubmitted
    · exact safe_ret fun u hkeeps _ => hkeeps.terminal hterminal hstate

theorem completedState_status (hterminal : Terminal target) :
    completedState target.status = some target := by
  rcases hterminal with rfl | rfl <;> rfl

theorem safe_settle {receipt : EvmReceipt}
    (hregistered : Registered service.settlements tracked.transactionHash tracked.proposalId) :
    SafePoll (fun _ _ => True) (reconciler.settle tracked receipt) service := by
  have hterminal := terminal_target receipt
  unfold SettlementReconciler.settle
  refine safe_ofExcept fun _ _ => ?_
  apply safe_pollCall
  · exact fun _ _ => trivial
  intro t outcome _ hobserved _ _ hkept _
  have hregistered := hkept.tracked (hobserved.tracked hregistered)
  split_ifs
  · exact safe_ret fun _ _ _ => trivial
  apply safe_pollCall
  · exact fun _ _ => trivial
  intro t outcome found hread hmovable hfound hkept _
  have hregistered := hkept.tracked (hread.tracked hregistered)
  refine safe_ofExcept fun record hrecord => ?_
  rw [orRaise_eq_ok] at hrecord
  -- The record that was read is SUBMITTED, or the proposal is settled for good.
  have hposition : record.state = .submitted ∨
      stateOf t.state tracked.proposalId = some receipt.target := by
    have hget : t.state.get tracked.proposalId = some record :=
      (Except.ok.inj hfound).trans hrecord
    have hstate : stateOf t.state tracked.proposalId = some record.state := by
      rw [stateOf, hget]
      rfl
    rcases hmovable record.state hstate with hsubmitted | hreached
    · exact Or.inl hsubmitted
    · exact Or.inr (hreached ▸ hstate)
  apply safe_bind (safe_advance hterminal hposition)
  intro u _ hadvanced _ hreached
  have hregistered := hadvanced.tracked hregistered
  apply safe_pollCall
  · intro v hlater
    exact ⟨tracked.proposalId, receipt.target, hlater.tracked hregistered,
      hlater.terminal hterminal hreached, completedState_status hterminal⟩
  · intro v outcome _ _ _ _ _ _
    exact safe_ret fun _ _ _ => trivial

theorem safe_pollTracked
    (hregistered : Registered service.settlements tracked.transactionHash tracked.proposalId) :
    SafePoll (fun _ _ => True) (reconciler.pollTracked tracked) service := by
  unfold SettlementReconciler.pollTracked
  split_ifs
  · apply safe_pollCall
    · exact fun _ _ => trivial
    · intro t outcome reply hasked _ _ hkept _
      cases reply with
      | timeout => exact safe_ret fun _ _ _ => trivial
      | missing => exact safe_ret fun _ _ _ => trivial
      | found receipt => exact safe_settle (hkept.tracked (hasked.tracked hregistered))
  · exact safe_ret fun _ _ _ => trivial

theorem safe_pollAll {items : List TrackedTransaction}
    (hregistered : ∀ tracked ∈ items,
      Registered service.settlements tracked.transactionHash tracked.proposalId) :
    SafePoll (fun _ _ => True) (reconciler.pollAll items) service := by
  induction items generalizing service with
  | nil => exact safe_ret fun _ _ _ => trivial
  | cons tracked items ih =>
    rw [SettlementReconciler.pollAll]
    apply safe_bind (safe_pollTracked (hregistered tracked List.mem_cons_self))
    intro t _ hkeeps _ _
    apply ih
    intro other hother
    exact hkeeps.tracked (hregistered other (List.mem_cons_of_mem _ hother))

theorem safe_pollOnce : SafePoll (fun _ _ => True) reconciler.pollOnce service := by
  apply safe_pollCall
  · exact fun _ _ => trivial
  · intro t outcome items _ _ hitems _ hagreed
    apply safe_pollAll
    intro tracked htracked
    rw [← Except.ok.inj hitems] at htracked
    exact registered_of_pending hagreed.keyed htracked

end Poll

/-! ## Every interleaving -/

/-- Polls read records that they find movable. -/
def PollsMovable {host : Host} (service : Service host) : GatewayCommand host → Prop
  | .service _ => True
  | .poll command => FindsMovable service command

theorem safe_gatewayProgram {deployment : Deployment} {reconciler : SettlementReconciler}
    (request : GatewayCall) (service : Service deployment.host) :
    Safe (gatewayPerform deployment) PollsMovable (protocol fun _ _ => True)
      (gatewayProgram deployment reconciler request) service := by
  cases request with
  | execute proposalId request actor =>
    have huses : (execute deployment proposalId request actor >>= fun _ =>
        (pure () : Program deployment.host Unit)).Uses Executes :=
      Prog.uses_bind uses_execute fun _ => trivial
    apply safe_embed (Service.perform deployment) (fun _ _ => True) GatewayOutcome.service
    · exact fun _ _ _ => rfl
    · exact fun _ _ _ _ h => mapError_eq_ok.mp h
    · exact fun _ _ _ => trivial
    · apply safe_of_uses huses (fun _ _ => trivial)
      intro t command hcommand hagreed _ outcome
      exact agreed_perform outcome t command (reservesNothing_of_executes hcommand) hagreed
  | pollOnce =>
    apply safe_embed Service.performPoll FindsMovable GatewayOutcome.poll
    · exact fun _ _ _ => rfl
    · exact fun _ _ _ _ h => mapError_eq_ok.mp h
    · exact fun _ _ h => h
    · exact safe_pollOnce

/-- Whatever executions and polls do, and whatever the backends return: as long as polls read
movable records, the status of every completed transaction is the state of its proposal. -/
theorem settlements_agree {deployment : Deployment} {reconciler : SettlementReconciler}
    {start : Service deployment.host} {trace : List (Label GatewayCall GatewayOutcome)}
    {config : GatewayConfig deployment} (hkeyed : Keyed start.settlements)
    (hagree : SettlementsAgree start)
    (hrun : Run (GatewayStep deployment reconciler PollsMovable) ⟨start, []⟩ trace config) :
    SettlementsAgree config.shared := by
  have hsafe := safe_run (protocol fun _ _ => True)
    (fun request _ s _ => safe_gatewayProgram request s) ⟨hkeyed, hagree⟩ hrun
  exact hsafe.1.agree

/-! ## Sample interleavings

An execution of the sample transfer and one poll, which finds the transaction final. -/

open SignedEffect AttestationSoundness ExecutionRecovery

instance {host : Host} (service : Service host) :
    (command : PollCommand) → Decidable (FindsMovable service command)
  | .getRecord proposalId target => inferInstanceAs (Decidable
      (∀ state ∈ stateOf service.state proposalId, state = .submitted ∨ state = target))
  | .pending => .isTrue trivial
  | .receipt _ _ => .isTrue trivial
  | .observe _ _ => .isTrue trivial
  | .transition _ _ => .isTrue trivial
  | .complete _ _ => .isTrue trivial

instance {host : Host} (service : Service host) :
    (command : GatewayCommand host) → Decidable (PollsMovable service command)
  | .service _ => .isTrue trivial
  | .poll command => inferInstanceAs (Decidable (FindsMovable service command))

def sampleReceipt : EvmReceipt :=
  ⟨honestEvidence.transactionHash, hexLiteral 64 3, 10, true, 2⟩

def gatewayOutcome : GatewayOutcome :=
  ⟨sampleOutcome, ⟨some (.found sampleReceipt), sampleNow⟩⟩

def gatewayReconciler : SettlementReconciler := ⟨serviceHost, [31337], 2, Nat.two_pos⟩

/-- An `execute` call makes `count` of its sixteen steps, a poll runs to its end, and the call
goes on. -/
def pollAfter (count : Nat) : List (Label GatewayCall GatewayOutcome) :=
  .start (.execute sampleProposalId sampleExecution researcher) ::
    List.replicate count (.advance 0 gatewayOutcome) ++
    .start .pollOnce :: List.replicate 6 (.advance 1 gatewayOutcome) ++
    List.replicate (16 - count) (.advance 0 gatewayOutcome)

def gatewayAfter (trace : List (Label GatewayCall GatewayOutcome)) :
    GatewayConfig sampleDeployment :=
  Config.performAll (gatewayPerform sampleDeployment)
    (gatewayProgram sampleDeployment gatewayReconciler) ⟨reservedService, []⟩ trace

/-- Status and state of every tracked transaction. -/
def outcomes {host : Host} (service : Service host) :
    List (SettlementStatus × Option LifecycleState) :=
  service.settlements.transactions.values.map fun tracked =>
    (tracked.status, stateOf service.state tracked.proposalId)

theorem keyed_of_keys {settlements : MemorySettlementStore}
    (h : settlements.transactions.keys = []) : Keyed settlements := by
  intro transactionHash tracked hget
  have hkey := mem_keys_of_get? hget
  rw [h] at hkey
  cases hkey

/-- The poll comes after the call has moved the proposal to SUBMITTED. -/
theorem pollAfterSubmitted_agrees :
    outcomes (gatewayAfter (pollAfter 16)).shared = [(.settled, some .settled)] ∧
      SettlementsAgree (gatewayAfter (pollAfter 16)).shared := by
  have hfacts : reservedService.settlements.transactions.keys = [] ∧
      SettlementsAgree reservedService ∧
      Follows (gatewayPerform sampleDeployment)
        (gatewayProgram sampleDeployment gatewayReconciler) (fun _ => True) PollsMovable
        ⟨reservedService, []⟩ (pollAfter 16) ∧
      outcomes (gatewayAfter (pollAfter 16)).shared = [(.settled, some .settled)] := by
    unfold SettlementsAgree
    decide +kernel
  obtain ⟨hkeys, hagree, hfollows, houtcomes⟩ := hfacts
  have hrun : Run (GatewayStep sampleDeployment gatewayReconciler PollsMovable)
      ⟨reservedService, []⟩ (pollAfter 16) (gatewayAfter (pollAfter 16)) := hfollows.run
  exact ⟨houtcomes, settlements_agree (keyed_of_keys hkeys) hagree hrun⟩

/-- The poll comes between the registration of the transaction and the move to SUBMITTED.
The transaction is SETTLED, and the proposal stays in flight. -/
theorem pollAfterRegistered_disagrees :
    reservedService.settlements.transactions.keys = [] ∧
      Run (GatewayStep sampleDeployment gatewayReconciler fun _ _ => True)
        ⟨reservedService, []⟩ (pollAfter 13) (gatewayAfter (pollAfter 13)) ∧
      outcomes (gatewayAfter (pollAfter 13)).shared = [(.settled, some .submitted)] ∧
      ¬SettlementsAgree (gatewayAfter (pollAfter 13)).shared := by
  unfold SettlementsAgree
  exact ⟨by decide +kernel, Follows.run (by decide +kernel), by decide +kernel⟩

end AegisLedger.Gateway.SettlementAgreement
