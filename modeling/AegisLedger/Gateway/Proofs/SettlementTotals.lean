import AegisLedger.Gateway.Proofs.BudgetTotals
import AegisLedger.Gateway.Reconciler

/-!
# What reconciliation does to records and totals

A poll writes to the lifecycle store in one place: it moves a record that is SUBMITTED.
The program of a poll carries the receipt that made it do so (`Justified`), and the tracked
transactions it was started with stay tracked (`Extends`), so every record that a poll
moves has a final receipt of its transaction behind it.
-/

namespace AegisLedger.Gateway.SettlementTotals

open AegisLedger.Support Checks Dict Threads
open MemoryStateStore BudgetSafety BudgetTotals

/-! ## The receipt behind a move -/

/-- The hash is tracked for the proposal. -/
def Registered (settlements : MemorySettlementStore) (transactionHash : Str)
    (proposalId : Uuid) : Prop :=
  ∃ tracked, settlements.transactions.get? transactionHash = some tracked ∧
    tracked.proposalId = proposalId

/-- A receipt of a tracked transaction that is final and calls for `target`. -/
structure FinalReceipt (reconciler : SettlementReconciler) (settlements : MemorySettlementStore)
    (received : List (Str × EvmReceipt)) (proposalId : Uuid) (target : LifecycleState)
    (transactionHash : Str) (receipt : EvmReceipt) : Prop where
  registered : Registered settlements transactionHash proposalId
  received : (transactionHash, receipt) ∈ received
  hash : reconciler.host.lower receipt.transactionHash = reconciler.host.lower transactionHash
  final : reconciler.finality ≤ receipt.confirmations
  target : receipt.target = target

/-- A poll that has these receipts may perform the command. -/
def Grounded (reconciler : SettlementReconciler) (settlements : MemorySettlementStore)
    (received : List (Str × EvmReceipt)) : PollCommand → Prop
  | .transition proposalId target =>
    ∃ transactionHash receipt,
      FinalReceipt reconciler settlements received proposalId target transactionHash receipt
  | _ => True

/-- Every command that is left of a poll is grounded when it is performed. -/
def Justified (reconciler : SettlementReconciler) (settlements : MemorySettlementStore)
    {ρ : Type} : List (Str × EvmReceipt) → PollProgram ρ → Prop
  | _, .ret _ => True
  | _, .raise _ => True
  | received, .op command next => Grounded reconciler settlements received command ∧
      ∀ answer, Justified reconciler settlements
        (Reconciliation.receive received command (.ok answer)) (next answer)

section Justified

variable {reconciler : SettlementReconciler} {settlements later : MemorySettlementStore}
  {received : List (Str × EvmReceipt)}

/-- Tracked transactions stay tracked. -/
def Extends (settlements later : MemorySettlementStore) : Prop :=
  ∀ ⦃transactionHash proposalId⦄, Registered settlements transactionHash proposalId →
    Registered later transactionHash proposalId

variable {ρ : Type}

theorem Justified.mono {program : PollProgram ρ} (hlater : Extends settlements later)
    (h : Justified reconciler settlements received program) :
    Justified reconciler later received program := by
  induction program generalizing received with
  | ret result => trivial
  | raise error => trivial
  | op command next ih =>
    refine ⟨?_, fun answer => ih answer (h.2 answer)⟩
    cases command with
    | transition proposalId target =>
      obtain ⟨transactionHash, receipt, hfinal⟩ := h.1
      exact ⟨transactionHash, receipt,
        { hfinal with registered := hlater hfinal.registered }⟩
    | _ => trivial

theorem subset_receive (command : PollCommand) (answer : Except PollError command.Answer) :
    received ⊆ Reconciliation.receive received command answer := by
  unfold Reconciliation.receive
  split
  · exact List.subset_append_left _ _
  · exact List.Subset.refl _

theorem justified_bind {ρ' : Type} {part : PollProgram ρ'} {rest : ρ' → PollProgram ρ}
    (h : Justified reconciler settlements received part) (hrest : ∀ more result, received ⊆ more →
      Justified reconciler settlements more (rest result)) :
    Justified reconciler settlements received (part >>= rest) := by
  induction part generalizing received with
  | ret result => exact hrest received result (List.Subset.refl _)
  | raise error => trivial
  | op command next ih =>
    refine ⟨h.1, fun answer => ?_⟩
    apply ih answer (h.2 answer)
    intro more result hmore
    exact hrest more result (List.Subset.trans (subset_receive command _) hmore)

theorem justified_ofExcept {ρ' : Type} {x : Except PollError ρ'} {rest : ρ' → PollProgram ρ}
    (h : ∀ value, x = .ok value → Justified reconciler settlements received (rest value)) :
    Justified reconciler settlements received (Prog.ofExcept x >>= rest) := by
  cases x with
  | error error => trivial
  | ok value => exact h value rfl

theorem justified_advance {record : ProposalRecord} {proposalId : Uuid} {target : LifecycleState}
    (h : Grounded reconciler settlements received (.transition proposalId target)) :
    Justified reconciler settlements received
      (SettlementReconciler.advance record proposalId target) := by
  unfold SettlementReconciler.advance
  split_ifs
  · exact ⟨h, fun _ => trivial⟩
  · trivial

theorem justified_settle {tracked : TrackedTransaction} {receipt : EvmReceipt}
    (hregistered : Registered settlements tracked.transactionHash tracked.proposalId)
    (hreceived : (tracked.transactionHash, receipt) ∈ received) :
    Justified reconciler settlements received (reconciler.settle tracked receipt) := by
  unfold SettlementReconciler.settle
  apply justified_ofExcept
  intro _ hhash
  rw [raiseIf_eq_ok, not_not] at hhash
  refine ⟨trivial, fun _ => ?_⟩
  dsimp only
  split_ifs with hfinal
  · trivial
  · refine ⟨trivial, fun found => ?_⟩
    apply justified_ofExcept
    intro record _
    apply justified_bind
    · exact justified_advance ⟨tracked.transactionHash, receipt, hregistered, hreceived, hhash,
        Nat.le_of_not_lt hfinal, rfl⟩
    · intro more _ _
      exact ⟨trivial, fun _ => trivial⟩

theorem justified_pollTracked {tracked : TrackedTransaction}
    (hregistered : Registered settlements tracked.transactionHash tracked.proposalId) :
    Justified reconciler settlements received (reconciler.pollTracked tracked) := by
  unfold SettlementReconciler.pollTracked
  split_ifs
  · refine ⟨trivial, fun reply => ?_⟩
    cases reply with
    | timeout => trivial
    | missing => trivial
    | found receipt =>
      exact justified_settle hregistered (List.mem_append_right _ List.mem_cons_self)
  · trivial

theorem justified_pollAll {items : List TrackedTransaction}
    (hregistered : ∀ tracked ∈ items,
      Registered settlements tracked.transactionHash tracked.proposalId) :
    Justified reconciler settlements received (reconciler.pollAll items) := by
  induction items generalizing received with
  | nil => trivial
  | cons tracked items ih =>
    rw [SettlementReconciler.pollAll]
    apply justified_bind (justified_pollTracked (hregistered tracked List.mem_cons_self))
    intro more _ _
    exact ih fun other hother => hregistered other (List.mem_cons_of_mem _ hother)

end Justified

/-! ## The settlement store -/

/-- A transaction is kept under its own hash. -/
def Keyed (settlements : MemorySettlementStore) : Prop :=
  ∀ ⦃transactionHash tracked⦄, settlements.transactions.get? transactionHash = some tracked →
    tracked.transactionHash = transactionHash

section Settlements

variable {settlements after : MemorySettlementStore}

theorem registered_of_pending (hkeyed : Keyed settlements) {tracked : TrackedTransaction}
    (h : tracked ∈ settlements.pending) :
    Registered settlements tracked.transactionHash tracked.proposalId := by
  obtain ⟨hmem, _⟩ := List.mem_filter.mp h
  obtain ⟨entry, hentry, rfl⟩ := List.mem_map.mp hmem
  have hget : settlements.transactions.get? entry.1 = some entry.2 := get?_of_mem_entries hentry
  rw [hkeyed hget]
  exact ⟨entry.2, hget, rfl⟩

variable {transactionHash : Str}

/-- A write to a tracked transaction that keeps its hash and proposal. -/
theorem kept_set {tracked updated : TrackedTransaction} (hkeyed : Keyed settlements)
    (hget : settlements.transactions.get? transactionHash = some tracked)
    (hhash : updated.transactionHash = tracked.transactionHash)
    (hproposal : updated.proposalId = tracked.proposalId) :
    Keyed { settlements with
        transactions := settlements.transactions.set transactionHash updated } ∧
      Extends settlements { settlements with
        transactions := settlements.transactions.set transactionHash updated } := by
  constructor
  · intro otherHash other hother
    rw [get?_set] at hother
    split_ifs at hother with hown
    · rw [← Option.some.inj hother, hhash, hown]
      exact hkeyed hget
    · exact hkeyed hother
  · rintro otherHash otherId ⟨other, hother, rfl⟩
    rw [Registered]
    dsimp only
    rw [get?_set]
    split_ifs with hown
    · rw [hown, hget, Option.some.injEq] at hother
      exact ⟨updated, rfl, by rw [hproposal, hother]⟩
    · exact ⟨other, hother, rfl⟩

theorem kept_register {proposalId : Uuid} {chainId : Nat} (hkeyed : Keyed settlements)
    (h : settlements.register transactionHash proposalId chainId = .ok after) :
    Keyed after ∧ Extends settlements after := by
  unfold MemorySettlementStore.register at h
  split at h
  · split_ifs at h
    rw [pure_eq_ok] at h
    rw [← h]
    exact ⟨hkeyed, fun _ _ hregistered => hregistered⟩
  · rename_i hnew
    rw [raiseIf_bind_eq_ok, pure_eq_ok] at h
    rw [← h.2]
    constructor
    · intro otherHash other hother
      rw [get?_set] at hother
      split_ifs at hother with hown
      · rw [← Option.some.inj hother, hown]
        rfl
      · exact hkeyed hother
    · rintro otherHash otherId ⟨other, hother, rfl⟩
      refine ⟨other, ?_, rfl⟩
      rw [get?_set_ne]
      · exact hother
      · rintro rfl
        rw [hnew] at hother
        cases hother

theorem kept_observe {receipt : EvmReceipt} {now : Datetime} (hkeyed : Keyed settlements)
    (h : settlements.observe transactionHash receipt now = .ok after) :
    Keyed after ∧ Extends settlements after := by
  rw [MemorySettlementStore.observe, orRaise_bind_eq_ok] at h
  obtain ⟨tracked, hget, h⟩ := h
  rw [pure_eq_ok] at h
  rw [← h]
  exact kept_set hkeyed hget rfl rfl

theorem kept_complete {status : SettlementStatus} (hkeyed : Keyed settlements)
    (h : settlements.complete transactionHash status = .ok after) :
    Keyed after ∧ Extends settlements after := by
  rw [MemorySettlementStore.complete, raiseIf_bind_eq_ok, orRaise_bind_eq_ok] at h
  obtain ⟨_, tracked, hget, h⟩ := h
  rw [pure_eq_ok] at h
  rw [← h]
  exact kept_set hkeyed hget rfl rfl

/-- A command of a poll writes to one of the two stores at most. -/
theorem kept_perform {tracking : Tracking} (outcome : PollOutcome) (command : PollCommand)
    (hkeyed : Keyed tracking.settlements) :
    Keyed (tracking.perform outcome command).2.settlements ∧
      Extends tracking.settlements (tracking.perform outcome command).2.settlements := by
  have hsame : Keyed tracking.settlements ∧
      Extends tracking.settlements tracking.settlements :=
    ⟨hkeyed, fun _ _ hregistered => hregistered⟩
  cases command with
  | pending => exact hsame
  | receipt chainId transactionHash => exact hsame
  | getRecord proposalId target => exact hsame
  | observe transactionHash receipt =>
    rw [Tracking.perform]
    cases hafter : tracking.settlements.observe transactionHash receipt outcome.now with
    | error error => exact hsame
    | ok after => exact kept_observe hkeyed hafter
  | complete transactionHash status =>
    rw [Tracking.perform]
    cases hafter : tracking.settlements.complete transactionHash status with
    | error error => exact hsame
    | ok after => exact kept_complete hkeyed hafter
  | transition proposalId target =>
    rw [Tracking.perform]
    split
    · exact hsame
    · exact hsame

end Settlements

/-! ## Runs -/

section Runs

variable {reconciler : SettlementReconciler} {trace : List Activity}
  {before state : Reconciliation} {outcome : PollOutcome}

/-- What holds of a reconciliation after its history. -/
structure Steady (reconciler : SettlementReconciler) (trace : List Activity)
    (state : Reconciliation) : Prop where
  sound : Sound (Reconciliation.storeCalls trace) state.tracking.lifecycle
  keyed : Keyed state.tracking.settlements
  justified : state.program = reconciler.pollOnce ∨
    Justified reconciler state.tracking.settlements state.received state.program

theorem steady_idle (reconciler : SettlementReconciler) : Steady reconciler [] .idle :=
  { sound := sound_empty
    keyed := fun _ _ hget => nomatch hget
    justified := Or.inr trivial }

/-- A poll moves a record, or leaves the lifecycle store as it is. -/
theorem lifecycle_perform (tracking : Tracking) (outcome : PollOutcome) (command : PollCommand) :
    (tracking.perform outcome command).2.lifecycle = tracking.lifecycle ∨
      ∃ proposalId target updated after, command = .transition proposalId target ∧
        tracking.lifecycle.transition proposalId target outcome.now = .ok (updated, after) ∧
        (tracking.perform outcome command).2.lifecycle = after := by
  cases command with
  | pending => exact Or.inl rfl
  | receipt chainId transactionHash => exact Or.inl rfl
  | getRecord proposalId target => exact Or.inl rfl
  | observe transactionHash receipt =>
    rw [Tracking.perform]
    cases tracking.settlements.observe transactionHash receipt outcome.now with
    | error error => exact Or.inl rfl
    | ok after => exact Or.inl rfl
  | complete transactionHash status =>
    rw [Tracking.perform]
    cases tracking.settlements.complete transactionHash status with
    | error error => exact Or.inl rfl
    | ok after => exact Or.inl rfl
  | transition proposalId target =>
    rw [Tracking.perform]
    cases htransition : tracking.lifecycle.transition proposalId target outcome.now with
    | error error => exact Or.inl rfl
    | ok result =>
      exact Or.inr ⟨proposalId, target, result.1, result.2, rfl, htransition, rfl⟩

theorem justified_resume {command : PollCommand} {next : command.Answer → PollProgram Unit}
    (hkeyed : Keyed state.tracking.settlements)
    (h : Prog.op command next = reconciler.pollOnce ∨
      Justified reconciler state.tracking.settlements state.received (.op command next)) :
    Justified reconciler (state.tracking.perform outcome command).2.settlements
      (Reconciliation.receive state.received command
        (state.tracking.perform outcome command).1)
      (resume next (state.tracking.perform outcome command).1) := by
  have hlater := (kept_perform outcome command hkeyed).2
  rcases h with hstart | hjustified
  · obtain ⟨rfl, hnext⟩ := Prog.op.inj hstart
    rw [eq_of_heq hnext]
    exact justified_pollAll fun tracked hpending => registered_of_pending hkeyed hpending
  · cases hanswer : (state.tracking.perform outcome command).1 with
    | error error => trivial
    | ok answer => exact (hjustified.2 answer).mono hlater

theorem storeCalls_concat (trace : List Activity) (activity : Activity) :
    Reconciliation.storeCalls (trace ++ [activity]) =
      Reconciliation.storeCalls trace ++ Reconciliation.storeCalls [activity] :=
  List.filterMap_append

/-- Other activities draw no identifiers. -/
theorem sound_concat {store : MemoryStateStore}
    (hsound : Sound (Reconciliation.storeCalls trace) store) {activity : Activity}
    (hnone : Reconciliation.storeCalls [activity] = []) :
    Sound (Reconciliation.storeCalls (trace ++ [activity])) store := by
  rw [storeCalls_concat, hnone, List.append_nil]
  exact hsound

theorem steady_step (activity : Activity) (hsteady : Steady reconciler trace state)
    (hids : (reservationIds (Reconciliation.storeCalls (trace ++ [activity]))).Nodup) :
    Steady reconciler (trace ++ [activity]) (state.perform reconciler activity) := by
  cases activity with
  | call call =>
    rw [storeCalls_concat] at hids
    refine ⟨?_, hsteady.keyed, hsteady.justified⟩
    rw [storeCalls_concat]
    exact sound_perform call hsteady.sound hids
  | register transactionHash proposalId chainId =>
    rw [Reconciliation.perform]
    cases hregister : state.tracking.settlements.register transactionHash proposalId
        chainId with
    | error error => exact ⟨sound_concat hsteady.sound rfl, hsteady.keyed, hsteady.justified⟩
    | ok settlements =>
      obtain ⟨hkeyed, hextends⟩ := kept_register hsteady.keyed hregister
      exact ⟨sound_concat hsteady.sound rfl, hkeyed, hsteady.justified.imp_right (·.mono hextends)⟩
  | start => exact ⟨sound_concat hsteady.sound rfl, hsteady.keyed, Or.inl rfl⟩
  | advance outcome =>
    rw [Reconciliation.perform]
    split
    next command next hprogram =>
      have hjustified := hsteady.justified
      rw [hprogram] at hjustified
      refine ⟨?_, (kept_perform outcome command hsteady.keyed).1,
        Or.inr (justified_resume hsteady.keyed hjustified)⟩
      dsimp only
      rcases lifecycle_perform state.tracking outcome command with
        hsame | ⟨_, _, _, _, _, htransition, hafter⟩
      · rw [hsame]
        exact sound_concat hsteady.sound rfl
      · rw [hafter]
        exact sound_concat (hsteady.sound.moved htransition) rfl
    next => exact ⟨sound_concat hsteady.sound rfl, hsteady.keyed, hsteady.justified⟩

/-- The activities of a reconciler and of the code around it. -/
def Activities (reconciler : SettlementReconciler) (before : Reconciliation)
    (activity : Activity) (after : Reconciliation) : Prop :=
  after = before.perform reconciler activity

theorem steady_run (hrun : Run (Activities reconciler) .idle trace state)
    (hids : (reservationIds (Reconciliation.storeCalls trace)).Nodup) :
    Steady reconciler trace state := by
  revert hids
  refine hrun.invariant (I := fun trace state =>
    (reservationIds (Reconciliation.storeCalls trace)).Nodup → Steady reconciler trace state)
    (fun _ => steady_idle reconciler) ?_
  intro trace state activity after _ ih hstep hids
  rw [hstep]
  apply steady_step activity (ih _) hids
  rw [storeCalls_concat, reservationIds_append] at hids
  exact hids.of_append_left

/-- A final state, of which reconciliation knows two. -/
def Terminal (target : LifecycleState) : Prop := target = .settled ∨ target = .reverted

theorem terminal_target (receipt : EvmReceipt) : Terminal receipt.target := by
  unfold Terminal EvmReceipt.target
  split_ifs
  · exact Or.inl rfl
  · exact Or.inr rfl

theorem submitted_of_allowed {source target : LifecycleState} (hterminal : Terminal target)
    (h : target ∈ allowedTransitions source) : source = .submitted := by
  rcases hterminal with rfl | rfl <;> cases source <;> simp [allowedTransitions] at h ⊢

/-- The proposal was SUBMITTED, and a poll that held a final receipt moved it. -/
structure Settles (reconciler : SettlementReconciler) (before after : Reconciliation)
    (proposalId : Uuid) (record : ProposalRecord) (target : LifecycleState) : Prop where
  found : before.tracking.lifecycle.get proposalId = some record
  submitted : record.state = .submitted
  terminal : Terminal target
  receipt : ∃ transactionHash receipt, FinalReceipt reconciler before.tracking.settlements
    before.received proposalId target transactionHash receipt
  reached : (after.tracking.lifecycle.get proposalId).map (·.state) = some target
  others : ∀ otherId, otherId ≠ proposalId →
    after.tracking.lifecycle.get otherId = before.tracking.lifecycle.get otherId
  totals : TotalsMove reconciler.host before.tracking.lifecycle after.tracking.lifecycle
    record.proposal target

/-- A step of a poll leaves the lifecycle store alone, or settles one proposal. -/
theorem settles_of_advance (hsteady : Steady reconciler trace before) (outcome : PollOutcome) :
    (before.perform reconciler (.advance outcome)).tracking.lifecycle =
        before.tracking.lifecycle ∨
      ∃ proposalId record target, Settles reconciler before
        (before.perform reconciler (.advance outcome)) proposalId record target := by
  have hsound := hsteady.sound
  have hjustified := hsteady.justified
  rw [Reconciliation.perform]
  split
  next command next hprogram =>
    rw [hprogram] at hjustified
    rcases lifecycle_perform before.tracking outcome command with
      hsame | ⟨proposalId, target, updated, after, rfl, htransition, hafter⟩
    · exact Or.inl hsame
    · right
      obtain ⟨record, applied, hrecord, hallowed, happlied, hmoved⟩ :=
        transition_cases htransition
      have hgrounded : Grounded reconciler before.tracking.settlements before.received
          (.transition proposalId target) := by
        rcases hjustified with hstart | hjustified
        · cases hstart
        · exact hjustified.1
      obtain ⟨transactionHash, receipt, hfinal⟩ := hgrounded
      have hterminal : Terminal target := hfinal.target ▸ terminal_target receipt
      have hrecords : after.records = before.tracking.lifecycle.records.set proposalId
          { record with
            state := target, stateVersion := applied.version + 1, updatedAt := outcome.now } := by
        rw [hmoved, moved]
        rcases applyTarget_cases happlied with rfl | ⟨_, _, _, _, _, _, _, rfl⟩
        · rfl
        · rfl
      refine ⟨proposalId, record, target, hrecord, submitted_of_allowed hterminal hallowed,
        hterminal, ⟨transactionHash, receipt, hfinal⟩, ?_, ?_, ?_⟩
      · dsimp only
        rw [hafter, MemoryStateStore.get, hrecords, get?_set_self]
        rfl
      · intro otherId hne
        dsimp only
        rw [hafter, MemoryStateStore.get, hrecords, get?_set_ne _ hne]
        rfl
      · dsimp only
        rw [hafter]
        exact totalsMove_of_transition reconciler.host hsound.linked hsound.matched hterminal
          hrecord htransition
  next => exact Or.inl rfl

/-- What one step of a poll may do to records and totals. -/
structure SettlesOnly (reconciler : SettlementReconciler) (before after : Reconciliation) :
    Prop where
  /-- A proposal becomes SETTLED or REVERTED only in a poll that holds such a receipt, and
  moves the totals of its scope by its own amount. -/
  settles : ∀ proposalId target, Terminal target →
    (before.tracking.lifecycle.get proposalId).map (·.state) ≠ some target →
    (after.tracking.lifecycle.get proposalId).map (·.state) = some target →
    ∃ record, Settles reconciler before after proposalId record target
  /-- What is SETTLED or REVERTED stays as it is. -/
  kept : ∀ proposalId record, before.tracking.lifecycle.get proposalId = some record →
    Terminal record.state → after.tracking.lifecycle.get proposalId = some record
  /-- The totals of a scope change only with a proposal of that scope. -/
  totals : ∀ principal wallet chainId asset,
    after.tracking.lifecycle.budgetTotals reconciler.host principal wallet chainId asset ≠
      before.tracking.lifecycle.budgetTotals reconciler.host principal wallet chainId asset →
    ∃ proposalId record target, Settles reconciler before after proposalId record target ∧
      record.proposal.scope = (principal, reconciler.host.lower wallet, chainId, asset)

/-- In every run of polls among other calls of the stores, with any receipts. -/
theorem poll_settlesOnly (hrun : Run (Activities reconciler) .idle trace before)
    (hids : (reservationIds (Reconciliation.storeCalls trace)).Nodup) (outcome : PollOutcome) :
    SettlesOnly reconciler before (before.perform reconciler (.advance outcome)) := by
  rcases settles_of_advance (steady_run hrun hids) outcome with
    hsame | ⟨movedId, moved, movedTo, hsettles⟩
  · constructor
    · intro proposalId target _ hbefore hafter
      rw [hsame] at hafter
      exact absurd hafter hbefore
    · intro proposalId record hrecord _
      rw [hsame]
      exact hrecord
    · intro principal wallet chainId asset hchanged
      rw [hsame] at hchanged
      exact absurd rfl hchanged
  · constructor
    · intro proposalId target _ hbefore hafter
      by_cases hid : proposalId = movedId
      · rw [hid, hsettles.reached, Option.some.injEq] at hafter
        rw [hid, ← hafter]
        exact ⟨moved, hsettles⟩
      · rw [hsettles.others proposalId hid] at hafter
        exact absurd hafter hbefore
    · intro proposalId record hrecord hterminal
      have hne : proposalId ≠ movedId := by
        rintro rfl
        rw [hsettles.found, Option.some.injEq] at hrecord
        rw [← hrecord, hsettles.submitted] at hterminal
        rcases hterminal with hstate | hstate <;> cases hstate
      rw [hsettles.others proposalId hne]
      exact hrecord
    · intro principal wallet chainId asset hchanged
      refine ⟨movedId, moved, movedTo, hsettles, ?_⟩
      by_contra hscope
      exact hchanged (hsettles.totals.others principal wallet chainId asset (Ne.symm hscope))

end Runs

/-! ## Sample polls

Two transfers of one scope are submitted.  The first poll finds the first of them final
and no receipt of the second, the next poll finds the second. -/

open SignedEffect AttestationSoundness

def sampleReconciler : SettlementReconciler := ⟨sampleHost, [31337], 2, by decide⟩

def firstHash : Str := hexLiteral 64 1

def secondHash : Str := hexLiteral 64 2

def receiptFor (transactionHash : Str) : EvmReceipt :=
  ⟨transactionHash, hexLiteral 64 3, 10, true, 2⟩

def replied (reply : ReceiptReply) : Activity := .advance ⟨some reply, sampleNow⟩

/-- A command that does not ask a backend. -/
def proceeds : Activity := replied .missing

def submits (proposal : ProposalV1) (transactionHash : Str) (reservationId : Uuid) :
    List Activity :=
  [.call (.reserve proposal (budgetPolicy ⟨3600, 500⟩) (readingsAt sampleNow) reservationId),
    .call (.transition proposal.proposalId.val .signed sampleNow),
    .register transactionHash proposal.proposalId.val 31337,
    .call (.transition proposal.proposalId.val .submitted sampleNow)]

/-- Up to the step that settles the first transfer. -/
def firstPoll : List Activity :=
  submits firstProposal firstHash firstReservation ++
    submits secondProposal secondHash secondReservation ++
    [.start, proceeds, replied (.found (receiptFor firstHash)), proceeds, proceeds]

/-- Up to the step that settles the second one. -/
def secondPoll : List Activity :=
  firstPoll ++ [proceeds, proceeds, proceeds, .start, proceeds,
    replied (.found (receiptFor secondHash)), proceeds, proceeds]

def afterActivities (trace : List Activity) : Reconciliation :=
  trace.foldl (Reconciliation.perform sampleReconciler) .idle

theorem activities_run (trace : List Activity) :
    Run (Activities sampleReconciler) .idle trace (afterActivities trace) := by
  have hnext : ∀ state activity, Activities sampleReconciler state activity
      (state.perform sampleReconciler activity) := fun _ _ => rfl
  exact Run.foldl hnext _ _

def sampleTotals (state : Reconciliation) : Nat × Nat :=
  state.tracking.lifecycle.budgetTotals sampleHost firstProposal.principalId
    firstProposal.wallet firstProposal.chainId.val firstProposal.asset

def sampleState (state : Reconciliation) (proposal : ProposalV1) : Option LifecycleState :=
  (state.tracking.lifecycle.get proposal.proposalId.val).map (·.state)

theorem firstPoll_settlesOnly :
    sampleState (afterActivities firstPoll) firstProposal = some .submitted ∧
      sampleState ((afterActivities firstPoll).perform sampleReconciler proceeds)
        firstProposal = some .settled ∧
      SettlesOnly sampleReconciler (afterActivities firstPoll)
        ((afterActivities firstPoll).perform sampleReconciler proceeds) := by
  have hstates : sampleState (afterActivities firstPoll) firstProposal = some .submitted ∧
      sampleState ((afterActivities firstPoll).perform sampleReconciler proceeds)
        firstProposal = some .settled := by
    decide +kernel
  exact ⟨hstates.1, hstates.2, poll_settlesOnly (activities_run firstPoll) (by decide) _⟩

/-- A later poll changes the totals of the scope of a settled proposal, with another
proposal of that scope. -/
theorem secondPoll_changesTotals :
    Run (Activities sampleReconciler) .idle secondPoll (afterActivities secondPoll) ∧
      (reservationIds (Reconciliation.storeCalls secondPoll)).Nodup ∧
      sampleState (afterActivities secondPoll) firstProposal = some .settled ∧
      sampleTotals (afterActivities secondPoll) = (100, 100) ∧
      sampleTotals ((afterActivities secondPoll).perform sampleReconciler proceeds) =
        (0, 200) := by
  exact ⟨activities_run secondPoll, by decide, by decide +kernel⟩

end AegisLedger.Gateway.SettlementTotals
