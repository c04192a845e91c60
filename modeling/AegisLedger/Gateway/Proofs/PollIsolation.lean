import AegisLedger.Gateway.Proofs.SettlementAgreement

/-!
# Isolation of failures in a poll

A poll works through the pending transactions in the order of the store.  It skips one whose
backend times out or has no receipt; any other failure leaves `poll_once` and with it all
transactions that come later.  What a poll does to one transaction depends on its own row, its
own record and the presence of its reservation, and the other transactions touch none of them
(`SameFor`).  So a transaction fares as if it were alone exactly when nothing before it fails,
or when there was nothing to do.
-/

namespace AegisLedger.Gateway.PollIsolation

open AegisLedger.Support Checks Dict Threads
open SettlementTotals SettlementAgreement

/-- What each command of a poll draws from outside. -/
abbrev Assignment := PollCommand → PollOutcome

/-- A program of a poll, run by itself. -/
abbrev pollWith {ρ : Type} (assign : Assignment) (program : PollProgram ρ) (tracking : Tracking) :
    Except PollError ρ × Tracking :=
  program.exec (fun (_ : Unit) tracking command => tracking.perform (assign command) command)
    (fun _ => ()) tracking

section Run

variable {ρ ρ' : Type} {assign : Assignment} {tracking after : Tracking}

theorem pollWith_bind {part : PollProgram ρ'} (rest : ρ' → PollProgram ρ) {result : ρ'}
    (h : pollWith assign part tracking = (.ok result, after)) :
    pollWith assign (part >>= rest) tracking = pollWith assign (rest result) after := by
  rw [pollWith] at h
  rw [pollWith, Prog.exec_bind, h]

theorem pollWith_bind_error {part : PollProgram ρ'} (rest : ρ' → PollProgram ρ)
    {error : PollError} (h : pollWith assign part tracking = (.error error, after)) :
    pollWith assign (part >>= rest) tracking = (.error error, after) := by
  rw [pollWith] at h
  rw [pollWith, Prog.exec_bind, h]

theorem pollWith_call {command : PollCommand} {answer : command.Answer}
    (rest : command.Answer → PollProgram ρ)
    (h : tracking.perform (assign command) command = (.ok answer, after)) :
    pollWith assign (pollCall command >>= rest) tracking = pollWith assign (rest answer) after :=
  Prog.exec_of_ok _ h

theorem pollWith_call_error {command : PollCommand} {error : PollError}
    (rest : command.Answer → PollProgram ρ)
    (h : tracking.perform (assign command) command = (.error error, after)) :
    pollWith assign (pollCall command >>= rest) tracking = (.error error, after) :=
  Prog.exec_of_error _ h

end Run

/-! ## What one transaction comes to -/

/-- The row after an observation. -/
def observedRow (row : TrackedTransaction) (receipt : EvmReceipt) (now : Datetime) :
    TrackedTransaction :=
  let reorged := row.blockHash ≠ none ∧ row.blockHash ≠ some receipt.blockHash
  { row with
    reorgCount := if reorged then row.reorgCount + 1 else row.reorgCount
    blockHash := some receipt.blockHash
    blockNumber := some receipt.blockNumber
    success := some receipt.success
    confirmations := receipt.confirmations
    observedAt := some now }

/-- The stores with a new row. -/
def withRow (tracking : Tracking) (transactionHash : Str) (row : TrackedTransaction) : Tracking :=
  { tracking with settlements := { tracking.settlements with
    transactions := tracking.settlements.transactions.set transactionHash row } }

/-- The reservation that a move to `target` needs is there. -/
def hasReservation (store : MemoryStateStore) (record : ProposalRecord)
    (target : LifecycleState) : Bool :=
  match record.reservationId with
  | none => target = .reverted
  | some reservationId => (store.reservations.get? reservationId).isSome

/-- The record of the proposal is known, and can be moved if it is SUBMITTED. -/
def canComplete (store : MemoryStateStore) (proposalId : Uuid) (target : LifecycleState) : Bool :=
  match store.records.get? proposalId with
  | none => false
  | some record => record.state ≠ .submitted || hasReservation store record target

/-- The same reservations are there. -/
def SameReservations (store later : MemoryStateStore) : Prop :=
  ∀ reservationId, (later.reservations.get? reservationId).isSome =
    (store.reservations.get? reservationId).isSome

theorem sameReservations_setReservation {store : MemoryStateStore} {reservationId : Uuid}
    (hitem : (store.reservations.get? reservationId).isSome = true) (updated : Reservation) :
    SameReservations store (store.setReservation reservationId updated) := by
  intro otherId
  change ((store.reservations.set reservationId updated).get? otherId).isSome = _
  rw [get?_set]
  split_ifs with hsame
  · rw [hsame, hitem]
    rfl
  · rfl

section Transition

variable {store : MemoryStateStore} {record : ProposalRecord} {target : LifecycleState}

/-- A terminal target writes to the reservation of the record. -/
theorem applyTarget_eq_ok (hterminal : Terminal target)
    (hreservation : hasReservation store record target = true) :
    ∃ applied, store.applyTarget record target = .ok applied ∧
      applied.records = store.records ∧ SameReservations store applied := by
  unfold hasReservation at hreservation
  cases hid : record.reservationId with
  | none =>
    rw [hid] at hreservation
    obtain rfl : target = .reverted := of_decide_eq_true hreservation
    refine ⟨store, ?_, rfl, fun _ => rfl⟩
    rw [MemoryStateStore.applyTarget, MemoryStateStore.release, hid]
    rfl
  | some reservationId =>
    rw [hid] at hreservation
    obtain ⟨item, hitem⟩ := Option.isSome_iff_exists.mp hreservation
    rcases hterminal with rfl | rfl
    · refine ⟨store.setReservation reservationId { item with active := false, settled := true },
        ?_, rfl, sameReservations_setReservation hreservation _⟩
      rw [MemoryStateStore.applyTarget, MemoryStateStore.settle, hid]
      simp only [orRaise, ok_bind, hitem]
      rfl
    · refine ⟨store.setReservation reservationId { item with active := false }, ?_, rfl,
        sameReservations_setReservation hreservation _⟩
      rw [MemoryStateStore.applyTarget, MemoryStateStore.release, hid]
      simp only [orRaise, ok_bind, hitem]
      rfl

theorem applyTarget_eq_error (hterminal : Terminal target)
    (hreservation : hasReservation store record target = false) :
    ∃ error, store.applyTarget record target = .error error := by
  unfold hasReservation at hreservation
  cases hid : record.reservationId with
  | none =>
    rw [hid] at hreservation
    obtain rfl := hterminal.resolve_right (of_decide_eq_false hreservation)
    refine ⟨.valueError "lifecycle state has no reservation", ?_⟩
    rw [MemoryStateStore.applyTarget, MemoryStateStore.settle, hid]
    rfl
  | some reservationId =>
    rw [hid] at hreservation
    have hnone : store.reservations.get? reservationId = none :=
      Option.isSome_eq_false_iff.mp hreservation |> Option.isNone_iff_eq_none.mp
    refine ⟨.keyError, ?_⟩
    rcases hterminal with rfl | rfl
    · rw [MemoryStateStore.applyTarget, MemoryStateStore.settle, hid]
      simp only [orRaise, ok_bind, hnone]
      rfl
    · rw [MemoryStateStore.applyTarget, MemoryStateStore.release, hid]
      simp only [orRaise, hnone]
      rfl

theorem requireTransition_terminal (hterminal : Terminal target) :
    requireTransition .submitted target = .ok () := by
  rcases hterminal with rfl | rfl <;> rfl

variable {proposalId : Uuid} (now : Datetime)

theorem transition_eq_ok (hterminal : Terminal target)
    (hget : store.records.get? proposalId = some record) (hstate : record.state = .submitted)
    (hreservation : hasReservation store record target = true) :
    ∃ updated later, store.transition proposalId target now = .ok (updated, later) ∧
      updated.state = target ∧ later.records = store.records.set proposalId updated ∧
      SameReservations store later := by
  obtain ⟨applied, happlied, hrecords, hsame⟩ := applyTarget_eq_ok hterminal hreservation
  let updated := { record with
    state := target, stateVersion := applied.version + 1, updatedAt := now }
  refine ⟨updated, { applied with
    records := applied.records.set proposalId updated, version := applied.version + 1 },
    ?_, rfl, by rw [hrecords], hsame⟩
  rw [MemoryStateStore.transition, hget]
  simp only [orRaise, ok_bind, hstate, requireTransition_terminal hterminal, Except.mapError,
    happlied]
  rfl

theorem transition_eq_error (hterminal : Terminal target)
    (hget : store.records.get? proposalId = some record) (hstate : record.state = .submitted)
    (hreservation : hasReservation store record target = false) :
    ∃ error, store.transition proposalId target now = .error error := by
  obtain ⟨error, herror⟩ := applyTarget_eq_error hterminal hreservation
  refine ⟨error, ?_⟩
  rw [MemoryStateStore.transition, hget]
  simp only [orRaise, ok_bind, hstate, requireTransition_terminal hterminal, Except.mapError,
    herror]
  rfl

end Transition

/-- The stores differ at most in one row and in one record. -/
structure Touches (transactionHash : Str) (proposalId : Uuid) (before after : Tracking) :
    Prop where
  rows : ∀ otherHash, otherHash ≠ transactionHash →
    after.settlements.transactions.get? otherHash = before.settlements.transactions.get? otherHash
  records : ∀ otherId, otherId ≠ proposalId →
    after.lifecycle.records.get? otherId = before.lifecycle.records.get? otherId
  reservations : SameReservations before.lifecycle after.lifecycle

theorem Touches.refl (transactionHash : Str) (proposalId : Uuid) (tracking : Tracking) :
    Touches transactionHash proposalId tracking tracking :=
  ⟨fun _ _ => rfl, fun _ _ => rfl, fun _ => rfl⟩

theorem Touches.withRow {transactionHash : Str} {proposalId : Uuid} {before after : Tracking}
    (h : Touches transactionHash proposalId before after) (row : TrackedTransaction) :
    Touches transactionHash proposalId before (withRow after transactionHash row) := by
  refine ⟨fun otherHash hother => ?_, h.records, h.reservations⟩
  exact (get?_set_ne _ hother _).trans (h.rows otherHash hother)

/-- The row of a transaction after a poll of it alone. -/
def rowAfter (reconciler : SettlementReconciler) (assign : Assignment) (store : MemoryStateStore)
    (row : TrackedTransaction) (receipt : EvmReceipt) : TrackedTransaction :=
  let observed := observedRow row receipt (assign (.observe row.transactionHash receipt)).now
  if reconciler.finality ≤ receipt.confirmations ∧
      canComplete store row.proposalId receipt.target = true then
    { observed with status := receipt.target.status }
  else observed

/-- The lifecycle state of its proposal after a poll of it alone. -/
def stateAfter (reconciler : SettlementReconciler) (store : MemoryStateStore)
    (row : TrackedTransaction) (receipt : EvmReceipt) : Option LifecycleState :=
  if reconciler.finality ≤ receipt.confirmations ∧
      canComplete store row.proposalId receipt.target = true ∧
      stateOf store row.proposalId = some .submitted then
    some receipt.target
  else stateOf store row.proposalId

/-- What a poll leaves of a transaction with a receipt. -/
structure Leaves (reconciler : SettlementReconciler) (assign : Assignment)
    (row : TrackedTransaction) (receipt : EvmReceipt) (before after : Tracking) : Prop where
  touches : Touches row.transactionHash row.proposalId before after
  settlement : after.settlements.transactions.get? row.transactionHash =
    some (rowAfter reconciler assign before.lifecycle row receipt)
  state : stateOf after.lifecycle row.proposalId =
    stateAfter reconciler before.lifecycle row receipt

section Settle

variable {reconciler : SettlementReconciler} {assign : Assignment} {tracking : Tracking}
  {row : TrackedTransaction} {receipt : EvmReceipt}

theorem get?_withRow (tracking : Tracking) (transactionHash : Str) (row : TrackedTransaction) :
    (withRow tracking transactionHash row).settlements.transactions.get? transactionHash =
      some row :=
  get?_set_self _ _ _

theorem perform_observe {outcome : PollOutcome}
    (hrow : tracking.settlements.transactions.get? row.transactionHash = some row) :
    tracking.perform outcome (.observe row.transactionHash receipt) =
      (.ok (), withRow tracking row.transactionHash (observedRow row receipt outcome.now)) := by
  rw [Tracking.perform, MemorySettlementStore.observe, hrow]
  rfl

theorem perform_complete {outcome : PollOutcome} {found : TrackedTransaction}
    {transactionHash : Str} {target : LifecycleState} (hterminal : Terminal target)
    (hfound : tracking.settlements.transactions.get? transactionHash = some found) :
    tracking.perform outcome (.complete transactionHash target.status) =
      (.ok (), withRow tracking transactionHash { found with status := target.status }) := by
  rw [Tracking.perform, MemorySettlementStore.complete, hfound]
  rcases hterminal with rfl | rfl <;> rfl

/-- The observation is all that a receipt leaves which does not complete its transaction. -/
theorem leaves_observed
    (hopen : ¬ (reconciler.finality ≤ receipt.confirmations ∧
      canComplete tracking.lifecycle row.proposalId receipt.target = true)) :
    Leaves reconciler assign row receipt tracking (withRow tracking row.transactionHash
      (observedRow row receipt (assign (.observe row.transactionHash receipt)).now)) where
  touches := (Touches.refl _ _ tracking).withRow _
  settlement := by
    rw [get?_withRow, rowAfter, if_neg hopen]
  state := by
    rw [stateAfter, if_neg fun h => hopen ⟨h.1, h.2.1⟩]
    rfl

/-- A final receipt moves the record if it is SUBMITTED, and completes the transaction. -/
theorem leaves_completed {lifecycle : MemoryStateStore} {observed : TrackedTransaction}
    (hfinal : reconciler.finality ≤ receipt.confirmations)
    (hcan : canComplete tracking.lifecycle row.proposalId receipt.target = true)
    (hobserved : observed =
      observedRow row receipt (assign (.observe row.transactionHash receipt)).now)
    (hrecords : ∀ otherId, otherId ≠ row.proposalId →
      lifecycle.records.get? otherId = tracking.lifecycle.records.get? otherId)
    (hreservations : SameReservations tracking.lifecycle lifecycle)
    (hstate : stateOf lifecycle row.proposalId =
      stateAfter reconciler tracking.lifecycle row receipt) :
    Leaves reconciler assign row receipt tracking
      (withRow ⟨lifecycle, (withRow tracking row.transactionHash observed).settlements⟩
        row.transactionHash { observed with status := receipt.target.status }) where
  touches := by
    apply Touches.withRow
    exact ⟨((Touches.refl _ row.proposalId tracking).withRow observed).rows, hrecords,
      hreservations⟩
  settlement := by
    rw [get?_withRow, rowAfter, if_pos ⟨hfinal, hcan⟩, hobserved]
  state := hstate

theorem settle_eq (hhash : reconciler.host.lower receipt.transactionHash =
      reconciler.host.lower row.transactionHash) :
    reconciler.settle row receipt = (pollCall (.observe row.transactionHash receipt) >>= fun _ =>
      if receipt.confirmations < reconciler.finality then pure ()
      else do
        let found ← pollCall (.getRecord row.proposalId receipt.target)
        let record ← Prog.ofExcept (orRaise found
          (PollError.runtimeError "tracked settlement references an unknown proposal"))
        SettlementReconciler.advance record row.proposalId receipt.target
        let _ ← pollCall (.complete row.transactionHash receipt.target.status)
        pure ()) := by
  unfold SettlementReconciler.settle
  rw [raiseIf, if_neg (not_not.mpr hhash)]
  rfl

/-- The rest of the loop body from a known record on. -/
def completion (row : TrackedTransaction) (receipt : EvmReceipt) (record : ProposalRecord) :
    PollProgram Unit := do
  SettlementReconciler.advance record row.proposalId receipt.target
  let _ ← pollCall (.complete row.transactionHash receipt.target.status)
  pure ()

section Completion

variable {record : ProposalRecord} {observed : Tracking} {found : TrackedTransaction}

/-- A record that is not SUBMITTED is left alone. -/
theorem pollWith_completion_of_ne (hstate : record.state ≠ .submitted)
    (hfound : observed.settlements.transactions.get? row.transactionHash = some found) :
    pollWith assign (completion row receipt record) observed =
      (.ok (), withRow observed row.transactionHash
        { found with status := receipt.target.status }) := by
  unfold completion SettlementReconciler.advance
  rw [if_neg hstate]
  exact pollWith_call _ (perform_complete (terminal_target receipt) hfound)

theorem pollWith_completion_of_ok {updated : ProposalRecord} {lifecycle : MemoryStateStore}
    (hstate : record.state = .submitted)
    (hfound : observed.settlements.transactions.get? row.transactionHash = some found)
    (htransition : observed.lifecycle.transition row.proposalId receipt.target
      (assign (.transition row.proposalId receipt.target)).now = .ok (updated, lifecycle)) :
    pollWith assign (completion row receipt record) observed =
      (.ok (), withRow ⟨lifecycle, observed.settlements⟩ row.transactionHash
        { found with status := receipt.target.status }) := by
  have hperform : observed.perform (assign (.transition row.proposalId receipt.target))
      (.transition row.proposalId receipt.target) =
        (.ok updated, ⟨lifecycle, observed.settlements⟩) := by
    rw [Tracking.perform, htransition]
  unfold completion SettlementReconciler.advance
  rw [if_pos hstate]
  refine (pollWith_call _ hperform).trans ?_
  exact pollWith_call _ (perform_complete (terminal_target receipt) hfound)

variable (observed) in
theorem pollWith_completion_of_error {error : StoreError} (hstate : record.state = .submitted)
    (htransition : observed.lifecycle.transition row.proposalId receipt.target
      (assign (.transition row.proposalId receipt.target)).now = .error error) :
    pollWith assign (completion row receipt record) observed = (.error (.store error), observed) := by
  have hperform : observed.perform (assign (.transition row.proposalId receipt.target))
      (.transition row.proposalId receipt.target) = (.error (.store error), observed) := by
    rw [Tracking.perform, htransition]
  unfold completion SettlementReconciler.advance
  rw [if_pos hstate]
  exact pollWith_call_error _ hperform

end Completion

variable {record : ProposalRecord}

theorem stateOf_of_get? {store : MemoryStateStore} {proposalId : Uuid}
    (h : store.records.get? proposalId = some record) :
    stateOf store proposalId = some record.state := by
  rw [stateOf, MemoryStateStore.get, h]
  rfl

theorem stateAfter_of_get? (hfinal : reconciler.finality ≤ receipt.confirmations)
    (hcan : canComplete tracking.lifecycle row.proposalId receipt.target = true)
    (hrecord : tracking.lifecycle.records.get? row.proposalId = some record) :
    stateAfter reconciler tracking.lifecycle row receipt =
      some (if record.state = .submitted then receipt.target else record.state) := by
  rw [stateAfter, stateOf_of_get? hrecord]
  by_cases hsubmitted : record.state = .submitted
  · rw [if_pos ⟨hfinal, hcan, by rw [hsubmitted]⟩, if_pos hsubmitted]
  · rw [if_neg fun h => hsubmitted (Option.some.inj h.2.2), if_neg hsubmitted]

variable (assign) in
/-- A final receipt of a known proposal completes its transaction, if it can. -/
theorem completion_leaves {found : TrackedTransaction}
    (hfinal : reconciler.finality ≤ receipt.confirmations)
    (hrecord : tracking.lifecycle.records.get? row.proposalId = some record)
    (hfound : found = observedRow row receipt (assign (.observe row.transactionHash receipt)).now) :
    Leaves reconciler assign row receipt tracking (pollWith assign (completion row receipt record)
        (withRow tracking row.transactionHash found)).2 ∧
      ((pollWith assign (completion row receipt record)
          (withRow tracking row.transactionHash found)).1 = .ok () ↔
        canComplete tracking.lifecycle row.proposalId receipt.target = true) := by
  have hterminal := terminal_target receipt
  have hget := get?_withRow tracking row.transactionHash found
  by_cases hsubmitted : record.state = .submitted
  · have hcan : canComplete tracking.lifecycle row.proposalId receipt.target =
        hasReservation tracking.lifecycle record receipt.target := by
      rw [canComplete, hrecord]
      simp [hsubmitted]
    cases hreservation : hasReservation tracking.lifecycle record receipt.target with
    | true =>
      rw [hreservation] at hcan
      obtain ⟨updated, lifecycle, htransition, hupdated, hrecords, hsame⟩ :=
        transition_eq_ok (assign (.transition row.proposalId receipt.target)).now hterminal
          hrecord hsubmitted hreservation
      rw [pollWith_completion_of_ok hsubmitted hget htransition]
      refine ⟨leaves_completed hfinal hcan hfound ?_ hsame ?_, fun _ => hcan, fun _ => rfl⟩
      · intro otherId hother
        rw [hrecords, get?_set_ne _ hother]
      · have hmoved : lifecycle.records.get? row.proposalId = some updated := by
          rw [hrecords, get?_set_self]
        rw [stateAfter_of_get? hfinal hcan hrecord, if_pos hsubmitted, stateOf_of_get? hmoved,
          hupdated]
    | false =>
      rw [hreservation] at hcan
      obtain ⟨error, herror⟩ :=
        transition_eq_error (assign (.transition row.proposalId receipt.target)).now hterminal
          hrecord hsubmitted hreservation
      rw [pollWith_completion_of_error (withRow tracking row.transactionHash found)
        hsubmitted herror, hcan, hfound]
      refine ⟨leaves_observed fun h => ?_, nofun, nofun⟩
      rw [hcan] at h
      exact Bool.false_ne_true h.2
  · have hcan : canComplete tracking.lifecycle row.proposalId receipt.target = true := by
      rw [canComplete, hrecord]
      simp [hsubmitted]
    rw [pollWith_completion_of_ne hsubmitted hget]
    refine ⟨leaves_completed hfinal hcan hfound (fun _ _ => rfl) (fun _ => rfl) ?_,
      fun _ => hcan, fun _ => rfl⟩
    rw [stateAfter_of_get? hfinal hcan hrecord, if_neg hsubmitted, stateOf_of_get? hrecord]

variable (assign) in
/-- A well-formed receipt leaves what it calls for; the poll goes on unless the receipt is
final and its transaction cannot be completed. -/
theorem settle_leaves (hhash : reconciler.host.lower receipt.transactionHash =
      reconciler.host.lower row.transactionHash)
    (hrow : tracking.settlements.transactions.get? row.transactionHash = some row) :
    Leaves reconciler assign row receipt tracking
        (pollWith assign (reconciler.settle row receipt) tracking).2 ∧
      ((pollWith assign (reconciler.settle row receipt) tracking).1 = .ok () ↔
        (reconciler.finality ≤ receipt.confirmations →
          canComplete tracking.lifecycle row.proposalId receipt.target = true)) := by
  rw [settle_eq hhash, pollWith_call _ (perform_observe hrow)]
  by_cases hopen : receipt.confirmations < reconciler.finality
  · rw [if_pos hopen]
    exact ⟨leaves_observed fun h => absurd h.1 (not_le.mpr hopen),
      fun _ h => absurd h (not_le.mpr hopen), fun _ => rfl⟩
  have hfinal : reconciler.finality ≤ receipt.confirmations := not_lt.mp hopen
  have hread : (withRow tracking row.transactionHash (observedRow row receipt
      (assign (.observe row.transactionHash receipt)).now)).lifecycle.get row.proposalId =
      tracking.lifecycle.records.get? row.proposalId := rfl
  rw [if_neg hopen, pollWith_call _ rfl, hread]
  cases hrecord : tracking.lifecycle.records.get? row.proposalId with
  | none =>
    have hcannot : canComplete tracking.lifecycle row.proposalId receipt.target = false := by
      rw [canComplete, hrecord]
    rw [hcannot]
    refine ⟨leaves_observed fun h => ?_, nofun, fun h => absurd (h hfinal) Bool.false_ne_true⟩
    rw [hcannot] at h
    exact Bool.false_ne_true h.2
  | some record =>
    obtain ⟨hleaves, hreturns⟩ := completion_leaves assign hfinal hrecord rfl
    exact ⟨hleaves, hreturns.trans ⟨fun h _ => h, fun h => h hfinal⟩⟩

end Settle

/-! ## One transaction of a poll -/

/-- The reply of the backend of a transaction. -/
def replyTo (assign : Assignment) (tracked : TrackedTransaction) : Option ReceiptReply :=
  (assign (.receipt tracked.chainId tracked.transactionHash)).reply

/-- The backend has a receipt of the transaction. -/
structure WellFormed (reconciler : SettlementReconciler) (assign : Assignment)
    (tracked : TrackedTransaction) (receipt : EvmReceipt) : Prop where
  backend : tracked.chainId ∈ reconciler.backends
  reply : replyTo assign tracked = some (.found receipt)
  hash : reconciler.host.lower receipt.transactionHash =
    reconciler.host.lower tracked.transactionHash

/-- The poll raises at the transaction: its backend raises anything but a timeout, its receipt
has another hash, or the receipt is final and the transaction cannot be completed. -/
def Fails (reconciler : SettlementReconciler) (assign : Assignment) (store : MemoryStateStore)
    (tracked : TrackedTransaction) : Prop :=
  tracked.chainId ∈ reconciler.backends ∧
    match replyTo assign tracked with
    | none => True
    | some .timeout => False
    | some .missing => False
    | some (.found receipt) =>
      reconciler.host.lower receipt.transactionHash ≠
          reconciler.host.lower tracked.transactionHash ∨
        (reconciler.finality ≤ receipt.confirmations ∧
          canComplete store tracked.proposalId receipt.target = false)

section PollTracked

variable {reconciler : SettlementReconciler} {assign : Assignment} {tracking : Tracking}
  {tracked : TrackedTransaction}

theorem pollWith_pollTracked_of_notMem (h : tracked.chainId ∉ reconciler.backends) :
    pollWith assign (reconciler.pollTracked tracked) tracking = (.ok (), tracking) := by
  unfold SettlementReconciler.pollTracked
  rw [if_neg h]
  rfl

theorem pollWith_pollTracked_of_none (h : tracked.chainId ∈ reconciler.backends)
    (hreply : replyTo assign tracked = none) :
    pollWith assign (reconciler.pollTracked tracked) tracking = (.error .backend, tracking) := by
  unfold SettlementReconciler.pollTracked
  rw [if_pos h]
  apply pollWith_call_error
  rw [Tracking.perform]
  change (orRaise (replyTo assign tracked) PollError.backend, tracking) = _
  rw [hreply]
  rfl

theorem pollWith_pollTracked_of_some (h : tracked.chainId ∈ reconciler.backends)
    {reply : ReceiptReply} (hreply : replyTo assign tracked = some reply) :
    pollWith assign (reconciler.pollTracked tracked) tracking =
      pollWith assign (reconciler.takeReply tracked reply) tracking := by
  unfold SettlementReconciler.pollTracked
  rw [if_pos h]
  apply pollWith_call
  rw [Tracking.perform]
  change (orRaise (replyTo assign tracked) PollError.backend, tracking) = _
  rw [hreply]
  rfl

theorem pollWith_settle_of_ne {receipt : EvmReceipt}
    (hhash : reconciler.host.lower receipt.transactionHash ≠
      reconciler.host.lower tracked.transactionHash) :
    pollWith assign (reconciler.settle tracked receipt) tracking =
      (.error (.runtimeError "backend returned a receipt for a different transaction"),
        tracking) := by
  unfold SettlementReconciler.settle
  rw [raiseIf, if_pos hhash]
  rfl

theorem pollTracked_leaves {receipt : EvmReceipt}
    (hwell : WellFormed reconciler assign tracked receipt)
    (hrow : tracking.settlements.transactions.get? tracked.transactionHash = some tracked) :
    Leaves reconciler assign tracked receipt tracking
      (pollWith assign (reconciler.pollTracked tracked) tracking).2 := by
  rw [pollWith_pollTracked_of_some hwell.backend hwell.reply]
  exact (settle_leaves assign hwell.hash hrow).1

variable (reconciler assign) in
/-- A transaction of the poll touches its own row and record; the poll goes on after it unless
it fails. -/
theorem pollTracked_touches
    (hrow : tracking.settlements.transactions.get? tracked.transactionHash = some tracked) :
    Touches tracked.transactionHash tracked.proposalId tracking
        (pollWith assign (reconciler.pollTracked tracked) tracking).2 ∧
      ((pollWith assign (reconciler.pollTracked tracked) tracking).1 = .ok () ↔
        ¬ Fails reconciler assign tracking.lifecycle tracked) := by
  have hrefl := Touches.refl tracked.transactionHash tracked.proposalId tracking
  unfold Fails
  by_cases hbackend : tracked.chainId ∈ reconciler.backends
  · cases hreply : replyTo assign tracked with
    | none =>
      rw [pollWith_pollTracked_of_none hbackend hreply]
      exact ⟨hrefl, nofun, fun h => absurd ⟨hbackend, trivial⟩ h⟩
    | some reply =>
      rw [pollWith_pollTracked_of_some hbackend hreply]
      cases reply with
      | timeout => exact ⟨hrefl, fun _ h => h.2, fun _ => rfl⟩
      | missing => exact ⟨hrefl, fun _ h => h.2, fun _ => rfl⟩
      | found receipt =>
        by_cases hhash : reconciler.host.lower receipt.transactionHash =
            reconciler.host.lower tracked.transactionHash
        · obtain ⟨hleaves, hreturns⟩ := settle_leaves assign hhash hrow
          refine ⟨hleaves.touches, hreturns.trans ?_⟩
          simp [hbackend, hhash]
        · rw [SettlementReconciler.takeReply, pollWith_settle_of_ne hhash]
          exact ⟨hrefl, nofun, fun h => absurd ⟨hbackend, Or.inl hhash⟩ h⟩
  · rw [pollWith_pollTracked_of_notMem hbackend]
    exact ⟨hrefl, fun _ h => hbackend h.1, fun _ => rfl⟩

end PollTracked

/-! ## All transactions of a poll -/

/-- The row, the record and the presence of reservations that a transaction depends on. -/
structure SameFor (tracked : TrackedTransaction) (before after : Tracking) : Prop where
  row : after.settlements.transactions.get? tracked.transactionHash =
    before.settlements.transactions.get? tracked.transactionHash
  record : after.lifecycle.records.get? tracked.proposalId =
    before.lifecycle.records.get? tracked.proposalId
  reservations : SameReservations before.lifecycle after.lifecycle

def Apart (item other : TrackedTransaction) : Prop :=
  item.transactionHash ≠ other.transactionHash ∧ item.proposalId ≠ other.proposalId

section SameFor

variable {tracked : TrackedTransaction} {before middle after : Tracking}

theorem SameFor.refl (tracked : TrackedTransaction) (tracking : Tracking) :
    SameFor tracked tracking tracking :=
  ⟨rfl, rfl, fun _ => rfl⟩

theorem SameFor.trans (h : SameFor tracked before middle) (h' : SameFor tracked middle after) :
    SameFor tracked before after where
  row := h'.row.trans h.row
  record := h'.record.trans h.record
  reservations := fun reservationId =>
    (h'.reservations reservationId).trans (h.reservations reservationId)

theorem Touches.sameFor {item : TrackedTransaction}
    (h : Touches item.transactionHash item.proposalId before after) (hapart : Apart item tracked) :
    SameFor tracked before after :=
  ⟨h.rows _ hapart.1.symm, h.records _ hapart.2.symm, h.reservations⟩

theorem SameFor.canComplete_eq (h : SameFor tracked before after) (target : LifecycleState) :
    canComplete after.lifecycle tracked.proposalId target =
      canComplete before.lifecycle tracked.proposalId target := by
  unfold canComplete
  rw [h.record]
  cases before.lifecycle.records.get? tracked.proposalId with
  | none => rfl
  | some record =>
    dsimp only
    have hreservation : hasReservation after.lifecycle record target =
        hasReservation before.lifecycle record target := by
      unfold hasReservation
      cases record.reservationId with
      | none => rfl
      | some reservationId => exact h.reservations reservationId
    rw [hreservation]

theorem SameFor.state_eq (h : SameFor tracked before after) :
    stateOf after.lifecycle tracked.proposalId = stateOf before.lifecycle tracked.proposalId := by
  rw [stateOf, MemoryStateStore.get, h.record]
  rfl

variable {reconciler : SettlementReconciler}

theorem SameFor.rowAfter_eq {assign : Assignment} {receipt : EvmReceipt}
    (h : SameFor tracked before after) :
    rowAfter reconciler assign after.lifecycle tracked receipt =
      rowAfter reconciler assign before.lifecycle tracked receipt := by
  simp only [rowAfter, h.canComplete_eq]

theorem SameFor.stateAfter_eq {receipt : EvmReceipt} (h : SameFor tracked before after) :
    stateAfter reconciler after.lifecycle tracked receipt =
      stateAfter reconciler before.lifecycle tracked receipt := by
  simp only [stateAfter, h.canComplete_eq, h.state_eq]

theorem SameFor.fails_iff {assign : Assignment} (h : SameFor tracked before after) :
    Fails reconciler assign after.lifecycle tracked ↔
      Fails reconciler assign before.lifecycle tracked := by
  unfold Fails
  cases replyTo assign tracked with
  | none => rfl
  | some reply =>
    cases reply with
    | timeout => rfl
    | missing => rfl
    | found receipt =>
      dsimp only
      rw [h.canComplete_eq]

end SameFor

/-- The transactions are in the store, each under its own hash and for its own proposal. -/
structure Listed (items : List TrackedTransaction) (tracking : Tracking) : Prop where
  rows : ∀ item ∈ items,
    tracking.settlements.transactions.get? item.transactionHash = some item
  apart : items.Pairwise Apart

section PollAll

variable {reconciler : SettlementReconciler} {assign : Assignment} {tracking : Tracking}
  {item tracked : TrackedTransaction} {items earlier later : List TrackedTransaction}

variable (reconciler assign) in
/-- The others stay listed when the first has been polled. -/
theorem Listed.tail (h : Listed (item :: items) tracking) :
    Listed items (pollWith assign (reconciler.pollTracked item) tracking).2 := by
  have hapart := List.pairwise_cons.mp h.apart
  refine ⟨?_, hapart.2⟩
  intro other hother
  have htouches := (pollTracked_touches reconciler assign (h.rows item List.mem_cons_self)).1
  rw [(htouches.sameFor (hapart.1 other hother)).row]
  exact h.rows other (List.mem_cons_of_mem item hother)

theorem Listed.left (h : Listed (earlier ++ later) tracking) : Listed earlier tracking :=
  ⟨fun item hitem => h.rows item (List.mem_append_left _ hitem),
    (List.pairwise_append.mp h.apart).1⟩

theorem Listed.apart_left (h : Listed (earlier ++ tracked :: later) tracking) :
    ∀ item ∈ earlier, Apart item tracked :=
  fun item hitem => (List.pairwise_append.mp h.apart).2.2 item hitem tracked List.mem_cons_self

variable (reconciler assign) in
/-- A poll leaves alone what is apart from all its transactions, and returns if none of them
fails. -/
theorem pollAll_sameFor (hlisted : Listed items tracking) :
    (∀ tracked, (∀ item ∈ items, Apart item tracked) →
      SameFor tracked tracking (pollWith assign (reconciler.pollAll items) tracking).2) ∧
    ((pollWith assign (reconciler.pollAll items) tracking).1 = .ok () ↔
      ∀ item ∈ items, ¬ Fails reconciler assign tracking.lifecycle item) := by
  induction items generalizing tracking with
  | nil =>
    refine ⟨fun tracked _ => SameFor.refl tracked tracking, ?_⟩
    exact iff_of_true rfl fun _ hitem => absurd hitem List.not_mem_nil
  | cons item items ih =>
    obtain ⟨htouches, hreturns⟩ := pollTracked_touches reconciler assign
      (hlisted.rows item List.mem_cons_self)
    obtain ⟨hsame, hrest⟩ := ih (hlisted.tail reconciler assign)
    have hapart := (List.pairwise_cons.mp hlisted.apart).1
    rw [List.forall_mem_cons, ← hreturns]
    cases hpolled : pollWith assign (reconciler.pollTracked item) tracking with
    | mk result after =>
      rw [hpolled] at htouches hreturns hsame hrest
      cases result with
      | error error =>
        rw [SettlementReconciler.pollAll, pollWith_bind_error _ hpolled]
        refine ⟨?_, by simp⟩
        intro tracked hother
        exact htouches.sameFor (hother item List.mem_cons_self)
      | ok result =>
        rw [SettlementReconciler.pollAll, pollWith_bind _ hpolled]
        refine ⟨?_, ?_⟩
        · intro tracked hother
          exact (htouches.sameFor (hother item List.mem_cons_self)).trans
            (hsame tracked fun other hmem => hother other (List.mem_cons_of_mem item hmem))
        · have hfails : (∀ other ∈ items, ¬ Fails reconciler assign after.lifecycle other) ↔
              ∀ other ∈ items, ¬ Fails reconciler assign tracking.lifecycle other := by
            refine forall₂_congr fun other hother => not_congr ?_
            exact (htouches.sameFor (hapart other hother)).fails_iff
          exact hrest.trans (hfails.trans ⟨fun h => ⟨rfl, h⟩, fun h => h.2⟩)

theorem pollAll_append (reconciler : SettlementReconciler)
    (earlier later : List TrackedTransaction) :
    reconciler.pollAll (earlier ++ later) =
      reconciler.pollAll earlier >>= fun _ => reconciler.pollAll later := by
  induction earlier with
  | nil => rfl
  | cons item earlier ih =>
    rw [List.cons_append, SettlementReconciler.pollAll, SettlementReconciler.pollAll, ih,
      Prog.bind_assoc]

end PollAll

/-! ## Rows of a settlement store -/

/-- Every transaction is kept under its own hash, and is the one of its proposal. -/
structure Bound (settlements : MemorySettlementStore) : Prop where
  keyed : Keyed settlements
  proposals : ∀ ⦃transactionHash tracked⦄,
    settlements.transactions.get? transactionHash = some tracked →
      settlements.proposals.get? tracked.proposalId = some transactionHash

section Bound

variable {settlements : MemorySettlementStore}

theorem bound_empty : Bound .empty := ⟨nofun, nofun⟩

theorem Bound.set (h : Bound settlements) {transactionHash : Str}
    {row updated : TrackedTransaction}
    (hget : settlements.transactions.get? transactionHash = some row)
    (hhash : updated.transactionHash = row.transactionHash)
    (hproposal : updated.proposalId = row.proposalId) :
    Bound { settlements with
      transactions := settlements.transactions.set transactionHash updated } := by
  refine ⟨(kept_set h.keyed hget hhash hproposal).1, ?_⟩
  intro otherHash other hother
  rw [get?_set] at hother
  split_ifs at hother with hown
  · rw [← Option.some.inj hother, hproposal, hown]
    exact h.proposals hget
  · exact h.proposals hother

theorem Bound.register (h : Bound settlements) {after : MemorySettlementStore}
    {transactionHash : Str} {proposalId : Uuid} {chainId : Nat}
    (hregister : settlements.register transactionHash proposalId chainId = .ok after) :
    Bound after := by
  refine ⟨(kept_register h.keyed hregister).1, ?_⟩
  unfold MemorySettlementStore.register at hregister
  split at hregister
  · split_ifs at hregister
    rw [pure_eq_ok] at hregister
    rw [← hregister]
    exact h.proposals
  · rw [raiseIf_bind_eq_ok, pure_eq_ok, not_not] at hregister
    obtain ⟨hfree, rfl⟩ := hregister
    intro otherHash other hother
    dsimp only at hother ⊢
    rw [get?_set] at hother ⊢
    split_ifs at hother with hown
    · rw [← Option.some.inj hother, hown]
      exact if_pos rfl
    · have hbound := h.proposals hother
      rw [if_neg]
      · exact hbound
      · intro hsame
        rw [hsame, hfree] at hbound
        cases hbound

theorem Bound.perform {tracking : Tracking} (h : Bound tracking.settlements)
    (outcome : PollOutcome) (command : PollCommand) :
    Bound (tracking.perform outcome command).2.settlements := by
  cases command with
  | pending => exact h
  | receipt chainId transactionHash => exact h
  | getRecord proposalId target => exact h
  | observe transactionHash receipt =>
    rw [Tracking.perform, MemorySettlementStore.observe]
    cases hget : tracking.settlements.transactions.get? transactionHash with
    | none => exact h
    | some row => exact h.set hget rfl rfl
  | complete transactionHash status =>
    rw [Tracking.perform, MemorySettlementStore.complete, raiseIf]
    split_ifs
    · exact h
    · cases hget : tracking.settlements.transactions.get? transactionHash with
      | none => exact h
      | some row => exact h.set hget rfl rfl
  | transition proposalId target =>
    rw [Tracking.perform]
    split
    · exact h
    · exact h

theorem bound_run {reconciler : SettlementReconciler} {trace : List Activity}
    {state : Reconciliation} (hrun : Run (Activities reconciler) .idle trace state) :
    Bound state.tracking.settlements := by
  apply hrun.invariant (I := fun _ state => Bound state.tracking.settlements) bound_empty
  rintro _ state activity _ _ hbefore rfl
  cases activity with
  | call call => exact hbefore
  | start => exact hbefore
  | register transactionHash proposalId chainId =>
    rw [Reconciliation.perform]
    split
    · rename_i hregister
      exact hbefore.register hregister
    · exact hbefore
  | advance outcome =>
    rw [Reconciliation.perform]
    split
    · exact hbefore.perform outcome _
    · exact hbefore

theorem Bound.listed {tracking : Tracking} (h : Bound tracking.settlements) :
    Listed tracking.settlements.pending tracking := by
  have hentries : ∀ entry ∈ tracking.settlements.transactions.entries,
      tracking.settlements.transactions.get? entry.1 = some entry.2 :=
    fun entry hentry => get?_of_mem_entries hentry
  constructor
  · intro item hitem
    obtain ⟨entry, hentry, rfl⟩ := List.mem_map.mp (List.mem_filter.mp hitem).1
    rw [h.keyed (hentries entry hentry)]
    exact hentries entry hentry
  · apply List.Pairwise.filter
    rw [Dict.values, List.pairwise_map]
    have hkeys : tracking.settlements.transactions.entries.Pairwise fun a b => a.1 ≠ b.1 :=
      List.pairwise_map.mp tracking.settlements.transactions.nodup
    refine hkeys.imp_of_mem ?_
    intro first second hfirst hsecond hne
    constructor
    · rw [h.keyed (hentries first hfirst), h.keyed (hentries second hsecond)]
      exact hne
    · intro hsame
      have hbound := h.proposals (hentries first hfirst)
      rw [hsame, h.proposals (hentries second hsecond)] at hbound
      exact hne (Option.some.inj hbound).symm

end Bound

/-! ## Isolation -/

/-- The stores with the transaction as the only one. -/
def alone (tracking : Tracking) (tracked : TrackedTransaction) : Tracking :=
  { tracking with settlements := { tracking.settlements with
    transactions := Dict.empty.set tracked.transactionHash tracked } }

/-- A poll leaves the transaction in the settlement and lifecycle state in which a poll of it
alone would. -/
def FaresAlone (reconciler : SettlementReconciler) (assign : Assignment) (tracking : Tracking)
    (tracked : TrackedTransaction) : Prop :=
  let after := (pollWith assign reconciler.pollOnce tracking).2
  let single := (pollWith assign reconciler.pollOnce (alone tracking tracked)).2
  after.settlements.transactions.get? tracked.transactionHash =
      single.settlements.transactions.get? tracked.transactionHash ∧
    stateOf after.lifecycle tracked.proposalId = stateOf single.lifecycle tracked.proposalId

/-- The row shows the receipt already, observed at this very instant, and the receipt does not
complete the transaction. -/
structure Shown (reconciler : SettlementReconciler) (assign : Assignment)
    (store : MemoryStateStore) (tracked : TrackedTransaction) (receipt : EvmReceipt) : Prop where
  incomplete : reconciler.finality ≤ receipt.confirmations →
    canComplete store tracked.proposalId receipt.target = false
  blockHash : tracked.blockHash = some receipt.blockHash
  blockNumber : tracked.blockNumber = some receipt.blockNumber
  success : tracked.success = some receipt.success
  confirmations : tracked.confirmations = receipt.confirmations
  observedAt : tracked.observedAt =
    some (assign (.observe tracked.transactionHash receipt)).now

section Isolation

variable {reconciler : SettlementReconciler} {assign : Assignment} {tracking : Tracking}
  {tracked : TrackedTransaction} {receipt : EvmReceipt} {earlier later : List TrackedTransaction}

theorem observedRow_eq_self {row : TrackedTransaction} {now : Datetime} :
    observedRow row receipt now = row ↔ row.blockHash = some receipt.blockHash ∧
      row.blockNumber = some receipt.blockNumber ∧ row.success = some receipt.success ∧
      row.confirmations = receipt.confirmations ∧ row.observedAt = some now := by
  constructor
  · intro h
    refine ⟨?_, ?_, ?_, ?_, ?_⟩
    · exact (congrArg TrackedTransaction.blockHash h).symm
    · exact (congrArg TrackedTransaction.blockNumber h).symm
    · exact (congrArg TrackedTransaction.success h).symm
    · exact (congrArg TrackedTransaction.confirmations h).symm
    · exact (congrArg TrackedTransaction.observedAt h).symm
  · rintro ⟨hblock, hnumber, hsuccess, hconfirmations, hobserved⟩
    cases row
    simp_all [observedRow]

theorem rowAfter_eq_self (hpending : tracked.status = .pending) :
    rowAfter reconciler assign tracking.lifecycle tracked receipt = tracked ↔
      Shown reconciler assign tracking.lifecycle tracked receipt := by
  unfold rowAfter
  dsimp only
  split_ifs with hcompletes
  · constructor
    · intro h
      have hstatus := congrArg TrackedTransaction.status h
      rw [hpending] at hstatus
      rcases terminal_target receipt with htarget | htarget <;> rw [htarget] at hstatus <;>
        cases hstatus
    · intro h
      rw [h.incomplete hcompletes.1] at hcompletes
      exact absurd hcompletes.2 Bool.false_ne_true
  · rw [observedRow_eq_self]
    constructor
    · rintro ⟨hblock, hnumber, hsuccess, hconfirmations, hobserved⟩
      refine ⟨fun hfinal => ?_, hblock, hnumber, hsuccess, hconfirmations, hobserved⟩
      exact Bool.eq_false_iff.mpr fun hcan => hcompletes ⟨hfinal, hcan⟩
    · intro h
      exact ⟨h.blockHash, h.blockNumber, h.success, h.confirmations, h.observedAt⟩

theorem stateAfter_of_shown (h : Shown reconciler assign tracking.lifecycle tracked receipt) :
    stateAfter reconciler tracking.lifecycle tracked receipt =
      stateOf tracking.lifecycle tracked.proposalId := by
  rw [stateAfter, if_neg]
  rintro ⟨hfinal, hcan, _⟩
  rw [h.incomplete hfinal] at hcan
  exact Bool.false_ne_true hcan

theorem pollOnce_eq : pollWith assign reconciler.pollOnce tracking =
    pollWith assign (reconciler.pollAll tracking.settlements.pending) tracking :=
  pollWith_call _ rfl

theorem pending_alone (hpending : tracked.status = .pending) :
    (alone tracking tracked).settlements.pending = [tracked] := by
  have hvalues : (alone tracking tracked).settlements.transactions.values = [tracked] := rfl
  rw [MemorySettlementStore.pending, hvalues]
  simp [hpending]

/-- The first transaction of a poll is left by it as by a poll of it alone. -/
theorem head_leaves (hlisted : Listed (tracked :: later) tracking)
    (hwell : WellFormed reconciler assign tracked receipt) :
    (pollWith assign (reconciler.pollAll (tracked :: later)) tracking).2.settlements.transactions.get?
        tracked.transactionHash =
      some (rowAfter reconciler assign tracking.lifecycle tracked receipt) ∧
    stateOf (pollWith assign (reconciler.pollAll (tracked :: later)) tracking).2.lifecycle
        tracked.proposalId = stateAfter reconciler tracking.lifecycle tracked receipt := by
  have hleaves := pollTracked_leaves hwell (hlisted.rows tracked List.mem_cons_self)
  have hrest : SameFor tracked (pollWith assign (reconciler.pollTracked tracked) tracking).2
      (pollWith assign (reconciler.pollAll (tracked :: later)) tracking).2 := by
    have htail := (pollAll_sameFor reconciler assign (hlisted.tail reconciler assign)).1 tracked
      fun item hitem => ⟨((List.pairwise_cons.mp hlisted.apart).1 item hitem).1.symm,
        ((List.pairwise_cons.mp hlisted.apart).1 item hitem).2.symm⟩
    rw [SettlementReconciler.pollAll]
    cases hpolled : pollWith assign (reconciler.pollTracked tracked) tracking with
    | mk result after =>
      rw [hpolled] at htail
      cases result with
      | error error =>
        rw [pollWith_bind_error _ hpolled]
        exact SameFor.refl tracked after
      | ok result =>
        rw [pollWith_bind _ hpolled]
        exact htail
  exact ⟨hrest.row.trans hleaves.settlement, hrest.state_eq.trans hleaves.state⟩

variable (tracking) in
theorem alone_leaves (hpending : tracked.status = .pending)
    (hwell : WellFormed reconciler assign tracked receipt) :
    (pollWith assign reconciler.pollOnce (alone tracking tracked)).2.settlements.transactions.get?
        tracked.transactionHash =
      some (rowAfter reconciler assign tracking.lifecycle tracked receipt) ∧
    stateOf (pollWith assign reconciler.pollOnce (alone tracking tracked)).2.lifecycle
        tracked.proposalId = stateAfter reconciler tracking.lifecycle tracked receipt := by
  have hlisted : Listed [tracked] (alone tracking tracked) := by
    refine ⟨?_, List.pairwise_singleton _ _⟩
    intro item hitem
    rw [List.mem_singleton.mp hitem]
    exact get?_set_self _ _ _
  rw [pollOnce_eq, pending_alone hpending]
  exact head_leaves hlisted hwell

/-- A transaction with nothing failing before it is left as by a poll of it alone. -/
theorem leaves_of_notFails (hlisted : Listed (earlier ++ tracked :: later) tracking)
    (hearlier : ∀ item ∈ earlier, ¬ Fails reconciler assign tracking.lifecycle item)
    (hwell : WellFormed reconciler assign tracked receipt) :
    (pollWith assign (reconciler.pollAll (earlier ++ tracked :: later))
        tracking).2.settlements.transactions.get? tracked.transactionHash =
      some (rowAfter reconciler assign tracking.lifecycle tracked receipt) ∧
    stateOf (pollWith assign (reconciler.pollAll (earlier ++ tracked :: later)) tracking).2.lifecycle
        tracked.proposalId = stateAfter reconciler tracking.lifecycle tracked receipt := by
  obtain ⟨hsame, hreturns⟩ := pollAll_sameFor reconciler assign hlisted.left
  cases hpolled : pollWith assign (reconciler.pollAll earlier) tracking with
  | mk result middle =>
    rw [hpolled] at hsame hreturns
    cases result with
    | error error => cases hreturns.mpr hearlier
    | ok result =>
      have happend := List.pairwise_append.mp hlisted.apart
      have hright : Listed (tracked :: later) middle := by
        refine ⟨fun item hitem => ?_, happend.2.1⟩
        rw [(hsame item fun other hother => happend.2.2 other hother item hitem).row]
        exact hlisted.rows item (List.mem_append_right _ hitem)
      have htracked := hsame tracked hlisted.apart_left
      rw [pollAll_append, pollWith_bind _ hpolled, ← htracked.rowAfter_eq,
        ← htracked.stateAfter_eq]
      exact head_leaves hright hwell

/-- A transaction with something failing before it is left as it was. -/
theorem sameFor_of_fails (hlisted : Listed (earlier ++ tracked :: later) tracking)
    {failing : TrackedTransaction} (hmem : failing ∈ earlier)
    (hfails : Fails reconciler assign tracking.lifecycle failing) :
    SameFor tracked tracking
      (pollWith assign (reconciler.pollAll (earlier ++ tracked :: later)) tracking).2 := by
  obtain ⟨hsame, hreturns⟩ := pollAll_sameFor reconciler assign hlisted.left
  cases hpolled : pollWith assign (reconciler.pollAll earlier) tracking with
  | mk result middle =>
    rw [hpolled] at hsame hreturns
    cases result with
    | ok result => exact absurd hfails (hreturns.mp rfl failing hmem)
    | error error =>
      rw [pollAll_append, pollWith_bind_error _ hpolled]
      exact hsame tracked hlisted.apart_left

theorem faresAlone_iff (hlisted : Listed (earlier ++ tracked :: later) tracking)
    (hitems : tracking.settlements.pending = earlier ++ tracked :: later)
    (hwell : WellFormed reconciler assign tracked receipt) :
    FaresAlone reconciler assign tracking tracked ↔
      (∀ item ∈ earlier, ¬ Fails reconciler assign tracking.lifecycle item) ∨
        Shown reconciler assign tracking.lifecycle tracked receipt := by
  have hpending : tracked.status = .pending := by
    have hmem : tracked ∈ tracking.settlements.pending := by
      rw [hitems]
      exact List.mem_append_right _ List.mem_cons_self
    exact of_decide_eq_true (List.mem_filter.mp hmem).2
  have hrow := hlisted.rows tracked (List.mem_append_right _ List.mem_cons_self)
  obtain ⟨hsingleRow, hsingleState⟩ := alone_leaves tracking hpending hwell
  unfold FaresAlone
  dsimp only
  rw [hsingleRow, hsingleState, pollOnce_eq, hitems]
  by_cases hearlier : ∀ item ∈ earlier, ¬ Fails reconciler assign tracking.lifecycle item
  · exact ⟨fun _ => Or.inl hearlier, fun _ => leaves_of_notFails hlisted hearlier hwell⟩
  · obtain ⟨failing, hmem, hfails⟩ : ∃ item ∈ earlier,
        Fails reconciler assign tracking.lifecycle item := by
      simpa using hearlier
    have hsame := sameFor_of_fails hlisted hmem hfails
    rw [hsame.row, hsame.state_eq, hrow, Option.some.injEq, eq_comm (a := tracked),
      rowAfter_eq_self hpending]
    constructor
    · rintro ⟨hshown, _⟩
      exact Or.inr hshown
    · rintro (hnone | hshown)
      · exact absurd hnone hearlier
      · exact ⟨hshown, (stateAfter_of_shown hshown).symm⟩

/-- In every state of every run, a poll leaves each transaction that has a well-formed receipt
as a poll of it alone would, exactly if before each of them no transaction fails, or there is
nothing to change. -/
theorem poll_isolates_iff {trace : List Activity} {state : Reconciliation}
    (hrun : Run (Activities reconciler) .idle trace state) (assign : Assignment) :
    (∀ tracked receipt, tracked ∈ state.tracking.settlements.pending →
      WellFormed reconciler assign tracked receipt →
        FaresAlone reconciler assign state.tracking tracked) ↔
    ∀ earlier tracked later receipt,
      state.tracking.settlements.pending = earlier ++ tracked :: later →
      WellFormed reconciler assign tracked receipt →
        (∀ item ∈ earlier, ¬ Fails reconciler assign state.tracking.lifecycle item) ∨
          Shown reconciler assign state.tracking.lifecycle tracked receipt := by
  have hlisted := (bound_run hrun).listed
  constructor
  · intro h earlier tracked later receipt hitems hwell
    have hmem : tracked ∈ state.tracking.settlements.pending := by
      rw [hitems]
      exact List.mem_append_right _ List.mem_cons_self
    rw [hitems] at hlisted
    exact (faresAlone_iff hlisted hitems hwell).mp (h tracked receipt hmem hwell)
  · intro h tracked receipt hmem hwell
    obtain ⟨earlier, later, hitems⟩ := List.append_of_mem hmem
    rw [hitems] at hlisted
    exact (faresAlone_iff hlisted hitems hwell).mpr (h earlier tracked later receipt hitems hwell)

end Isolation

section Samples

open SignedEffect BudgetSafety

/-- Two submitted transfers. -/
def submittedTrace : List Activity :=
  submits firstProposal firstHash firstReservation ++
    submits secondProposal secondHash secondReservation

def submittedTracking : Tracking := (afterActivities submittedTrace).tracking

def firstTracked : TrackedTransaction := .new firstHash firstProposal.proposalId.val 31337

def secondTracked : TrackedTransaction := .new secondHash secondProposal.proposalId.val 31337

/-- A reply for the first transfer, and a final receipt of the second. -/
def replies (first : Option ReceiptReply) : Assignment
  | .receipt _ transactionHash =>
    ⟨if transactionHash = firstHash then first else some (.found (receiptFor secondHash)),
      sampleExpiry⟩
  | _ => ⟨none, sampleExpiry⟩

/-- The settlement status of a transaction and the lifecycle state of its proposal. -/
def outcomeOf (tracking : Tracking) (tracked : TrackedTransaction) :
    Option SettlementStatus × Option LifecycleState :=
  ((tracking.settlements.transactions.get? tracked.transactionHash).map (·.status),
    stateOf tracking.lifecycle tracked.proposalId)

theorem pending_submitted :
    submittedTracking.settlements.pending = [firstTracked, secondTracked] := by
  decide +kernel

theorem wellFormed_second (first : Option ReceiptReply) :
    WellFormed sampleReconciler (replies first) secondTracked (receiptFor secondHash) where
  backend := List.mem_singleton_self _
  reply := by
    have hne : secondTracked.transactionHash ≠ firstHash := by decide +kernel
    rw [replyTo, replies, if_neg hne]
  hash := rfl

/-- The backend of the first transfer times out, and the second is settled. -/
theorem timeout_isolated :
    outcomeOf (pollWith (replies (some .timeout)) sampleReconciler.pollOnce submittedTracking).2
        secondTracked = (some .settled, some .settled) ∧
      FaresAlone sampleReconciler (replies (some .timeout)) submittedTracking secondTracked := by
  have hfacts : outcomeOf (pollWith (replies (some .timeout)) sampleReconciler.pollOnce
        submittedTracking).2 secondTracked = (some .settled, some .settled) ∧
      canComplete submittedTracking.lifecycle secondTracked.proposalId .settled = true := by
    decide +kernel
  obtain ⟨hsettled, hcan⟩ := hfacts
  have hfirst : ¬ Fails sampleReconciler (replies (some .timeout)) submittedTracking.lifecycle
      firstTracked := by
    have hsame : firstTracked.transactionHash = firstHash := rfl
    have hreply : replyTo (replies (some .timeout)) firstTracked = some .timeout := by
      rw [replyTo, replies, if_pos hsame]
    rintro ⟨_, hfails⟩
    rw [hreply] at hfails
    exact hfails
  have hsecond : ¬ Fails sampleReconciler (replies (some .timeout)) submittedTracking.lifecycle
      secondTracked := by
    rintro ⟨_, hfails⟩
    rw [(wellFormed_second _).reply] at hfails
    rcases hfails with hhash | ⟨_, hcannot⟩
    · exact hhash rfl
    · rw [show (receiptFor secondHash).target = .settled from rfl, hcan] at hcannot
      cases hcannot
  refine ⟨hsettled, (poll_isolates_iff (activities_run submittedTrace) _).mpr ?_ secondTracked
    (receiptFor secondHash) ?_ (wellFormed_second _)⟩
  · intro earlier tracked later receipt hitems _
    left
    intro item hitem
    have hmem : item ∈ submittedTracking.settlements.pending := by
      rw [submittedTracking, hitems]
      exact List.mem_append_left _ hitem
    rw [pending_submitted] at hmem
    rcases List.mem_cons.mp hmem with rfl | hmem
    · exact hfirst
    · obtain rfl := List.mem_singleton.mp hmem
      exact hsecond
  · change secondTracked ∈ submittedTracking.settlements.pending
    rw [pending_submitted]
    exact List.mem_cons_of_mem _ (List.mem_singleton_self _)

/-- The backend of the first transfer raises, or has the receipt of another transaction: the
second stays pending, though alone it would have been settled. -/
theorem failure_not_isolated :
    Run (Activities sampleReconciler) .idle submittedTrace (afterActivities submittedTrace) ∧
      submittedTracking.settlements.pending = [firstTracked, secondTracked] ∧
      WellFormed sampleReconciler (replies none) secondTracked (receiptFor secondHash) ∧
      outcomeOf (pollWith (replies none) sampleReconciler.pollOnce submittedTracking).2
        secondTracked = (some .pending, some .submitted) ∧
      outcomeOf (pollWith (replies none) sampleReconciler.pollOnce
        (alone submittedTracking secondTracked)).2 secondTracked =
          (some .settled, some .settled) ∧
      outcomeOf (pollWith (replies (some (.found (receiptFor secondHash))))
        sampleReconciler.pollOnce submittedTracking).2 secondTracked =
          (some .pending, some .submitted) := by
  refine ⟨activities_run submittedTrace, pending_submitted, wellFormed_second none, ?_⟩
  decide +kernel

end Samples

end AegisLedger.Gateway.PollIsolation
