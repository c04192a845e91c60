import AegisLedger.Gateway.Postgres
import AegisLedger.Gateway.Proofs.BudgetSafety
import AegisLedger.Support.Run

/-!
# Reservation safety in PostgreSQL

In every serial run of the adapter's transactions, the state of a proposal determines
the status of its reservation.  Admission, denial, the idempotent repetition and each
kind of transition keep this, and the declared constraints do the rest: a reservation
belongs to one proposal, and an identifier or a key that is used again is refused.
-/

namespace AegisLedger.Gateway.PostgresSafety

open AegisLedger.Support Checks Table
open Database

/-! ## What the transactions do -/

variable {db after : Database} {row : ProposalRow}

theorem insertProposal_eq_ok (h : db.insertProposal row = .ok after) :
    row.id ∉ db.proposals.map ProposalRow.id ∧ after.proposals = db.proposals ++ [row] ∧
      after.reservations = db.reservations := by
  unfold insertProposal at h
  split_ifs at h with hrow
  rw [Except.ok.injEq] at h
  subst h
  exact ⟨hrow.2.1, rfl, rfl⟩

theorem insertReservation_eq_ok {row : ReservationRow} (h : db.insertReservation row = .ok after) :
    after.proposals = db.proposals ∧ after.reservations = db.reservations ++ [row] := by
  unfold insertReservation at h
  split_ifs at h
  rw [Except.ok.injEq] at h
  subst h
  exact ⟨rfl, rfl⟩

variable {host : Host} {server : Server} {now : Datetime}

/-- A committed `reserve` changes nothing, or files a denied proposal, or files a
reserved one with its reservation. -/
theorem reserveOnce_cases {proposal : ProposalV1} {policy : PolicyV1} {deadlineNow : Datetime}
    {reservationId : Uuid} {result : ReservationResult}
    (h : reserveOnce host server db proposal policy deadlineNow now reservationId =
      .ok (result, after)) :
    after = db ∨
      ∃ proposalHash reasons, proposal.proposalId.val ∉ db.proposals.map ProposalRow.id ∧
        scopeReasons server db proposal policy deadlineNow now = .ok reasons ∧
        after.proposals = db.proposals ++ [newRow proposal proposalHash reasons now] ∧
        ((reasons ≠ [] ∧ after.reservations = db.reservations) ∨
          (reasons = [] ∧ after.reservations =
            db.reservations ++ [newReservation proposal reservationId now])) := by
  unfold reserveOnce at h
  split at h
  · rw [orRaise_bind_eq_ok] at h
    obtain ⟨record, _, h⟩ := h
    rw [pure_eq_ok, Prod.mk.injEq] at h
    exact Or.inl h.2.symm
  · rw [bind_eq_ok] at h
    obtain ⟨reasons, hreasons, h⟩ := h
    rw [mapError_bind_eq_ok] at h
    obtain ⟨proposalHash, _, h⟩ := h
    rw [bind_eq_ok] at h
    obtain ⟨inserted, hinserted, h⟩ := h
    obtain ⟨hnew, hproposals, hreservations⟩ := insertProposal_eq_ok hinserted
    right
    refine ⟨proposalHash, reasons, hnew, hreasons, ?_⟩
    by_cases hempty : reasons = []
    · rw [if_pos hempty, bind_eq_ok] at h
      obtain ⟨stored, hstored, h⟩ := h
      rw [orRaise_bind_eq_ok] at h
      obtain ⟨record, _, h⟩ := h
      rw [pure_eq_ok, Prod.mk.injEq] at h
      obtain ⟨-, rfl⟩ := h
      obtain ⟨hkept, happended⟩ := insertReservation_eq_ok hstored
      rw [hproposals] at hkept
      rw [hreservations] at happended
      exact ⟨hkept, Or.inr ⟨hempty, happended⟩⟩
    · rw [if_neg hempty, pure_bind, orRaise_bind_eq_ok] at h
      obtain ⟨record, _, h⟩ := h
      rw [pure_eq_ok, Prod.mk.injEq] at h
      obtain ⟨-, rfl⟩ := h
      exact ⟨hproposals, Or.inl ⟨hempty, hreservations⟩⟩

/-- The status that a transition to `target` closes an active reservation with. -/
def closing : LifecycleState → Option ReservationStatus
  | .expired | .reverted => some .released
  | .settled => some .settled
  | .proposed | .reserved | .signed | .submitted | .denied => none

variable {proposalId : Uuid} {target : LifecycleState}

theorem applyTarget_cases {applied : Database}
    (h : db.applyTarget proposalId target now = .ok applied) :
    (closing target = none ∧ applied = db) ∨
      ∃ status, closing target = some status ∧
        applied = db.closeReservation proposalId status now := by
  cases target with
  | expired | reverted =>
    rw [applyTarget, pure_eq_ok] at h
    exact Or.inr ⟨.released, rfl, h.symm⟩
  | settled =>
    rw [applyTarget, raiseIf_bind_eq_ok, pure_eq_ok] at h
    exact Or.inr ⟨.settled, rfl, h.2.symm⟩
  | proposed | reserved | signed | submitted | denied =>
    rw [applyTarget, pure_eq_ok] at h
    · exact Or.inl ⟨rfl, h.symm⟩
    all_goals simp

theorem record_eq_some {record : ProposalRecord} (h : db.record proposalId = some record) :
    ∃ row, lookup ProposalRow.id db.proposals proposalId = some row ∧
      record.state = row.state := by
  obtain ⟨row, hrow, rfl⟩ := Option.map_eq_some_iff.mp h
  exact ⟨row, hrow, rfl⟩

theorem transition_cases {record : ProposalRecord}
    (h : db.transition proposalId target now = .ok (record, after)) :
    ∃ row applied, lookup ProposalRow.id db.proposals proposalId = some row ∧
      target ∈ allowedTransitions row.state ∧
      ((closing target = none ∧ applied = db) ∨
        ∃ status, closing target = some status ∧
          applied = db.closeReservation proposalId status now) ∧
      after = applied.setState proposalId target now := by
  rw [transition, orRaise_bind_eq_ok] at h
  obtain ⟨before, hbefore, h⟩ := h
  rw [mapError_bind_eq_ok] at h
  obtain ⟨_, hallowed, h⟩ := h
  rw [bind_eq_ok] at h
  obtain ⟨applied, happlied, h⟩ := h
  rw [orRaise_bind_eq_ok] at h
  obtain ⟨updated, _, h⟩ := h
  rw [requireTransition, raiseIf_eq_ok, not_not] at hallowed
  rw [pure_eq_ok, Prod.mk.injEq] at h
  obtain ⟨row, hrow, hstate⟩ := record_eq_some hbefore
  rw [hstate] at hallowed
  exact ⟨row, applied, hrow, hallowed, applyTarget_cases happlied, h.2.symm⟩

/-! ## A proposal and its reservation -/

/-- The status of the reservation of a proposal, if it has one. -/
def statusOf (db : Database) (proposalId : Uuid) : Option ReservationStatus :=
  (lookup ReservationRow.proposalId db.reservations proposalId).map ReservationRow.status

/-- The status that goes with a state. -/
def expected : LifecycleState → Option ReservationStatus
  | .reserved | .signed | .submitted => some .active
  | .settled => some .settled
  | .reverted | .expired => some .released
  | .denied | .proposed => none

/-- Every state is reached with the reservation it requires, and the columns repeat the
body. -/
structure Consistent (db : Database) : Prop where
  state : ∀ row ∈ db.proposals, row.state ≠ .proposed
  status : ∀ row ∈ db.proposals, statusOf db row.id = expected row.state
  columns : ∀ row ∈ db.proposals, row.amount = row.body.amount.val
  amount : ∀ reservation ∈ db.reservations, ∀ row ∈ db.proposals,
    row.id = reservation.proposalId → reservation.amount = row.amount

theorem consistent_empty : Consistent .empty where
  state := List.forall_mem_nil _
  status := List.forall_mem_nil _
  columns := List.forall_mem_nil _
  amount := List.forall_mem_nil _

/-- No reservation names a proposal that is not there. -/
theorem lookup_reservation_eq_none (db : Database)
    (hnew : proposalId ∉ db.proposals.map ProposalRow.id) :
    lookup ReservationRow.proposalId db.reservations proposalId = none := by
  rw [lookup_eq_none_iff, List.mem_map]
  rintro ⟨row, hrow, rfl⟩
  exact hnew (db.references row hrow)

theorem consistent_reserve (hdb : Consistent db) {proposal : ProposalV1} {proposalHash : Str}
    {reasons : List ReasonCode} {reservationId : Uuid}
    (hnew : proposal.proposalId.val ∉ db.proposals.map ProposalRow.id)
    (hproposals : after.proposals = db.proposals ++ [newRow proposal proposalHash reasons now])
    (hreservations : (reasons ≠ [] ∧ after.reservations = db.reservations) ∨
      (reasons = [] ∧ after.reservations =
        db.reservations ++ [newReservation proposal reservationId now])) : Consistent after := by
  have hunreserved := lookup_reservation_eq_none db hnew
  have hold : ∀ row ∈ db.proposals, row.id ≠ proposal.proposalId.val := by
    intro row hrow hid
    exact hnew (hid ▸ List.mem_map_of_mem hrow)
  have hstatus : ∀ row ∈ db.proposals, statusOf after row.id = statusOf db row.id := by
    intro row hrow
    rcases hreservations with ⟨_, hsame⟩ | ⟨_, happended⟩
    · rw [statusOf, hsame, statusOf]
    · rw [statusOf, happended, lookup_append, if_neg, Option.or_none, statusOf]
      exact (hold row hrow).symm
  constructor
  · rw [hproposals, List.forall_mem_append, List.forall_mem_singleton]
    refine ⟨hdb.state, ?_⟩
    dsimp only [newRow]
    split_ifs
    · simp
    · simp
  · rw [hproposals, List.forall_mem_append, List.forall_mem_singleton]
    constructor
    · intro row hrow
      rw [hstatus row hrow]
      exact hdb.status row hrow
    · rcases hreservations with ⟨hreasons, hsame⟩ | ⟨hreasons, happended⟩
      · rw [statusOf, hsame]
        dsimp only [newRow]
        rw [hunreserved, if_neg hreasons]
        rfl
      · rw [statusOf, happended]
        dsimp only [newRow]
        rw [lookup_append, hunreserved, if_pos hreasons]
        simp [newReservation, expected]
  · rw [hproposals, List.forall_mem_append, List.forall_mem_singleton]
    exact ⟨hdb.columns, rfl⟩
  · have hknown : ∀ reservation ∈ db.reservations, ∀ row ∈ after.proposals,
        row.id = reservation.proposalId → reservation.amount = row.amount := by
      intro reservation hreservation row hrow hid
      rw [hproposals, List.mem_append, List.mem_singleton] at hrow
      rcases hrow with hrow | rfl
      · exact hdb.amount reservation hreservation row hrow hid
      · have hreference := db.references reservation hreservation
        rw [← hid] at hreference
        exact absurd hreference hnew
    rcases hreservations with ⟨_, hsame⟩ | ⟨_, happended⟩
    · rw [hsame]
      exact hknown
    · rw [happended, List.forall_mem_append, List.forall_mem_singleton]
      refine ⟨hknown, ?_⟩
      intro row hrow hid
      rw [hproposals, List.mem_append, List.mem_singleton] at hrow
      rcases hrow with hrow | rfl
      · exact absurd hid (hold row hrow)
      · rfl

/-- What a legal move needs and leads to. -/
theorem expected_of_allowed {state : LifecycleState} (hstate : state ≠ .proposed)
    (hallowed : target ∈ allowedTransitions state) :
    expected state = some .active ∧ target ≠ .proposed ∧
      expected target = some ((closing target).getD .active) := by
  revert hstate hallowed
  cases state <;> cases target <;> decide

theorem lookup_closeReservation (db : Database) (proposalId : Uuid) (status : ReservationStatus)
    (now : Datetime) (otherId : Uuid) :
    lookup ReservationRow.proposalId (db.closeReservation proposalId status now).reservations
        otherId =
      (lookup ReservationRow.proposalId db.reservations otherId).map fun row =>
        if isActiveFor proposalId row then close status now row else row :=
  lookup_updateWhere (close_proposalId status now) db.reservations otherId

theorem statusOf_closeReservation_ne (db : Database) {otherId : Uuid} (status : ReservationStatus)
    (now : Datetime) (hne : otherId ≠ proposalId) :
    statusOf (db.closeReservation proposalId status now) otherId = statusOf db otherId := by
  rw [statusOf, lookup_closeReservation, statusOf, Option.map_map]
  cases hlookup : lookup ReservationRow.proposalId db.reservations otherId with
  | none => rfl
  | some row =>
    obtain ⟨-, hid⟩ := mem_of_lookup hlookup
    have hother : isActiveFor proposalId row = false := by
      simp [isActiveFor, hid, hne]
    simp [hother]

theorem statusOf_closeReservation_self {status : ReservationStatus} (now : Datetime)
    (hactive : statusOf db proposalId = some .active) :
    statusOf (db.closeReservation proposalId status now) proposalId = some status := by
  obtain ⟨row, hlookup, hstatus⟩ := Option.map_eq_some_iff.mp hactive
  obtain ⟨-, hid⟩ := mem_of_lookup hlookup
  have hown : isActiveFor proposalId row = true := by
    simp [isActiveFor, hid, hstatus]
  rw [statusOf, lookup_closeReservation, hlookup]
  cases status with
  | active => simp [close, hstatus]
  | released => simp [hown, close]
  | settled => simp [hown, close]

/-- A closed reservation keeps its proposal and its amount. -/
theorem mem_closeReservation {status : ReservationStatus} {reservation : ReservationRow}
    (h : reservation ∈ (db.closeReservation proposalId status now).reservations) :
    ∃ old ∈ db.reservations, old.proposalId = reservation.proposalId ∧
      old.amount = reservation.amount := by
  obtain ⟨old, hold, rfl⟩ := mem_updateWhere.mp h
  refine ⟨old, hold, ?_⟩
  split_ifs
  · exact ⟨(close_proposalId status now old).symm, (close_amount status now old).symm⟩
  · exact ⟨rfl, rfl⟩

theorem consistent_transition {applied : Database} (hdb : Consistent db)
    (hrow : lookup ProposalRow.id db.proposals proposalId = some row)
    (hallowed : target ∈ allowedTransitions row.state)
    (happlied : (closing target = none ∧ applied = db) ∨
      ∃ status, closing target = some status ∧
        applied = db.closeReservation proposalId status now) :
    Consistent (applied.setState proposalId target now) := by
  obtain ⟨hmem, hid⟩ := mem_of_lookup hrow
  obtain ⟨hactive, htarget, hexpected⟩ := expected_of_allowed (hdb.state row hmem) hallowed
  have hstatus := hdb.status row hmem
  rw [hactive, hid] at hstatus
  have hproposals : applied.proposals = db.proposals := by
    rcases happlied with ⟨_, rfl⟩ | ⟨status, _, rfl⟩
    · rfl
    · rfl
  have hother : ∀ otherId, otherId ≠ proposalId →
      statusOf applied otherId = statusOf db otherId := by
    intro otherId hne
    rcases happlied with ⟨_, rfl⟩ | ⟨status, _, rfl⟩
    · rfl
    · exact statusOf_closeReservation_ne db status now hne
  have hself : statusOf applied proposalId = expected target := by
    rcases happlied with ⟨hnone, rfl⟩ | ⟨status, hsome, rfl⟩
    · rw [hexpected, hnone, hstatus]
      rfl
    · rw [hexpected, hsome, statusOf_closeReservation_self now hstatus]
      rfl
  have hcases : ∀ updated ∈ (applied.setState proposalId target now).proposals,
      ∃ old ∈ db.proposals, (old.id = proposalId ∧ updated = enter target now old) ∨
        (old.id ≠ proposalId ∧ updated = old) := by
    intro updated hupdated
    obtain ⟨old, hold, rfl⟩ := mem_updateWhere.mp hupdated
    rw [hproposals] at hold
    refine ⟨old, hold, ?_⟩
    by_cases hown : old.id = proposalId
    · exact Or.inl ⟨hown, if_pos (by simpa using hown)⟩
    · exact Or.inr ⟨hown, if_neg (by simpa using hown)⟩
  constructor
  · intro updated hupdated
    obtain ⟨old, hold, ⟨_, rfl⟩ | ⟨_, rfl⟩⟩ := hcases updated hupdated
    · exact htarget
    · exact hdb.state updated hold
  · intro updated hupdated
    obtain ⟨old, hold, ⟨hown, rfl⟩ | ⟨hne, rfl⟩⟩ := hcases updated hupdated
    · rw [enter_id, hown]
      exact hself
    · have hsame := hother updated.id hne
      rw [hdb.status updated hold] at hsame
      exact hsame
  · intro updated hupdated
    obtain ⟨old, hold, ⟨_, rfl⟩ | ⟨_, rfl⟩⟩ := hcases updated hupdated
    · exact hdb.columns old hold
    · exact hdb.columns updated hold
  · intro reservation hreservation updated hupdated hreference
    have hbefore : ∃ old ∈ db.reservations, old.proposalId = reservation.proposalId ∧
        old.amount = reservation.amount := by
      rcases happlied with ⟨_, rfl⟩ | ⟨status, _, rfl⟩
      · exact ⟨reservation, hreservation, rfl, rfl⟩
      · exact mem_closeReservation hreservation
    obtain ⟨oldReservation, holdReservation, hproposal, hamount⟩ := hbefore
    rw [← hproposal] at hreference
    rw [← hamount]
    obtain ⟨old, hold, ⟨_, rfl⟩ | ⟨_, rfl⟩⟩ := hcases updated hupdated
    · exact hdb.amount oldReservation holdReservation old hold hreference
    · exact hdb.amount oldReservation holdReservation updated hold hreference

theorem consistent_step {transaction : Transaction} (hdb : Consistent db)
    (hstep : Step host server db transaction after) : Consistent after := by
  cases hstep with
  | rollback => exact hdb
  | reserve hreserve =>
    rcases reserveOnce_cases hreserve with rfl |
      ⟨proposalHash, reasons, hnew, _, hproposals, hreservations⟩
    · exact hdb
    · exact consistent_reserve hdb hnew hproposals hreservations
  | transition htransition =>
    obtain ⟨row, applied, hrow, hallowed, happlied, rfl⟩ := transition_cases htransition
    exact consistent_transition hdb hrow hallowed happlied

theorem consistent_run {transactions : List Transaction}
    (hrun : Run (Step host server) .empty transactions db) : Consistent db :=
  hrun.invariant (I := fun _ db => Consistent db) consistent_empty
    fun _ hdb hstep => consistent_step hdb hstep

theorem statusOf_eq_some_iff (db : Database) (proposalId : Uuid) (status : ReservationStatus) :
    statusOf db proposalId = some status ↔
      ∃ row ∈ db.reservations, row.proposalId = proposalId ∧ row.status = status := by
  constructor
  · intro hstatus
    obtain ⟨row, hlookup, hrow⟩ := Option.map_eq_some_iff.mp hstatus
    obtain ⟨hmem, hid⟩ := mem_of_lookup hlookup
    exact ⟨row, hmem, hid, hrow⟩
  · rintro ⟨row, hmem, rfl, rfl⟩
    rw [statusOf, lookup_of_mem db.reservedProposals hmem]
    rfl

theorem statusOf_eq_none_iff (db : Database) (proposalId : Uuid) :
    statusOf db proposalId = none ↔ ∀ row ∈ db.reservations, row.proposalId ≠ proposalId := by
  rw [statusOf, Option.map_eq_none_iff, lookup_eq_none_iff, List.mem_map]
  push Not
  rfl

/-- A committed transaction keeps every proposal with its body, and moves its state along
`_ALLOWED_TRANSITIONS` if at all. -/
theorem step_keepsProposals {transaction : Transaction}
    (hstep : Step host server db transaction after) (hrow : row ∈ db.proposals) :
    ∃ later ∈ after.proposals, later.id = row.id ∧ later.body = row.body ∧
      (later.state = row.state ∨ later.state ∈ allowedTransitions row.state) := by
  cases hstep with
  | rollback => exact ⟨row, hrow, rfl, rfl, Or.inl rfl⟩
  | reserve hreserve =>
    rcases reserveOnce_cases hreserve with rfl | ⟨proposalHash, reasons, _, _, hproposals, _⟩
    · exact ⟨row, hrow, rfl, rfl, Or.inl rfl⟩
    · refine ⟨row, ?_, rfl, rfl, Or.inl rfl⟩
      rw [hproposals]
      exact List.mem_append_left _ hrow
  | @transition _ proposalId target now _ htransition =>
    obtain ⟨moved, applied, hmoved, hallowed, happlied, rfl⟩ := transition_cases htransition
    have hproposals : applied.proposals = db.proposals := by
      rcases happlied with ⟨_, rfl⟩ | ⟨status, _, rfl⟩
      · rfl
      · rfl
    refine ⟨if row.id = proposalId then enter target now row else row, ?_, ?_⟩
    · apply mem_updateWhere.mpr
      rw [hproposals]
      exact ⟨row, hrow, by simp⟩
    · by_cases hid : row.id = proposalId
      · have hsame := lookup_of_mem db.proposalKey hrow
        rw [hid, hmoved, Option.some.injEq] at hsame
        rw [if_pos hid]
        rw [hsame] at hallowed
        exact ⟨rfl, rfl, Or.inr hallowed⟩
      · rw [if_neg hid]
        exact ⟨rfl, rfl, Or.inl rfl⟩

theorem invalidTransition_ne (current target : LifecycleState) :
    "invalid lifecycle transition: " ++ current.value ++ " -> " ++ target.value ≠
      "settlement requires an active reservation" := by
  cases current <;> cases target <;> decide

/-- A settlement that `_ALLOWED_TRANSITIONS` admits finds its reservation. -/
theorem transition_ne_error (hdb : Consistent db) (proposalId : Uuid) (target : LifecycleState)
    (now : Datetime) :
    db.transition proposalId target now ≠
      .error (.valueError "settlement requires an active reservation") := by
  intro herror
  rw [transition, bind_eq_error] at herror
  rcases herror with herror | ⟨record, hrecord, herror⟩
  · rw [orRaise_eq_error] at herror
    cases herror.2
  · rw [orRaise_eq_ok] at hrecord
    obtain ⟨row, hlookup, hstate⟩ := record_eq_some hrecord
    obtain ⟨hmem, hid⟩ := mem_of_lookup hlookup
    rw [hstate, bind_eq_error] at herror
    rcases herror with herror | ⟨_, hallowed, herror⟩
    · rw [requireTransition, raiseIf] at herror
      split_ifs at herror
      · cases herror
      · exact invalidTransition_ne _ _
          (PostgresError.valueError.inj (Except.error.inj herror))
    · rw [mapError_eq_ok, requireTransition, raiseIf_eq_ok, not_not] at hallowed
      obtain ⟨hactive, _, _⟩ := expected_of_allowed (hdb.state row hmem) hallowed
      have hstatus := hdb.status row hmem
      rw [hactive, hid, statusOf_eq_some_iff] at hstatus
      obtain ⟨reservation, hreservation, hproposal, hrowActive⟩ := hstatus
      rw [bind_eq_error] at herror
      rcases herror with herror | ⟨applied, _, herror⟩
      · cases target with
        | settled =>
          rw [applyTarget, bind_eq_error] at herror
          rcases herror with herror | ⟨_, _, herror⟩
          · rw [raiseIf_eq_error, List.all_eq_true] at herror
            have hnone := herror.1 reservation hreservation
            simp [isActiveFor, hproposal, hrowActive] at hnone
          · cases herror
        | proposed | reserved | signed | submitted | denied | reverted | expired => cases herror
      · rw [bind_eq_error] at herror
        rcases herror with herror | ⟨updated, _, herror⟩
        · rw [orRaise_eq_error] at herror
          cases herror.2
        · cases herror

/-! ## Reservation safety -/

/-- In every state that a serial run reaches: the state of a proposal says whether it has
a reservation and with which status, a reservation holds the amount of its proposal, no
transaction changes a body or moves a state against `_ALLOWED_TRANSITIONS`, and
settlement never misses its reservation. -/
theorem postgres_reservationSafety {host : Host} {server : Server} {db : Database}
    {transactions : List Transaction}
    (hrun : Run (Step host server) .empty transactions db) :
    (∀ row ∈ db.proposals,
      ((∃ reservation ∈ db.reservations,
          reservation.proposalId = row.id ∧ reservation.status = .active) ↔
        row.state = .reserved ∨ row.state = .signed ∨ row.state = .submitted) ∧
      ((∃ reservation ∈ db.reservations,
          reservation.proposalId = row.id ∧ reservation.status = .settled) ↔
        row.state = .settled) ∧
      ((∃ reservation ∈ db.reservations,
          reservation.proposalId = row.id ∧ reservation.status = .released) ↔
        row.state = .reverted ∨ row.state = .expired) ∧
      ((∀ reservation ∈ db.reservations, reservation.proposalId ≠ row.id) ↔
        row.state = .denied)) ∧
    (∀ reservation ∈ db.reservations, ∃ row ∈ db.proposals,
      row.id = reservation.proposalId ∧ reservation.amount = row.amount ∧
      reservation.amount = row.body.amount.val) ∧
    (∀ transaction after, Step host server db transaction after → ∀ row ∈ db.proposals,
      ∃ later ∈ after.proposals, later.id = row.id ∧ later.body = row.body ∧
        (later.state = row.state ∨ later.state ∈ allowedTransitions row.state)) ∧
    ∀ proposalId target now, db.transition proposalId target now ≠
      .error (.valueError "settlement requires an active reservation") := by
  have hdb := consistent_run hrun
  refine ⟨?_, ?_, ?_, transition_ne_error hdb⟩
  · intro row hrow
    have hstate := hdb.state row hrow
    rw [← statusOf_eq_some_iff, ← statusOf_eq_some_iff, ← statusOf_eq_some_iff,
      ← statusOf_eq_none_iff, hdb.status row hrow]
    revert hstate
    cases row.state <;> decide
  · intro reservation hreservation
    obtain ⟨row, hrow, hid⟩ := List.mem_map.mp (db.references reservation hreservation)
    have hamount := hdb.amount reservation hreservation row hrow hid
    exact ⟨row, hrow, hid, hamount, hamount.trans (hdb.columns row hrow)⟩
  · intro transaction after hstep row hrow
    exact step_keepsProposals hstep hrow

/-! ## A sample run -/

open SignedEffect AttestationSoundness BudgetSafety

/-- Exact subtraction within the range of `timestamptz`, which starts with Julian day 0. -/
def sampleServer : Server where
  windowStart now seconds :=
    let start := (now.val : Int) - seconds * 1000000
    if -148731206400000000 ≤ start then some start else none

theorem sampleServer_exact : sampleServer.Exact := by
  intro now seconds start hstart
  rw [sampleServer] at hstart
  dsimp only at hstart
  split_ifs at hstart
  exact (Option.some.inj hstart).symm

/-- A second request, as urgent as the first. -/
def promptProposal : ProposalV1 := { secondProposal with deadline := sampleDeadline }

/-- The real digests of the two requests. -/
def postgresHost : Host := { textHost with
  sha256 := digestTable [
    (canonicalText (firstProposal.modelDump textHost),
      0x39e7dfe2f040e1287c4b6a1d9e723ecf3aac8a3901eedefb0897029398f299bf),
    (canonicalText (promptProposal.modelDump textHost),
      0x1ff824e8651a7aca43cb350a43876a98b1689e2a0d8c59391360f821f761890e)] }

/-- The first request is admitted and signed.  The second started ten seconds before it
and commits after it. -/
def sampleTransactions : List Transaction :=
  [.reserve firstProposal (budgetPolicy hourCap) sampleNow sampleNow firstReservation,
    .transition firstProposal.proposalId.val .signed sampleNow,
    .reserve promptProposal (budgetPolicy hourCap) sampleNow 63919972790000000
      secondReservation]

def sampleDatabase : Database :=
  sampleTransactions.foldl (Database.perform postgresHost sampleServer) .empty

theorem run_sampleDatabase :
    Run (Step postgresHost sampleServer) .empty sampleTransactions sampleDatabase :=
  Run.foldl (step_perform postgresHost sampleServer) _ _

theorem sampleDatabase_reservationSafety :
    sampleDatabase.proposals.map ProposalRow.state = [.signed, .denied] ∧
      (∀ row ∈ sampleDatabase.proposals, row.state = .signed →
        ∃ reservation ∈ sampleDatabase.reservations,
          reservation.proposalId = row.id ∧ reservation.status = .active) ∧
      sampleDatabase.transition firstProposal.proposalId.val .settled sampleNow ≠
        .error (.valueError "settlement requires an active reservation") := by
  have hsafe := postgres_reservationSafety run_sampleDatabase
  refine ⟨by decide +kernel, ?_, hsafe.2.2.2 _ _ _⟩
  intro row hrow hsigned
  exact (hsafe.1 row hrow).1.mpr (Or.inr (Or.inl hsigned))

end AegisLedger.Gateway.PostgresSafety
