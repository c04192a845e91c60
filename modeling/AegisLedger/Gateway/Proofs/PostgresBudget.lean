import AegisLedger.Gateway.Proofs.PostgresSafety
import AegisLedger.Support.Window

/-!
# Budgets in PostgreSQL

No closed window of any scope holds more than the policies allow, although a
transaction may commit after others that started later.  The adapter counts every
reservation created at or after `now() - w`, those with later timestamps included, so
of the reservations in a window the one committed last has counted all the others;
and a reservation that does not count any more never counts again.
-/

namespace AegisLedger.Gateway.PostgresBudget

open AegisLedger.Support Checks Table Tally Window
open Database PostgresSafety

/-! ## Reservations as entries of a window -/

/-- Whether a reservation counts against `scope`. -/
def countsIn (db : Database) (scope : Scope) (row : ReservationRow) : Bool :=
  (lookup ProposalRow.id db.proposals row.proposalId).any fun proposal =>
    counts row.status && decide (proposal.scope = scope)

theorem activeIn_eq_filter (db : Database) (scope : Scope) :
    db.activeIn scope = db.reservations.filter (countsIn db scope) :=
  filter_join db.proposalKey db.reservations
    fun row proposal => counts row.status && decide (proposal.scope = scope)

def entries (weight : ReservationRow → Nat) (db : Database) (scope : Scope) :
    List (Int × Nat) :=
  (db.activeIn scope).map fun row => ((row.createdAt.val : Int), weight row)

theorem total_entries (p : Int → Bool) (weight : ReservationRow → Nat) (db : Database)
    (scope : Scope) :
    total p (entries weight db scope) =
      (((db.activeIn scope).filter fun row => p row.createdAt.val).map weight).sum := by
  rw [entries, total, List.filter_map, List.map_map]
  rfl

theorem total_one (p : Int → Bool) (db : Database) (scope : Scope) :
    total p (entries (fun _ => 1) db scope) =
      ((db.activeIn scope).filter fun row => p row.createdAt.val).length := by
  rw [total_entries]
  simp

variable {db after : Database}

/-- A new proposal does not change the scope of an older reservation. -/
theorem countsIn_append {row : ProposalRow} (hproposals : after.proposals = db.proposals ++ [row])
    (scope : Scope) {reservation : ReservationRow} (hreservation : reservation ∈ db.reservations) :
    countsIn after scope reservation = countsIn db scope reservation := by
  obtain ⟨proposal, hproposal, hid⟩ := List.mem_map.mp (db.references reservation hreservation)
  have hlookup := lookup_of_mem db.proposalKey hproposal
  rw [hid] at hlookup
  rw [countsIn, countsIn, hproposals, lookup_append, hlookup]
  rfl

theorem activeIn_denied {row : ProposalRow} (hproposals : after.proposals = db.proposals ++ [row])
    (hreservations : after.reservations = db.reservations) (scope : Scope) :
    after.activeIn scope = db.activeIn scope := by
  rw [activeIn_eq_filter, activeIn_eq_filter, hreservations]
  apply List.filter_congr
  intro reservation hreservation
  exact countsIn_append hproposals scope hreservation

variable {now : Datetime}

theorem activeIn_admitted {proposal : ProposalV1} {proposalHash : Str} {reasons : List ReasonCode}
    {reservationId : Uuid} (hnew : proposal.proposalId.val ∉ db.proposals.map ProposalRow.id)
    (hproposals : after.proposals = db.proposals ++ [newRow proposal proposalHash reasons now])
    (hreservations : after.reservations =
      db.reservations ++ [newReservation proposal reservationId now]) (scope : Scope) :
    after.activeIn scope = db.activeIn scope ++
      if proposal.scope = scope then [newReservation proposal reservationId now] else [] := by
  have hold : db.reservations.filter (countsIn after scope) =
      db.reservations.filter (countsIn db scope) := by
    apply List.filter_congr
    intro reservation hreservation
    exact countsIn_append hproposals scope hreservation
  have hown : countsIn after scope (newReservation proposal reservationId now) =
      decide (proposal.scope = scope) := by
    have hlookup : lookup ProposalRow.id after.proposals
        (newReservation proposal reservationId now).proposalId =
        some (newRow proposal proposalHash reasons now) := by
      rw [hproposals, lookup_append]
      dsimp only [newReservation]
      rw [lookup_eq_none_iff.mpr hnew]
      simp [newRow]
    rw [countsIn, hlookup]
    rfl
  rw [activeIn_eq_filter, hreservations, List.filter_append, hold, activeIn_eq_filter,
    List.filter_singleton, hown]
  by_cases hscope : proposal.scope = scope
  · simp [hscope]
  · simp [hscope]

theorem countsIn_setState (db : Database) (proposalId : Uuid) (target : LifecycleState)
    (now : Datetime) (scope : Scope) (row : ReservationRow) :
    countsIn (db.setState proposalId target now) scope row = countsIn db scope row := by
  have hlookup : lookup ProposalRow.id (db.setState proposalId target now).proposals
      row.proposalId = (lookup ProposalRow.id db.proposals row.proposalId).map fun proposal =>
        if decide (proposal.id = proposalId) = true then enter target now proposal
        else proposal :=
    lookup_updateWhere (enter_id target now) db.proposals row.proposalId
  rw [countsIn, hlookup, countsIn]
  cases lookup ProposalRow.id db.proposals row.proposalId with
  | none => rfl
  | some proposal =>
    rw [Option.map_some, Option.any_some, Option.any_some]
    split_ifs
    · rfl
    · rfl

/-- Settling keeps the entry of an active reservation and releasing drops it. -/
theorem entries_transition_sublist {weight : ReservationRow → Nat}
    (hweight : ∀ status now row, weight (close status now row) = weight row) {applied : Database}
    {proposalId : Uuid} {target : LifecycleState}
    (happlied : (closing target = none ∧ applied = db) ∨
      ∃ status, closing target = some status ∧
        applied = db.closeReservation proposalId status now) (scope : Scope) :
    (entries weight (applied.setState proposalId target now) scope).Sublist
      (entries weight db scope) := by
  have hstate : (applied.setState proposalId target now).activeIn scope =
      applied.activeIn scope := by
    rw [activeIn_eq_filter, activeIn_eq_filter]
    apply List.filter_congr
    intro row _
    exact countsIn_setState applied proposalId target now scope row
  rw [entries, hstate, entries]
  rcases happlied with ⟨_, rfl⟩ | ⟨status, _, rfl⟩
  · exact List.Sublist.refl _
  · rw [activeIn_eq_filter, activeIn_eq_filter]
    apply map_filter_updateWhere_sublist
    intro row _ hcounts
    by_cases hactive : isActiveFor proposalId row = true
    · rw [if_pos hactive] at hcounts ⊢
      have hstatus : row.status = .active := by
        rw [isActiveFor, Bool.and_eq_true, decide_eq_true_eq, decide_eq_true_eq] at hactive
        exact hactive.2
      constructor
      · rw [countsIn, close_proposalId, Option.any_eq_true] at hcounts
        obtain ⟨proposal, hlookup, hproposal⟩ := hcounts
        rw [Bool.and_eq_true] at hproposal
        rw [countsIn, Option.any_eq_true]
        refine ⟨proposal, hlookup, ?_⟩
        rw [hstatus, hproposal.2]
        rfl
      · rw [hweight]
        cases status <;> rfl
    · rw [if_neg hactive] at hcounts ⊢
      exact ⟨hcounts, rfl⟩

/-! ## What admission counted -/

theorem room_of_capExceeded {server : Server} {active : List ReservationRow} {amount : Nat}
    {caps : List RollingCapV1} (h : capExceeded server active amount now caps = .ok false)
    {cap : RollingCapV1} (hcap : cap ∈ caps) :
    ∃ start, server.windowStart now cap.windowSeconds.val = some start ∧
      ((since start active).map ReservationRow.amount).sum + amount ≤ cap.amount := by
  induction caps with
  | nil => cases hcap
  | cons first caps ih =>
    rw [capExceeded, orRaise_bind_eq_ok] at h
    obtain ⟨start, hstart, h⟩ := h
    split_ifs at h with hover
    · cases h
    · rcases List.mem_cons.mp hcap with rfl | hrest
      · exact ⟨start, hstart, by omega⟩
      · exact ih h hrest

/-- What an empty list of reasons says about the budget. -/
theorem room_of_scopeReasons {server : Server} {proposal : ProposalV1} {policy : PolicyV1}
    {deadlineNow : Datetime} (h : scopeReasons server db proposal policy deadlineNow now = .ok []) :
    (∀ cap ∈ policy.rollingCaps,
      ∃ start, server.windowStart now cap.windowSeconds.val = some start ∧
        ((since start (db.activeIn proposal.scope)).map ReservationRow.amount).sum +
          proposal.amount.val ≤ cap.amount) ∧
      ∃ start, server.windowStart now 3600 = some start ∧
        (since start (db.activeIn proposal.scope)).length + 1 ≤
          policy.maximumTransactionsPerHour := by
  unfold scopeReasons at h
  dsimp only at h
  split_ifs at h with hstop
  · rw [pure_eq_ok, hstop] at h
    cases h
  · rw [bind_eq_ok] at h
    obtain ⟨exceeded, hexceeded, h⟩ := h
    rw [orRaise_bind_eq_ok] at h
    obtain ⟨start, hstart, h⟩ := h
    rw [pure_eq_ok, List.append_eq_nil_iff, List.append_eq_nil_iff, noteIf_eq_nil,
      noteIf_eq_nil] at h
    obtain ⟨⟨_, hcaps⟩, hvelocity⟩ := h
    rw [Bool.not_eq_true] at hcaps
    rw [hcaps] at hexceeded
    exact ⟨fun cap hcap => room_of_capExceeded hexceeded hcap, start, hstart, by omega⟩

/-! ## The invariant -/

section Budget

variable {server : Server} {cap : RollingCapV1} {limit : Nat}

/-- Closed windows of length `w` are half-open windows of length `w + 1`. -/
structure Safe (cap : RollingCapV1) (limit : Nat) (db : Database) : Prop where
  spent : ∀ scope, Bounded (cap.windowSeconds.val * 1000000 + 1 : Int) cap.amount
    (entries ReservationRow.amount db scope)
  count : ∀ scope, Bounded (3600 * 1000000 + 1 : Int) limit (entries (fun _ => 1) db scope)

theorem safe_empty (cap : RollingCapV1) (limit : Nat) : Safe cap limit .empty where
  spent := fun _ => bounded_nil _ _
  count := fun _ => bounded_nil _ _

variable {db : Database}

/-- One new entry, in the scope of the proposal. -/
theorem bounded_admitted {weight : ReservationRow → Nat} {seconds bound : Nat}
    (hexact : server.Exact) {after : Database} {proposal : ProposalV1} {now : Datetime}
    {reservationId : Uuid} {start : Int} (hstart : server.windowStart now seconds = some start)
    (hactive : ∀ scope, after.activeIn scope = db.activeIn scope ++
      if proposal.scope = scope then [newReservation proposal reservationId now] else [])
    (hbounded : ∀ scope, Bounded (seconds * 1000000 + 1 : Int) bound (entries weight db scope))
    (hroom : ((since start (db.activeIn proposal.scope)).map weight).sum +
      weight (newReservation proposal reservationId now) ≤ bound) (scope : Scope) :
    Bounded (seconds * 1000000 + 1 : Int) bound (entries weight after scope) := by
  rw [entries, hactive, List.map_append, ← entries]
  by_cases hscope : proposal.scope = scope
  · rw [if_pos hscope, ← hscope]
    have hstartEq := hexact hstart
    have hcounted : total (fun instant => decide (start ≤ instant))
        (entries weight db proposal.scope) +
          weight (newReservation proposal reservationId now) ≤ bound := by
      rw [total_entries]
      exact hroom
    refine (hbounded proposal.scope).extend (le_refl (now.val : Int)) ?_ hcounted
    intro e _ hlate
    rw [decide_eq_true_eq]
    omega
  · rw [if_neg hscope, List.map_nil, List.append_nil]
    exact hbounded scope

theorem safe_step {host : Host} (hexact : server.Exact) {after : Database}
    {transaction : Transaction} (hsafe : Safe cap limit db)
    (hstep : Step host server db transaction after)
    (hpolicy : ∀ proposal policy deadlineNow now reservationId,
      transaction = .reserve proposal policy deadlineNow now reservationId →
        cap ∈ policy.rollingCaps ∧ policy.maximumTransactionsPerHour = limit) :
    Safe cap limit after := by
  cases hstep with
  | rollback => exact hsafe
  | transition htransition =>
    obtain ⟨row, applied, _, _, happlied, rfl⟩ := transition_cases htransition
    constructor
    · intro scope
      exact (hsafe.spent scope).sublist
        (entries_transition_sublist close_amount happlied scope)
    · intro scope
      exact (hsafe.count scope).sublist
        (entries_transition_sublist (fun _ _ _ => rfl) happlied scope)
  | reserve hreserve =>
    rcases reserveOnce_cases hreserve with rfl |
      ⟨proposalHash, reasons, hnew, hreasons, hproposals, ⟨_, hsame⟩ | ⟨rfl, happended⟩⟩
    · exact hsafe
    · have hactive := activeIn_denied hproposals hsame
      constructor
      · intro scope
        rw [entries, hactive]
        exact hsafe.spent scope
      · intro scope
        rw [entries, hactive]
        exact hsafe.count scope
    · obtain ⟨hcap, hlimit⟩ := hpolicy _ _ _ _ _ rfl
      obtain ⟨hcaps, hourStart, hhour, hcount⟩ := room_of_scopeReasons hreasons
      obtain ⟨start, hstart, hspent⟩ := hcaps cap hcap
      have hactive := activeIn_admitted hnew hproposals happended
      constructor
      · exact bounded_admitted hexact hstart hactive hsafe.spent hspent
      · apply bounded_admitted hexact hhour hactive hsafe.count
        rw [← hlimit]
        simpa using hcount

theorem safe_run {host : Host} (hexact : server.Exact) {transactions : List Transaction}
    (hrun : Run (Step host server) .empty transactions db)
    (hpolicy : ∀ proposal policy deadlineNow now reservationId,
      Transaction.reserve proposal policy deadlineNow now reservationId ∈ transactions →
        cap ∈ policy.rollingCaps ∧ policy.maximumTransactionsPerHour = limit) :
    Safe cap limit db := by
  induction hrun with
  | refl => exact safe_empty cap limit
  | snoc _ hlast ih =>
    have hsafe := ih fun _ _ _ _ _ hmem =>
      hpolicy _ _ _ _ _ (List.mem_append_left _ hmem)
    apply safe_step hexact hsafe hlast
    intro proposal policy deadlineNow now reservationId hcall
    apply hpolicy proposal policy deadlineNow now reservationId
    rw [hcall]
    exact List.mem_append_right _ List.mem_cons_self

/-- The reservations of `scope` that count and were created in `[start, stop]`. -/
def createdBetween (db : Database) (scope : Scope) (start stop : Int) : List ReservationRow :=
  (db.activeIn scope).filter fun row =>
    decide (start ≤ row.createdAt.val) && decide ((row.createdAt.val : Int) ≤ stop)

theorem filter_inWindow (db : Database) (scope : Scope) (length t : Int) :
    ((db.activeIn scope).filter fun row => inWindow (length + 1) t row.createdAt.val) =
      createdBetween db scope (t - length) t := by
  apply List.filter_congr
  intro row _
  rw [inWindow, ← Bool.decide_and, decide_eq_decide]
  constructor
  · rintro ⟨hlow, hhigh⟩
    exact ⟨by omega, hhigh⟩
  · rintro ⟨hlow, hhigh⟩
    exact ⟨by omega, hhigh⟩

/-- In every serial run whose `reserve` transactions all carry the cap and the hourly
limit, whatever the start times of the transactions, no closed window of any scope holds
more than they allow. -/
theorem postgres_withinBudget {host : Host} (hexact : server.Exact) {db : Database}
    {transactions : List Transaction} (hrun : Run (Step host server) .empty transactions db)
    (hpolicy : ∀ proposal policy deadlineNow now reservationId,
      Transaction.reserve proposal policy deadlineNow now reservationId ∈ transactions →
        cap ∈ policy.rollingCaps ∧ policy.maximumTransactionsPerHour = limit)
    (scope : Scope) (t : Int) :
    ((createdBetween db scope (t - cap.windowSeconds.val * 1000000) t).map
        ReservationRow.amount).sum ≤ cap.amount ∧
      (createdBetween db scope (t - 3600 * 1000000) t).length ≤ limit := by
  have hsafe := safe_run hexact hrun hpolicy
  constructor
  · have hspent := hsafe.spent scope t
    rw [total_entries, filter_inWindow] at hspent
    exact hspent
  · have hcount := hsafe.count scope t
    rw [total_one, filter_inWindow] at hcount
    exact hcount

end Budget

open BudgetSafety SignedEffect

/-- What the scope of the samples holds in the hour before the first request. -/
def sampleHour : List ReservationRow :=
  createdBetween sampleDatabase firstProposal.scope
    (sampleNow.val - hourCap.windowSeconds.val * 1000000) sampleNow.val

theorem sampleDatabase_withinBudget :
    (sampleHour.map ReservationRow.amount).sum = 100 ∧
      (sampleHour.map ReservationRow.amount).sum ≤ hourCap.amount ∧ sampleHour.length ≤ 10 := by
  have hpolicy : ∀ proposal policy deadlineNow now reservationId,
      Transaction.reserve proposal policy deadlineNow now reservationId ∈ sampleTransactions →
        hourCap ∈ policy.rollingCaps ∧ policy.maximumTransactionsPerHour = 10 := by
    intro proposal policy deadlineNow now reservationId hcall
    simp only [sampleTransactions, List.mem_cons, Transaction.reserve.injEq, List.not_mem_nil,
      or_false, reduceCtorEq, false_or] at hcall
    rcases hcall with ⟨_, rfl, _⟩ | ⟨_, rfl, _⟩
    · exact ⟨List.mem_cons_self, rfl⟩
    · exact ⟨List.mem_cons_self, rfl⟩
  have hbudget :=
    postgres_withinBudget sampleServer_exact run_sampleDatabase hpolicy firstProposal.scope sampleNow.val
  exact ⟨by decide +kernel, hbudget⟩

end AegisLedger.Gateway.PostgresBudget
