import AegisLedger.Gateway.Proofs.PostgresBudget
import AegisLedger.Gateway.Proofs.RecordHistory

/-!
# The two state adapters compared

`MemoryStateStore._evaluate` and `PostgresStateStore._scope_reasons` on the same
reservations, clock and policy.  They differ in two places.  A reservation exactly as
old as a window is outside it for the first and inside it for the second; so is one
whose age a double rounds up to the window.  And under an emergency stop the second
returns at once, while the first goes on to the caps.  Besides, the second raises where
PostgreSQL cannot represent the start of a window.
-/

namespace AegisLedger.Gateway.AdapterAgreement

open AegisLedger.Support Checks Table
open BudgetSafety

/-! ## The same reservations in both stores -/

/-- What both stores keep of a reservation. -/
structure Holding where
  scope : Scope
  amount : Nat
  status : ReservationStatus
  createdAt : Datetime
  deriving DecidableEq

/-- The status that the two flags of the memory store stand for. -/
def statusOfFlags (item : Reservation) : ReservationStatus :=
  if item.active then .active else if item.settled then .settled else .released

def memoryHoldings (store : MemoryStateStore) : List Holding :=
  store.reservations.values.map fun item =>
    ⟨item.scope, item.amount, statusOfFlags item, item.createdAt⟩

def databaseHoldings (db : Database) : List Holding :=
  (join ReservationRow.proposalId ProposalRow.id db.reservations db.proposals).map
    fun pair => ⟨pair.2.scope, pair.1.amount, pair.1.status, pair.1.createdAt⟩

/-- Instants and amounts of the holdings that count against `scope`. -/
def counted (scope : Scope) (holdings : List Holding) : List (Datetime × Nat) :=
  (holdings.filter fun holding =>
    Database.counts holding.status && decide (holding.scope = scope)).map
      fun holding => (holding.createdAt, holding.amount)

theorem counts_statusOfFlags (item : Reservation) :
    Database.counts (statusOfFlags item) = (item.active || item.settled) := by
  unfold statusOfFlags
  cases item.active <;> cases item.settled <;> rfl

theorem counted_memoryHoldings (store : MemoryStateStore) (scope : Scope) :
    counted scope (memoryHoldings store) =
      (store.activeIn scope).map fun item => (item.createdAt, item.amount) := by
  rw [counted, memoryHoldings, List.filter_map, List.map_map, MemoryStateStore.activeIn]
  simp only [Function.comp_def, counts_statusOfFlags]

theorem counted_databaseHoldings (db : Database) (scope : Scope) :
    counted scope (databaseHoldings db) =
      (db.activeIn scope).map fun row => (row.createdAt, row.amount) := by
  rw [counted, databaseHoldings, List.filter_map, List.map_map, Database.activeIn, List.map_map]
  rfl

section Agreement

variable {store : MemoryStateStore} {db : Database}

/-- What the database adds up is a sum over the reservations of the memory store. -/
theorem sum_since (hsame : (memoryHoldings store).Perm (databaseHoldings db)) (scope : Scope)
    (start : Int) :
    ((Database.since start (db.activeIn scope)).map ReservationRow.amount).sum =
      (((store.activeIn scope).filter fun item => start ≤ item.createdAt.val).map
        Reservation.amount).sum := by
  have hcounted : (counted scope (memoryHoldings store)).Perm
      (counted scope (databaseHoldings db)) := (hsame.filter _).map _
  rw [counted_memoryHoldings, counted_databaseHoldings] at hcounted
  have hsum := ((hcounted.filter fun entry => start ≤ entry.1.val).map Prod.snd).sum_eq
  rw [List.filter_map, List.filter_map, List.map_map, List.map_map] at hsum
  exact hsum.symm

theorem length_since (hsame : (memoryHoldings store).Perm (databaseHoldings db)) (scope : Scope)
    (start : Int) :
    (Database.since start (db.activeIn scope)).length =
      ((store.activeIn scope).filter fun item => start ≤ item.createdAt.val).length := by
  have hcounted : (counted scope (memoryHoldings store)).Perm
      (counted scope (databaseHoldings db)) := (hsame.filter _).map _
  rw [counted_memoryHoldings, counted_databaseHoldings] at hcounted
  have hlength := (hcounted.filter fun entry => start ≤ entry.1.val).length_eq
  rw [List.filter_map, List.filter_map, List.length_map, List.length_map] at hlength
  exact hlength.symm

end Agreement

/-! ## Ages at the edge of a window -/

/-- The reservation is not younger than the window, but not older than it either: its age
is the window's length, or a double rounds it up to that. -/
def onEdge (now : Datetime) (seconds : Nat) (item : Reservation) : Bool :=
  !totalSecondsLt (timedelta now item.createdAt) seconds &&
    decide (timedelta now item.createdAt ≤ seconds * 1000000)

variable {seconds : Nat}

theorem lt_of_totalSecondsLt {delta : Int} (hrange : delta < 315537897600000000)
    (h : totalSecondsLt delta seconds = true) : delta < seconds * 1000000 := by
  rw [totalSecondsLt, Bool.or_eq_true, decide_eq_true_eq, decide_eq_true_eq] at h
  rcases h with hneg | hlt
  · omega
  · by_contra hnot
    have hle : seconds * 1000000 ≤ delta.toNat := by omega
    have hplace : Binary64.lastPlace delta.toNat 1000000 ≤ Binary64.unitBits := by
      have hbound := Binary64.lastPlace_le (n := delta.toNat) (d := 1000000) (w := 2 ^ 53)
        (k := 53) (by omega) le_rfl
      exact hbound
    have hreached := Binary64.le_trueDivide (by decide) hle hplace
    omega

/-- The database counts the younger reservations and those on the edge. -/
theorem start_le_iff {now : Datetime} {start : Int} {item : Reservation}
    (hstart : start = (now.val : Int) - seconds * 1000000) :
    decide (start ≤ item.createdAt.val) =
      (totalSecondsLt (timedelta now item.createdAt) seconds || onEdge now seconds item) := by
  have hnow := now.isLt
  have hage : timedelta now item.createdAt = (now.val : Int) - item.createdAt.val := rfl
  rw [onEdge]
  cases hyoung : totalSecondsLt (timedelta now item.createdAt) seconds with
  | true =>
    have hlt := lt_of_totalSecondsLt (by omega) hyoung
    rw [Bool.true_or, decide_eq_true_eq]
    omega
  | false =>
    rw [Bool.false_or, Bool.not_false, Bool.true_and, decide_eq_decide]
    omega

theorem sum_filter_or {α : Type} {p q : α → Bool} (weight : α → Nat)
    (hdisjoint : ∀ a, q a = true → p a = false) (items : List α) :
    ((items.filter fun a => p a || q a).map weight).sum =
      ((items.filter p).map weight).sum + ((items.filter q).map weight).sum := by
  induction items with
  | nil => rfl
  | cons a items ih =>
    rw [List.filter_cons, List.filter_cons, List.filter_cons]
    cases hq : q a with
    | true =>
      simp [hdisjoint a hq, ih]
      omega
    | false =>
      cases p a with
      | true =>
        simp [ih]
        omega
      | false => simp [ih]

theorem not_younger_of_onEdge {now : Datetime} {item : Reservation}
    (h : onEdge now seconds item = true) :
    totalSecondsLt (timedelta now item.createdAt) seconds = false := by
  rw [onEdge, Bool.and_eq_true, Bool.not_eq_true'] at h
  exact h.1

/-- The amount of the reservations on the edge of a window. -/
def edgeSpent (active : List Reservation) (now : Datetime) (seconds : Nat) : Nat :=
  ((active.filter (onEdge now seconds)).map Reservation.amount).sum

/-- The number of the reservations on the edge of a window. -/
def edgeCount (active : List Reservation) (now : Datetime) (seconds : Nat) : Nat :=
  (active.filter (onEdge now seconds)).length

section Agreement

variable {store : MemoryStateStore} {db : Database} {server : Server}

variable {now : Datetime}

theorem databaseSpent_eq (hsame : (memoryHoldings store).Perm (databaseHoldings db))
    (hexact : server.Exact) {seconds : Nat} {start : Int}
    (hstart : server.windowStart now seconds = some start) (scope : Scope) :
    ((Database.since start (db.activeIn scope)).map ReservationRow.amount).sum =
      MemoryStateStore.spentWithin (store.activeIn scope) now seconds +
        edgeSpent (store.activeIn scope) now seconds := by
  rw [sum_since hsame]
  simp only [start_le_iff (hexact hstart)]
  exact sum_filter_or _ (fun _ => not_younger_of_onEdge) _

theorem databaseCount_eq (hsame : (memoryHoldings store).Perm (databaseHoldings db))
    (hexact : server.Exact) {seconds : Nat} {start : Int}
    (hstart : server.windowStart now seconds = some start) (scope : Scope) :
    (Database.since start (db.activeIn scope)).length =
      MemoryStateStore.countWithin (store.activeIn scope) now seconds +
        edgeCount (store.activeIn scope) now seconds := by
  rw [length_since hsame]
  simp only [start_le_iff (hexact hstart)]
  have hsum := sum_filter_or (fun _ => 1)
    (fun item (hedge : onEdge now seconds item = true) => not_younger_of_onEdge hedge)
    (store.activeIn scope)
  rw [MemoryStateStore.countWithin, edgeCount]
  simpa using hsum

/-! ## The reasons -/

/-- The caps whose window the database is asked about: it stops at the first one that has
no room for `amount`, with `spent seconds` already used in the window of that length. -/
def askedCaps (amount : Nat) (spent : Nat → Nat) : List RollingCapV1 → List RollingCapV1
  | [] => []
  | cap :: caps =>
    if cap.amount < spent cap.windowSeconds.val + amount then [cap]
    else cap :: askedCaps amount spent caps

theorem mem_of_mem_askedCaps {amount : Nat} {spent : Nat → Nat} {caps : List RollingCapV1}
    {cap : RollingCapV1} (h : cap ∈ askedCaps amount spent caps) : cap ∈ caps := by
  induction caps with
  | nil => cases h
  | cons first caps ih =>
    rw [askedCaps] at h
    split_ifs at h
    · exact List.mem_singleton.mp h ▸ List.mem_cons_self
    · rcases List.mem_cons.mp h with rfl | hrest
      · exact List.mem_cons_self
      · exact List.mem_cons_of_mem first (ih hrest)

theorem capExceeded_eq_ok_iff (hsame : (memoryHoldings store).Perm (databaseHoldings db))
    (hexact : server.Exact) (scope : Scope) (amount : Nat) {spent : Nat → Nat}
    (hspent : spent = fun seconds =>
      MemoryStateStore.spentWithin (store.activeIn scope) now seconds +
        edgeSpent (store.activeIn scope) now seconds) (caps : List RollingCapV1) {exceeded : Bool} :
    Database.capExceeded server (db.activeIn scope) amount now caps = .ok exceeded ↔
      (∀ cap ∈ askedCaps amount spent caps, ∃ start,
        server.windowStart now cap.windowSeconds.val = some start) ∧
      (exceeded = true ↔ ∃ cap ∈ caps, cap.amount < spent cap.windowSeconds.val + amount) := by
  induction caps with
  | nil =>
    rw [Database.capExceeded, pure_eq_ok, askedCaps]
    cases exceeded <;> simp
  | cons cap caps ih =>
    rw [Database.capExceeded, orRaise_bind_eq_ok, askedCaps]
    have hasked : ∀ start, server.windowStart now cap.windowSeconds.val = some start →
        ((Database.since start (db.activeIn scope)).map ReservationRow.amount).sum =
          spent cap.windowSeconds.val := by
      intro start hstart
      rw [databaseSpent_eq hsame hexact hstart, hspent]
    by_cases hover : cap.amount < spent cap.windowSeconds.val + amount
    · rw [if_pos hover, List.forall_mem_singleton]
      constructor
      · rintro ⟨start, hstart, hresult⟩
        rw [hasked start hstart, if_pos hover, pure_eq_ok] at hresult
        exact ⟨⟨start, hstart⟩, by simp [← hresult, hover]⟩
      · rintro ⟨⟨start, hstart⟩, hresult⟩
        refine ⟨start, hstart, ?_⟩
        rw [hasked start hstart, if_pos hover, pure_eq_ok]
        exact (hresult.mpr ⟨cap, List.mem_cons_self, hover⟩).symm
    · rw [if_neg hover, List.forall_mem_cons]
      constructor
      · rintro ⟨start, hstart, hresult⟩
        rw [hasked start hstart, if_neg hover, ih] at hresult
        exact ⟨⟨⟨start, hstart⟩, hresult.1⟩, by simp [hresult.2, hover]⟩
      · rintro ⟨⟨⟨start, hstart⟩, hrest⟩, hresult⟩
        refine ⟨start, hstart, ?_⟩
        rw [hasked start hstart, if_neg hover, ih]
        exact ⟨hrest, by simpa [hover] using hresult⟩

theorem stop_notMem_intentReasons (proposal : ProposalV1) (policy : PolicyV1) :
    ReasonCode.emergencyStop ∉ intentReasons proposal policy := by
  unfold intentReasons
  split
  · simp [mem_noteIf]
  · simp [mem_noteIf]

theorem staticPolicyReasons_eq_stop_iff (proposal : ProposalV1) (policy : PolicyV1)
    (deadlineNow : Datetime) :
    staticPolicyReasons proposal policy deadlineNow = [.emergencyStop] ↔
      policy.emergencyStop = true := by
  unfold staticPolicyReasons
  constructor
  · intro hreasons
    by_contra hnot
    rw [if_neg hnot] at hreasons
    have hmem := hreasons ▸ List.mem_singleton_self ReasonCode.emergencyStop
    simp [mem_noteIf, stop_notMem_intentReasons] at hmem
  · intro hstop
    rw [if_pos hstop]

/-- Some rolling cap has no room for the proposal, with `spent seconds` already used in
the window of that length. -/
def CapExceeded (policy : PolicyV1) (amount : Nat) (spent : Nat → Nat) : Prop :=
  ∃ cap ∈ policy.rollingCaps, cap.amount < spent cap.windowSeconds.val + amount

/-- Under an emergency stop, no cap and not the hourly limit is exceeded.  Otherwise the
reservations on the edge of a window decide nothing: if they exceed a cap, then some cap
is exceeded without them, and so for the hourly limit; and the start of every window the
database is asked about is an instant it can represent. -/
def EdgesDecideNothing (server : Server) (store : MemoryStateStore) (proposal : ProposalV1)
    (policy : PolicyV1) (now : Datetime) : Prop :=
  let active := store.activeIn proposal.scope
  let young := MemoryStateStore.spentWithin active now
  let spent := fun seconds => young seconds + edgeSpent active now seconds
  let youngCount := MemoryStateStore.countWithin active now 3600
  if policy.emergencyStop then
    ¬CapExceeded policy proposal.amount.val young ∧
      youngCount + 1 ≤ policy.maximumTransactionsPerHour
  else
    (CapExceeded policy proposal.amount.val spent →
      CapExceeded policy proposal.amount.val young) ∧
    (policy.maximumTransactionsPerHour < youngCount + edgeCount active now 3600 + 1 →
      policy.maximumTransactionsPerHour < youngCount + 1) ∧
    (∀ cap ∈ askedCaps proposal.amount.val spent policy.rollingCaps, ∃ start,
      server.windowStart now cap.windowSeconds.val = some start) ∧
    ∃ start, server.windowStart now 3600 = some start

/-- The adapters return the same reasons exactly when the edges decide nothing. -/
theorem scopeReasons_eq_evaluate_iff
    (hsame : (memoryHoldings store).Perm (databaseHoldings db)) (hexact : server.Exact)
    (proposal : ProposalV1) (policy : PolicyV1) (deadlineNow now : Datetime) :
    Database.scopeReasons server db proposal policy deadlineNow now =
        .ok (store.evaluate proposal policy deadlineNow now) ↔
      EdgesDecideNothing server store proposal policy now := by
  have hstatic := staticPolicyReasons_eq_stop_iff proposal policy deadlineNow
  unfold EdgesDecideNothing Database.scopeReasons MemoryStateStore.evaluate
  dsimp only
  by_cases hstop : policy.emergencyStop = true
  · rw [if_pos (hstatic.mpr hstop), if_pos hstop, pure_eq_ok, hstatic.mpr hstop,
      List.append_assoc, List.self_eq_append_right, List.append_eq_nil_iff, noteIf_eq_nil,
      noteIf_eq_nil, not_lt]
    rfl
  · rw [if_neg (hstatic.not.mpr hstop), if_neg hstop, bind_eq_ok]
    have hreasons : ∀ {p q p' q' : Prop} [Decidable p] [Decidable q] [Decidable p']
        [Decidable q'],
        staticPolicyReasons proposal policy deadlineNow ++
            noteIf p ReasonCode.rollingCapExceeded ++ noteIf q ReasonCode.velocityExceeded =
          staticPolicyReasons proposal policy deadlineNow ++
            noteIf p' ReasonCode.rollingCapExceeded ++
              noteIf q' ReasonCode.velocityExceeded ↔ (p ↔ p') ∧ (q ↔ q') := by
      intro p q p' q' _ _ _ _
      rw [List.append_assoc, List.append_assoc, List.append_cancel_left_eq,
        noteIf_append_inj (by decide)]
    constructor
    · rintro ⟨exceeded, hcaps, hrest⟩
      obtain ⟨start, hstart, hresult⟩ := orRaise_bind_eq_ok.mp hrest
      rw [pure_eq_ok, databaseCount_eq hsame hexact hstart, hreasons] at hresult
      obtain ⟨hanswers, hexceeded⟩ :=
        (capExceeded_eq_ok_iff hsame hexact proposal.scope proposal.amount.val rfl _).mp hcaps
      refine ⟨fun hover => ?_, hresult.2.mp, hanswers, start, hstart⟩
      exact hresult.1.mp (hexceeded.mpr hover)
    · rintro ⟨hcaps, hvelocity, hanswers, start, hstart⟩
      have hyoung : CapExceeded policy proposal.amount.val
            (MemoryStateStore.spentWithin (store.activeIn proposal.scope) now) →
          CapExceeded policy proposal.amount.val fun seconds =>
            MemoryStateStore.spentWithin (store.activeIn proposal.scope) now seconds +
              edgeSpent (store.activeIn proposal.scope) now seconds := by
        rintro ⟨cap, hcap, hover⟩
        refine ⟨cap, hcap, ?_⟩
        dsimp only
        omega
      refine ⟨_, (capExceeded_eq_ok_iff hsame hexact proposal.scope proposal.amount.val rfl
        _).mpr ⟨hanswers, decide_eq_true_iff⟩, ?_⟩
      rw [orRaise_bind_eq_ok]
      refine ⟨start, hstart, ?_⟩
      rw [pure_eq_ok, databaseCount_eq hsame hexact hstart, hreasons, decide_eq_true_iff]
      exact ⟨⟨hcaps, hyoung⟩, hvelocity, fun hover => by omega⟩

end Agreement

/-! ## Sample reservations -/

open SignedEffect RecordHistory PostgresSafety PostgresBudget

/-- The database with the one reservation of `createdStore`. -/
def oneReservation : Database :=
  Database.empty.perform postgresHost sampleServer
    (.reserve firstProposal (budgetPolicy hourCap) sampleNow sampleNow firstReservation)

theorem oneReservation_same :
    (memoryHoldings createdStore).Perm (databaseHoldings oneReservation) := by
  have hequal : memoryHoldings createdStore = databaseHoldings oneReservation := by
    decide +kernel
  rw [hequal]

/-- A second after the reservation was made, well inside the hour. -/
def insideNow : Datetime := 63919972801000000

theorem insideNow_agrees :
    Database.scopeReasons sampleServer oneReservation secondProposal (budgetPolicy hourCap)
        insideNow insideNow =
      .ok (createdStore.evaluate secondProposal (budgetPolicy hourCap) insideNow insideNow) := by
  rw [scopeReasons_eq_evaluate_iff oneReservation_same sampleServer_exact secondProposal
    (budgetPolicy hourCap) insideNow insideNow, EdgesDecideNothing, if_neg (by decide)]
  refine ⟨fun _ => ⟨hourCap, List.mem_cons_self, by decide +kernel⟩, ?_, ?_, ?_⟩
  · intro hover
    exact absurd hover (by decide +kernel)
  · intro cap hcap
    obtain rfl := List.mem_singleton.mp (mem_of_mem_askedCaps hcap)
    exact ⟨63919969201000000, by decide +kernel⟩
  · exact ⟨63919969201000000, by decide +kernel⟩

/-- The instant at which the reservation is exactly one hour old. -/
def edgeNow : Datetime := 63919976400000000

/-- The policy of the samples under an emergency stop. -/
def stoppedPolicy : PolicyV1 := { budgetPolicy hourCap with
  emergencyStop := true
  coherent := ⟨(budgetPolicy hourCap).coherent.1, fun _ => rfl⟩ }

/-- A reservation exactly one hour old leaves room in memory and none in PostgreSQL, and
under an emergency stop only the memory store adds the exceeded cap. -/
theorem edgeNow_disagrees :
    (memoryHoldings createdStore).Perm (databaseHoldings oneReservation) ∧
      createdStore.evaluate secondProposal (budgetPolicy hourCap) edgeNow edgeNow = [] ∧
      Database.scopeReasons sampleServer oneReservation secondProposal (budgetPolicy hourCap)
        edgeNow edgeNow = .ok [.rollingCapExceeded] ∧
      createdStore.evaluate secondProposal stoppedPolicy sampleNow sampleNow =
        [.emergencyStop, .rollingCapExceeded] ∧
      Database.scopeReasons sampleServer oneReservation secondProposal stoppedPolicy sampleNow
        sampleNow = .ok [.emergencyStop] :=
  ⟨oneReservation_same, by decide +kernel, by decide +kernel, by decide +kernel,
    by decide +kernel⟩

end AegisLedger.Gateway.AdapterAgreement
