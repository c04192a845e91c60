import AegisLedger.Gateway.State
import AegisLedger.Support.Table

/-!
# The PostgreSQL lifecycle store

`PostgresStateStore` of `aegisledger/postgres.py` over the two tables of
`migrations/versions/0001_core.py` that it writes.  A `Database` carries the
declared constraints, so no value breaks them; a statement that would is refused,
and with it the transaction.  `now()` is the start of the transaction and an
argument of each of them.
-/

namespace AegisLedger.Gateway

open AegisLedger.Support Checks Table

/-- What the adapter relies on the server to compute: the instant
`now() - make_interval(secs => seconds)` in microseconds, unless it is out of the
range of timestamps. -/
structure Server where
  windowStart : Datetime → Nat → Option Int

/-- Timestamps and intervals are subtracted exactly. -/
def Server.Exact (server : Server) : Prop :=
  ∀ {now seconds start}, server.windowStart now seconds = some start →
    start = (now.val : Int) - seconds * 1000000

inductive PostgresError
  | keyError
  | valueError (message : String)
  | assertionError
  | canonicalization (error : CanonicalError)
  /-- An error of the server: the transaction is rolled back. -/
  | databaseError
  deriving DecidableEq

inductive ReservationStatus
  | active
  | released
  | settled
  deriving DecidableEq

/-- A row of `proposals`; `body` is the document kept as `jsonb`. -/
structure ProposalRow where
  id : Uuid
  principalId : Str
  idempotencyKey : Str
  wallet : Str
  chainId : Nat
  asset : Str
  amount : Nat
  proposalHash : Str
  body : ProposalV1
  state : LifecycleState
  stateVersion : Nat
  reasonCodes : List ReasonCode
  deadline : Datetime
  createdAt : Datetime
  updatedAt : Datetime
  deriving DecidableEq

/-- A row of `reservations`. -/
structure ReservationRow where
  id : Uuid
  proposalId : Uuid
  amount : Nat
  status : ReservationStatus
  createdAt : Datetime
  releasedAt : Option Datetime
  settledAt : Option Datetime
  deriving DecidableEq

def ProposalRow.scope (row : ProposalRow) : Scope :=
  (row.principalId, row.wallet, row.chainId, row.asset)

def ProposalRow.requestKey (row : ProposalRow) : Str × Str :=
  (row.principalId, row.idempotencyKey)

/-- The column types and checks: `char(42)`, `bigint`, `numeric(78,0)`, `char(66)`. -/
def ProposalRow.Fits (row : ProposalRow) : Prop :=
  row.wallet.length ≤ 42 ∧ 0 < row.chainId ∧ row.chainId < 2 ^ 63 ∧ 0 < row.amount ∧
    row.amount < 10 ^ 78 ∧ row.proposalHash.length ≤ 66

instance (row : ProposalRow) : Decidable row.Fits :=
  inferInstanceAs (Decidable (_ ∧ _))

def ReservationRow.Fits (row : ReservationRow) : Prop :=
  0 < row.amount ∧ row.amount < 10 ^ 78

instance (row : ReservationRow) : Decidable row.Fits :=
  inferInstanceAs (Decidable (_ ∧ _))

/-- The two tables, with the primary keys, the unique columns and the reference that the
schema declares. -/
structure Database where
  proposals : List ProposalRow
  reservations : List ReservationRow
  proposalKey : (proposals.map ProposalRow.id).Nodup
  requestKeys : (proposals.map ProposalRow.requestKey).Nodup
  proposalHashes : (proposals.map ProposalRow.proposalHash).Nodup
  proposalChecks : ∀ row ∈ proposals, row.Fits
  reservationKey : (reservations.map ReservationRow.id).Nodup
  reservedProposals : (reservations.map ReservationRow.proposalId).Nodup
  reservationChecks : ∀ row ∈ reservations, row.Fits
  references : ∀ row ∈ reservations, row.proposalId ∈ proposals.map ProposalRow.id

namespace Database

def empty : Database where
  proposals := []
  reservations := []
  proposalKey := List.nodup_nil
  requestKeys := List.nodup_nil
  proposalHashes := List.nodup_nil
  proposalChecks := List.forall_mem_nil _
  reservationKey := List.nodup_nil
  reservedProposals := List.nodup_nil
  reservationChecks := List.forall_mem_nil _
  references := List.forall_mem_nil _

/-! ## Statements -/

/-- `INSERT INTO proposals`. -/
def insertProposal (db : Database) (row : ProposalRow) : Except PostgresError Database :=
  if h : row.Fits ∧ row.id ∉ db.proposals.map ProposalRow.id ∧
      row.requestKey ∉ db.proposals.map ProposalRow.requestKey ∧
      row.proposalHash ∉ db.proposals.map ProposalRow.proposalHash then
    .ok { db with
      proposals := db.proposals ++ [row]
      proposalKey := nodup_map_append db.proposalKey h.2.1
      requestKeys := nodup_map_append db.requestKeys h.2.2.1
      proposalHashes := nodup_map_append db.proposalHashes h.2.2.2
      proposalChecks := List.forall_mem_append.mpr
        ⟨db.proposalChecks, List.forall_mem_singleton.mpr h.1⟩
      references := fun other hother => by
        rw [List.map_append]
        exact List.mem_append_left _ (db.references other hother) }
  else .error .databaseError

/-- `INSERT INTO reservations`. -/
def insertReservation (db : Database) (row : ReservationRow) : Except PostgresError Database :=
  if h : row.Fits ∧ row.id ∉ db.reservations.map ReservationRow.id ∧
      row.proposalId ∉ db.reservations.map ReservationRow.proposalId ∧
      row.proposalId ∈ db.proposals.map ProposalRow.id then
    .ok { db with
      reservations := db.reservations ++ [row]
      reservationKey := nodup_map_append db.reservationKey h.2.1
      reservedProposals := nodup_map_append db.reservedProposals h.2.2.1
      reservationChecks := List.forall_mem_append.mpr
        ⟨db.reservationChecks, List.forall_mem_singleton.mpr h.1⟩
      references := List.forall_mem_append.mpr
        ⟨db.references, List.forall_mem_singleton.mpr h.2.2.2⟩ }
  else .error .databaseError

/-- `SET status='RELEASED', released_at=now()` and its counterpart for settlement. -/
def close (status : ReservationStatus) (now : Datetime) (row : ReservationRow) :
    ReservationRow :=
  match status with
  | .released => { row with status := .released, releasedAt := some now }
  | .settled => { row with status := .settled, settledAt := some now }
  | .active => row

/-- `WHERE proposal_id=%s AND status='ACTIVE'`. -/
def isActiveFor (proposalId : Uuid) (row : ReservationRow) : Bool :=
  decide (row.proposalId = proposalId) && decide (row.status = .active)

theorem close_id (status : ReservationStatus) (now : Datetime) (row : ReservationRow) :
    (close status now row).id = row.id := by
  cases status <;> rfl

theorem close_proposalId (status : ReservationStatus) (now : Datetime) (row : ReservationRow) :
    (close status now row).proposalId = row.proposalId := by
  cases status <;> rfl

theorem close_amount (status : ReservationStatus) (now : Datetime) (row : ReservationRow) :
    (close status now row).amount = row.amount := by
  cases status <;> rfl

/-- `UPDATE reservations .. WHERE proposal_id=%s AND status='ACTIVE'`. -/
def closeReservation (db : Database) (proposalId : Uuid) (status : ReservationStatus)
    (now : Datetime) : Database :=
  { db with
    reservations := updateWhere (isActiveFor proposalId) (close status now) db.reservations
    reservationKey := by
      rw [map_updateWhere (close_id status now)]
      exact db.reservationKey
    reservedProposals := by
      rw [map_updateWhere (close_proposalId status now)]
      exact db.reservedProposals
    reservationChecks := by
      intro row hrow
      obtain ⟨old, hold, rfl⟩ := mem_updateWhere.mp hrow
      have hfits := db.reservationChecks old hold
      split_ifs
      · rw [ReservationRow.Fits, close_amount]
        exact hfits
      · exact hfits
    references := by
      intro row hrow
      obtain ⟨old, hold, rfl⟩ := mem_updateWhere.mp hrow
      have hreference := db.references old hold
      split_ifs
      · rw [close_proposalId]
        exact hreference
      · exact hreference }

/-- `SET state=%s, state_version=state_version+1, updated_at=now()`. -/
def enter (target : LifecycleState) (now : Datetime) (row : ProposalRow) : ProposalRow :=
  { row with state := target, stateVersion := row.stateVersion + 1, updatedAt := now }

theorem enter_id (target : LifecycleState) (now : Datetime) (row : ProposalRow) :
    (enter target now row).id = row.id := rfl

theorem enter_requestKey (target : LifecycleState) (now : Datetime) (row : ProposalRow) :
    (enter target now row).requestKey = row.requestKey := rfl

theorem enter_proposalHash (target : LifecycleState) (now : Datetime) (row : ProposalRow) :
    (enter target now row).proposalHash = row.proposalHash := rfl

/-- `UPDATE proposals .. WHERE id=%s`. -/
def setState (db : Database) (proposalId : Uuid) (target : LifecycleState) (now : Datetime) :
    Database :=
  { db with
    proposals := updateWhere (fun row => row.id = proposalId) (enter target now) db.proposals
    proposalKey := by
      rw [map_updateWhere (enter_id target now)]
      exact db.proposalKey
    requestKeys := by
      rw [map_updateWhere (enter_requestKey target now)]
      exact db.requestKeys
    proposalHashes := by
      rw [map_updateWhere (enter_proposalHash target now)]
      exact db.proposalHashes
    proposalChecks := by
      intro row hrow
      obtain ⟨old, hold, rfl⟩ := mem_updateWhere.mp hrow
      have hfits := db.proposalChecks old hold
      split_ifs
      · exact hfits
      · exact hfits
    references := by
      rw [map_updateWhere (enter_id target now)]
      exact db.references }

/-! ## Queries -/

/-- `_record`: the proposal joined with its reservation, if there is one. -/
def record (db : Database) (proposalId : Uuid) : Option ProposalRecord :=
  (lookup ProposalRow.id db.proposals proposalId).map fun row =>
    ⟨row.body, row.state, row.stateVersion, row.reasonCodes,
      (lookup ReservationRow.proposalId db.reservations row.id).map ReservationRow.id,
      row.createdAt, row.updatedAt⟩

/-- `status IN ('ACTIVE','SETTLED')`. -/
def counts (status : ReservationStatus) : Bool :=
  decide (status = .active) || decide (status = .settled)

/-- The reservations of a scope that count against its budget: `reservations r JOIN
proposals p ON p.id=r.proposal_id`, filtered by the columns of the scope and by status. -/
def activeIn (db : Database) (scope : Scope) : List ReservationRow :=
  ((join ReservationRow.proposalId ProposalRow.id db.reservations db.proposals).filter
    fun pair => counts pair.1.status && decide (pair.2.scope = scope)).map Prod.fst

/-- `created_at >= start`. -/
def since (start : Int) (rows : List ReservationRow) : List ReservationRow :=
  rows.filter fun row => start ≤ row.createdAt.val

/-- The loop over the rolling caps, which stops at the first one exceeded. -/
def capExceeded (server : Server) (active : List ReservationRow) (amount : Nat)
    (now : Datetime) : List RollingCapV1 → Except PostgresError Bool
  | [] => pure false
  | cap :: caps => do
      let start ← orRaise (server.windowStart now cap.windowSeconds.val) .databaseError
      if cap.amount < ((since start active).map ReservationRow.amount).sum + amount then
        pure true
      else capExceeded server active amount now caps

/-- `_scope_reasons`. -/
def scopeReasons (server : Server) (db : Database) (proposal : ProposalV1) (policy : PolicyV1)
    (deadlineNow now : Datetime) : Except PostgresError (List ReasonCode) :=
  let reasons := staticPolicyReasons proposal policy deadlineNow
  if reasons = [.emergencyStop] then pure reasons
  else do
    let active := db.activeIn proposal.scope
    let exceeded ← capExceeded server active proposal.amount.val now policy.rollingCaps
    let start ← orRaise (server.windowStart now 3600) .databaseError
    pure (reasons ++
      noteIf (exceeded = true) ReasonCode.rollingCapExceeded ++
      noteIf (policy.maximumTransactionsPerHour < (since start active).length + 1)
        ReasonCode.velocityExceeded)

/-! ## Transactions -/

/-- The row that `reserve` inserts for a proposal. -/
def newRow (proposal : ProposalV1) (proposalHash : Str) (reasons : List ReasonCode)
    (now : Datetime) : ProposalRow where
  id := proposal.proposalId.val
  principalId := proposal.principalId.val
  idempotencyKey := proposal.idempotencyKey.val
  wallet := proposal.wallet.val
  chainId := proposal.chainId.val
  asset := proposal.asset.val
  amount := proposal.amount.val
  proposalHash := proposalHash
  body := proposal
  state := if reasons = [] then .reserved else .denied
  stateVersion := 1
  reasonCodes := reasons
  deadline := proposal.deadline
  createdAt := now
  updatedAt := now

def newReservation (proposal : ProposalV1) (reservationId : Uuid) (now : Datetime) :
    ReservationRow :=
  ⟨reservationId, proposal.proposalId.val, proposal.amount.val, .active, now, none, none⟩

/-- `_reserve_once`. -/
def reserveOnce (host : Host) (server : Server) (db : Database) (proposal : ProposalV1)
    (policy : PolicyV1) (deadlineNow now : Datetime) (reservationId : Uuid) :
    Except PostgresError (ReservationResult × Database) :=
  match lookup ProposalRow.requestKey db.proposals
      (proposal.principalId.val, proposal.idempotencyKey.val) with
  | some duplicate => do
      let record ← orRaise (db.record duplicate.id) .assertionError
      pure (⟨record, false⟩, db)
  | none => do
      let reasons ← scopeReasons server db proposal policy deadlineNow now
      let proposalHash ← (proposal.proposalHash host).mapError .canonicalization
      let inserted ← db.insertProposal (newRow proposal proposalHash reasons now)
      let stored ← if reasons = [] then
          inserted.insertReservation (newReservation proposal reservationId now)
        else pure inserted
      let record ← orRaise (stored.record proposal.proposalId.val) .assertionError
      pure (⟨record, true⟩, stored)

/-- What a transition to `target` does to the reservations. -/
def applyTarget (db : Database) (proposalId : Uuid) (target : LifecycleState) (now : Datetime) :
    Except PostgresError Database :=
  match target with
  | .expired => pure (db.closeReservation proposalId .released now)
  | .reverted => pure (db.closeReservation proposalId .released now)
  | .settled => do
      raiseIf (db.reservations.all (fun row => !isActiveFor proposalId row) = true)
        (.valueError "settlement requires an active reservation")
      pure (db.closeReservation proposalId .settled now)
  | _ => pure db

def transition (db : Database) (proposalId : Uuid) (target : LifecycleState) (now : Datetime) :
    Except PostgresError (ProposalRecord × Database) := do
  let record ← orRaise (db.record proposalId) .keyError
  (requireTransition record.state target).mapError .valueError
  let applied ← db.applyTarget proposalId target now
  let updated := applied.setState proposalId target now
  let updatedRecord ← orRaise (updated.record proposalId) .assertionError
  pure (updatedRecord, updated)

/-! ## Serial runs -/

inductive Transaction
  | reserve (proposal : ProposalV1) (policy : PolicyV1) (deadlineNow now : Datetime)
      (reservationId : Uuid)
  | transition (proposalId : Uuid) (target : LifecycleState) (now : Datetime)

/-- One transaction of a serial order.  It commits, or it is rolled back: because it
raises, or for a reason of the server or the network. -/
inductive Step (host : Host) (server : Server) : Database → Transaction → Database → Prop
  | reserve {db after : Database} {proposal : ProposalV1} {policy : PolicyV1}
      {deadlineNow now : Datetime} {reservationId : Uuid} {result : ReservationResult}
      (hreserve : reserveOnce host server db proposal policy deadlineNow now reservationId =
        .ok (result, after)) :
      Step host server db (.reserve proposal policy deadlineNow now reservationId) after
  | transition {db after : Database} {proposalId : Uuid} {target : LifecycleState}
      {now : Datetime} {record : ProposalRecord}
      (htransition : db.transition proposalId target now = .ok (record, after)) :
      Step host server db (.transition proposalId target now) after
  | rollback {db : Database} {transaction : Transaction} : Step host server db transaction db

/-- The database after a transaction that is rolled back only if it raises. -/
def perform (host : Host) (server : Server) (db : Database) : Transaction → Database
  | .reserve proposal policy deadlineNow now reservationId =>
    match reserveOnce host server db proposal policy deadlineNow now reservationId with
    | .ok (_, after) => after
    | .error _ => db
  | .transition proposalId target now =>
    match db.transition proposalId target now with
    | .ok (_, after) => after
    | .error _ => db

theorem step_perform (host : Host) (server : Server) (db : Database)
    (transaction : Transaction) :
    Step host server db transaction (db.perform host server transaction) := by
  cases transaction with
  | reserve proposal policy deadlineNow now reservationId =>
    rw [perform]
    split
    · rename_i hreserve
      exact .reserve hreserve
    · exact .rollback
  | transition proposalId target now =>
    rw [perform]
    split
    · rename_i htransition
      exact .transition htransition
    · exact .rollback

end Database

end AegisLedger.Gateway
