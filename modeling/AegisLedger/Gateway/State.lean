import AegisLedger.Gateway.Policy
import AegisLedger.Support.Dict
import AegisLedger.Support.Binary64

/-!
# The in-memory lifecycle store

`MemoryStateStore` of `aegisledger/state.py`.  Each call reads the clock several
times; the readings are arguments, and so is the identifier that `uuid7` returns.
The age of a reservation is compared as the source compares it, through
`timedelta.total_seconds`, which is a double.
-/

namespace AegisLedger.Gateway

open AegisLedger.Support HexText Checks

structure Reservation where
  reservationId : Uuid
  proposalId : Uuid
  principalId : Str
  wallet : Str
  chainId : Nat
  asset : Str
  amount : Nat
  createdAt : Datetime
  active : Bool
  settled : Bool
  deriving DecidableEq

structure ProposalRecord where
  proposal : ProposalV1
  state : LifecycleState
  stateVersion : Nat
  reasonCodes : List ReasonCode
  reservationId : Option Uuid
  createdAt : Datetime
  updatedAt : Datetime
  deriving DecidableEq

structure ReservationResult where
  record : ProposalRecord
  created : Bool

inductive StoreError
  | keyError
  | valueError (message : String)
  deriving DecidableEq

structure MemoryStateStore where
  records : Dict Uuid ProposalRecord
  idempotency : Dict (Str × Str) Uuid
  reservations : Dict Uuid Reservation
  decisionNonces : List Uuid
  walletNonces : List (Str × Nat × Nat)
  version : Nat

/-- The clock readings of one `reserve` call, in the order in which it takes them. -/
structure ReserveReadings where
  deadline : Datetime
  evaluation : Datetime
  reservation : Datetime
  recordCreated : Datetime
  recordUpdated : Datetime

/-- The budget scope of a reservation: principal, wallet, chain and asset. -/
abbrev Scope := Str × Str × Nat × Str

def Reservation.scope (item : Reservation) : Scope :=
  (item.principalId, item.wallet, item.chainId, item.asset)

def ProposalV1.scope (proposal : ProposalV1) : Scope :=
  (proposal.principalId.val, proposal.wallet.val, proposal.chainId.val, proposal.asset.val)

/-- `delta.total_seconds() < seconds`, for `delta` in microseconds and `seconds`
not negative: a negative delta is less, any other is rounded to a double first. -/
def totalSecondsLt (delta : Int) (seconds : Nat) : Bool :=
  decide (delta < 0) ||
    decide (Binary64.trueDivide delta.toNat 1000000 < seconds * Binary64.scale)

namespace MemoryStateStore

def empty : MemoryStateStore := ⟨.empty, .empty, .empty, [], [], 0⟩

/-- The reservations of a scope that still count against its budget. -/
def activeIn (store : MemoryStateStore) (scope : Scope) : List Reservation :=
  store.reservations.values.filter fun item =>
    (item.active || item.settled) && decide (item.scope = scope)

/-- `sum(item.amount ..)` over the items younger than `seconds`. -/
def spentWithin (active : List Reservation) (now : Datetime) (seconds : Nat) : Nat :=
  ((active.filter fun item => totalSecondsLt (timedelta now item.createdAt) seconds).map
    Reservation.amount).sum

/-- `sum(1 ..)` over the items younger than `seconds`. -/
def countWithin (active : List Reservation) (now : Datetime) (seconds : Nat) : Nat :=
  (active.filter fun item => totalSecondsLt (timedelta now item.createdAt) seconds).length

/-- `_evaluate`: the loop over the caps stops at the first one exceeded, so it adds
its reason at most once. -/
def evaluate (store : MemoryStateStore) (proposal : ProposalV1) (policy : PolicyV1)
    (deadlineNow now : Datetime) : List ReasonCode :=
  let active := store.activeIn proposal.scope
  staticPolicyReasons proposal policy deadlineNow ++
  noteIf (∃ cap ∈ policy.rollingCaps,
      cap.amount < spentWithin active now cap.windowSeconds.val + proposal.amount.val)
    .rollingCapExceeded ++
  noteIf (policy.maximumTransactionsPerHour < countWithin active now 3600 + 1)
    .velocityExceeded

def get (store : MemoryStateStore) (proposalId : Uuid) : Option ProposalRecord :=
  store.records.get? proposalId

def simulate (store : MemoryStateStore) (proposal : ProposalV1) (policy : PolicyV1)
    (deadlineNow now : Datetime) : List ReasonCode :=
  store.evaluate proposal policy deadlineNow now

/-- The reservation that an admitted proposal makes. -/
def newReservation (proposal : ProposalV1) (createdAt : Datetime) (reservationId : Uuid) :
    Reservation where
  reservationId := reservationId
  proposalId := proposal.proposalId.val
  principalId := proposal.principalId.val
  wallet := proposal.wallet.val
  chainId := proposal.chainId.val
  asset := proposal.asset.val
  amount := proposal.amount.val
  createdAt := createdAt
  active := true
  settled := false

/-- Store the record of a new proposal and its idempotency key. -/
def putRecord (store : MemoryStateStore) (key : Str × Str) (record : ProposalRecord) :
    MemoryStateStore :=
  { store with
    records := store.records.set record.proposal.proposalId.val record
    idempotency := store.idempotency.set key record.proposal.proposalId.val
    version := store.version + 1 }

def reserve (store : MemoryStateStore) (proposal : ProposalV1) (policy : PolicyV1)
    (readings : ReserveReadings) (reservationId : Uuid) :
    Except StoreError (ReservationResult × MemoryStateStore) :=
  let key := (proposal.principalId.val, proposal.idempotencyKey.val)
  match store.idempotency.get? key with
  | some duplicateId => do
      let record ← orRaise (store.records.get? duplicateId) .keyError
      pure (⟨record, false⟩, store)
  | none =>
    let reasons := store.evaluate proposal policy readings.deadline readings.evaluation
    if reasons = [] then
      let reserved := { store with
        reservations := store.reservations.set reservationId
          (newReservation proposal readings.reservation reservationId) }
      let record : ProposalRecord :=
        ⟨proposal, .reserved, store.version + 1, [], some reservationId,
          readings.recordCreated, readings.recordUpdated⟩
      pure (⟨record, true⟩, reserved.putRecord key record)
    else
      let record : ProposalRecord :=
        ⟨proposal, .denied, store.version + 1, reasons, none,
          readings.recordCreated, readings.recordUpdated⟩
      pure (⟨record, true⟩, store.putRecord key record)

def setReservation (store : MemoryStateStore) (reservationId : Uuid) (item : Reservation) :
    MemoryStateStore :=
  { store with reservations := store.reservations.set reservationId item }

/-- `_release`. -/
def release (store : MemoryStateStore) (record : ProposalRecord) :
    Except StoreError MemoryStateStore :=
  match record.reservationId with
  | none => pure store
  | some reservationId => do
      let item ← orRaise (store.reservations.get? reservationId) .keyError
      pure (store.setReservation reservationId { item with active := false })

/-- `_required_reservation`, then the two assignments that settle it. -/
def settle (store : MemoryStateStore) (record : ProposalRecord) :
    Except StoreError MemoryStateStore := do
  let reservationId ← orRaise record.reservationId
    (.valueError "lifecycle state has no reservation")
  let item ← orRaise (store.reservations.get? reservationId) .keyError
  pure (store.setReservation reservationId { item with active := false, settled := true })

/-- What a transition to `target` does to the reservation of `record`. -/
def applyTarget (store : MemoryStateStore) (record : ProposalRecord)
    (target : LifecycleState) : Except StoreError MemoryStateStore :=
  match target with
  | .expired => store.release record
  | .reverted => store.release record
  | .settled => store.settle record
  | _ => pure store

def transition (store : MemoryStateStore) (proposalId : Uuid) (target : LifecycleState)
    (now : Datetime) : Except StoreError (ProposalRecord × MemoryStateStore) := do
  let record ← orRaise (store.records.get? proposalId) .keyError
  (requireTransition record.state target).mapError .valueError
  let applied ← store.applyTarget record target
  let updated := { record with
    state := target, stateVersion := applied.version + 1, updatedAt := now }
  pure (updated, { applied with
    records := applied.records.set proposalId updated, version := applied.version + 1 })

def registerDecisionNonce (store : MemoryStateStore) (nonce : Uuid) :
    Except StoreError MemoryStateStore := do
  raiseIf (nonce ∈ store.decisionNonces) (.valueError "decision nonce already used")
  pure { store with decisionNonces := nonce :: store.decisionNonces }

def registerWalletNonce (host : Host) (store : MemoryStateStore) (wallet : Str)
    (chainId nonce : Nat) : Except StoreError MemoryStateStore := do
  let key := (host.lower wallet, chainId, nonce)
  raiseIf (key ∈ store.walletNonces) (.valueError "wallet nonce already used")
  pure { store with walletNonces := key :: store.walletNonces }

/-- `budget_totals`: pending and settled amounts of a scope. -/
def budgetTotals (host : Host) (store : MemoryStateStore) (principal wallet : Str)
    (chainId : Nat) (asset : Str) : Nat × Nat :=
  let matching := store.reservations.values.filter fun item =>
    decide (item.scope = (principal, host.lower wallet, chainId, asset))
  (((matching.filter Reservation.active).map Reservation.amount).sum,
    ((matching.filter Reservation.settled).map Reservation.amount).sum)

/-! ## Runs -/

inductive Call
  | reserve (proposal : ProposalV1) (policy : PolicyV1) (readings : ReserveReadings)
      (reservationId : Uuid)
  | transition (proposalId : Uuid) (target : LifecycleState) (now : Datetime)

/-- One call under the lock; a call that raises leaves the store as it was. -/
inductive Step : MemoryStateStore → Call → MemoryStateStore → Prop
  | reserve {store after : MemoryStateStore} {proposal : ProposalV1} {policy : PolicyV1}
      {readings : ReserveReadings} {reservationId : Uuid} {result : ReservationResult}
      (hreserve : store.reserve proposal policy readings reservationId = .ok (result, after)) :
      Step store (.reserve proposal policy readings reservationId) after
  | reserveRaises {store : MemoryStateStore} {proposal : ProposalV1} {policy : PolicyV1}
      {readings : ReserveReadings} {reservationId : Uuid} {error : StoreError}
      (hreserve : store.reserve proposal policy readings reservationId = .error error) :
      Step store (.reserve proposal policy readings reservationId) store
  | transition {store after : MemoryStateStore} {proposalId : Uuid} {target : LifecycleState}
      {now : Datetime} {record : ProposalRecord}
      (htransition : store.transition proposalId target now = .ok (record, after)) :
      Step store (.transition proposalId target now) after
  | transitionRaises {store : MemoryStateStore} {proposalId : Uuid} {target : LifecycleState}
      {now : Datetime} {error : StoreError}
      (htransition : store.transition proposalId target now = .error error) :
      Step store (.transition proposalId target now) store

/-- The store after a call, whether it returns or raises. -/
def perform (store : MemoryStateStore) : Call → MemoryStateStore
  | .reserve proposal policy readings reservationId =>
    match store.reserve proposal policy readings reservationId with
    | .ok (_, after) => after
    | .error _ => store
  | .transition proposalId target now =>
    match store.transition proposalId target now with
    | .ok (_, after) => after
    | .error _ => store

theorem step_perform (store : MemoryStateStore) (call : Call) :
    Step store call (store.perform call) := by
  cases call with
  | reserve proposal policy readings reservationId =>
    rw [perform]
    split
    · rename_i hreserve
      exact .reserve hreserve
    · rename_i hreserve
      exact .reserveRaises hreserve
  | transition proposalId target now =>
    rw [perform]
    split
    · rename_i htransition
      exact .transition htransition
    · rename_i htransition
      exact .transitionRaises htransition

/-- The identifiers that `uuid7` returned to the `reserve` calls of a run. -/
def reservationIds (calls : List Call) : List Uuid :=
  calls.filterMap fun
    | .reserve _ _ _ reservationId => some reservationId
    | .transition _ _ _ => none

theorem reservationIds_append (calls later : List Call) :
    reservationIds (calls ++ later) = reservationIds calls ++ reservationIds later :=
  List.filterMap_append

end MemoryStateStore

end AegisLedger.Gateway
