import AegisLedger.Gateway.Postgres
import AegisLedger.Gateway.Reconciler

/-!
# The PostgreSQL settlement store

`PostgresSettlementStore` of `aegisledger/reconciler.py` over the tables `transactions` and
`settlements` of `migrations/versions/0001_core.py`.  As in the lifecycle store, the tables
carry their constraints and a statement that would break one is refused with its transaction.

A block hash is kept as `char(66)`: a shorter text is padded with blanks, and a comparison
does not look at trailing blanks.
-/

namespace AegisLedger.Gateway

open AegisLedger.Support Checks Table

/-- A row of `transactions`; the hash is that of the document kept as `jsonb`. -/
structure TransactionRow where
  id : Uuid
  proposalId : Uuid
  chainId : Nat
  transactionHash : Str
  submittedAt : Option Datetime
  deriving DecidableEq

/-- A row of `settlements`. -/
structure SettlementRow where
  id : Uuid
  transactionId : Uuid
  blockHash : Str
  blockNumber : Nat
  success : Bool
  confirmations : Nat
  canonical : Bool
  observedAt : Datetime
  deriving DecidableEq

inductive SettlementError
  | keyError (message : Str)
  | valueError (message : String)
  | runtimeError (message : String)
  /-- An error of the driver or the server: the transaction is rolled back. -/
  | databaseError
  deriving DecidableEq

/-! ## `char(66)` -/

/-- What a column of that type keeps of a text, if it takes it. -/
def char66 (text : Str) : Option Str :=
  if '\x00' ∈ text ∨ (text.drop 66).any (· ≠ ' ') then none
  else some ((text ++ List.replicate (66 - text.length) ' ').take 66)

/-- Equality of two such values. -/
def sameChars (first second : Str) : Bool :=
  first.rdropWhile (· = ' ') = second.rdropWhile (· = ' ')

/-! ## The tables -/

namespace SettlementRow

/-- `UNIQUE (transaction_id, block_hash)`. -/
def key (row : SettlementRow) : Uuid × Str := (row.transactionId, row.blockHash)

/-- The column types: `char(66)`, `bigint`, `integer`. -/
def Fits (row : SettlementRow) : Prop :=
  char66 row.blockHash = some row.blockHash ∧ row.blockNumber < 2 ^ 63 ∧
    row.confirmations < 2 ^ 31

instance (row : SettlementRow) : Decidable row.Fits :=
  inferInstanceAs (Decidable (_ ∧ _))

/-- `SET canonical=false`. -/
def retired (row : SettlementRow) : SettlementRow := { row with canonical := false }

/-- `DO UPDATE SET ..`, with the values of the row that was not inserted. -/
def renewed (excluded row : SettlementRow) : SettlementRow :=
  { row with
    success := excluded.success
    confirmations := excluded.confirmations
    canonical := true
    observedAt := excluded.observedAt }

end SettlementRow

/-- The two tables beside those of the lifecycle store, with the keys, the unique columns and
the references that the schema declares. -/
structure SettlementTables where
  lifecycle : Database
  transactions : List TransactionRow
  settlements : List SettlementRow
  transactionKey : (transactions.map TransactionRow.id).Nodup
  transactionProposals : (transactions.map TransactionRow.proposalId).Nodup
  proposalReferences : ∀ row ∈ transactions,
    row.proposalId ∈ lifecycle.proposals.map ProposalRow.id
  settlementIds : (settlements.map SettlementRow.id).Nodup
  settlementKeys : (settlements.map SettlementRow.key).Nodup
  settlementChecks : ∀ row ∈ settlements, row.Fits
  transactionReferences : ∀ row ∈ settlements,
    row.transactionId ∈ transactions.map TransactionRow.id

namespace SettlementTables

/-! ## Statements -/

/-- An update of settlements that keeps what the constraints are about. -/
def updateSettlements (tables : SettlementTables) (condition : SettlementRow → Bool)
    (change : SettlementRow → SettlementRow) (hid : ∀ row, (change row).id = row.id)
    (hkey : ∀ row, (change row).key = row.key)
    (hfits : ∀ row, row.Fits → (change row).Fits) : SettlementTables :=
  { tables with
    settlements := updateWhere condition change tables.settlements
    settlementIds := by
      rw [map_updateWhere hid]
      exact tables.settlementIds
    settlementKeys := by
      rw [map_updateWhere hkey]
      exact tables.settlementKeys
    settlementChecks := by
      intro row hrow
      obtain ⟨old, hold, rfl⟩ := mem_updateWhere.mp hrow
      have hold := tables.settlementChecks old hold
      split_ifs
      · exact hfits old hold
      · exact hold
    transactionReferences := by
      intro row hrow
      obtain ⟨old, hold, rfl⟩ := mem_updateWhere.mp hrow
      have hreference := tables.transactionReferences old hold
      split_ifs
      · rw [show (change old).transactionId = old.transactionId from congrArg Prod.fst (hkey old)]
        exact hreference
      · exact hreference }

/-- `UPDATE settlements SET canonical=false
WHERE transaction_id=%s AND canonical AND block_hash<>%s`. -/
def retireOthers (tables : SettlementTables) (transactionId : Uuid) (blockHash : Str) :
    SettlementTables :=
  tables.updateSettlements
    (fun row => row.transactionId = transactionId && row.canonical &&
      !sameChars row.blockHash blockHash)
    SettlementRow.retired (fun _ => rfl) (fun _ => rfl) (fun _ hfits => hfits)

/-- `INSERT INTO settlements .. ON CONFLICT (transaction_id,block_hash) DO UPDATE SET ..`. -/
def insertSettlement (tables : SettlementTables) (row : SettlementRow) :
    Except SettlementError SettlementTables :=
  if hfits : row.Fits then
    if hkey : row.key ∈ tables.settlements.map SettlementRow.key then
      .ok (tables.updateSettlements (fun old => old.key = row.key) row.renewed (fun _ => rfl)
        (fun _ => rfl) (fun _ hold => ⟨hold.1, hold.2.1, hfits.2.2⟩))
    else if h : row.id ∉ tables.settlements.map SettlementRow.id ∧
        row.transactionId ∈ tables.transactions.map TransactionRow.id then
      .ok { tables with
        settlements := tables.settlements ++ [row]
        settlementIds := nodup_map_append tables.settlementIds h.1
        settlementKeys := nodup_map_append tables.settlementKeys hkey
        settlementChecks := List.forall_mem_append.mpr
          ⟨tables.settlementChecks, List.forall_mem_singleton.mpr hfits⟩
        transactionReferences := List.forall_mem_append.mpr
          ⟨tables.transactionReferences, List.forall_mem_singleton.mpr h.2⟩ }
    else .error .databaseError
  else .error .databaseError

/-! ## The adapter -/

/-- `SELECT .. FROM transactions WHERE signed_transaction->>'transaction_hash'=%s`. -/
def transaction (tables : SettlementTables) (transactionHash : Str) : Option TransactionRow :=
  tables.transactions.find? fun row => row.transactionHash = transactionHash

def register (host : Host) (tables : SettlementTables) (transactionHash : Str)
    (proposalId : Uuid) (chainId : Nat) : Except SettlementError Unit := do
  let row ← orRaise
    (tables.transactions.find? fun row => row.proposalId = proposalId && row.submittedAt.isSome)
    (.valueError "submitted transaction is not durable")
  raiseIf (row.chainId ≠ chainId ∨ host.lower row.transactionHash ≠ host.lower transactionHash)
    (.valueError "durable transaction binding mismatch")

/-- `ORDER BY observed_at DESC LIMIT 1`. -/
def newest (rows : List SettlementRow) : Option SettlementRow :=
  rows.argmax fun row => row.observedAt.val

/-- The settlements of a transaction. -/
def settlementsOf (tables : SettlementTables) (transactionId : Uuid) : List SettlementRow :=
  tables.settlements.filter fun row => row.transactionId = transactionId

/-- A row of the query of `pending`. -/
def tracked (host : Host) (tables : SettlementTables) (row : TransactionRow) :
    TrackedTransaction :=
  let settlements := tables.settlementsOf row.id
  let canonical := newest (settlements.filter (·.canonical))
  { TrackedTransaction.new (host.lower row.transactionHash) row.proposalId row.chainId with
    blockHash := canonical.map (·.blockHash)
    confirmations := (canonical.map (·.confirmations)).getD 0
    reorgCount := (settlements.filter fun old => !old.canonical).length }

def pending (host : Host) (tables : SettlementTables) : List TrackedTransaction :=
  ((join TransactionRow.proposalId ProposalRow.id tables.transactions
    tables.lifecycle.proposals).filter fun pair =>
      pair.1.submittedAt.isSome && decide (pair.2.state = .submitted)).map fun pair =>
        tables.tracked host pair.1

/-- `observe`, with the identifier it draws and the time of its transaction. -/
def observe (tables : SettlementTables) (transactionHash : Str) (receipt : EvmReceipt)
    (id : Uuid) (now : Datetime) : Except SettlementError SettlementTables := do
  let row ← orRaise (tables.transaction transactionHash)
    (.keyError ("unknown transaction ".toList ++ transactionHash))
  let blockHash ← orRaise (char66 receipt.blockHash) .databaseError
  (tables.retireOthers row.id receipt.blockHash).insertSettlement {
    id := id
    transactionId := row.id
    blockHash := blockHash
    blockNumber := receipt.blockNumber
    success := receipt.success
    confirmations := receipt.confirmations
    canonical := true
    observedAt := now }

def complete (tables : SettlementTables) (transactionHash : Str) (status : SettlementStatus) :
    Except SettlementError Unit := do
  raiseIf (status = .pending) (.valueError "invalid terminal settlement status")
  let found := (join TransactionRow.proposalId ProposalRow.id tables.transactions
    tables.lifecycle.proposals).any fun pair =>
      pair.1.transactionHash = transactionHash && decide (pair.2.state.status = status)
  raiseIf (found = false) (.runtimeError "lifecycle transition was not durably committed")

def observation (host : Host) (tables : SettlementTables) (transactionHash : Str) :
    Option SettlementObservation :=
  (((join TransactionRow.id SettlementRow.transactionId tables.transactions
    tables.settlements).filter fun pair =>
      decide (pair.1.transactionHash = transactionHash) && pair.2.canonical).argmax fun pair =>
        pair.2.observedAt.val).map fun pair => {
    transactionHash := host.lower transactionHash
    blockHash := host.lower pair.2.blockHash
    blockNumber := pair.2.blockNumber
    chainId := pair.1.chainId
    success := pair.2.success
    confirmations := pair.2.confirmations
    observedAt := pair.2.observedAt }

end SettlementTables

end AegisLedger.Gateway
