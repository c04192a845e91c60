import AegisLedger.Gateway.Contracts
import AegisLedger.Support.Merkle

/-!
# The audit journal

`aegisledger/audit.py`: the hash chain of audit events, its checkpoints and the two
verifiers.  The payload of an event is kept in the form in which `model_dump(mode="json")`
writes it.  Event ids and clock readings are arguments of the calls that draw them.
-/

namespace AegisLedger.Gateway

open AegisLedger.Support HexText Checks

/-! ## Records -/

/-- The pattern `^[A-Z][A-Z0-9_]{1,95}$`. -/
def matchesEventType (s : Str) : Bool :=
  let upper (c : Char) : Bool := 65 ≤ c.toNat && c.toNat ≤ 90
  let digit (c : Char) : Bool := 48 ≤ c.toNat && c.toNat ≤ 57
  match s with
  | [] => false
  | c :: rest =>
    upper c && 1 ≤ rest.length && rest.length ≤ 95 &&
      rest.all (fun d => upper d || digit d || d == '_')

abbrev EventType := {s : Str // matchesEventType s = true}

/-- `GENESIS_HASH`. -/
def genesisHash : Hex32 := hex32 0

structure AuditEventV1 where
  schemaVersion : Str
  sequence : PosInt
  eventId : Uuid
  eventType : EventType
  aggregateId : Option Uuid
  occurredAt : Datetime
  actor : BoundedStr 1 256
  payload : List (Str × Json)
  previousHash : Hex32
  eventHash : Hex32

structure AuditCheckpointV1 where
  schemaVersion : Str := "aegisledger.audit_checkpoint.v1".toList
  checkpointId : Uuid
  firstSequence : PosInt
  lastSequence : PosInt
  eventCount : PosInt
  merkleRoot : Hex32
  headHash : Hex32
  createdAt : Datetime
  deriving DecidableEq

structure AnchorReceiptV1 where
  schemaVersion : Str := "aegisledger.anchor_receipt.v1".toList
  checkpointId : Uuid
  chainId : PosInt
  contract : LowerAddress
  transactionHash : Hex32
  blockNumber : Nat
  merkleRoot : Hex32
  anchoredAt : Datetime
  deriving DecidableEq

structure JournalVerification where
  valid : Bool
  checkedEvents : Nat
  errors : List Str
  deriving DecidableEq

/-! ## Hashes -/

/-- The members of `model_dump(mode="json", exclude={"event_hash"})`. -/
def AuditEventV1.unhashedFields (host : Host) (event : AuditEventV1) : List (Str × Json) := [
    ("schema_version".toList, .str event.schemaVersion),
    ("sequence".toList, .int event.sequence.val),
    ("event_id".toList, .str (uuidText event.eventId)),
    ("event_type".toList, .str event.eventType),
    ("aggregate_id".toList, optionalUuid event.aggregateId),
    ("occurred_at".toList, .str (host.datetimeText event.occurredAt)),
    ("actor".toList, .str event.actor),
    ("payload".toList, .obj event.payload),
    ("previous_hash".toList, .str event.previousHash)]

def AuditEventV1.modelDump (host : Host) (event : AuditEventV1) : Json :=
  .obj (event.unhashedFields host ++ [("event_hash".toList, .str event.eventHash)])

/-- `_event_payload`. -/
def eventPayload (host : Host) (event : AuditEventV1) : Except CanonicalError Bytes :=
  canonicalJson host (.obj (event.unhashedFields host))

/-- `_hash_payload`. -/
def hashPayload (host : Host) (payload : Bytes) : Str := prefixedHex (host.sha256 payload)

/-- The digest that `bytes.fromhex(event.event_hash[2:])` reads. -/
def AuditEventV1.node (event : AuditEventV1) : Bytes :=
  (fromHex (event.eventHash.val.drop 2)).getD []

/-- The digest of two nodes, one after the other. -/
def combineNodes (host : Host) (left right : Bytes) : Bytes := host.sha256 (left ++ right)

/-- `_merkle_root`. -/
def merkleRoot (host : Host) (events : List AuditEventV1) : Str :=
  let nodes := events.map AuditEventV1.node
  match Merkle.climb (combineNodes host) nodes.length nodes with
  | [] => genesisHash
  | node :: _ => prefixedHex node

/-! ## The journal -/

inductive AuditError
  | validation
  | canonical (error : CanonicalError)
  | valueError (message : Str)
  deriving DecidableEq

structure AuditJournal where
  events : List AuditEventV1
  lastAnchorCount : Nat
  lastAnchorAt : Datetime

namespace AuditJournal

/-- `AuditJournal.__init__`. -/
def new (now : Datetime) : AuditJournal := ⟨[], 0, now⟩

/-- `AuditJournal.append`. -/
def append (host : Host) (journal : AuditJournal) (eventType actor : Str)
    (payload : List (Str × Json)) (aggregateId : Option Uuid) (eventId : Uuid)
    (now : Datetime) : Except AuditError (AuditEventV1 × AuditJournal) := do
  let previous := match journal.events.getLast? with
    | some event => event.eventHash
    | none => genesisHash
  let eventType ← constrain eventType AuditError.validation
  let actor ← constrain actor AuditError.validation
  let placeholder : AuditEventV1 := {
    schemaVersion := "aegisledger.audit_event.v1".toList
    sequence := ⟨journal.events.length + 1, Nat.succ_pos _⟩
    eventId := eventId
    eventType := eventType
    aggregateId := aggregateId
    occurredAt := now
    actor := actor
    payload := payload
    previousHash := previous
    eventHash := genesisHash }
  let bytes ← (eventPayload host placeholder).mapError .canonical
  let eventHash ← constrain (hashPayload host bytes) AuditError.validation
  let event : AuditEventV1 := { placeholder with eventHash := eventHash }
  pure (event, { journal with events := journal.events ++ [event] })

/-- `AuditJournal.snapshot_checkpoint`. -/
def snapshotCheckpoint (host : Host) (journal : AuditJournal) (checkpointId : Uuid)
    (now : Datetime) : Except AuditError AuditCheckpointV1 :=
  if hne : journal.events = [] then
    .error (.valueError "cannot checkpoint an empty journal".toList)
  else do
    let count : PosInt := ⟨journal.events.length, List.length_pos_iff.mpr hne⟩
    let root ← constrain (merkleRoot host journal.events) AuditError.validation
    pure {
      checkpointId := checkpointId
      firstSequence := 1
      lastSequence := count
      eventCount := count
      merkleRoot := root
      headHash := (journal.events.getLast hne).eventHash
      createdAt := now }

/-- `AuditJournal.mark_anchored`. -/
def markAnchored (host : Host) (journal : AuditJournal) (checkpoint : AuditCheckpointV1) :
    Except AuditError AuditJournal := do
  raiseIf (journal.events.length < checkpoint.eventCount.val)
    (AuditError.valueError "checkpoint extends beyond current journal".toList)
  let anchored := journal.events.take checkpoint.eventCount.val
  let last ← orRaise anchored.getLast?
    (AuditError.valueError "checkpoint does not match journal history".toList)
  raiseIf (checkpoint.lastSequence ≠ last.sequence ∨ checkpoint.headHash ≠ last.eventHash ∨
      checkpoint.merkleRoot.val ≠ merkleRoot host anchored)
    (AuditError.valueError "checkpoint does not match journal history".toList)
  pure { journal with
    lastAnchorCount := max journal.lastAnchorCount checkpoint.eventCount.val
    lastAnchorAt := checkpoint.createdAt }

/-- `AuditJournal.anchor_due`. -/
def anchorDue (journal : AuditJournal) (now : Datetime) : Bool :=
  let unanchored : Int := journal.events.length - journal.lastAnchorCount
  100 ≤ unanchored ||
    (0 < unanchored && 5 * 60 * 1000000 ≤ timedelta now journal.lastAnchorAt)

/-- A call on the journal. -/
inductive Call
  | append (eventType actor : Str) (payload : List (Str × Json)) (aggregateId : Option Uuid)
      (eventId : Uuid) (now : Datetime)
  | markAnchored (checkpoint : AuditCheckpointV1)

/-- The journal after a call; one that raises leaves it as it was. -/
def perform (host : Host) (journal : AuditJournal) : Call → AuditJournal
  | .append eventType actor payload aggregateId eventId now =>
    match journal.append host eventType actor payload aggregateId eventId now with
    | .ok (_, after) => after
    | .error _ => journal
  | .markAnchored checkpoint =>
    match journal.markAnchored host checkpoint with
    | .ok after => after
    | .error _ => journal

/-- One call under the lock. -/
def Step (host : Host) (journal : AuditJournal) (call : Call) (after : AuditJournal) : Prop :=
  after = journal.perform host call

theorem step_perform (host : Host) (journal : AuditJournal) (call : Call) :
    Step host journal call (journal.perform host call) := rfl

end AuditJournal

/-! ## Verification -/

/-- The loop of `verify_journal`: the errors it appends, and the hash of the last event. -/
def chainErrors (host : Host) (previous : Hex32) (expectedSequence : Nat) :
    List AuditEventV1 → Except CanonicalError (List Str × Hex32)
  | [] => pure ([], previous)
  | event :: events => do
      let bytes ← eventPayload host event
      let (errors, head) ← chainErrors host event.eventHash (expectedSequence + 1) events
      pure (noteIf (event.sequence.val ≠ expectedSequence)
            ("unexpected sequence at position ".toList ++ Nat.toDigits 10 expectedSequence) ++
          noteIf (event.previousHash ≠ previous)
            ("previous hash mismatch at sequence ".toList ++
              Nat.toDigits 10 event.sequence.val) ++
          noteIf (event.eventHash.val ≠ hashPayload host bytes)
            ("event hash mismatch at sequence ".toList ++
              Nat.toDigits 10 event.sequence.val) ++
          errors,
        head)

/-- `verify_journal`. -/
def verifyJournal (host : Host) (events : List AuditEventV1) (checkpoint : AuditCheckpointV1) :
    Except CanonicalError JournalVerification := do
  let (chain, head) ← chainErrors host genesisHash 1 events
  let errors :=
    noteIf (events.length ≠ checkpoint.eventCount.val)
      "event count does not match trusted checkpoint".toList ++
    noteIf (events.head?.any (fun event => event.sequence != checkpoint.firstSequence) = true)
      "first sequence does not match trusted checkpoint".toList ++
    noteIf (events.getLast?.any (fun event => event.sequence != checkpoint.lastSequence) = true)
      "last sequence does not match trusted checkpoint".toList ++
    chain ++
    noteIf (head ≠ checkpoint.headHash)
      "journal head does not match trusted checkpoint".toList ++
    noteIf (merkleRoot host events ≠ checkpoint.merkleRoot.val)
      "Merkle root does not match trusted checkpoint".toList
  pure ⟨errors.isEmpty, events.length, errors⟩

/-- `verify_anchored_journal`. -/
def verifyAnchoredJournal (host : Host) (events : List AuditEventV1)
    (checkpoint : AuditCheckpointV1) (receipt : AnchorReceiptV1) :
    Except CanonicalError JournalVerification := do
  let report ← verifyJournal host events checkpoint
  let errors := report.errors ++
    noteIf (receipt.checkpointId ≠ checkpoint.checkpointId)
      "external anchor references a different checkpoint".toList ++
    noteIf (receipt.merkleRoot ≠ checkpoint.merkleRoot)
      "external anchor root does not match checkpoint".toList
  pure ⟨errors.isEmpty, report.checkedEvents, errors⟩

end AegisLedger.Gateway
