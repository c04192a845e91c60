import AegisLedger.Gateway.Audit
import AegisLedger.Support.Dict
import AegisLedger.Support.Threads

/-!
# Anchoring of the journal

`MemoryRetentionStore` and `AnchoringService` of `aegisledger/audit.py`.  Each access to the
journal or to the store takes a lock of its own, so a call of `anchor` is a program and each
access is one command.  What the external anchor returns, the identifiers and the clock
readings are outcomes.
-/

namespace AegisLedger.Gateway

open AegisLedger.Support HexText Checks Threads

/-! ## Serialized records -/

def AuditCheckpointV1.modelDump (host : Host) (checkpoint : AuditCheckpointV1) : Json := .obj [
  ("schema_version".toList, .str checkpoint.schemaVersion),
  ("checkpoint_id".toList, .str (uuidText checkpoint.checkpointId)),
  ("first_sequence".toList, .int checkpoint.firstSequence.val),
  ("last_sequence".toList, .int checkpoint.lastSequence.val),
  ("event_count".toList, .int checkpoint.eventCount.val),
  ("merkle_root".toList, .str checkpoint.merkleRoot),
  ("head_hash".toList, .str checkpoint.headHash),
  ("created_at".toList, .str (host.datetimeText checkpoint.createdAt))]

def AnchorReceiptV1.modelDump (host : Host) (receipt : AnchorReceiptV1) : Json := .obj [
  ("schema_version".toList, .str receipt.schemaVersion),
  ("checkpoint_id".toList, .str (uuidText receipt.checkpointId)),
  ("chain_id".toList, .int receipt.chainId.val),
  ("contract".toList, .str receipt.contract),
  ("transaction_hash".toList, .str receipt.transactionHash),
  ("block_number".toList, .int receipt.blockNumber),
  ("merkle_root".toList, .str receipt.merkleRoot),
  ("anchored_at".toList, .str (host.datetimeText receipt.anchoredAt))]

def historyDump (host : Host) (events : List AuditEventV1) : Json :=
  .obj [("events".toList, .arr (events.map fun item => item.modelDump host))]

/-! ## The retention store -/

/-- A `datetime` that a clock returns, with or without a UTC offset. -/
inductive ClockReading
  | aware (time : Datetime)
  | naive (time : Datetime)

/-- `time + delta` for a `timedelta` in microseconds, unless it leaves the range of the
type. -/
def addTimedelta (time : Datetime) (delta : Int) : Option Datetime :=
  let moved := (time.val : Int) + delta
  if h : 0 ≤ moved ∧ moved.toNat < 315537897600000000 then some ⟨moved.toNat, h.2⟩ else none

def ClockReading.add (delta : Int) : ClockReading → Option ClockReading
  | .aware time => (addTimedelta time delta).map .aware
  | .naive time => (addTimedelta time delta).map .naive

inductive AnchoringError
  | journal (error : AuditError)
  | canonical (error : CanonicalError)
  | valueError (message : Str)
  | fileExistsError (message : Str)
  | keyError (key : Str)
  | overflowError
  /-- Whatever the external anchor raises. -/
  | external
  deriving DecidableEq

structure RetainedObject where
  payload : Bytes
  retainUntil : Datetime
  digest : Str

/-- `_require_retention`; the time is taken in UTC. -/
def requireRetention : ClockReading → Except AnchoringError Datetime
  | .aware time => .ok time
  | .naive _ => .error (.valueError "retain_until must include a UTC offset".toList)

structure MemoryRetentionStore where
  objects : Dict Str RetainedObject

namespace MemoryRetentionStore

/-- `MemoryRetentionStore.put_once`. -/
def putOnce (host : Host) (store : MemoryRetentionStore) (key : Str) (payload : Bytes)
    (retainUntil : ClockReading) : Except AnchoringError MemoryRetentionStore := do
  let retainUntil ← requireRetention retainUntil
  raiseIf (store.objects.get? key |>.isSome)
    (AnchoringError.fileExistsError ("retained object already exists: ".toList ++ key))
  pure ⟨store.objects.set key ⟨payload, retainUntil, hashPayload host payload⟩⟩

/-- `MemoryRetentionStore.read`. -/
def read (store : MemoryRetentionStore) (key : Str) : Except AnchoringError Bytes := do
  let object ← orRaise (store.objects.get? key) (AnchoringError.keyError key)
  pure object.payload

end MemoryRetentionStore

/-! ## Commands of a call -/

/-- What the calls share. -/
structure AnchoringState where
  journal : AuditJournal
  store : MemoryRetentionStore

inductive AnchoringCommand
  | append (eventType actor : Str) (payload : List (Str × Json)) (aggregateId : Option Uuid)
  | snapshotCheckpoint
  /-- Read the clock of the service. -/
  | now
  | events
  | putOnce (key : Str) (payload : Bytes) (retainUntil : ClockReading)
  /-- Call the external anchor. -/
  | anchor (checkpoint : AuditCheckpointV1)
  | markAnchored (checkpoint : AuditCheckpointV1)

@[reducible] def AnchoringCommand.Answer : AnchoringCommand → Type
  | .append _ _ _ _ => AuditEventV1
  | .snapshotCheckpoint => AuditCheckpointV1
  | .now => ClockReading
  | .events => List AuditEventV1
  | .putOnce _ _ _ => Unit
  | .anchor _ => AnchorReceiptV1
  | .markAnchored _ => Unit

/-- What a command draws from outside: a fresh identifier and the time of the journal, the
time of the service, and the receipt of the external anchor unless it raises. -/
structure AnchoringOutcome where
  uuid : Uuid
  now : Datetime
  serviceNow : ClockReading
  receipt : Option AnchorReceiptV1

namespace AnchoringState

def perform (host : Host) (outcome : AnchoringOutcome) (state : AnchoringState) :
    (command : AnchoringCommand) → Except AnchoringError command.Answer × AnchoringState
  | .append eventType actor payload aggregateId =>
    match state.journal.append host eventType actor payload aggregateId outcome.uuid
        outcome.now with
    | .ok (event, journal) => (.ok event, { state with journal })
    | .error error => (.error (.journal error), state)
  | .snapshotCheckpoint =>
    ((state.journal.snapshotCheckpoint host outcome.uuid outcome.now).mapError .journal, state)
  | .now => (.ok outcome.serviceNow, state)
  | .events => (.ok state.journal.events, state)
  | .putOnce key payload retainUntil =>
    match state.store.putOnce host key payload retainUntil with
    | .ok store => (.ok (), { state with store })
    | .error error => (.error error, state)
  | .anchor _ => (orRaise outcome.receipt .external, state)
  | .markAnchored checkpoint =>
    match state.journal.markAnchored host checkpoint with
    | .ok journal => (.ok (), { state with journal })
    | .error error => (.error (.journal error), state)

end AnchoringState

/-! ## The service -/

abbrev AnchoringProgram (ρ : Type) : Type :=
  Prog AnchoringCommand AnchoringCommand.Answer AnchoringError ρ

abbrev anchoringCall (command : AnchoringCommand) : AnchoringProgram command.Answer :=
  Prog.call command

structure AnchoredCheckpoint where
  checkpoint : AuditCheckpointV1
  receipt : AnchorReceiptV1
  historyKey : Str
  checkpointKey : Str
  receiptKey : Str
  deriving DecidableEq

/-- The key of an object that belongs to a checkpoint. -/
def objectKey (folder : String) (checkpoint : AuditCheckpointV1) : Str :=
  folder.toList ++ '/' :: uuidText checkpoint.checkpointId ++ ".json".toList

structure AnchoringService where
  /-- A `timedelta`, in microseconds. -/
  retention : Int
  retentionPositive : 0 < retention

namespace AnchoringService

/-- `AnchoringService.__init__`. -/
def new (retention : Int) : Except AnchoringError AnchoringService :=
  if h : 0 < retention then .ok ⟨retention, h⟩
  else .error (.valueError "retention duration must be positive".toList)

/-- Serialize a record and retain it. -/
def retain (host : Host) (key : Str) (value : Json) (retainUntil : ClockReading) :
    AnchoringProgram Unit := do
  let payload ← Prog.ofExcept ((canonicalJson host value).mapError .canonical)
  anchoringCall (.putOnce key payload retainUntil)

/-- The checks of a receipt. -/
def checkReceipt (checkpoint : AuditCheckpointV1) (receipt : AnchorReceiptV1) :
    Except AnchoringError Unit := do
  raiseIf (receipt.checkpointId ≠ checkpoint.checkpointId)
    (AnchoringError.valueError "anchor receipt references a different checkpoint".toList)
  raiseIf (receipt.merkleRoot ≠ checkpoint.merkleRoot)
    (AnchoringError.valueError "anchor receipt root does not match checkpoint".toList)

/-- `AnchoringService.anchor`. -/
def anchor (host : Host) (service : AnchoringService) : AnchoringProgram AnchoredCheckpoint := do
  let checkpoint ← anchoringCall .snapshotCheckpoint
  let historyKey := objectKey "history" checkpoint
  let checkpointKey := objectKey "checkpoints" checkpoint
  let receiptKey := objectKey "anchors" checkpoint
  let now ← anchoringCall .now
  let retainUntil ← Prog.ofExcept (orRaise (now.add service.retention) .overflowError)
  let events ← anchoringCall .events
  retain host historyKey (historyDump host (events.take checkpoint.eventCount.val)) retainUntil
  retain host checkpointKey (checkpoint.modelDump host) retainUntil
  let receipt ← anchoringCall (.anchor checkpoint)
  Prog.ofExcept (checkReceipt checkpoint receipt)
  retain host receiptKey (receipt.modelDump host) retainUntil
  anchoringCall (.markAnchored checkpoint)
  pure ⟨checkpoint, receipt, historyKey, checkpointKey, receiptKey⟩

end AnchoringService

/-! ## Concurrent calls -/

inductive AnchoringRequest
  | append (eventType actor : Str) (payload : List (Str × Json)) (aggregateId : Option Uuid)
  | anchor (service : AnchoringService)

inductive AnchoringResult
  | appended (event : AuditEventV1)
  | anchored (result : AnchoredCheckpoint)

def anchoringProgram (host : Host) : AnchoringRequest → AnchoringProgram AnchoringResult
  | .append eventType actor payload aggregateId => do
      let event ← anchoringCall (.append eventType actor payload aggregateId)
      pure (.appended event)
  | .anchor service => do
      let result ← service.anchor host
      pure (.anchored result)

abbrev AnchoringConfig :=
  Config AnchoringState AnchoringCommand AnchoringCommand.Answer AnchoringError AnchoringResult

abbrev AnchoringLabel := Label AnchoringRequest AnchoringOutcome

/-- What the calls of `anchor` have returned. -/
def AnchoringConfig.anchored (config : AnchoringConfig) : List AnchoredCheckpoint :=
  config.results.filterMap fun
    | .appended _ => none
    | .anchored result => some result

/-- A call starts or one of the calls performs its next command.  A call that is given up is
one that performs no further command. -/
def AnchoringStep (host : Host) : AnchoringConfig → AnchoringLabel → AnchoringConfig → Prop :=
  Run.Guarded (fun _ label => label.proceeds = true)
    (Config.perform (AnchoringState.perform host) (anchoringProgram host))

end AegisLedger.Gateway
