import AegisLedger.Gateway.Audit
import AegisLedger.Gateway.Proofs.CanonicalText
import AegisLedger.Gateway.Proofs.SignedEffect
import AegisLedger.Support.Run

/-!
# Integrity of the audit journal

A checkpoint that the journal takes of its own history verifies, and no other history
verifies against it.  The argument runs backwards along the hash chain: the last hash
determines the payload of the last event, and with it the hash before.  An external anchor
holds only the Merkle root.  That is enough too, since the sequence numbers make the
leaves distinct and no payload has the length of two digests.
-/

namespace AegisLedger.Gateway.JournalIntegrity

open AegisLedger.Support HexText Checks
open CanonicalText

/-! ## Serialized events -/

/-- An event as the retained history holds it. -/
def serialized (host : Host) (event : AuditEventV1) : Except CanonicalError Bytes :=
  canonicalJson host (event.modelDump host)

theorem sortKeys_unhashedFields (host : Host) (event : AuditEventV1) :
    sortKeys (.obj (event.unhashedFields host)) = .obj [
      ("actor".toList, .str event.actor),
      ("aggregate_id".toList, sortKeys (optionalUuid event.aggregateId)),
      ("event_id".toList, .str (uuidText event.eventId)),
      ("event_type".toList, .str event.eventType),
      ("occurred_at".toList, .str (host.datetimeText event.occurredAt)),
      ("payload".toList, sortKeys (.obj event.payload)),
      ("previous_hash".toList, .str event.previousHash),
      ("schema_version".toList, .str event.schemaVersion),
      ("sequence".toList, .int event.sequence.val)] := by
  unfold AuditEventV1.unhashedFields
  rw [sortKeys, sortFields_eq_map]
  simp only [List.map_cons, List.map_nil, List.insertionSort]
  rfl

theorem sortKeys_modelDump (host : Host) (event : AuditEventV1) :
    sortKeys (event.modelDump host) = .obj [
      ("actor".toList, .str event.actor),
      ("aggregate_id".toList, sortKeys (optionalUuid event.aggregateId)),
      ("event_hash".toList, .str event.eventHash),
      ("event_id".toList, .str (uuidText event.eventId)),
      ("event_type".toList, .str event.eventType),
      ("occurred_at".toList, .str (host.datetimeText event.occurredAt)),
      ("payload".toList, sortKeys (.obj event.payload)),
      ("previous_hash".toList, .str event.previousHash),
      ("schema_version".toList, .str event.schemaVersion),
      ("sequence".toList, .int event.sequence.val)] := by
  unfold AuditEventV1.modelDump AuditEventV1.unhashedFields
  rw [sortKeys, sortFields_eq_map]
  simp only [List.cons_append, List.nil_append, List.map_cons, List.map_nil, List.insertionSort]
  rfl

theorem assertFields_append {path : Str} {fields others : List (Str × Json)}
    (hfields : assertFields path fields = .ok ()) (hothers : assertFields path others = .ok ()) :
    assertFields path (fields ++ others) = .ok () := by
  induction fields with
  | nil => exact hothers
  | cons field fields ih =>
    obtain ⟨key, item⟩ := field
    rw [assertFields, bind_eq_ok] at hfields
    obtain ⟨u, hitem, hrest⟩ := hfields
    rw [List.cons_append, assertFields, bind_eq_ok]
    exact ⟨u, hitem, ih hrest⟩

theorem supported_modelDump {host : Host} {event : AuditEventV1} {bytes : Bytes}
    (h : eventPayload host event = .ok bytes) :
    assertSupported ['$'] (event.modelDump host) = .ok () := by
  have hfields := supported_of_canonicalJson h
  rw [assertSupported] at hfields
  rw [AuditEventV1.modelDump, assertSupported]
  exact assertFields_append hfields rfl

section Host

variable {host : Host}

variable {event : AuditEventV1} {bytes : Bytes}

/-- What two events with the same payload bytes have in common. -/
theorem same_of_eventPayload (hpackage : Rfc8785 host) {other : AuditEventV1}
    (h : eventPayload host event = .ok bytes) (h' : eventPayload host other = .ok bytes) :
    event.previousHash = other.previousHash ∧ event.sequence = other.sequence ∧
      (event.eventHash = other.eventHash → serialized host event = serialized host other) := by
  have hsorted := sortKeys_eq_of_canonicalJson hpackage h h'
  rw [sortKeys_unhashedFields, sortKeys_unhashedFields] at hsorted
  simp only [Json.obj.injEq, List.cons.injEq, Prod.mk.injEq, Json.str.injEq, Json.int.injEq,
    true_and, and_true, Nat.cast_inj] at hsorted
  obtain ⟨hactor, haggregate, hid, htype, hat, hpayload, hprevious, hversion, hsequence⟩ := hsorted
  refine ⟨Subtype.ext hprevious, Subtype.ext hsequence, ?_⟩
  intro hhash
  apply canonicalJson_congr hpackage (supported_modelDump h) (supported_modelDump h')
  rw [sortKeys_modelDump, sortKeys_modelDump, hactor, haggregate, hid, htype, hat, hpayload,
    hprevious, hversion, hsequence, hhash]

/-! ## Chains -/

/-- The hash of an event is the hash of its payload. -/
def Hashed (host : Host) (event : AuditEventV1) : Prop :=
  ∃ bytes, eventPayload host event = .ok bytes ∧ event.eventHash.val = hashPayload host bytes

/-- The events are numbered from `first` on and linked by their hashes, from `previous` to
`head`. -/
inductive Chain (host : Host) : Hex32 → Nat → List AuditEventV1 → Hex32 → Prop
  | nil {previous : Hex32} {first : Nat} : Chain host previous first [] previous
  | cons {previous head : Hex32} {first : Nat} {event : AuditEventV1}
      {events : List AuditEventV1} (hsequence : event.sequence.val = first)
      (hprevious : event.previousHash = previous) (hhash : Hashed host event)
      (hrest : Chain host event.eventHash (first + 1) events head) :
      Chain host previous first (event :: events) head

variable {previous head : Hex32} {first : Nat} {events : List AuditEventV1}

theorem chainErrors_eq_nil_iff :
    chainErrors host previous first events = .ok ([], head) ↔
      Chain host previous first events head := by
  induction events generalizing previous first with
  | nil =>
    rw [chainErrors, pure_eq_ok, Prod.mk.injEq]
    constructor
    · rintro ⟨_, rfl⟩
      exact .nil
    · intro h
      cases h
      exact ⟨rfl, rfl⟩
  | cons event events ih =>
    rw [chainErrors, bind_eq_ok]
    constructor
    · rintro ⟨bytes, hbytes, hrest⟩
      rw [bind_eq_ok] at hrest
      obtain ⟨⟨errors, last⟩, herrors, hresult⟩ := hrest
      simp only [pure_eq_ok, Prod.mk.injEq, List.append_eq_nil_iff, noteIf_eq_nil,
        not_not] at hresult
      obtain ⟨⟨⟨⟨hsequence, hprevious⟩, hhash⟩, rfl⟩, rfl⟩ := hresult
      exact .cons hsequence hprevious ⟨bytes, hbytes, hhash⟩ (ih.mp herrors)
    · intro h
      cases h with
      | cons hsequence hprevious hhash hrest =>
        obtain ⟨bytes, hbytes, hhash⟩ := hhash
        refine ⟨bytes, hbytes, ?_⟩
        rw [bind_eq_ok]
        refine ⟨([], head), ih.mpr hrest, ?_⟩
        simp [hsequence, hprevious, hhash]

theorem Chain.snoc (hchain : Chain host previous first events head)
    (hsequence : event.sequence.val = first + events.length)
    (hprevious : event.previousHash = head) (hhash : Hashed host event) :
    Chain host previous first (events ++ [event]) event.eventHash := by
  induction hchain with
  | nil => exact .cons hsequence hprevious hhash .nil
  | cons hfirst hlink hhashed _ ih =>
    refine .cons hfirst hlink hhashed (ih ?_ hprevious)
    rw [List.length_cons] at hsequence
    omega

theorem Chain.head_eq (hchain : Chain host previous first events head) :
    head = match events.getLast? with
      | some event => event.eventHash
      | none => previous := by
  induction hchain with
  | nil => rfl
  | @cons previous head first event events _ _ _ _ ih =>
    rw [ih, List.getLast?_cons]
    cases events.getLast? <;> rfl

theorem Chain.hashed (hchain : Chain host previous first events head) :
    ∀ event ∈ events, Hashed host event := by
  induction hchain with
  | nil => simp
  | cons _ _ hhash _ ih => exact List.forall_mem_cons.mpr ⟨hhash, ih⟩

theorem Chain.sequences (hchain : Chain host previous first events head) :
    events.map (fun event => event.sequence.val) = List.range' first events.length := by
  induction hchain with
  | nil => rfl
  | cons hsequence _ _ _ ih =>
    rw [List.map_cons, ih, hsequence, List.length_cons, List.range'_succ]

/-- SHA-256 does not collide on the payloads of these events. -/
def CollisionFree (host : Host) (events : List AuditEventV1) : Prop :=
  Set.InjOn host.sha256 {bytes | ∃ event ∈ events, eventPayload host event = .ok bytes}

theorem payload_eq (hfree : CollisionFree host events) {other : AuditEventV1}
    (hevent : event ∈ events) (hother : other ∈ events) {bytes' : Bytes}
    (hbytes : eventPayload host event = .ok bytes)
    (hbytes' : eventPayload host other = .ok bytes') (h : host.sha256 bytes = host.sha256 bytes') :
    bytes = bytes' :=
  hfree ⟨event, hevent, hbytes⟩ ⟨other, hother, hbytes'⟩ h

/-- Chains of one length that end in the same hash agree event by event. -/
theorem Chain.same (hpackage : Rfc8785 host) {all : List AuditEventV1}
    (hfree : CollisionFree host all) {previous' : Hex32} {others : List AuditEventV1}
    (hchain : Chain host previous first events head)
    (hchain' : Chain host previous' first others head) (hlength : events.length = others.length)
    (hevents : ∀ event ∈ events, event ∈ all) (hothers : ∀ event ∈ others, event ∈ all) :
    previous = previous' ∧ events.map (serialized host) = others.map (serialized host) := by
  induction hchain generalizing previous' others with
  | nil =>
    cases hchain' with
    | nil => exact ⟨rfl, rfl⟩
    | cons => cases hlength
  | @cons previous head first event events _ hprevious hhash _ ih =>
    cases hchain' with
    | nil => cases hlength
    | @cons _ _ _ other others _ hprevious' hhash' hrest' =>
      rw [List.forall_mem_cons] at hevents hothers
      obtain ⟨hnext, htail⟩ := ih hrest' (Nat.succ.inj hlength) hevents.2 hothers.2
      obtain ⟨bytes, hbytes, hvalue⟩ := hhash
      obtain ⟨bytes', hbytes', hvalue'⟩ := hhash'
      have hdigest : host.sha256 bytes = host.sha256 bytes' := by
        rw [hnext, hvalue'] at hvalue
        simpa [hashPayload, prefixedHex, toHex_injective.eq_iff] using hvalue.symm
      have hsame := payload_eq hfree hevents.1 hothers.1 hbytes hbytes' hdigest
      obtain ⟨hlink, _, hserialized⟩ :=
        same_of_eventPayload hpackage hbytes (hsame ▸ hbytes')
      rw [List.map_cons, List.map_cons, htail, hserialized hnext, ← hprevious, ← hprevious']
      exact ⟨hlink, rfl⟩

/-! ## Verification -/

/-- `verify_journal` reports the history as valid. -/
def Verifies (host : Host) (events : List AuditEventV1) (checkpoint : AuditCheckpointV1) : Prop :=
  ∃ report, verifyJournal host events checkpoint = .ok report ∧ report.valid = true

variable {checkpoint : AuditCheckpointV1}

theorem verifies_iff :
    Verifies host events checkpoint ↔
      events.length = checkpoint.eventCount.val ∧
      (∀ event ∈ events.head?, event.sequence = checkpoint.firstSequence) ∧
      (∀ event ∈ events.getLast?, event.sequence = checkpoint.lastSequence) ∧
      Chain host genesisHash 1 events checkpoint.headHash ∧
      merkleRoot host events = checkpoint.merkleRoot.val := by
  have hany : ∀ (found : Option AuditEventV1) (sequence : PosInt),
      ¬found.any (fun event => event.sequence != sequence) = true ↔
        ∀ event ∈ found, event.sequence = sequence := by
    intro found sequence
    cases found <;> simp
  unfold Verifies verifyJournal
  rw [← chainErrors_eq_nil_iff]
  constructor
  · rintro ⟨report, hreport, hvalid⟩
    rw [bind_eq_ok] at hreport
    obtain ⟨⟨chain, head⟩, hchain, hresult⟩ := hreport
    rw [pure_eq_ok] at hresult
    subst hresult
    simp only [List.isEmpty_iff, List.append_eq_nil_iff, noteIf_eq_nil, not_not, hany] at hvalid
    obtain ⟨⟨⟨⟨⟨hcount, hfirst⟩, hlast⟩, rfl⟩, rfl⟩, hroot⟩ := hvalid
    exact ⟨hcount, hfirst, hlast, hchain, hroot⟩
  · rintro ⟨hcount, hfirst, hlast, hchain, hroot⟩
    rw [hchain]
    refine ⟨_, rfl, ?_⟩
    simp only [List.isEmpty_iff, List.append_eq_nil_iff, noteIf_eq_nil, not_not, hany]
    exact ⟨⟨⟨⟨⟨hcount, hfirst⟩, hlast⟩, trivial⟩, trivial⟩, hroot⟩

theorem valid_eq_isEmpty {report : JournalVerification}
    (h : verifyJournal host events checkpoint = .ok report) :
    report.valid = report.errors.isEmpty := by
  unfold verifyJournal at h
  rw [bind_eq_ok] at h
  obtain ⟨chain, _, hresult⟩ := h
  rw [pure_eq_ok] at hresult
  rw [← hresult]

/-! ## The journal -/

variable {journal after : AuditJournal} {now : Datetime}

theorem append_cases {eventType actor : Str} {payload : List (Str × Json)}
    {aggregateId : Option Uuid} {eventId : Uuid}
    (h : journal.append host eventType actor payload aggregateId eventId now =
      .ok (event, after)) :
    after.events = journal.events ++ [event] ∧
      event.sequence.val = journal.events.length + 1 ∧
      (event.previousHash = match journal.events.getLast? with
        | some last => last.eventHash
        | none => genesisHash) ∧
      Hashed host event := by
  unfold AuditJournal.append at h
  dsimp only at h
  rw [bind_eq_ok] at h
  obtain ⟨eventType, _, h⟩ := h
  rw [bind_eq_ok] at h
  obtain ⟨actor, _, h⟩ := h
  rw [mapError_bind_eq_ok] at h
  obtain ⟨bytes, hbytes, h⟩ := h
  rw [bind_eq_ok] at h
  obtain ⟨eventHash, hhash, h⟩ := h
  rw [pure_eq_ok, Prod.mk.injEq] at h
  obtain ⟨rfl, rfl⟩ := h
  exact ⟨rfl, rfl, rfl, bytes, hbytes, constrain_eq_ok.mp hhash⟩

theorem markAnchored_events (h : journal.markAnchored host checkpoint = .ok after) :
    after.events = journal.events := by
  unfold AuditJournal.markAnchored at h
  rw [raiseIf_bind_eq_ok, orRaise_bind_eq_ok] at h
  obtain ⟨_, last, _, h⟩ := h
  rw [raiseIf_bind_eq_ok, pure_eq_ok] at h
  rw [← h.2]

/-- The events of a journal form a chain from the genesis hash. -/
def Intact (host : Host) (journal : AuditJournal) : Prop :=
  ∃ head, Chain host genesisHash 1 journal.events head

theorem intact_step {call : AuditJournal.Call} (hintact : Intact host journal)
    (hstep : AuditJournal.Step host journal call after) : Intact host after := by
  obtain ⟨head, hchain⟩ := hintact
  unfold AuditJournal.Step at hstep
  cases call with
  | append eventType actor payload aggregateId eventId now =>
    cases hresult : journal.append host eventType actor payload aggregateId eventId now with
    | error error =>
      rw [AuditJournal.perform, hresult] at hstep
      rw [hstep]
      exact ⟨head, hchain⟩
    | ok result =>
      rw [AuditJournal.perform, hresult] at hstep
      obtain ⟨hevents, hsequence, hprevious, hhash⟩ := append_cases hresult
      rw [← hchain.head_eq] at hprevious
      rw [hstep, Intact, hevents]
      exact ⟨_, hchain.snoc (by omega) hprevious hhash⟩
  | markAnchored checkpoint =>
    cases hresult : journal.markAnchored host checkpoint with
    | error error =>
      rw [AuditJournal.perform, hresult] at hstep
      rw [hstep]
      exact ⟨head, hchain⟩
    | ok result =>
      rw [AuditJournal.perform, hresult] at hstep
      rw [hstep, Intact, markAnchored_events hresult]
      exact ⟨head, hchain⟩

theorem intact_run {start : Datetime} {trace : List AuditJournal.Call}
    (hrun : Run (AuditJournal.Step host) (.new start) trace journal) : Intact host journal :=
  hrun.invariant (I := fun _ journal => Intact host journal) ⟨genesisHash, .nil⟩
    fun _ hintact hstep => intact_step hintact hstep

/-! ## The Merkle root -/

theorem node_eq (h : event.eventHash.val = hashPayload host bytes) :
    event.node = host.sha256 bytes := by
  rw [AuditEventV1.node, h, hashPayload, fromHex_drop_prefixedHex, Option.getD_some]

/-- The root is written from the one node of the last level. -/
theorem merkleRoot_eq (host : Host) (hne : events ≠ []) :
    ∃ node, Merkle.Level (combineNodes host) (events.map AuditEventV1.node) [node] ∧
      merkleRoot host events = prefixedHex node := by
  have hnodes : events.map AuditEventV1.node ≠ [] := by simpa using hne
  have hleaves : Merkle.Level (combineNodes host) (events.map AuditEventV1.node)
      (events.map AuditEventV1.node) := .leaves
  have hlevel := Merkle.level_climb _ hleaves (events.map AuditEventV1.node).length
  have hlength := Merkle.length_climb (combineNodes host) hnodes (Nat.le_succ _)
  rw [List.length_eq_one_iff] at hlength
  obtain ⟨node, hnode⟩ := hlength
  rw [hnode] at hlevel
  refine ⟨node, hlevel, ?_⟩
  rw [merkleRoot, hnode]

theorem length_node (hdigest : ∀ bytes, (host.sha256 bytes).length = 32)
    (hhashed : ∀ event ∈ events, Hashed host event) {nodes : List Bytes}
    (hlevel : Merkle.Level (combineNodes host) (events.map AuditEventV1.node) nodes) :
    ∀ node ∈ nodes, node.length = 32 := by
  apply hlevel.forall_mem (p := fun node => node.length = 32)
  · intro leaf hleaf
    obtain ⟨event, hevent, rfl⟩ := List.mem_map.mp hleaf
    obtain ⟨bytes, _, hhash⟩ := hhashed event hevent
    rw [node_eq hhash]
    exact hdigest bytes
  · intro left right
    exact hdigest (left ++ right)

theorem snapshotCheckpoint_eq_ok (hdigest : ∀ bytes, (host.sha256 bytes).length = 32)
    (hne : journal.events ≠ []) (hhashed : ∀ event ∈ journal.events, Hashed host event)
    (checkpointId : Uuid) (now : Datetime) :
    ∃ checkpoint, journal.snapshotCheckpoint host checkpointId now = .ok checkpoint := by
  obtain ⟨node, hlevel, hroot⟩ := merkleRoot_eq host hne
  have hlength := length_node hdigest hhashed hlevel node List.mem_cons_self
  have hmatches : matchesHex isLowerHexDigit 64 (merkleRoot host journal.events) = true := by
    have hhex := matchesHex_prefixedHex node
    rw [hlength] at hhex
    rw [hroot]
    exact hhex
  unfold AuditJournal.snapshotCheckpoint constrain
  rw [dif_neg hne, dif_pos hmatches]
  exact ⟨_, rfl⟩

theorem snapshotCheckpoint_cases {checkpointId : Uuid}
    (h : journal.snapshotCheckpoint host checkpointId now = .ok checkpoint) :
    ∃ hne : journal.events ≠ [],
      checkpoint.eventCount.val = journal.events.length ∧
      checkpoint.firstSequence = 1 ∧
      checkpoint.lastSequence.val = journal.events.length ∧
      checkpoint.merkleRoot.val = merkleRoot host journal.events ∧
      checkpoint.headHash = (journal.events.getLast hne).eventHash := by
  unfold AuditJournal.snapshotCheckpoint at h
  split_ifs at h with hempty
  rw [bind_eq_ok] at h
  obtain ⟨root, hroot, h⟩ := h
  rw [pure_eq_ok] at h
  subst h
  exact ⟨hempty, rfl, rfl, rfl, constrain_eq_ok.mp hroot, rfl⟩

/-- The checkpoint that a journal takes of its own history verifies. -/
theorem verifies_snapshotCheckpoint (hintact : Intact host journal) {checkpointId : Uuid}
    (h : journal.snapshotCheckpoint host checkpointId now = .ok checkpoint) :
    Verifies host journal.events checkpoint := by
  obtain ⟨head, hchain⟩ := hintact
  obtain ⟨hne, hcount, hfirst, hlast, hroot, hhead⟩ := snapshotCheckpoint_cases h
  have hsequences := hchain.sequences
  have hpos := List.length_pos_iff.mpr hne
  have hheadEq : head = checkpoint.headHash := by
    rw [hchain.head_eq, hhead, List.getLast?_eq_some_getLast hne]
  rw [hheadEq] at hchain
  rw [verifies_iff]
  refine ⟨hcount.symm, ?_, ?_, hchain, hroot.symm⟩
  · intro event hevent
    have hmapped := congrArg List.head? hsequences
    rw [List.head?_map, hevent, List.head?_range', if_neg hpos.ne', Option.map_some,
      Option.some.injEq] at hmapped
    rw [hfirst]
    exact Subtype.ext hmapped
  · intro event hevent
    have hmapped := congrArg List.getLast? hsequences
    rw [List.getLast?_map, hevent, List.getLast?_range', if_neg hpos.ne', Option.map_some,
      Option.some.injEq] at hmapped
    apply Subtype.ext
    omega

end Host

/-! ## A sample history -/

open SignedEffect

def sampleEvent (sequence : PosInt) (eventId : Uuid) (eventType : EventType)
    (aggregateId : Option Uuid) (actor : BoundedStr 1 256) (payload : List (Str × Json))
    (previousHash eventHash : Nat) : AuditEventV1 where
  schemaVersion := "aegisledger.audit_event.v1".toList
  sequence := sequence
  eventId := eventId
  eventType := eventType
  aggregateId := aggregateId
  occurredAt := sampleExpiry
  actor := actor
  payload := payload
  previousHash := hex32 previousHash
  eventHash := hex32 eventHash

def firstHash : Nat := 0x55bd24ff1fa72293fec4b7e453d65623813ea8083d3da3edb0fc3f816d85739f

def secondHash : Nat := 0x558a74d799deda077277526d23ff3a19977e518e17c19b07baa3db195d226431

def thirdHash : Nat := 0x35e03ddbabe854eb6ea26f67ba42659a9ec4911a939684c3a57db9ae8990e359

def sampleHistory : List AuditEventV1 := [
  sampleEvent 1 0x01981111111171118000111111111c01
    ⟨"POLICY_VERSION_ACTIVATED".toList, by decide +kernel⟩ none
    ⟨"administrator".toList, by decide⟩ [] 0 firstHash,
  sampleEvent 2 0x01981111111171118000111111111c02
    ⟨"POLICY_DECISION_ISSUED".toList, by decide +kernel⟩ (some sampleProposalId)
    ⟨"agent".toList, by decide⟩
    [("verdict".toList, .str "ALLOW".toList), ("reason_codes".toList, .arr [])]
    firstHash secondHash,
  sampleEvent 3 0x01981111111171118000111111111c03
    ⟨"TRANSACTION_SIGNED".toList, by decide +kernel⟩ (some sampleProposalId)
    ⟨"agent".toList, by decide⟩
    [("wallet_nonce".toList, .int 7), ("chain_id".toList, .int 1)] secondHash thirdHash]

def leftHash : Nat := 0x2a215f7c97a429b0e369d66f0b7700518d772f6538edfadc2c0f8064ae0d9d43

def rightHash : Nat := 0x735a338e93b8a27b49270758d097ff1e42700914319b429797265887ced552de

def rootHash : Nat := 0xd73ddee89469f55bd7ab3407c45399dc450168df7d6f793f78ef3c7be0fb0f38

/-- The strings hashed for the sample history, with their real digests. -/
def sampleDigests : List (Bytes × Nat) :=
  (sampleHistory.map fun event => canonicalText (.obj (event.unhashedFields textHost))).zip
      [firstHash, secondHash, thirdHash] ++
    [(bytesLiteral 32 firstHash ++ bytesLiteral 32 secondHash, leftHash),
      (bytesLiteral 32 thirdHash ++ bytesLiteral 32 thirdHash, rightHash),
      (bytesLiteral 32 leftHash ++ bytesLiteral 32 rightHash, rootHash)]

def journalHost : Host := { textHost with
  sha256 := fun data =>
    match sampleDigests.find? (fun entry => entry.1 = data) with
    | some entry => bytesLiteral 32 entry.2
    | none => bytesLiteral 32 0 }

theorem rfc8785_journalHost : Rfc8785 journalHost := rfc8785_utf8_dumps rfl

theorem length_sha256_journalHost (bytes : Bytes) : (journalHost.sha256 bytes).length = 32 := by
  have hlength : ∀ n, (bytesLiteral 32 n).length = 32 := by
    intro n
    simp [bytesLiteral]
  unfold journalHost
  dsimp only
  split
  · exact hlength _
  · exact hlength 0

def sampleCalls : List AuditJournal.Call := sampleHistory.map fun event =>
  .append event.eventType event.actor event.payload event.aggregateId event.eventId
    event.occurredAt

def sampleJournal : AuditJournal :=
  sampleCalls.foldl (AuditJournal.perform journalHost) (.new sampleNow)

/-! ## Exact verification -/

section Exact

variable {host : Host}

/-- The checkpoint of a journal verifies its history, and no other one. -/
theorem verifyJournal_exact (hpackage : Rfc8785 host)
    (hdigest : ∀ bytes, (host.sha256 bytes).length = 32) {start : Datetime}
    {trace : List AuditJournal.Call} {journal : AuditJournal}
    (hrun : Run (AuditJournal.Step host) (.new start) trace journal)
    (hne : journal.events ≠ []) (checkpointId : Uuid) (now : Datetime) :
    ∃ checkpoint, journal.snapshotCheckpoint host checkpointId now = .ok checkpoint ∧
      Verifies host journal.events checkpoint ∧
      ∀ events, CollisionFree host (journal.events ++ events) →
        Verifies host events checkpoint →
          events.map (serialized host) = journal.events.map (serialized host) := by
  obtain ⟨head, hchain⟩ := intact_run hrun
  obtain ⟨checkpoint, hcheckpoint⟩ :=
    snapshotCheckpoint_eq_ok hdigest hne hchain.hashed checkpointId now
  have hown := verifies_snapshotCheckpoint (intact_run hrun) hcheckpoint
  refine ⟨checkpoint, hcheckpoint, hown, ?_⟩
  intro events hfree hverifies
  obtain ⟨hcount, _, _, hself, _⟩ := verifies_iff.mp hown
  obtain ⟨hlength, _, _, hother, _⟩ := verifies_iff.mp hverifies
  have hsame := hother.same hpackage hfree hself (hlength.trans hcount.symm)
    (fun event hevent => List.mem_append_right _ hevent)
    (fun event hevent => List.mem_append_left _ hevent)
  exact hsame.2

/-- The journal of the three sample calls, and its checkpoint. -/
theorem sampleJournal_verifiesExactly :
    sampleJournal.events.length = 3 ∧
      ∃ checkpoint, sampleJournal.snapshotCheckpoint journalHost sampleProposalId sampleNow =
          .ok checkpoint ∧
        Verifies journalHost sampleJournal.events checkpoint ∧
        ∀ events, CollisionFree journalHost (sampleJournal.events ++ events) →
          Verifies journalHost events checkpoint →
            events.map (serialized journalHost) =
              sampleJournal.events.map (serialized journalHost) := by
  have hlength : sampleJournal.events.length = 3 := by decide +kernel
  have hrun : Run (AuditJournal.Step journalHost) (.new sampleNow) sampleCalls sampleJournal :=
    Run.foldl (AuditJournal.step_perform journalHost) _ _
  have hne : sampleJournal.events ≠ [] := by
    rw [← List.length_pos_iff, hlength]
    decide
  exact ⟨hlength, verifyJournal_exact rfc8785_journalHost length_sha256_journalHost hrun hne
    sampleProposalId sampleNow⟩

/-! ## The external anchor -/

/-- `verify_anchored_journal` reports the history as valid. -/
def VerifiesAnchored (host : Host) (events : List AuditEventV1) (checkpoint : AuditCheckpointV1)
    (receipt : AnchorReceiptV1) : Prop :=
  ∃ report, verifyAnchoredJournal host events checkpoint receipt = .ok report ∧
    report.valid = true

variable {events : List AuditEventV1}

theorem verifiesAnchored_iff {checkpoint : AuditCheckpointV1} {receipt : AnchorReceiptV1} :
    VerifiesAnchored host events checkpoint receipt ↔
      Verifies host events checkpoint ∧ receipt.checkpointId = checkpoint.checkpointId ∧
        receipt.merkleRoot = checkpoint.merkleRoot := by
  unfold VerifiesAnchored verifyAnchoredJournal
  constructor
  · rintro ⟨report, hreport, hvalid⟩
    rw [bind_eq_ok] at hreport
    obtain ⟨journal, hjournal, hresult⟩ := hreport
    rw [pure_eq_ok] at hresult
    subst hresult
    simp only [List.isEmpty_iff, List.append_eq_nil_iff, noteIf_eq_nil, not_not] at hvalid
    refine ⟨⟨journal, hjournal, ?_⟩, hvalid.1.2, hvalid.2⟩
    rw [valid_eq_isEmpty hjournal, hvalid.1.1]
    rfl
  · rintro ⟨⟨journal, hjournal, hvalid⟩, hid, hroot⟩
    rw [valid_eq_isEmpty hjournal, List.isEmpty_iff] at hvalid
    rw [hjournal]
    refine ⟨_, rfl, ?_⟩
    simp only [hvalid, List.isEmpty_iff, List.append_eq_nil_iff, noteIf_eq_nil, not_not]
    exact ⟨⟨trivial, hid⟩, hroot⟩

/-- The strings that are hashed when a history is verified: the payloads of its events and
the pairs of nodes of its tree. -/
def hashedStrings (host : Host) (events : List AuditEventV1) : Set Bytes :=
  {bytes | (∃ event ∈ events, eventPayload host event = .ok bytes) ∨
    ∃ pair, Merkle.Combined (combineNodes host) (events.map AuditEventV1.node) pair ∧
      bytes = pair.1 ++ pair.2}

theorem length_of_combined (hdigest : ∀ bytes, (host.sha256 bytes).length = 32)
    (hhashed : ∀ event ∈ events, Hashed host event) {pair : Bytes × Bytes}
    (h : Merkle.Combined (combineNodes host) (events.map AuditEventV1.node) pair) :
    pair.1.length = 32 ∧ pair.2.length = 32 := by
  obtain ⟨nodes, hlevel, _, hpair⟩ := h
  obtain ⟨hleft, hright⟩ := Merkle.mem_of_mem_neighbours hpair
  have hnodes := length_node hdigest hhashed hlevel
  exact ⟨hnodes pair.1 hleft, hnodes pair.2 hright⟩

/-- No event is a combined node: their hashed strings differ in length. -/
theorem node_ne_combineNodes (hdigest : ∀ bytes, (host.sha256 bytes).length = 32)
    {strings : Set Bytes} (hfree : Set.InjOn host.sha256 strings) {others : List AuditEventV1}
    (hevents : hashedStrings host events ⊆ strings)
    (hothers : hashedStrings host others ⊆ strings)
    (hhashed : ∀ event ∈ events, Hashed host event)
    (hhashed' : ∀ event ∈ others, Hashed host event)
    (hsize : ∀ event ∈ events, ∀ bytes, eventPayload host event = .ok bytes → bytes.length ≠ 64) :
    ∀ leaf ∈ events.map AuditEventV1.node, ∀ pair,
      Merkle.Combined (combineNodes host) (others.map AuditEventV1.node) pair →
        leaf ≠ combineNodes host pair.1 pair.2 := by
  intro leaf hleaf pair hpair heq
  obtain ⟨event, hevent, rfl⟩ := List.mem_map.mp hleaf
  obtain ⟨bytes, hbytes, hhash⟩ := hhashed event hevent
  obtain ⟨hleft, hright⟩ := length_of_combined hdigest hhashed' hpair
  rw [node_eq hhash] at heq
  have hstring : bytes = pair.1 ++ pair.2 :=
    hfree (hevents (Or.inl ⟨event, hevent, hbytes⟩)) (hothers (Or.inr ⟨pair, hpair, rfl⟩)) heq
  apply hsize event hevent bytes hbytes
  rw [hstring, List.length_append, hleft, hright]

theorem combineNodes_injOn (hdigest : ∀ bytes, (host.sha256 bytes).length = 32)
    {others : List AuditEventV1}
    (hfree : Set.InjOn host.sha256 (hashedStrings host events ∪ hashedStrings host others))
    (hhashed : ∀ event ∈ events, Hashed host event)
    (hhashed' : ∀ event ∈ others, Hashed host event) :
    Set.InjOn (fun pair => combineNodes host pair.1 pair.2)
      {pair | Merkle.Combined (combineNodes host) (events.map AuditEventV1.node) pair ∨
        Merkle.Combined (combineNodes host) (others.map AuditEventV1.node) pair} := by
  have hpairs : ∀ pair, Merkle.Combined (combineNodes host)
        (events.map AuditEventV1.node) pair ∨
      Merkle.Combined (combineNodes host) (others.map AuditEventV1.node) pair →
        pair.1.length = 32 ∧ pair.1 ++ pair.2 ∈
          hashedStrings host events ∪ hashedStrings host others := by
    rintro pair (hpair | hpair)
    · exact ⟨(length_of_combined hdigest hhashed hpair).1, Or.inl (Or.inr ⟨pair, hpair, rfl⟩)⟩
    · exact ⟨(length_of_combined hdigest hhashed' hpair).1, Or.inr (Or.inr ⟨pair, hpair, rfl⟩)⟩
  intro pair hpair pair' hpair' heq
  obtain ⟨hlength, hstring⟩ := hpairs pair hpair
  obtain ⟨hlength', hstring'⟩ := hpairs pair' hpair'
  obtain ⟨hleft, hright⟩ := List.append_inj (hfree hstring hstring' heq)
    (hlength.trans hlength'.symm)
  exact Prod.ext hleft hright

/-- The sequence numbers keep the leaves of a verified history apart. -/
theorem nodup_nodes (hpackage : Rfc8785 host) (hfree : CollisionFree host events)
    {previous head : Hex32} {first : Nat} (hchain : Chain host previous first events head) :
    (events.map AuditEventV1.node).Nodup := by
  have hsequences : (events.map fun event => event.sequence.val).Nodup := by
    rw [hchain.sequences]
    exact List.nodup_range'
  apply (List.Nodup.of_map _ hsequences).map_on
  intro event hevent other hother hnode
  obtain ⟨bytes, hbytes, hhash⟩ := hchain.hashed event hevent
  obtain ⟨bytes', hbytes', hhash'⟩ := hchain.hashed other hother
  rw [node_eq hhash, node_eq hhash'] at hnode
  have hsame := payload_eq hfree hevent hother hbytes hbytes' hnode
  have hsequence := (same_of_eventPayload hpackage hbytes (hsame ▸ hbytes')).2.1
  exact List.inj_on_of_nodup_map hsequences hevent hother (congrArg Subtype.val hsequence)

/-- Two histories that verify against anchors with the same root are the same. -/
theorem anchor_bindsHistory (hpackage : Rfc8785 host)
    (hdigest : ∀ bytes, (host.sha256 bytes).length = 32)
    {events others : List AuditEventV1} {checkpoint checkpoint' : AuditCheckpointV1}
    {receipt receipt' : AnchorReceiptV1}
    (hfree : Set.InjOn host.sha256 (hashedStrings host events ∪ hashedStrings host others))
    (hsize : ∀ event ∈ events ++ others, ∀ bytes,
      eventPayload host event = .ok bytes → bytes.length ≠ 64)
    (hverifies : VerifiesAnchored host events checkpoint receipt)
    (hverifies' : VerifiesAnchored host others checkpoint' receipt')
    (hroots : receipt.merkleRoot = receipt'.merkleRoot) :
    events.map (serialized host) = others.map (serialized host) := by
  obtain ⟨hjournal, -, hanchor⟩ := verifiesAnchored_iff.mp hverifies
  obtain ⟨hjournal', -, hanchor'⟩ := verifiesAnchored_iff.mp hverifies'
  obtain ⟨hcount, _, _, hchain, hroot⟩ := verifies_iff.mp hjournal
  obtain ⟨hcount', _, _, hchain', hroot'⟩ := verifies_iff.mp hjournal'
  have hne : events ≠ [] := List.length_pos_iff.mp (hcount ▸ checkpoint.eventCount.property)
  have hne' : others ≠ [] := List.length_pos_iff.mp (hcount' ▸ checkpoint'.eventCount.property)
  obtain ⟨node, hlevel, hnode⟩ := merkleRoot_eq host hne
  obtain ⟨node', hlevel', hnode'⟩ := merkleRoot_eq host hne'
  have hmeet : node = node' := by
    rw [hanchor, hanchor'] at hroots
    rw [hroots, ← hroot', hnode, hnode'] at hroot
    simpa [prefixedHex, toHex_injective.eq_iff] using hroot
  have hpayloads : CollisionFree host (events ++ others) := by
    apply hfree.mono
    rintro bytes ⟨event, hevent, hbytes⟩
    rcases List.mem_append.mp hevent with hevent | hevent
    · exact Or.inl (Or.inl ⟨event, hevent, hbytes⟩)
    · exact Or.inr (Or.inl ⟨event, hevent, hbytes⟩)
  have hnodes : events.map AuditEventV1.node = others.map AuditEventV1.node := by
    apply Merkle.eq_of_meet (nodup_nodes hpackage (hpayloads.mono ?_) hchain)
      (nodup_nodes hpackage (hpayloads.mono ?_) hchain') (by simpa using hne) (by simpa using hne')
      (combineNodes_injOn hdigest hfree hchain.hashed hchain'.hashed) ?_ ?_ hlevel
      (hmeet ▸ hlevel')
    · rintro bytes ⟨event, hevent, hbytes⟩
      exact ⟨event, List.mem_append_left _ hevent, hbytes⟩
    · rintro bytes ⟨event, hevent, hbytes⟩
      exact ⟨event, List.mem_append_right _ hevent, hbytes⟩
    · exact node_ne_combineNodes hdigest hfree Set.subset_union_left Set.subset_union_right
        hchain.hashed hchain'.hashed
        fun event hevent => hsize event (List.mem_append_left _ hevent)
    · exact node_ne_combineNodes hdigest hfree Set.subset_union_right Set.subset_union_left
        hchain'.hashed hchain.hashed
        fun event hevent => hsize event (List.mem_append_right _ hevent)
  apply Merkle.map_eq_map_of hnodes
  intro event hevent other hother hsame
  obtain ⟨bytes, hbytes, hhash⟩ := hchain.hashed event hevent
  obtain ⟨bytes', hbytes', hhash'⟩ := hchain'.hashed other hother
  rw [node_eq hhash, node_eq hhash'] at hsame
  have hpayload := payload_eq hpayloads (List.mem_append_left _ hevent)
    (List.mem_append_right _ hother) hbytes hbytes' hsame
  apply (same_of_eventPayload hpackage hbytes (hpayload ▸ hbytes')).2.2
  apply Subtype.ext
  rw [hhash, hhash', hpayload]

end Exact

/-- The sample history with the members of each payload in another order. -/
def reorderedHistory : List AuditEventV1 :=
  sampleHistory.map fun event => { event with payload := event.payload.reverse }

def sampleCheckpoint (checkpointId : Uuid) : AuditCheckpointV1 where
  checkpointId := checkpointId
  firstSequence := 1
  lastSequence := 3
  eventCount := 3
  merkleRoot := hex32 rootHash
  headHash := hex32 thirdHash
  createdAt := sampleNow

def sampleReceipt (checkpointId : Uuid) : AnchorReceiptV1 where
  checkpointId := checkpointId
  chainId := 1
  contract := lowerAddress 0xa11ce
  transactionHash := hex32 0
  blockNumber := 20
  merkleRoot := hex32 rootHash
  anchoredAt := sampleNow

/-- The levels of the tree over the sample history. -/
def sampleLevels : List (List Bytes) := [
  [bytesLiteral 32 firstHash, bytesLiteral 32 secondHash, bytesLiteral 32 thirdHash],
  [bytesLiteral 32 leftHash, bytesLiteral 32 rightHash],
  [bytesLiteral 32 rootHash]]

/-- The payloads of a history are strings of the sample, none as long as two digests. -/
def hasSamplePayloads (events : List AuditEventV1) : Bool :=
  events.all fun event => (eventPayload journalHost event).toOption.all fun bytes =>
    decide (bytes ∈ sampleDigests.map Prod.fst) && bytes.length != 64

theorem hasSamplePayloads_mem {events : List AuditEventV1}
    (h : hasSamplePayloads events = true) {event : AuditEventV1} (hevent : event ∈ events)
    {bytes : Bytes} (hbytes : eventPayload journalHost event = .ok bytes) :
    bytes ∈ sampleDigests.map Prod.fst ∧ bytes.length ≠ 64 := by
  have hall := List.all_eq_true.mp h event hevent
  rw [hbytes] at hall
  simpa [Except.toOption] using hall

theorem hashedStrings_subset {events : List AuditEventV1}
    (hpayloads : hasSamplePayloads events = true)
    (hnodes : events.map AuditEventV1.node ∈ sampleLevels) :
    hashedStrings journalHost events ⊆ {bytes | bytes ∈ sampleDigests.map Prod.fst} := by
  have hclosed : ∀ nodes ∈ sampleLevels, 1 < nodes.length →
      Merkle.nextLevel (combineNodes journalHost) nodes ∈ sampleLevels := by decide +kernel
  have hpairs : ∀ nodes ∈ sampleLevels, 1 < nodes.length → ∀ pair ∈ Merkle.neighbours nodes,
      pair.1 ++ pair.2 ∈ sampleDigests.map Prod.fst := by decide +kernel
  rintro bytes (⟨event, hevent, hbytes⟩ | ⟨pair, ⟨nodes, hlevel, hmany, hpair⟩, rfl⟩)
  · exact (hasSamplePayloads_mem hpayloads hevent hbytes).1
  · exact hpairs nodes (hlevel.mem_of_closed _ hnodes hclosed) hmany pair hpair

/-- The two histories verify against different checkpoints with the same root. -/
theorem reorderedHistory_sameAnchor :
    VerifiesAnchored journalHost sampleHistory (sampleCheckpoint 1) (sampleReceipt 1) ∧
      VerifiesAnchored journalHost reorderedHistory (sampleCheckpoint 2) (sampleReceipt 2) ∧
      sampleHistory.map (serialized journalHost) =
        reorderedHistory.map (serialized journalHost) := by
  have hsample : hasSamplePayloads sampleHistory = true := by decide +kernel
  have hreordered : hasSamplePayloads reorderedHistory = true := by decide +kernel
  have hverifies : VerifiesAnchored journalHost sampleHistory (sampleCheckpoint 1)
      (sampleReceipt 1) := ⟨⟨true, 3, []⟩, by decide +kernel, rfl⟩
  have hverifies' : VerifiesAnchored journalHost reorderedHistory (sampleCheckpoint 2)
      (sampleReceipt 2) := ⟨⟨true, 3, []⟩, by decide +kernel, rfl⟩
  have hdigests : ∀ bytes ∈ sampleDigests.map Prod.fst, ∀ other ∈ sampleDigests.map Prod.fst,
      journalHost.sha256 bytes = journalHost.sha256 other → bytes = other := by decide +kernel
  refine ⟨hverifies, hverifies', anchor_bindsHistory rfc8785_journalHost
    length_sha256_journalHost ?_ ?_ hverifies hverifies' rfl⟩
  · have hstrings : Set.InjOn journalHost.sha256
        {bytes | bytes ∈ sampleDigests.map Prod.fst} :=
      fun bytes hbytes other hother => hdigests bytes hbytes other hother
    exact hstrings.mono (Set.union_subset (hashedStrings_subset hsample (by decide +kernel))
      (hashedStrings_subset hreordered (by decide +kernel)))
  · intro event hevent bytes hbytes
    rcases List.mem_append.mp hevent with hevent | hevent
    · exact (hasSamplePayloads_mem hsample hevent hbytes).2
    · exact (hasSamplePayloads_mem hreordered hevent hbytes).2

end AegisLedger.Gateway.JournalIntegrity
