import AegisLedger.Gateway.Anchoring
import AegisLedger.Gateway.Proofs.JournalIntegrity
import AegisLedger.Gateway.Proofs.SignerAgreement

/-!
# Consistency of anchoring

The journal only grows and the store never replaces an object, so what a call has seen of
either holds for good.  A checkpoint therefore stays a checkpoint of the first events of the
journal while other calls append and anchor, and the call that took it finds these events
when it reads the journal again and when it marks the checkpoint.  Marking is the last
command of a call, so a call that raises has not moved the anchor count.
-/

namespace AegisLedger.Gateway.AnchorConsistency

open AegisLedger.Support HexText Checks Threads Dict
open CanonicalText JournalIntegrity SignerAgreement

variable {host : Host}

/-! ## Checkpoints of the first events -/

section Journal

variable {journal later : AuditJournal} {checkpoint : AuditCheckpointV1}

/-- The checkpoint verifies against the first events of the journal. -/
def Covers (host : Host) (journal : AuditJournal) (checkpoint : AuditCheckpointV1) : Prop :=
  Verifies host (journal.events.take checkpoint.eventCount.val) checkpoint

theorem Covers.count_le (h : Covers host journal checkpoint) :
    checkpoint.eventCount.val ≤ journal.events.length := by
  have hlength := (verifies_iff.mp h).1
  rw [List.length_take] at hlength
  omega

theorem Covers.take_eq (h : Covers host journal checkpoint)
    (hevents : journal.events <+: later.events) :
    later.events.take checkpoint.eventCount.val =
      journal.events.take checkpoint.eventCount.val := by
  obtain ⟨appended, hlater⟩ := hevents
  rw [← hlater, List.take_append_of_le_length h.count_le]

theorem Covers.mono (h : Covers host journal checkpoint)
    (hevents : journal.events <+: later.events) : Covers host later checkpoint := by
  rw [Covers, h.take_eq hevents]
  exact h

theorem covers_of_snapshotCheckpoint (hintact : Intact host journal) {checkpointId : Uuid}
    {now : Datetime} (h : journal.snapshotCheckpoint host checkpointId now = .ok checkpoint) :
    Covers host journal checkpoint := by
  have hverifies := verifies_snapshotCheckpoint hintact h
  have hlength := (verifies_iff.mp hverifies).1
  rw [Covers, ← hlength, List.take_length]
  exact hverifies

/-- The journal with a checkpoint marked. -/
def marked (journal : AuditJournal) (checkpoint : AuditCheckpointV1) : AuditJournal :=
  { journal with
    lastAnchorCount := max journal.lastAnchorCount checkpoint.eventCount.val
    lastAnchorAt := checkpoint.createdAt }

theorem markAnchored_cases (h : journal.markAnchored host checkpoint = .ok later) :
    checkpoint.eventCount.val ≤ journal.events.length ∧ later = marked journal checkpoint := by
  rw [AuditJournal.markAnchored] at h
  simp only [raiseIf_bind_eq_ok, orRaise_bind_eq_ok, pure_eq_ok] at h
  obtain ⟨hcount, last, -, -, rfl⟩ := h
  exact ⟨by omega, rfl⟩

theorem markAnchored_of_covers (h : Covers host journal checkpoint) :
    journal.markAnchored host checkpoint = .ok (marked journal checkpoint) := by
  obtain ⟨hlength, -, hlast, hchain, hroot⟩ := verifies_iff.mp h
  have hcount := h.count_le
  have hpositive := checkpoint.eventCount.property
  have hne : journal.events.take checkpoint.eventCount.val ≠ [] := by
    rw [← List.length_pos_iff, hlength]
    exact hpositive
  have hfound := List.getLast?_eq_some_getLast hne
  have hhead := hchain.head_eq
  rw [hfound] at hlast hhead
  rw [AuditJournal.markAnchored]
  simp only [raiseIf_bind_eq_ok, orRaise_bind_eq_ok, pure_eq_ok]
  refine ⟨by omega, _, hfound, ?_, rfl⟩
  rintro (hsequence | hhash | hother)
  · exact hsequence (hlast _ rfl).symm
  · exact hhash hhead
  · exact hother hroot.symm

end Journal

/-! ## What a command does -/

structure Sound (host : Host) (state : AnchoringState) : Prop where
  intact : Intact host state.journal
  count : state.journal.lastAnchorCount ≤ state.journal.events.length

/-- Events are only appended, retained objects stay, and the anchor count does not fall. -/
structure Kept (before after : AnchoringState) : Prop where
  events : before.journal.events <+: after.journal.events
  objects : ∀ key object, before.store.objects.get? key = some object →
    after.store.objects.get? key = some object
  count : before.journal.lastAnchorCount ≤ after.journal.lastAnchorCount

theorem Kept.refl (state : AnchoringState) : Kept state state :=
  ⟨List.prefix_rfl, fun _ _ h => h, le_rfl⟩

theorem Kept.trans {first second third : AnchoringState} (h : Kept first second)
    (h' : Kept second third) : Kept first third where
  events := h.events.trans h'.events
  objects := fun key object hobject => h'.objects key object (h.objects key object hobject)
  count := h.count.trans h'.count

section Commands

variable {state : AnchoringState} {outcome : AnchoringOutcome}

theorem putOnce_cases {store after : MemoryRetentionStore} {key : Str} {payload : Bytes}
    {retainUntil : ClockReading}
    (h : store.putOnce host key payload retainUntil = .ok after) :
    store.objects.get? key = none ∧
      ∃ object : RetainedObject, object.payload = payload ∧
        after.objects = store.objects.set key object := by
  rw [MemoryRetentionStore.putOnce, bind_eq_ok] at h
  obtain ⟨time, -, h⟩ := h
  rw [raiseIf_bind_eq_ok, pure_eq_ok] at h
  obtain ⟨hnew, rfl⟩ := h
  refine ⟨?_, _, rfl, rfl⟩
  rw [Option.not_isSome_iff_eq_none] at hnew
  exact hnew

theorem intact_append {journal after : AuditJournal} {eventType actor : Str}
    {payload : List (Str × Json)} {aggregateId : Option Uuid} {eventId : Uuid} {now : Datetime}
    {event : AuditEventV1} (hintact : Intact host journal)
    (h : journal.append host eventType actor payload aggregateId eventId now =
      .ok (event, after)) : Intact host after := by
  have hstep : AuditJournal.Step host journal
      (.append eventType actor payload aggregateId eventId now) after := by
    rw [AuditJournal.Step, AuditJournal.perform, h]
  exact intact_step hintact hstep

theorem lastAnchorCount_append {journal after : AuditJournal} {eventType actor : Str}
    {payload : List (Str × Json)} {aggregateId : Option Uuid} {eventId : Uuid} {now : Datetime}
    {event : AuditEventV1}
    (h : journal.append host eventType actor payload aggregateId eventId now =
      .ok (event, after)) : after.lastAnchorCount = journal.lastAnchorCount := by
  unfold AuditJournal.append at h
  dsimp only at h
  simp only [bind_eq_ok, pure_eq_ok, Prod.mk.injEq] at h
  obtain ⟨_, _, _, _, _, _, _, _, _, rfl⟩ := h
  rfl

variable (outcome) in
/-- Every command leaves the state sound and keeps what there was. -/
theorem perform_kept (hsound : Sound host state) (command : AnchoringCommand) :
    Sound host (state.perform host outcome command).2 ∧
      Kept state (state.perform host outcome command).2 := by
  have hsame : Sound host state ∧ Kept state state := ⟨hsound, .refl state⟩
  cases command with
  | snapshotCheckpoint => exact hsame
  | now => exact hsame
  | events => exact hsame
  | anchor checkpoint => exact hsame
  | append eventType actor payload aggregateId =>
    cases hresult : state.journal.append host eventType actor payload aggregateId outcome.uuid
        outcome.now with
    | error error =>
      rw [AnchoringState.perform, hresult]
      exact hsame
    | ok result =>
      obtain ⟨event, journal⟩ := result
      rw [AnchoringState.perform, hresult]
      have hevents := (append_cases hresult).1
      have hcount := lastAnchorCount_append hresult
      have hprefix : state.journal.events <+: journal.events := ⟨[event], hevents.symm⟩
      refine ⟨⟨intact_append hsound.intact hresult, ?_⟩, hprefix, fun _ _ h => h, hcount.ge⟩
      exact (hcount.le.trans hsound.count).trans hprefix.length_le
  | putOnce key payload retainUntil =>
    cases hresult : state.store.putOnce host key payload retainUntil with
    | error error =>
      rw [AnchoringState.perform, hresult]
      exact hsame
    | ok store =>
      rw [AnchoringState.perform, hresult]
      obtain ⟨hnew, object, -, hobjects⟩ := putOnce_cases hresult
      refine ⟨⟨hsound.intact, hsound.count⟩, List.prefix_rfl, ?_, le_rfl⟩
      intro other found hfound
      have hne : other ≠ key := by
        rintro rfl
        rw [hnew] at hfound
        cases hfound
      change store.objects.get? other = some found
      rw [hobjects, get?_set_ne _ hne]
      exact hfound
  | markAnchored checkpoint =>
    cases hresult : state.journal.markAnchored host checkpoint with
    | error error =>
      rw [AnchoringState.perform, hresult]
      exact hsame
    | ok journal =>
      rw [AnchoringState.perform, hresult]
      obtain ⟨hcount, rfl⟩ := markAnchored_cases hresult
      exact ⟨⟨hsound.intact, max_le hsound.count hcount⟩, List.prefix_rfl, fun _ _ h => h,
        le_max_left _ _⟩

/-- Only a mark moves the anchor count. -/
theorem lastAnchorCount_perform {command : AnchoringCommand}
    (h : ∀ checkpoint, command ≠ .markAnchored checkpoint) :
    (state.perform host outcome command).2.journal.lastAnchorCount =
      state.journal.lastAnchorCount := by
  cases command with
  | snapshotCheckpoint => rfl
  | now => rfl
  | events => rfl
  | anchor checkpoint => rfl
  | markAnchored checkpoint => exact absurd rfl (h checkpoint)
  | append eventType actor payload aggregateId =>
    rw [AnchoringState.perform]
    split
    · rename_i hresult
      exact lastAnchorCount_append hresult
    · rfl
  | putOnce key payload retainUntil =>
    rw [AnchoringState.perform]
    split
    · rfl
    · rfl

end Commands

/-! ## Retained objects -/

/-- The store retains the serialized value under the key. -/
def Holds (host : Host) (store : MemoryRetentionStore) (key : Str) (value : Json) : Prop :=
  ∃ payload, canonicalJson host value = .ok payload ∧ store.read key = .ok payload

theorem read_eq_ok {store : MemoryRetentionStore} {key : Str} {payload : Bytes} :
    store.read key = .ok payload ↔
      ∃ object, store.objects.get? key = some object ∧ object.payload = payload := by
  rw [MemoryRetentionStore.read, orRaise_bind_eq_ok]
  simp only [pure_eq_ok]

theorem Holds.mono {before after : AnchoringState} {key : Str} {value : Json}
    (h : Holds host before.store key value) (hkept : Kept before after) :
    Holds host after.store key value := by
  obtain ⟨payload, hpayload, hread⟩ := h
  obtain ⟨object, hobject, hsame⟩ := read_eq_ok.mp hread
  exact ⟨payload, hpayload, read_eq_ok.mpr ⟨object, hkept.objects key object hobject, hsame⟩⟩

/-- What is retained for a checkpoint that `anchor` returns. -/
structure Retained (host : Host) (state : AnchoringState) (anchored : AnchoredCheckpoint) :
    Prop where
  covers : Covers host state.journal anchored.checkpoint
  receiptId : anchored.receipt.checkpointId = anchored.checkpoint.checkpointId
  receiptRoot : anchored.receipt.merkleRoot = anchored.checkpoint.merkleRoot
  history : Holds host state.store anchored.historyKey
    (historyDump host (state.journal.events.take anchored.checkpoint.eventCount.val))
  checkpoint : Holds host state.store anchored.checkpointKey (anchored.checkpoint.modelDump host)
  receipt : Holds host state.store anchored.receiptKey (anchored.receipt.modelDump host)

/-! ## A call of the service -/

/-- A mark does not raise, and the call returns right after it. -/
def MarksLast (host : Host) (state : AnchoringState) : (command : AnchoringCommand) →
    (command.Answer → AnchoringProgram AnchoringResult) → Prop
  | .markAnchored checkpoint, next =>
    (∃ after, state.journal.markAnchored host checkpoint = .ok after) ∧
      ∀ answer, (next answer).ended = true ∧ (next answer).result?.isSome = true
  | _, _ => True

def protocol (host : Host) : Protocol AnchoringState AnchoringResult where
  invariant := Sound host
  keeps := Kept
  post := fun state result => ∀ anchored, result = .anchored anchored →
    Retained host state anchored
  keeps_refl := Kept.refl
  keeps_trans := Kept.trans

abbrev Upheld (host : Host) (program : AnchoringProgram AnchoringResult)
    (state : AnchoringState) : Prop :=
  Upholds (AnchoringState.perform host) (fun _ _ => True) (MarksLast host) (protocol host)
    program state

section Call

variable {state : AnchoringState}

/-- A command that is not a mark needs nothing. -/
theorem upheld_call {command : AnchoringCommand}
    {rest : command.Answer → AnchoringProgram AnchoringResult}
    (hother : ∀ checkpoint, command ≠ .markAnchored checkpoint)
    (hrest : ∀ t outcome answer, Kept state t → Sound host t →
      (t.perform host outcome command).1 = .ok answer →
        Upheld host (rest answer) (t.perform host outcome command).2) :
    Upheld host (Prog.call command >>= rest) state := by
  apply upholds_call
  intro t hkept hsound _
  refine ⟨?_, ?_⟩
  · cases command with
    | markAnchored checkpoint => exact absurd rfl (hother checkpoint)
    | append _ _ _ _ => trivial
    | snapshotCheckpoint => trivial
    | now => trivial
    | events => trivial
    | putOnce _ _ _ => trivial
    | anchor _ => trivial
  · intro outcome
    obtain ⟨hafter, hlater⟩ := perform_kept outcome hsound command
    exact ⟨hafter, hlater, fun answer hanswer => hrest t outcome answer hkept hsound hanswer⟩

/-- What is retained is held from then on. -/
theorem upheld_retain {key : Str} {value : Json} {retainUntil : ClockReading}
    {rest : Unit → AnchoringProgram AnchoringResult}
    (hrest : ∀ after, Kept state after → Holds host after.store key value →
      Upheld host (rest ()) after) :
    Upheld host (AnchoringService.retain host key value retainUntil >>= rest) state := by
  rw [AnchoringService.retain, Prog.bind_assoc]
  apply upholds_ofExcept
  intro payload hpayload
  rw [mapError_eq_ok] at hpayload
  apply upheld_call
  · rintro _ ⟨⟩
  intro t outcome answer hkept hsound hanswer
  have hlater := (perform_kept outcome hsound
    (.putOnce key payload retainUntil)).2
  apply hrest _ (hkept.trans hlater)
  cases hresult : t.store.putOnce host key payload retainUntil with
  | error error =>
    rw [AnchoringState.perform, hresult] at hanswer
    cases hanswer
  | ok store =>
    rw [AnchoringState.perform, hresult]
    obtain ⟨-, object, hobject, hobjects⟩ := putOnce_cases hresult
    refine ⟨payload, hpayload, read_eq_ok.mpr ⟨object, ?_, hobject⟩⟩
    change store.objects.get? key = some object
    rw [hobjects, get?_set_self]

theorem upheld_anchor (service : AnchoringService) :
    Upheld host (anchoringProgram host (.anchor service)) state := by
  simp only [anchoringProgram, AnchoringService.anchor, Prog.bind_assoc]
  apply upheld_call
  · rintro _ ⟨⟩
  intro taken outcome checkpoint _ hsound htaken
  have hcovers : Covers host taken.journal checkpoint :=
    covers_of_snapshotCheckpoint hsound.intact (mapError_eq_ok.mp htaken)
  apply upheld_call
  · rintro _ ⟨⟩
  intro timed _ now htimed _ _
  apply upholds_ofExcept
  intro retainUntil _
  apply upheld_call
  · rintro _ ⟨⟩
  intro opened _ events hopened _ hevents
  obtain rfl : opened.journal.events = events := Except.ok.inj hevents
  have hknown : Kept taken opened := htimed.trans hopened
  apply upheld_retain
  intro first hfirst hhistory
  apply upheld_retain
  intro second hsecond hcheckpoint
  apply upheld_call
  · rintro _ ⟨⟩
  intro asked _ receipt hasked _ _
  apply upholds_ofExcept
  intro u hchecked
  rw [AnchoringService.checkReceipt, raiseIf_bind_eq_ok, raiseIf_eq_ok] at hchecked
  obtain ⟨hid, hroot⟩ := hchecked
  apply upheld_retain
  intro third hthird hreceipt
  have hlast : Kept taken third :=
    (((hknown.trans hfirst).trans hsecond).trans hasked).trans hthird
  have hpost : ∀ final, Kept third final → Retained host final
      ⟨checkpoint, receipt, objectKey "history" checkpoint, objectKey "checkpoints" checkpoint,
        objectKey "anchors" checkpoint⟩ := by
    intro final hfinal
    have hall := hlast.trans hfinal
    refine ⟨hcovers.mono hall.events, not_not.mp hid, not_not.mp hroot, ?_, ?_, ?_⟩
    · have htaken := hcovers.take_eq hall.events
      rw [← hcovers.take_eq hknown.events] at htaken
      change Holds host final.store _
        (historyDump host (final.journal.events.take checkpoint.eventCount.val))
      rw [htaken]
      exact hhistory.mono (((hsecond.trans hasked).trans hthird).trans hfinal)
    · exact hcheckpoint.mono ((hasked.trans hthird).trans hfinal)
    · exact hreceipt.mono hfinal
  apply upholds_call
  intro final hfinal hsound _
  refine ⟨⟨⟨_, markAnchored_of_covers (hcovers.mono (hlast.trans hfinal).events)⟩,
    fun _ => ⟨rfl, rfl⟩⟩, ?_⟩
  intro outcome
  obtain ⟨hafter, hkept⟩ := perform_kept outcome hsound (.markAnchored checkpoint)
  refine ⟨hafter, hkept, ?_⟩
  intro _ _
  apply upholds_ret
  rintro returned hreturned _ anchored ⟨⟩
  exact hpost returned ((hfinal.trans hkept).trans hreturned)

theorem upheld_program (request : AnchoringRequest) (state : AnchoringState) :
    Upheld host (anchoringProgram host request) state := by
  cases request with
  | anchor service => exact upheld_anchor service
  | append eventType actor payload aggregateId =>
    rw [anchoringProgram]
    apply upheld_call
    · rintro _ ⟨⟩
    intro t outcome event _ _ _
    apply upholds_ret
    rintro later _ _ anchored ⟨⟩

end Call

/-! ## Reading the objects back -/

section Records

theorem supported_of_mem_items {path : Str} {index : Nat} {items : List Json}
    (h : assertItems path index items = .ok ()) {item : Json} (hitem : item ∈ items) :
    assertSupported ['$'] item = .ok () := by
  induction items generalizing index with
  | nil => cases hitem
  | cons first items ih =>
    rw [assertItems, bind_eq_ok] at h
    obtain ⟨_, hfirst, hitems⟩ := h
    rcases List.mem_cons.mp hitem with rfl | hmem
    · exact supported_at _ _ item hfirst
    · exact ih hitems hmem

variable {bytes : Bytes}

theorem supported_of_historyDump {events : List AuditEventV1}
    (h : canonicalJson host (historyDump host events) = .ok bytes) {event : AuditEventV1}
    (hevent : event ∈ events) : assertSupported ['$'] (event.modelDump host) = .ok () := by
  have hsupported := supported_of_canonicalJson h
  rw [historyDump, assertSupported, assertFields, bind_eq_ok] at hsupported
  obtain ⟨_, hitems, _⟩ := hsupported
  rw [assertSupported] at hitems
  exact supported_of_mem_items hitems (List.mem_map_of_mem hevent)

theorem assertFields_of_append {path : Str} {fields others : List (Str × Json)}
    (h : assertFields path (fields ++ others) = .ok ()) : assertFields path fields = .ok () := by
  induction fields with
  | nil => rfl
  | cons field fields ih =>
    obtain ⟨key, item⟩ := field
    rw [List.cons_append, assertFields, bind_eq_ok] at h
    obtain ⟨u, hitem, hrest⟩ := h
    rw [assertFields, bind_eq_ok]
    exact ⟨u, hitem, ih hrest⟩

/-- The events have the same serialized content. -/
def SameContent (host : Host) (event other : AuditEventV1) : Prop :=
  sortKeys (event.modelDump host) = sortKeys (other.modelDump host)

section Event

variable {event other : AuditEventV1}

theorem SameContent.fields (h : SameContent host event other) :
    event.sequence = other.sequence ∧ event.previousHash = other.previousHash ∧
      event.eventHash = other.eventHash ∧
      sortKeys (.obj (event.unhashedFields host)) =
        sortKeys (.obj (other.unhashedFields host)) := by
  rw [SameContent, sortKeys_modelDump, sortKeys_modelDump] at h
  simp only [Json.obj.injEq, List.cons.injEq, Prod.mk.injEq, Json.str.injEq, Json.int.injEq,
    true_and, and_true, Nat.cast_inj] at h
  obtain ⟨hactor, haggregate, hhash, hid, htype, hat, hpayload, hprevious, hversion,
    hsequence⟩ := h
  refine ⟨Subtype.ext hsequence, Subtype.ext hprevious, Subtype.ext hhash, ?_⟩
  rw [sortKeys_unhashedFields, sortKeys_unhashedFields, hactor, haggregate, hid, htype, hat,
    hpayload, hprevious, hversion, hsequence]

theorem SameContent.hashed (hpackage : Rfc8785 host) (h : SameContent host event other)
    (hsupported : assertSupported ['$'] (other.modelDump host) = .ok ())
    (hhashed : Hashed host event) : Hashed host other := by
  obtain ⟨bytes, hbytes, hhash⟩ := hhashed
  obtain ⟨-, -, hsame, hfields⟩ := h.fields
  rw [AuditEventV1.modelDump, assertSupported] at hsupported
  have hother : assertSupported ['$'] (.obj (other.unhashedFields host)) = .ok () := by
    rw [assertSupported]
    exact assertFields_of_append hsupported
  have hpayload := canonicalJson_congr hpackage (supported_of_canonicalJson hbytes) hother hfields
  refine ⟨bytes, hpayload.symm.trans hbytes, ?_⟩
  rw [← hsame]
  exact hhash

end Event

variable {events others : List AuditEventV1}

theorem sortKeys_historyDump (host : Host) (events : List AuditEventV1) :
    sortKeys (historyDump host events) = .obj [("events".toList,
      .arr (events.map fun event => sortKeys (event.modelDump host)))] := by
  rw [historyDump, sortKeys, sortFields_eq_map]
  simp only [List.map_cons, List.map_nil, sortKeys, sortItems_eq_map, List.map_map]
  rfl

theorem sameContent_of_historyDump (hpackage : Rfc8785 host)
    (h : canonicalJson host (historyDump host events) = .ok bytes)
    (h' : canonicalJson host (historyDump host others) = .ok bytes) :
    List.Forall₂ (SameContent host) events others := by
  have hsorted := sortKeys_eq_of_canonicalJson hpackage h h'
  rw [sortKeys_historyDump, sortKeys_historyDump] at hsorted
  simp only [Json.obj.injEq, List.cons.injEq, Prod.mk.injEq, Json.arr.injEq, true_and,
    and_true] at hsorted
  rw [← List.forall₂_eq_eq_eq, List.forall₂_map_left_iff, List.forall₂_map_right_iff] at hsorted
  exact hsorted

theorem chain_of_sameContent (hpackage : Rfc8785 host) {previous head : Hex32} {first : Nat}
    (hsame : List.Forall₂ (SameContent host) events others)
    (hsupported : ∀ other ∈ others, assertSupported ['$'] (other.modelDump host) = .ok ())
    (hchain : Chain host previous first events head) :
    Chain host previous first others head := by
  induction hsame generalizing previous first with
  | nil => exact hchain
  | cons hhead htail ih =>
    cases hchain with
    | cons hsequence hprevious hhashed hrest =>
      obtain ⟨hnumber, hlink, hhash, -⟩ := hhead.fields
      rw [hhash] at hrest
      exact .cons (hnumber ▸ hsequence) (hlink ▸ hprevious)
        (hhead.hashed hpackage (hsupported _ List.mem_cons_self) hhashed)
        (ih (fun other hother => hsupported other (List.mem_cons_of_mem _ hother)) hrest)

/-- What depends on the numbers and hashes of the events only. -/
theorem map_of_sameContent {β : Type} {f : AuditEventV1 → β}
    (hf : ∀ event other, SameContent host event other → f event = f other)
    (hsame : List.Forall₂ (SameContent host) events others) : events.map f = others.map f := by
  rw [← List.forall₂_eq_eq_eq, List.forall₂_map_left_iff, List.forall₂_map_right_iff]
  exact hsame.imp hf

variable {checkpoint : AuditCheckpointV1}

theorem verifies_of_sameContent (hpackage : Rfc8785 host)
    (hsame : List.Forall₂ (SameContent host) events others)
    (hsupported : ∀ other ∈ others, assertSupported ['$'] (other.modelDump host) = .ok ())
    (h : Verifies host events checkpoint) : Verifies host others checkpoint := by
  obtain ⟨hlength, hfirst, hlast, hchain, hroot⟩ := verifies_iff.mp h
  have hsequences : events.map AuditEventV1.sequence = others.map AuditEventV1.sequence :=
    map_of_sameContent (fun _ _ heq => heq.fields.1) hsame
  have hnodes : events.map AuditEventV1.node = others.map AuditEventV1.node := by
    apply map_of_sameContent _ hsame
    intro event other heq
    rw [AuditEventV1.node, AuditEventV1.node, heq.fields.2.2.1]
  have hends : ∀ {found found' : Option AuditEventV1} {sequence : PosInt},
      found.map AuditEventV1.sequence = found'.map AuditEventV1.sequence →
      (∀ event ∈ found, event.sequence = sequence) →
        ∀ event ∈ found', event.sequence = sequence := by
    intro found found' sequence hmap hfound event hevent
    rw [hevent, Option.map_some, Option.map_eq_some_iff] at hmap
    obtain ⟨original, horiginal, hnumber⟩ := hmap
    rw [← hnumber]
    exact hfound original horiginal
  rw [verifies_iff]
  refine ⟨hsame.length_eq ▸ hlength, hends ?_ hfirst, hends ?_ hlast,
    chain_of_sameContent hpackage hsame hsupported hchain, ?_⟩
  · rw [← List.head?_map, ← List.head?_map, hsequences]
  · rw [← List.getLast?_map, ← List.getLast?_map, hsequences]
  · rw [← hroot, merkleRoot, merkleRoot, hnodes]

theorem same_of_checkpointDump (hpackage : Rfc8785 host) {other : AuditCheckpointV1}
    (h : canonicalJson host (checkpoint.modelDump host) = .ok bytes)
    (h' : canonicalJson host (other.modelDump host) = .ok bytes) :
    checkpoint.checkpointId = other.checkpointId ∧
      checkpoint.firstSequence = other.firstSequence ∧
      checkpoint.lastSequence = other.lastSequence ∧
      checkpoint.eventCount = other.eventCount ∧ checkpoint.merkleRoot = other.merkleRoot ∧
      checkpoint.headHash = other.headHash := by
  have hsorted : ∀ checkpoint : AuditCheckpointV1, sortKeys (checkpoint.modelDump host) = .obj [
      ("checkpoint_id".toList, .str (uuidText checkpoint.checkpointId)),
      ("created_at".toList, .str (host.datetimeText checkpoint.createdAt)),
      ("event_count".toList, .int checkpoint.eventCount.val),
      ("first_sequence".toList, .int checkpoint.firstSequence.val),
      ("head_hash".toList, .str checkpoint.headHash),
      ("last_sequence".toList, .int checkpoint.lastSequence.val),
      ("merkle_root".toList, .str checkpoint.merkleRoot),
      ("schema_version".toList, .str checkpoint.schemaVersion)] := by
    intro checkpoint
    rw [AuditCheckpointV1.modelDump, sortKeys, sortFields_eq_map]
    simp only [List.map_cons, List.map_nil, List.insertionSort]
    rfl
  have hsame := sortKeys_eq_of_canonicalJson hpackage h h'
  rw [hsorted, hsorted] at hsame
  simp only [Json.obj.injEq, List.cons.injEq, Prod.mk.injEq, Json.str.injEq, Json.int.injEq,
    true_and, and_true, Nat.cast_inj] at hsame
  obtain ⟨hid, -, hcount, hfirst, hhead, hlast, hroot, -⟩ := hsame
  exact ⟨uuidText_injective hid, Subtype.ext hfirst, Subtype.ext hlast, Subtype.ext hcount,
    Subtype.ext hroot, Subtype.ext hhead⟩

theorem same_of_receiptDump (hpackage : Rfc8785 host) {receipt other : AnchorReceiptV1}
    (h : canonicalJson host (receipt.modelDump host) = .ok bytes)
    (h' : canonicalJson host (other.modelDump host) = .ok bytes) :
    receipt.checkpointId = other.checkpointId ∧ receipt.merkleRoot = other.merkleRoot := by
  have hsorted : ∀ receipt : AnchorReceiptV1, sortKeys (receipt.modelDump host) = .obj [
      ("anchored_at".toList, .str (host.datetimeText receipt.anchoredAt)),
      ("block_number".toList, .int receipt.blockNumber),
      ("chain_id".toList, .int receipt.chainId.val),
      ("checkpoint_id".toList, .str (uuidText receipt.checkpointId)),
      ("contract".toList, .str receipt.contract),
      ("merkle_root".toList, .str receipt.merkleRoot),
      ("schema_version".toList, .str receipt.schemaVersion),
      ("transaction_hash".toList, .str receipt.transactionHash)] := by
    intro receipt
    rw [AnchorReceiptV1.modelDump, sortKeys, sortFields_eq_map]
    simp only [List.map_cons, List.map_nil, List.insertionSort]
    rfl
  have hsame := sortKeys_eq_of_canonicalJson hpackage h h'
  rw [hsorted, hsorted] at hsame
  simp only [Json.obj.injEq, List.cons.injEq, Prod.mk.injEq, Json.str.injEq, Json.int.injEq,
    true_and, and_true, Nat.cast_inj] at hsame
  obtain ⟨-, -, -, hid, -, hroot, -, -⟩ := hsame
  exact ⟨uuidText_injective hid, Subtype.ext hroot⟩

theorem Holds.bytes_eq {store : MemoryRetentionStore} {key : Str} {value other : Json}
    (h : Holds host store key value) (h' : Holds host store key other) :
    ∃ bytes, canonicalJson host value = .ok bytes ∧ canonicalJson host other = .ok bytes := by
  obtain ⟨bytes, hvalue, hread⟩ := h
  obtain ⟨bytes', hother, hread'⟩ := h'
  rw [hread, Except.ok.injEq] at hread'
  exact ⟨bytes, hvalue, hread' ▸ hother⟩

/-- Whatever records the retained objects are read as, they pass the verifier. -/
theorem Retained.verifiesAnchored (hpackage : Rfc8785 host) {state : AnchoringState}
    {anchored : AnchoredCheckpoint} (h : Retained host state anchored) {receipt : AnchorReceiptV1}
    (hevents : Holds host state.store anchored.historyKey (historyDump host events))
    (hcheckpoint : Holds host state.store anchored.checkpointKey (checkpoint.modelDump host))
    (hreceipt : Holds host state.store anchored.receiptKey (receipt.modelDump host)) :
    VerifiesAnchored host events checkpoint receipt := by
  obtain ⟨bytes, hown, hother⟩ := h.history.bytes_eq hevents
  have hverifies : Verifies host events anchored.checkpoint :=
    verifies_of_sameContent hpackage (sameContent_of_historyDump hpackage hown hother)
      (fun _ hevent => supported_of_historyDump hother hevent) h.covers
  obtain ⟨_, hown, hother⟩ := h.checkpoint.bytes_eq hcheckpoint
  obtain ⟨hid, hfirst, hlast, hcount, hroot, hhead⟩ := same_of_checkpointDump hpackage hown hother
  obtain ⟨_, hown, hother⟩ := h.receipt.bytes_eq hreceipt
  obtain ⟨hreceiptId, hreceiptRoot⟩ := same_of_receiptDump hpackage hown hother
  rw [verifies_iff, hfirst, hlast, hcount, hroot, hhead] at hverifies
  rw [verifiesAnchored_iff, verifies_iff]
  refine ⟨hverifies, ?_, ?_⟩
  · rw [← hreceiptId, ← hid]
    exact h.receiptId
  · rw [← hreceiptRoot, ← hroot]
    exact h.receiptRoot

end Records

/-! ## Runs -/

section Runs

variable {config after : AnchoringConfig}

/-- The calls are all in order. -/
structure InOrder (host : Host) (config : AnchoringConfig) : Prop where
  sound : Sound host config.shared
  threads : ∀ thread ∈ config.threads, Upheld host thread config.shared

theorem inOrder_step {label : AnchoringLabel} (h : InOrder host config)
    (hstep : AnchoringStep host config label after) :
    InOrder host after ∧ Kept config.shared after.shared := by
  have hthread : Threads.Step (AnchoringState.perform host) (anchoringProgram host)
      (fun _ => True) (fun _ _ => True) config label after :=
    ⟨allowed_true config label, hstep.2⟩
  have hentry : ∀ request : AnchoringRequest, True → ∀ state, (protocol host).invariant state →
      Upheld host (anchoringProgram host request) state :=
    fun request _ state _ => upheld_program request state
  obtain ⟨hsound, hkept, hthreads⟩ := upholds_step hentry h.sound h.threads hthread
  exact ⟨⟨hsound, hthreads⟩, hkept⟩

theorem inOrder_run {trace : List AnchoringLabel} (h : InOrder host config)
    (hrun : Run (AnchoringStep host) config trace after) :
    InOrder host after ∧ Kept config.shared after.shared := by
  apply hrun.invariant (I := fun _ after => InOrder host after ∧ Kept config.shared after.shared)
  · exact ⟨h, .refl _⟩
  · rintro _ middle label last _ ⟨horder, hkept⟩ hstep
    obtain ⟨hafter, hstepped⟩ := inOrder_step horder hstep
    exact ⟨hafter, hkept.trans hstepped⟩

theorem inOrder_new (start : Datetime) (store : MemoryRetentionStore) :
    InOrder host ⟨⟨.new start, store⟩, []⟩ where
  sound := ⟨⟨genesisHash, .nil⟩, le_rfl⟩
  threads := fun _ hthread => nomatch hthread

theorem InOrder.retained (h : InOrder host config) {anchored : AnchoredCheckpoint}
    (hanchored : anchored ∈ config.anchored) : Retained host config.shared anchored := by
  obtain ⟨result, hresult, hsome⟩ := List.mem_filterMap.mp hanchored
  obtain ⟨thread, hthread, hended⟩ := List.mem_filterMap.mp hresult
  rw [Prog.eq_ret_of_result? hended] at hthread
  have hpost := h.threads _ hthread config.shared (.refl _) h.sound
  cases result with
  | appended event => cases hsome
  | anchored returned =>
    rw [Option.some.inj hsome] at hpost
    exact hpost anchored rfl

theorem InOrder.marksLast (h : InOrder host config) {command : AnchoringCommand}
    {next : command.Answer → AnchoringProgram AnchoringResult}
    (hthread : .op command next ∈ config.threads) : MarksLast host config.shared command next :=
  (h.threads _ hthread config.shared (.refl _) h.sound trivial).1

/-- A step that moves the anchor count is the last one of its call, which returns. -/
theorem returned_of_count_ne (h : InOrder host config) {index : Nat} {outcome : AnchoringOutcome}
    (hstep : AnchoringStep host config (.advance index outcome) after)
    (hcount : after.shared.journal.lastAnchorCount ≠ config.shared.journal.lastAnchorCount) :
    ∃ thread, after.threads[index]? = some thread ∧ thread.ended = true ∧
      thread.result?.isSome = true := by
  obtain ⟨-, rfl⟩ := hstep
  rw [Config.perform] at hcount ⊢
  split at hcount
  · rename_i command next hthread
    by_cases hmark : ∃ checkpoint, command = .markAnchored checkpoint
    · obtain ⟨checkpoint, rfl⟩ := hmark
      obtain ⟨⟨marked, hmarked⟩, hnext⟩ := h.marksLast (List.mem_of_getElem? hthread)
      have hlength := (List.getElem?_eq_some_iff.mp hthread).1
      refine ⟨next (), ?_, hnext ()⟩
      simp only [AnchoringState.perform, hmarked]
      exact List.getElem?_set_self hlength
    · exact absurd (lastAnchorCount_perform fun checkpoint heq => hmark ⟨checkpoint, heq⟩) hcount
  · exact absurd rfl hcount

theorem getElem?_run_of_ended {trace : List AnchoringLabel} {index : Nat}
    {thread : AnchoringProgram AnchoringResult} (hended : thread.ended = true)
    (hthread : config.threads[index]? = some thread)
    (hrun : Run (AnchoringStep host) config trace after) :
    after.threads[index]? = some thread := by
  apply hrun.invariant (I := fun _ after => after.threads[index]? = some thread) hthread
  rintro _ middle label last _ hmiddle ⟨hproceeds, rfl⟩
  exact getElem?_perform_of_ended hproceeds hmiddle hended

/-- Along every interleaving of appends and anchors, what a returned call retained is the
history its checkpoint covers, no mark raises, and the anchor count is moved by calls that
return only, upwards and within the journal. -/
theorem anchoring_consistent (hpackage : Rfc8785 host) {start : Datetime}
    {store : MemoryRetentionStore} {trace : List AnchoringLabel}
    (hrun : Run (AnchoringStep host) ⟨⟨.new start, store⟩, []⟩ trace config) :
    (∀ anchored ∈ config.anchored,
      anchored.checkpoint.eventCount.val ≤ config.shared.journal.events.length ∧
      Holds host config.shared.store anchored.historyKey
        (historyDump host
          (config.shared.journal.events.take anchored.checkpoint.eventCount.val)) ∧
      Holds host config.shared.store anchored.checkpointKey
        (anchored.checkpoint.modelDump host) ∧
      Holds host config.shared.store anchored.receiptKey (anchored.receipt.modelDump host) ∧
      (∀ events checkpoint receipt,
        Holds host config.shared.store anchored.historyKey (historyDump host events) →
        Holds host config.shared.store anchored.checkpointKey (checkpoint.modelDump host) →
        Holds host config.shared.store anchored.receiptKey (receipt.modelDump host) →
          VerifiesAnchored host events checkpoint receipt) ∧
      ∃ after, config.shared.journal.markAnchored host anchored.checkpoint = .ok after) ∧
    (∀ checkpoint next, .op (.markAnchored checkpoint) next ∈ config.threads →
      ∃ after, config.shared.journal.markAnchored host checkpoint = .ok after) ∧
    config.shared.journal.lastAnchorCount ≤ config.shared.journal.events.length ∧
    (∀ later after, Run (AnchoringStep host) config later after →
      config.shared.journal.lastAnchorCount ≤ after.shared.journal.lastAnchorCount) ∧
    ∀ index error, config.threads[index]? = some (.raise error) →
      ∀ earlier before outcome after later,
        Run (AnchoringStep host) ⟨⟨.new start, store⟩, []⟩ earlier before →
        AnchoringStep host before (.advance index outcome) after →
        Run (AnchoringStep host) after later config →
          after.shared.journal.lastAnchorCount = before.shared.journal.lastAnchorCount := by
  have hinit : InOrder host ⟨⟨.new start, store⟩, []⟩ := inOrder_new start store
  have horder := (inOrder_run hinit hrun).1
  refine ⟨?_, ?_, horder.sound.count, ?_, ?_⟩
  · intro anchored hanchored
    have hretained := horder.retained hanchored
    exact ⟨hretained.covers.count_le, hretained.history, hretained.checkpoint,
      hretained.receipt,
      fun _ _ _ hevents hcheckpoint hreceipt =>
        hretained.verifiesAnchored hpackage hevents hcheckpoint hreceipt,
      _, markAnchored_of_covers hretained.covers⟩
  · intro checkpoint next hthread
    exact (horder.marksLast hthread).1
  · intro later after hlater
    exact (inOrder_run horder hlater).2.count
  · intro index error hraised earlier before outcome after later hearlier hstep hlater
    by_contra hcount
    have hbefore := (inOrder_run hinit hearlier).1
    obtain ⟨thread, hthread, hended, hresult⟩ := returned_of_count_ne hbefore hstep hcount
    have hsame := getElem?_run_of_ended hended hthread hlater
    rw [hraised, Option.some.injEq] at hsame
    rw [← hsame] at hresult
    cases hresult

end Runs

/-! ## A sample run -/

open SignedEffect

/-- The request that appends an event, and what it draws. -/
def appendLabels (event : AuditEventV1) (index : Nat) : List AnchoringLabel := [
  .start (.append event.eventType event.actor event.payload event.aggregateId),
  .advance index ⟨event.eventId, event.occurredAt, .aware event.occurredAt, none⟩]

def sampleService : AnchoringService := ⟨365 * 24 * 60 * 60 * 1000000, by decide⟩

/-- The outcomes of an anchor call, with what the external anchor returns. -/
def anchorOutcome (checkpointId : Uuid) (receipt : Option AnchorReceiptV1) : AnchoringOutcome :=
  ⟨checkpointId, sampleNow, .aware sampleNow, receipt⟩

/-- Two events are appended and a call takes its checkpoint; a third event comes in before
the call goes on and returns.  The external anchor fails for a second call. -/
def sampleTrace : List AnchoringLabel :=
  let returned := anchorOutcome 7 (some { sampleReceipt 7 with merkleRoot := hex32 leftHash })
  match sampleHistory with
  | [first, second, third] =>
    appendLabels first 0 ++ appendLabels second 1 ++
      [.start (.anchor sampleService), .advance 2 returned] ++ appendLabels third 3 ++
      List.replicate 7 (.advance 2 returned) ++
      .start (.anchor sampleService) :: List.replicate 6 (.advance 4 (anchorOutcome 8 none))
  | _ => []

def sampleStart : AnchoringConfig := ⟨⟨.new sampleNow, ⟨.empty⟩⟩, []⟩

def sampleEnd : AnchoringConfig :=
  sampleTrace.foldl
    (Config.perform (AnchoringState.perform journalHost) (anchoringProgram journalHost))
    sampleStart

/-- What is observed of a call. -/
def observed : AnchoringProgram AnchoringResult → Option (Except AnchoringError (Option Nat))
  | .ret (.appended _) => some (.ok none)
  | .ret (.anchored result) => some (.ok (some result.checkpoint.eventCount.val))
  | .raise error => some (.error error)
  | .op _ _ => none

/-- The first anchor call returns a checkpoint of two events while the journal has three. -/
theorem sampleEnd_consistent :
    sampleEnd.threads.map observed =
        [some (.ok none), some (.ok none), some (.ok (some 2)), some (.ok none),
          some (.error .external)] ∧
      sampleEnd.shared.journal.events.length = 3 ∧
      sampleEnd.shared.journal.lastAnchorCount ≤ sampleEnd.shared.journal.events.length ∧
      ∀ anchored ∈ sampleEnd.anchored,
        Holds journalHost sampleEnd.shared.store anchored.historyKey
          (historyDump journalHost
            (sampleEnd.shared.journal.events.take anchored.checkpoint.eventCount.val)) := by
  have hfacts : Run.Follows (fun (_ : AnchoringConfig) (label : AnchoringLabel) =>
        label.proceeds = true)
      (Config.perform (AnchoringState.perform journalHost) (anchoringProgram journalHost))
      sampleStart sampleTrace ∧
      sampleEnd.threads.map observed =
        [some (.ok none), some (.ok none), some (.ok (some 2)), some (.ok none),
          some (.error .external)] ∧
      sampleEnd.shared.journal.events.length = 3 := by decide +kernel
  obtain ⟨hfollows, hthreads, hlength⟩ := hfacts
  have hrun : Run (AnchoringStep journalHost) sampleStart sampleTrace sampleEnd := hfollows.run
  obtain ⟨hretained, -, hcount, -⟩ := anchoring_consistent rfc8785_journalHost hrun
  exact ⟨hthreads, hlength, hcount, fun anchored hanchored => (hretained anchored hanchored).2.1⟩

end AegisLedger.Gateway.AnchorConsistency
