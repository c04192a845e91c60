import AegisLedger.Gateway.Settlements
import AegisLedger.Gateway.Proofs.PostgresSafety

/-!
# The two settlement stores

The memory adapter overwrites one record and counts the changes of its block hash.  The
durable one keeps a row for each block hash, makes the last one canonical and counts the
others.  Under the same calls they stay in step exactly as long as each receipt fits its
columns, a block keeps its number, and no block comes back after another one was seen.
-/

namespace AegisLedger.Gateway.SettlementAdapters

open AegisLedger.Support Checks Table

/-! ## Both stores under the same calls -/

structure Adapters where
  memory : MemorySettlementStore
  durable : SettlementTables

/-- A call of `observe`, with what each store draws for it. -/
structure Observed where
  receipt : EvmReceipt
  seenAt : Datetime
  id : Uuid
  now : Datetime

/-- The call on both; one that raises leaves its store as it is. -/
def Adapters.observe (hash : Str) (adapters : Adapters) (call : Observed) : Adapters where
  memory := (adapters.memory.observe hash call.receipt call.seenAt).toOption.getD adapters.memory
  durable :=
    (adapters.durable.observe hash call.receipt call.id call.now).toOption.getD adapters.durable

def Adapters.after (hash : Str) (adapters : Adapters) (calls : List Observed) : Adapters :=
  calls.foldl (Adapters.observe hash) adapters

theorem after_concat (hash : Str) (adapters : Adapters) (calls : List Observed)
    (call : Observed) : adapters.after hash (calls ++ [call]) =
      (adapters.after hash calls).observe hash call := by
  simp [Adapters.after]

/-- An observation without its time. -/
def timeless (observation : SettlementObservation) : Str × Str × Nat × Nat × Bool × Nat :=
  (observation.transactionHash, observation.blockHash, observation.blockNumber,
    observation.chainId, observation.success, observation.confirmations)

/-- The count that `pending` reports for a transaction. -/
def reportedReorgs (items : List TrackedTransaction) (hash : Str) : Option Nat :=
  (items.find? fun item => item.transactionHash = hash).map (·.reorgCount)

/-- The stores answer alike, and one row of the transaction is canonical: that of the last
receipt. -/
structure Mirrors (host : Host) (hash : Str) (transactionId : Uuid) (adapters : Adapters)
    (last : Option EvmReceipt) : Prop where
  observation : (adapters.memory.observation hash).map timeless =
    (adapters.durable.observation host hash).map timeless
  canonical : ((adapters.durable.settlementsOf transactionId).filter (·.canonical)).map
    (·.blockHash) = (last.map (·.blockHash)).toList
  reorgs : reportedReorgs adapters.memory.pending hash =
    reportedReorgs (adapters.durable.pending host) hash

/-- A transaction that both stores have registered, that none has observed, and whose proposal
is SUBMITTED. -/
structure Registered (host : Host) (hash : Str) (proposalId : Uuid) (chainId : Nat)
    (adapters : Adapters) (row : TransactionRow) : Prop where
  tracked : adapters.memory.transactions.get? hash = some (.new hash proposalId chainId)
  filed : ∀ key item, adapters.memory.transactions.get? key = some item →
    item.transactionHash = key
  accepted : adapters.durable.register host hash proposalId chainId = .ok ()
  only : (adapters.durable.transactions.filter fun other =>
    host.lower other.transactionHash = hash) = [row]
  stored : row.transactionHash = hash
  lower : host.lower hash = hash
  submitted : ∃ proposal ∈ adapters.durable.lifecycle.proposals, proposal.id = proposalId ∧
    proposal.state = .submitted
  unobserved : adapters.durable.settlementsOf row.id = []

/-! ## `char(66)` -/

theorem char66_eq_self_iff {text : Str} :
    char66 text = some text ↔ text.length = 66 ∧ '\x00' ∉ text := by
  rw [char66]
  split_ifs with hrefused
  · simp only [false_iff, not_and, not_not]
    intro hlength
    rcases hrefused with hnul | hblank
    · exact hnul
    · rw [List.drop_of_length_le hlength.le] at hblank
      cases hblank
  · rw [not_or] at hrefused
    rw [Option.some.injEq]
    constructor
    · intro hsame
      have hlength := congrArg List.length hsame
      simp only [List.length_take, List.length_append, List.length_replicate] at hlength
      exact ⟨by omega, hrefused.1⟩
    · rintro ⟨hlength, -⟩
      rw [hlength, List.replicate_zero, List.append_nil, List.take_of_length_le hlength.le]

theorem rdropWhile_append_blanks (text : Str) :
    ∃ count, text = text.rdropWhile (· = ' ') ++ List.replicate count ' ' := by
  refine ⟨(text.rtakeWhile (· = ' ')).length, ?_⟩
  have hblanks : ∀ c ∈ text.rtakeWhile (· = ' '), c = ' ' := by
    intro c hc
    simpa using List.mem_rtakeWhile_imp hc
  rw [← List.eq_replicate_length.mpr hblanks, List.rdropWhile_append_rtakeWhile]

/-- On texts of one length the comparison is equality. -/
theorem sameChars_iff {first second : Str} (hlength : first.length = second.length) :
    sameChars first second = true ↔ first = second := by
  rw [sameChars, decide_eq_true_iff]
  constructor
  · intro hsame
    obtain ⟨m, hfirst⟩ := rdropWhile_append_blanks first
    obtain ⟨n, hsecond⟩ := rdropWhile_append_blanks second
    have hm := congrArg List.length hfirst
    have hn := congrArg List.length hsecond
    rw [List.length_append, List.length_replicate] at hm hn
    rw [hsame] at hfirst hm
    rw [hfirst, show m = n by omega]
    exact hsecond.symm
  · rintro rfl
    rfl

/-! ## The rows of a transaction -/

/-- The row that a call inserts. -/
def newRow (transactionId : Uuid) (call : Observed) : SettlementRow where
  id := call.id
  transactionId := transactionId
  blockHash := call.receipt.blockHash
  blockNumber := call.receipt.blockNumber
  success := call.receipt.success
  confirmations := call.receipt.confirmations
  canonical := true
  observedAt := call.now

/-- A canonical row of another block. -/
def outdated (blockHash : Str) (row : SettlementRow) : Bool :=
  row.canonical && decide (row.blockHash ≠ blockHash)

/-- The two statements of `observe`, on the rows of one transaction. -/
def recorded (new : SettlementRow) (rows : List SettlementRow) : List SettlementRow :=
  upsert SettlementRow.blockHash new.renewed new
    (updateWhere (outdated new.blockHash) SettlementRow.retired rows)

variable {tables : SettlementTables} {row : SettlementRow}

theorem insertSettlement_eq_ok {after : SettlementTables}
    (h : tables.insertSettlement row = .ok after) :
    after.lifecycle = tables.lifecycle ∧ after.transactions = tables.transactions ∧
      after.settlements = upsert SettlementRow.key row.renewed row tables.settlements := by
  rw [SettlementTables.insertSettlement] at h
  split_ifs at h with hfits hkey hfresh
  · obtain rfl := Except.ok.inj h
    exact ⟨rfl, rfl, (if_pos hkey).symm⟩
  · obtain rfl := Except.ok.inj h
    exact ⟨rfl, rfl, (if_neg hkey).symm⟩

theorem exists_insertSettlement (hfits : row.Fits)
    (hid : row.id ∉ tables.settlements.map SettlementRow.id)
    (hreference : row.transactionId ∈ tables.transactions.map TransactionRow.id) :
    ∃ after, tables.insertSettlement row = .ok after := by
  rw [SettlementTables.insertSettlement, dif_pos hfits]
  split_ifs with hkey hfresh
  · exact ⟨_, rfl⟩
  · exact ⟨_, rfl⟩
  · exact absurd ⟨hid, hreference⟩ hfresh

/-- What a receipt needs for the columns to take it. -/
structure Storable (receipt : EvmReceipt) : Prop where
  hash : receipt.blockHash.length = 66 ∧ '\x00' ∉ receipt.blockHash
  number : receipt.blockNumber < 2 ^ 63
  confirmations : receipt.confirmations < 2 ^ 31

variable {transactionId : Uuid}

theorem fits_newRow {call : Observed} (h : Storable call.receipt) :
    (newRow transactionId call).Fits :=
  ⟨char66_eq_self_iff.mpr h.hash, h.number, h.confirmations⟩

theorem mem_settlementsOf : row ∈ tables.settlementsOf transactionId ↔
      row ∈ tables.settlements ∧ row.transactionId = transactionId := by
  simp [SettlementTables.settlementsOf]

theorem nodup_blockHashes (tables : SettlementTables) (transactionId : Uuid) :
    ((tables.settlementsOf transactionId).map SettlementRow.blockHash).Nodup := by
  have hkeys : ((tables.settlementsOf transactionId).map SettlementRow.key).Nodup :=
    (List.filter_sublist.map SettlementRow.key).nodup tables.settlementKeys
  rw [List.nodup_map_iff_inj_on (List.Nodup.of_map _ hkeys)]
  intro first hfirst second hsecond hsame
  have hkey : first.key = second.key := by
    rw [SettlementRow.key, SettlementRow.key, hsame, (mem_settlementsOf.mp hfirst).2,
      (mem_settlementsOf.mp hsecond).2]
  exact List.inj_on_of_nodup_map hkeys hfirst hsecond hkey

theorem length_blockHash (h : row ∈ tables.settlementsOf transactionId) :
    row.blockHash.length = 66 :=
  (char66_eq_self_iff.mp (tables.settlementChecks row (mem_settlementsOf.mp h).1).1).1

theorem settlementsOf_retireOthers (tables : SettlementTables) (transactionId : Uuid)
    {blockHash : Str} (hlength : blockHash.length = 66) :
    (tables.retireOthers transactionId blockHash).settlementsOf transactionId =
      updateWhere (outdated blockHash) SettlementRow.retired
        (tables.settlementsOf transactionId) := by
  change (updateWhere _ SettlementRow.retired tables.settlements).filter _ = _
  rw [filter_updateWhere (by intro row; rfl)]
  apply List.map_congr_left
  intro row hrow
  have hsame := sameChars_iff ((length_blockHash hrow).trans hlength.symm)
  have hid := (mem_settlementsOf.mp hrow).2
  have hother : (!sameChars row.blockHash blockHash) = decide (row.blockHash ≠ blockHash) := by
    rw [Bool.eq_iff_iff, Bool.not_eq_true', ← Bool.not_eq_true, hsame, decide_eq_true_iff]
  have hcondition : (decide (row.transactionId = transactionId) && row.canonical &&
      !sameChars row.blockHash blockHash) = outdated blockHash row := by
    rw [outdated, hother, decide_eq_true hid, Bool.true_and]
  rw [← hcondition]

/-- A call whose receipt fits changes the rows of its transaction and nothing else. -/
theorem exists_observe {hash : Str} {row : TransactionRow} {call : Observed}
    (hrow : tables.transaction hash = some row) (hstorable : Storable call.receipt)
    (hid : call.id ∉ tables.settlements.map SettlementRow.id) :
    ∃ after, tables.observe hash call.receipt call.id call.now = .ok after ∧
      after.lifecycle = tables.lifecycle ∧ after.transactions = tables.transactions ∧
      after.settlementsOf row.id =
        recorded (newRow row.id call) (tables.settlementsOf row.id) := by
  have hmem : row ∈ tables.transactions := List.mem_of_find?_eq_some hrow
  have hretired : (newRow row.id call).id ∉
      (tables.retireOthers row.id call.receipt.blockHash).settlements.map SettlementRow.id := by
    change call.id ∉ (updateWhere _ _ _).map SettlementRow.id
    rw [map_updateWhere (by intro row; rfl)]
    exact hid
  obtain ⟨after, hafter⟩ :=
    exists_insertSettlement (fits_newRow hstorable) hretired (List.mem_map_of_mem hmem)
  obtain ⟨hlifecycle, htransactions, hsettlements⟩ := insertSettlement_eq_ok hafter
  refine ⟨after, ?_, hlifecycle, htransactions, ?_⟩
  · rw [SettlementTables.observe, hrow, char66_eq_self_iff.mpr hstorable.hash]
    exact hafter
  · rw [SettlementTables.settlementsOf, hsettlements, recorded,
      show (newRow row.id call).blockHash = call.receipt.blockHash from rfl,
      ← settlementsOf_retireOthers tables row.id hstorable.hash.1]
    apply filter_upsert
    · intro old
      rfl
    · intro old
      simp [SettlementRow.key, newRow]

/-! ## The rows after a sequence of receipts -/

/-- The rows of a transaction whose receipts were all stored. -/
structure Rows (receipts : List EvmReceipt) (rows : List SettlementRow) : Prop where
  hashes : ∀ blockHash, blockHash ∈ rows.map SettlementRow.blockHash ↔
    blockHash ∈ receipts.map EvmReceipt.blockHash
  canonical : ∀ row ∈ rows, row.canonical = true ↔
    receipts.getLast?.map EvmReceipt.blockHash = some row.blockHash
  latest : ∀ row ∈ rows, ∀ last, receipts.getLast? = some last →
    row.blockHash = last.blockHash →
    row.success = last.success ∧ row.confirmations = last.confirmations

theorem rows_nil : Rows [] [] where
  hashes := by simp
  canonical := by simp
  latest := by simp

variable {rows : List SettlementRow}

theorem rows_eq_nil (h : Rows [] rows) : rows = [] := by
  rw [← List.map_eq_nil_iff, List.eq_nil_iff_forall_not_mem]
  intro blockHash hmem
  simpa using (h.hashes blockHash).mp hmem

/-- A row after the first statement. -/
theorem mem_retired {blockHash : Str}
    (h : row ∈ updateWhere (outdated blockHash) SettlementRow.retired rows) :
    (row.canonical = true → row.blockHash = blockHash) ∧
      ∃ old ∈ rows, row.blockHash = old.blockHash ∧ row.blockNumber = old.blockNumber := by
  obtain ⟨old, hold, rfl⟩ := mem_updateWhere.mp h
  split_ifs with houtdated
  · exact ⟨nofun, old, hold, rfl, rfl⟩
  · refine ⟨?_, old, hold, rfl, rfl⟩
    intro hcanonical
    simpa [outdated, hcanonical] using houtdated

/-- A row after a call: what it was before and whether it is of the block observed. -/
theorem mem_recorded {new : SettlementRow} (hnew : new.canonical = true)
    (h : row ∈ recorded new rows) :
    (row.canonical = true ↔ row.blockHash = new.blockHash) ∧
      (row.blockHash = new.blockHash →
        row.success = new.success ∧ row.confirmations = new.confirmations) ∧
      ((∃ old ∈ rows, row.blockHash = old.blockHash ∧ row.blockNumber = old.blockNumber) ∨
        row = new ∧ new.blockHash ∉ rows.map SettlementRow.blockHash) := by
  rcases mem_upsert h with ⟨middle, hmiddle, hhash, rfl⟩ | ⟨hmiddle, hother⟩ | ⟨rfl, habsent⟩
  · exact ⟨⟨fun _ => hhash, fun _ => rfl⟩, fun _ => ⟨rfl, rfl⟩, .inl (mem_retired hmiddle).2⟩
  · obtain ⟨hcanonical, hold⟩ := mem_retired hmiddle
    exact ⟨⟨hcanonical, fun hsame => absurd hsame hother⟩, fun hsame => absurd hsame hother,
      .inl hold⟩
  · rw [map_updateWhere (by intro row; rfl)] at habsent
    exact ⟨⟨fun _ => rfl, fun _ => hnew⟩, fun _ => ⟨rfl, rfl⟩, .inr ⟨rfl, habsent⟩⟩

theorem blockHashes_recorded (new : SettlementRow) (rows : List SettlementRow) :
    (recorded new rows).map SettlementRow.blockHash = rows.map SettlementRow.blockHash ++
      if new.blockHash ∈ rows.map SettlementRow.blockHash then [] else [new.blockHash] := by
  rw [recorded, map_upsert (by intro row; rfl), map_updateWhere (by intro row; rfl)]

theorem length_recorded (new : SettlementRow) (rows : List SettlementRow) :
    (recorded new rows).length = rows.length +
      if new.blockHash ∈ rows.map SettlementRow.blockHash then 0 else 1 := by
  have hlength := congrArg List.length (blockHashes_recorded new rows)
  rw [List.length_map, List.length_append, List.length_map] at hlength
  split_ifs at hlength ⊢
  · exact hlength
  · exact hlength

variable {receipts : List EvmReceipt}

theorem rows_recorded (h : Rows receipts rows) (transactionId : Uuid) (call : Observed) :
    Rows (receipts ++ [call.receipt]) (recorded (newRow transactionId call) rows) where
  hashes := by
    intro blockHash
    rw [blockHashes_recorded, List.map_append, List.mem_append, List.mem_append, h.hashes]
    by_cases hseen : (newRow transactionId call).blockHash ∈ rows.map SettlementRow.blockHash
    · have hmem : call.receipt.blockHash ∈ receipts.map EvmReceipt.blockHash :=
        (h.hashes _).mp hseen
      rw [if_pos hseen]
      simp only [List.not_mem_nil, or_false, List.map_singleton, List.mem_singleton]
      exact ⟨.inl, fun hfound => hfound.elim id fun hsame => hsame ▸ hmem⟩
    · rw [if_neg hseen]
      rfl
  canonical := by
    intro row hrow
    rw [(mem_recorded rfl hrow).1, List.getLast?_concat, Option.map_some, Option.some.injEq]
    exact eq_comm
  latest := by
    intro row hrow last hlast hhash
    rw [List.getLast?_concat, Option.some.injEq] at hlast
    subst hlast
    exact (mem_recorded rfl hrow).2.1 hhash

/-- The one canonical row. -/
theorem filter_canonical {last : EvmReceipt} (h : Rows (receipts ++ [last]) rows)
    (hkeys : (rows.map SettlementRow.blockHash).Nodup) :
    ∃ row ∈ rows, row.blockHash = last.blockHash ∧ rows.filter (·.canonical) = [row] := by
  have hmem : last.blockHash ∈ rows.map SettlementRow.blockHash := by
    rw [h.hashes]
    simp
  obtain ⟨row, hrow, hhash⟩ := List.mem_map.mp hmem
  refine ⟨row, hrow, hhash, ?_⟩
  have hfilter : rows.filter (·.canonical) =
      rows.filter fun other => other.blockHash = last.blockHash := by
    apply List.filter_congr
    intro other hother
    rw [Bool.eq_iff_iff, h.canonical other hother, List.getLast?_concat, decide_eq_true_iff,
      Option.map_some, Option.some.injEq]
    exact eq_comm
  rw [hfilter, filter_key_eq hkeys, ← hhash, lookup_of_mem hkeys hrow]
  rfl

/-- All rows but the canonical one. -/
theorem length_filter_retired (h : Rows receipts rows)
    (hkeys : (rows.map SettlementRow.blockHash).Nodup) :
    (rows.filter fun row => !row.canonical).length = rows.length - 1 := by
  have hsplit := rows.length_eq_length_filter_add SettlementRow.canonical
  rcases List.eq_nil_or_concat receipts with rfl | ⟨receipts, last, rfl⟩
  · rw [rows_eq_nil h]
    rfl
  · rw [List.concat_eq_append] at h
    obtain ⟨row, _, _, hfilter⟩ := filter_canonical h hkeys
    rw [hfilter, List.length_singleton] at hsplit
    omega

/-! ## The answers of the durable store -/

theorem find?_eq_some_of_unique {α : Type} {p : α → Bool} {items : List α} {item : α}
    (hmem : item ∈ items) (hp : p item = true) (hunique : ∀ other ∈ items, p other = true →
      other = item) : items.find? p = some item := by
  cases hfind : items.find? p with
  | none => exact absurd hp (List.find?_eq_none.mp hfind item hmem)
  | some other =>
    rw [hunique other (List.mem_of_find?_eq_some hfind) (List.find?_some hfind)]

/-- What the durable store knows of a registered transaction. -/
structure Attached (host : Host) (hash : Str) (chainId : Nat) (row : TransactionRow)
    (tables : SettlementTables) : Prop where
  only : (tables.transactions.filter fun other =>
    host.lower other.transactionHash = hash) = [row]
  stored : row.transactionHash = hash
  lower : host.lower hash = hash
  chain : row.chainId = chainId
  submittedAt : row.submittedAt.isSome = true
  submitted : ∃ proposal ∈ tables.lifecycle.proposals, proposal.id = row.proposalId ∧
    proposal.state = .submitted

theorem attached_of_registered {host : Host} {hash : Str} {proposalId : Uuid} {chainId : Nat}
    {adapters : Adapters} {row : TransactionRow}
    (h : Registered host hash proposalId chainId adapters row) :
    Attached host hash chainId row adapters.durable := by
  have haccepted := h.accepted
  simp only [SettlementTables.register, orRaise_bind_eq_ok, raiseIf_eq_ok, not_or,
    not_not] at haccepted
  obtain ⟨found, hfound, hchain, hhash⟩ := haccepted
  have hmem : found ∈ adapters.durable.transactions.filter fun other =>
      host.lower other.transactionHash = hash := by
    rw [List.mem_filter, decide_eq_true_iff]
    exact ⟨List.mem_of_find?_eq_some hfound, hhash.trans h.lower⟩
  rw [h.only, List.mem_singleton] at hmem
  subst hmem
  have hcondition := List.find?_some hfound
  rw [Bool.and_eq_true, decide_eq_true_iff] at hcondition
  rw [← hcondition.1] at h
  exact ⟨h.only, h.stored, h.lower, hchain, hcondition.2, h.submitted⟩

section Answers

variable {host : Host} {hash : Str} {chainId : Nat} {row : TransactionRow}
  {tables : SettlementTables}

theorem mem_transactions_of_attached (h : Attached host hash chainId row tables) :
    row ∈ tables.transactions := by
  have hmem : row ∈ [row] := List.mem_singleton_self row
  rw [← h.only] at hmem
  exact (List.mem_filter.mp hmem).1

theorem eq_of_attached (h : Attached host hash chainId row tables) {other : TransactionRow}
    (hmem : other ∈ tables.transactions) (hhash : host.lower other.transactionHash = hash) :
    other = row := by
  rw [← List.mem_singleton, ← h.only, List.mem_filter, decide_eq_true_iff]
  exact ⟨hmem, hhash⟩

theorem transaction_of_attached (h : Attached host hash chainId row tables) :
    tables.transaction hash = some row := by
  apply find?_eq_some_of_unique (mem_transactions_of_attached h) (decide_eq_true h.stored)
  intro other hother hhash
  rw [decide_eq_true_iff] at hhash
  exact eq_of_attached h hother (by rw [hhash, h.lower])

theorem observation_of_attached (h : Attached host hash chainId row tables) :
    tables.observation host hash =
      ((((tables.settlementsOf row.id).filter (·.canonical)).map (row, ·)).argmax
        fun pair => pair.2.observedAt.val).map fun pair => {
          transactionHash := hash
          blockHash := host.lower pair.2.blockHash
          blockNumber := pair.2.blockNumber
          chainId := pair.1.chainId
          success := pair.2.success
          confirmations := pair.2.confirmations
          observedAt := pair.2.observedAt } := by
  have honly : (tables.transactions.filter fun other => other.transactionHash = hash) =
      [row] := by
    have hnarrow : (fun other : TransactionRow => decide (other.transactionHash = hash)) =
        fun other => decide (other.transactionHash = hash) &&
          decide (host.lower other.transactionHash = hash) := by
      funext other
      by_cases hhash : other.transactionHash = hash
      · simp [hhash, h.lower]
      · simp [hhash]
    rw [hnarrow, ← List.filter_filter, h.only]
    simp [h.stored]
  rw [SettlementTables.observation, filter_join_and tables.transactions tables.settlements
    (fun other => decide (other.transactionHash = hash)) SettlementRow.canonical, honly, join,
    List.flatMap_singleton, List.filter_comm, h.lower, SettlementTables.settlementsOf]

theorem reportedReorgs_of_attached (h : Attached host hash chainId row tables) :
    reportedReorgs (tables.pending host) hash =
      some ((tables.settlementsOf row.id).filter fun old => !old.canonical).length := by
  have hfind : ((tables.pending host).find? fun item => item.transactionHash = hash) =
      some (tables.tracked host row) := by
    obtain ⟨proposal, hproposal, hid, hstate⟩ := h.submitted
    apply find?_eq_some_of_unique
    · rw [SettlementTables.pending, List.mem_map]
      refine ⟨(row, proposal), ?_, rfl⟩
      rw [List.mem_filter]
      refine ⟨?_, by simp [h.submittedAt, hstate]⟩
      simp only [join, List.mem_flatMap, List.mem_map, List.mem_filter, decide_eq_true_iff]
      exact ⟨row, mem_transactions_of_attached h, proposal, ⟨hproposal, hid⟩, rfl⟩
    · rw [decide_eq_true_iff]
      exact (congrArg host.lower h.stored).trans h.lower
    · intro other hother hhash
      rw [SettlementTables.pending, List.mem_map] at hother
      obtain ⟨pair, hpair, rfl⟩ := hother
      have hmem : pair.1 ∈ tables.transactions := by
        have hjoin := (List.mem_filter.mp hpair).1
        simp only [join, List.mem_flatMap, List.mem_map] at hjoin
        obtain ⟨left, hleft, _, _, rfl⟩ := hjoin
        exact hleft
      rw [decide_eq_true_iff] at hhash
      rw [eq_of_attached h hmem hhash]
  rw [reportedReorgs, hfind]
  rfl

end Answers

/-! ## The answers of the memory store -/

/-- What a receipt is reported as. -/
def reported (hash : Str) (chainId : Nat) (receipt : EvmReceipt) :
    Str × Str × Nat × Nat × Bool × Nat :=
  (hash, receipt.blockHash, receipt.blockNumber, chainId, receipt.success, receipt.confirmations)

/-- What the memory store knows of a registered transaction. -/
structure Remembers (hash : Str) (chainId : Nat) (receipts : List EvmReceipt)
    (memory : MemorySettlementStore) (item : TrackedTransaction) : Prop where
  entry : memory.transactions.get? hash = some item
  filed : ∀ key other, memory.transactions.get? key = some other → other.transactionHash = key
  pending : item.status = .pending
  chain : item.chainId = chainId
  blockHash : item.blockHash = receipts.getLast?.map EvmReceipt.blockHash
  observation : item.observation.map timeless = receipts.getLast?.map (reported hash chainId)

section Memory

variable {hash : Str} {chainId : Nat} {receipts : List EvmReceipt}
  {memory : MemorySettlementStore} {item : TrackedTransaction}

theorem remembers_of_registered {host : Host} {proposalId : Uuid} {adapters : Adapters}
    {row : TransactionRow} (h : Registered host hash proposalId chainId adapters row) :
    Remembers hash chainId [] adapters.memory (.new hash proposalId chainId) :=
  ⟨h.tracked, h.filed, rfl, rfl, rfl, rfl⟩

theorem observation_of_remembers (h : Remembers hash chainId receipts memory item) :
    (memory.observation hash).map timeless = receipts.getLast?.map (reported hash chainId) := by
  rw [MemorySettlementStore.observation, h.entry, Option.bind_some, h.observation]

theorem reportedReorgs_of_remembers (h : Remembers hash chainId receipts memory item) :
    reportedReorgs memory.pending hash = some item.reorgCount := by
  have hfind : (memory.pending.find? fun other => other.transactionHash = hash) = some item := by
    apply find?_eq_some_of_unique
    · rw [MemorySettlementStore.pending, List.mem_filter, decide_eq_true_iff]
      exact ⟨List.mem_map_of_mem (Dict.mem_entries_of_get? h.entry), h.pending⟩
    · rw [decide_eq_true_iff]
      exact h.filed hash item h.entry
    · intro other hother hhash
      obtain ⟨⟨key, value⟩, hentry, rfl⟩ := List.mem_map.mp (List.mem_filter.mp hother).1
      have hget := Dict.get?_of_mem_entries hentry
      rw [decide_eq_true_iff, h.filed key value hget] at hhash
      rw [hhash, h.entry] at hget
      exact (Option.some.inj hget).symm
  rw [reportedReorgs, hfind]
  rfl

/-- A call: the record is that of the new receipt, and the count grows when the block is
another one. -/
theorem remembers_observe (h : Remembers hash chainId receipts memory item)
    (receipt : EvmReceipt) (now : Datetime) :
    ∃ after, Remembers hash chainId (receipts ++ [receipt])
        ((memory.observe hash receipt now).toOption.getD memory) after ∧
      after.reorgCount = if item.blockHash ≠ none ∧ item.blockHash ≠ some receipt.blockHash then
        item.reorgCount + 1 else item.reorgCount := by
  rw [MemorySettlementStore.observe, h.entry]
  refine ⟨_, ⟨Dict.get?_set_self _ _ _, ?_, h.pending, h.chain, ?_, ?_⟩, rfl⟩
  · intro key other hother
    change (memory.transactions.set hash _).get? key = some other at hother
    by_cases hkey : key = hash
    · rw [hkey, Dict.get?_set_self] at hother
      obtain rfl := Option.some.inj hother
      rw [hkey]
      exact h.filed hash item h.entry
    · rw [Dict.get?_set_ne _ hkey] at hother
      exact h.filed key other hother
  · rw [List.getLast?_concat]
    rfl
  · rw [List.getLast?_concat]
    have hhash := h.filed hash item h.entry
    have hchain := h.chain
    simp [TrackedTransaction.observation, timeless, reported, hhash, hchain]

end Memory

/-! ## In step -/

/-- When the two stores stay in step on a receipt. -/
structure Consistent (receipts : List EvmReceipt) (receipt : EvmReceipt) : Prop where
  storable : Storable receipt
  number : ∀ earlier ∈ receipts, earlier.blockHash = receipt.blockHash →
    earlier.blockNumber = receipt.blockNumber
  noReturn : receipt.blockHash ∈ receipts.map EvmReceipt.blockHash →
    receipts.getLast?.map EvmReceipt.blockHash = some receipt.blockHash

/-- The stores after receipts on which they stayed in step. -/
structure InStep (host : Host) (hash : Str) (chainId : Nat) (row : TransactionRow)
    (receipts : List EvmReceipt) (adapters : Adapters) (item : TrackedTransaction) : Prop where
  attached : Attached host hash chainId row adapters.durable
  remembers : Remembers hash chainId receipts adapters.memory item
  rows : Rows receipts (adapters.durable.settlementsOf row.id)
  numbers : ∀ old ∈ adapters.durable.settlementsOf row.id, ∀ receipt ∈ receipts,
    receipt.blockHash = old.blockHash → receipt.blockNumber = old.blockNumber
  reorgs : item.reorgCount = (adapters.durable.settlementsOf row.id).length - 1

section Step

variable {host : Host} {hash : Str} {chainId : Nat} {row : TransactionRow}
  {receipts : List EvmReceipt} {adapters : Adapters} {item : TrackedTransaction}

theorem observe_eq_ok {tables after : SettlementTables} {receipt : EvmReceipt} {id : Uuid}
    {now : Datetime} (h : tables.observe hash receipt id now = .ok after) :
    after.lifecycle = tables.lifecycle ∧ after.transactions = tables.transactions ∧
      ∀ other ∈ after.settlements.map SettlementRow.id,
        other ∈ tables.settlements.map SettlementRow.id ∨ other = id := by
  simp only [SettlementTables.observe, orRaise_bind_eq_ok] at h
  obtain ⟨found, _, blockHash, _, hinsert⟩ := h
  obtain ⟨hlifecycle, htransactions, hsettlements⟩ := insertSettlement_eq_ok hinsert
  refine ⟨hlifecycle, htransactions, ?_⟩
  intro other hother
  have hretired : (tables.retireOthers found.id receipt.blockHash).settlements.map
      SettlementRow.id = tables.settlements.map SettlementRow.id :=
    map_updateWhere (by intro row; rfl) _
  rw [hsettlements, map_upsert (by intro row; rfl), List.mem_append, hretired] at hother
  apply hother.imp_right
  intro hnew
  split_ifs at hnew
  · cases hnew
  · exact List.mem_singleton.mp hnew

theorem attached_observe (h : Attached host hash chainId row adapters.durable)
    (call : Observed) : Attached host hash chainId row (adapters.observe hash call).durable := by
  change Attached host hash chainId row
    ((adapters.durable.observe hash call.receipt call.id call.now).toOption.getD adapters.durable)
  cases hobserve : adapters.durable.observe hash call.receipt call.id call.now with
  | error error => exact h
  | ok after =>
    obtain ⟨hlifecycle, htransactions, _⟩ := observe_eq_ok hobserve
    change Attached host hash chainId row after
    exact ⟨htransactions ▸ h.only, h.stored, h.lower, h.chain, h.submittedAt,
      hlifecycle ▸ h.submitted⟩

/-- Stores that answer alike have stored the receipt. -/
theorem storable_of_mirrors {last : EvmReceipt}
    (hattached : Attached host hash chainId row adapters.durable)
    (hremembers : Remembers hash chainId (receipts ++ [last]) adapters.memory item)
    (h : Mirrors host hash row.id adapters (some last)) : Storable last := by
  obtain ⟨canonical, hcanonical, hhash⟩ := List.map_eq_singleton_iff.mp h.canonical
  change canonical.blockHash = last.blockHash at hhash
  have hmem : canonical ∈ adapters.durable.settlements := by
    have hmem : canonical ∈ [canonical] := List.mem_singleton_self canonical
    rw [← hcanonical] at hmem
    exact (mem_settlementsOf.mp (List.mem_filter.mp hmem).1).1
  obtain ⟨hchars, hnumber, hconfirmations⟩ := adapters.durable.settlementChecks canonical hmem
  have hobservation := h.observation
  rw [observation_of_remembers hremembers, observation_of_attached hattached, hcanonical,
    List.getLast?_concat] at hobservation
  simp only [Option.map_some, List.map_singleton, List.argmax_singleton, reported, timeless,
    Option.some.injEq, Prod.mk.injEq] at hobservation
  obtain ⟨_, _, hsameNumber, _, _, hsameConfirmations⟩ := hobservation
  exact ⟨char66_eq_self_iff.mp (hhash ▸ hchars), hsameNumber ▸ hnumber,
    hsameConfirmations ▸ hconfirmations⟩

/-- The counts of both stores after a call. -/
theorem reorgs_iff (h : InStep host hash chainId row receipts adapters item) (call : Observed) :
    (if item.blockHash ≠ none ∧ item.blockHash ≠ some call.receipt.blockHash then
        item.reorgCount + 1 else item.reorgCount) =
        (recorded (newRow row.id call) (adapters.durable.settlementsOf row.id)).length - 1 ↔
      (call.receipt.blockHash ∈ receipts.map EvmReceipt.blockHash →
        receipts.getLast?.map EvmReceipt.blockHash = some call.receipt.blockHash) := by
  have hlength := length_recorded (newRow row.id call) (adapters.durable.settlementsOf row.id)
  have hcount := h.reorgs
  rw [h.remembers.blockHash, ← h.rows.hashes]
  rcases List.eq_nil_or_concat receipts with rfl | ⟨earlier, last, rfl⟩
  · rw [rows_eq_nil h.rows] at hcount hlength ⊢
    simp only [List.map_nil, List.not_mem_nil, if_false, List.length_nil] at hlength
    simp [hlength, hcount]
  · have hlast : last.blockHash ∈
        (adapters.durable.settlementsOf row.id).map SettlementRow.blockHash := by
      rw [h.rows.hashes]
      simp
    have hpositive := List.length_pos_of_mem hlast
    rw [List.length_map] at hpositive
    rw [List.concat_eq_append, List.getLast?_concat, Option.map_some]
    by_cases hmem : (newRow row.id call).blockHash ∈
        (adapters.durable.settlementsOf row.id).map SettlementRow.blockHash
    · rw [if_pos hmem] at hlength
      change call.receipt.blockHash ∈ _ at hmem
      by_cases hsame : last.blockHash = call.receipt.blockHash
      · simp [hsame, hlength, hcount]
      · simp only [ne_eq, reduceCtorEq, not_false_eq_true, Option.some.injEq, hsame, hmem,
          if_true, true_and, true_imp_iff, iff_false]
        omega
    · rw [if_neg hmem] at hlength
      change call.receipt.blockHash ∉ _ at hmem
      have hsame : last.blockHash ≠ call.receipt.blockHash := fun hsame => hmem (hsame ▸ hlast)
      simp only [ne_eq, reduceCtorEq, not_false_eq_true, Option.some.injEq, hsame, hmem,
        if_true, true_and, false_imp_iff, iff_true]
      omega

theorem mirrors_of_inStep (h : InStep host hash chainId row receipts adapters item)
    (hlower : ∀ receipt ∈ receipts, host.lower receipt.blockHash = receipt.blockHash) :
    Mirrors host hash row.id adapters receipts.getLast? := by
  have hkeys := nodup_blockHashes adapters.durable row.id
  have hreorgs : reportedReorgs adapters.memory.pending hash =
      reportedReorgs (adapters.durable.pending host) hash := by
    rw [reportedReorgs_of_remembers h.remembers, reportedReorgs_of_attached h.attached,
      length_filter_retired h.rows hkeys, h.reorgs]
  have hmemory := observation_of_remembers h.remembers
  have hdurable := observation_of_attached h.attached
  rcases List.eq_nil_or_concat receipts with rfl | ⟨earlier, last, rfl⟩
  · rw [rows_eq_nil h.rows] at hdurable
    refine ⟨?_, ?_, hreorgs⟩
    · rw [hmemory, hdurable]
      rfl
    · rw [rows_eq_nil h.rows]
      rfl
  · rw [List.concat_eq_append] at h hmemory hlower ⊢
    obtain ⟨canonical, hmem, hhash, hcanonical⟩ := filter_canonical h.rows hkeys
    rw [List.getLast?_concat] at hmemory ⊢
    refine ⟨?_, ?_, hreorgs⟩
    · have hlast : last ∈ earlier ++ [last] := by simp
      have hnumber := h.numbers canonical hmem last hlast hhash.symm
      obtain ⟨hsuccess, hconfirmations⟩ :=
        h.rows.latest canonical hmem last List.getLast?_concat hhash
      rw [hmemory, hdurable, hcanonical]
      simp only [Option.map_some, List.map_singleton, List.argmax_singleton, reported, timeless,
        hhash, hlower last hlast, hnumber, hsuccess, hconfirmations, h.attached.chain]
    · rw [hcanonical, List.map_singleton, hhash]
      rfl

theorem inStep_observe (h : InStep host hash chainId row receipts adapters item)
    {call : Observed} (hid : call.id ∉ adapters.durable.settlements.map SettlementRow.id)
    (hconsistent : Consistent receipts call.receipt) :
    ∃ after, InStep host hash chainId row (receipts ++ [call.receipt])
      (adapters.observe hash call) after := by
  obtain ⟨after, hremembers, hcount⟩ := remembers_observe h.remembers call.receipt call.seenAt
  obtain ⟨tables, hobserve, _, _, hrows⟩ :=
    exists_observe (transaction_of_attached h.attached) hconsistent.storable hid
  have hdurable : (adapters.observe hash call).durable = tables := by
    rw [Adapters.observe, hobserve]
    rfl
  refine ⟨after, attached_observe h.attached call, hremembers, ?_, ?_, ?_⟩
  · rw [hdurable, hrows]
    exact rows_recorded h.rows row.id call
  · rw [hdurable, hrows]
    intro found hfound receipt hreceipt hhash
    rcases (mem_recorded rfl hfound).2.2 with ⟨old, hold, hsame, hnumber⟩ | ⟨rfl, habsent⟩
    · rw [hnumber]
      rcases List.mem_append.mp hreceipt with hreceipt | hreceipt
      · exact h.numbers old hold receipt hreceipt (hhash.trans hsame)
      · obtain rfl := List.mem_singleton.mp hreceipt
        have hseen := (h.rows.hashes old.blockHash).mp (List.mem_map_of_mem hold)
        obtain ⟨earlier, hearlier, hearlierHash⟩ := List.mem_map.mp hseen
        rw [← hconsistent.number earlier hearlier (hearlierHash.trans (hsame.symm.trans hhash.symm))]
        exact h.numbers old hold earlier hearlier hearlierHash
    · rcases List.mem_append.mp hreceipt with hreceipt | hreceipt
      · rw [h.rows.hashes, ← hhash] at habsent
        exact absurd (List.mem_map_of_mem hreceipt) habsent
      · obtain rfl := List.mem_singleton.mp hreceipt
        rfl
  · rw [hcount, hdurable, hrows]
    exact (reorgs_iff h call).mpr hconsistent.noReturn

theorem consistent_of_mirrors (h : InStep host hash chainId row receipts adapters item)
    {call : Observed} (hid : call.id ∉ adapters.durable.settlements.map SettlementRow.id)
    (hmirrors : Mirrors host hash row.id (adapters.observe hash call) (some call.receipt)) :
    Consistent receipts call.receipt := by
  obtain ⟨after, hremembers, hcount⟩ := remembers_observe h.remembers call.receipt call.seenAt
  change Remembers hash chainId _ (adapters.observe hash call).memory after at hremembers
  have hattached := attached_observe h.attached call
  have hstorable := storable_of_mirrors hattached hremembers hmirrors
  obtain ⟨tables, hobserve, _, _, hrows⟩ :=
    exists_observe (transaction_of_attached h.attached) hstorable hid
  have hdurable : (adapters.observe hash call).durable = tables := by
    rw [Adapters.observe, hobserve]
    rfl
  have hkeys := nodup_blockHashes tables row.id
  have hrecorded := rows_recorded h.rows row.id call
  rw [← hrows] at hrecorded
  refine ⟨hstorable, ?_, ?_⟩
  · intro earlier hearlier hhash
    obtain ⟨canonical, hmem, hcanonicalHash, hcanonical⟩ := filter_canonical hrecorded hkeys
    have hobservation := hmirrors.observation
    rw [observation_of_remembers hremembers, observation_of_attached hattached, hdurable,
      hcanonical, List.getLast?_concat] at hobservation
    simp only [Option.map_some, List.map_singleton, List.argmax_singleton, reported, timeless,
      Option.some.injEq, Prod.mk.injEq] at hobservation
    obtain ⟨_, _, hnumber, _⟩ := hobservation
    rw [hrows] at hmem
    rcases (mem_recorded rfl hmem).2.2 with ⟨old, hold, hsame, hsameNumber⟩ | ⟨rfl, habsent⟩
    · rw [hnumber, hsameNumber]
      exact h.numbers old hold earlier hearlier (hhash.trans (hcanonicalHash.symm.trans hsame))
    · rw [h.rows.hashes] at habsent
      have hseen : call.receipt.blockHash ∈ receipts.map EvmReceipt.blockHash :=
        hhash ▸ List.mem_map_of_mem hearlier
      exact absurd hseen habsent
  · have hreorgs := hmirrors.reorgs
    rw [reportedReorgs_of_remembers hremembers, reportedReorgs_of_attached hattached, hdurable,
      length_filter_retired hrecorded hkeys, hcount, hrows, Option.some.injEq] at hreorgs
    exact (reorgs_iff h call).mp hreorgs

end Step

/-! ## Sequences of calls -/

/-- Each receipt fits its columns, a block keeps its number, and no block comes back after
another one was observed. -/
def Steady (receipts : List EvmReceipt) : Prop :=
  ∀ earlier receipt, earlier ++ [receipt] <+: receipts → Consistent earlier receipt

theorem steady_nil : Steady [] := by
  intro earlier receipt hwithin
  simp at hwithin

theorem steady_concat {receipt : EvmReceipt} :
    Steady (receipts ++ [receipt]) ↔ Steady receipts ∧ Consistent receipts receipt := by
  constructor
  · intro h
    refine ⟨?_, h receipts receipt List.prefix_rfl⟩
    intro earlier other hwithin
    exact h earlier other (hwithin.trans (List.prefix_append _ _))
  · rintro ⟨hsteady, hconsistent⟩ earlier other hwithin
    rcases List.prefix_concat_iff.mp hwithin with hsame | hwithin
    · obtain ⟨rfl, hother⟩ := List.append_inj' hsame rfl
      obtain rfl := List.singleton_inj.mp hother
      exact hconsistent
    · exact hsteady earlier other hwithin

section Calls

variable {host : Host} {hash : Str} {proposalId : Uuid} {chainId : Nat} {adapters : Adapters}
  {row : TransactionRow}

/-- The identifiers in use after calls. -/
theorem ids_after (calls : List Observed) {id : Uuid}
    (h : id ∈ (adapters.after hash calls).durable.settlements.map SettlementRow.id) :
    id ∈ adapters.durable.settlements.map SettlementRow.id ∨ id ∈ calls.map Observed.id := by
  induction calls using List.reverseRecOn with
  | nil => exact .inl h
  | append_singleton calls call ih =>
    rw [after_concat] at h
    rw [List.map_append, List.mem_append, List.map_singleton, List.mem_singleton]
    cases hobserve : (adapters.after hash calls).durable.observe hash call.receipt call.id
        call.now with
    | error error =>
      rw [Adapters.observe, hobserve] at h
      exact (ih h).imp_right .inl
    | ok tables =>
      rw [Adapters.observe, hobserve] at h
      rcases (observe_eq_ok hobserve).2.2 id h with hold | rfl
      · exact (ih hold).imp_right .inl
      · exact .inr (.inr rfl)

theorem not_mem_ids_after {calls : List Observed} {call : Observed}
    (hids : ((calls ++ [call]).map Observed.id).Nodup)
    (hfresh : call.id ∉ adapters.durable.settlements.map SettlementRow.id) :
    call.id ∉ (adapters.after hash calls).durable.settlements.map SettlementRow.id := by
  intro hmem
  rcases ids_after calls hmem with hold | hused
  · exact hfresh hold
  · rw [List.map_append, List.map_singleton, List.nodup_append] at hids
    exact hids.2.2 _ hused _ (List.mem_singleton_self _) rfl

theorem inStep_after (h : Registered host hash proposalId chainId adapters row)
    {calls : List Observed} (hids : (calls.map Observed.id).Nodup)
    (hfresh : ∀ call ∈ calls, call.id ∉ adapters.durable.settlements.map SettlementRow.id)
    (hsteady : Steady (calls.map Observed.receipt)) :
    ∃ item, InStep host hash chainId row (calls.map Observed.receipt)
      (adapters.after hash calls) item := by
  induction calls using List.reverseRecOn with
  | nil =>
    refine ⟨_, attached_of_registered h, remembers_of_registered h, ?_, ?_, ?_⟩
    · change Rows [] (adapters.durable.settlementsOf row.id)
      rw [h.unobserved]
      exact rows_nil
    · intro _ _ receipt hreceipt
      cases hreceipt
    · change 0 = (adapters.durable.settlementsOf row.id).length - 1
      rw [h.unobserved]
      rfl
  | append_singleton calls call ih =>
    have hcall : call ∈ calls ++ [call] := by simp
    have hid : call.id ∉ (adapters.after hash calls).durable.settlements.map SettlementRow.id :=
      not_mem_ids_after hids (hfresh call hcall)
    rw [List.map_append, List.nodup_append] at hids
    rw [List.map_append, List.map_singleton, steady_concat] at hsteady
    obtain ⟨item, hinStep⟩ := ih hids.1
      (fun other hother => hfresh other (List.mem_append_left _ hother)) hsteady.1
    rw [after_concat, List.map_append, List.map_singleton]
    exact inStep_observe hinStep hid hsteady.2

/-- Under every sequence of calls the stores stay in step throughout exactly when the
receipts are steady. -/
theorem mirrors_iff_steady (h : Registered host hash proposalId chainId adapters row)
    {calls : List Observed}
    (hlower : ∀ call ∈ calls, host.lower call.receipt.blockHash = call.receipt.blockHash)
    (hids : (calls.map Observed.id).Nodup)
    (hfresh : ∀ call ∈ calls, call.id ∉ adapters.durable.settlements.map SettlementRow.id) :
    (∀ made, made <+: calls → Mirrors host hash row.id (adapters.after hash made)
      (made.map Observed.receipt).getLast?) ↔ Steady (calls.map Observed.receipt) := by
  induction calls using List.reverseRecOn with
  | nil =>
    refine ⟨fun _ => steady_nil, fun hsteady made hmade => ?_⟩
    rw [List.prefix_nil.mp hmade]
    obtain ⟨item, hinStep⟩ := inStep_after h hids hfresh hsteady
    exact mirrors_of_inStep hinStep (by simp)
  | append_singleton calls call ih =>
    have hcall : call ∈ calls ++ [call] := by simp
    have hid : call.id ∉ (adapters.after hash calls).durable.settlements.map SettlementRow.id :=
      not_mem_ids_after hids (hfresh call hcall)
    have hkeep : ∀ other ∈ calls, other ∈ calls ++ [call] := by simp +contextual
    have hidsBefore := hids
    rw [List.map_append, List.nodup_append] at hidsBefore
    have hbefore := ih (fun other hother => hlower other (hkeep other hother)) hidsBefore.1
      (fun other hother => hfresh other (hkeep other hother))
    constructor
    · intro hmirrors
      have hsteady := hbefore.mp fun made hmade =>
        hmirrors made (hmade.trans (List.prefix_append _ _))
      obtain ⟨item, hinStep⟩ := inStep_after h hidsBefore.1
        (fun other hother => hfresh other (hkeep other hother)) hsteady
      have hlast := hmirrors _ List.prefix_rfl
      rw [after_concat, List.map_append, List.map_singleton, List.getLast?_concat] at hlast
      rw [List.map_append, List.map_singleton, steady_concat]
      exact ⟨hsteady, consistent_of_mirrors hinStep hid hlast⟩
    · intro hsteady made hmade
      rcases List.prefix_concat_iff.mp hmade with rfl | hmade
      · obtain ⟨item, hinStep⟩ := inStep_after h hids hfresh hsteady
        apply mirrors_of_inStep hinStep
        intro receipt hreceipt
        obtain ⟨other, hother, rfl⟩ := List.mem_map.mp hreceipt
        exact hlower other hother
      · rw [List.map_append, List.map_singleton, steady_concat] at hsteady
        exact hbefore.mpr hsteady.1 made hmade

end Calls

section Samples

open SignedEffect BudgetSafety PostgresSafety

/-- `0x` and sixty-four times a digit. -/
def hashOf (digit : Char) : Str := '0' :: 'x' :: List.replicate 64 digit

def sampleRow : TransactionRow where
  id := 0x19f7518fe0070008000000000000021
  proposalId := firstProposal.proposalId.val
  chainId := 1
  transactionHash := hashOf 'a'
  submittedAt := some sampleNow

def submittedDatabase : Database :=
  sampleDatabase.setState firstProposal.proposalId.val .submitted sampleNow

/-- One submitted transaction, registered with both stores. -/
def sampleAdapters : Adapters where
  memory := ⟨Dict.empty.set (hashOf 'a') (.new (hashOf 'a') firstProposal.proposalId.val 1),
    Dict.empty.set firstProposal.proposalId.val (hashOf 'a')⟩
  durable := {
    lifecycle := submittedDatabase
    transactions := [sampleRow]
    settlements := []
    transactionKey := List.nodup_singleton _
    transactionProposals := List.nodup_singleton _
    proposalReferences := by decide +kernel
    settlementIds := List.nodup_nil
    settlementKeys := List.nodup_nil
    settlementChecks := List.forall_mem_nil _
    transactionReferences := List.forall_mem_nil _ }

theorem registered_sampleAdapters :
    Registered postgresHost (hashOf 'a') firstProposal.proposalId.val 1 sampleAdapters
      sampleRow where
  tracked := by decide +kernel
  filed := by
    intro key item hitem
    rw [sampleAdapters, Dict.get?_set] at hitem
    split_ifs at hitem with hkey
    · obtain rfl := Option.some.inj hitem
      exact hkey.symm
    · cases hitem
  accepted := by decide +kernel
  only := by decide +kernel
  stored := rfl
  lower := by decide +kernel
  submitted := by decide +kernel
  unobserved := rfl

/-- The receipt of a block, by its digit, at some microseconds past the sample time. -/
def sampleCall (elapsed : Nat) (digit : Char) (blockNumber confirmations : Nat) : Observed where
  receipt := ⟨hashOf 'a', hashOf digit, blockNumber, true, confirmations⟩
  seenAt := Fin.ofNat _ (sampleNow.val + elapsed)
  id := BitVec.ofNat 128 elapsed
  now := Fin.ofNat _ (sampleNow.val + elapsed)

/-- A block gains a confirmation, and the chain turns to another one. -/
def steadyCalls : List Observed :=
  [sampleCall 1 'b' 10 1, sampleCall 2 'b' 10 2, sampleCall 3 'c' 11 1]

theorem steadyCalls_mirrored :
    reportedReorgs (sampleAdapters.after (hashOf 'a') steadyCalls).memory.pending (hashOf 'a') =
        some 1 ∧
      ∀ made, made <+: steadyCalls → Mirrors postgresHost (hashOf 'a') sampleRow.id
        (sampleAdapters.after (hashOf 'a') made) (made.map Observed.receipt).getLast? := by
  have hsteady : Steady (steadyCalls.map Observed.receipt) := by
    have hfirst : Steady ([] ++ [(sampleCall 1 'b' 10 1).receipt]) :=
      steady_concat.mpr ⟨steady_nil, ⟨by decide, by decide, by decide⟩, by simp, by simp⟩
    have hsecond := steady_concat.mpr ⟨hfirst,
      (⟨⟨by decide, by decide, by decide⟩, by simp [sampleCall], by simp [sampleCall]⟩ :
        Consistent _ (sampleCall 2 'b' 10 2).receipt)⟩
    exact steady_concat.mpr ⟨hsecond, ⟨by decide, by decide, by decide⟩, by decide +kernel,
      by decide +kernel⟩
  exact ⟨by decide +kernel, (mirrors_iff_steady registered_sampleAdapters
    (by decide +kernel) (by decide +kernel) (by simp [sampleAdapters])).mpr hsteady⟩

/-- The chain turns to another block and back. -/
def returningCalls : List Observed :=
  [sampleCall 1 'b' 10 1, sampleCall 2 'c' 10 1, sampleCall 3 'b' 10 3]

/-- A block is reported under another number. -/
def renumberedCalls : List Observed := [sampleCall 1 'b' 10 1, sampleCall 2 'b' 12 2]

/-- The memory store counts two changes where one row is not canonical, and it takes the new
number where the row keeps the old one. -/
theorem adapters_differ :
    Registered postgresHost (hashOf 'a') firstProposal.proposalId.val 1 sampleAdapters
        sampleRow ∧
      reportedReorgs (sampleAdapters.after (hashOf 'a') returningCalls).memory.pending
        (hashOf 'a') = some 2 ∧
      reportedReorgs ((sampleAdapters.after (hashOf 'a') returningCalls).durable.pending
        postgresHost) (hashOf 'a') = some 1 ∧
      ((sampleAdapters.after (hashOf 'a') renumberedCalls).memory.observation
        (hashOf 'a')).map (·.blockNumber) = some 12 ∧
      ((sampleAdapters.after (hashOf 'a') renumberedCalls).durable.observation postgresHost
        (hashOf 'a')).map (·.blockNumber) = some 10 :=
  ⟨registered_sampleAdapters, by decide +kernel⟩

end Samples

end AegisLedger.Gateway.SettlementAdapters
