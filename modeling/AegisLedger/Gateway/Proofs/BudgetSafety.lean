import AegisLedger.Gateway.Proofs.AttestationSoundness
import AegisLedger.Gateway.State
import AegisLedger.Support.Run
import AegisLedger.Support.Window

/-!
# Budget safety of the in-memory store

Every reservation that still counts is seen as an entry of a sliding window:
its instant of creation, and its amount or the number one.  A transition only
drops entries, because a reservation is settled from an active state; an admitted
proposal appends one entry, and the evaluation that admitted it counted every
entry of any window the new one lies in.  The second part rests on the comparison
of ages, which is exact as long as the window is short enough for a double to tell
its length from the microsecond below it.
-/

namespace AegisLedger.Gateway.BudgetSafety

open AegisLedger.Support Checks Dict Tally Window
open MemoryStateStore

/-! ## Ages -/

/-- The windows whose ages `totalSecondsLt` compares exactly: below `2^34` seconds a
double resolves the microsecond, and no age reaches a window longer than the range of
`datetime`. -/
def ExactWindow (seconds : Nat) : Prop := seconds ≤ 2 ^ 34 ∨ 315537897600 < seconds

theorem totalSecondsLt_of_lt {delta : Int} {seconds : Nat} (hexact : ExactWindow seconds)
    (hrange : delta < 315537897600000000) (hlt : delta < seconds * 1000000) :
    totalSecondsLt delta seconds = true := by
  by_cases hneg : delta < 0
  · simp [totalSecondsLt, hneg]
  · have hdivide : Binary64.trueDivide delta.toNat 1000000 < seconds * Binary64.scale := by
      rcases hexact with hshort | hlong
      · have hgap : delta.toNat + 1 ≤ seconds * 1000000 := by omega
        exact Binary64.trueDivide_lt hgap (by decide) hshort (by decide) (by decide)
      · have hgap : delta.toNat + 1000000 ≤ 315537897601 * 1000000 := by omega
        have hrounded := Binary64.trueDivide_lt (k := 39) hgap (by decide) (by decide)
          (by decide) (by decide)
        exact lt_of_lt_of_le hrounded (Nat.mul_le_mul_right _ hlong)
    simp [totalSecondsLt, hdivide]

/-! ## Reservations as entries of a window -/

/-- The entry of a reservation that counts against `scope`. -/
def entry (weight : Reservation → Nat) (scope : Scope) (item : Reservation) :
    Option (Int × Nat) :=
  if (item.active || item.settled) && decide (item.scope = scope) then
    some ((item.createdAt.val : Int), weight item)
  else none

def entries (weight : Reservation → Nat) (store : MemoryStateStore) (scope : Scope) :
    List (Int × Nat) :=
  store.reservations.values.filterMap (entry weight scope)

theorem entries_eq_map_activeIn (weight : Reservation → Nat) (store : MemoryStateStore)
    (scope : Scope) :
    entries weight store scope =
      (store.activeIn scope).map fun item => ((item.createdAt.val : Int), weight item) := by
  rw [entries, activeIn]
  induction store.reservations.values with
  | nil => rfl
  | cons item items ih =>
    rw [List.filterMap_cons, List.filter_cons, ih, entry]
    by_cases hcounts : ((item.active || item.settled) && decide (item.scope = scope)) = true
    · rw [if_pos hcounts, if_pos hcounts]
      rfl
    · rw [if_neg hcounts, if_neg hcounts]

/-- The instants that an evaluation at `now` counts as younger than `seconds`. -/
def younger (now : Datetime) (seconds : Nat) (instant : Int) : Bool :=
  totalSecondsLt ((now.val : Int) - instant) seconds

theorem total_entries (p : Int → Bool) (weight : Reservation → Nat) (store : MemoryStateStore)
    (scope : Scope) :
    total p (entries weight store scope) =
      (((store.activeIn scope).filter fun item => p item.createdAt.val).map weight).sum := by
  rw [entries_eq_map_activeIn, total, List.filter_map, List.map_map]
  rfl

theorem total_younger_amount (store : MemoryStateStore) (scope : Scope) (now : Datetime)
    (seconds : Nat) :
    total (younger now seconds) (entries Reservation.amount store scope) =
      spentWithin (store.activeIn scope) now seconds :=
  total_entries _ _ _ _

theorem total_one (p : Int → Bool) (store : MemoryStateStore) (scope : Scope) :
    total p (entries (fun _ => 1) store scope) =
      ((store.activeIn scope).filter fun item => p item.createdAt.val).length := by
  rw [total_entries]
  simp

variable {store : MemoryStateStore}

theorem younger_of_lt {weight : Reservation → Nat} {scope : Scope} {now : Datetime}
    {seconds : Nat} (hexact : ExactWindow seconds) {e : Int × Nat}
    (he : e ∈ entries weight store scope) (hlt : (now.val : Int) - seconds * 1000000 < e.1) :
    younger now seconds e.1 = true := by
  rw [entries_eq_map_activeIn, List.mem_map] at he
  obtain ⟨item, _, rfl⟩ := he
  have hnow := now.isLt
  apply totalSecondsLt_of_lt hexact
  · dsimp only
    omega
  · dsimp only at hlt ⊢
    omega

/-! ## What the calls do -/

/-- What an admitted proposal puts into the store. -/
def admitted (store : MemoryStateStore) (proposal : ProposalV1) (readings : ReserveReadings)
    (reservationId : Uuid) : MemoryStateStore :=
  (store.setReservation reservationId
    (newReservation proposal readings.reservation reservationId)).putRecord
      (proposal.principalId.val, proposal.idempotencyKey.val)
      ⟨proposal, .reserved, store.version + 1, [], some reservationId,
        readings.recordCreated, readings.recordUpdated⟩

/-- What a refused proposal puts into the store. -/
def denied (store : MemoryStateStore) (proposal : ProposalV1) (readings : ReserveReadings)
    (reasons : List ReasonCode) : MemoryStateStore :=
  store.putRecord (proposal.principalId.val, proposal.idempotencyKey.val)
    ⟨proposal, .denied, store.version + 1, reasons, none,
      readings.recordCreated, readings.recordUpdated⟩

variable {after : MemoryStateStore} {reservationId : Uuid}

theorem reserve_cases {proposal : ProposalV1} {policy : PolicyV1} {readings : ReserveReadings}
    {result : ReservationResult}
    (h : store.reserve proposal policy readings reservationId = .ok (result, after)) :
    (∃ duplicateId record,
        store.idempotency.get? (proposal.principalId.val, proposal.idempotencyKey.val) =
          some duplicateId ∧
        store.records.get? duplicateId = some record ∧ result = ⟨record, false⟩ ∧
        after = store) ∨
      (store.idempotency.get? (proposal.principalId.val, proposal.idempotencyKey.val) = none ∧
        ((∃ reasons, store.evaluate proposal policy readings.deadline readings.evaluation =
              reasons ∧ reasons ≠ [] ∧
            result = ⟨⟨proposal, .denied, store.version + 1, reasons, none,
              readings.recordCreated, readings.recordUpdated⟩, true⟩ ∧
            after = denied store proposal readings reasons) ∨
          (store.evaluate proposal policy readings.deadline readings.evaluation = [] ∧
            result = ⟨⟨proposal, .reserved, store.version + 1, [], some reservationId,
              readings.recordCreated, readings.recordUpdated⟩, true⟩ ∧
            after = admitted store proposal readings reservationId))) := by
  unfold reserve at h
  dsimp only at h
  split at h
  · rename_i duplicateId hduplicate
    rw [orRaise_bind_eq_ok] at h
    obtain ⟨record, hrecord, h⟩ := h
    rw [pure_eq_ok, Prod.mk.injEq] at h
    exact Or.inl ⟨duplicateId, record, hduplicate, hrecord, h.1.symm, h.2.symm⟩
  · rename_i hnew
    right
    refine ⟨hnew, ?_⟩
    split at h
    · rename_i hreasons
      rw [pure_eq_ok, Prod.mk.injEq] at h
      exact Or.inr ⟨hreasons, h.1.symm, h.2.symm⟩
    · rename_i hreasons
      rw [pure_eq_ok, Prod.mk.injEq] at h
      exact Or.inl ⟨_, rfl, hreasons, h.1.symm, h.2.symm⟩

/-- The store after a transition whose effect on the reservations is `applied`. -/
def moved (applied : MemoryStateStore) (proposalId : Uuid) (record : ProposalRecord)
    (target : LifecycleState) (now : Datetime) : MemoryStateStore :=
  { applied with
    records := applied.records.set proposalId { record with
      state := target, stateVersion := applied.version + 1, updatedAt := now }
    version := applied.version + 1 }

variable {proposalId : Uuid} {target : LifecycleState}

theorem transition_cases {now : Datetime} {updated : ProposalRecord}
    (h : store.transition proposalId target now = .ok (updated, after)) :
    ∃ record applied, store.records.get? proposalId = some record ∧
      target ∈ allowedTransitions record.state ∧
      store.applyTarget record target = .ok applied ∧
      after = moved applied proposalId record target now := by
  rw [transition, orRaise_bind_eq_ok] at h
  obtain ⟨record, hrecord, h⟩ := h
  rw [mapError_bind_eq_ok] at h
  obtain ⟨_, hallowed, h⟩ := h
  rw [bind_eq_ok] at h
  obtain ⟨applied, happlied, h⟩ := h
  rw [requireTransition, raiseIf_eq_ok, not_not] at hallowed
  rw [pure_eq_ok, Prod.mk.injEq] at h
  exact ⟨record, applied, hrecord, hallowed, happlied, h.2.symm⟩

variable {applied : MemoryStateStore} {record : ProposalRecord}

theorem release_cases (h : store.release record = .ok applied) :
    applied = store ∨ ∃ reservationId item,
      record.reservationId = some reservationId ∧
      store.reservations.get? reservationId = some item ∧
      applied = store.setReservation reservationId { item with active := false } := by
  rw [release] at h
  split at h
  · rw [pure_eq_ok] at h
    exact Or.inl h.symm
  · rename_i reservationId hid
    rw [orRaise_bind_eq_ok] at h
    obtain ⟨item, hitem, h⟩ := h
    rw [pure_eq_ok] at h
    exact Or.inr ⟨reservationId, item, hid, hitem, h.symm⟩

theorem settle_cases (h : store.settle record = .ok applied) :
    ∃ reservationId item, record.reservationId = some reservationId ∧
      store.reservations.get? reservationId = some item ∧
      applied = store.setReservation reservationId
        { item with active := false, settled := true } := by
  rw [settle, orRaise_bind_eq_ok] at h
  obtain ⟨reservationId, hid, h⟩ := h
  rw [orRaise_bind_eq_ok] at h
  obtain ⟨item, hitem, h⟩ := h
  rw [pure_eq_ok] at h
  exact ⟨reservationId, item, hid, hitem, h.symm⟩

/-- A transition leaves the reservations alone, or rewrites the flags of the record's own
one on the way to a final state.  If it does not settle it, it sets no flag. -/
theorem applyTarget_cases (h : store.applyTarget record target = .ok applied) :
    applied = store ∨
      (allowedTransitions target = [] ∧ ∃ reservationId item settled,
        record.reservationId = some reservationId ∧
        store.reservations.get? reservationId = some item ∧
        (settled = true ∨ settled = item.settled) ∧
        applied = store.setReservation reservationId
          { item with active := false, settled := settled }) := by
  cases target with
  | expired | reverted =>
    rcases release_cases h with hsame | ⟨reservationId, item, hid, hitem, happlied⟩
    · exact Or.inl hsame
    · exact Or.inr ⟨rfl, reservationId, item, item.settled, hid, hitem, Or.inr rfl, happlied⟩
  | settled =>
    obtain ⟨reservationId, item, hid, hitem, happlied⟩ := settle_cases h
    exact Or.inr ⟨rfl, reservationId, item, true, hid, hitem, Or.inl rfl, happlied⟩
  | proposed | reserved | signed | submitted | denied =>
    rw [applyTarget, pure_eq_ok] at h
    · exact Or.inl h.symm
    all_goals simp

/-! ## Records and their reservations -/

/-- A record that can still move has an active reservation, which no other record has. -/
structure Linked (store : MemoryStateStore) : Prop where
  pending : ∀ {proposalId record}, store.records.get? proposalId = some record →
    allowedTransitions record.state ≠ [] → ∃ reservationId item,
      record.reservationId = some reservationId ∧
      store.reservations.get? reservationId = some item ∧ item.active = true
  known : ∀ {proposalId record reservationId}, store.records.get? proposalId = some record →
    record.reservationId = some reservationId → reservationId ∈ store.reservations.keys
  unshared : ∀ {proposalId otherId record other reservationId},
    store.records.get? proposalId = some record → store.records.get? otherId = some other →
    record.reservationId = some reservationId → other.reservationId = some reservationId →
    proposalId = otherId

theorem linked_empty : Linked .empty := by
  constructor
  · intro proposalId record hget
    exact absurd hget (by simp [MemoryStateStore.empty])
  · intro proposalId record reservationId hget
    exact absurd hget (by simp [MemoryStateStore.empty])
  · intro proposalId otherId record other reservationId hget
    exact absurd hget (by simp [MemoryStateStore.empty])

/-- One record is written, and the reservations of the others stay. -/
theorem Linked.put (hlinked : Linked store)
    (hrecords : after.records = store.records.set proposalId record)
    (hkeys : ∀ reservationId ∈ store.reservations.keys, reservationId ∈ after.reservations.keys)
    (hothers : ∀ {otherId other reservationId item}, otherId ≠ proposalId →
      store.records.get? otherId = some other → other.reservationId = some reservationId →
      store.reservations.get? reservationId = some item →
      after.reservations.get? reservationId = some item)
    (hpending : allowedTransitions record.state ≠ [] → ∃ reservationId item,
      record.reservationId = some reservationId ∧
      after.reservations.get? reservationId = some item ∧ item.active = true)
    (hown : ∀ {reservationId}, record.reservationId = some reservationId →
      reservationId ∈ after.reservations.keys ∧
      ∀ {otherId other}, otherId ≠ proposalId → store.records.get? otherId = some other →
        other.reservationId ≠ some reservationId) : Linked after := by
  have hsplit : ∀ {otherId other}, after.records.get? otherId = some other →
      (otherId = proposalId ∧ other = record) ∨
        (otherId ≠ proposalId ∧ store.records.get? otherId = some other) := by
    intro otherId other hget
    rw [hrecords, get?_set] at hget
    by_cases hid : otherId = proposalId
    · rw [if_pos hid, Option.some.injEq] at hget
      exact Or.inl ⟨hid, hget.symm⟩
    · rw [if_neg hid] at hget
      exact Or.inr ⟨hid, hget⟩
  constructor
  · intro otherId other hget hstate
    rcases hsplit hget with ⟨_, rfl⟩ | ⟨hne, hold⟩
    · exact hpending hstate
    · obtain ⟨reservationId, item, hid, hitem, hactive⟩ := hlinked.pending hold hstate
      exact ⟨reservationId, item, hid, hothers hne hold hid hitem, hactive⟩
  · intro otherId other reservationId hget hid
    rcases hsplit hget with ⟨_, rfl⟩ | ⟨_, hold⟩
    · exact (hown hid).1
    · exact hkeys _ (hlinked.known hold hid)
  · intro firstId secondId first second reservationId hfirst hsecond hfirstId hsecondId
    rcases hsplit hfirst with ⟨heq, rfl⟩ | ⟨hne, hold⟩
    · rcases hsplit hsecond with ⟨heq', rfl⟩ | ⟨hne', hold'⟩
      · exact heq.trans heq'.symm
      · exact absurd hsecondId ((hown hfirstId).2 hne' hold')
    · rcases hsplit hsecond with ⟨heq', rfl⟩ | ⟨_, hold'⟩
      · exact absurd hfirstId ((hown hsecondId).2 hne hold)
      · exact hlinked.unshared hold hold' hfirstId hsecondId

theorem linked_denied (hlinked : Linked store) (proposal : ProposalV1)
    (readings : ReserveReadings) (reasons : List ReasonCode) :
    Linked (denied store proposal readings reasons) := by
  apply hlinked.put rfl
  · intro reservationId hkey
    exact hkey
  · intro otherId other reservationId item _ _ _ hitem
    exact hitem
  · intro hstate
    exact absurd rfl hstate
  · intro reservationId hid
    cases hid

theorem linked_admitted (hlinked : Linked store) (proposal : ProposalV1)
    (readings : ReserveReadings) (hfresh : reservationId ∉ store.reservations.keys) :
    Linked (admitted store proposal readings reservationId) := by
  have hget : (admitted store proposal readings reservationId).reservations.get? reservationId =
      some (newReservation proposal readings.reservation reservationId) := get?_set_self _ _ _
  apply hlinked.put rfl
  · intro otherReservation hkey
    exact mem_keys_set.mpr (Or.inr hkey)
  · intro otherId other otherReservation item _ hother hid hitem
    have hne : otherReservation ≠ reservationId := by
      intro heq
      exact hfresh (heq ▸ hlinked.known hother hid)
    exact (get?_set_ne _ hne _).trans hitem
  · intro _
    exact ⟨reservationId, _, rfl, hget, rfl⟩
  · intro own hown
    rw [Option.some.injEq] at hown
    rw [← hown]
    refine ⟨mem_keys_of_get? hget, ?_⟩
    intro otherId other _ hother hid
    exact hfresh (hlinked.known hother hid)

theorem linked_moved (hlinked : Linked store)
    (hrecord : store.records.get? proposalId = some record)
    (hallowed : target ∈ allowedTransitions record.state)
    (happlied : store.applyTarget record target = .ok applied) (now : Datetime) :
    Linked (moved applied proposalId record target now) := by
  have hmovable : allowedTransitions record.state ≠ [] := List.ne_nil_of_mem hallowed
  have hunshared : ∀ {reservationId}, record.reservationId = some reservationId →
      ∀ {otherId other}, otherId ≠ proposalId → store.records.get? otherId = some other →
        other.reservationId ≠ some reservationId := by
    intro reservationId hid otherId other hne hother hshared
    exact hne (hlinked.unshared hother hrecord hshared hid)
  rcases applyTarget_cases happlied with
    rfl | ⟨hfinal, reservationId, item, settled, hid, hitem, _, rfl⟩
  · apply hlinked.put rfl
    · intro reservationId hkey
      exact hkey
    · intro otherId other reservationId item _ _ _ hitem
      exact hitem
    · intro _
      have hpending := hlinked.pending hrecord hmovable
      exact hpending
    · intro reservationId hid
      exact ⟨hlinked.known hrecord hid, hunshared hid⟩
  · apply hlinked.put rfl
    · intro otherReservation hkey
      exact mem_keys_set.mpr (Or.inr hkey)
    · intro otherId other otherReservation otherItem hne hother hotherId hotherItem
      have hdistinct : otherReservation ≠ reservationId := by
        intro heq
        rw [heq] at hotherId
        exact hunshared hid hne hother hotherId
      exact (get?_set_ne _ hdistinct _).trans hotherItem
    · intro hstate
      exact absurd hfinal hstate
    · intro own hown
      exact ⟨mem_keys_set.mpr (Or.inr (hlinked.known hrecord hown)), hunshared hown⟩

/-! ## Entries after a call -/

theorem entries_admitted (weight : Reservation → Nat) (proposal : ProposalV1)
    (readings : ReserveReadings) (hfresh : reservationId ∉ store.reservations.keys)
    (scope : Scope) :
    entries weight (admitted store proposal readings reservationId) scope =
      entries weight store scope ++ if proposal.scope = scope then
        [((readings.reservation.val : Int),
          weight (newReservation proposal readings.reservation reservationId))]
      else [] := by
  have hvalues : (admitted store proposal readings reservationId).reservations.values =
      store.reservations.values ++
        [newReservation proposal readings.reservation reservationId] :=
    values_set_of_notMem hfresh _
  have hentry : entry weight scope (newReservation proposal readings.reservation reservationId) =
      if proposal.scope = scope then
        some ((readings.reservation.val : Int),
          weight (newReservation proposal readings.reservation reservationId))
      else none := by
    have hscope : (newReservation proposal readings.reservation reservationId).scope =
        proposal.scope := rfl
    rw [entry, hscope]
    simp [newReservation]
  rw [entries, hvalues, List.filterMap_append, List.filterMap_cons, hentry, entries]
  split_ifs <;> rfl

/-- Settling keeps the entry of an active reservation, releasing drops it. -/
theorem entries_moved_sublist {weight : Reservation → Nat} (hweight : ∀ item active settled,
      weight { item with active := active, settled := settled } = weight item)
    (hlinked : Linked store) (hrecord : store.records.get? proposalId = some record)
    (hallowed : target ∈ allowedTransitions record.state)
    (happlied : store.applyTarget record target = .ok applied) (now : Datetime) (scope : Scope) :
    (entries weight (moved applied proposalId record target now) scope).Sublist
      (entries weight store scope) := by
  rcases applyTarget_cases happlied with
    rfl | ⟨_, reservationId, item, settled, hid, hitem, hsettled, rfl⟩
  · exact List.Sublist.refl _
  · obtain ⟨own, ownItem, hown, hownItem, hactive⟩ :=
      hlinked.pending hrecord (List.ne_nil_of_mem hallowed)
    rw [hid, Option.some.injEq] at hown
    rw [← hown, hitem, Option.some.injEq] at hownItem
    rw [← hownItem] at hactive
    apply filterMap_values_set_sublist hitem
    have hscope : Reservation.scope { item with active := false, settled := settled } =
        item.scope := rfl
    cases settled with
    | false =>
      left
      simp [entry]
    | true =>
      right
      rw [entry, entry, hweight, hscope, hactive]
      rfl

/-! ## The invariant -/

section Budget

variable {cap : RollingCapV1} {limit : Nat}

structure Safe (cap : RollingCapV1) (limit : Nat) (calls : List Call)
    (store : MemoryStateStore) : Prop where
  linked : Linked store
  drawn : ∀ reservationId ∈ store.reservations.keys, reservationId ∈ reservationIds calls
  spent : ∀ scope, Bounded (cap.windowSeconds.val * 1000000 : Int) cap.amount
    (entries Reservation.amount store scope)
  count : ∀ scope, Bounded (3600 * 1000000 : Int) limit (entries (fun _ => 1) store scope)

theorem safe_empty (cap : RollingCapV1) (limit : Nat) : Safe cap limit [] .empty where
  linked := linked_empty
  drawn := by
    intro reservationId hkey
    cases hkey
  spent := fun _ => bounded_nil _ _
  count := fun _ => bounded_nil _ _

variable {calls : List Call} {store after : MemoryStateStore}

/-- A call that reserves nothing and at most drops entries. -/
theorem Safe.shrink (call : Call) (hsafe : Safe cap limit calls store) (hlinked : Linked after)
    (hkeys : ∀ reservationId ∈ after.reservations.keys, reservationId ∈ store.reservations.keys)
    (hspent : ∀ scope, (entries Reservation.amount after scope).Sublist
      (entries Reservation.amount store scope))
    (hcount : ∀ scope, (entries (fun _ => 1) after scope).Sublist
      (entries (fun _ => 1) store scope)) :
    Safe cap limit (calls ++ [call]) after where
  linked := hlinked
  drawn := by
    intro reservationId hkey
    rw [reservationIds_append]
    exact List.mem_append_left _ (hsafe.drawn _ (hkeys _ hkey))
  spent := fun scope => (hsafe.spent scope).sublist (hspent scope)
  count := fun scope => (hsafe.count scope).sublist (hcount scope)

theorem Safe.same (call : Call) (hsafe : Safe cap limit calls store) (hlinked : Linked after)
    (hreservations : after.reservations = store.reservations) :
    Safe cap limit (calls ++ [call]) after := by
  apply hsafe.shrink call hlinked
  · rw [hreservations]
    exact fun _ hkey => hkey
  · intro scope
    rw [entries, hreservations]
    exact List.Sublist.refl _
  · intro scope
    rw [entries, hreservations]
    exact List.Sublist.refl _

variable {now : Datetime} {reservationId : Uuid}

theorem keys_moved {applied : MemoryStateStore} {proposalId : Uuid} {record : ProposalRecord}
    {target : LifecycleState} (happlied : store.applyTarget record target = .ok applied)
    (hkey : reservationId ∈ (moved applied proposalId record target now).reservations.keys) :
    reservationId ∈ store.reservations.keys := by
  rcases applyTarget_cases happlied with rfl | ⟨_, own, item, settled, _, hitem, _, rfl⟩
  · exact hkey
  · rcases mem_keys_set.mp hkey with rfl | hkey
    · exact mem_keys_of_get? hitem
    · exact hkey

theorem safe_moved {applied : MemoryStateStore} {proposalId : Uuid} {record : ProposalRecord}
    {target : LifecycleState} (hsafe : Safe cap limit calls store)
    (hrecord : store.records.get? proposalId = some record)
    (hallowed : target ∈ allowedTransitions record.state)
    (happlied : store.applyTarget record target = .ok applied) :
    Safe cap limit (calls ++ [.transition proposalId target now])
      (moved applied proposalId record target now) := by
  apply hsafe.shrink _ (linked_moved hsafe.linked hrecord hallowed happlied now)
  · intro reservationId hkey
    exact keys_moved happlied hkey
  · exact entries_moved_sublist (fun _ _ _ => rfl) hsafe.linked hrecord hallowed happlied now
  · exact entries_moved_sublist (fun _ _ _ => rfl) hsafe.linked hrecord hallowed happlied now

variable {proposal : ProposalV1}

/-- What an empty list of reasons says about the budget. -/
theorem room_of_evaluate {policy : PolicyV1} {deadlineNow : Datetime}
    (hcap : cap ∈ policy.rollingCaps)
    (hreasons : store.evaluate proposal policy deadlineNow now = []) :
    spentWithin (store.activeIn proposal.scope) now cap.windowSeconds.val + proposal.amount.val ≤
        cap.amount ∧
      countWithin (store.activeIn proposal.scope) now 3600 + 1 ≤
        policy.maximumTransactionsPerHour := by
  unfold evaluate at hreasons
  dsimp only at hreasons
  rw [List.append_eq_nil_iff, List.append_eq_nil_iff, noteIf_eq_nil, noteIf_eq_nil] at hreasons
  obtain ⟨⟨_, hcaps⟩, hvelocity⟩ := hreasons
  constructor
  · by_contra hover
    exact hcaps ⟨cap, hcap, by omega⟩
  · omega

/-- One new entry, in the scope of the proposal. -/
theorem bounded_admitted {weight : Reservation → Nat} {seconds bound : Nat}
    (hexact : ExactWindow seconds) {readings : ReserveReadings}
    (hfresh : reservationId ∉ store.reservations.keys)
    (hclock : readings.evaluation ≤ readings.reservation)
    (hbounded : ∀ scope, Bounded (seconds * 1000000 : Int) bound (entries weight store scope))
    (hroom : total (younger readings.evaluation seconds) (entries weight store proposal.scope) +
      weight (newReservation proposal readings.reservation reservationId) ≤ bound) (scope : Scope) :
    Bounded (seconds * 1000000 : Int) bound
      (entries weight (admitted store proposal readings reservationId) scope) := by
  rw [entries_admitted weight proposal readings hfresh]
  by_cases hscope : proposal.scope = scope
  · rw [if_pos hscope, ← hscope]
    have hstamp : (readings.evaluation.val : Int) ≤ readings.reservation.val :=
      Int.ofNat_le.mpr hclock
    refine (hbounded _).extend hstamp ?_ hroom
    intro e he hlt
    exact younger_of_lt hexact he hlt
  · rw [if_neg hscope, List.append_nil]
    exact hbounded scope

theorem safe_admitted (hwindow : ExactWindow cap.windowSeconds.val) {policy : PolicyV1}
    {readings : ReserveReadings} (hsafe : Safe cap limit calls store)
    (hcap : cap ∈ policy.rollingCaps) (hlimit : policy.maximumTransactionsPerHour = limit)
    (hclock : readings.evaluation ≤ readings.reservation)
    (hfresh : reservationId ∉ reservationIds calls)
    (hreasons : store.evaluate proposal policy readings.deadline readings.evaluation = []) :
    Safe cap limit (calls ++ [.reserve proposal policy readings reservationId])
      (admitted store proposal readings reservationId) := by
  have hunused : reservationId ∉ store.reservations.keys :=
    fun hkey => hfresh (hsafe.drawn _ hkey)
  obtain ⟨hspent, hcount⟩ := room_of_evaluate hcap hreasons
  constructor
  · exact linked_admitted hsafe.linked proposal readings hunused
  · intro own hown
    rw [reservationIds_append, List.mem_append]
    rcases mem_keys_set.mp hown with rfl | hown
    · exact Or.inr List.mem_cons_self
    · exact Or.inl (hsafe.drawn _ hown)
  · apply bounded_admitted hwindow hunused hclock hsafe.spent
    rw [total_younger_amount]
    exact hspent
  · have hhour : ExactWindow 3600 := Or.inl (by decide)
    apply bounded_admitted hhour hunused hclock hsafe.count
    rw [total_one, ← hlimit]
    exact hcount

theorem safe_step (hwindow : ExactWindow cap.windowSeconds.val) {call : Call}
    (hsafe : Safe cap limit calls store) (hstep : Step store call after)
    (hpolicy : ∀ proposal policy readings reservationId,
      call = .reserve proposal policy readings reservationId →
        cap ∈ policy.rollingCaps ∧ policy.maximumTransactionsPerHour = limit)
    (hclock : ∀ proposal policy readings reservationId,
      call = .reserve proposal policy readings reservationId →
        readings.evaluation ≤ readings.reservation)
    (hids : (reservationIds (calls ++ [call])).Nodup) : Safe cap limit (calls ++ [call]) after := by
  cases hstep with
  | reserve hreserve =>
    rcases reserve_cases hreserve with
      ⟨_, _, _, _, _, rfl⟩ | ⟨_, ⟨reasons, _, _, _, rfl⟩ | ⟨hreasons, _, rfl⟩⟩
    · exact hsafe.same _ hsafe.linked rfl
    · exact hsafe.same _ (linked_denied hsafe.linked _ _ _) rfl
    · obtain ⟨hcap, hlimit⟩ := hpolicy _ _ _ _ rfl
      rw [reservationIds_append, List.nodup_append] at hids
      refine safe_admitted hwindow hsafe hcap hlimit (hclock _ _ _ _ rfl) ?_ hreasons
      intro hused
      exact hids.2.2 _ hused _ List.mem_cons_self rfl
  | reserveRaises => exact hsafe.same _ hsafe.linked rfl
  | transition htransition =>
    obtain ⟨record, applied, hrecord, hallowed, happlied, rfl⟩ := transition_cases htransition
    exact safe_moved hsafe hrecord hallowed happlied
  | transitionRaises => exact hsafe.same _ hsafe.linked rfl

theorem safe_run (hwindow : ExactWindow cap.windowSeconds.val)
    (hrun : Run Step .empty calls store) (hpolicy : ∀ proposal policy readings reservationId,
      Call.reserve proposal policy readings reservationId ∈ calls →
        cap ∈ policy.rollingCaps ∧ policy.maximumTransactionsPerHour = limit)
    (hclock : ∀ proposal policy readings reservationId,
      Call.reserve proposal policy readings reservationId ∈ calls →
        readings.evaluation ≤ readings.reservation) (hids : (reservationIds calls).Nodup) :
    Safe cap limit calls store := by
  induction hrun with
  | refl => exact safe_empty cap limit
  | snoc _ hlast ih =>
    have hearlier := hids
    rw [reservationIds_append, List.nodup_append] at hearlier
    have hsafe := ih
      (fun _ _ _ _ hmem => hpolicy _ _ _ _ (List.mem_append_left _ hmem))
      (fun _ _ _ _ hmem => hclock _ _ _ _ (List.mem_append_left _ hmem))
      hearlier.1
    refine safe_step hwindow hsafe hlast ?_ ?_ hids
    · intro proposal policy readings reservationId hcall
      exact hpolicy _ _ _ _ (List.mem_append_right _ (by rw [hcall]; exact List.mem_cons_self))
    · intro proposal policy readings reservationId hcall
      exact hclock _ _ _ _ (List.mem_append_right _ (by rw [hcall]; exact List.mem_cons_self))

/-- The amount that the reservations of `scope` created in `(t - seconds, t]` hold. -/
def spentInWindow (store : MemoryStateStore) (scope : Scope) (seconds : Nat) (t : Int) : Nat :=
  (((store.activeIn scope).filter fun item =>
    inWindow (seconds * 1000000 : Int) t item.createdAt.val).map Reservation.amount).sum

/-- The number of reservations of `scope` created in `(t - seconds, t]`. -/
def countInWindow (store : MemoryStateStore) (scope : Scope) (seconds : Nat) (t : Int) : Nat :=
  ((store.activeIn scope).filter fun item =>
    inWindow (seconds * 1000000 : Int) t item.createdAt.val).length

/-- In every run whose `reserve` calls all carry the cap and the velocity limit, no window
of any scope holds more than they allow, whatever the clock does between calls. -/
theorem reservations_withinBudget (hwindow : ExactWindow cap.windowSeconds.val)
    {calls : List Call} {store : MemoryStateStore} (hrun : Run Step .empty calls store)
    (hpolicy : ∀ proposal policy readings reservationId,
      Call.reserve proposal policy readings reservationId ∈ calls →
        cap ∈ policy.rollingCaps ∧ policy.maximumTransactionsPerHour = limit)
    (hclock : ∀ proposal policy readings reservationId,
      Call.reserve proposal policy readings reservationId ∈ calls →
        readings.evaluation ≤ readings.reservation)
    (hids : (reservationIds calls).Nodup) (scope : Scope) (t : Int) :
    spentInWindow store scope cap.windowSeconds.val t ≤ cap.amount ∧
      countInWindow store scope 3600 t ≤ limit := by
  have hsafe := safe_run hwindow hrun hpolicy hclock hids
  constructor
  · have hspent := hsafe.spent scope t
    rw [total_entries] at hspent
    exact hspent
  · have hcount := hsafe.count scope t
    rw [total_one] at hcount
    exact hcount

end Budget

/-! ## Sample runs -/

open SignedEffect AttestationSoundness

def budgetPolicy (cap : RollingCapV1) : PolicyV1 := { samplePolicy with
  allowedRecipients := [sampleContract]
  rollingCaps := [cap]
  coherent := ⟨List.nodup_singleton _, samplePolicy.coherent.2⟩ }

/-- A transfer of 100 with its own identifier, key and deadline. -/
def budgetProposal (proposalId : {u : Uuid // uuidVersion u = some 7})
    (idempotencyKey : BoundedStr 8 128) (deadline : Datetime) : ProposalV1 :=
  { transferProposal sampleWallet sampleContract with
    proposalId := proposalId
    idempotencyKey := idempotencyKey
    deadline := deadline }

def firstProposal : ProposalV1 :=
  budgetProposal sampleProposalId
    ⟨"first-transfer".toList, by decide⟩ sampleDeadline

def secondProposal : ProposalV1 :=
  budgetProposal otherProposalId
    ⟨"second-transfer".toList, by decide⟩ 315537897599999999

def firstReservation : Uuid := 0x19f7518fe0070008000000000000011

def secondReservation : Uuid := 0x19f7518fe0070008000000000000012

/-- The clock stands still during the call. -/
def readingsAt (now : Datetime) : ReserveReadings := ⟨now, now, now, now, now⟩

def hourCap : RollingCapV1 := ⟨3600, 150⟩

/-- The second proposal arrives within the hour. -/
def hourCalls : List Call :=
  [.reserve firstProposal (budgetPolicy hourCap) (readingsAt sampleNow) firstReservation,
    .transition firstProposal.proposalId.val .signed sampleNow,
    .reserve secondProposal (budgetPolicy hourCap) (readingsAt sampleExpiry) secondReservation]

theorem hourCalls_withinBudget :
    spentInWindow (hourCalls.foldl perform .empty) firstProposal.scope 3600 sampleExpiry.val =
        100 ∧
      spentInWindow (hourCalls.foldl perform .empty) firstProposal.scope 3600 sampleExpiry.val ≤
        150 ∧
      countInWindow (hourCalls.foldl perform .empty) firstProposal.scope 3600 sampleExpiry.val ≤
        10 := by
  have hwindow : ExactWindow hourCap.windowSeconds.val := Or.inl (by decide)
  refine ⟨by decide +kernel, reservations_withinBudget hwindow (Run.foldl step_perform _ _)
    ?_ ?_ (by decide) _ _⟩
  · intro proposal policy readings reservationId hcall
    simp only [hourCalls, List.mem_cons, Call.reserve.injEq, List.not_mem_nil, or_false,
      reduceCtorEq, false_or] at hcall
    rcases hcall with ⟨_, rfl, _, _⟩ | ⟨_, rfl, _, _⟩
    · exact ⟨List.mem_cons_self, rfl⟩
    · exact ⟨List.mem_cons_self, rfl⟩
  · intro proposal policy readings reservationId hcall
    simp only [hourCalls, List.mem_cons, Call.reserve.injEq, List.not_mem_nil, or_false,
      reduceCtorEq, false_or] at hcall
    rcases hcall with ⟨_, _, rfl, _⟩ | ⟨_, _, rfl, _⟩
    · exact le_refl _
    · exact le_refl _

/-- One second more than the windows that a double resolves to the microsecond. -/
def longCap : RollingCapV1 := ⟨17179869185, 150⟩

/-- The clock one microsecond before the first reservation leaves the long window. -/
def lateNow : Datetime := 63919972800000000 + 17179869184999999

def longCalls : List Call :=
  [.reserve firstProposal (budgetPolicy longCap) (readingsAt sampleNow) firstReservation,
    .reserve secondProposal (budgetPolicy longCap) (readingsAt lateNow) secondReservation]

/-- The age of the first reservation is rounded up to the window, so the second one is
admitted although both lie in one window. -/
theorem longCalls_overspend :
    Run Step .empty longCalls (longCalls.foldl perform .empty) ∧
      (∀ proposal policy readings reservationId,
        Call.reserve proposal policy readings reservationId ∈ longCalls →
          longCap ∈ policy.rollingCaps ∧ policy.maximumTransactionsPerHour = 10 ∧
          readings.evaluation ≤ readings.reservation) ∧
      (reservationIds longCalls).Nodup ∧
      ¬ spentInWindow (longCalls.foldl perform .empty) firstProposal.scope
        longCap.windowSeconds.val lateNow.val ≤ longCap.amount := by
  refine ⟨Run.foldl step_perform _ _, ?_, by decide, by decide +kernel⟩
  intro proposal policy readings reservationId hcall
  simp only [longCalls, List.mem_cons, Call.reserve.injEq, List.not_mem_nil, or_false] at hcall
  rcases hcall with ⟨_, rfl, rfl, _⟩ | ⟨_, rfl, rfl, _⟩
  · exact ⟨List.mem_cons_self, rfl, le_refl _⟩
  · exact ⟨List.mem_cons_self, rfl, le_refl _⟩

end AegisLedger.Gateway.BudgetSafety
