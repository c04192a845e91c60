import AegisLedger.Gateway.Proofs.BudgetSafety

/-!
# Records of the in-memory store

`reserve` files a new record under the proposal's identifier without looking
whether one is there: only the pair of principal and idempotency key is checked.
So a record is kept for good as long as nobody brings an identifier again under
another key, and is replaced, with its reservation left behind, when somebody
does.
-/

namespace AegisLedger.Gateway.RecordHistory

open AegisLedger.Support Dict MemoryStateStore BudgetSafety

/-- The pair by which `reserve` recognises a repeated request. -/
def keyOf (proposal : ProposalV1) : Str × Str :=
  (proposal.principalId.val, proposal.idempotencyKey.val)

/-- A `reserve` under a new key names a proposal that has no record yet. -/
def NamesNewProposal (store : MemoryStateStore) : Call → Prop
  | .reserve proposal _ _ _ =>
    store.idempotency.get? (keyOf proposal) = none →
      store.records.get? proposal.proposalId.val = none
  | .transition _ _ _ => True

/-- A call that does not bring back the identifier of another proposal. -/
def FreshStep (store : MemoryStateStore) (call : Call) (after : MemoryStateStore) : Prop :=
  Step store call after ∧ NamesNewProposal store call

/-- The states that `_ALLOWED_TRANSITIONS` leads to from `start`. -/
def Leads (start state : LifecycleState) : Prop :=
  Relation.ReflTransGen (fun before after => after ∈ allowedTransitions before) start state

/-- A reservation but for the two flags that transitions write. -/
def unflagged (item : Reservation) : Reservation :=
  { item with active := false, settled := false }

/-- `record` is the record of `proposal`, found by identifier and by key, and the
reservation `made` for it is found from the record. -/
structure Kept (proposal : ProposalV1) (made : Option Reservation) (record : ProposalRecord)
    (store : MemoryStateStore) : Prop where
  stored : store.get proposal.proposalId.val = some record
  body : record.proposal = proposal
  key : store.idempotency.get? (keyOf proposal) = some proposal.proposalId.val
  linked : record.reservationId = made.map Reservation.reservationId
  reservation : ∀ origin, made = some origin → ∃ item,
    store.reservations.get? origin.reservationId = some item ∧
    unflagged item = unflagged origin

section History

variable {proposal : ProposalV1} {made : Option Reservation}

/-! ## One call -/

variable {store : MemoryStateStore} {record : ProposalRecord}

theorem kept_putRecord {written : ProposalRecord} {key : Str × Str}
    (hkept : Kept proposal made record store)
    (hid : written.proposal.proposalId.val ≠ proposal.proposalId.val)
    (hkey : key ≠ keyOf proposal) :
    Kept proposal made record (store.putRecord key written) where
  stored := (get?_set_ne _ hid.symm _).trans hkept.stored
  body := hkept.body
  key := (get?_set_ne _ hkey.symm _).trans hkept.key
  linked := hkept.linked
  reservation := hkept.reservation

theorem kept_setReservation {reservationId : Uuid} {item : Reservation}
    (hkept : Kept proposal made record store)
    (hsame : ∀ origin, made = some origin → origin.reservationId = reservationId →
      unflagged item = unflagged origin) :
    Kept proposal made record (store.setReservation reservationId item) where
  stored := hkept.stored
  body := hkept.body
  key := hkept.key
  linked := hkept.linked
  reservation := by
    intro origin horigin
    obtain ⟨present, hpresent, hflags⟩ := hkept.reservation origin horigin
    by_cases hid : origin.reservationId = reservationId
    · refine ⟨item, ?_, hsame origin horigin hid⟩
      rw [hid]
      exact get?_set_self _ _ _
    · exact ⟨present, (get?_set_ne _ hid _).trans hpresent, hflags⟩

/-- A transition of any record rewrites flags only. -/
theorem kept_applyTarget {applied : MemoryStateStore} {other : ProposalRecord}
    {target : LifecycleState} (hkept : Kept proposal made record store)
    (happlied : store.applyTarget other target = .ok applied) :
    Kept proposal made record applied := by
  rcases applyTarget_cases happlied with rfl | ⟨_, reservationId, item, settled, _, hitem, _, rfl⟩
  · exact hkept
  · apply kept_setReservation hkept
    intro origin horigin hid
    obtain ⟨present, hpresent, hflags⟩ := hkept.reservation origin horigin
    rw [hid, hitem, Option.some.injEq] at hpresent
    rw [← hflags, ← hpresent]
    rfl

theorem kept_moved {applied : MemoryStateStore} {other : ProposalRecord} {proposalId : Uuid}
    {target : LifecycleState} {now : Datetime} (hkept : Kept proposal made record store)
    (hother : store.records.get? proposalId = some other)
    (hallowed : target ∈ allowedTransitions other.state)
    (happlied : store.applyTarget other target = .ok applied) :
    ∃ next, Kept proposal made next (moved applied proposalId other target now) ∧
      (next.state = record.state ∨ next.state ∈ allowedTransitions record.state) := by
  have happliedKept := kept_applyTarget hkept happlied
  by_cases hid : proposal.proposalId.val = proposalId
  · have hsame : other = record := by
      have hstored := hkept.stored
      rw [MemoryStateStore.get, hid, hother, Option.some.injEq] at hstored
      exact hstored
    subst hsame
    refine ⟨{ other with
      state := target, stateVersion := applied.version + 1, updatedAt := now },
      ⟨?_, hkept.body, happliedKept.key, hkept.linked, happliedKept.reservation⟩,
      Or.inr hallowed⟩
    rw [hid]
    exact get?_set_self _ _ _
  · refine ⟨record, ⟨?_, hkept.body, happliedKept.key, hkept.linked,
      happliedKept.reservation⟩, Or.inl rfl⟩
    exact (get?_set_ne _ hid _).trans happliedKept.stored

theorem kept_step {after : MemoryStateStore} {call : Call}
    (hkept : Kept proposal made record store) (hstep : FreshStep store call after)
    (hunique : ∀ origin, made = some origin → origin.reservationId ∉ reservationIds [call]) :
    ∃ next, Kept proposal made next after ∧
      (next.state = record.state ∨ next.state ∈ allowedTransitions record.state) := by
  obtain ⟨hstep, hfresh⟩ := hstep
  cases hstep with
  | reserveRaises => exact ⟨record, hkept, Or.inl rfl⟩
  | transitionRaises => exact ⟨record, hkept, Or.inl rfl⟩
  | transition htransition =>
    obtain ⟨other, applied, hother, hallowed, happlied, rfl⟩ := transition_cases htransition
    exact kept_moved hkept hother hallowed happlied
  | @reserve _ incoming policy readings reservationId result hreserve =>
    rcases reserve_cases hreserve with ⟨_, _, _, _, _, rfl⟩ | ⟨hnew, hwritten⟩
    · exact ⟨record, hkept, Or.inl rfl⟩
    · have hid : incoming.proposalId.val ≠ proposal.proposalId.val := by
        intro heq
        have hnone := hfresh hnew
        have hstored := hkept.stored
        rw [MemoryStateStore.get, ← heq, hnone] at hstored
        cases hstored
      have hkey : keyOf incoming ≠ keyOf proposal := by
        intro heq
        have hsome := hkept.key
        rw [← heq, keyOf, hnew] at hsome
        cases hsome
      refine ⟨record, ?_, Or.inl rfl⟩
      rcases hwritten with ⟨reasons, _, _, _, rfl⟩ | ⟨_, _, rfl⟩
      · exact kept_putRecord hkept hid hkey
      · apply kept_putRecord _ hid hkey
        apply kept_setReservation hkept
        intro origin horigin hsame
        exact absurd (hsame ▸ List.mem_cons_self) (hunique origin horigin)

/-! ## Whole histories -/

theorem kept_run {final : MemoryStateStore} {later : List Call}
    (hkept : Kept proposal made record store) (hrun : Run FreshStep store later final)
    (hunique : ∀ origin, made = some origin → origin.reservationId ∉ reservationIds later) :
    ∃ last, Kept proposal made last final ∧ Leads record.state last.state := by
  induction hrun with
  | refl => exact ⟨record, hkept, .refl⟩
  | @snoc trace _ _ call _ hlast ih =>
    have hsplit : ∀ origin, made = some origin →
        origin.reservationId ∉ reservationIds trace ∧
          origin.reservationId ∉ reservationIds [call] := by
      intro origin horigin
      have hnot := hunique origin horigin
      rw [reservationIds_append, List.mem_append, not_or] at hnot
      exact hnot
    obtain ⟨before, hbefore, hleads⟩ := ih fun origin horigin => (hsplit origin horigin).1
    obtain ⟨last, hkept, hstate⟩ :=
      kept_step hbefore hlast fun origin horigin => (hsplit origin horigin).2
    refine ⟨last, hkept, ?_⟩
    rcases hstate with hsame | hmoved
    · rw [hsame]
      exact hleads
    · exact hleads.tail hmoved

/-- The reservation of a new record, if it has one. -/
def reservationOf (proposal : ProposalV1) (createdAt : Datetime) (record : ProposalRecord) :
    Option Reservation :=
  record.reservationId.map (newReservation proposal createdAt)

theorem kept_created {created : MemoryStateStore} {policy : PolicyV1} {readings : ReserveReadings}
    {reservationId : Uuid} {result : ReservationResult}
    (hreserve : store.reserve proposal policy readings reservationId = .ok (result, created))
    (hcreated : result.created = true) :
    Kept proposal (reservationOf proposal readings.reservation result.record) result.record
        created ∧
      ∀ made, result.record.reservationId = some made → made = reservationId := by
  rcases reserve_cases hreserve with ⟨_, _, _, _, rfl, _⟩ |
    ⟨_, ⟨reasons, _, _, rfl, rfl⟩ | ⟨_, rfl, rfl⟩⟩
  · cases hcreated
  · refine ⟨⟨get?_set_self _ _ _, rfl, get?_set_self _ _ _, rfl, ?_⟩, ?_⟩
    · intro origin horigin
      cases horigin
    · intro made hmade
      cases hmade
  · refine ⟨⟨get?_set_self _ _ _, rfl, get?_set_self _ _ _, rfl, ?_⟩, ?_⟩
    · intro origin horigin
      rw [reservationOf, Option.map_some, Option.some.injEq] at horigin
      refine ⟨origin, ?_, rfl⟩
      rw [← horigin]
      exact get?_set_self _ _ _
    · intro made hmade
      exact (Option.some.inj hmade).symm

theorem reserve_of_kept (hkept : Kept proposal made record store) {again : ProposalV1}
    (hkey : keyOf again = keyOf proposal) (policy : PolicyV1) (readings : ReserveReadings)
    (reservationId : Uuid) :
    store.reserve again policy readings reservationId = .ok (⟨record, false⟩, store) := by
  have hknown := hkept.key
  rw [← hkey, keyOf] at hknown
  have hstored : store.records.get? proposal.proposalId.val = some record := hkept.stored
  unfold MemoryStateStore.reserve
  simp only [hknown, hstored, Checks.orRaise, bind, Except.bind, pure, Except.pure]

/-- Once `reserve` has created a record, and as long as no later call brings back a
proposal identifier under a new key: the record holds the same proposal, its state
moves along `_ALLOWED_TRANSITIONS`, its reservation is found from it, and a repeated
request returns it and changes nothing. -/
theorem record_keptForever {store created final : MemoryStateStore} {policy : PolicyV1}
    {readings : ReserveReadings} {reservationId : Uuid} {result : ReservationResult}
    {later : List Call}
    (hreserve : store.reserve proposal policy readings reservationId = .ok (result, created))
    (hcreated : result.created = true) (hrun : Run FreshStep created later final)
    (hunique : reservationId ∉ reservationIds later) :
    ∃ record, final.get proposal.proposalId.val = some record ∧ record.proposal = proposal ∧
      Leads result.record.state record.state ∧
      (∀ call next, FreshStep final call next → reservationId ∉ reservationIds [call] →
        ∃ moved, next.get proposal.proposalId.val = some moved ∧ moved.proposal = proposal ∧
          (moved.state = record.state ∨ moved.state ∈ allowedTransitions record.state)) ∧
      (∀ made, result.record.reservationId = some made →
        record.reservationId = some made ∧ ∃ item, final.reservations.get? made = some item ∧
          unflagged item = unflagged (newReservation proposal readings.reservation made)) ∧
      ∀ again policy' readings' reservationId', keyOf again = keyOf proposal →
        final.reserve again policy' readings' reservationId' = .ok (⟨record, false⟩, final) := by
  obtain ⟨hkept, hown⟩ := kept_created hreserve hcreated
  have horigin : ∀ origin,
      reservationOf proposal readings.reservation result.record = some origin →
        origin.reservationId = reservationId := by
    intro origin horigin
    obtain ⟨made, hmade, rfl⟩ := Option.map_eq_some_iff.mp horigin
    exact hown made hmade
  obtain ⟨record, hfinal, hleads⟩ := kept_run hkept hrun fun origin hmade => by
    rw [horigin origin hmade]
    exact hunique
  refine ⟨record, hfinal.stored, hfinal.body, hleads, ?_, ?_, ?_⟩
  · intro call next hstep hnot
    obtain ⟨moved, hmoved, hstate⟩ := kept_step hfinal hstep fun origin hmade => by
      rw [horigin origin hmade]
      exact hnot
    exact ⟨moved, hmoved.stored, hmoved.body, hstate⟩
  · intro made hmade
    have hreservation : reservationOf proposal readings.reservation result.record =
        some (newReservation proposal readings.reservation made) := by
      rw [reservationOf, hmade]
      rfl
    have hlinked := hfinal.linked
    rw [hreservation] at hlinked
    exact ⟨hlinked, hfinal.reservation _ hreservation⟩
  · intro again policy' readings' reservationId' hkey
    exact reserve_of_kept hfinal hkey policy' readings' reservationId'

end History

/-! ## Sample runs -/

open SignedEffect AttestationSoundness

def wideCap : RollingCapV1 := ⟨3600, 250⟩

/-- The store after the first request. -/
def createdStore : MemoryStateStore :=
  admitted .empty firstProposal (readingsAt sampleNow) firstReservation

def createdRecord : ProposalRecord :=
  ⟨firstProposal, .reserved, 1, [], some firstReservation, sampleNow, sampleNow⟩

theorem reserve_firstProposal :
    MemoryStateStore.empty.reserve firstProposal (budgetPolicy wideCap) (readingsAt sampleNow)
      firstReservation = .ok (⟨createdRecord, true⟩, createdStore) := by
  have hreasons : MemoryStateStore.empty.evaluate firstProposal (budgetPolicy wideCap)
      (readingsAt sampleNow).deadline (readingsAt sampleNow).evaluation = [] := by
    decide +kernel
  unfold MemoryStateStore.reserve
  simp only [hreasons]
  rfl

def signFirst : Call := .transition firstProposal.proposalId.val .signed sampleNow

def reserveSecond : Call :=
  .reserve secondProposal (budgetPolicy wideCap) (readingsAt sampleNow) secondReservation

/-- The first record is signed and another proposal is admitted. -/
def laterCalls : List Call := [signFirst, reserveSecond]

theorem laterCalls_keepRecord :
    ∃ record, ((createdStore.perform signFirst).perform reserveSecond).get
        firstProposal.proposalId.val = some record ∧ record.proposal = firstProposal ∧
      Leads .reserved record.state := by
  have hsigned : Run FreshStep createdStore [signFirst] (createdStore.perform signFirst) :=
    .snoc .refl ⟨step_perform createdStore signFirst, trivial⟩
  have hnew : NamesNewProposal (createdStore.perform signFirst) reserveSecond := by
    intro _
    decide +kernel
  have hrun : Run FreshStep createdStore laterCalls
      ((createdStore.perform signFirst).perform reserveSecond) :=
    .snoc hsigned ⟨step_perform (createdStore.perform signFirst) reserveSecond, hnew⟩
  obtain ⟨record, hstored, hbody, hleads, -⟩ :=
    record_keptForever reserve_firstProposal rfl hrun (by decide)
  exact ⟨record, hstored, hbody, hleads⟩

/-- Another request under the identifier of the first. -/
def replacingProposal : ProposalV1 :=
  { secondProposal with proposalId := firstProposal.proposalId, deadline := sampleDeadline }

def reusedCalls : List Call :=
  [.reserve firstProposal (budgetPolicy wideCap) (readingsAt sampleNow) firstReservation,
    .reserve replacingProposal (budgetPolicy wideCap) (readingsAt sampleNow) secondReservation]

/-- The second request replaces the record of the first: the body is another one, the
reservation of the first stays active with no record that names it, and the first
request repeated returns the record of the second. -/
theorem reusedId_replacesRecord :
    Run Step .empty reusedCalls (reusedCalls.foldl perform .empty) ∧
      (reservationIds reusedCalls).Nodup ∧
      (createdStore.get firstProposal.proposalId.val).map ProposalRecord.proposal =
        some firstProposal ∧
      ((reusedCalls.foldl perform .empty).get firstProposal.proposalId.val).map
          ProposalRecord.proposal = some replacingProposal ∧
      replacingProposal ≠ firstProposal ∧
      ((reusedCalls.foldl perform .empty).reservations.get? firstReservation).map
          Reservation.active = some true ∧
      (∀ record ∈ (reusedCalls.foldl perform .empty).records.values,
        record.reservationId ≠ some firstReservation) ∧
      ((reusedCalls.foldl perform .empty).reserve firstProposal (budgetPolicy wideCap)
          (readingsAt sampleNow) firstReservation).toOption.map (fun r => r.1.record.proposal) =
        some replacingProposal := by
  refine ⟨Run.foldl step_perform _ _, by decide, by decide +kernel, by decide +kernel,
    by decide +kernel, by decide +kernel, by decide +kernel, by decide +kernel⟩

end AegisLedger.Gateway.RecordHistory
