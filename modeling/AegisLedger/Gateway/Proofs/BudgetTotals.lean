import AegisLedger.Gateway.Proofs.BudgetSafety

/-!
# Budget totals of the in-memory store

`budget_totals` adds up the reservations of a scope.  The reservation of a record that can
still move is active, not settled, and for the scope and amount of its proposal, so a
transition to SETTLED or REVERTED moves exactly that amount.
-/

namespace AegisLedger.Gateway.BudgetTotals

open AegisLedger.Support Checks Dict
open MemoryStateStore BudgetSafety

/-! ## Totals as sums over the reservations -/

/-- What a reservation adds to the total of a scope. -/
def share (flag : Reservation → Bool) (scope : Scope) (item : Reservation) : Nat :=
  if item.scope = scope ∧ flag item = true then item.amount else 0

def shares (flag : Reservation → Bool) (store : MemoryStateStore) (scope : Scope) : Nat :=
  (store.reservations.values.map (share flag scope)).sum

theorem sum_filter_filter (flag : Reservation → Bool) (scope : Scope)
    (items : List Reservation) :
    (((items.filter fun item => decide (item.scope = scope)).filter flag).map
      Reservation.amount).sum = (items.map (share flag scope)).sum := by
  induction items with
  | nil => rfl
  | cons item items ih =>
    rw [List.map_cons, List.sum_cons, ← ih, share]
    by_cases hscope : item.scope = scope <;> by_cases hflag : flag item = true <;>
      simp [List.filter_filter, hscope, hflag]

theorem budgetTotals_eq (host : Host) (store : MemoryStateStore) (principal wallet : Str)
    (chainId : Nat) (asset : Str) :
    store.budgetTotals host principal wallet chainId asset =
      (shares Reservation.active store (principal, host.lower wallet, chainId, asset),
        shares Reservation.settled store (principal, host.lower wallet, chainId, asset)) := by
  rw [budgetTotals, shares, shares, ← sum_filter_filter, ← sum_filter_filter]

/-! ## Reservations match their records -/

structure Matched (store : MemoryStateStore) : Prop where
  proposal : ∀ {proposalId record reservationId item},
    store.records.get? proposalId = some record → record.reservationId = some reservationId →
    store.reservations.get? reservationId = some item →
    item.scope = record.proposal.scope ∧ item.amount = record.proposal.amount.val
  unsettled : ∀ {reservationId item}, store.reservations.get? reservationId = some item →
    item.active = true → item.settled = false

theorem matched_empty : Matched .empty := by
  constructor
  · intro proposalId record reservationId item hget
    cases hget
  · intro reservationId item hget
    cases hget

variable {store : MemoryStateStore}

theorem matched_denied (hmatched : Matched store) (proposal : ProposalV1)
    (readings : ReserveReadings) (reasons : List ReasonCode) :
    Matched (denied store proposal readings reasons) := by
  constructor
  · intro proposalId record reservationId item hrecord hid hitem
    rw [denied, putRecord, get?_set] at hrecord
    split_ifs at hrecord
    · rw [← Option.some.inj hrecord] at hid
      cases hid
    · exact hmatched.proposal hrecord hid hitem
  · exact hmatched.unsettled

theorem matched_admitted (hlinked : Linked store) (hmatched : Matched store)
    (proposal : ProposalV1) (readings : ReserveReadings) {reservationId : Uuid}
    (hfresh : reservationId ∉ store.reservations.keys) :
    Matched (admitted store proposal readings reservationId) := by
  have hget : ∀ otherId, (admitted store proposal readings reservationId).reservations.get?
      otherId = if otherId = reservationId then
        some (newReservation proposal readings.reservation reservationId)
      else store.reservations.get? otherId := fun otherId => get?_set _ _ _ _
  constructor
  · intro proposalId record otherId item hrecord hid hitem
    rw [hget] at hitem
    rw [admitted, putRecord, get?_set] at hrecord
    split_ifs at hrecord with hown
    · rw [← Option.some.inj hrecord] at hid ⊢
      rw [if_pos (Option.some.inj hid).symm] at hitem
      rw [← Option.some.inj hitem]
      exact ⟨rfl, rfl⟩
    · have hne : otherId ≠ reservationId := by
        rintro rfl
        exact hfresh (hlinked.known hrecord hid)
      rw [if_neg hne] at hitem
      exact hmatched.proposal hrecord hid hitem
  · intro otherId item hitem
    rw [hget] at hitem
    split_ifs at hitem
    · rw [← Option.some.inj hitem]
      exact fun _ => rfl
    · exact hmatched.unsettled hitem

variable {proposalId : Uuid} {record : ProposalRecord} {target : LifecycleState}

theorem matched_moved {applied : MemoryStateStore} (hmatched : Matched store)
    (hrecord : store.records.get? proposalId = some record)
    (happlied : store.applyTarget record target = .ok applied) (now : Datetime) :
    Matched (moved applied proposalId record target now) := by
  -- The record keeps its proposal and its reservation, whichever flags are rewritten.
  have hrecords : ∀ {otherId other}, applied.records = store.records →
      (moved applied proposalId record target now).records.get? otherId = some other →
      ∃ old, store.records.get? otherId = some old ∧ other.proposal = old.proposal ∧
        other.reservationId = old.reservationId := by
    intro otherId other hsame hother
    rw [moved, get?_set] at hother
    split_ifs at hother with hid
    · rw [hid]
      exact ⟨record, hrecord, by rw [← Option.some.inj hother], by rw [← Option.some.inj hother]⟩
    · rw [hsame] at hother
      exact ⟨other, hother, rfl, rfl⟩
  rcases applyTarget_cases happlied with
    rfl | ⟨_, reservationId, item, settled, _, hitem, _, rfl⟩
  · constructor
    · intro otherId other otherReservation otherItem hother hid hotherItem
      obtain ⟨old, hold, hproposal, hreservation⟩ := hrecords rfl hother
      rw [hproposal]
      exact hmatched.proposal hold (hreservation ▸ hid) hotherItem
    · exact hmatched.unsettled
  · have hget : ∀ otherId, (store.reservations.set reservationId
        { item with active := false, settled := settled }).get? otherId =
        if otherId = reservationId then
          some { item with active := false, settled := settled }
        else store.reservations.get? otherId := fun otherId => get?_set _ _ _ _
    constructor
    · intro otherId other otherReservation otherItem hother hid hotherItem
      obtain ⟨old, hold, hproposal, hreservation⟩ := hrecords rfl hother
      rw [hreservation] at hid
      rw [hproposal]
      replace hotherItem := (hget otherReservation).symm.trans hotherItem
      split_ifs at hotherItem with hown
      · have hfacts := hmatched.proposal hold (hown ▸ hid) hitem
        rw [← Option.some.inj hotherItem]
        exact hfacts
      · exact hmatched.proposal hold hid hotherItem
    · intro otherReservation otherItem hotherItem hactive
      replace hotherItem := (hget otherReservation).symm.trans hotherItem
      split_ifs at hotherItem
      · rw [← Option.some.inj hotherItem] at hactive
        cases hactive
      · exact hmatched.unsettled hotherItem hactive

/-! ## The stores of a run -/

/-- What holds of the lifecycle store after calls that drew the given identifiers. -/
structure Sound (calls : List Call) (store : MemoryStateStore) : Prop where
  linked : Linked store
  matched : Matched store
  drawn : ∀ reservationId ∈ store.reservations.keys, reservationId ∈ reservationIds calls

theorem sound_empty : Sound [] .empty :=
  ⟨linked_empty, matched_empty, fun _ hkey => nomatch hkey⟩

variable {calls : List Call}

theorem Sound.moved {after : MemoryStateStore} {now : Datetime} {updated : ProposalRecord}
    (hsound : Sound calls store)
    (h : store.transition proposalId target now = .ok (updated, after)) : Sound calls after := by
  obtain ⟨record, applied, hrecord, hallowed, happlied, rfl⟩ := transition_cases h
  exact ⟨linked_moved hsound.linked hrecord hallowed happlied now,
    matched_moved hsound.matched hrecord happlied now,
    fun _ hkey => hsound.drawn _ (keys_moved happlied hkey)⟩

theorem Sound.later (call : Call) (hsound : Sound calls store) : Sound (calls ++ [call]) store :=
  ⟨hsound.linked, hsound.matched, fun reservationId hkey => by
    rw [reservationIds_append]
    exact List.mem_append_left _ (hsound.drawn reservationId hkey)⟩

theorem sound_perform (call : Call) (hsound : Sound calls store)
    (hnodup : (reservationIds (calls ++ [call])).Nodup) :
    Sound (calls ++ [call]) (store.perform call) := by
  have hstep := step_perform store call
  generalize store.perform call = after at hstep ⊢
  cases hstep with
  | reserveRaises hreserve => exact hsound.later _
  | transitionRaises htransition => exact hsound.later _
  | transition htransition => exact (hsound.moved htransition).later _
  | @reserve _ proposal policy readings reservationId result hreserve =>
    rcases reserve_cases hreserve with ⟨_, _, _, _, _, hafter⟩ | ⟨_, hwritten⟩
    · rw [hafter]
      exact hsound.later _
    · rcases hwritten with ⟨reasons, _, _, _, hafter⟩ | ⟨_, _, hafter⟩
      · rw [hafter]
        have hlater := hsound.later (.reserve proposal policy readings reservationId)
        exact ⟨linked_denied hsound.linked _ _ _, matched_denied hsound.matched _ _ _,
          hlater.drawn⟩
      · rw [reservationIds_append, List.nodup_append] at hnodup
        have hfresh : reservationId ∉ store.reservations.keys := by
          intro hkey
          exact hnodup.2.2 _ (hsound.drawn _ hkey) _ List.mem_cons_self rfl
        rw [hafter]
        refine ⟨linked_admitted hsound.linked _ _ hfresh,
          matched_admitted hsound.linked hsound.matched _ _ hfresh, ?_⟩
        intro otherId hkey
        rw [reservationIds_append, List.mem_append]
        rcases mem_keys_set.mp hkey with rfl | hold
        · exact Or.inr List.mem_cons_self
        · exact Or.inl (hsound.drawn _ hold)

/-! ## A record moves -/

/-- The totals after a submitted proposal has become SETTLED or REVERTED. -/
structure TotalsMove (host : Host) (before after : MemoryStateStore) (proposal : ProposalV1)
    (target : LifecycleState) : Prop where
  pending : ∀ principal wallet chainId asset,
    (principal, host.lower wallet, chainId, asset) = proposal.scope →
    (after.budgetTotals host principal wallet chainId asset).1 + proposal.amount.val =
      (before.budgetTotals host principal wallet chainId asset).1
  settled : ∀ principal wallet chainId asset,
    (principal, host.lower wallet, chainId, asset) = proposal.scope →
    (after.budgetTotals host principal wallet chainId asset).2 =
      (before.budgetTotals host principal wallet chainId asset).2 +
        if target = .settled then proposal.amount.val else 0
  others : ∀ principal wallet chainId asset,
    (principal, host.lower wallet, chainId, asset) ≠ proposal.scope →
    after.budgetTotals host principal wallet chainId asset =
      before.budgetTotals host principal wallet chainId asset

theorem applyTarget_final {applied : MemoryStateStore} {reservationId : Uuid} {item : Reservation}
    (hfinal : target = .settled ∨ target = .reverted)
    (hid : record.reservationId = some reservationId)
    (hitem : store.reservations.get? reservationId = some item)
    (hunsettled : item.settled = false) (h : store.applyTarget record target = .ok applied) :
    applied = store.setReservation reservationId
      { item with active := false, settled := decide (target = .settled) } := by
  rcases hfinal with rfl | rfl
  · rw [applyTarget, settle, orRaise_bind_eq_ok] at h
    obtain ⟨own, hown, h⟩ := h
    rw [hid, Option.some.injEq] at hown
    rw [← hown, hitem, orRaise_bind_eq_ok] at h
    obtain ⟨found, hfound, h⟩ := h
    rw [pure_eq_ok] at h
    rw [← h, ← Option.some.inj hfound]
    rfl
  · rw [applyTarget, release, hid] at h
    dsimp only at h
    rw [hitem, orRaise_bind_eq_ok] at h
    obtain ⟨found, hfound, h⟩ := h
    rw [pure_eq_ok] at h
    rw [← h, ← Option.some.inj hfound]
    simp only [reduceCtorEq, decide_false, ← hunsettled]

theorem totalsMove_of_transition (host : Host) {after : MemoryStateStore} {now : Datetime}
    {updated : ProposalRecord} (hlinked : Linked store) (hmatched : Matched store)
    (hfinal : target = .settled ∨ target = .reverted)
    (hrecord : store.records.get? proposalId = some record)
    (h : store.transition proposalId target now = .ok (updated, after)) :
    TotalsMove host store after record.proposal target := by
  obtain ⟨found, applied, hfound, hallowed, happlied, rfl⟩ := transition_cases h
  rw [hrecord, Option.some.injEq] at hfound
  subst hfound
  obtain ⟨reservationId, item, hid, hitem, hactive⟩ :=
    hlinked.pending hrecord (List.ne_nil_of_mem hallowed)
  obtain ⟨hscope, hamount⟩ := hmatched.proposal hrecord hid hitem
  have hunsettled := hmatched.unsettled hitem hactive
  have happly := applyTarget_final hfinal hid hitem hunsettled happlied
  -- The one reservation that changes stops being active, and is settled or not.
  have hactiveSum : ∀ scope, shares Reservation.active (moved applied proposalId record target
      now) scope + (if item.scope = scope then item.amount else 0) =
      shares Reservation.active store scope := by
    intro scope
    have hsum := sum_values_set (share Reservation.active scope)
      { item with active := false, settled := decide (target = .settled) } hitem
    simp only [share, hactive, and_true, Bool.false_eq_true, and_false, if_false] at hsum
    rw [happly]
    exact hsum
  have hsettledSum : ∀ scope, shares Reservation.settled (moved applied proposalId record target
      now) scope = shares Reservation.settled store scope +
        if item.scope = scope ∧ target = .settled then item.amount else 0 := by
    intro scope
    have hsum := sum_values_set (share Reservation.settled scope)
      { item with active := false, settled := decide (target = .settled) } hitem
    have hkept : Reservation.scope
        { item with active := false, settled := decide (target = .settled) } = item.scope := rfl
    simp only [share, hunsettled, Bool.false_eq_true, and_false, if_false, Nat.add_zero, hkept,
      decide_eq_true_eq] at hsum
    rw [happly]
    exact hsum
  constructor
  · intro principal wallet chainId asset hasked
    have hsum := hactiveSum record.proposal.scope
    rw [if_pos hscope, hamount] at hsum
    rw [budgetTotals_eq, budgetTotals_eq, hasked]
    exact hsum
  · intro principal wallet chainId asset hasked
    have hsum := hsettledSum record.proposal.scope
    simp only [hscope, true_and, hamount] at hsum
    rw [budgetTotals_eq, budgetTotals_eq, hasked]
    exact hsum
  · intro principal wallet chainId asset hasked
    have hpending := hactiveSum (principal, host.lower wallet, chainId, asset)
    have hsettled := hsettledSum (principal, host.lower wallet, chainId, asset)
    rw [← hscope] at hasked
    rw [if_neg (Ne.symm hasked), Nat.add_zero] at hpending
    rw [if_neg fun hboth => hasked hboth.1.symm, Nat.add_zero] at hsettled
    rw [budgetTotals_eq, budgetTotals_eq, hpending, hsettled]

end AegisLedger.Gateway.BudgetTotals
