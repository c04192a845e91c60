import AegisLedger.Gateway.Protocols
import AegisLedger.Gateway.Proofs.RecordHistory

/-!
# Payments and their records

The x402 adapter submits to `MemoryStateStore.reserve` under a key that is made of the nonce
of the counterparty, and returns the proposal it has built whatever the store answers.  The
store keeps the first proposal under each pair of principal and key.  So the proposals that
were returned are those in the store exactly if no two payments share a key, or an
identifier, without being the same proposal.
-/

namespace AegisLedger.Gateway.PaymentRecords

open AegisLedger.Support HexText Checks Dict MemoryStateStore BudgetSafety RecordHistory

/-! ## Runs of authorizations -/

/-- One call of `authorize`, with the policy in force, the clock readings of `reserve` and the
identifiers that `uuid7` returns. -/
structure PaymentCall where
  request : X402PaymentRequestV1
  principalId : Str
  wallet : Str
  proposalId : {u : Uuid // uuidVersion u = some 7}
  policy : PolicyV1
  readings : ReserveReadings
  reservationId : Uuid

def PaymentCall.proposal (call : PaymentCall) : Except (List String) ProposalV1 :=
  call.request.proposal call.principalId call.wallet call.proposalId

def PaymentCall.authorize (store : MemoryStateStore) (call : PaymentCall) :
    Except (X402Error StoreError) (ProposalV1 × MemoryStateStore) :=
  call.request.authorize
    (fun store proposal => store.reserve proposal call.policy call.readings call.reservationId)
    call.principalId call.wallet call.proposalId store

/-- The store and the proposals that were returned. -/
structure Payments where
  store : MemoryStateStore
  returned : List ProposalV1

/-- A call that raises leaves the store as it was. -/
def Payments.perform (payments : Payments) (call : PaymentCall) : Payments :=
  match call.authorize payments.store with
  | .ok (proposal, after) => ⟨after, payments.returned ++ [proposal]⟩
  | .error _ => payments

def paymentsAfter (calls : List PaymentCall) : Payments :=
  calls.foldl Payments.perform ⟨.empty, []⟩

/-- The store has the proposal under its identifier. -/
def Holds (store : MemoryStateStore) (proposal : ProposalV1) : Prop :=
  (store.get proposal.proposalId.val).map ProposalRecord.proposal = some proposal

/-! ## The invariant -/

/-- Every key leads to a record, every record is of a proposal that was returned and is found
under its key, and every proposal that was returned has a key in the store. -/
structure Recorded (store : MemoryStateStore) (returned : List ProposalV1) : Prop where
  filed : ∀ key proposalId, store.idempotency.get? key = some proposalId →
    (store.records.get? proposalId).isSome = true ∧
      ∃ p ∈ returned, keyOf p = key ∧ p.proposalId.val = proposalId
  indexed : ∀ proposalId record, store.records.get? proposalId = some record →
    record.proposal ∈ returned ∧ record.proposal.proposalId.val = proposalId ∧
      store.idempotency.get? (keyOf record.proposal) = some proposalId
  answered : ∀ p ∈ returned, (store.idempotency.get? (keyOf p)).isSome = true

theorem recorded_empty : Recorded .empty [] where
  filed _ _ h := by cases h
  indexed _ _ h := by cases h
  answered _ h := by cases h

section Step

variable {store after : MemoryStateStore} {returned : List ProposalV1} {proposal : ProposalV1}

theorem recorded_duplicate (h : Recorded store returned)
    (hknown : (store.idempotency.get? (keyOf proposal)).isSome = true) :
    Recorded store (returned ++ [proposal]) where
  filed key proposalId hkey := by
    obtain ⟨hrecord, p, hp, hfound⟩ := h.filed key proposalId hkey
    exact ⟨hrecord, p, List.mem_append_left _ hp, hfound⟩
  indexed proposalId record hrecord := by
    obtain ⟨hreturned, hfound⟩ := h.indexed proposalId record hrecord
    exact ⟨List.mem_append_left _ hreturned, hfound⟩
  answered p hp := by
    rcases List.mem_append.mp hp with hp | hp
    · exact h.answered p hp
    · rw [List.mem_singleton.mp hp]
      exact hknown

theorem recorded_putRecord (record : ProposalRecord) (h : Recorded store returned)
    (hnew : store.idempotency.get? (keyOf record.proposal) = none) :
    Recorded (store.putRecord (keyOf record.proposal) record) (returned ++ [record.proposal]) := by
  have hlast : record.proposal ∈ returned ++ [record.proposal] := by simp
  constructor
  · intro key proposalId hkey
    change (store.idempotency.set _ _).get? key = _ at hkey
    change ((store.records.set _ _).get? proposalId).isSome = true ∧ _
    rw [get?_set] at hkey ⊢
    split_ifs at hkey with hsame
    · obtain rfl := Option.some.inj hkey
      rw [if_pos rfl]
      exact ⟨rfl, record.proposal, hlast, hsame.symm, rfl⟩
    · obtain ⟨hrecord, p, hp, hfound⟩ := h.filed key proposalId hkey
      refine ⟨?_, p, List.mem_append_left _ hp, hfound⟩
      split_ifs
      · rfl
      · exact hrecord
  · intro proposalId other hother
    change (store.records.set _ _).get? proposalId = _ at hother
    change _ ∧ _ ∧ (store.idempotency.set _ _).get? _ = _
    rw [get?_set] at hother ⊢
    split_ifs at hother with hsame
    · obtain rfl := Option.some.inj hother
      rw [if_pos rfl, hsame]
      exact ⟨hlast, rfl, rfl⟩
    · obtain ⟨hreturned, hid, hkey⟩ := h.indexed proposalId other hother
      have hother : keyOf other.proposal ≠ keyOf record.proposal := by
        intro heq
        rw [heq, hnew] at hkey
        cases hkey
      rw [if_neg hother]
      exact ⟨List.mem_append_left _ hreturned, hid, hkey⟩
  · intro p hp
    change ((store.idempotency.set _ _).get? _).isSome = true
    rw [get?_set]
    split_ifs with hsame
    · rfl
    · rcases List.mem_append.mp hp with hp | hp
      · exact h.answered p hp
      · rw [List.mem_singleton.mp hp] at hsame
        exact absurd rfl hsame

theorem recorded_reserve {policy : PolicyV1} {readings : ReserveReadings} {reservationId : Uuid}
    {result : ReservationResult} (h : Recorded store returned)
    (hreserve : store.reserve proposal policy readings reservationId = .ok (result, after)) :
    Recorded after (returned ++ [proposal]) := by
  rcases reserve_cases hreserve with ⟨duplicateId, _, hknown, _, _, rfl⟩ | ⟨hnew, hwritten⟩
  · exact recorded_duplicate h (Option.isSome_iff_exists.mpr ⟨duplicateId, hknown⟩)
  · rcases hwritten with ⟨reasons, _, _, _, rfl⟩ | ⟨_, _, rfl⟩
    · exact recorded_putRecord ⟨proposal, _, _, _, _, _, _⟩ h hnew
    · exact recorded_putRecord ⟨proposal, _, _, _, _, _, _⟩ ⟨h.filed, h.indexed, h.answered⟩ hnew

/-- `reserve` does not raise: the identifier under a key has a record. -/
theorem exists_reserve (h : Recorded store returned) (proposal : ProposalV1) (policy : PolicyV1)
    (readings : ReserveReadings) (reservationId : Uuid) :
    ∃ result after, store.reserve proposal policy readings reservationId =
      .ok (result, after) := by
  unfold MemoryStateStore.reserve
  dsimp only
  cases hkey : store.idempotency.get? (proposal.principalId.val, proposal.idempotencyKey.val) with
  | none =>
    dsimp only
    split_ifs
    · exact ⟨_, _, rfl⟩
    · exact ⟨_, _, rfl⟩
  | some duplicateId =>
    obtain ⟨record, hrecord⟩ := Option.isSome_iff_exists.mp (h.filed _ _ hkey).1
    dsimp only
    rw [hrecord]
    exact ⟨_, _, rfl⟩

end Step

/-! ## Whole runs -/

/-- A call whose fields are valid returns its proposal, and no other call returns. -/
theorem authorize_cases {store : MemoryStateStore} {returned : List ProposalV1}
    (h : Recorded store returned) (call : PaymentCall) :
    (∃ fields, call.proposal = .error fields ∧
        call.authorize store = .error (.validation fields)) ∨
      ∃ proposal after, call.proposal = .ok proposal ∧
        call.authorize store = .ok (proposal, after) ∧
        Recorded after (returned ++ [proposal]) := by
  unfold PaymentCall.authorize X402PaymentRequestV1.authorize
  cases hproposal : call.proposal with
  | error fields =>
    rw [PaymentCall.proposal] at hproposal
    rw [hproposal]
    exact .inl ⟨fields, rfl, rfl⟩
  | ok proposal =>
    rw [PaymentCall.proposal] at hproposal
    obtain ⟨result, after, hreserve⟩ :=
      exists_reserve h proposal call.policy call.readings call.reservationId
    refine .inr ⟨proposal, after, rfl, ?_, recorded_reserve h hreserve⟩
    rw [hproposal]
    change ((store.reserve proposal call.policy call.readings call.reservationId).mapError _ >>=
      _) = _
    rw [hreserve]
    rfl

theorem recorded_perform {payments : Payments} (h : Recorded payments.store payments.returned)
    (call : PaymentCall) :
    Recorded (payments.perform call).store (payments.perform call).returned ∧
      (payments.perform call).returned =
        payments.returned ++ call.proposal.toOption.toList := by
  unfold Payments.perform
  rcases authorize_cases h call with ⟨fields, hinvalid, hraises⟩ | ⟨p, after, hvalid, hok, hafter⟩
  · rw [hraises, hinvalid]
    exact ⟨h, (List.append_nil _).symm⟩
  · rw [hok, hvalid]
    exact ⟨hafter, rfl⟩

theorem recorded_run (calls : List PaymentCall) :
    Recorded (paymentsAfter calls).store (paymentsAfter calls).returned ∧
      (paymentsAfter calls).returned = calls.flatMap fun call => call.proposal.toOption.toList := by
  induction calls using List.reverseRecOn with
  | nil => exact ⟨recorded_empty, rfl⟩
  | append_singleton calls call ih =>
    obtain ⟨hrecorded, hreturned⟩ := ih
    obtain ⟨hnext, hlast⟩ := recorded_perform hrecorded call
    have hperform : paymentsAfter (calls ++ [call]) = (paymentsAfter calls).perform call :=
      List.foldl_append
    rw [hperform, hlast, hreturned, List.flatMap_append, List.flatMap_singleton]
    rw [hlast, hreturned] at hnext
    exact ⟨hnext, rfl⟩

theorem mem_returned {calls : List PaymentCall} {p : ProposalV1} :
    p ∈ (paymentsAfter calls).returned ↔ ∃ call ∈ calls, call.proposal = .ok p := by
  rw [(recorded_run calls).2, List.mem_flatMap]
  constructor
  · rintro ⟨call, hcall, hp⟩
    refine ⟨call, hcall, ?_⟩
    cases hproposal : call.proposal with
    | error fields =>
      rw [hproposal] at hp
      cases hp
    | ok proposal =>
      rw [hproposal] at hp
      rw [List.mem_singleton.mp hp]
  · rintro ⟨call, hcall, hproposal⟩
    refine ⟨call, hcall, ?_⟩
    rw [hproposal]
    exact List.mem_singleton_self p

/-- Proposals that share a key or an identifier are one. -/
def Apart (returned : List ProposalV1) : Prop :=
  ∀ p ∈ returned, ∀ q ∈ returned,
    keyOf p = keyOf q ∨ p.proposalId.val = q.proposalId.val → p = q

theorem holds_iff_apart {store : MemoryStateStore} {returned : List ProposalV1}
    (h : Recorded store returned) : (∀ p ∈ returned, Holds store p) ↔ Apart returned := by
  constructor
  · intro hholds p hp q hq hshared
    obtain ⟨pRecord, hpRecord, hpBody⟩ := Option.map_eq_some_iff.mp (hholds p hp)
    obtain ⟨qRecord, hqRecord, hqBody⟩ := Option.map_eq_some_iff.mp (hholds q hq)
    have hid : p.proposalId.val = q.proposalId.val := by
      rcases hshared with hkey | hid
      · have hpKey := (h.indexed _ _ hpRecord).2.2
        have hqKey := (h.indexed _ _ hqRecord).2.2
        rw [hpBody, hkey] at hpKey
        rw [hqBody, hpKey] at hqKey
        exact Option.some.inj hqKey
      · exact hid
    rw [hid, hqRecord] at hpRecord
    rw [← hpBody, ← hqBody, Option.some.inj hpRecord]
  · intro hapart p hp
    obtain ⟨proposalId, hkey⟩ := Option.isSome_iff_exists.mp (h.answered p hp)
    obtain ⟨hrecord, q, hq, hsame, hid⟩ := h.filed _ _ hkey
    obtain ⟨record, hrecord⟩ := Option.isSome_iff_exists.mp hrecord
    have hfirst : p = q := hapart p hp q hq (.inl hsame.symm)
    rw [← hid, ← hfirst] at hrecord
    obtain ⟨hreturned, hbody, -⟩ := h.indexed _ _ hrecord
    have hown : record.proposal = p := hapart _ hreturned p hp (.inr hbody)
    rw [Holds, MemoryStateStore.get, hrecord, ← hown]
    rfl

/-! ## The calls of a run -/

/-- The principal and the wallet pass the checks of a proposal. -/
def PaymentCall.Valid (call : PaymentCall) : Prop :=
  X402PaymentRequestV1.invalidFields call.principalId call.wallet = []

/-- What a proposal takes from a call: everything but the scheme of the request and the case of
the wallet. -/
def PaymentCall.terms (call : PaymentCall) : X402PaymentRequestV1 × Str × Str × Uuid :=
  ({ call.request with scheme := .exact }, call.principalId, asciiLower call.wallet,
    call.proposalId.val)

theorem isLowerHexDigit_toLower {c : Char} (h : isHexDigit c = true) :
    isLowerHexDigit c.toLower = true := by
  rw [isHexDigit, Bool.or_eq_true] at h
  rcases h with hlower | hupper
  · rw [toLower_of_isLowerHexDigit hlower]
    exact hlower
  · rw [Bool.and_eq_true, decide_eq_true_eq, decide_eq_true_eq] at hupper
    have hchar : c = Char.ofNat c.toNat := (Char.ofNat_toNat c).symm
    generalize c.toNat = n at hupper hchar
    obtain ⟨hlow, hhigh⟩ := hupper
    rw [hchar]
    interval_cases n <;> decide

theorem matchesHex_asciiLower {count : Nat} {s : Str} (h : matchesHex isHexDigit count s = true) :
    matchesHex isLowerHexDigit count (asciiLower s) = true := by
  simp only [matchesHex, hasHexPrefix, Bool.and_eq_true, beq_iff_eq] at h ⊢
  obtain ⟨⟨hmark, hlength⟩, hdigits⟩ := h
  have htake : (asciiLower s).take 2 = ['0', 'x'] := by
    rw [asciiLower, ← List.map_take, hmark]
    rfl
  refine ⟨⟨htake, ?_⟩, ?_⟩
  · rw [asciiLower, ← List.map_drop, List.length_map, hlength]
  · rw [asciiLower, ← List.map_drop, List.all_map, List.all_eq_true]
    intro c hc
    exact isLowerHexDigit_toLower (List.all_eq_true.mp hdigits c hc)

/-- A valid call makes a proposal of its terms. -/
structure Built (call : PaymentCall) (p : ProposalV1) : Prop where
  proposalId : p.proposalId = call.proposalId
  principalId : p.principalId.val = call.principalId
  wallet : p.wallet.val = asciiLower call.wallet
  chainId : p.chainId = call.request.chainId
  asset : p.asset = call.request.asset
  amount : p.amount = call.request.amount
  intent : p.intent = .transfer ⟨call.request.payTo⟩
  deadline : p.deadline = call.request.expiresAt
  idempotencyKey : p.idempotencyKey = call.request.idempotencyKey
  mandateId : p.mandateId = none
  quoteReference : p.quoteReference = some ⟨call.request.resource.val, call.request.length_resource⟩

theorem built_of_proposal {call : PaymentCall} {p : ProposalV1} (h : call.proposal = .ok p) :
    call.Valid ∧ Built call p := by
  rw [PaymentCall.proposal, X402PaymentRequestV1.proposal, raiseIf_bind_eq_ok] at h
  obtain ⟨hvalid, h⟩ := h
  rw [bind_eq_ok] at h
  obtain ⟨principal, hprincipal, h⟩ := h
  rw [bind_eq_ok] at h
  obtain ⟨account, haccount, h⟩ := h
  rw [constrain_eq_ok] at hprincipal haccount
  rw [pure_eq_ok] at h
  subst h
  exact ⟨not_not.mp hvalid, rfl, hprincipal, haccount, rfl, rfl, rfl, rfl, rfl, rfl, rfl, rfl⟩

theorem exists_proposal {call : PaymentCall} (h : call.Valid) : ∃ p, call.proposal = .ok p := by
  have hinvalid := h
  rw [PaymentCall.Valid, X402PaymentRequestV1.invalidFields, List.append_eq_nil_iff,
    noteIf_eq_nil, noteIf_eq_nil, not_not, Bool.not_eq_false] at hinvalid
  obtain ⟨hprincipal, hwallet⟩ := hinvalid
  have haccount := matchesHex_asciiLower hwallet
  rw [PaymentCall.Valid] at h
  unfold PaymentCall.proposal X402PaymentRequestV1.proposal constrain raiseIf
  rw [h]
  dsimp only
  rw [if_neg (not_not.mpr rfl), dif_pos hprincipal, dif_pos haccount]
  exact ⟨_, rfl⟩

section Built

variable {first second : PaymentCall} {p q : ProposalV1}

theorem eq_iff_terms (hfirst : Built first p) (hsecond : Built second q) :
    p = q ↔ first.terms = second.terms := by
  unfold PaymentCall.terms
  simp only [Prod.mk.injEq, X402PaymentRequestV1.mk.injEq, true_and]
  constructor
  · rintro rfl
    have hintent := hfirst.intent.symm.trans hsecond.intent
    have hquote := hfirst.quoteReference.symm.trans hsecond.quoteReference
    have hkey := hfirst.idempotencyKey.symm.trans hsecond.idempotencyKey
    rw [IntentV1.transfer.injEq, TransferIntentV1.mk.injEq] at hintent
    rw [Option.some.injEq, Subtype.mk.injEq] at hquote
    rw [X402PaymentRequestV1.idempotencyKey, X402PaymentRequestV1.idempotencyKey,
      Subtype.mk.injEq, List.append_cancel_left_eq] at hkey
    exact ⟨⟨hfirst.chainId.symm.trans hsecond.chainId, hfirst.asset.symm.trans hsecond.asset,
      hfirst.amount.symm.trans hsecond.amount, hintent, Subtype.ext hquote, Subtype.ext hkey,
      hfirst.deadline.symm.trans hsecond.deadline⟩,
      hfirst.principalId.symm.trans hsecond.principalId, hfirst.wallet.symm.trans hsecond.wallet,
      congrArg Subtype.val (hfirst.proposalId.symm.trans hsecond.proposalId)⟩
  · rintro ⟨⟨hchain, hasset, hamount, hpayTo, hresource, hnonce, hexpires⟩, hprincipal, hwallet,
      hid⟩
    have hprincipal : p.principalId = q.principalId := by
      rw [Subtype.ext_iff, hfirst.principalId, hprincipal, hsecond.principalId]
    have hwallet : p.wallet = q.wallet := by
      rw [Subtype.ext_iff, hfirst.wallet, hwallet, hsecond.wallet]
    have hid : p.proposalId = q.proposalId := by
      rw [hfirst.proposalId, hsecond.proposalId, Subtype.ext hid]
    have hquote : p.quoteReference = q.quoteReference := by
      rw [hfirst.quoteReference, hsecond.quoteReference, Option.some.injEq, Subtype.mk.injEq,
        hresource]
    have hkey : p.idempotencyKey = q.idempotencyKey := by
      rw [hfirst.idempotencyKey, hsecond.idempotencyKey, Subtype.ext_iff]
      exact congrArg (fun nonce => "x402:".toList ++ nonce.val) hnonce
    rw [← hfirst.chainId, ← hsecond.chainId] at hchain
    rw [← hfirst.asset, ← hsecond.asset] at hasset
    rw [← hfirst.amount, ← hsecond.amount] at hamount
    rw [← hfirst.deadline, ← hsecond.deadline] at hexpires
    have hintent : p.intent = q.intent := by rw [hfirst.intent, hsecond.intent, hpayTo]
    have hmandate : p.mandateId = q.mandateId := hfirst.mandateId.trans hsecond.mandateId.symm
    cases p
    cases q
    exact ProposalV1.mk.injEq .. ▸ ⟨hid, hprincipal, hwallet, hchain, hasset, hamount, hintent,
      hexpires, hkey, hmandate, hquote⟩

theorem keyOf_eq_iff (hfirst : Built first p) (hsecond : Built second q) :
    keyOf p = keyOf q ↔ first.principalId = second.principalId ∧
      first.request.nonce = second.request.nonce := by
  rw [keyOf, keyOf, Prod.mk.injEq, hfirst.principalId, hsecond.principalId,
    hfirst.idempotencyKey, hsecond.idempotencyKey]
  change _ ∧ "x402:".toList ++ _ = "x402:".toList ++ _ ↔ _
  rw [List.append_cancel_left_eq, Subtype.val_inj]

end Built

/-- Two calls of one principal with one nonce, or with one value of `uuid7`, are of the same
payment. -/
def Consistent (calls : List PaymentCall) : Prop :=
  ∀ first ∈ calls, ∀ second ∈ calls, first.Valid → second.Valid →
    (first.principalId = second.principalId ∧ first.request.nonce = second.request.nonce) ∨
      first.proposalId.val = second.proposalId.val →
    first.terms = second.terms

/-- After every run of authorizations, the proposals that were returned are those in the store
exactly if the calls are consistent. -/
theorem returned_held_iff (calls : List PaymentCall) :
    (∀ p ∈ (paymentsAfter calls).returned, Holds (paymentsAfter calls).store p) ↔
      Consistent calls := by
  rw [holds_iff_apart (recorded_run calls).1]
  constructor
  · intro hapart first hfirst second hsecond hfirstValid hsecondValid hshared
    obtain ⟨p, hp⟩ := exists_proposal hfirstValid
    obtain ⟨q, hq⟩ := exists_proposal hsecondValid
    obtain ⟨-, hpBuilt⟩ := built_of_proposal hp
    obtain ⟨-, hqBuilt⟩ := built_of_proposal hq
    rw [← keyOf_eq_iff hpBuilt hqBuilt, ← hpBuilt.proposalId, ← hqBuilt.proposalId] at hshared
    rw [← eq_iff_terms hpBuilt hqBuilt]
    exact hapart p (mem_returned.mpr ⟨first, hfirst, hp⟩) q (mem_returned.mpr ⟨second, hsecond, hq⟩)
      hshared
  · intro hconsistent p hp q hq hshared
    obtain ⟨first, hfirst, hp⟩ := mem_returned.mp hp
    obtain ⟨second, hsecond, hq⟩ := mem_returned.mp hq
    obtain ⟨hfirstValid, hpBuilt⟩ := built_of_proposal hp
    obtain ⟨hsecondValid, hqBuilt⟩ := built_of_proposal hq
    rw [keyOf_eq_iff hpBuilt hqBuilt, hpBuilt.proposalId, hqBuilt.proposalId] at hshared
    rw [eq_iff_terms hpBuilt hqBuilt]
    exact hconsistent first hfirst second hsecond hfirstValid hsecondValid hshared

/-! ## A sample run -/

section Samples

open SignedEffect AttestationSoundness

/-- The request of a server, with the nonce that both servers use. -/
def serverRequest (amount : PosInt) (payTo : LowerAddress) : X402PaymentRequestV1 where
  scheme := .exact
  chainId := 31337
  asset := sampleAsset
  amount := amount
  payTo := payTo
  resource := ⟨"https://vendor.example/report".toList, by decide⟩
  nonce := ⟨"nonce-0001".toList, by decide⟩
  expiresAt := sampleDeadline

def payServer (request : X402PaymentRequestV1)
    (proposalId : {u : Uuid // uuidVersion u = some 7}) (reservationId : Uuid) : PaymentCall where
  request := request
  principalId := researcher.val
  wallet := sampleWallet.val
  proposalId := proposalId
  policy := budgetPolicy wideCap
  readings := readingsAt sampleNow
  reservationId := reservationId

/-- A payment of 100 to one server, and one of 70 to another. -/
def twoPayments : List PaymentCall := [
  payServer (serverRequest 100 sampleContract) sampleProposalId firstReservation,
  payServer (serverRequest 70 (lowerAddress 0x99)) otherProposalId secondReservation]

/-- Both proposals are returned; the store has no record of the second, and under its key the
first. -/
theorem twoPayments_loseTheSecond :
    (paymentsAfter twoPayments).returned.map (fun p => (p.amount.val, p.intent)) =
        [(100, .transfer ⟨sampleContract⟩), (70, .transfer ⟨lowerAddress 0x99⟩)] ∧
      (paymentsAfter twoPayments).store.get otherProposalId.val = none ∧
      ((paymentsAfter twoPayments).returned.map fun p =>
        ((paymentsAfter twoPayments).store.idempotency.get? (keyOf p)).bind fun proposalId =>
          ((paymentsAfter twoPayments).store.get proposalId).map fun record =>
            record.proposal.amount.val) = [some 100, some 100] := by
  decide +kernel

end Samples

end AegisLedger.Gateway.PaymentRecords
