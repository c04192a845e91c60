import AegisLedger.Gateway.Proofs.MandateBudget
import AegisLedger.Support.Raises

/-!
# Chains of delegation

`_active` returns a mandate only after it has passed every mandate of the chain above it, so a
revoked mandate stops all that descend from it, whatever is registered later: nothing leaves
the set of revoked identifiers.

A first registration hangs a mandate below mandates that are registered already.  A second one
under the same identifier moves it, and can move it below itself; then `_active` never returns
on it.  Where no registration does that, all chains end.
-/

namespace AegisLedger.Gateway.MandateChains

open AegisLedger.Support Checks Dict Ancestry
open MandateLedger MandateBudget

variable {host : Host} {ledger after : MandateLedger} {trace : List Event}

/-! ## Revocation -/

variable {mandateId parentId : Uuid}

theorem parentOf_eq_some (h : parentOf ledger mandateId = some parentId) :
    ∃ mandate, ledger.mandates.get? mandateId = some mandate ∧
      mandate.parentMandateId = some parentId :=
  Option.bind_eq_some_iff.mp h

variable {chain : Nat → Datetime} {stack : Nat} {mandate : IntentMandateV1}

/-- A mandate is active only if its parent is. -/
theorem active_parent {depth : Nat} (h : ledger.active chain stack depth mandateId = .ok mandate)
    (hparent : parentOf ledger mandateId = some parentId) :
    ∃ stack depth parent, ledger.active chain stack depth parentId = .ok parent := by
  cases stack with
  | zero => cases h
  | succ stack =>
    obtain ⟨found, hfound, hparentId⟩ := parentOf_eq_some hparent
    rw [active, hfound] at h
    simp only [orRaise, ok_bind, raiseIf_bind_eq_ok, hparentId] at h
    obtain ⟨_, _, h⟩ := h
    rw [bind_eq_ok] at h
    obtain ⟨parent, hactive, _⟩ := h
    exact ⟨stack, depth + 1, parent, hactive⟩

theorem not_revoked_of_active {depth : Nat}
    (h : ledger.active chain stack depth mandateId = .ok mandate) : mandateId ∉ ledger.revoked := by
  cases stack with
  | zero => cases h
  | succ stack =>
    rw [active, orRaise_bind_eq_ok] at h
    obtain ⟨_, _, h⟩ := h
    rw [raiseIf_bind_eq_ok] at h
    exact h.1

theorem active_ne_ok {revokedId : Uuid} (hchain : Descends (parentOf ledger) mandateId revokedId)
    (hrevoked : revokedId ∈ ledger.revoked) (stack depth : Nat) (mandate : IntentMandateV1) :
    ledger.active chain stack depth mandateId ≠ .ok mandate := by
  induction hchain using Relation.ReflTransGen.head_induction_on generalizing stack depth mandate
    with
  | refl =>
    intro h
    exact not_revoked_of_active h hrevoked
  | head hstep _ ih =>
    intro h
    obtain ⟨stack, depth, parent, hparent⟩ := active_parent h hstep
    exact ih stack depth parent hparent

variable {readings : LedgerReadings}

theorem active_of_register {publicKey : Bytes}
    (h : ledger.register host mandate publicKey readings stack = .ok after)
    (hparent : mandate.parentMandateId = some parentId) :
    ∃ parent, ledger.active readings.chain stack 0 parentId = .ok parent := by
  rw [register] at h
  simp only [orRaise_bind_eq_ok, raiseIf_bind_eq_ok, mapError_bind_eq_ok, hparent] at h
  obtain ⟨_, _, _, _, _, _, _, _, h⟩ := h
  rw [bind_eq_ok] at h
  obtain ⟨parent, hactive, _⟩ := h
  exact ⟨parent, hactive⟩

theorem revoked_step {event : Event} (hstep : Step host ledger event after) :
    ledger.revoked ⊆ after.revoked ∧
      ∀ mandateId actor, event = ⟨.revoke mandateId actor, true⟩ → mandateId ∈ after.revoked := by
  cases hstep with
  | raises => exact ⟨fun _ h => h, nofun⟩
  | @returns _ call hperform =>
    cases call with
    | register mandate publicKey readings stack =>
      obtain ⟨mandateId, _, rfl⟩ := register_cases hperform
      exact ⟨fun _ h => h, nofun⟩
    | revoke mandateId actor =>
      rw [revoke_cases hperform]
      refine ⟨fun _ h => List.mem_cons_of_mem _ h, ?_⟩
      rintro _ _ ⟨⟩
      exact List.mem_cons_self
    | consume proposal cart merchantPublicKey audience readings stack =>
      obtain ⟨_, _, _, _, _, _, _, _, _, _, _, _, rfl⟩ := consume_eq_ok hperform
      exact ⟨fun _ h => h, nofun⟩

/-- Once a mandate is revoked, neither it nor a mandate whose chain of parents reaches it is
consumed, or made the parent of another. -/
theorem revocation_permanent {revokedId : Uuid} {actor : Str}
    (hrun : Run (Step host) .empty trace ledger) (hrevoke : ⟨.revoke revokedId actor, true⟩ ∈ trace)
    {mandateId : Uuid} (hchain : Descends (parentOf ledger) mandateId revokedId) :
    (∀ proposal cart merchantPublicKey audience readings stack after, cart.mandateId = mandateId →
      ledger.consume host proposal cart merchantPublicKey audience readings stack ≠ .ok after) ∧
    ∀ mandate publicKey readings stack after, mandate.parentMandateId = some mandateId →
      ledger.register host mandate publicKey readings stack ≠ .ok after := by
  have hrevoked : revokedId ∈ ledger.revoked := by
    apply hrun.invariant (I := fun trace ledger => ⟨.revoke revokedId actor, true⟩ ∈ trace →
      revokedId ∈ ledger.revoked) ?_ ?_ hrevoke
    · intro hnil
      cases hnil
    · intro trace ledger event after _ hbefore hstep hmem
      obtain ⟨hkeeps, hnew⟩ := revoked_step hstep
      rcases List.mem_append.mp hmem with hmem | hmem
      · exact hkeeps (hbefore hmem)
      · exact hnew revokedId actor (List.mem_singleton.mp hmem).symm
  constructor
  · intro proposal cart merchantPublicKey audience readings stack after hcart hconsume
    obtain ⟨mandate, _, _, _, hactive, _⟩ := consume_eq_ok hconsume
    rw [hcart] at hactive
    exact active_ne_ok hchain hrevoked stack 0 mandate hactive
  · intro mandate publicKey readings stack after hparent hregister
    obtain ⟨parent, hactive⟩ := active_of_register hregister hparent
    exact active_ne_ok hchain hrevoked stack 0 parent hactive

section Samples

open SignedEffect AttestationSoundness

def revokedLedger : MandateLedger := { firstLedger with revoked := [rootId] }

def revokedTrace : List Event :=
  [⟨registerCall rootMandate ownerKey, true⟩, ⟨registerCall firstMandate agentKey, true⟩,
    ⟨.revoke rootId ownerAddress.val, true⟩]

/-- The owner revokes the root; the cart of the child and a second child are refused. -/
theorem revokedTrace_permanent :
    firstLedger.perform mandateHost (consumeCall firstPurchase firstCart) = .ok firstCharged ∧
      (∀ after, revokedLedger.perform mandateHost (consumeCall firstPurchase firstCart) ≠
        .ok after) ∧
      ∀ after, revokedLedger.perform mandateHost (registerCall secondMandate agentKey) ≠
        .ok after := by
  have hfacts : firstLedger.perform mandateHost (.revoke rootId ownerAddress.val) =
        .ok revokedLedger ∧
      parentOf revokedLedger firstId = some rootId := by
    decide +kernel
  obtain ⟨hrevokes, hparent⟩ := hfacts
  have hrun : Run (Step mandateHost) .empty revokedTrace revokedLedger :=
    .snoc (.snoc (.snoc .refl (.returns rootMandate_registers)) (.returns firstMandate_registers))
      (.returns hrevokes)
  have hmem : ⟨.revoke rootId ownerAddress.val, true⟩ ∈ revokedTrace := by
    simp [revokedTrace]
  have hchild := revocation_permanent hrun hmem ((Descends.refl _ rootId).head hparent)
  have hroot := revocation_permanent hrun hmem (Descends.refl _ rootId)
  exact ⟨firstCart_charges, fun after => hchild.1 _ _ _ _ _ _ after rfl,
    fun after => hroot.2 _ _ _ _ after rfl⟩

end Samples

/-! ## Chains that end -/

/-- A mandate is registered again only below mandates whose chain of parents does not reach
it. -/
def Loopless (ledger : MandateLedger) : Event → Prop
  | ⟨.register mandate _ _ _, true⟩ => ∀ mandateId parentId,
      mandate.mandateId = some mandateId → mandate.parentMandateId = some parentId →
      (ledger.mandates.get? mandateId).isSome = true →
      ¬ Descends (parentOf ledger) parentId mandateId
  | _ => True

structure Forest (ledger : MandateLedger) : Prop where
  /-- Parents are registered. -/
  closed : ∀ mandateId parentId, parentOf ledger mandateId = some parentId →
    (ledger.mandates.get? parentId).isSome = true
  grounded : Grounded (parentOf ledger)

theorem forest_empty : Forest .empty where
  closed := fun _ _ h => nomatch h
  grounded := ⟨fun _ => ⟨_, fun _ h => nomatch h⟩⟩

theorem Forest.congr (h : Forest ledger) (hmandates : after.mandates = ledger.mandates) :
    Forest after := by
  have hparent : parentOf after = parentOf ledger := by
    funext mandateId
    rw [parentOf, hmandates, parentOf]
  constructor
  · rw [hparent, hmandates]
    exact h.closed
  · rw [hparent]
    exact h.grounded

theorem Forest.isSome_of_descends (h : Forest ledger) {above : Uuid}
    (hchain : Descends (parentOf ledger) mandateId above)
    (hregistered : (ledger.mandates.get? mandateId).isSome = true) :
    (ledger.mandates.get? above).isSome = true := by
  induction hchain with
  | refl => exact hregistered
  | tail _ hstep _ => exact h.closed _ _ hstep

theorem parentOf_enter (mandateId other : Uuid) (mandate : IntentMandateV1) :
    parentOf (ledger.enter mandateId mandate) other =
      if other = mandateId then mandate.parentMandateId else parentOf ledger other := by
  rw [parentOf, get?_enter]
  split_ifs
  · rfl
  · rfl

theorem Forest.enter (h : Forest ledger)
    (hregistered : ∀ parentId, mandate.parentMandateId = some parentId →
      (ledger.mandates.get? parentId).isSome = true)
    (hapart : ∀ parentId, mandate.parentMandateId = some parentId →
      ¬ Descends (parentOf ledger) parentId mandateId) :
    Forest (ledger.enter mandateId mandate) := by
  constructor
  · intro other parentId hparent
    rw [parentOf_enter] at hparent
    have hbefore : (ledger.mandates.get? parentId).isSome = true := by
      split_ifs at hparent
      · exact hregistered parentId hparent
      · exact h.closed other parentId hparent
    rw [get?_enter]
    split_ifs
    · rfl
    · exact hbefore
  · apply h.grounded.update (x := mandateId)
    · intro other hother
      rw [parentOf_enter, if_neg hother]
    · intro parentId hparent
      rw [parentOf_enter, if_pos rfl] at hparent
      exact hapart parentId hparent

theorem forest_step {event : Event} (h : Forest ledger) (hstep : Step host ledger event after)
    (hloopless : Loopless ledger event) : Forest after := by
  cases hstep with
  | raises => exact h
  | @returns _ call hperform =>
    cases call with
    | register mandate publicKey readings stack =>
      obtain ⟨mandateId, hid, rfl⟩ := register_cases hperform
      have hregistered : ∀ parentId, mandate.parentMandateId = some parentId →
          (ledger.mandates.get? parentId).isSome = true := by
        intro parentId hparent
        obtain ⟨parent, hactive⟩ := active_of_register hperform hparent
        rw [get?_of_active hactive]
        rfl
      apply h.enter hregistered
      intro parentId hparent hchain
      have hagain := h.isSome_of_descends hchain (hregistered parentId hparent)
      exact hloopless mandateId parentId hid hparent hagain hchain
    | revoke mandateId actor =>
      rw [revoke_cases hperform]
      exact h.congr rfl
    | consume proposal cart merchantPublicKey audience readings stack =>
      obtain ⟨_, _, _, _, _, _, _, _, _, _, _, _, rfl⟩ := consume_eq_ok hperform
      exact h.congr rfl

/-! ## Frames -/

/-- The computation does not run out of frames. -/
abbrev Returns {α : Type} (x : Except LedgerError α) : Prop :=
  OnlyRaises (fun error => error ≠ .recursionError) x

theorem exists_frames (h : Grounded (parentOf ledger)) (mandateId : Uuid) :
    ∃ frames, ∀ stack, frames ≤ stack → ∀ chain depth,
      Returns (ledger.active chain stack depth mandateId) := by
  induction mandateId using h.induction with
  | _ mandateId ih =>
    have hparents : ∃ frames, ∀ parentId, parentOf ledger mandateId = some parentId →
        ∀ stack, frames ≤ stack → ∀ chain depth,
          Returns (ledger.active chain stack depth parentId) := by
      cases hparent : parentOf ledger mandateId with
      | none => exact ⟨0, fun parentId h => absurd h.symm (Option.some_ne_none parentId)⟩
      | some parentId =>
        obtain ⟨frames, hframes⟩ := ih parentId hparent
        refine ⟨frames, ?_⟩
        rintro _ ⟨⟩
        exact hframes
    obtain ⟨frames, hframes⟩ := hparents
    refine ⟨frames + 1, ?_⟩
    intro stack hstack chain depth
    obtain ⟨stack, rfl⟩ : ∃ less, stack = less + 1 := ⟨stack - 1, by omega⟩
    unfold active
    refine .bind (.orRaise fun _ => LedgerError.noConfusion) fun mandate hmandate =>
      .raiseIf_bind LedgerError.noConfusion <| .raiseIf_bind LedgerError.noConfusion ?_
    split
    · rename_i parentId hparent
      have habove : parentOf ledger mandateId = some parentId := by
        rw [parentOf, orRaise_eq_ok.mp hmandate]
        exact hparent
      exact .bind (hframes parentId habove stack (by omega) chain (depth + 1))
        fun _ _ => .ok mandate
    · exact .ok mandate

theorem mapError_bind_returns {α β : Type} {x : Except CanonicalError α}
    {next : α → Except LedgerError β} (hnext : ∀ a, Returns (next a)) :
    Returns (x.mapError LedgerError.canonical >>= next) := by
  cases x with
  | error error => exact .error nofun
  | ok value => exact hnext value

theorem register_returns {publicKey : Bytes}
    (hactive : ∀ mandateId, Returns (ledger.active readings.chain stack 0 mandateId)) :
    Returns (ledger.register host mandate publicKey readings stack) := by
  unfold register
  refine .orRaise_bind nofun fun mandateId => .raiseIf_bind nofun <| mapError_bind_returns
    fun payload => .raiseIf_bind nofun <| .raiseIf_bind nofun <| .raiseIf_bind nofun ?_
  split
  · rename_i parentId _
    refine .bind (hactive parentId) fun parent _ => .bind ?_ fun _ _ => .ok _
    exact .orRaise_bind nofun fun _ => .orRaise_bind nofun fun _ => .raiseIf nofun
  · exact .ok _

theorem verifyCart_returns {cart : CartMandateV1} {merchantPublicKey : Bytes} {now : Datetime} :
    Returns (ledger.verifyCart host cart merchantPublicKey now) := by
  unfold verifyCart
  exact .raiseIf_bind nofun <| .raiseIf_bind nofun <| mapError_bind_returns fun _ =>
    .raiseIf_bind nofun <| mapError_bind_returns fun _ => .raiseIf_bind nofun (.ok _)

theorem verifyScope_returns {proposal : ProposalV1} {cart : CartMandateV1} {audience : Str} :
    Returns (verifyScope host mandate proposal cart audience) := by
  unfold verifyScope
  exact mapError_bind_returns fun _ => .raiseIf_bind nofun <| mapError_bind_returns fun _ =>
    .raiseIf_bind nofun <| .raiseIf_bind nofun <| .raiseIf_bind nofun <| .raiseIf_bind nofun <|
    .raiseIf_bind nofun <| .raiseIf_bind nofun <| .orRaise_bind nofun fun _ =>
    .raiseIf_bind nofun (.raiseIf nofun)

theorem consume_returns {proposal : ProposalV1} {cart : CartMandateV1} {merchantPublicKey : Bytes}
    {audience : Str}
    (hactive : ∀ mandateId, Returns (ledger.active readings.chain stack 0 mandateId)) :
    Returns (ledger.consume host proposal cart merchantPublicKey audience readings stack) := by
  unfold consume
  exact .bind (hactive _) fun mandate _ => .bind verifyCart_returns fun _ _ =>
    .bind verifyScope_returns fun _ _ => .orRaise_bind nofun fun _ => .orRaise_bind nofun fun _ =>
    .raiseIf_bind nofun (.ok _)

/-- In every run whose registrations are loopless the links to parents have no cycle, and a
number of frames is enough for every call. -/
theorem delegation_wellFounded
    (hrun : Run (fun ledger event after => Step host ledger event after ∧
      Loopless ledger event) .empty trace ledger) :
    (∀ mandateId, ¬ Relation.TransGen (fun child parent => parentOf ledger child = some parent)
      mandateId mandateId) ∧
    ∃ frames, ∀ stack, frames ≤ stack →
      (∀ chain depth mandateId,
        ledger.active chain stack depth mandateId ≠ .error .recursionError) ∧
      (∀ mandate publicKey readings,
        ledger.register host mandate publicKey readings stack ≠ .error .recursionError) ∧
      ∀ proposal cart merchantPublicKey audience readings,
        ledger.consume host proposal cart merchantPublicKey audience readings stack ≠
          .error .recursionError := by
  have hforest : Forest ledger :=
    hrun.invariant forest_empty fun _ hbefore hstep => forest_step hbefore hstep.1 hstep.2
  refine ⟨hforest.grounded.not_cycle, ?_⟩
  choose frames hframes using exists_frames hforest.grounded
  obtain ⟨bound, hbound⟩ := Finite.exists_le frames
  refine ⟨bound, fun stack hstack => ?_⟩
  have hactive : ∀ chain depth mandateId, Returns (ledger.active chain stack depth mandateId) :=
    fun chain depth mandateId => hframes mandateId stack ((hbound mandateId).trans hstack)
      chain depth
  refine ⟨?_, ?_, ?_⟩
  · intro chain depth mandateId h
    exact hactive chain depth mandateId _ h rfl
  · intro mandate publicKey readings h
    exact register_returns (hactive readings.chain 0) _ h rfl
  · intro proposal cart merchantPublicKey audience readings h
    exact consume_returns (hactive readings.chain 0) _ h rfl

/-- A child of a registered root, and its purchase. -/
theorem purchaseTrace_wellFounded :
    parentOf firstCharged firstId = some rootId ∧
      ¬ Relation.TransGen (fun child parent => parentOf firstCharged child = some parent)
        firstId firstId ∧
      ∃ stack, firstCharged.active (fun _ => SignedEffect.sampleNow) stack 0 firstId ≠
        .error .recursionError := by
  have hfresh : MandateLedger.empty.mandates.get? rootId = none ∧
      rootLedger.mandates.get? firstId = none ∧ parentOf firstCharged firstId = some rootId := by
    decide +kernel
  obtain ⟨hroot, hfirst, hparent⟩ := hfresh
  have hrun : Run (fun ledger event after => Step mandateHost ledger event after ∧
      Loopless ledger event) .empty purchaseTrace firstCharged := by
    apply purchaseTrace_run ?_ ?_ trivial
    · intro mandateId parentId _ hnone
      cases hnone
    · intro mandateId parentId hid _ hagain
      have hsame : mandateId = firstId := (Option.some.inj hid).symm
      rw [hsame, hfirst] at hagain
      cases hagain
  obtain ⟨hcycle, frames, hframes⟩ := delegation_wellFounded hrun
  exact ⟨hparent, hcycle firstId, frames, (hframes frames le_rfl).1 _ _ _⟩

section Samples

open HexText SignedEffect AttestationSoundness

def loopId : Uuid := 0x19f7518fe0070008000000000000024

/-- A mandate of the agent to itself. -/
def loopMandate : IntentMandateV1 :=
  sampleMandate loopId agentAddress agentSubject 100
    ⟨"loop-intent".toList, by decide⟩ none (signatureLiteral
    0xb765418018326e55fb4f560c1c9237f0ea3f72c2e4234006add14d570737e24e
    0xb392d282c5d100eca522dda20171fb4004b201ec4a923311fa9105621f8b3700)

/-- The same again, with a fresh nonce and itself as parent. -/
def loopedMandate : IntentMandateV1 :=
  sampleMandate loopId agentAddress agentSubject 100
    ⟨"looped-intent".toList, by decide⟩ (some loopId) (signatureLiteral
    0x021b9e640e1b54e32d0a9a6a076bd08f6792750b3d3c9d0eef41f9b7b0885364
    0x81a4d78dcf417b040d9736b3805b8f11184b4f110bfa0015e1ebbc701d76ee0c)

/-- The real digests and signatures of the two mandates. -/
def loopHost : Host := { mandateHost with
  ed25519Verify := fun key message signature =>
    [loopMandate, loopedMandate].any fun mandate =>
      key = agentKey ∧ some signature = fromHex mandate.signature.val ∧
        message = canonicalText (mandate.unsignedDump textHost) }

def loopLedger : MandateLedger := MandateLedger.empty.enter loopId loopMandate

def loopedLedger : MandateLedger := loopLedger.enter loopId loopedMandate

def loopedTrace : List Event :=
  [⟨registerCall loopMandate agentKey, true⟩, ⟨registerCall loopedMandate agentKey, true⟩]

/-- A mandate that is its own parent is walked until the frames run out. -/
theorem active_of_selfParent {mandateId : Uuid} {mandate : IntentMandateV1}
    {chain : Nat → Datetime} (hget : ledger.mandates.get? mandateId = some mandate)
    (hparent : mandate.parentMandateId = some mandateId) (hrevoked : mandateId ∉ ledger.revoked)
    (hcurrent : ∀ depth, chain depth < mandate.expiresAt) (stack depth : Nat) :
    ledger.active chain stack depth mandateId = .error .recursionError := by
  induction stack generalizing depth with
  | zero => rfl
  | succ stack ih =>
    rw [active, hget]
    simp only [orRaise, ok_bind, raiseIf, if_neg hrevoked, if_neg (not_le.mpr (hcurrent depth)),
      hparent]
    rw [ih]
    rfl

theorem delegation_loops :
    Run (Step loopHost) .empty loopedTrace loopedLedger ∧
      parentOf loopedLedger loopId = some loopId ∧
      ∀ stack depth, loopedLedger.active (fun _ => sampleNow) stack depth loopId =
        .error .recursionError := by
  have hfacts : MandateLedger.empty.perform loopHost (registerCall loopMandate agentKey) =
        .ok loopLedger ∧
      loopLedger.perform loopHost (registerCall loopedMandate agentKey) = .ok loopedLedger ∧
      loopedLedger.mandates.get? loopId = some loopedMandate ∧
      parentOf loopedLedger loopId = some loopId := by
    decide +kernel
  obtain ⟨hloop, hlooped, hget, hparent⟩ := hfacts
  refine ⟨.snoc (.snoc .refl (.returns hloop)) (.returns hlooped), hparent, ?_⟩
  exact active_of_selfParent hget rfl (by simp [loopedLedger, loopLedger, enter,
    MandateLedger.empty]) fun _ => by decide

end Samples

end AegisLedger.Gateway.MandateChains
