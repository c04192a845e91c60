import AegisLedger.Gateway.Proofs.MandateBudget
import AegisLedger.Support.Table

/-!
# Single use of carts

The writes of `consume` follow all of its checks, and the one computation between them has
been made before, so a consume that raises has written nothing.  The two replay sets hold the
hash and the nonce of every cart consumed so far; a consume needs both to be new, so neither
occurs twice in a run.
-/

namespace AegisLedger.Gateway.MandateReplay

open AegisLedger.Support Checks
open MandateLedger MandateBudget

variable {host : Host} {ledger after : MandateLedger} {trace : List Event}

/-! ## Atomicity -/

section Consume

variable {proposal : ProposalV1} {cart : CartMandateV1} {merchantPublicKey : Bytes}
  {audience : Str} {readings : LedgerReadings} {stack : Nat}

theorem cartHash_of_verifyCart {now : Datetime} {hash : Str}
    (h : ledger.verifyCart host cart merchantPublicKey now = .ok hash) :
    cart.cartHash host = .ok hash := by
  rw [verifyCart] at h
  simp only [raiseIf_bind_eq_ok, mapError_bind_eq_ok, pure_eq_ok] at h
  obtain ⟨_, _, _, _, _, found, hfound, _, rfl⟩ := h
  exact hfound

/-- The writes in place are the ledger that `consume` returns, or none. -/
theorem consumeInPlace_eq :
    ledger.consumeInPlace host proposal cart merchantPublicKey audience readings stack =
      match ledger.consume host proposal cart merchantPublicKey audience readings stack with
      | .error error => (.error error, ledger)
      | .ok after => (.ok (), after) := by
  unfold consumeInPlace consume
  cases ledger.active readings.chain stack 0 cart.mandateId with
  | error error => rfl
  | ok mandate =>
    simp only [ok_bind]
    cases hcart : ledger.verifyCart host cart merchantPublicKey readings.own with
    | error error => rfl
    | ok hash =>
      rw [cartHash_of_verifyCart hcart]
      simp only [ok_bind]
      cases verifyScope host mandate proposal cart audience with
      | error error => rfl
      | ok u =>
        simp only [ok_bind]
        cases mandate.mandateId with
        | none => rfl
        | some mandateId =>
          cases hspent : ledger.spent.get? mandateId with
          | none => simp only [orRaise, ok_bind, hspent]; rfl
          | some spent =>
            simp only [orRaise, ok_bind, hspent, raiseIf]
            split_ifs
            · rfl
            · rfl

theorem consumeInPlace_of_error {error : LedgerError}
    (h : (ledger.consumeInPlace host proposal cart merchantPublicKey audience readings stack).1 =
      .error error) :
    (ledger.consumeInPlace host proposal cart merchantPublicKey audience readings stack).2 =
      ledger := by
  rw [consumeInPlace_eq] at h ⊢
  cases hconsume : ledger.consume host proposal cart merchantPublicKey audience readings stack with
  | error raised => rfl
  | ok after =>
    rw [hconsume] at h
    cases h

end Consume

/-! ## Replay sets and history -/

/-- Merchant and nonce of a cart. -/
def nonceKey (cart : CartMandateV1) : Str × Str := (cart.merchant.val, cart.nonce.val)

theorem consumedCarts_append (trace later : List Event) :
    consumedCarts (trace ++ later) = consumedCarts trace ++ consumedCarts later :=
  List.filterMap_append

/-- The replay sets hold every cart consumed so far, and none was consumed twice. -/
structure SingleUse (host : Host) (trace : List Event) (ledger : MandateLedger) : Prop where
  hashes : ∀ cart ∈ consumedCarts trace, ∃ hash ∈ ledger.usedCartHashes,
    cart.cartHash host = .ok hash
  nonces : ∀ cart ∈ consumedCarts trace, nonceKey cart ∈ ledger.usedCartNonces
  distinctHashes : ((consumedCarts trace).map fun cart => cart.cartHash host).Nodup
  distinctNonces : ((consumedCarts trace).map nonceKey).Nodup

theorem singleUse_empty : SingleUse host [] .empty where
  hashes := fun _ hcart => nomatch hcart
  nonces := fun _ hcart => nomatch hcart
  distinctHashes := List.nodup_nil
  distinctNonces := List.nodup_nil

variable {event : Event}

theorem SingleUse.same (h : SingleUse host trace ledger) (hcarts : consumedCarts [event] = [])
    (hhashes : after.usedCartHashes = ledger.usedCartHashes)
    (hnonces : after.usedCartNonces = ledger.usedCartNonces) :
    SingleUse host (trace ++ [event]) after := by
  have hsame : consumedCarts (trace ++ [event]) = consumedCarts trace := by
    rw [consumedCarts_append, hcarts, List.append_nil]
  constructor
  · rw [hsame, hhashes]
    exact h.hashes
  · rw [hsame, hnonces]
    exact h.nonces
  · rw [hsame]
    exact h.distinctHashes
  · rw [hsame]
    exact h.distinctNonces

theorem SingleUse.charge {mandateId : Uuid} {spent : Nat} {hash : Str} {cart : CartMandateV1}
    (h : SingleUse host trace ledger) (hcarts : consumedCarts [event] = [cart])
    (hhash : cart.cartHash host = .ok hash) (hfreshHash : hash ∉ ledger.usedCartHashes)
    (hfreshNonce : nonceKey cart ∉ ledger.usedCartNonces) :
    SingleUse host (trace ++ [event]) (ledger.charge mandateId spent hash cart) := by
  have hjoin : consumedCarts (trace ++ [event]) = consumedCarts trace ++ [cart] := by
    rw [consumedCarts_append, hcarts]
  constructor
  · intro other hother
    rw [hjoin, List.mem_append, List.mem_singleton] at hother
    rcases hother with hother | rfl
    · obtain ⟨found, hfound, heq⟩ := h.hashes other hother
      exact ⟨found, List.mem_cons_of_mem _ hfound, heq⟩
    · exact ⟨hash, List.mem_cons_self, hhash⟩
  · intro other hother
    rw [hjoin, List.mem_append, List.mem_singleton] at hother
    rcases hother with hother | rfl
    · exact List.mem_cons_of_mem _ (h.nonces other hother)
    · exact List.mem_cons_self
  · rw [hjoin]
    apply Table.nodup_map_append h.distinctHashes
    intro hmem
    obtain ⟨other, hother, hsame⟩ := List.mem_map.mp hmem
    obtain ⟨found, hfound, heq⟩ := h.hashes other hother
    rw [heq, hhash, Except.ok.injEq] at hsame
    exact hfreshHash (hsame ▸ hfound)
  · rw [hjoin]
    apply Table.nodup_map_append h.distinctNonces
    intro hmem
    obtain ⟨other, hother, hsame⟩ := List.mem_map.mp hmem
    exact hfreshNonce (hsame ▸ h.nonces other hother)

theorem singleUse_step (h : SingleUse host trace ledger) (hstep : Step host ledger event after) :
    SingleUse host (trace ++ [event]) after := by
  cases hstep with
  | @raises call error _ => cases call <;> exact h.same rfl rfl rfl
  | @returns _ call hperform =>
    cases call with
    | register mandate publicKey readings stack =>
      obtain ⟨mandateId, _, rfl⟩ := register_cases hperform
      exact h.same rfl rfl rfl
    | revoke mandateId actor =>
      rw [revoke_cases hperform]
      exact h.same rfl rfl rfl
    | consume proposal cart merchantPublicKey audience readings stack =>
      obtain ⟨mandate, mandateId, spent, hash, _, _, _, _, _, hhash, hfreshHash, hfreshNonce,
        rfl⟩ := consume_eq_ok hperform
      exact h.charge rfl hhash hfreshHash hfreshNonce

/-- In every state of every run a consume that raises changes nothing, no cart hash and no
nonce of a merchant has been consumed twice, and a consume that returns is for a mandate in
the ledger that agrees with its cart and proposal. -/
theorem consume_atomic_singleUse (hrun : Run (Step host) .empty trace ledger) :
    (∀ proposal cart merchantPublicKey audience readings stack error,
      (ledger.consumeInPlace host proposal cart merchantPublicKey audience readings stack).1 =
        .error error →
      (ledger.consumeInPlace host proposal cart merchantPublicKey audience readings stack).2 =
        ledger) ∧
    ((consumedCarts trace).map fun cart => cart.cartHash host).Nodup ∧
    ((consumedCarts trace).map nonceKey).Nodup ∧
    ∀ proposal cart merchantPublicKey audience readings stack,
      (ledger.consumeInPlace host proposal cart merchantPublicKey audience readings stack).1 =
        .ok () →
      ∃ mandate, ledger.mandates.get? cart.mandateId = some mandate ∧
        Agrees host mandate proposal cart audience := by
  have hsingle : SingleUse host trace ledger :=
    hrun.invariant singleUse_empty fun _ hbefore hstep => singleUse_step hbefore hstep
  refine ⟨fun _ _ _ _ _ _ _ => consumeInPlace_of_error, hsingle.distinctHashes,
    hsingle.distinctNonces, ?_⟩
  intro proposal cart merchantPublicKey audience readings stack hreturns
  rw [consumeInPlace_eq] at hreturns
  cases hconsume : ledger.consume host proposal cart merchantPublicKey audience readings stack with
  | error error =>
    rw [hconsume] at hreturns
    cases hreturns
  | ok after =>
    obtain ⟨mandate, _, _, _, hactive, _, _, hagrees, _⟩ := consume_eq_ok hconsume
    exact ⟨mandate, get?_of_active hactive, hagrees⟩

/-- After the purchase its cart is refused, and the refusal writes nothing. -/
theorem purchaseTrace_singleUse :
    consumedCarts purchaseTrace = [firstCart] ∧
      ((consumedCarts purchaseTrace).map nonceKey).Nodup ∧
      (firstCharged.consumeInPlace mandateHost firstPurchase firstCart merchantKey
        "aegisledger-gateway".toList ledgerReadings 1000).1 =
          .error (.mandateError "cart replay detected") ∧
      (firstCharged.consumeInPlace mandateHost firstPurchase firstCart merchantKey
        "aegisledger-gateway".toList ledgerReadings 1000).2 = firstCharged := by
  have hrun : Run (Step mandateHost) .empty purchaseTrace firstCharged :=
    .snoc (.snoc (.snoc .refl (.returns rootMandate_registers)) (.returns firstMandate_registers))
      (.returns firstCart_charges)
  have hreplay : (firstCharged.consumeInPlace mandateHost firstPurchase firstCart merchantKey
      "aegisledger-gateway".toList ledgerReadings 1000).1 =
        .error (.mandateError "cart replay detected") := by
    decide +kernel
  obtain ⟨hatomic, _, hnonces, _⟩ := consume_atomic_singleUse hrun
  exact ⟨rfl, hnonces, hreplay, hatomic _ _ _ _ _ _ _ hreplay⟩

end AegisLedger.Gateway.MandateReplay
