import AegisLedger.Wallet.Proofs.Reverts

/-!
# Settlement by the facilitator

`settle` uses up the nonce of a valid authorization before it moves the tokens.  If the
tokens cannot be moved the exception leaves the nonce behind, so the call is all or nothing
only where a valid authorization is payable.  A used nonce stays used, whatever else happens
to the chain, and that makes every authorization move funds at most once.
-/

namespace AegisLedger.Wallet.FacilitatorSettlement

open AegisLedger.Support Checks Dict Balances Reverts
open AegisLedger.Gateway (Host)

variable {host : Host} {facilitator : Facilitator} {chain : LocalChain}
  {auth : PaymentAuthorization} {now : Int} {why : String}

/-- The asset of the authorization is a token of the chain and the payer holds the amount. -/
structure Payable (chain : LocalChain) (auth : PaymentAuthorization) : Prop where
  known : (chain.tokens.get? auth.requirements.asset).isSome = true
  funds : auth.requirements.amount ≤
    balanceOf chain.tokens auth.requirements.asset auth.payer

/-- The nonces and every balance are as they were. -/
structure Untouched (facilitator : Facilitator) (chain : LocalChain) (later : Facilitator)
    (after : LocalChain) : Prop where
  nonces : later.usedNonces = facilitator.usedNonces
  balances : ∀ asset address,
    balanceOf after.tokens asset address = balanceOf chain.tokens asset address

/-! ## One call -/

theorem unused_of_verify (h : facilitator.verify host auth now = .ok (true, why)) :
    auth.requirements.nonce ∉ facilitator.usedNonces ∧ 0 < auth.requirements.amount := by
  unfold Facilitator.verify at h
  dsimp only at h
  split_ifs at h with hused hexpired hamount
  · cases h
  · cases h
  · cases h
  · exact ⟨hused, not_le.mp hamount⟩

/-- The facilitator with the nonce of an authorization used up. -/
def used (facilitator : Facilitator) (auth : PaymentAuthorization) : Facilitator :=
  ⟨facilitator.usedNonces.insert auth.requirements.nonce⟩

theorem settle_of_verify (chain : LocalChain)
    (h : facilitator.verify host auth now = .ok (true, why)) :
    facilitator.settle host chain auth now =
      match chain.transferToken auth.requirements.asset auth.payer auth.requirements.payTo
          auth.requirements.amount with
      | .error error => (.error (.chain error), used facilitator auth, chain)
      | .ok paid => (.ok (true, "settled"), used facilitator auth, paid) := by
  rw [Facilitator.settle, h]
  rfl

theorem settle_of_not_verify (chain : LocalChain)
    (h : ∀ why, facilitator.verify host auth now ≠ .ok (true, why)) :
    ∃ result, facilitator.settle host chain auth now = (result, facilitator, chain) ∧
      ∀ why, result ≠ .ok (true, why) := by
  rw [Facilitator.settle]
  cases hverify : facilitator.verify host auth now with
  | error error => exact ⟨_, rfl, nofun⟩
  | ok answer =>
    obtain ⟨valid, why⟩ := answer
    cases valid with
    | false => exact ⟨_, rfl, nofun⟩
    | true => exact absurd hverify (h why)

theorem transferToken_of_payable (hpositive : 0 < auth.requirements.amount)
    (h : Payable chain auth) :
    ∃ paid, chain.transferToken auth.requirements.asset auth.payer auth.requirements.payTo
      auth.requirements.amount = .ok paid :=
  transferToken_accepted chain auth.requirements.payTo h.known hpositive h.funds

theorem transferToken_of_not_payable (h : ¬Payable chain auth) :
    ∃ error, chain.transferToken auth.requirements.asset auth.payer auth.requirements.payTo
      auth.requirements.amount = .error error := by
  cases hknown : chain.tokens.get? auth.requirements.asset with
  | none =>
    rw [LocalChain.transferToken, hknown]
    exact ⟨_, rfl⟩
  | some token =>
    have hsome : (chain.tokens.get? auth.requirements.asset).isSome = true := by
      rw [hknown]
      rfl
    obtain ⟨error, herror, -⟩ := transferToken_refused chain auth.requirements.payTo hsome
      fun hcovered => h ⟨hsome, hcovered.2⟩
    exact ⟨error, herror⟩

/-- A call that does not settle leaves everything as it was, exactly if a valid
authorization is payable. -/
theorem untouched_iff (host : Host) (facilitator : Facilitator) (chain : LocalChain)
    (auth : PaymentAuthorization) (now : Int) :
    (∀ result later after, facilitator.settle host chain auth now = (result, later, after) →
      (∀ why, result ≠ .ok (true, why)) → Untouched facilitator chain later after) ↔
      ((∃ why, facilitator.verify host auth now = .ok (true, why)) → Payable chain auth) := by
  constructor
  · rintro huntouched ⟨why, hverify⟩
    by_contra hunpayable
    obtain ⟨error, herror⟩ := transferToken_of_not_payable hunpayable
    have hsettle := settle_of_verify chain hverify
    rw [herror] at hsettle
    have hnonces := (huntouched _ _ _ hsettle fun why h => nomatch h).nonces
    rw [used, List.insert_of_not_mem (unused_of_verify hverify).1] at hnonces
    exact List.cons_ne_self _ _ hnonces
  · intro hpayable result later after hsettle hfailed
    by_cases hverify : ∃ why, facilitator.verify host auth now = .ok (true, why)
    · obtain ⟨why, hvalid⟩ := hverify
      obtain ⟨paid, hpaid⟩ := transferToken_of_payable (unused_of_verify hvalid).2
        (hpayable ⟨why, hvalid⟩)
      rw [settle_of_verify chain hvalid, hpaid] at hsettle
      exact absurd (Prod.mk.inj hsettle).1.symm (hfailed "settled")
    · obtain ⟨refused, hrefused, -⟩ := settle_of_not_verify chain fun why h => hverify ⟨why, h⟩
      rw [hrefused, Prod.mk.injEq, Prod.mk.injEq] at hsettle
      obtain ⟨-, rfl, rfl⟩ := hsettle
      exact ⟨rfl, fun _ _ => rfl⟩

/-! ## Runs -/

/-- Any call on the chain or the facilitator. -/
abbrev AnyStep (host : Host) : System → Call → System → Prop :=
  Conservation.Steps host fun _ => True

theorem usedNonces_settle (host : Host) (facilitator : Facilitator) (chain : LocalChain)
    (auth : PaymentAuthorization) (now : Int) :
    facilitator.usedNonces ⊆ (facilitator.settle host chain auth now).2.1.usedNonces := by
  by_cases hverify : ∃ why, facilitator.verify host auth now = .ok (true, why)
  · obtain ⟨why, hvalid⟩ := hverify
    have hused : facilitator.usedNonces ⊆ (used facilitator auth).usedNonces :=
      fun nonce hnonce => List.mem_insert_of_mem hnonce
    rw [settle_of_verify chain hvalid]
    split <;> exact hused
  · obtain ⟨refused, hrefused, -⟩ := settle_of_not_verify chain fun why h => hverify ⟨why, h⟩
    rw [hrefused]
    exact List.Subset.refl _

theorem usedNonces_step {system after : System} {call : Call}
    (hstep : AnyStep host system call after) :
    system.facilitator.usedNonces ⊆ after.facilitator.usedNonces := by
  obtain ⟨-, rfl⟩ := hstep
  cases call with
  | mint asset address amount => exact List.Subset.refl _
  | submit tx => exact List.Subset.refl _
  | mineBlock => exact List.Subset.refl _
  | registerRuleHook address hook => exact List.Subset.refl _
  | settle auth now => exact usedNonces_settle host system.facilitator system.chain auth now

theorem usedNonces_run {system after : System} {trace : List Call}
    (hrun : Run (AnyStep host) system trace after) :
    system.facilitator.usedNonces ⊆ after.facilitator.usedNonces := by
  apply hrun.invariant (I := fun _ after =>
    system.facilitator.usedNonces ⊆ after.facilitator.usedNonces)
  · exact List.Subset.refl _
  · intro _ middle call last _ hmiddle hstep
    exact List.Subset.trans hmiddle (usedNonces_step hstep)

theorem settle_of_used (h : auth.requirements.nonce ∈ facilitator.usedNonces) :
    facilitator.settle host chain auth now =
      (.ok (false, "replay: nonce already used"), facilitator, chain) := by
  have hverify : facilitator.verify host auth now =
      .ok (false, "replay: nonce already used") := by
    unfold Facilitator.verify
    dsimp only
    rw [if_pos h]
    rfl
  rw [Facilitator.settle, hverify]

theorem used_of_settled {result : Except PaymentError (Bool × String)} {later : Facilitator}
    {after : LocalChain}
    (h : facilitator.settle host chain auth now = (result, later, after))
    (hsettled : result = .ok (true, why)) : auth.requirements.nonce ∈ later.usedNonces := by
  by_cases hverify : ∃ why, facilitator.verify host auth now = .ok (true, why)
  · obtain ⟨_, hvalid⟩ := hverify
    rw [settle_of_verify chain hvalid] at h
    split at h
    · rw [← (Prod.mk.inj h).1] at hsettled
      cases hsettled
    · rw [Prod.mk.injEq, Prod.mk.injEq] at h
      rw [← h.2.1]
      exact List.mem_insert_self
  · obtain ⟨refused, hrefused, hfalse⟩ :=
      settle_of_not_verify chain fun why h => hverify ⟨why, h⟩
    rw [hrefused] at h
    exact absurd ((Prod.mk.inj h).1.trans hsettled) (hfalse why)

/-- Settlement is all or nothing exactly for authorizations that are not valid or can be
paid; and once an authorization has moved funds, it is refused for ever after. -/
theorem settlement_all_or_nothing (host : Host) :
    (∀ facilitator chain auth now,
      (∀ result later after, facilitator.settle host chain auth now = (result, later, after) →
        (∀ why, result ≠ .ok (true, why)) → Untouched facilitator chain later after) ↔
        ((∃ why, facilitator.verify host auth now = .ok (true, why)) → Payable chain auth)) ∧
    ∀ (facilitator : Facilitator) chain auth now why later after,
      facilitator.settle host chain auth now = (.ok (true, why), later, after) →
      ∀ trace system, Run (AnyStep host) ⟨after, later⟩ trace system → ∀ again,
        system.facilitator.settle host system.chain auth again =
          (.ok (false, "replay: nonce already used"), system.facilitator, system.chain) := by
  refine ⟨untouched_iff host, ?_⟩
  intro facilitator chain auth now why later after hsettled trace system hrun again
  exact settle_of_used (usedNonces_run hrun (used_of_settled hsettled rfl))

section Samples

open Conservation SettledCaps

def vendorPayment : PaymentAuthorization :=
  authorization (requirements 50 "vendor".toList "n1".toList)

/-- The chain and the facilitator, new. -/
def freshSystem : System := systemAfter []

def refusedSystem : System := systemAfter [.settle vendorPayment 0, .mint usdc walletAddress 1000]

/-- The wallet holds nothing when the payment is settled first.  The call raises, and the
payment is refused for good, also when the wallet is funded. -/
theorem refused_payment_lost :
    (freshSystem.facilitator.settle plainHost freshSystem.chain vendorPayment 0).1 =
        .error (.chain (.insufficientFunds
          (walletAddress ++ " has 0 < 50".toList))) ∧
      freshSystem.facilitator.usedNonces = [] ∧
      (freshSystem.facilitator.settle plainHost freshSystem.chain vendorPayment
        0).2.1.usedNonces = ["n1".toList] ∧
      balanceOf refusedSystem.chain.tokens usdc walletAddress = 1000 ∧
      (refusedSystem.facilitator.settle plainHost refusedSystem.chain vendorPayment 0).1 =
        .ok (false, "replay: nonce already used") := by decide +kernel

end Samples

end AegisLedger.Wallet.FacilitatorSettlement
