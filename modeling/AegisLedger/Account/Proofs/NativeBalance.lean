import AegisLedger.Account.Proofs.TransferBinding

/-!
# Native currency

All three operations tie the value an execution sends to the value of the message: a
native transfer and a contract call send exactly what came with them, a token transfer
sends nothing and takes nothing.  What is on the account when a call arrives is
therefore still there when the call is over.
-/

namespace AegisLedger.Account.NativeBalance

open AegisLedger.Support Checks TransferBinding

variable {evm : Evm} {d : Deployment} {state state' : State} {message : Message}
  {timestamp : Word} {execution : Execution} {signature returnData : Bytes}
  {request : Request} {call : Execution → State → Reply}

/-! ## One execution -/

theorem value_le_of_validateOperation (h : validateOperation state message execution = .ok ()) :
    execution.value.toNat ≤ message.value.toNat := by
  unfold validateOperation at h
  cases hoperation : execution.operation with
  | nativeTransfer =>
    simp only [hoperation, raiseIf_eq_ok, not_or, not_not] at h
    rw [h.2.2.2.2]
  | erc20Transfer =>
    simp only [hoperation, raiseIf_bind_eq_ok, if_true, not_or, not_not] at h
    obtain ⟨_, _, _, ⟨_, hvalue⟩, _⟩ := h
    rw [hvalue]
    exact Nat.zero_le _
  | contractCall =>
    simp only [hoperation, raiseIf_bind_eq_ok, reduceCtorEq, if_false, raiseIf_eq_ok, not_or,
      not_not] at h
    rw [h.2.2.2.2.2]

theorem balance_of_chargeSession {charged : State} {signer : Address} {amount : Word}
    (h : chargeSession d state message signer amount = .ok charged) :
    charged.balance = state.balance := by
  unfold chargeSession at h
  split_ifs at h
  · rw [pure_eq_ok] at h
    rw [h]
  · simp only [bind_eq_ok, pure_eq_ok] at h
    obtain ⟨_, _, _, _, _, _, _, _, hcharged⟩ := h
    rw [← hcharged]

/-- When the target is called, the account holds what it had and the value of the
message, which covers what the target is sent. -/
theorem funded_of_authorize {authorization : Authorization}
    (h : authorize evm d (entered state message) message execution signature =
      .ok authorization) :
    execution.value.toNat ≤ message.value.toNat ∧
      authorization.charged.balance = state.balance + message.value.toNat := by
  refine ⟨value_le_of_validateOperation (authorized_of_authorize h).operation, ?_⟩
  unfold authorize at h
  simp only [raiseIf_bind_eq_ok] at h
  obtain ⟨_, _, _, _, h⟩ := h
  rw [bind_eq_ok] at h
  obtain ⟨_, _, h⟩ := h
  simp only [raiseIf_bind_eq_ok] at h
  obtain ⟨_, _, h⟩ := h
  simp only [bind_eq_ok, pure_eq_ok] at h
  obtain ⟨_, _, _, _, charged, hcharge, _, _, _, _, h⟩ := h
  rw [← h]
  exact balance_of_chargeSession hcharge

/-! ## One call -/

/-- A call costs the account nothing if the low-level call in it costs no more than the
value it sends. -/
theorem balance_le_of_transact
    (hcall : ∀ execution waiting, (call execution waiting).success = true →
      waiting.balance ≤ (call execution waiting).state.balance + execution.value.toNat)
    (h : transact evm d state message request call = .ok (state', returnData)) :
    state.balance ≤ state'.balance := by
  cases request with
  | receive =>
    unfold transact at h
    rw [pure_eq_ok, Prod.mk.injEq] at h
    rw [← h.1]
    exact Nat.le_add_right _ _
  | execute execution signature =>
    obtain ⟨authorization, hauthorize, hsuccess, events, rfl⟩ := execute_eq_ok h
    have hfunded : execution.value.toNat ≤ message.value.toNat ∧
        authorization.charged.balance = state.balance + message.value.toNat :=
      funded_of_authorize hauthorize
    have hreply := hcall execution authorization.charged hsuccess
    dsimp only
    omega
  | _ =>
    have hkept := administers_of_transact (fun _ _ => Request.noConfusion) h
    exact (hkept.balance Request.noConfusion).ge

theorem balance_le_of_selfCall
    (hsuccess : (selfCall evm d timestamp execution state).success = true) :
    state.balance ≤
      (selfCall evm d timestamp execution state).state.balance + execution.value.toNat := by
  unfold selfCall at hsuccess ⊢
  dsimp only at hsuccess ⊢
  split at hsuccess
  · cases hsuccess
  next request hrequest =>
    split at hsuccess
    next state' data htransact =>
      have hpaid := balance_le_of_transact (fun _ _ hnever => absurd hnever Bool.false_ne_true)
        htransact
      dsimp only at hpaid ⊢
      omega
    next => cases hsuccess

theorem balance_le_of_lowLevelCall {callee : State → State} {success : Bool}
    (hcallee : ∀ state, state.balance ≤ (callee state).balance)
    (hsuccess : (lowLevelCall evm d timestamp callee success returnData execution
      state).success = true) :
    state.balance ≤
      (lowLevelCall evm d timestamp callee success returnData execution state).state.balance +
        execution.value.toNat := by
  unfold lowLevelCall at hsuccess ⊢
  split_ifs at hsuccess ⊢ with hbalance hself
  · exact balance_le_of_selfCall hsuccess
  · have hpaid := hcallee { state with balance := state.balance - execution.value.toNat }
    dsimp only at hpaid ⊢
    omega

/-! ## Every script -/

theorem balance_le_interact (script : Script) :
    state.balance ≤ (interact evm d timestamp script state).balance := by
  induction script generalizing state with
  | done => exact Nat.le_refl _
  | call sender value request callee success returnData rest ihcallee ihrest =>
    rw [interact]
    refine Nat.le_trans ?_ ihrest
    split_ifs
    · exact Nat.le_refl _
    · split
      next state' data htransact =>
        refine balance_le_of_transact ?_ htransact
        intro execution waiting
        exact balance_le_of_lowLevelCall (fun _ => ihcallee)
      next => exact Nat.le_refl _
  | frame inner commits rest ihinner ihrest =>
    rw [interact]
    refine Nat.le_trans ?_ ihrest
    split_ifs
    · exact ihinner
    · exact Nat.le_refl _
  | credit amount rest ihrest =>
    rw [interact]
    refine Nat.le_trans ?_ ihrest
    exact Nat.le_add_right _ _

/-- No call, and nothing foreign code does in it, lowers the balance.  Only `receive`
and `execute` move it; what an execution sends was credited by its own message. -/
theorem native_balance_kept (evm : Evm) (d : Deployment) (state : State) (timestamp : Word) :
    (∀ script, state.balance ≤ (interact evm d timestamp script state).balance) ∧
    (∀ message request call state' returnData,
      transact evm d state message request call = .ok (state', returnData) →
      request ≠ .receive → (∀ execution signature, request ≠ .execute execution signature) →
      state'.balance = state.balance) ∧
    ∀ message execution signature authorization,
      authorize evm d (entered state message) message execution signature =
        .ok authorization →
      execution.value.toNat ≤ message.value.toNat ∧
        authorization.charged.balance = state.balance + message.value.toNat := by
  refine ⟨balance_le_interact, ?_, ?_⟩
  · intro message request call state' returnData h hreceive hexecute
    exact (administers_of_transact hexecute h).balance hreceive
  · intro message execution signature authorization h
    exact funded_of_authorize h

theorem boundExecution_funded :
    ∃ authorization,
      authorize sampleEvm sampleDeployment (entered sampleState relayed) relayed boundExecution
        boundSignature = .ok authorization ∧
      boundExecution.value.toNat ≤ relayed.value.toNat ∧
      authorization.charged.balance = sampleState.balance + relayed.value.toNat := by
  have hok : (authorize sampleEvm sampleDeployment (entered sampleState relayed) relayed
      boundExecution boundSignature).isOk = true := by
    decide +kernel
  obtain ⟨authorization, hauthorize⟩ := exists_eq_ok hok
  obtain ⟨_, _, hfunded⟩ :=
    native_balance_kept sampleEvm sampleDeployment sampleState relayed.timestamp
  exact ⟨authorization, hauthorize, hfunded _ _ _ _ hauthorize⟩

end AegisLedger.Account.NativeBalance
