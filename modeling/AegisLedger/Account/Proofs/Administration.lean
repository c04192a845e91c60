import AegisLedger.Account.Proofs.TransferBinding

/-!
# Who administers the account

Only a call that the owner makes changes what the account permits.  An execution that the owner
signed is no such call, not even if its target is the account.
-/

namespace AegisLedger.Account.Administration

open AegisLedger.Support Checks TransferBinding

/-- The account without its books, its balance and its log. -/
def permissions (state : State) : State :=
  { state with
    nonce := 0
    totalSpent := 0
    executing := false
    sessionKeys := fun key => { state.sessionKeys key with spent := 0 }
    balance := 0
    events := [] }

/-- No call of the script, however deep, comes from the owner. -/
def Unowned (d : Deployment) : Script → Prop
  | .done => True
  | .call sender _ _ callee _ _ rest => sender ≠ d.owner ∧ Unowned d callee ∧ Unowned d rest
  | .frame inner _ rest => Unowned d inner ∧ Unowned d rest
  | .credit _ rest => Unowned d rest

/-- The permissions are kept, and in an emergency everything but the balance. -/
def Kept (state state' : State) : Prop :=
  permissions state' = permissions state ∧
    (state.emergencyStopped = true → state' = { state with balance := state'.balance })

variable {evm : Evm} {d : Deployment} {state state' : State} {message : Message}
  {timestamp : Word} {execution : Execution} {signature returnData : Bytes} {request : Request}
  {call : Execution → State → Reply}

theorem Kept.refl : Kept state state := ⟨rfl, fun _ => rfl⟩

theorem Kept.trans {last : State} (h : Kept state state') (h' : Kept state' last) :
    Kept state last := by
  refine ⟨h'.1.trans h.1, fun hstopped => ?_⟩
  have hmiddle := h.2 hstopped
  have hlast := h'.2 (by rw [hmiddle]; exact hstopped)
  rw [hlast, hmiddle]

theorem permissions_of_authorize {authorization : Authorization}
    (h : authorize evm d state message execution signature = .ok authorization) :
    state.emergencyStopped ≠ true ∧ permissions authorization.charged = permissions state := by
  unfold authorize at h
  rw [raiseIf_bind_eq_ok] at h
  refine ⟨h.1, ?_⟩
  simp only [bind_eq_ok, pure_eq_ok] at h
  obtain ⟨_, _, _, _, _, _, _, _, _, _, _, _, _, _, _, signer, _, charged, hcharge, _, _, _, _,
    rfl⟩ := h
  unfold chargeSession at hcharge
  split_ifs at hcharge
  · rw [pure_eq_ok] at hcharge
    rw [hcharge]
    rfl
  · simp only [bind_eq_ok, pure_eq_ok] at hcharge
    obtain ⟨_, _, _, _, _, _, _, _, rfl⟩ := hcharge
    simp only [permissions, State.mk.injEq, true_and, and_true]
    funext key
    by_cases hkey : key = signer
    · rw [hkey, Function.update_self]
    · rw [Function.update_of_ne hkey]

theorem kept_of_transact (hsender : message.sender ≠ d.owner)
    (hcall : ∀ execution waiting, Kept waiting (call execution waiting).state)
    (h : transact evm d state message request call = .ok (state', returnData)) :
    Kept state state' := by
  cases request with
  | receive =>
    rw [transact, pure_eq_ok, Prod.mk.injEq] at h
    rw [← h.1]
    exact .refl
  | view data =>
    rw [transact, raiseIf_bind_eq_ok, pure_eq_ok, Prod.mk.injEq] at h
    rw [h.2.1]
    exact .refl
  | execute execution signature =>
    obtain ⟨authorization, hauthorize, -, events, rfl⟩ := execute_eq_ok h
    obtain ⟨hrunning, hcharged⟩ := permissions_of_authorize hauthorize
    refine ⟨(hcall execution authorization.charged).1.trans hcharged, ?_⟩
    exact fun hstopped => absurd hstopped hrunning
  | _ =>
    simp only [transact, ownerOnly, bind_eq_ok] at h
    obtain ⟨_, ⟨_, _, howner⟩, _⟩ := h
    exact absurd (raiseIf_eq_ok.mp howner) (not_not.mpr hsender)

theorem kept_lowLevelCall (hself : d.self ≠ d.owner) {callee : State → State} {success : Bool}
    (hcallee : ∀ state, Kept state (callee state)) :
    Kept state
      (lowLevelCall evm d timestamp callee success returnData execution state).state := by
  unfold lowLevelCall
  split_ifs
  · exact .refl
  · unfold selfCall
    dsimp only
    split
    · exact .refl
    · split
      next htransact =>
        have hkept := kept_of_transact hself (fun _ _ => .refl) htransact
        exact hkept
      next => exact .refl
  · exact hcallee { state with balance := state.balance - execution.value.toNat }

theorem kept_interact (hself : d.self ≠ d.owner) {script : Script} (h : Unowned d script) :
    Kept state (interact evm d timestamp script state) := by
  induction script generalizing state with
  | done => exact .refl
  | call sender value request callee success returnData rest ihcallee ihrest =>
    obtain ⟨hsender, hcallee, hrest⟩ := h
    rw [interact]
    refine .trans ?_ (ihrest hrest)
    split_ifs
    · exact .refl
    · split
      next htransact =>
        refine kept_of_transact hsender (fun _ _ => ?_) htransact
        exact kept_lowLevelCall hself fun _ => ihcallee hcallee
      next => exact .refl
  | frame inner commits rest ihinner ihrest =>
    rw [interact]
    refine .trans ?_ (ihrest h.2)
    split_ifs
    · exact ihinner h.1
    · exact .refl
  | credit amount rest ihrest => exact ihrest h

/-- Without a call of the owner no transactions change what the account permits, whatever their
targets do, and while it is stopped they change nothing but its balance. -/
theorem unowned_keepsPermissions (hself : d.self ≠ d.owner) {transactions : List (Word × Script)}
    (hunowned : ∀ transaction ∈ transactions, Unowned d transaction.2)
    (hrun : Run (fun before (transaction : Word × Script) after =>
      after = interact evm d transaction.1 transaction.2 before) state transactions state') :
    Kept state state' := by
  induction hrun with
  | refl => exact .refl
  | snoc _ hlast ih =>
    rw [List.forall_mem_append, List.forall_mem_singleton] at hunowned
    rw [hlast]
    exact (ih hunowned.1).trans (kept_interact hself hunowned.2)

def relay : Script := .call stranger 0 (.execute boundExecution boundSignature) .done true [] .done

theorem stoppedAccount_frozen :
    ∃ balance, interact sampleEvm sampleDeployment 1500 relay (setEmergencyStop sampleState true) =
      { setEmergencyStop sampleState true with balance := balance } := by
  have hunowned : ∀ transaction ∈ [((1500 : Word), relay)],
      Unowned sampleDeployment transaction.2 :=
    List.forall_mem_singleton.mpr ⟨by decide, trivial, trivial⟩
  exact ⟨_, (unowned_keepsPermissions (by decide) hunowned (Run.single rfl)).2 rfl⟩

end AegisLedger.Account.Administration
