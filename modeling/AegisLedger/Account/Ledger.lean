import AegisLedger.Account.Proofs.TransferBinding

/-!
# The books of the account

What the account owes itself is a ledger: a nonce, a total and a session for every key,
to which an entry is posted when an execution is charged and when a session key is
granted or revoked.  `entries` lists what a script posts, in the order of the writes and
without what a revert undoes: an execution is charged before its target runs, so
whatever the target grants stands after the charge.  `run_entries` says that the
contract keeps these books under every script.
-/

namespace AegisLedger.Account

open AegisLedger.Support Checks TransferBinding

/-! ## The ledger -/

structure Books where
  nonce : Word
  totalSpent : Word
  sessionKeys : Address → SessionKey

inductive Entry
  /-- An execution was charged, with the session of its signer as it was then. -/
  | charged (execution : Execution) (signer : Address) (session : SessionKey)
      (timestamp : Word)
  | granted (key : Address) (budget : BitVec 128) (validUntil : BitVec 64)
  | revoked (key : Address)
  deriving DecidableEq

def Books.opened : Books := ⟨0, 0, fun _ => ⟨0, 0, 0, false⟩⟩

/-- A charge in good order. -/
structure Charged (d : Deployment) (before after : Books) (execution : Execution)
    (signer : Address) (session : SessionKey) (timestamp : Word) : Prop where
  nonce : execution.nonce = before.nonce
  nextNonce : after.nonce.toNat = before.nonce.toNat + 1
  capped : execution.amount.toNat ≤ d.perTransactionCap.toNat
  totalSpent : after.totalSpent.toNat = before.totalSpent.toNat + execution.amount.toNat
  withinLifetime : after.totalSpent.toNat ≤ d.lifetimeCap.toNat
  found : session = before.sessionKeys signer
  ownerSessions : signer = d.owner → after.sessionKeys = before.sessionKeys
  active : signer ≠ d.owner → session.active = true
  current : signer ≠ d.owner → timestamp.toNat ≤ session.validUntil.toNat
  withinBudget : signer ≠ d.owner →
    session.spent.toNat + execution.amount.toNat ≤ session.budget.toNat
  sessions : signer ≠ d.owner → ∃ spent : BitVec 128,
    spent.toNat = session.spent.toNat + execution.amount.toNat ∧
      after.sessionKeys = Function.update before.sessionKeys signer
        { session with spent := spent }

def Posts (d : Deployment) (before : Books) (entry : Entry) (after : Books) : Prop :=
  match entry with
  | .charged execution signer session timestamp =>
    Charged d before after execution signer session timestamp
  | .granted key budget validUntil =>
    after = { before with
      sessionKeys := Function.update before.sessionKeys key ⟨budget, 0, validUntil, true⟩ }
  | .revoked key =>
    after = { before with
      sessionKeys := Function.update before.sessionKeys key
        { before.sessionKeys key with active := false } }

/-! ## What a script posts -/

def State.books (state : State) : Books := ⟨state.nonce, state.totalSpent, state.sessionKeys⟩

def requestEntries : Request → List Entry
  | .grantSessionKey key budget validUntil => [.granted key budget validUntil]
  | .revokeSessionKey key => [.revoked key]
  | _ => []

/-- Posted by a call that succeeds; `target` is what the target of an execution posts. -/
def callEntries (evm : Evm) (d : Deployment) (state : State) (message : Message)
    (request : Request) (target : Execution → State → List Entry) : List Entry :=
  match request with
  | .execute execution signature =>
    match authorize evm d (entered state message) message execution signature with
    | .ok authorization =>
      .charged execution authorization.signer (state.sessionKeys authorization.signer)
        message.timestamp :: target execution authorization.charged
    | .error _ => []
  | request => requestEntries request

def selfCallEntries (evm : Evm) (d : Deployment) (timestamp : Word) (execution : Execution)
    (state : State) : List Entry :=
  let request := if execution.data = [] then some .receive else evm.decodeCall execution.data
  match request with
  | none => []
  | some request =>
    let paid := { state with balance := state.balance - execution.value.toNat }
    match transact evm d paid ⟨d.self, execution.value, timestamp⟩ request
        (fun _ waiting => ⟨false, [], waiting⟩) with
    | .ok _ => requestEntries request
    | .error _ => []

def lowLevelCallEntries (evm : Evm) (d : Deployment) (timestamp : Word)
    (callee : State → List Entry) (execution : Execution) (state : State) : List Entry :=
  if state.balance < execution.value.toNat then []
  else if execution.target = d.self then selfCallEntries evm d timestamp execution state
  else callee { state with balance := state.balance - execution.value.toNat }

/-- What `interact` leaves posted. -/
def entries (evm : Evm) (d : Deployment) (timestamp : Word) : Script → State → List Entry
  | .done, _ => []
  | .call sender value request callee success returnData rest, state =>
    if sender = d.self then entries evm d timestamp rest state
    else
      match transact evm d state ⟨sender, value, timestamp⟩ request
          (lowLevelCall evm d timestamp (interact evm d timestamp callee) success
            returnData) with
      | .ok (state', _) =>
        callEntries evm d state ⟨sender, value, timestamp⟩ request
            (lowLevelCallEntries evm d timestamp (entries evm d timestamp callee)) ++
          entries evm d timestamp rest state'
      | .error _ => entries evm d timestamp rest state
  | .frame inner commits rest, state =>
    if commits then
      entries evm d timestamp inner state ++
        entries evm d timestamp rest (interact evm d timestamp inner state)
    else entries evm d timestamp rest state
  | .credit amount rest, state =>
    entries evm d timestamp rest { state with balance := state.balance + amount }

/-- The account after any transactions, with everything posted since it was deployed. -/
def History (evm : Evm) (d : Deployment) (posted : List Entry) (state : State) : Prop :=
  ∃ balance transactions, Run
    (fun before (transaction : Word × Script) after =>
      after = (interact evm d transaction.1 transaction.2 before.1,
        before.2 ++ entries evm d transaction.1 transaction.2 before.1))
    (State.deployed balance, []) transactions (state, posted)

/-! ## The contract keeps the books -/

section Keeps

variable {evm : Evm} {d : Deployment} {state state' : State} {message : Message}
  {timestamp : Word} {execution : Execution} {signature returnData : Bytes}
  {request : Request} {call : Execution → State → Reply}

theorem sessions_of_chargeSession {charged : State} {signer : Address} {amount : Word}
    (h : chargeSession d state message signer amount = .ok charged)
    (hsigner : signer ≠ d.owner) :
    (state.sessionKeys signer).active = true ∧
    message.timestamp.toNat ≤ (state.sessionKeys signer).validUntil.toNat ∧
    (state.sessionKeys signer).spent.toNat + amount.toNat ≤
      (state.sessionKeys signer).budget.toNat ∧
    ∃ spent : BitVec 128,
      charged.sessionKeys = Function.update state.sessionKeys signer
        { state.sessionKeys signer with spent := spent } := by
  unfold chargeSession at h
  rw [if_neg hsigner] at h
  dsimp only at h
  rw [raiseIf_bind_eq_ok, bind_eq_ok] at h
  obtain ⟨hlive, wide, hwide, h⟩ := h
  rw [raiseIf_bind_eq_ok, bind_eq_ok] at h
  obtain ⟨hbudget, spent, hspent, h⟩ := h
  rw [pure_eq_ok] at h
  rw [not_or] at hlive
  have hsum := toNat_of_checkedAdd hwide
  rw [BitVec.toNat_setWidth_of_le (by omega)] at hsum
  rw [← h]
  exact ⟨Bool.eq_true_of_not_eq_false hlive.1, Nat.le_of_not_lt hlive.2, by omega, spent, rfl⟩

theorem posts_of_authorize {authorization : Authorization}
    (h : authorize evm d (entered state message) message execution signature =
      .ok authorization) :
    Posts d state.books
      (.charged execution authorization.signer (state.sessionKeys authorization.signer)
        message.timestamp) authorization.charged.books := by
  have hauthorized := authorized_of_authorize h
  unfold authorize at h
  simp only [raiseIf_bind_eq_ok] at h
  obtain ⟨_, _, _, _, h⟩ := h
  rw [bind_eq_ok] at h
  obtain ⟨total, htotal, h⟩ := h
  simp only [raiseIf_bind_eq_ok] at h
  obtain ⟨hlifetime, _, h⟩ := h
  simp only [bind_eq_ok, pure_eq_ok] at h
  obtain ⟨_, _, signer, _, charged, hcharge, nonce, hnonce, totalSpent, _, h⟩ := h
  rw [← h] at hauthorized ⊢
  have hwithin := toNat_of_checkedAdd htotal
  have htotalSpent := hauthorized.totalSpent
  dsimp only at htotalSpent
  refine ⟨hauthorized.nonce, ?_, hauthorized.capped, htotalSpent, ?_, rfl, ?_, ?_, ?_, ?_, ?_⟩
  · have hnext := toNat_of_checkedAdd hnonce
    rw [hauthorized.nonce] at hnext
    exact hnext
  · dsimp only [State.books]
    omega
  · intro howner
    unfold chargeSession at hcharge
    rw [if_pos howner, pure_eq_ok] at hcharge
    rw [← hcharge]
    rfl
  · exact fun hsigner => (sessions_of_chargeSession hcharge hsigner).1
  · exact fun hsigner => (sessions_of_chargeSession hcharge hsigner).2.1
  · exact fun hsigner => (sessions_of_chargeSession hcharge hsigner).2.2.1
  · intro hsigner
    obtain ⟨_, _, _, spent, hsessions⟩ := sessions_of_chargeSession hcharge hsigner
    have hspent := hauthorized.session hsigner
    refine ⟨spent, ?_, hsessions⟩
    dsimp only at hspent
    rw [hsessions, Function.update_self] at hspent
    exact hspent

theorem run_of_transact (hrequest : ∀ execution signature, request ≠ .execute execution signature)
    (h : transact evm d state message request call = .ok (state', returnData)) :
    Run (Posts d) state.books (requestEntries request) state'.books := by
  have hkept := administers_of_transact hrequest h
  have hbooks : state'.books =
      { state.books with sessionKeys := sessionsAfter state.sessionKeys request } := by
    rw [State.books, hkept.nonce, hkept.totalSpent, hkept.sessionKeys]
    rfl
  rw [hbooks]
  cases request with
  | grantSessionKey key budget validUntil => exact .single rfl
  | revokeSessionKey key => exact .single rfl
  | execute execution signature => exact absurd rfl (hrequest execution signature)
  | _ => exact .refl

theorem run_of_selfCall (hexecuting : state.executing = true)
    (hsuccess : (selfCall evm d timestamp execution state).success = true) :
    Run (Posts d) state.books (selfCallEntries evm d timestamp execution state)
      (selfCall evm d timestamp execution state).state.books := by
  unfold selfCall at hsuccess ⊢
  unfold selfCallEntries
  dsimp only at hsuccess ⊢
  cases hrequest : (if execution.data = [] then some .receive
      else evm.decodeCall execution.data) with
  | none =>
    rw [hrequest] at hsuccess
    cases hsuccess
  | some request =>
    rw [hrequest] at hsuccess
    dsimp only at hsuccess ⊢
    generalize htransact : transact evm d _ _ request _ = outcome at hsuccess ⊢
    cases outcome with
    | error revert => cases hsuccess
    | ok result =>
      have hpaid : { state with balance := state.balance - execution.value.toNat }.executing =
          true := hexecuting
      have hrun := run_of_transact (ne_execute_of_transact hpaid htransact) htransact
      exact hrun

theorem run_of_lowLevelCall {callee : State → State} {calleeEntries : State → List Entry}
    {success : Bool}
    (hcallee : ∀ state, Run (Posts d) state.books (calleeEntries state) (callee state).books)
    (hexecuting : state.executing = true)
    (hsuccess : (lowLevelCall evm d timestamp callee success returnData execution
      state).success = true) :
    Run (Posts d) state.books
      (lowLevelCallEntries evm d timestamp calleeEntries execution state)
      (lowLevelCall evm d timestamp callee success returnData execution state).state.books := by
  unfold lowLevelCall at hsuccess ⊢
  unfold lowLevelCallEntries
  split_ifs at hsuccess ⊢ with hbalance hself
  · exact run_of_selfCall hexecuting hsuccess
  · exact hcallee { state with balance := state.balance - execution.value.toNat }

theorem run_of_call {target : Execution → State → List Entry}
    (htarget : ∀ execution (waiting : State), waiting.executing = true →
      (call execution waiting).success = true →
      Run (Posts d) waiting.books (target execution waiting) (call execution waiting).state.books)
    (h : transact evm d state message request call = .ok (state', returnData)) :
    Run (Posts d) state.books (callEntries evm d state message request target)
      state'.books := by
  cases request with
  | execute execution signature =>
    obtain ⟨authorization, hauthorize, hsuccess, events, rfl⟩ := execute_eq_ok h
    have hentered : authorize evm d (entered state message) message execution signature =
        .ok authorization := hauthorize
    have hwaiting : authorization.charged.executing = true :=
      (authorized_of_authorize hentered).executing
    have hrun := htarget execution authorization.charged hwaiting hsuccess
    unfold callEntries
    dsimp only
    rw [hentered]
    exact (Run.single (posts_of_authorize hentered)).append hrun
  | _ => exact run_of_transact (fun _ _ => Request.noConfusion) h

/-- Whatever foreign code does, the account moves from books to books by the entries
that were posted. -/
theorem run_entries (script : Script) :
    Run (Posts d) state.books (entries evm d timestamp script state)
      (interact evm d timestamp script state).books := by
  induction script generalizing state with
  | done => exact .refl
  | call sender value request callee success returnData rest ihcallee ihrest =>
    have htarget : ∀ execution (waiting : State), waiting.executing = true →
        (lowLevelCall evm d timestamp (interact evm d timestamp callee) success returnData
          execution waiting).success = true → _ :=
      fun execution waiting => run_of_lowLevelCall (fun _ => ihcallee)
    rw [entries, interact]
    by_cases hself : sender = d.self
    · rw [if_pos hself, if_pos hself]
      exact ihrest
    · rw [if_neg hself, if_neg hself]
      cases htransact : transact evm d state ⟨sender, value, timestamp⟩ request
          (lowLevelCall evm d timestamp (interact evm d timestamp callee) success
            returnData) with
      | error revert => exact ihrest
      | ok result => exact (run_of_call htarget htransact).append ihrest
  | frame inner commits rest ihinner ihrest =>
    rw [entries, interact]
    cases commits with
    | false => exact ihrest
    | true => exact ihinner.append ihrest
  | credit amount rest ihrest =>
    rw [entries, interact]
    exact @ihrest { state with balance := state.balance + amount }

theorem run_of_history {posted : List Entry} (h : History evm d posted state) :
    Run (Posts d) Books.opened posted state.books := by
  obtain ⟨balance, transactions, hrun⟩ := h
  refine hrun.invariant (I := fun _ reached => Run (Posts d) Books.opened reached.2
    reached.1.books) .refl ?_
  intro trace reached transaction after _ hbefore hafter
  rw [hafter]
  exact hbefore.append (run_entries transaction.2)

theorem history_deployed (evm : Evm) (d : Deployment) (balance : Nat) :
    History evm d [] (State.deployed balance) :=
  ⟨balance, [], .refl⟩

theorem history_interact {posted : List Entry} (h : History evm d posted state)
    (timestamp : Word) (script : Script) :
    History evm d (posted ++ entries evm d timestamp script state)
      (interact evm d timestamp script state) := by
  obtain ⟨balance, transactions, hrun⟩ := h
  exact ⟨balance, transactions ++ [(timestamp, script)], .snoc hrun rfl⟩

/-- Every reachable state has its history. -/
theorem exists_history_of_reachable (h : Reachable evm d state) :
    ∃ posted, History evm d posted state := by
  obtain ⟨balance, transactions, hrun⟩ := h
  refine hrun.invariant (I := fun _ reached => ∃ posted, History evm d posted reached)
    ⟨[], history_deployed evm d balance⟩ ?_
  rintro trace reached transaction after _ ⟨posted, hposted⟩ rfl
  exact ⟨_, history_interact hposted transaction.1 transaction.2⟩

end Keeps

end AegisLedger.Account
