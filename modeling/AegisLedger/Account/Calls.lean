import AegisLedger.Account.Contract
import AegisLedger.Support.Run

/-!
# Foreign code

A target of the account may call back, directly or through other contracts, with any
sender but the account itself, and any frame on the way may revert.  A `Script` is
what foreign code does to the account between two points of its own execution.
While `execute` waits for its target the guard is set, and no script moves the nonce,
the guard or the total.
-/

namespace AegisLedger.Account

open AegisLedger.Support Checks

/-- The visible part of an execution of foreign code. -/
inductive Script
  | done
  /-- A call into the account.  If it is an `execute` that reaches its target, the
  target runs `callee` and ends with `success` and `returnData`. -/
  | call (sender : Address) (value : Word) (request : Request) (callee : Script)
      (success : Bool) (returnData : Bytes) (rest : Script)
  /-- A frame of foreign code, undone as a whole unless it commits. -/
  | frame (inner : Script) (commits : Bool) (rest : Script)
  /-- Currency that arrives without a call. -/
  | credit (amount : Nat) (rest : Script)

/-- A call of the account to itself. -/
def selfCall (evm : Evm) (d : Deployment) (timestamp : Word) (execution : Execution)
    (state : State) : Reply :=
  let request := if execution.data = [] then some .receive else evm.decodeCall execution.data
  match request with
  | none => ⟨false, [], state⟩
  | some request =>
    let paid := { state with balance := state.balance - execution.value.toNat }
    match transact evm d paid ⟨d.self, execution.value, timestamp⟩ request
        (fun _ waiting => ⟨false, [], waiting⟩) with
    | .ok (state', returnData) => ⟨true, returnData, state'⟩
    | .error revert => ⟨false, evm.encodeRevert revert, state⟩

/-- `target.call{value: value}(data)`, where a target other than the account changes
it by `callee` and ends with `success` and `returnData`. -/
def lowLevelCall (evm : Evm) (d : Deployment) (timestamp : Word) (callee : State → State)
    (success : Bool) (returnData : Bytes) (execution : Execution) (state : State) : Reply :=
  if state.balance < execution.value.toNat then ⟨false, [], state⟩
  else if execution.target = d.self then selfCall evm d timestamp execution state
  else ⟨success, returnData,
    callee { state with balance := state.balance - execution.value.toNat }⟩

/-- The account after a script.  A call that reverts leaves it as it was. -/
def interact (evm : Evm) (d : Deployment) (timestamp : Word) : Script → State → State
  | .done, state => state
  | .call sender value request callee success returnData rest, state =>
    let after :=
      if sender = d.self then state
      else
        match transact evm d state ⟨sender, value, timestamp⟩ request
            (lowLevelCall evm d timestamp (interact evm d timestamp callee) success
              returnData) with
        | .ok (state', _) => state'
        | .error _ => state
    interact evm d timestamp rest after
  | .frame inner commits rest, state =>
    interact evm d timestamp rest
      (if commits then interact evm d timestamp inner state else state)
  | .credit amount rest, state =>
    interact evm d timestamp rest { state with balance := state.balance + amount }

/-- States after any transactions, each of them a script at one block timestamp. -/
def Reachable (evm : Evm) (d : Deployment) (state : State) : Prop :=
  ∃ balance transactions, Run
    (fun before (transaction : Word × Script) after =>
      after = interact evm d transaction.1 transaction.2 before)
    (State.deployed balance) transactions state

section Transact

variable {evm : Evm} {d : Deployment} {state state' : State} {message : Message}
  {request : Request} {call : Execution → State → Reply} {execution : Execution}
  {signature returnData : Bytes}

/-- The sessions after a call other than an execution. -/
def sessionsAfter (sessionKeys : Address → SessionKey) : Request → Address → SessionKey
  | .grantSessionKey key budget validUntil =>
    Function.update sessionKeys key ⟨budget, 0, validUntil, true⟩
  | .revokeSessionKey key =>
    Function.update sessionKeys key { sessionKeys key with active := false }
  | _ => sessionKeys

/-- What a call other than an execution leaves of the account. -/
structure Administers (request : Request) (state state' : State) : Prop where
  executing : state'.executing = state.executing
  nonce : state'.nonce = state.nonce
  totalSpent : state'.totalSpent = state.totalSpent
  balance : request ≠ .receive → state'.balance = state.balance
  sessionKeys : state'.sessionKeys = sessionsAfter state.sessionKeys request

theorem administers_of_transact
    (hrequest : ∀ execution signature, request ≠ .execute execution signature)
    (h : transact evm d state message request call = .ok (state', returnData)) :
    Administers request state state' := by
  unfold transact at h
  cases request with
  | execute execution signature => exact absurd rfl (hrequest execution signature)
  | receive =>
    rw [pure_eq_ok, Prod.mk.injEq] at h
    rw [← h.1]
    exact ⟨rfl, rfl, rfl, fun hreceive => absurd rfl hreceive, rfl⟩
  | view data =>
    simp only [raiseIf_bind_eq_ok, pure_eq_ok, Prod.mk.injEq] at h
    rw [← h.2.1]
    exact ⟨rfl, rfl, rfl, fun _ => rfl, rfl⟩
  | grantSessionKey key budget validUntil =>
    simp only [bind_eq_ok, pure_eq_ok, Prod.mk.injEq] at h
    obtain ⟨_, _, granted, hgrant, rfl, _⟩ := h
    simp only [grantSessionKey, raiseIf_bind_eq_ok, pure_eq_ok] at hgrant
    rw [← hgrant.2.2]
    exact ⟨rfl, rfl, rfl, fun _ => rfl, rfl⟩
  | _ =>
    simp only [bind_eq_ok, pure_eq_ok, Prod.mk.injEq] at h
    obtain ⟨_, _, rfl, _⟩ := h
    exact ⟨rfl, rfl, rfl, fun _ => rfl, rfl⟩

/-- An execution that succeeds was authorized, and its target succeeded. -/
theorem execute_eq_ok
    (h : transact evm d state message (.execute execution signature) call =
      .ok (state', returnData)) :
    ∃ authorization,
      authorize evm d { state.credited message with executing := true } message execution
        signature = .ok authorization ∧
      (call execution authorization.charged).success = true ∧
      ∃ events, state' =
        { (call execution authorization.charged).state with executing := false, events := events } := by
  unfold transact execute at h
  dsimp only at h
  rw [raiseIf_bind_eq_ok, bind_eq_ok] at h
  obtain ⟨_, authorization, hauthorize, h⟩ := h
  rw [raiseIf_bind_eq_ok, pure_eq_ok, Prod.mk.injEq] at h
  exact ⟨authorization, hauthorize, Bool.eq_true_of_not_eq_false h.1, _, h.2.1.symm⟩

theorem execute_of_executing (hexecuting : state.executing = true) :
    execute evm d state message execution signature call = .error .reentrantExecution := by
  unfold execute raiseIf
  rw [if_pos hexecuting]
  rfl

/-- While the account waits for its target no execution starts. -/
theorem ne_execute_of_transact (hexecuting : state.executing = true)
    (h : transact evm d state message request call = .ok (state', returnData))
    (execution : Execution) (signature : Bytes) : request ≠ .execute execution signature := by
  rintro rfl
  have hcredited : (state.credited message).executing = true := hexecuting
  unfold transact at h
  dsimp only at h
  rw [execute_of_executing hcredited] at h
  cases h

end Transact

/-! ## The guard -/

/-- The account waits inside `execute`, with this nonce and this total. -/
def Waiting (nonce totalSpent : Word) (state : State) : Prop :=
  state.executing = true ∧ state.nonce = nonce ∧ state.totalSpent = totalSpent

section Waiting

variable {evm : Evm} {d : Deployment} {timestamp nonce totalSpent : Word}
  {state state' : State}

theorem waiting_of_transact {message : Message} {request : Request}
    {call : Execution → State → Reply} {returnData : Bytes}
    (hwaiting : Waiting nonce totalSpent state)
    (h : transact evm d state message request call = .ok (state', returnData)) :
    Waiting nonce totalSpent state' := by
  have hkept := administers_of_transact (ne_execute_of_transact hwaiting.1 h) h
  exact ⟨hkept.executing.trans hwaiting.1, hkept.nonce.trans hwaiting.2.1,
    hkept.totalSpent.trans hwaiting.2.2⟩

theorem waiting_interact (script : Script) (hwaiting : Waiting nonce totalSpent state) :
    Waiting nonce totalSpent (interact evm d timestamp script state) := by
  induction script generalizing state with
  | done => exact hwaiting
  | call sender value request callee success returnData rest _ ihrest =>
    apply ihrest
    split_ifs
    · exact hwaiting
    · split
      next state' data htransact => exact waiting_of_transact hwaiting htransact
      next => exact hwaiting
  | frame inner commits rest ihinner ihrest =>
    apply ihrest
    split_ifs
    · exact ihinner hwaiting
    · exact hwaiting
  | credit amount rest ihrest => exact ihrest hwaiting

theorem waiting_selfCall {execution : Execution} (hwaiting : Waiting nonce totalSpent state) :
    Waiting nonce totalSpent (selfCall evm d timestamp execution state).state := by
  unfold selfCall
  dsimp only
  split
  · exact hwaiting
  · split
    next state' data htransact =>
      have hpaid : Waiting nonce totalSpent
          { state with balance := state.balance - execution.value.toNat } := hwaiting
      exact waiting_of_transact hpaid htransact
    next => exact hwaiting

theorem waiting_lowLevelCall {script : Script} {success : Bool} {returnData : Bytes}
    {execution : Execution} (hwaiting : Waiting nonce totalSpent state) :
    Waiting nonce totalSpent (lowLevelCall evm d timestamp (interact evm d timestamp script)
      success returnData execution state).state := by
  unfold lowLevelCall
  split_ifs
  · exact hwaiting
  · exact waiting_selfCall hwaiting
  · exact waiting_interact script hwaiting

end Waiting

end AegisLedger.Account
