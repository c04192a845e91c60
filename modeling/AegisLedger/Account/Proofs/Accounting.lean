import AegisLedger.Account.Ledger

/-!
# Nonce, totals and session budgets

What the account stores about its spending is a summary of what was posted to its books.
The nonce counts the executions and the total adds them up; the session of a key adds up
what the key was charged since it was last granted.  Every call tree, re-entrance
included, is a run of the books, so one lemma about an entry carries each result.
-/

namespace AegisLedger.Account.Accounting

open AegisLedger.Support Checks TransferBinding

/-! ## Executions -/

def Entry.execution? : Entry → Option Execution
  | .charged execution _ _ _ => some execution
  | _ => none

/-- The executions that were not reverted, oldest first. -/
def executions (posted : List Entry) : List Execution := posted.filterMap Entry.execution?

@[simp] theorem executions_concat (posted : List Entry) (entry : Entry) :
    executions (posted ++ [entry]) = executions posted ++ (Entry.execution? entry).toList := by
  unfold executions
  rw [List.filterMap_append]
  cases h : Entry.execution? entry <;> simp [h]

/-- The books summarise the executions. -/
structure Tallied (d : Deployment) (posted : List Entry) (books : Books) : Prop where
  nonce : books.nonce.toNat = (executions posted).length
  totalSpent : books.totalSpent.toNat = ((executions posted).map (·.amount.toNat)).sum
  withinLifetime : books.totalSpent.toNat ≤ d.lifetimeCap.toNat
  capped : ∀ execution ∈ executions posted,
    execution.amount.toNat ≤ d.perTransactionCap.toNat
  past : ∀ execution ∈ executions posted, execution.nonce.toNat < books.nonce.toNat
  nodup : (executions posted).Nodup

section Ledger

variable {d : Deployment} {posted : List Entry} {before after : Books} {entry : Entry}

/-- An entry that is no charge touches neither nonce nor total. -/
theorem frame_of_posts (h : Posts d before entry after)
    (hentry : Entry.execution? entry = none) :
    after.nonce = before.nonce ∧ after.totalSpent = before.totalSpent := by
  cases entry with
  | charged => cases hentry
  | granted key budget validUntil =>
    rw [Posts] at h
    rw [h]
    exact ⟨rfl, rfl⟩
  | revoked key =>
    rw [Posts] at h
    rw [h]
    exact ⟨rfl, rfl⟩

variable {execution : Execution} {signer : Address} {session : SessionKey} {timestamp : Word}

theorem tallied_of_charged (htallied : Tallied d posted before)
    (h : Charged d before after execution signer session timestamp) :
    Tallied d (posted ++ [.charged execution signer session timestamp]) after := by
  have hexecutions : executions (posted ++ [.charged execution signer session timestamp]) =
      executions posted ++ [execution] := executions_concat _ _
  have hnonce := htallied.nonce
  have htotal := htallied.totalSpent
  have hnext := h.nextNonce
  have hspent := h.totalSpent
  have hfresh : execution.nonce.toNat = before.nonce.toNat := congrArg _ h.nonce
  refine ⟨?_, ?_, h.withinLifetime, ?_, ?_, ?_⟩
  · rw [hexecutions, List.length_append, List.length_singleton]
    omega
  · rw [hexecutions, List.map_append, List.sum_append, List.map_singleton, List.sum_singleton]
    omega
  · intro found hfound
    rw [hexecutions, List.mem_append, List.mem_singleton] at hfound
    rcases hfound with hold | rfl
    · exact htallied.capped found hold
    · exact h.capped
  · intro found hfound
    rw [hexecutions, List.mem_append, List.mem_singleton] at hfound
    rcases hfound with hold | rfl
    · have hpast := htallied.past found hold
      omega
    · omega
  · rw [hexecutions, ← List.concat_eq_append]
    refine htallied.nodup.concat ?_
    intro hold
    have hpast := htallied.past execution hold
    omega

theorem tallied_of_posts (htallied : Tallied d posted before)
    (h : Posts d before entry after) : Tallied d (posted ++ [entry]) after := by
  cases hentry : Entry.execution? entry with
  | some execution =>
    cases entry with
    | charged => exact tallied_of_charged htallied h
    | granted => cases hentry
    | revoked => cases hentry
  | none =>
    obtain ⟨hnonce, htotal⟩ := frame_of_posts h hentry
    have hexecutions : executions (posted ++ [entry]) = executions posted := by
      rw [executions_concat, hentry, Option.toList_none, List.append_nil]
    obtain ⟨h1, h2, h3, h4, h5, h6⟩ := htallied
    rw [← hnonce] at h1 h5
    rw [← htotal] at h2 h3
    rw [← hexecutions] at h1 h2 h4 h5 h6
    exact ⟨h1, h2, h3, h4, h5, h6⟩

theorem tallied_opened (d : Deployment) : Tallied d [] Books.opened :=
  ⟨rfl, rfl, Nat.zero_le _, fun _ h => absurd h List.not_mem_nil,
    fun _ h => absurd h List.not_mem_nil, List.nodup_nil⟩

/-! ## Sessions -/

def Entry.grants (key : Address) : Entry → Bool
  | .granted granted _ _ => granted = key
  | _ => false

/-- The amount of a charge to the key. -/
def Entry.chargeTo (key : Address) : Entry → Option Nat
  | .charged execution signer _ _ => if signer = key then some execution.amount.toNat else none
  | _ => none

/-- What the key was charged since it was last granted. -/
def chargedSince (key : Address) (posted : List Entry) : Nat :=
  ((posted.rtakeWhile (fun entry => !Entry.grants key entry)).filterMap
    (Entry.chargeTo key)).sum

theorem chargedSince_concat (key : Address) (posted : List Entry) (entry : Entry) :
    chargedSince key (posted ++ [entry]) =
      if Entry.grants key entry then 0
      else chargedSince key posted + (Entry.chargeTo key entry).getD 0 := by
  unfold chargedSince
  cases hgrants : Entry.grants key entry with
  | true =>
    rw [List.rtakeWhile_concat_neg _ _ _ (by simp [hgrants])]
    rfl
  | false =>
    rw [List.rtakeWhile_concat_pos _ _ _ (by simp [hgrants]), List.filterMap_append,
      List.sum_append]
    cases hcharge : Entry.chargeTo key entry <;> simp [hcharge]

/-- The session of a key summarises its charges. -/
structure Budgeted (key : Address) (posted : List Entry) (books : Books) : Prop where
  spent : (books.sessionKeys key).spent.toNat = chargedSince key posted
  withinBudget : (books.sessionKeys key).spent.toNat ≤ (books.sessionKeys key).budget.toNat
  withinTotal : (books.sessionKeys key).spent.toNat ≤ books.totalSpent.toNat

theorem budgeted_of_charged {key : Address} (hkey : key ≠ d.owner)
    (hbudgeted : Budgeted key posted before)
    (h : Charged d before after execution signer session timestamp) :
    Budgeted key (posted ++ [.charged execution signer session timestamp]) after := by
  have hsince := chargedSince_concat key posted (.charged execution signer session timestamp)
  have hspent := hbudgeted.spent
  have hwithin := hbudgeted.withinBudget
  have htotal := hbudgeted.withinTotal
  have hgrown := h.totalSpent
  simp only [Entry.grants, Entry.chargeTo, Bool.false_eq_true, if_false] at hsince
  by_cases hsigner : signer = key
  · subst hsigner
    obtain ⟨spent, hsum, hsessions⟩ := h.sessions hkey
    have hbudget := h.withinBudget hkey
    have hfound := h.found
    rw [if_pos rfl, Option.getD_some] at hsince
    subst hfound
    constructor <;> rw [hsessions, Function.update_self] <;> dsimp only <;> omega
  · have hsame : after.sessionKeys key = before.sessionKeys key := by
      by_cases howner : signer = d.owner
      · rw [h.ownerSessions howner]
      · obtain ⟨spent, _, hsessions⟩ := h.sessions howner
        rw [hsessions, Function.update_of_ne (Ne.symm hsigner)]
    rw [if_neg hsigner, Option.getD_none, Nat.add_zero] at hsince
    constructor <;> rw [hsame] <;> omega

theorem budgeted_of_posts {key : Address} (hkey : key ≠ d.owner)
    (hbudgeted : Budgeted key posted before) (h : Posts d before entry after) :
    Budgeted key (posted ++ [entry]) after := by
  cases entry with
  | charged execution signer session timestamp => exact budgeted_of_charged hkey hbudgeted h
  | granted granted budget validUntil =>
    have hsince := chargedSince_concat key posted (.granted granted budget validUntil)
    rw [Posts] at h
    subst h
    by_cases hgranted : granted = key
    · subst hgranted
      simp only [Entry.grants, decide_true, if_true] at hsince
      constructor <;> dsimp only <;> rw [Function.update_self]
      · exact hsince.symm
      · exact Nat.zero_le _
      · exact Nat.zero_le _
    · simp only [Entry.grants, Entry.chargeTo, hgranted, decide_false, Bool.false_eq_true,
        if_false, Option.getD_none, Nat.add_zero] at hsince
      constructor <;> dsimp only <;> rw [Function.update_of_ne (Ne.symm hgranted)]
      · rw [hsince]
        exact hbudgeted.spent
      · exact hbudgeted.withinBudget
      · exact hbudgeted.withinTotal
  | revoked revoked =>
    have hsince := chargedSince_concat key posted (.revoked revoked)
    simp only [Entry.grants, Entry.chargeTo, Bool.false_eq_true, if_false, Option.getD_none,
      Nat.add_zero] at hsince
    rw [Posts] at h
    subst h
    have hspent : (Function.update before.sessionKeys revoked
        { before.sessionKeys revoked with active := false } key).spent =
          (before.sessionKeys key).spent ∧
        (Function.update before.sessionKeys revoked
        { before.sessionKeys revoked with active := false } key).budget =
          (before.sessionKeys key).budget := by
      by_cases hrevoked : key = revoked
      · subst hrevoked
        rw [Function.update_self]
        exact ⟨rfl, rfl⟩
      · rw [Function.update_of_ne hrevoked]
        exact ⟨rfl, rfl⟩
    constructor <;> dsimp only <;> rw [hspent.1]
    · rw [hsince]
      exact hbudgeted.spent
    · rw [hspent.2]
      exact hbudgeted.withinBudget
    · exact hbudgeted.withinTotal

theorem budgeted_opened (key : Address) : Budgeted key [] Books.opened :=
  ⟨rfl, Nat.le_refl _, Nat.le_refl _⟩

/-- Each charge in the history was posted to some books of the run. -/
theorem charged_of_mem {books : Books} (hrun : Run (Posts d) Books.opened posted books)
    (hmem : Entry.charged execution signer session timestamp ∈ posted) :
    ∃ before after, Charged d before after execution signer session timestamp := by
  obtain ⟨before, after, hposts⟩ := hrun.exists_step hmem
  exact ⟨before, after, hposts⟩

end Ledger

/-! ## The account -/

section Account

variable {evm : Evm} {d : Deployment} {posted : List Entry} {state : State}

theorem tallied_of_history (h : History evm d posted state) : Tallied d posted state.books :=
  (run_of_history h).invariant (tallied_opened d) fun _ => tallied_of_posts

theorem budgeted_of_history {key : Address} (hkey : key ≠ d.owner)
    (h : History evm d posted state) : Budgeted key posted state.books :=
  (run_of_history h).invariant (budgeted_opened key) fun _ => budgeted_of_posts hkey

/-- At every point of what the target of an execution does, an execution is refused. -/
theorem reentrant_of_authorize {message later : Message} {execution nested : Execution}
    {signature nestedSignature : Bytes} {authorization : Authorization} {timestamp : Word}
    {script : Script} {paid : Nat} {call : Execution → State → Reply}
    (h : authorize evm d (entered state message) message execution signature =
      .ok authorization) :
    transact evm d
        (interact evm d timestamp script { authorization.charged with balance := paid }) later
        (.execute nested nestedSignature) call =
      .error .reentrantExecution := by
  have hexecuting : authorization.charged.executing = true :=
    (authorized_of_authorize h).executing
  have hwaiting : Waiting authorization.charged.nonce authorization.charged.totalSpent
      { authorization.charged with balance := paid } := ⟨hexecuting, rfl, rfl⟩
  exact execute_of_executing (waiting_interact script hwaiting).1

/-- The account's own figures, at the end of any history. -/
structure Accounted (evm : Evm) (d : Deployment) (posted : List Entry) (state : State) :
    Prop where
  nonce : state.nonce.toNat = (executions posted).length
  totalSpent : state.totalSpent.toNat = ((executions posted).map (·.amount.toNat)).sum
  withinLifetime : state.totalSpent.toNat ≤ d.lifetimeCap.toNat
  capped : ∀ execution ∈ executions posted,
    execution.amount.toNat ≤ d.perTransactionCap.toNat
  once : (executions posted).Nodup
  /-- Whatever the target has done to the account by then, `execute` reverts. -/
  nested : ∀ message execution signature authorization timestamp script later nested
    nestedSignature call,
    authorize evm d (entered state message) message execution signature = .ok authorization →
    transact evm d
        (interact evm d timestamp script { authorization.charged with
          balance := authorization.charged.balance - execution.value.toNat }) later
        (.execute nested nestedSignature) call =
      .error .reentrantExecution
  reverted : ∀ timestamp sender value execution signature callee success returnData revert,
    transact evm d state ⟨sender, value, timestamp⟩ (.execute execution signature)
        (lowLevelCall evm d timestamp (interact evm d timestamp callee) success returnData) =
      .error revert →
    (interact evm d timestamp
      (.call sender value (.execute execution signature) callee success returnData .done)
      state).books = state.books

/-- Under every sequence of calls and every behaviour of the targets, nonce and total
are those of the executions that succeeded, each of which succeeded once and within the
caps. -/
theorem account_accounted (h : History evm d posted state) : Accounted evm d posted state where
  nonce := (tallied_of_history h).nonce
  totalSpent := (tallied_of_history h).totalSpent
  withinLifetime := (tallied_of_history h).withinLifetime
  capped := (tallied_of_history h).capped
  once := (tallied_of_history h).nodup
  nested := fun _ _ _ _ _ _ _ _ _ _ hauthorize => reentrant_of_authorize hauthorize
  reverted := by
    intro timestamp sender value execution signature callee success returnData revert hrevert
    rw [interact, hrevert, interact, ite_self]

/-! ## A sample history

The session key of `setup` spends 100, and the token tries to have the same execution
run again while it is called. -/

def spending : Script :=
  .call stranger 0 (.execute boundExecution boundSignature)
    (.call stranger 0 (.execute boundExecution boundSignature) .done true [] .done) true []
    .done

def spentState : State := interact sampleEvm sampleDeployment 1500 spending sampleState

def spentEntries : List Entry :=
  entries sampleEvm sampleDeployment 1000 setup (.deployed 0) ++
    entries sampleEvm sampleDeployment 1500 spending sampleState

theorem spent_history : History sampleEvm sampleDeployment spentEntries spentState := by
  have hsetup := history_interact (history_deployed sampleEvm sampleDeployment 0) 1000 setup
  exact history_interact hsetup 1500 spending

theorem spentState_accounted :
    executions spentEntries = [boundExecution] ∧
      Accounted sampleEvm sampleDeployment spentEntries spentState :=
  ⟨by decide +kernel, account_accounted spent_history⟩

/-! ## Session budgets -/

/-- Widening `spent` cannot overflow after the check of the total, and narrowing the
amount loses nothing after the check of the budget. -/
theorem chargeSession_ne_overflow {message : Message} {key : Address} {amount total : Word}
    (hbudgeted : Budgeted key posted state.books)
    (htotal : checkedAdd state.totalSpent amount = .ok total) :
    chargeSession d state message key amount ≠ .error .overflow := by
  have hfits : state.totalSpent.toNat + amount.toNat < 2 ^ 256 := by
    rw [← toNat_of_checkedAdd htotal]
    exact total.isLt
  have hwithin : (state.sessionKeys key).spent.toNat ≤ state.totalSpent.toNat :=
    hbudgeted.withinTotal
  have hwide : ((state.sessionKeys key).spent.setWidth 256).toNat =
      (state.sessionKeys key).spent.toNat := BitVec.toNat_setWidth_of_le (by omega)
  intro h
  unfold chargeSession at h
  split_ifs at h
  · cases h
  · simp only [bind_eq_error, raiseIf_eq_error, reduceCtorEq, and_false, false_or] at h
    obtain ⟨_, _, hoverflow | ⟨charged, hcharged, _, hbudget, hoverflow | ⟨_, _, hpure⟩⟩⟩ := h
    · unfold checkedAdd at hoverflow
      rw [hwide, if_pos (by omega)] at hoverflow
      cases hoverflow
    · rw [raiseIf_eq_ok] at hbudget
      have hsum := toNat_of_checkedAdd hcharged
      have hlimit := (state.sessionKeys key).budget.isLt
      have hnarrow : (amount.setWidth 128).toNat = amount.toNat := by
        rw [BitVec.toNat_setWidth, Nat.mod_eq_of_lt]
        omega
      unfold checkedAdd at hoverflow
      rw [hnarrow, if_pos (by omega)] at hoverflow
      cases hoverflow
    · cases hpure

/-- What holds of the session of `key` between top-level calls. -/
structure SessionKept (d : Deployment) (key : Address) (posted : List Entry) (state : State) :
    Prop where
  spent : (state.sessionKeys key).spent.toNat = chargedSince key posted
  withinBudget : (state.sessionKeys key).spent.toNat ≤ (state.sessionKeys key).budget.toNat
  charges : ∀ execution session timestamp,
    Entry.charged execution key session timestamp ∈ posted →
      session.active = true ∧ timestamp.toNat ≤ session.validUntil.toNat ∧
      (execution.amount.setWidth 128).toNat = execution.amount.toNat ∧
      session.spent.toNat + (execution.amount.setWidth 128).toNat < 2 ^ 128
  /-- The additions of the charge do not overflow, for any execution that passed the
  check of the lifetime cap. -/
  additions : ∀ message (execution : Execution) total,
    checkedAdd state.totalSpent execution.amount = .ok total →
    chargeSession d (entered state message) message key execution.amount ≠ .error .overflow

theorem session_kept {key : Address} (hkey : key ≠ d.owner) (h : History evm d posted state) :
    SessionKept d key posted state where
  spent := (budgeted_of_history hkey h).spent
  withinBudget := (budgeted_of_history hkey h).withinBudget
  charges := by
    intro execution session timestamp hmem
    obtain ⟨before, after, hcharged⟩ := charged_of_mem (run_of_history h) hmem
    have hbudget := hcharged.withinBudget hkey
    have hlimit := session.budget.isLt
    have hnarrow : (execution.amount.setWidth 128).toNat = execution.amount.toNat := by
      rw [BitVec.toNat_setWidth, Nat.mod_eq_of_lt]
      omega
    refine ⟨hcharged.active hkey, hcharged.current hkey, hnarrow, ?_⟩
    rw [hnarrow]
    omega
  additions := by
    intro message execution total htotal
    have hbudgeted := budgeted_of_history hkey h
    have hentered : Budgeted key posted (entered state message).books := hbudgeted
    exact chargeSession_ne_overflow hentered htotal

theorem spentState_session_kept :
    chargedSince sessionKey spentEntries = 100 ∧
      SessionKept sampleDeployment sessionKey spentEntries spentState :=
  ⟨by decide +kernel, session_kept (by decide) spent_history⟩

end Account

end AegisLedger.Account.Accounting
