import AegisLedger.Gateway.Proofs.MandateBudget
import AegisLedger.Gateway.Proofs.PolicyTightening
import AegisLedger.Gateway.Proofs.ServiceLedger
import AegisLedger.Gateway.Protocols

/-!
# Mandates that a policy requires

The policy asks only that a proposal above the threshold names a mandate, and neither the
service nor the adapter asks the ledger about it.  Where such a proposal is submitted only after
`consume` has returned for it, the named mandate is a registered one that was charged for it.
-/

namespace AegisLedger.Gateway.RequiredMandates

open AegisLedger.Support Checks Threads
open MandateLedger MandateBudget ServiceLedger BudgetSafety PolicyTightening

/-! ## A successful consume -/

section Ledger

variable {host : Host} {ledger after : MandateLedger} {trace : List Event}
  {proposal : ProposalV1} {cart : CartMandateV1} {key : Bytes} {audience : Str}
  {readings : LedgerReadings} {stack : Nat} {mandateId : Uuid} {mandate : IntentMandateV1}

/-- A mandate in the ledger has its own identifier and was registered. -/
theorem registered_of_run (hrun : Run (MandateLedger.Step host) .empty trace ledger) :
    ∀ {mandateId mandate}, ledger.mandates.get? mandateId = some mandate →
      mandate.mandateId = some mandateId ∧ (mandateId, mandate) ∈ registrations trace := by
  apply hrun.invariant (I := fun trace ledger => ∀ {mandateId mandate},
    ledger.mandates.get? mandateId = some mandate →
      mandate.mandateId = some mandateId ∧ (mandateId, mandate) ∈ registrations trace)
  · intro mandateId mandate hget
    exact absurd hget (by simp [MandateLedger.empty])
  · rintro trace ledger event after _ hbefore hstep mandateId mandate hget
    rw [registrations_append]
    have hold : ledger.mandates.get? mandateId = some mandate →
        mandate.mandateId = some mandateId ∧
          (mandateId, mandate) ∈ registrations trace ++ registrations [event] := by
      intro hget
      obtain ⟨hnamed, hregistered⟩ := hbefore hget
      exact ⟨hnamed, List.mem_append_left _ hregistered⟩
    rcases step_cases hstep with ⟨hsame, -⟩ | ⟨entered, key, readings, stack, enteredId, rfl, hid,
      rfl⟩ | ⟨proposal, cart, key, audience, readings, stack, rfl, hconsume⟩
    · rw [hsame] at hget
      exact hold hget
    · rw [get?_enter] at hget
      split_ifs at hget with hsame
      · obtain rfl := Option.some.inj hget
        refine ⟨by rw [hid, hsame], List.mem_append_right _ ?_⟩
        simp [registrations, hid, hsame]
      · exact hold hget
    · obtain ⟨_, _, _, _, _, _, _, hmandates, _⟩ := consume_cases hconsume
      rw [hmandates] at hget
      exact hold hget

/-- `consume` charges an active mandate, whose scope the proposal is in, with its amount. -/
structure Charges (host : Host) (proposal : ProposalV1) (cart : CartMandateV1) (audience : Str)
    (readings : LedgerReadings) (stack : Nat) (mandateId : Uuid) (mandate : IntentMandateV1)
    (ledger after : MandateLedger) : Prop where
  active : ledger.active readings.chain stack 0 mandateId = .ok mandate
  scope : Agrees host mandate proposal cart audience
  charged : after.consumed mandateId = ledger.consumed mandateId + proposal.amount.val

/-- The mandate that the proposal names was registered, and then charged for the proposal by a
call of `consume` that returned. -/
def Backed (host : Host) (calls : List Event) (proposal : ProposalV1) : Prop :=
  ∃ earlier later cart key audience readings stack ledger after mandateId mandate,
    calls = earlier ++ ⟨.consume proposal cart key audience readings stack, true⟩ :: later ∧
    Run (MandateLedger.Step host) .empty earlier ledger ∧
    ledger.consume host proposal cart key audience readings stack = .ok after ∧
    proposal.mandateId = some mandateId ∧ (mandateId, mandate) ∈ registrations earlier ∧
    Charges host proposal cart audience readings stack mandateId mandate ledger after

variable {calls : List Event}

theorem Backed.append (h : Backed host calls proposal) (more : List Event) :
    Backed host (calls ++ more) proposal := by
  obtain ⟨earlier, later, cart, key, audience, readings, stack, ledger, after, mandateId, mandate,
    rfl, h⟩ := h
  refine ⟨earlier, later ++ more, cart, key, audience, readings, stack, ledger, after, mandateId,
    mandate, ?_, h⟩
  rw [List.append_assoc, List.cons_append]

/-- The proposals for which a call of `consume` has returned. -/
def consumedProposals (calls : List Event) : List ProposalV1 :=
  calls.filterMap fun
    | ⟨.consume proposal _ _ _ _ _, true⟩ => some proposal
    | _ => none

theorem exists_of_mem_consumedProposals (h : proposal ∈ consumedProposals calls) :
    ∃ earlier later cart key audience readings stack, calls =
      earlier ++ ⟨.consume proposal cart key audience readings stack, true⟩ :: later := by
  obtain ⟨event, hmem, hevent⟩ := List.mem_filterMap.mp h
  obtain ⟨earlier, later, rfl⟩ := List.append_of_mem hmem
  split at hevent
  · rename_i cart key audience readings stack
    obtain rfl := Option.some.inj hevent
    exact ⟨earlier, later, cart, key, audience, readings, stack, rfl⟩
  · cases hevent

theorem charges_of_consume (hrun : Run (MandateLedger.Step host) .empty trace ledger)
    (hnamed : proposal.mandateId = some mandateId)
    (h : ledger.consume host proposal cart key audience readings stack = .ok after) :
    ∃ mandate, (mandateId, mandate) ∈ registrations trace ∧
      Charges host proposal cart audience readings stack mandateId mandate ledger after := by
  obtain ⟨mandate, chargedId, spent, cartHash, hactive, hid, hspent, hagrees, -, -, -, -, rfl⟩ :=
    consume_eq_ok h
  obtain ⟨hown, hregistered⟩ := registered_of_run hrun (get?_of_active hactive)
  obtain rfl : chargedId = mandateId :=
    Option.some.inj (hid.symm.trans (hagrees.reference mandateId hnamed))
  obtain hcart : cart.mandateId = chargedId := Option.some.inj (hown.symm.trans hid)
  rw [hcart] at hactive hregistered
  refine ⟨mandate, hregistered, hactive, hagrees, ?_⟩
  rw [MandateLedger.consumed, MandateLedger.consumed, MandateLedger.charge, hspent,
    Dict.get?_set_self]
  rfl

theorem backed_of_consumed (hrun : Run (MandateLedger.Step host) .empty calls ledger)
    (hnamed : proposal.mandateId ≠ none) (h : proposal ∈ consumedProposals calls) :
    Backed host calls proposal := by
  obtain ⟨earlier, later, cart, key, audience, readings, stack, rfl⟩ :=
    exists_of_mem_consumedProposals h
  obtain ⟨mandateId, hid⟩ := Option.ne_none_iff_exists'.mp hnamed
  obtain ⟨before, hbefore, hlater⟩ := hrun.of_append
  obtain ⟨middle, hstep, -⟩ := hlater.of_cons
  cases hstep with
  | returns hperform =>
    obtain ⟨mandate, hregistered, hcharges⟩ := charges_of_consume hbefore hid hperform
    exact ⟨earlier, later, cart, key, audience, readings, stack, before, middle, mandateId,
      mandate, rfl, hbefore, hperform, hid, hregistered, hcharges⟩

end Ledger

/-! ## Submissions -/

section Submissions

variable {deployment : Deployment} {desk : Desk deployment.host}

/-- A proposal that names a mandate and is above the threshold reaches the state store only
after `consume` has returned for it. -/
def MandateFirst (desk : Desk deployment.host) : DeskCommand deployment.host → Prop
  | .service (.reserve proposal policy) => policy.mandateRequiredAbove < proposal.amount.val →
      proposal.mandateId ≠ none → proposal ∈ consumedProposals desk.mandateCalls
  | _ => True

instance decidableMandateFirst (desk : Desk deployment.host) :
    DecidablePred (MandateFirst desk) := by
  intro command
  unfold MandateFirst
  split <;> infer_instance

/-- Every proposal that was reserved above the threshold of its policy is backed. -/
def AllBacked (desk : Desk deployment.host) : Prop :=
  ∀ admission ∈ desk.service.admissions,
    admission.policy.mandateRequiredAbove < admission.proposal.amount.val →
      Backed deployment.host desk.mandateCalls admission.proposal

structure Kept (desk : Desk deployment.host) : Prop where
  calls : Run (MandateLedger.Step deployment.host) .empty desk.mandateCalls desk.ledger
  backed : AllBacked desk

theorem kept_ledger (hkept : Kept desk) (outcome : Outcome) (call : Call) :
    Kept (desk.perform deployment outcome (.ledger call)).2 := by
  rw [Desk.perform]
  split
  · rename_i ledger hperform
    exact ⟨.snoc hkept.calls (.returns hperform),
      fun admission hadmission habove => (hkept.backed admission hadmission habove).append _⟩
  · rename_i error hperform
    exact ⟨.snoc hkept.calls (.raises hperform),
      fun admission hadmission habove => (hkept.backed admission hadmission habove).append _⟩

/-- A `reserve` adds at most its own proposal, and only if that names a mandate where the
policy requires one. -/
theorem admissions_reserve (outcome : Outcome) (service : Service deployment.host)
    (proposal : ProposalV1) (policy : PolicyV1) :
    ∀ admission ∈ (service.perform deployment outcome (.reserve proposal policy)).2.admissions,
      admission ∈ service.admissions ∨ (admission.proposal = proposal ∧
        admission.policy = policy ∧
        (policy.mandateRequiredAbove < proposal.amount.val → proposal.mandateId ≠ none)) := by
  intro admission hadmission
  rw [Service.perform] at hadmission
  split at hadmission
  · exact Or.inl hadmission
  · rename_i result state hreserve
    rcases reserve_cases hreserve with ⟨_, _, _, _, rfl, _⟩ | ⟨_, hwritten⟩
    · exact Or.inl hadmission
    · rcases hwritten with ⟨_, _, _, rfl, _⟩ | ⟨hnone, rfl, _⟩
      · exact Or.inl hadmission
      · rcases List.mem_append.mp hadmission with hold | hnew
        · exact Or.inl hold
        · rw [List.mem_singleton.mp hnew]
          exact Or.inr ⟨rfl, rfl, (evaluate_eq_nil.mp hnone).1.mandate⟩

theorem admissions_perform (outcome : Outcome) (service : Service deployment.host)
    (command : Command deployment.host) (hother : ∀ proposal policy,
      command ≠ .reserve proposal policy) :
    (service.perform deployment outcome command).2.admissions = service.admissions := by
  have hchange := change_perform outcome service command
  generalize service.perform deployment outcome command = result at hchange
  have hadmissions : (ledger result.2).admissions = (ledger service).admissions := by
    generalize ledger result.2 = after at hchange
    cases hchange with
    | reserve record hnew => exact absurd rfl (hother _ _)
    | _ => rfl
  exact hadmissions

theorem kept_service (hkept : Kept desk) (outcome : Outcome) (command : Command deployment.host)
    (hguard : MandateFirst desk (.service command)) :
    Kept (desk.perform deployment outcome (.service command)).2 := by
  refine ⟨hkept.calls, ?_⟩
  intro admission hadmission habove
  by_cases hreserve : ∃ proposal policy, command = .reserve proposal policy
  · obtain ⟨proposal, policy, rfl⟩ := hreserve
    rcases admissions_reserve outcome desk.service proposal policy admission hadmission with
      hold | ⟨hproposal, hpolicy, hnamed⟩
    · exact hkept.backed admission hold habove
    · rw [hproposal, hpolicy] at habove
      rw [hproposal]
      exact backed_of_consumed hkept.calls (hnamed habove) (hguard habove (hnamed habove))
  · push Not at hreserve
    have hsame := admissions_perform outcome desk.service command hreserve
    have hold : admission ∈ desk.service.admissions := by
      rw [← hsame]
      exact hadmission
    exact hkept.backed admission hold habove

theorem kept_perform (hkept : Kept desk) (outcome : Outcome)
    (command : DeskCommand deployment.host) (hguard : MandateFirst desk command) :
    Kept (desk.perform deployment outcome command).2 := by
  cases command with
  | service command => exact kept_service hkept outcome command hguard
  | ledger call => exact kept_ledger hkept outcome call

end Submissions

/-! ## A purchase with its mandate, and one without -/

section Samples

open SignedEffect AttestationSoundness HexText

/-- A mandate is required above 50. -/
def mandatePolicy : PolicyV1 := { samplePolicy with
  allowedRecipients := [merchantAddress]
  mandateRequiredAbove := 50 }

/-- A purchase of 100 that names the first mandate. -/
def mandatedPurchase : ProposalV1 := { transferProposal sampleWallet merchantAddress with
  idempotencyKey := ⟨"mandated-purchase".toList, by decide⟩
  mandateId := some firstId }

/-- A call of `count` commands, which are performed at once. -/
def deskCall (index : Nat) (call : DeskCall) (count : Nat) : List (Label DeskCall Outcome) :=
  .start call :: List.replicate count (.advance index sampleOutcome)

/-- The purchase is submitted to the service. -/
def submittedTrace : List (Label DeskCall Outcome) :=
  deskCall 0 (.service (.submit mandatedPurchase researcher)) 2

end Samples

end AegisLedger.Gateway.RequiredMandates
