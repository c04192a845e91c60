import AegisLedger.Wallet.Proofs.Digests
import AegisLedger.Wallet.Proofs.SettledCaps

/-!
# The audit log of the guard

Every entry names the hash of the one before it, and the guard keeps the last hash.  Every call
keeps that, so the log verifies in every reachable state.  Entries put in its place that verify
against the same head say the same: a hash fixes the text of an entry, the text fixes what it
says and so the hash before, and the marker of the start is no hash.
-/

namespace AegisLedger.Wallet.AuditChain

open AegisLedger.Support HexText Checks HashChain Digests Evaluation
open AegisLedger.Gateway (Host isLowerHexDigit_of_mem_toHex)
open AegisLedger.Gateway.CanonicalText

/-! ## Runs -/

inductive GuardCall
  | submit (chain : LocalChain) (p : Proposal) (mandateChain : Option MandateChain)
      (readings : Readings) (attestedAt : Int)
  | submitUnsettled (p : Proposal) (mandateChain : Option MandateChain) (readings : Readings)
      (attestedAt : Int)
  | reconcile (receipts : List (Receipt × Int))
  | signForX402 (digest : Bytes) (req : PaymentRequirements) (readings : Readings)
      (attestedAt recordedAt : Int)

/-- A call that raises leaves the guard as it is. -/
def perform (platform : Platform) (guard : AgentGuard) : GuardCall → AgentGuard
  | .submit chain p mandateChain readings attestedAt =>
    match guard.submit platform chain p mandateChain readings attestedAt with
    | .ok (_, after, _) => after
    | .error _ => guard
  | .submitUnsettled p mandateChain readings attestedAt =>
    match guard.submitUnsettled platform p mandateChain readings attestedAt with
    | .ok (_, after) => after
    | .error _ => guard
  | .reconcile receipts => (guard.reconcile platform.toHost receipts).2
  | .signForX402 digest req readings attestedAt recordedAt =>
    match guard.signForX402 platform digest req readings attestedAt recordedAt with
    | .ok (_, after) => after
    | .error _ => guard

/-! ## The chain is kept -/

/-- The entries lead from the marker to the head. -/
def Chained (host : Host) (guard : AgentGuard) : Prop :=
  Linked AuditEntry.prevHash (AuditEntry.hash host) genesis guard.audit guard.auditHead

theorem verifyAuditChain_iff {host : Host} {guard : AgentGuard} :
    guard.verifyAuditChain host = true ↔ Chained host guard := by
  rw [AgentGuard.verifyAuditChain, decide_eq_true_eq, walk_eq_some_iff, Chained]

section Kept

variable {platform : Platform} {guard after : AgentGuard}

theorem chained_appendAudit {host : Host} (h : Chained host guard) (p : Proposal)
    (verdict : Verdict) (att : Attestation) (settled : Bool) :
    Chained host (guard.appendAudit host p verdict att settled) := by
  refine Linked.snoc ?_
  dsimp only
  rw [← h.head_eq]
  exact h

theorem chained_submit {chain later : LocalChain} {p : Proposal}
    {mandateChain : Option MandateChain} {readings : Readings} {attestedAt : Int}
    {receipt : GuardReceipt} (h : Chained platform.toHost guard)
    (hsubmit : guard.submit platform chain p mandateChain readings attestedAt =
      .ok (receipt, after, later)) : Chained platform.toHost after := by
  obtain ⟨verdict, att, -, -, hsubmitted⟩ := submitted_of_submit hsubmit
  cases hsubmitted with
  | denied _ => exact chained_appendAudit h p verdict att false
  | @dispatched tx _ _ _ _ =>
    have hwaiting : Chained platform.toHost (awaiting platform.toHost guard p verdict att tx) :=
      h
    exact chained_appendAudit hwaiting p verdict att false

theorem chained_reconcileOne {host : Host} (h : Chained host guard) (receipt : Receipt)
    (now : Int) : Chained host (guard.reconcileOne host receipt now).2 := by
  unfold AgentGuard.reconcileOne
  split
  · exact h
  · dsimp only
    split_ifs
    · exact chained_appendAudit h _ _ _ _
    · exact h

theorem chained_reconcile {host : Host} (h : Chained host guard)
    (receipts : List (Receipt × Int)) : Chained host (guard.reconcile host receipts).2 := by
  induction receipts generalizing guard with
  | nil => exact h
  | cons entry receipts ih => exact ih (chained_reconcileOne h entry.1 entry.2)

theorem chained_perform (h : Chained platform.toHost guard) (call : GuardCall) :
    Chained platform.toHost (perform platform guard call) := by
  cases call with
  | submit chain p mandateChain readings attestedAt =>
    unfold perform
    dsimp only
    split
    · rename_i hsubmit
      exact chained_submit h hsubmit
    · exact h
  | submitUnsettled p mandateChain readings attestedAt =>
    unfold perform
    dsimp only
    split
    · rename_i hsubmit
      rw [AgentGuard.submitUnsettled, bind_eq_ok] at hsubmit
      obtain ⟨⟨verdict, att⟩, -, hsubmit⟩ := hsubmit
      rw [pure_eq_ok, Prod.mk.injEq] at hsubmit
      obtain ⟨-, rfl⟩ := hsubmit
      exact chained_appendAudit h p verdict att false
    · exact h
  | reconcile receipts => exact chained_reconcile h receipts
  | signForX402 digest req readings attestedAt recordedAt =>
    unfold perform
    dsimp only
    split
    · rename_i hsign
      rw [AgentGuard.signForX402, bind_eq_ok] at hsign
      obtain ⟨⟨verdict, att⟩, -, hsign⟩ := hsign
      dsimp only at hsign
      split_ifs at hsign
      · rw [pure_eq_ok, Prod.mk.injEq] at hsign
        obtain ⟨-, rfl⟩ := hsign
        exact chained_appendAudit h _ verdict att true
      · rw [pure_eq_ok, Prod.mk.injEq] at hsign
        obtain ⟨-, rfl⟩ := hsign
        exact chained_appendAudit h _ verdict att false
    · exact h

theorem chained_foldl (h : Chained platform.toHost guard) (calls : List GuardCall) :
    Chained platform.toHost (calls.foldl (perform platform) guard) := by
  induction calls generalizing guard with
  | nil => exact h
  | cons call calls ih => exact ih (chained_perform h call)

end Kept

/-! ## Other entries under the same head -/

/-- The two entries have the same JSON content, whatever the order of their members. -/
def SameContent (host : Host) (entry other : AuditEntry) : Prop :=
  contentOf host.floatText (sortKeys entry.asdict) =
    contentOf host.floatText (sortKeys other.asdict)

/-- SHA-256 does not collide on the texts of these entries. -/
def CollisionFree (host : Host) (entries : List AuditEntry) : Prop :=
  ∀ entry ∈ entries, ∀ other ∈ entries,
    host.sha256 (entry.serialized host) = host.sha256 (other.serialized host) →
      entry.serialized host = other.serialized host

section Tampering

variable {host : Host} {entry other : AuditEntry}

theorem hash_ne_genesis (entry : AuditEntry) : entry.hash host ≠ genesis := by
  intro h
  have hmem : 'G' ∈ entry.hash host := by
    rw [h]
    decide
  exact absurd (isLowerHexDigit_of_mem_toHex hmem) (by decide)

theorem prevHash_eq_of_same (h : SameContent host entry other) :
    entry.prevHash = other.prevHash := by
  have hsorted : ∀ e : AuditEntry, sortKeys e.asdict = .obj [
      ("attestation_sig".toList, .str e.attestationSig),
      ("prev_hash".toList, .str e.prevHash),
      ("proposal".toList, sortKeys e.proposal),
      ("seq".toList, .int e.seq),
      ("settled".toList, .bool e.settled),
      ("verdict".toList, .str e.verdict)] := fun _ => rfl
  rw [SameContent, hsorted, hsorted, contentOf, contentOf, contentFields_eq_map,
    contentFields_eq_map, Content.members.injEq] at h
  simp only [List.map_cons, List.cons.injEq, Prod.mk.injEq, true_and] at h
  have hprev := h.2.1
  rw [contentOf, contentOf, Content.text.injEq] at hprev
  exact hprev

theorem same_of_hash {entries : List AuditEntry} (hfree : CollisionFree host entries)
    (hentry : entry ∈ entries) (hother : other ∈ entries)
    (h : entry.hash host = other.hash host) :
    SameContent host entry other ∧ entry.prevHash = other.prevHash := by
  have htext := hfree entry hentry other hother (toHex_injective h)
  have hsame : SameContent host entry other := content_eq_of_canonicalWith htext
  exact ⟨hsame, prevHash_eq_of_same hsame⟩

end Tampering

/-- The log verifies in every reachable state, and other entries verify in its place only if
they have the same content. -/
theorem audit_tamperEvident (platform : Platform) (engine : PolicyEngine)
    (attestor signer : KeyPair) (policyHash : Str) (calls : List GuardCall) :
    let guard := calls.foldl (perform platform) (.init engine attestor signer policyHash)
    guard.verifyAuditChain platform.toHost = true ∧
      ∀ entries, CollisionFree platform.toHost (guard.audit ++ entries) →
        AgentGuard.verifyAuditChain platform.toHost { guard with audit := entries } = true →
          List.Forall₂ (SameContent platform.toHost) entries guard.audit := by
  intro guard
  have hstart : Chained platform.toHost (.init engine attestor signer policyHash) := Linked.nil
  have hchained : Chained platform.toHost guard := chained_foldl hstart calls
  refine ⟨verifyAuditChain_iff.mpr hchained, fun entries hfree hverifies => ?_⟩
  have hentries := verifyAuditChain_iff.mp hverifies
  refine Linked.same hash_ne_genesis ?_ hentries hchained
  intro entry hentry other hother hhash
  exact same_of_hash hfree (List.mem_append_right _ hentry) (List.mem_append_left _ hother) hhash

section Samples

open SettledCaps

def loggedCalls : List GuardCall := [.submitUnsettled payment none ⟨fun _ => 0, 0, 0, 0⟩ 0]

/-- A guard that has logged one submission. -/
def loggedGuard : AgentGuard :=
  loggedCalls.foldl (perform plainPlatform)
    (.init ⟨hourlyPolicy, [], 0⟩ walletKeys walletKeys "policy".toList)

/-- Its log verifies, and no longer does without the entry. -/
theorem loggedGuard_tamperEvident :
    loggedGuard.audit.length = 1 ∧ loggedGuard.verifyAuditChain plainHost = true ∧
      AgentGuard.verifyAuditChain plainHost { loggedGuard with audit := [] } = false := by
  have hlength : loggedGuard.audit.length = 1 := by decide +kernel
  obtain ⟨hverifies, htampered⟩ := audit_tamperEvident plainPlatform ⟨hourlyPolicy, [], 0⟩
    walletKeys walletKeys "policy".toList loggedCalls
  refine ⟨hlength, hverifies, Bool.eq_false_iff.mpr fun hempty => ?_⟩
  have hfree : CollisionFree plainHost (loggedGuard.audit ++ []) := fun _ _ _ _ h => h
  have hsame := (htampered [] hfree hempty).length_eq
  exact absurd (hsame.trans hlength) (by decide)

end Samples

end AegisLedger.Wallet.AuditChain
