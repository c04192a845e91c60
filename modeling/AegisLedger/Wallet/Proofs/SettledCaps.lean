import AegisLedger.Support.Run
import AegisLedger.Support.Window
import AegisLedger.Wallet.Proofs.Evaluation

/-!
# Caps on what settles

A proposal is evaluated against the settlements recorded so far, and recorded itself only
when its receipt is reconciled.  What has been approved in between is counted by no
evaluation, so the caps hold of what settles when proposals are submitted one at a time and
the clock does not run backwards between the evaluation and the record.
-/

namespace AegisLedger.Wallet.SettledCaps

open AegisLedger.Support HexText Checks Dict Tally Window Evaluation

/-! ## Runs -/

/-- The guard and its chain, with the clock readings that evaluations have made. -/
structure World where
  guard : AgentGuard
  chain : LocalChain
  evaluatedAt : List Int

inductive Action
  | submit (agentAddress : Str) (p : Proposal) (mandateChain : Option MandateChain)
      (readings : Readings) (attestedAt : Int)
  | mineBlock
  | reconcile (receipts : List (Receipt × Int))
  /-- The harness reports how far the pool has moved. -/
  | observePool (poolMoveBps : Int)

/-- The readings that an evaluation takes for the caps of a policy. -/
def capReadings (policy : Policy) (readings : Readings) : List Int :=
  (List.range policy.windowCaps.length).map readings.caps ++ [readings.velocity]

/-- A call that raises changes nothing but the chain that is mined. -/
def World.perform (platform : Platform) (world : World) : Action → World
  | .submit agentAddress p mandateChain readings attestedAt =>
    let read := world.evaluatedAt ++ capReadings world.guard.engine.policy readings
    match clientSubmit platform agentAddress world.guard world.chain p mandateChain readings
      attestedAt with
    | .ok (_, guard, chain) => ⟨guard, chain, read⟩
    | .error _ => { world with evaluatedAt := read }
  | .mineBlock => { world with chain := world.chain.mineBlock.2 }
  | .reconcile receipts =>
    { world with guard := (world.guard.reconcile platform.toHost receipts).2 }
  | .observePool poolMoveBps =>
    { world with guard := { world.guard with
        engine := { world.guard.engine with poolMoveBps := poolMoveBps } } }

/-- Nothing that was approved is still pending when a proposal is submitted, and nothing is
recorded at a time before an earlier evaluation. -/
def OneAtATime (world : World) : Action → Prop
  | .submit _ _ _ _ _ => world.guard.pending.keys = []
  | .reconcile receipts =>
    ∀ entry ∈ receipts, ∀ reading ∈ world.evaluatedAt, reading ≤ entry.2
  | .mineBlock => True
  | .observePool _ => True

instance (world : World) : (action : Action) → Decidable (OneAtATime world action)
  | .submit _ _ _ _ _ => inferInstanceAs (Decidable (world.guard.pending.keys = []))
  | .reconcile receipts => inferInstanceAs (Decidable
      (∀ entry ∈ receipts, ∀ reading ∈ world.evaluatedAt, reading ≤ entry.2))
  | .mineBlock => .isTrue trivial
  | .observePool _ => .isTrue trivial

/-- The steps at which `allowed` holds. -/
abbrev Steps (platform : Platform) (allowed : World → Action → Prop) :
    World → Action → World → Prop :=
  Run.Guarded allowed (World.perform platform)

/-! ## Caps -/

/-- The records of the window of `windowS` seconds that ends at `t`. -/
def recordedIn (history : List SpendRecord) (windowS t : Int) : List SpendRecord :=
  history.filter fun entry => decide (t - windowS < entry.ts ∧ entry.ts ≤ t)

structure WithinCaps (policy : Policy) (history : List SpendRecord) : Prop where
  windows : ∀ windowCap ∈ policy.windowCaps, ∀ t,
    ((recordedIn history windowCap.windowS.val t).map (·.amount)).sum ≤ windowCap.cap
  velocity : 0 < policy.maxTxPerWindow → ∀ t,
    (recordedIn history policy.velocityWindowS.val t).length ≤ policy.maxTxPerWindow

def weights (history : List SpendRecord) : List (Int × Nat) :=
  history.map fun entry => (entry.ts, entry.amount.toNat)

def marks (history : List SpendRecord) : List (Int × Nat) :=
  history.map fun entry => (entry.ts, 1)

theorem sum_filter_eq_total {history : List SpendRecord} (p : Int → Bool)
    (hpositive : ∀ entry ∈ history, 0 < entry.amount) :
    ((history.filter fun entry => p entry.ts).map (·.amount)).sum =
      (total p (weights history) : Int) := by
  induction history with
  | nil => rfl
  | cons entry history ih =>
    have hentry := hpositive entry List.mem_cons_self
    have htail := ih fun later hlater => hpositive later (List.mem_cons_of_mem entry hlater)
    have hweights : weights (entry :: history) =
        (entry.ts, entry.amount.toNat) :: weights history := rfl
    rw [hweights, total_cons, List.filter_cons]
    by_cases hp : p entry.ts = true
    · rw [if_pos hp, if_pos hp, List.map_cons, List.sum_cons, htail]
      omega
    · rw [if_neg hp, if_neg hp, htail]
      omega

theorem length_filter_eq_total (history : List SpendRecord) (p : Int → Bool) :
    (history.filter fun entry => p entry.ts).length = total p (marks history) := by
  induction history with
  | nil => rfl
  | cons entry history ih =>
    have hmarks : marks (entry :: history) = (entry.ts, 1) :: marks history := rfl
    rw [hmarks, total_cons, List.filter_cons]
    by_cases hp : p entry.ts = true
    · rw [if_pos hp, if_pos hp, List.length_cons, ih]
      omega
    · rw [if_neg hp, if_neg hp, ih]
      omega

/-- What an evaluation counts of a window that it looks at `now`. -/
def counted (windowS now : Int) (ts : Int) : Bool := decide (now - ts < windowS)

theorem withinCaps_of_bounded {policy : Policy} {history : List SpendRecord}
    (hpositive : ∀ entry ∈ history, 0 < entry.amount)
    (hwindows : ∀ windowCap ∈ policy.windowCaps,
      Bounded (windowCap.windowS.val : Int) windowCap.cap (weights history))
    (hvelocity : 0 < policy.maxTxPerWindow →
      Bounded (policy.velocityWindowS.val : Int) policy.maxTxPerWindow (marks history)) :
    WithinCaps policy history where
  windows := by
    intro windowCap hcap t
    have hsum := sum_filter_eq_total (inWindow (windowCap.windowS.val : Int) t) hpositive
    have hbounded := hwindows windowCap hcap t
    have hrecorded : ((recordedIn history windowCap.windowS.val t).map (·.amount)).sum =
        (total (inWindow (windowCap.windowS.val : Int) t) (weights history) : Int) := hsum
    rw [hrecorded]
    exact Int.ofNat_le.mpr hbounded
  velocity := by
    intro hlimit t
    have hlength := length_filter_eq_total history
      (inWindow (policy.velocityWindowS.val : Int) t)
    have hrecorded : (recordedIn history policy.velocityWindowS.val t).length =
        total (inWindow (policy.velocityWindowS.val : Int) t) (marks history) := hlength
    rw [hrecorded]
    exact hvelocity hlimit t

variable {now : Int}

/-- A window keeps its bound when a record is added that an evaluation `now` found room
for, and the record is not stamped before `now`. -/
theorem bounded_record {windowS stamp : Int} {cap weight : Nat} {entries : List (Int × Nat)}
    (hentries : Bounded windowS cap entries) (hstamp : now ≤ stamp)
    (hroom : total (counted windowS now) entries + weight ≤ cap) :
    Bounded windowS cap (entries ++ [(stamp, weight)]) := by
  apply hentries.extend hstamp _ hroom
  intro entry _ hlate
  rw [counted, decide_eq_true_eq]
  omega

/-! ## Evaluation -/

/-- An evaluation at readings among `evaluatedAt` has found room for the proposal under
every cap. -/
structure Admitted (engine : PolicyEngine) (evaluatedAt : List Int) (p : Proposal) : Prop where
  amount : 0 < p.amount
  windows : ∀ windowCap ∈ engine.policy.windowCaps, ∃ now ∈ evaluatedAt,
    engine.spentInWindow windowCap.windowS.val now + p.amount ≤ windowCap.cap
  velocity : 0 < engine.policy.maxTxPerWindow → ∃ now ∈ evaluatedAt,
    engine.countInWindow engine.policy.velocityWindowS.val now + 1 ≤ engine.policy.maxTxPerWindow

theorem mem_capReadings_caps {policy : Policy} (readings : Readings) {position : Nat}
    (h : position < policy.windowCaps.length) :
    readings.caps position ∈ capReadings policy readings :=
  List.mem_append_left _ (List.mem_map_of_mem (List.mem_range.mpr h))

theorem mem_capReadings_velocity (policy : Policy) (readings : Readings) :
    readings.velocity ∈ capReadings policy readings :=
  List.mem_append_right _ List.mem_cons_self

variable {engine : PolicyEngine} {p : Proposal} {readings : Readings}

theorem room_of_capReasons (h : engine.capReasons p readings = []) :
    ∀ windowCap ∈ engine.policy.windowCaps,
      ∃ now ∈ capReadings engine.policy readings,
        engine.spentInWindow windowCap.windowS.val now + p.amount ≤ windowCap.cap := by
  intro windowCap hmem
  obtain ⟨position, hposition, hcap⟩ := List.mem_iff_getElem.mp hmem
  have hindexed : (windowCap, position) ∈ engine.policy.windowCaps.zipIdx := by
    rw [List.mem_zipIdx_iff_getElem?, List.getElem?_eq_getElem hposition, hcap]
  have hnote := List.flatMap_eq_nil_iff.mp h _ hindexed
  refine ⟨_, mem_capReadings_caps readings hposition, ?_⟩
  exact not_lt.mp (noteIf_eq_nil.mp hnote)

variable {platform : Platform} {mandateChain : Option MandateChain}

theorem admitted_of_evaluate {verdict : Verdict}
    (h : engine.evaluate platform p mandateChain readings = .ok verdict)
    (hallow : verdict.allow = true) : Admitted engine (capReadings engine.policy readings) p := by
  have hallows := allows_of_evaluate h hallow
  constructor
  · exact hallows.amount_pos
  · exact room_of_capReasons hallows.caps
  · intro hlimit
    have hvelocity := hallows.velocity
    refine ⟨_, mem_capReadings_velocity engine.policy readings, ?_⟩
    omega

/-! ## What each call does -/

variable {guard : AgentGuard}

/-- A submission leaves the engine, and adds to the pending proposals at most the one it
was made for. -/
theorem submit_cases {after : AgentGuard} {chain submitted : LocalChain} {attestedAt : Int}
    {receipt : GuardReceipt} (h : guard.submit platform chain p mandateChain readings attestedAt =
      .ok (receipt, after, submitted)) :
    after.engine = guard.engine ∧
      (after.pending = guard.pending ∨
        ∃ hash verdict att, after.pending = guard.pending.set hash ⟨p, verdict, att, receipt⟩ ∧
          guard.engine.evaluate platform p mandateChain readings = .ok verdict ∧
          verdict.allow = true) := by
  obtain ⟨verdict, att, hdecide, rfl, hsubmitted⟩ := submitted_of_submit h
  cases hsubmitted with
  | denied _ => exact ⟨rfl, .inl rfl⟩
  | dispatched hallow _ _ =>
    exact ⟨rfl, .inr ⟨_, verdict, att, rfl, evaluate_of_decide hdecide, hallow⟩⟩

/-! ## The invariant -/

/-- The caps hold of the history, and at most one proposal is pending, for which there is
still room. -/
structure Settling (guard : AgentGuard) (evaluatedAt : List Int) : Prop where
  positive : ∀ entry ∈ guard.engine.history, 0 < entry.amount
  windows : ∀ windowCap ∈ guard.engine.policy.windowCaps,
    Bounded (windowCap.windowS.val : Int) windowCap.cap (weights guard.engine.history)
  velocity : 0 < guard.engine.policy.maxTxPerWindow →
    Bounded (guard.engine.policy.velocityWindowS.val : Int) guard.engine.policy.maxTxPerWindow
      (marks guard.engine.history)
  pending : guard.pending.entries = [] ∨ ∃ hash entry,
    guard.pending.entries = [(hash, entry)] ∧ Admitted guard.engine evaluatedAt entry.proposal

variable {evaluatedAt : List Int}

theorem Admitted.mono {later : List Int} (h : Admitted engine evaluatedAt p)
    (hsubset : evaluatedAt ⊆ later) :
    Admitted engine later p where
  amount := h.amount
  windows := by
    intro windowCap hcap
    obtain ⟨now, hnow, hroom⟩ := h.windows windowCap hcap
    exact ⟨now, hsubset hnow, hroom⟩
  velocity := by
    intro hlimit
    obtain ⟨now, hnow, hroom⟩ := h.velocity hlimit
    exact ⟨now, hsubset hnow, hroom⟩

theorem settling_submit {after : AgentGuard} {chain submitted : LocalChain} {attestedAt : Int}
    {receipt : GuardReceipt} (h : Settling guard evaluatedAt) (hidle : guard.pending.entries = [])
    (hsubmit : guard.submit platform chain p mandateChain readings attestedAt =
      .ok (receipt, after, submitted)) :
    Settling after (evaluatedAt ++ capReadings guard.engine.policy readings) := by
  obtain ⟨hengine, hpending⟩ := submit_cases hsubmit
  refine ⟨?_, ?_, ?_, ?_⟩
  · rw [hengine]
    exact h.positive
  · rw [hengine]
    exact h.windows
  · rw [hengine]
    exact h.velocity
  · rcases hpending with hsame | ⟨hash, verdict, att, hset, hevaluate, hallow⟩
    · left
      rw [hsame, hidle]
    · right
      have hentries : after.pending.entries = [(hash, ⟨p, verdict, att, receipt⟩)] := by
        rw [hset, entries_set_of_entries_nil hidle]
      refine ⟨hash, _, hentries, ?_⟩
      rw [hengine]
      exact (admitted_of_evaluate hevaluate hallow).mono (List.subset_append_right _ _)

theorem settling_record (h : Settling guard evaluatedAt)
    (hroom : Admitted guard.engine evaluatedAt p) (hnow : ∀ reading ∈ evaluatedAt, reading ≤ now) :
    (∀ entry ∈ (guard.engine.record p now).history, 0 < entry.amount) ∧
      (∀ windowCap ∈ guard.engine.policy.windowCaps,
        Bounded (windowCap.windowS.val : Int) windowCap.cap
          (weights (guard.engine.record p now).history)) ∧
      (0 < guard.engine.policy.maxTxPerWindow →
        Bounded (guard.engine.policy.velocityWindowS.val : Int)
          guard.engine.policy.maxTxPerWindow (marks (guard.engine.record p now).history)) := by
  have hweights : weights (guard.engine.record p now).history =
      weights guard.engine.history ++ [(now, p.amount.toNat)] := by
    simp only [PolicyEngine.record, weights, List.map_append, List.map_cons, List.map_nil]
  have hmarks : marks (guard.engine.record p now).history =
      marks guard.engine.history ++ [(now, 1)] := by
    simp only [PolicyEngine.record, marks, List.map_append, List.map_cons, List.map_nil]
  refine ⟨?_, ?_, ?_⟩
  · intro entry hentry
    rcases List.mem_append.mp hentry with hold | hnew
    · exact h.positive entry hold
    · rw [List.mem_singleton.mp hnew]
      exact hroom.amount
  · intro windowCap hcap
    obtain ⟨reading, hreading, hspent⟩ := hroom.windows windowCap hcap
    have hsum : guard.engine.spentInWindow windowCap.windowS.val reading =
        (total (counted windowCap.windowS.val reading) (weights guard.engine.history) : Int) :=
      sum_filter_eq_total (counted windowCap.windowS.val reading) h.positive
    have hamount := hroom.amount
    rw [hweights]
    apply bounded_record (h.windows windowCap hcap) (hnow reading hreading)
    omega
  · intro hlimit
    obtain ⟨reading, hreading, hcount⟩ := hroom.velocity hlimit
    have hlength : guard.engine.countInWindow guard.engine.policy.velocityWindowS.val reading =
        total (counted guard.engine.policy.velocityWindowS.val reading)
          (marks guard.engine.history) :=
      length_filter_eq_total guard.engine.history
        (counted guard.engine.policy.velocityWindowS.val reading)
    rw [hmarks]
    apply bounded_record (h.velocity hlimit) (hnow reading hreading)
    omega

/-- A receipt that finds its proposal finds the only one there is. -/
theorem pending_of_get? {hash : Str} {found : PendingProposal} (h : Settling guard evaluatedAt)
    (hget : guard.pending.get? hash = some found) :
    (guard.pending.erase hash).entries = [] ∧
      Admitted guard.engine evaluatedAt found.proposal := by
  have hmem := mem_entries_of_get? hget
  rcases h.pending with hnone | ⟨key, entry, hentries, hadmitted⟩
  · rw [hnone] at hmem
    cases hmem
  · rw [hentries, List.mem_singleton, Prod.mk.injEq] at hmem
    obtain ⟨rfl, rfl⟩ := hmem
    refine ⟨?_, hadmitted⟩
    rw [entries_erase, hentries]
    simp

theorem settling_reconcileOne {host : Gateway.Host} {chainReceipt : Receipt}
    (h : Settling guard evaluatedAt) (hnow : ∀ reading ∈ evaluatedAt, reading ≤ now) :
    Settling (guard.reconcileOne host chainReceipt now).2 evaluatedAt := by
  unfold AgentGuard.reconcileOne
  cases hget : guard.pending.get? (chainReceipt.tx.hash host) with
  | none => exact h
  | some found =>
    obtain ⟨herased, hadmitted⟩ := pending_of_get? h hget
    dsimp only
    split_ifs with hsuccess
    · obtain ⟨hpositive, hwindows, hvelocity⟩ := settling_record h hadmitted hnow
      exact ⟨hpositive, hwindows, hvelocity, Or.inl herased⟩
    · exact ⟨h.positive, h.windows, h.velocity, Or.inl herased⟩

theorem settling_reconcile {host : Gateway.Host} (receipts : List (Receipt × Int)) :
    ∀ {guard : AgentGuard}, Settling guard evaluatedAt →
      (∀ entry ∈ receipts, ∀ reading ∈ evaluatedAt, reading ≤ entry.2) →
      Settling (guard.reconcile host receipts).2 evaluatedAt := by
  induction receipts with
  | nil =>
    intro guard h _
    exact h
  | cons entry rest ih =>
    intro guard h hnow
    rw [AgentGuard.reconcile]
    apply ih (settling_reconcileOne h (hnow entry List.mem_cons_self))
    intro later hlater
    exact hnow later (List.mem_cons_of_mem entry hlater)

theorem entries_of_keys_nil {κ ν : Type} {d : Dict κ ν} (h : d.keys = []) : d.entries = [] :=
  List.map_eq_nil_iff.mp h

theorem settling_perform {world : World} {action : Action}
    (h : Settling world.guard world.evaluatedAt) (hallowed : OneAtATime world action) :
    Settling (world.perform platform action).guard
      (world.perform platform action).evaluatedAt := by
  cases action with
  | submit agentAddress p mandateChain readings attestedAt =>
    rw [World.perform]
    cases hsubmit : clientSubmit platform agentAddress world.guard world.chain p mandateChain
        readings attestedAt with
    | error error =>
      refine ⟨h.positive, h.windows, h.velocity, ?_⟩
      exact Or.inl (entries_of_keys_nil hallowed)
    | ok result =>
      obtain ⟨receipt, guard, chain⟩ := result
      exact settling_submit h (entries_of_keys_nil hallowed) hsubmit
  | mineBlock => exact h
  | reconcile receipts => exact settling_reconcile receipts h hallowed
  | observePool poolMoveBps =>
    refine ⟨h.positive, h.windows, h.velocity, ?_⟩
    rcases h.pending with hnone | ⟨hash, entry, hentries, hadmitted⟩
    · exact Or.inl hnone
    · exact Or.inr ⟨hash, entry, hentries, hadmitted.amount, hadmitted.windows,
        hadmitted.velocity⟩

theorem settling_init (hhistory : guard.engine.history = [])
    (hpending : guard.pending.entries = []) (evaluatedAt : List Int) :
    Settling guard evaluatedAt := by
  refine ⟨?_, ?_, ?_, Or.inl hpending⟩
  · rw [hhistory]
    exact fun entry hentry => absurd hentry List.not_mem_nil
  · intro windowCap _
    rw [hhistory]
    exact bounded_nil _ _
  · intro _
    rw [hhistory]
    exact bounded_nil _ _

/-- In every run of submissions one at a time, blocks and reconciliations, from a guard that
has recorded nothing, the caps hold of everything recorded. -/
theorem settled_withinCaps {platform : Platform} {start world : World} {trace : List Action}
    (hhistory : start.guard.engine.history = []) (hpending : start.guard.pending.keys = [])
    (hrun : Run (Steps platform OneAtATime) start trace world) :
    WithinCaps world.guard.engine.policy world.guard.engine.history := by
  have hsettling : Settling world.guard world.evaluatedAt := by
    apply hrun.invariant (I := fun _ world => Settling world.guard world.evaluatedAt)
    · exact settling_init hhistory (entries_of_keys_nil hpending) _
    · rintro _ before action after _ h ⟨hallowed, rfl⟩
      exact settling_perform h hallowed
  exact withinCaps_of_bounded hsettling.positive hsettling.windows hsettling.velocity

/-! ## Sample runs

A cap of 100 in an hour and at most one payment in an hour; two transfers of 100. -/

/-- A host whose digests are the data and whose signatures are the messages. -/
def plainHost : Gateway.Host where
  rfc8785 := none
  sha256 := fun data => data
  keccak := fun data => data
  ed25519Verify := fun _ message signature => message = signature
  fromEncodedPoint := fun _ => none
  ecdsaVerify := fun _ _ _ _ => false
  lower := asciiLower
  datetimeText := fun _ => []
  fromIsoformat := fun _ => none

def plainPlatform : Platform := { plainHost with repr := fun text => text }

def walletKeys : KeyPair := ⟨List.replicate 32 7, fun message => message⟩

def hourlyPolicy : Policy where
  perTxCap := 100
  windowCaps := [⟨3600, 100⟩]
  maxTxPerWindow := 1
  velocityWindowS := 3600
  allowedAssets := ["TUSDC".toList]
  allowlistRecipients := []
  blocklistRecipients := []
  requireMandateAbove := 1000
  risk := ⟨false, 100, 100⟩
  killSwitch := false

def payment : Proposal where
  kind := "transfer".toList
  amount := 100
  asset := "TUSDC".toList
  recipient := "vendor".toList
  tokenIn := "TUSDC".toList
  tokenOut := "DRB".toList
  minOut := 0
  quotedOut := 0
  purpose := []
  metadata := .empty

/-- The wallet holds 1000 units. -/
def fundedChain : LocalChain :=
  ((LocalChain.new 1000000 500000 31337).mint "TUSDC".toList (walletKeys.address plainHost)
    1000).toOption.getD (LocalChain.new 1000000 500000 31337)

def freshWorld : World where
  guard := .init ⟨hourlyPolicy, [], 0⟩ walletKeys walletKeys "policy".toList
  chain := fundedChain
  evaluatedAt := []

/-- A submission of the payment at an instant. -/
def submitAt (now : Int) : Action :=
  .submit "agent".toList payment none ⟨fun _ => now, now, now, now⟩ now

def worldAfter (trace : List Action) : World :=
  trace.foldl (World.perform plainPlatform) freshWorld

/-- Reconcile the receipts of the last block at an instant. -/
def reconcileAt (now : Int) (world : World) : Action :=
  .reconcile ((world.chain.blocks.getLast?.getD []).map fun receipt => (receipt, now))

/-- One payment is mined and reconciled before the other is submitted. -/
def sequentialTrace : List Action :=
  let first := [submitAt 1000, .mineBlock]
  let settled := first ++ [reconcileAt 1001 (worldAfter first)]
  let second := settled ++ [submitAt 4601, .mineBlock]
  second ++ [reconcileAt 4602 (worldAfter second)]

/-- Both payments are submitted before the block is mined. -/
def batchedTrace : List Action :=
  let submitted := [submitAt 1000, submitAt 1000, .mineBlock]
  submitted ++ [reconcileAt 1001 (worldAfter submitted)]

def spends (world : World) : List (Int × Int) :=
  world.guard.engine.history.map fun entry => (entry.ts, entry.amount)

theorem sequentialTrace_withinCaps :
    spends (worldAfter sequentialTrace) = [(1001, 100), (4602, 100)] ∧
      WithinCaps hourlyPolicy (worldAfter sequentialTrace).guard.engine.history := by
  have hfacts : Run.Follows OneAtATime (World.perform plainPlatform) freshWorld sequentialTrace ∧
      (worldAfter sequentialTrace).guard.engine.policy = hourlyPolicy ∧
      spends (worldAfter sequentialTrace) = [(1001, 100), (4602, 100)] := by
    decide +kernel
  obtain ⟨hfollows, hpolicy, hspends⟩ := hfacts
  have hrun : Run (Steps plainPlatform OneAtATime) freshWorld sequentialTrace
      (worldAfter sequentialTrace) := hfollows.run
  refine ⟨hspends, ?_⟩
  rw [← hpolicy]
  exact settled_withinCaps rfl rfl hrun

/-- Both payments are allowed, executed and recorded in one second: twice the cap and twice
the limit. -/
theorem batchedTrace_exceedsCaps :
    Run (Steps plainPlatform fun _ _ => True) freshWorld batchedTrace
        (worldAfter batchedTrace) ∧
      (worldAfter batchedTrace).guard.engine.policy = hourlyPolicy ∧
      (worldAfter batchedTrace).chain.blocks.map (·.map (·.success)) = [[true, true]] ∧
      spends (worldAfter batchedTrace) = [(1001, 100), (1001, 100)] ∧
      ¬WithinCaps hourlyPolicy (worldAfter batchedTrace).guard.engine.history := by
  have hrun : Run (Steps plainPlatform fun _ _ => True) freshWorld batchedTrace
      (worldAfter batchedTrace) :=
    Run.foldl (fun _ _ => ⟨trivial, rfl⟩) freshWorld batchedTrace
  have hfacts : (worldAfter batchedTrace).guard.engine.policy = hourlyPolicy ∧
      (worldAfter batchedTrace).chain.blocks.map (·.map (·.success)) = [[true, true]] ∧
      spends (worldAfter batchedTrace) = [(1001, 100), (1001, 100)] ∧
      (recordedIn (worldAfter batchedTrace).guard.engine.history 3600 1001).length = 2 := by
    decide +kernel
  obtain ⟨hpolicy, hblocks, hspends, hcount⟩ := hfacts
  refine ⟨hrun, hpolicy, hblocks, hspends, ?_⟩
  intro hwithin
  have hlimit := hwithin.velocity (by decide) 1001
  have hcapped : (recordedIn (worldAfter batchedTrace).guard.engine.history 3600 1001).length ≤
      1 := hlimit
  omega

end AegisLedger.Wallet.SettledCaps
