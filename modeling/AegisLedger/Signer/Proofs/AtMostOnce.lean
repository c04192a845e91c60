import AegisLedger.Signer.Machine
import AegisLedger.Signer.ReplayText
import AegisLedger.Gateway.Proofs.AttestationSoundness

/-!
# At most one signature

A signature is made only after its admission has reached the file, the durable copy of
the file and the memory.  The invariant follows each signature ever made through all
three: whatever a restart may load covers it, and what covers an admission refuses the
decision and every nonce that is not larger.
-/

namespace AegisLedger.Signer.AtMostOnce

open AegisLedger.Support HexText Checks Dict
open AegisLedger.Gateway (Json prefixedHex)

/-! ## Coverage -/

/-- The replay state knows the decision and has moved past the nonce. -/
def Covers (replay : ReplayState) (a : Admission) : Prop :=
  a.decisionNonce ∈ replay.usedDecisions ∧
    ∃ next, replay.nextWalletNonce.get? a.key = some next ∧ a.walletNonce < next

/-- The admission passed the replay checks against this state, and its nonce has a
successor. -/
structure Pending (lower : Str → Str) (replay : ReplayState) (a : Admission) : Prop where
  fresh : a.decisionNonce ∉ replay.usedDecisions
  nonce : a.walletNonce = replay.expectedNonce a.key
  stable : lower a.wallet = a.wallet
  bounded : a.walletNonce.toNat < 2 ^ 64 - 1

/-- `b` was signed for another decision than `a`, and with a smaller nonce if for the
same wallet and chain. -/
def Before (b a : Admission) : Prop :=
  b.decisionNonce ≠ a.decisionNonce ∧ (b.key = a.key → b.walletNonce < a.walletNonce)

theorem lt_succ_of_bounded {n : UInt64} (h : n.toNat < 2 ^ 64 - 1) : n < n + 1 := by
  rw [UInt64.lt_iff_toNat_lt, UInt64.toNat_add]
  have hone : (1 : UInt64).toNat = 1 := rfl
  rw [hone, Nat.mod_eq_of_lt (by omega)]
  omega

variable {lower : Str → Str} {replay : ReplayState} {a : Admission}

theorem before_of_covers {b : Admission} (hpending : Pending lower replay a)
    (hcovers : Covers replay b) : Before b a := by
  obtain ⟨hused, next, hnext, hlt⟩ := hcovers
  constructor
  · intro hsame
    rw [hsame] at hused
    exact hpending.fresh hused
  · intro hkey
    have hexpected : replay.expectedNonce a.key = next := by
      rw [ReplayState.expectedNonce, ← hkey, hnext]
      rfl
    rw [hpending.nonce, hexpected]
    exact hlt

theorem covers_updated_self (hpending : Pending lower replay a) : Covers (replay.updated a) a := by
  refine ⟨List.mem_insert_self, a.walletNonce + 1, ?_, lt_succ_of_bounded hpending.bounded⟩
  exact get?_set_self _ _ _

theorem covers_updated {b : Admission} (hpending : Pending lower replay a)
    (hcovers : Covers replay b) : Covers (replay.updated a) b := by
  have hbefore := before_of_covers hpending hcovers
  obtain ⟨hused, next, hnext, hlt⟩ := hcovers
  refine ⟨List.mem_insert_of_mem hused, ?_⟩
  by_cases hkey : b.key = a.key
  · refine ⟨a.walletNonce + 1, ?_, ?_⟩
    · rw [hkey]
      exact get?_set_self _ _ _
    · exact UInt64.lt_trans (hbefore.2 hkey) (lt_succ_of_bounded hpending.bounded)
  · refine ⟨next, ?_, hlt⟩
    rw [← hnext]
    exact get?_set_ne _ hkey _

/-! ## Files -/

theorem get?_of_insertNonces {nonces nonces' : Dict (Str × UInt64) UInt64}
    {entries : List PersistedWalletNonce} (h : insertNonces lower nonces entries = .ok nonces') :
    (∀ key next, nonces.get? key = some next → nonces'.get? key = some next) ∧
      ∀ entry ∈ entries,
        nonces'.get? (lower entry.wallet, entry.chainId) = some entry.nextNonce := by
  induction entries generalizing nonces with
  | nil =>
    rw [insertNonces, Except.ok.injEq] at h
    rw [← h]
    exact ⟨fun _ _ hget => hget, fun entry hmem => absurd hmem (by simp)⟩
  | cons first entries ih =>
    rw [insertNonces, bind_eq_ok] at h
    obtain ⟨middle, hfirst, hrest⟩ := h
    rw [insertNonce, raiseIf_bind_eq_ok, pure_eq_ok] at hfirst
    obtain ⟨habsent, hmiddle⟩ := hfirst
    obtain ⟨hkept, hentries⟩ := ih hrest
    constructor
    · intro key next hget
      apply hkept
      have hne : key ≠ (lower first.wallet, first.chainId) := by
        intro hkey
        rw [← hkey, hget] at habsent
        exact habsent rfl
      rw [← hmiddle, get?_set_ne _ hne]
      exact hget
    · intro entry hmem
      rcases List.mem_cons.mp hmem with rfl | hmem
      · apply hkept
        rw [← hmiddle]
        exact get?_set_self _ _ _
      · exact hentries entry hmem

/-- Whatever a restart loads from the file covers the admission. -/
def FileCovers (crates : Crates) (file : Option Bytes) (a : Admission) : Prop :=
  ∀ replay, loadReplayState crates.lower crates.fromSlice file = .ok replay → Covers replay a

variable {crates : Crates}

theorem fileCovers_of_covers (hreads : ReadsBack crates.fromSlice)
    (hstable : crates.lower a.wallet = a.wallet) (hcovers : Covers replay a) :
    FileCovers crates (some replay.persisted.fileBytes) a := by
  intro loaded hload
  rw [loadReplayState, raiseIf_bind_eq_ok, orRaise_bind_eq_ok] at hload
  obtain ⟨_, persisted, hpersisted, hload⟩ := hload
  rw [hreads, Option.some.injEq] at hpersisted
  rw [← hpersisted, raiseIf_bind_eq_ok, bind_eq_ok] at hload
  obtain ⟨_, nonces, hnonces, hloaded⟩ := hload
  obtain ⟨hused, next, hnext, hlt⟩ := hcovers
  rw [pure_eq_ok] at hloaded
  rw [← hloaded]
  refine ⟨List.mem_dedup.mpr ((List.mem_insertionSort _).mpr hused), next, ?_, hlt⟩
  have hentry : (⟨a.wallet, a.chainId, next⟩ : PersistedWalletNonce) ∈
      replay.persisted.walletNonces := by
    refine (List.mem_insertionSort _).mpr (List.mem_map.mpr ⟨(a.key, next), ?_, rfl⟩)
    exact mem_entries_of_get? hnext
  have hget := (get?_of_insertNonces hnonces).2 _ hentry
  rwa [hstable] at hget

/-! ## Accepted calls -/

/-- What the documentation of `str::to_lowercase` says of ASCII text. -/
def LowersAscii (lower : Str → Str) : Prop :=
  ∀ s : Str, (∀ c ∈ s, c.toNat < 128) → lower s = asciiLower s

theorem ascii_of_isLowerHexDigit {c : Char} (h : Gateway.isLowerHexDigit c = true) :
    c.toNat < 128 := by
  simp only [Gateway.isLowerHexDigit, Bool.or_eq_true, Bool.and_eq_true, decide_eq_true_eq] at h
  omega

theorem lower_prefixedHex (hlower : LowersAscii lower) (bytes : Bytes) :
    lower (prefixedHex bytes) = prefixedHex bytes := by
  have hascii : ∀ c ∈ prefixedHex bytes, c.toNat < 128 := by
    intro c hc
    simp only [prefixedHex, List.mem_cons] at hc
    rcases hc with rfl | rfl | hc
    · decide
    · decide
    · exact ascii_of_isLowerHexDigit (Gateway.isLowerHexDigit_of_mem_toHex hc)
  have htail : (toHex bytes).map Char.toLower = toHex bytes := by
    conv_rhs => rw [← List.map_id (toHex bytes)]
    apply List.map_congr_left
    intro c hc
    exact Gateway.toLower_of_isLowerHexDigit (Gateway.isLowerHexDigit_of_mem_toHex hc)
  rw [hlower _ hascii, asciiLower, prefixedHex, List.map_cons, List.map_cons, htail]
  rfl

theorem string_of_field {root child : Json} {segment : String} {path : List String}
    (h : field root [segment] = .ok child) :
    string root (segment :: path) = string child path := by
  simp only [field, orRaise_bind_eq_ok, Except.ok.injEq, exists_eq_right] at h
  unfold string
  rw [field, h]
  rfl

variable {service : SignerService}

theorem wallet_of_verifyScope {root proposal decision transaction : Json} {wallet : Str}
    (hwallet : string proposal ["wallet"] = .ok wallet)
    (h : service.verifyScope crates root proposal decision transaction = .ok ()) :
    crates.lower wallet = service.signerIdentity crates := by
  unfold SignerService.verifyScope at h
  simp only [bind_eq_ok, raiseIf_eq_ok, hwallet, Except.map, Except.ok.injEq, not_not] at h
  obtain ⟨_, _, _, _, _, _, _, _, _, _, _, _, _, rfl, _, _, _, hidentity, _⟩ := h
  exact hidentity

/-- An authorized call is for the wallet of the signer. -/
theorem wallet_of_authorize {json : Bytes} {decisionNow bindingNow : Int}
    (h : service.authorize crates json decisionNow bindingNow = .ok a) :
    a.wallet = service.signerIdentity crates := by
  unfold SignerService.authorize at h
  simp only [mapError_bind_eq_ok, pure_eq_ok] at h
  obtain ⟨root, _, _, _, _, hbinding, _, _, wallet, hwallet, _, _, _, _, _, _, rfl⟩ := h
  unfold SignerService.verifyBinding at hbinding
  simp only [bind_eq_ok] at hbinding
  obtain ⟨proposal, hproposal, _, _, _, _, _, hscope, _⟩ := hbinding
  rw [string_of_field hproposal] at hwallet
  exact wallet_of_verifyScope hwallet hscope

theorem pending_of_accept (hlower : LowersAscii crates.lower) {json : Bytes}
    {decisionNow bindingNow : Int}
    (h : service.accept crates replay json decisionNow bindingNow = .ok a)
    (hbounded : a.walletNonce.toNat < 2 ^ 64 - 1) : Pending crates.lower replay a := by
  unfold SignerService.accept at h
  rw [bind_eq_ok] at h
  obtain ⟨b, hauthorize, h⟩ := h
  simp only [raiseIf_bind_eq_ok, pure_eq_ok, not_not] at h
  obtain ⟨hfresh, hnonce, rfl⟩ := h
  refine ⟨hfresh, hnonce, ?_, hbounded⟩
  rw [wallet_of_authorize hauthorize]
  exact lower_prefixedHex hlower _

/-! ## The invariant -/

/-- Both copies of the file cover the admission. -/
def Recorded (crates : Crates) (m : Machine) (a : Admission) : Prop :=
  FileCovers crates m.visible a ∧ FileCovers crates m.durable a

/-- What a phase knows of the call it is in. -/
def PhaseSafe (crates : Crates) (signed : List Admission) (m : Machine) (p : Process) : Prop :=
  match p.phase with
  | .idle => True
  | .writing a => Pending crates.lower p.replay a
  | .renamed a => Pending crates.lower p.replay a ∧
      m.visible = some (p.replay.updated a).persisted.fileBytes
  | .synced a => Pending crates.lower p.replay a ∧
      m.visible = some (p.replay.updated a).persisted.fileBytes ∧
      m.durable = some (p.replay.updated a).persisted.fileBytes
  | .committed a => (∀ b ∈ signed, Before b a) ∧ crates.lower a.wallet = a.wallet ∧
      Covers p.replay a ∧ Recorded crates m a

structure Safe (crates : Crates) (signed : List Admission) (m : Machine) : Prop where
  ordered : signed.Pairwise Before
  stable : ∀ b ∈ signed, crates.lower b.wallet = b.wallet
  recorded : ∀ b ∈ signed, Recorded crates m b
  process : ∀ p, m.process = some p →
    (∀ b ∈ signed, Covers p.replay b) ∧ PhaseSafe crates signed m p

theorem safe_init (crates : Crates) (visible durable : Option Bytes) :
    Safe crates [] ⟨visible, durable, none⟩ where
  ordered := List.Pairwise.nil
  stable := by simp
  recorded := by simp
  process := by simp

/-- A step that makes no signature and leaves no process behind, or one at rest, needs
nothing of the phase it came from. -/
theorem Safe.settle {signed : List Admission} {m m' : Machine} (hsafe : Safe crates signed m)
    (hvisible : m'.visible = m.visible ∨ m'.visible = m.durable)
    (hdurable : m'.durable = m.visible ∨ m'.durable = m.durable)
    (hprocess : ∀ p, m'.process = some p →
      (∀ b ∈ signed, Covers p.replay b) ∧ PhaseSafe crates signed m' p) :
    Safe crates signed m' := by
  refine ⟨hsafe.ordered, hsafe.stable, fun b hb => ?_, hprocess⟩
  obtain ⟨hv, hd⟩ := hsafe.recorded b hb
  constructor
  · rcases hvisible with h | h <;> rw [h] <;> assumption
  · rcases hdurable with h | h <;> rw [h] <;> assumption

section Step

variable {service : SignerService} {crates : Crates} {signed : List Admission}

variable {visible durable : Option Bytes} {replay : ReplayState}

theorem safe_start (hload : loadReplayState crates.lower crates.fromSlice visible = .ok replay)
    (hsafe : Safe crates signed ⟨visible, durable, none⟩) :
    Safe crates signed ⟨visible, durable, some ⟨replay, .idle⟩⟩ := by
  refine hsafe.settle (Or.inl rfl) (Or.inr rfl) ?_
  rintro p ⟨⟩
  refine ⟨fun b hb => ?_, trivial⟩
  exact (hsafe.recorded b hb).1 replay hload

/-- Back to rest without a signature. -/
theorem safe_idle {phase : Phase}
    (hsafe : Safe crates signed ⟨visible, durable, some ⟨replay, phase⟩⟩) :
    Safe crates signed ⟨visible, durable, some ⟨replay, .idle⟩⟩ := by
  refine hsafe.settle (Or.inl rfl) (Or.inr rfl) ?_
  rintro p ⟨⟩
  exact ⟨(hsafe.process _ rfl).1, trivial⟩

variable {a : Admission}

theorem safe_accept (hpending : Pending crates.lower replay a)
    (hsafe : Safe crates signed ⟨visible, durable, some ⟨replay, .idle⟩⟩) :
    Safe crates signed ⟨visible, durable, some ⟨replay, .writing a⟩⟩ := by
  refine hsafe.settle (Or.inl rfl) (Or.inr rfl) ?_
  rintro p ⟨⟩
  exact ⟨(hsafe.process _ rfl).1, hpending⟩

theorem safe_rename (hreads : ReadsBack crates.fromSlice)
    (hsafe : Safe crates signed ⟨visible, durable, some ⟨replay, .writing a⟩⟩) :
    Safe crates signed ⟨some (replay.updated a).persisted.fileBytes, durable,
      some ⟨replay, .renamed a⟩⟩ := by
  obtain ⟨hcovers, hpending⟩ := hsafe.process _ rfl
  refine ⟨hsafe.ordered, hsafe.stable, fun b hb => ⟨?_, (hsafe.recorded b hb).2⟩, ?_⟩
  · exact fileCovers_of_covers hreads (hsafe.stable b hb)
      (covers_updated hpending (hcovers b hb))
  · rintro p ⟨⟩
    exact ⟨hcovers, hpending, rfl⟩

theorem safe_sync (hsafe : Safe crates signed ⟨visible, durable, some ⟨replay, .renamed a⟩⟩) :
    Safe crates signed ⟨visible, visible, some ⟨replay, .synced a⟩⟩ := by
  obtain ⟨hcovers, hpending, hfile⟩ := hsafe.process _ rfl
  refine hsafe.settle (Or.inl rfl) (Or.inl rfl) ?_
  rintro p ⟨⟩
  exact ⟨hcovers, hpending, hfile, hfile⟩

theorem safe_flush {process : Option Process}
    (hsafe : Safe crates signed ⟨visible, durable, process⟩) :
    Safe crates signed ⟨visible, visible, process⟩ := by
  refine hsafe.settle (Or.inl rfl) (Or.inl rfl) ?_
  intro p hp
  obtain ⟨hcovers, hphase⟩ := hsafe.process p hp
  refine ⟨hcovers, ?_⟩
  unfold PhaseSafe at hphase ⊢
  cases hcase : p.phase with
  | idle => trivial
  | writing a =>
    rw [hcase] at hphase
    exact hphase
  | renamed a =>
    rw [hcase] at hphase
    exact hphase
  | synced a =>
    rw [hcase] at hphase
    obtain ⟨hpending, hfile, _⟩ := hphase
    exact ⟨hpending, hfile, hfile⟩
  | committed a =>
    rw [hcase] at hphase
    obtain ⟨hbefore, hstable, hcover, hfile, _⟩ := hphase
    exact ⟨hbefore, hstable, hcover, hfile, hfile⟩

theorem safe_commit (hreads : ReadsBack crates.fromSlice)
    (hsafe : Safe crates signed ⟨visible, durable, some ⟨replay, .synced a⟩⟩) :
    Safe crates signed ⟨visible, durable, some ⟨replay.updated a, .committed a⟩⟩ := by
  obtain ⟨hcovers, hpending, hvisible, hdurable⟩ := hsafe.process _ rfl
  have hself := covers_updated_self hpending
  have hfile := fileCovers_of_covers hreads hpending.stable hself
  refine hsafe.settle (Or.inl rfl) (Or.inr rfl) ?_
  rintro p ⟨⟩
  refine ⟨fun b hb => covers_updated hpending (hcovers b hb), ?_, hpending.stable, hself, ?_, ?_⟩
  · intro b hb
    exact before_of_covers hpending (hcovers b hb)
  · rw [← hvisible] at hfile
    exact hfile
  · rw [← hdurable] at hfile
    exact hfile

theorem safe_sign (hsafe : Safe crates signed ⟨visible, durable, some ⟨replay, .committed a⟩⟩) :
    Safe crates (signed ++ [a]) ⟨visible, durable, some ⟨replay, .idle⟩⟩ := by
  obtain ⟨hcovers, hbefore, hstable, hcover, hrecorded⟩ := hsafe.process _ rfl
  have hmem : ∀ {P : Admission → Prop}, (∀ b ∈ signed, P b) → P a →
      ∀ b ∈ signed ++ [a], P b := by
    intro P hall hlast b hb
    rcases List.mem_append.mp hb with hb | hb
    · exact hall b hb
    · rw [List.mem_singleton.mp hb]
      exact hlast
  refine ⟨?_, hmem hsafe.stable hstable, hmem hsafe.recorded hrecorded, ?_⟩
  · rw [List.pairwise_append]
    refine ⟨hsafe.ordered, List.pairwise_singleton _ _, fun b hb c hc => ?_⟩
    rw [List.mem_singleton.mp hc]
    exact hbefore b hb
  · rintro p ⟨⟩
    exact ⟨hmem hcovers hcover, trivial⟩

theorem safe_down {m : Machine} (hsafe : Safe crates signed m)
    (hvisible : visible = m.visible ∨ visible = m.durable) (hdurable : durable = m.durable) :
    Safe crates signed ⟨visible, durable, none⟩ := by
  refine hsafe.settle hvisible (Or.inr hdurable) ?_
  rintro p ⟨⟩

theorem safe_step (hreads : ReadsBack crates.fromSlice) (hlower : LowersAscii crates.lower)
    {m m' : Machine} {label : Label} (hsafe : Safe crates signed m)
    (hstep : Step service crates m label m')
    (hbounded : ∀ a, label = .accept a → a.walletNonce.toNat < 2 ^ 64 - 1) :
    Safe crates (signed ++ signatures [label]) m' := by
  cases hstep with
  | sign => exact safe_sign hsafe
  | start hload => simpa [signatures] using safe_start hload hsafe
  | refuse => simpa [signatures] using hsafe
  | accept haccept =>
    have hpending := pending_of_accept hlower haccept (hbounded _ rfl)
    simpa [signatures] using safe_accept hpending hsafe
  | rename => simpa [signatures] using safe_rename hreads hsafe
  | sync => simpa [signatures] using safe_sync hsafe
  | flush => simpa [signatures] using safe_flush hsafe
  | commit => simpa [signatures] using safe_commit hreads hsafe
  | writeFails => simpa [signatures] using safe_idle hsafe
  | syncFails => simpa [signatures] using safe_idle hsafe
  | signFails => simpa [signatures] using safe_idle hsafe
  | crash => simpa [signatures] using safe_down hsafe (Or.inl rfl) rfl
  | powerLoss => simpa [signatures] using safe_down hsafe (Or.inr rfl) rfl

end Step

/-! ## Runs -/

theorem safe_run (hreads : ReadsBack crates.fromSlice) (hlower : LowersAscii crates.lower)
    {visible durable : Option Bytes} {trace : List Label} {m : Machine}
    (hrun : Run (Step service crates) ⟨visible, durable, none⟩ trace m)
    (hbounded : ∀ a, Label.accept a ∈ trace → a.walletNonce.toNat < 2 ^ 64 - 1) :
    Safe crates (signatures trace) m := by
  induction hrun with
  | refl => exact safe_init crates visible durable
  | snoc _ hlast ih =>
    have hsafe := ih fun a ha => hbounded a (List.mem_append_left _ ha)
    have hstep := safe_step hreads hlower hsafe hlast fun a ha =>
      hbounded a (List.mem_append_right _ (by simp [ha]))
    rw [signatures, List.filterMap_append]
    exact hstep

/-- In every run, whatever fails and whenever the process dies, a decision is signed at
most once, a nonce of a wallet on a chain is signed at most once, and the nonces signed
for a wallet on a chain increase. -/
theorem signer_signsAtMostOnce {service : SignerService} {crates : Crates}
    (hreads : ReadsBack crates.fromSlice) (hlower : LowersAscii crates.lower)
    {visible durable : Option Bytes} {trace : List Label} {m : Machine}
    (hrun : Run (Step service crates) ⟨visible, durable, none⟩ trace m)
    (hbounded : ∀ a, Label.accept a ∈ trace → a.walletNonce.toNat < 2 ^ 64 - 1) :
    ((signatures trace).map Admission.decisionNonce).Nodup ∧
      ((signatures trace).map fun a => (a.wallet, a.chainId, a.walletNonce)).Nodup ∧
      ∀ key, (((signatures trace).filter fun a => a.key = key).map
        Admission.walletNonce).Pairwise (· < ·) := by
  have hordered := (safe_run hreads hlower hrun hbounded).ordered
  refine ⟨?_, ?_, fun key => ?_⟩
  · rw [List.Nodup, List.pairwise_map]
    exact hordered.imp fun hbefore => hbefore.1
  · rw [List.Nodup, List.pairwise_map]
    refine hordered.imp fun {b a} hbefore hsame => ?_
    simp only [Prod.mk.injEq] at hsame
    obtain ⟨hwallet, hchain, hnonce⟩ := hsame
    have hlt := hbefore.2 (by rw [Admission.key, Admission.key, hwallet, hchain])
    rw [hnonce] at hlt
    exact absurd hlt (UInt64.lt_irrefl _)
  · rw [List.pairwise_map, List.pairwise_filter]
    refine hordered.imp fun {b a} hbefore hb ha => ?_
    rw [decide_eq_true_eq] at hb ha
    exact hbefore.2 (hb.trans ha.symm)

/-! ## A sample run -/

open Gateway Gateway.SignedEffect Gateway.AttestationSoundness ReplayText

def sampleBindingJson : Json := .obj [
  ("operation".toList, .str "transfer".toList),
  ("wallet".toList, .str enclaveAddress),
  ("chain_id".toList, .int 31337),
  ("wallet_nonce".toList, .int 0),
  ("asset".toList, .str sampleAsset),
  ("amount".toList, .int 100),
  ("recipient".toList, .str (hexLiteral 40 0x3434343434343434343434343434343434343434)),
  ("contract".toList, .null),
  ("selector".toList, .null),
  ("calldata".toList, .str "0x".toList),
  ("value".toList, .int 100),
  ("gas_limit".toList, .int 21000),
  ("max_fee_per_gas".toList, .int 1000000000),
  ("max_priority_fee_per_gas".toList, .int 100000000)]

def withMember (value : Json) (name : String) (member : Json) : Json :=
  match value with
  | .obj fields => .obj (fields ++ [(name.toList, member)])
  | other => other

def unsignedPayload : Nat :=
  0x02e9827a69808405f5e100843b9aca008252089434343434 * 2 ^ 152 +
    0x343434343434343434343434343434346480c0

def signingHash : Nat := 0x74160b5d390881c05de41fe275595d13ed1d06700308098d944b95bdf4189e41

def typedData : Nat :=
  0x1901abababababababababababababababababababababababababababababababab * 2 ^ 256 +
    honestProposalHash

def typedDataHash : Nat := 0xb4179caf44bc8a3bfcb6d252e34a1c69191e1e43778f1f9b91ee938044c82806

/-- A request for the transfer of the honest attestation, as the gateway writes it. -/
def sampleAuthorization : Json := .obj [
  ("schema_version".toList, .str "aegisledger.sign_request.v1".toList),
  ("proposal".toList, withMember (withMember (honestAttestation.proposal.modelDump textHost)
    "mandate_id" .null) "quote_reference" .null),
  ("decision".toList, withMember (honestDecision.unsignedDump textHost) "signature"
    (.str honestDecision.signature)),
  ("reservation_id".toList, .str (uuidText 0x19f7518fe0070008000000000000013)),
  ("wallet_nonce".toList, .int 0),
  ("chain_id".toList, .int 31337),
  ("transaction".toList, sampleBindingJson),
  ("eip712_payload".toList, .str (hexLiteral 132 typedData)),
  ("eip1559_unsigned_payload".toList, .str (hexLiteral 86 unsignedPayload)),
  ("eip712_hash".toList, .str (hexLiteral 64 typedDataHash)),
  ("eip1559_hash".toList, .str (hexLiteral 64 signingHash)),
  ("expires_at".toList, .str "2026-07-18T12:00:30Z".toList)]

def sampleTransaction : TxEip1559 where
  chainId := 31337
  nonce := 0
  gasLimit := 21000
  maxFeePerGas := 1000000000
  maxPriorityFeePerGas := 100000000
  target := some (bytesLiteral 20 0x3434343434343434343434343434343434343434)
  value := 100
  input := []
  accessList := []

def sampleSignature : Bytes × UInt8 :=
  (bytesLiteral 64
    (0x514a6959339bd32394d45ff826c70a97e1a49fe62b5e4616a6e53515788d95ed * 2 ^ 256 +
      0x3b28fd626ce0244f43ef12f9947c024b468d5013d57e247c54ab6e67655c7cea), 1)

/-- The crates on the sample request. -/
def sampleCrates : Crates where
  parseJson := fun bytes =>
    if bytes = canonicalText sampleAuthorization then some sampleAuthorization else none
  fromSlice := readReplay
  jcs := fun value => some (canonicalText value)
  sha256 := digestTable [
    (policyKey, 0x37b95ba08e4454431c46ea309f1cf756aabef72c3b2a187069b5efad0aa3d765),
    (canonicalText (honestAttestation.proposal.modelDump textHost), honestProposalHash)]
  keccak := digestTable [
    (bytesLiteral 64 enclavePoint,
      0x1c9c6b199002237e2c02738d6a5d3f8df5ed873061c232168445a08394722c38),
    (bytesLiteral 43 unsignedPayload, signingHash),
    (bytesLiteral 66 typedData, typedDataHash)]
  ed25519Verify := attestationHost.ed25519Verify
  lower := asciiLower
  parseRfc3339 := fun text =>
    if text = "2026-07-18T12:00:30Z".toList then some 1784376030000000000
    else if text = "2026-07-18T12:05:00Z".toList then some 1784376300000000000
    else none
  decodeTx := fun bytes =>
    if bytes = bytesLiteral 42 unsignedPayload then some (sampleTransaction, []) else none
  encodedForSigning := fun transaction =>
    if transaction = sampleTransaction then bytesLiteral 43 unsignedPayload else []
  parseAddress := fun text =>
    if text = hexLiteral 40 0x3434343434343434343434343434343434343434 then
      some (bytesLiteral 20 0x3434343434343434343434343434343434343434)
    else none
  signPrehash := fun digest =>
    if digest = bytesLiteral 32 signingHash then some sampleSignature else none

def sampleService : SignerService where
  publicKey := bytesLiteral 65 enclavePoint
  policyKey := policyKey
  allowedChains := [31337]
  allowedPolicyHashes := []
  managedWallets := []

def sampleAdmission : Admission where
  decisionNonce := uuidText honestDecision.decisionNonce
  wallet := enclaveAddress
  chainId := 31337
  walletNonce := 0
  digestHex := hexLiteral 64 signingHash

theorem sampleAuthorization_accepted :
    sampleService.accept sampleCrates .default (canonicalText sampleAuthorization)
      1784376000000000000 1784376000000000000 = .ok sampleAdmission := by
  decide +kernel

theorem sampleAdmission_signed : signature sampleCrates sampleAdmission = .ok sampleSignature := by
  decide +kernel

def sampleTrace : List Label :=
  [.start, .accept sampleAdmission, .rename, .sync, .commit,
    .sign sampleAdmission sampleSignature, .crash, .start]

/-- The replay file that the sample call leaves. -/
def sampleFile : Bytes := (ReplayState.default.updated sampleAdmission).persisted.fileBytes

theorem sampleFile_loaded :
    loadReplayState sampleCrates.lower sampleCrates.fromSlice (some sampleFile) =
      .ok (ReplayState.default.updated sampleAdmission) := by
  decide +kernel

theorem sampleTrace_run :
    Run (Step sampleService sampleCrates) ⟨none, none, none⟩ sampleTrace
      ⟨some sampleFile, some sampleFile,
        some ⟨ReplayState.default.updated sampleAdmission, .idle⟩⟩ :=
  .snoc (.snoc (.snoc (.snoc (.snoc (.snoc (.snoc (.snoc .refl
    (.start rfl)) (.accept sampleAuthorization_accepted)) .rename) .sync) .commit)
    (.sign sampleAdmission_signed)) .crash) (.start sampleFile_loaded)

theorem sampleTrace_signsAtMostOnce :
    signatures sampleTrace = [sampleAdmission] ∧
      ((signatures sampleTrace).map Admission.decisionNonce).Nodup ∧
      ((signatures sampleTrace).map fun a => (a.wallet, a.chainId, a.walletNonce)).Nodup ∧
      ∀ key, (((signatures sampleTrace).filter fun a => a.key = key).map
        Admission.walletNonce).Pairwise (· < ·) := by
  refine ⟨rfl, signer_signsAtMostOnce readsBack_readReplay (fun _ _ => rfl) sampleTrace_run ?_⟩
  intro a ha
  have hadmission : a = sampleAdmission := by simpa [sampleTrace] using ha
  rw [hadmission]
  decide

end AegisLedger.Signer.AtMostOnce
