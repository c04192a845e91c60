import AegisLedger.Gateway.Proofs.SignerAgreement

/-!
# Restarting from the replay file

`persist_replay_state` writes a state of any size, `load_replay_state` reads at most
16 MiB.  The size of the file is a sum over the state, and up to the limit the loaded
state is the written one.  Every state the signer writes is in the form that loading
keeps: decisions without repetition, wallets in lower case.
-/

namespace AegisLedger.Signer.ReplayFile

open AegisLedger.Support HexText Checks Dict
open AegisLedger.Gateway (quote joinComma utf8)
open AtMostOnce

/-! ## Size of the file -/

/-- Bytes of texts that are joined by commas. -/
def joinedSize (texts : List Str) : Nat :=
  (texts.map fun text => (utf8 text).length).sum + (texts.length - 1)

def walletNonceOf (entry : (Str × UInt64) × UInt64) : PersistedWalletNonce :=
  ⟨entry.1.1, entry.1.2, entry.2⟩

/-- The keys and brackets of the file, its decisions, and its wallets and chains. -/
def recordSize (state : ReplayState) : Nat :=
  89 + joinedSize (state.usedDecisions.map quote) +
    joinedSize (state.nextWalletNonce.entries.map fun entry =>
      walletNonceText (walletNonceOf entry))

def sizeLimit : Nat := 16 * 1024 * 1024

theorem utf8_append (s t : Str) : utf8 (s ++ t) = utf8 s ++ utf8 t := List.flatMap_append

theorem utf8_cons (c : Char) (s : Str) : utf8 (c :: s) = utf8 [c] ++ utf8 s :=
  utf8_append [c] s

theorem length_utf8_joinComma (texts : List Str) :
    (utf8 (joinComma texts)).length = joinedSize texts := by
  induction texts with
  | nil => rfl
  | cons text texts ih =>
    cases texts with
    | nil => simp [joinComma, joinedSize]
    | cons next texts =>
      have hcomma : (utf8 [',']).length = 1 := rfl
      rw [joinComma, utf8_append, utf8_cons, List.length_append, List.length_append, hcomma,
        ih]
      · simp only [joinedSize, List.map_cons, List.sum_cons, List.length_cons]
        omega
      · simp

theorem joinedSize_perm {texts others : List Str} (h : texts.Perm others) :
    joinedSize texts = joinedSize others := by
  rw [joinedSize, joinedSize, (h.map _).sum_eq, h.length_eq]

theorem length_fileBytes (state : ReplayState) :
    state.persisted.fileBytes.length = recordSize state := by
  have hdecisions : joinedSize (state.persisted.usedDecisions.map quote) =
      joinedSize (state.usedDecisions.map quote) :=
    joinedSize_perm ((List.perm_insertionSort _ _).map _)
  have hnonces : joinedSize (state.persisted.walletNonces.map walletNonceText) =
      joinedSize (state.nextWalletNonce.entries.map fun entry =>
        walletNonceText (walletNonceOf entry)) := by
    have hperm := joinedSize_perm
      ((List.perm_insertionSort (fun a b => walletNonceLe a b)
        (state.nextWalletNonce.entries.map walletNonceOf)).map walletNonceText)
    rw [List.map_map] at hperm
    exact hperm
  have hopen : (utf8 ['{']).length = 1 := rfl
  have hcomma : (utf8 [',']).length = 1 := rfl
  have hclose : (utf8 [']']).length = 1 := rfl
  have hend : (utf8 [']', '}']).length = 2 := rfl
  have hschema : (utf8 (quote replaySchema)).length = 30 := by decide +kernel
  have hfirst : (utf8 "\"schema_version\":".toList).length = 17 := by decide +kernel
  have hsecond : (utf8 "\"used_decisions\":[".toList).length = 18 := by decide +kernel
  have hthird : (utf8 "\"wallet_nonces\":[".toList).length = 17 := by decide +kernel
  have hversion : state.persisted.schemaVersion = replaySchema := rfl
  unfold PersistedReplayState.fileBytes PersistedReplayState.text
  rw [hversion, utf8_cons '{', utf8_append, utf8_append,
    utf8_cons ',' ("\"used_decisions\":[".toList ++ _ ++ _), utf8_append, utf8_append,
    utf8_cons ']' (',' :: _), utf8_cons ',' ("\"wallet_nonces\":[".toList ++ _ ++ _),
    utf8_append, utf8_append]
  simp only [List.length_append, length_utf8_joinComma, hdecisions, hnonces, hopen, hcomma,
    hclose, hend, hschema, hfirst, hsecond, hthird, List.length_singleton]
  unfold recordSize
  omega

/-! ## Loading what was written -/

/-- The same set of decisions and the same next nonces. -/
def Same (state other : ReplayState) : Prop :=
  state.usedDecisions.Perm other.usedDecisions ∧
    ∀ key, state.nextWalletNonce.get? key = other.nextWalletNonce.get? key

/-- A state that loading neither merges nor renames. -/
structure Clean (lower : Str → Str) (state : ReplayState) : Prop where
  nodup : state.usedDecisions.Nodup
  stable : ∀ key ∈ state.nextWalletNonce.keys, lower key.1 = key.1

theorem clean_default (lower : Str → Str) : Clean lower .default where
  nodup := List.nodup_nil
  stable := by
    intro key hkey
    cases hkey

variable {lower : Str → Str}

theorem clean_updated {state : ReplayState} {a : Admission} (hclean : Clean lower state)
    (hstable : lower a.wallet = a.wallet) :
    Clean lower (state.updated a) where
  nodup := hclean.nodup.insert
  stable := by
    intro key hkey
    rcases mem_keys_set.mp hkey with rfl | hkey
    · exact hstable
    · exact hclean.stable key hkey

def loadedKey (lower : Str → Str) (entry : PersistedWalletNonce) : Str × UInt64 :=
  (lower entry.wallet, entry.chainId)

theorem exists_insertNonces {entries : List PersistedWalletNonce}
    {nonces : Dict (Str × UInt64) UInt64} (hnodup : (entries.map (loadedKey lower)).Nodup)
    (hnew : ∀ entry ∈ entries, nonces.get? (loadedKey lower entry) = none) :
    ∃ nonces', insertNonces lower nonces entries = .ok nonces' := by
  induction entries generalizing nonces with
  | nil => exact ⟨nonces, rfl⟩
  | cons first entries ih =>
    rw [List.map_cons, List.nodup_cons] at hnodup
    have hfirst : nonces.get? (loadedKey lower first) = none := hnew first (by simp)
    have hinsert : insertNonce lower nonces first =
        .ok (nonces.set (loadedKey lower first) first.nextNonce) := by
      rw [insertNonce, raiseIf_bind_eq_ok, pure_eq_ok]
      refine ⟨?_, rfl⟩
      change ¬(nonces.get? (loadedKey lower first)).isSome = true
      simp [hfirst]
    rw [insertNonces, hinsert]
    apply ih hnodup.2
    intro entry hentry
    have hne : loadedKey lower entry ≠ loadedKey lower first := by
      intro hsame
      exact hnodup.1 (List.mem_map.mpr ⟨entry, hentry, hsame⟩)
    rw [get?_set_ne _ hne]
    exact hnew entry (List.mem_cons_of_mem first hentry)

theorem get?_insertNonces_of_ne {entries : List PersistedWalletNonce}
    {nonces nonces' : Dict (Str × UInt64) UInt64} {key : Str × UInt64}
    (h : insertNonces lower nonces entries = .ok nonces')
    (hne : ∀ entry ∈ entries, key ≠ loadedKey lower entry) :
    nonces'.get? key = nonces.get? key := by
  induction entries generalizing nonces with
  | nil =>
    rw [insertNonces, Except.ok.injEq] at h
    rw [h]
  | cons first entries ih =>
    rw [insertNonces, bind_eq_ok] at h
    obtain ⟨middle, hfirst, hrest⟩ := h
    rw [insertNonce, raiseIf_bind_eq_ok, pure_eq_ok] at hfirst
    obtain ⟨_, rfl⟩ := hfirst
    rw [ih hrest fun entry hentry => hne entry (List.mem_cons_of_mem first hentry)]
    exact get?_set_ne _ (hne first (by simp)) _

section Load

variable {crates : Crates} {state : ReplayState}

theorem loadedKey_walletNonceOf (hclean : Clean crates.lower state)
    {entry : (Str × UInt64) × UInt64} (hentry : entry ∈ state.nextWalletNonce.entries) :
    loadedKey crates.lower (walletNonceOf entry) = entry.1 := by
  have hkey : entry.1 ∈ state.nextWalletNonce.keys := List.mem_map_of_mem hentry
  rw [loadedKey, walletNonceOf, hclean.stable _ hkey]

theorem mem_walletNonces {entry : PersistedWalletNonce} :
    entry ∈ state.persisted.walletNonces ↔
      ∃ stored ∈ state.nextWalletNonce.entries, walletNonceOf stored = entry := by
  rw [← List.mem_map]
  exact List.mem_insertionSort _

/-- The wallets and chains of the file are loaded as they were. -/
theorem exists_loaded_nonces (hclean : Clean crates.lower state) :
    ∃ nonces, insertNonces crates.lower .empty state.persisted.walletNonces = .ok nonces ∧
      ∀ key, nonces.get? key = state.nextWalletNonce.get? key := by
  have hnodup : (state.persisted.walletNonces.map (loadedKey crates.lower)).Nodup := by
    have hperm := (List.perm_insertionSort (fun a b => walletNonceLe a b)
      (state.nextWalletNonce.entries.map walletNonceOf)).map (loadedKey crates.lower)
    refine hperm.nodup_iff.mpr ?_
    have hkeys : (state.nextWalletNonce.entries.map walletNonceOf).map (loadedKey crates.lower) =
        state.nextWalletNonce.keys := by
      rw [List.map_map]
      exact List.map_congr_left fun entry hentry => loadedKey_walletNonceOf hclean hentry
    rw [hkeys]
    exact state.nextWalletNonce.nodup
  obtain ⟨nonces, hnonces⟩ := exists_insertNonces hnodup fun entry _ =>
    get?_empty (loadedKey crates.lower entry)
  refine ⟨nonces, hnonces, ?_⟩
  intro key
  cases hget : state.nextWalletNonce.get? key with
  | some next =>
    have hstored := mem_entries_of_get? hget
    have hentry := mem_walletNonces.mpr ⟨_, hstored, rfl⟩
    have hloaded := (get?_of_insertNonces hnonces).2 _ hentry
    change nonces.get? (loadedKey crates.lower (walletNonceOf (key, next))) = some next at hloaded
    rw [loadedKey_walletNonceOf hclean hstored] at hloaded
    exact hloaded
  | none =>
    rw [get?_insertNonces_of_ne hnonces]
    · rfl
    · intro entry hentry hkey
      obtain ⟨stored, hstored, rfl⟩ := mem_walletNonces.mp hentry
      rw [loadedKey_walletNonceOf hclean hstored] at hkey
      rw [get?_eq_none_iff] at hget
      exact hget (hkey ▸ List.mem_map_of_mem hstored)

theorem load_persisted (hreads : ReadsBack crates.fromSlice) (hclean : Clean crates.lower state)
    (hsize : recordSize state ≤ sizeLimit) :
    ∃ loaded, loadReplayState crates.lower crates.fromSlice
        (some state.persisted.fileBytes) = .ok loaded ∧ Same loaded state := by
  obtain ⟨nonces, hnonces, hsame⟩ := exists_loaded_nonces hclean
  have hsorted : (state.persisted.usedDecisions).Perm state.usedDecisions :=
    List.perm_insertionSort _ _
  refine ⟨⟨state.persisted.usedDecisions.dedup, nonces⟩, ?_, ?_, hsame⟩
  · have hfits : ¬16 * 1024 * 1024 < state.persisted.fileBytes.length := by
      rw [length_fileBytes]
      exact not_lt.mpr hsize
    simp only [loadReplayState, raiseIf_bind_eq_ok, orRaise_bind_eq_ok]
    refine ⟨hfits, _, hreads _, fun h => h rfl, ?_⟩
    rw [hnonces]
    rfl
  · change (state.persisted.usedDecisions.dedup).Perm state.usedDecisions
    rw [List.dedup_eq_self.mpr (hsorted.nodup_iff.mpr hclean.nodup)]
    exact hsorted

theorem load_persisted_large (hsize : sizeLimit < recordSize state) :
    loadReplayState crates.lower crates.fromSlice (some state.persisted.fileBytes) =
      .error "replay state must be a regular file no larger than 16 MiB" := by
  have hlarge : 16 * 1024 * 1024 < state.persisted.fileBytes.length := by
    rw [length_fileBytes]
    exact hsize
  rw [loadReplayState, raiseIf, if_pos hlarge]
  rfl

/-- A restart finds the state that was written. -/
def Reloads (crates : Crates) (state : ReplayState) : Prop :=
  ∃ loaded, loadReplayState crates.lower crates.fromSlice
    (some state.persisted.fileBytes) = .ok loaded ∧ Same loaded state

theorem reloads_iff (hreads : ReadsBack crates.fromSlice) (hclean : Clean crates.lower state) :
    Reloads crates state ↔ recordSize state ≤ sizeLimit := by
  refine ⟨fun hreloads => ?_, load_persisted hreads hclean⟩
  by_contra hlarge
  obtain ⟨loaded, hload, _⟩ := hreloads
  rw [load_persisted_large (not_le.mp hlarge)] at hload
  cases hload

theorem clean_of_load (hreads : ReadsBack crates.fromSlice) (hclean : Clean crates.lower state)
    {loaded : ReplayState} (hload : loadReplayState crates.lower crates.fromSlice
      (some state.persisted.fileBytes) = .ok loaded) : Clean crates.lower loaded := by
  have hsize : recordSize state ≤ sizeLimit := by
    by_contra hlarge
    rw [load_persisted_large (not_le.mp hlarge)] at hload
    cases hload
  obtain ⟨other, hother, hperm, hsame⟩ := load_persisted hreads hclean hsize
  rw [hload, Except.ok.injEq] at hother
  rw [hother]
  constructor
  · exact hperm.nodup_iff.mpr hclean.nodup
  · intro key hkey
    apply hclean.stable
    by_contra habsent
    rw [← get?_eq_none_iff, ← hsame, get?_eq_none_iff] at habsent
    exact habsent hkey

end Load

/-! ## Runs -/

/-- The file is missing or holds a state that loading keeps. -/
def Written (lower : Str → Str) (file : Option Bytes) : Prop :=
  file = none ∨ ∃ state, Clean lower state ∧ file = some state.persisted.fileBytes

def PhaseStable (lower : Str → Str) : Phase → Prop
  | .writing a => lower a.wallet = a.wallet
  | .renamed a => lower a.wallet = a.wallet
  | .synced a => lower a.wallet = a.wallet
  | _ => True

structure Tidy (lower : Str → Str) (m : Machine) : Prop where
  visible : Written lower m.visible
  durable : Written lower m.durable
  replay : ∀ p, m.process = some p → Clean lower p.replay
  phase : ∀ p, m.process = some p → PhaseStable lower p.phase

section Step

variable {service : SignerService} {crates : Crates} {visible durable : Option Bytes}

theorem tidy_down (hvisible : Written crates.lower visible)
    (hdurable : Written crates.lower durable) :
    Tidy crates.lower ⟨visible, durable, none⟩ :=
  ⟨hvisible, hdurable, nofun, nofun⟩

variable {replay : ReplayState}

theorem tidy_process {phase : Phase} (hvisible : Written crates.lower visible)
    (hdurable : Written crates.lower durable) (hclean : Clean crates.lower replay)
    (hphase : PhaseStable crates.lower phase) :
    Tidy crates.lower ⟨visible, durable, some ⟨replay, phase⟩⟩ := by
  refine ⟨hvisible, hdurable, ?_, ?_⟩
  · rintro p ⟨⟩
    exact hclean
  · rintro p ⟨⟩
    exact hphase

theorem stable_of_accept (hlower : LowersAscii crates.lower) {json : Bytes}
    {decisionNow bindingNow : Int} {a : Admission}
    (h : service.accept crates replay json decisionNow bindingNow = .ok a) :
    crates.lower a.wallet = a.wallet := by
  rw [SignerService.accept, bind_eq_ok] at h
  obtain ⟨b, hauthorize, h⟩ := h
  simp only [raiseIf_bind_eq_ok, pure_eq_ok] at h
  obtain ⟨_, _, rfl⟩ := h
  rw [wallet_of_authorize hauthorize]
  exact lower_prefixedHex hlower _

theorem clean_of_start (hreads : ReadsBack crates.fromSlice)
    (hwritten : Written crates.lower visible)
    (hload : loadReplayState crates.lower crates.fromSlice visible = .ok replay) :
    Clean crates.lower replay := by
  rcases hwritten with rfl | ⟨state, hclean, rfl⟩
  · rw [loadReplayState, Except.ok.injEq] at hload
    rw [← hload]
    exact clean_default _
  · exact clean_of_load hreads hclean hload

theorem tidy_step (hreads : ReadsBack crates.fromSlice) (hlower : LowersAscii crates.lower)
    {m m' : Machine} {label : Label} (htidy : Tidy crates.lower m)
    (hstep : Step service crates m label m') : Tidy crates.lower m' := by
  have hvisible := htidy.visible
  have hdurable := htidy.durable
  cases hstep with
  | start hload =>
    exact tidy_process hvisible hdurable (clean_of_start hreads hvisible hload) trivial
  | refuse => exact htidy
  | accept haccept =>
    exact tidy_process hvisible hdurable (htidy.replay _ rfl) (stable_of_accept hlower haccept)
  | rename =>
    have hstable := htidy.phase _ rfl
    exact tidy_process (Or.inr ⟨_, clean_updated (htidy.replay _ rfl) hstable, rfl⟩) hdurable
      (htidy.replay _ rfl) hstable
  | sync => exact tidy_process hvisible hvisible (htidy.replay _ rfl) (htidy.phase _ rfl)
  | flush => exact ⟨hvisible, hvisible, htidy.replay, htidy.phase⟩
  | commit =>
    exact tidy_process hvisible hdurable
      (clean_updated (htidy.replay _ rfl) (htidy.phase _ rfl)) trivial
  | sign => exact tidy_process hvisible hdurable (htidy.replay _ rfl) trivial
  | writeFails => exact tidy_process hvisible hdurable (htidy.replay _ rfl) trivial
  | syncFails => exact tidy_process hvisible hdurable (htidy.replay _ rfl) trivial
  | signFails => exact tidy_process hvisible hdurable (htidy.replay _ rfl) trivial
  | crash => exact tidy_down hvisible hdurable
  | powerLoss => exact tidy_down hdurable hdurable

end Step

/-- What a restart needs of the file it finds. -/
def Restartable (crates : Crates) (file : Option Bytes) : Prop :=
  file = none ∨ ∃ state, file = some state.persisted.fileBytes ∧
    (Reloads crates state ↔ recordSize state ≤ sizeLimit)

/-- In every run from an empty disk, the state that a call is about to persist reloads as
it is exactly when its size is within the limit, and so does the state of any file that a
restart may find, whatever failed before. -/
theorem replayState_reloads_iff {service : SignerService} {crates : Crates}
    (hreads : ReadsBack crates.fromSlice) (hlower : LowersAscii crates.lower)
    {trace : List Label} {m : Machine}
    (hrun : Run (Step service crates) ⟨none, none, none⟩ trace m) :
    (∀ replay a, m.process = some ⟨replay, .writing a⟩ →
      (Reloads crates (replay.updated a) ↔ recordSize (replay.updated a) ≤ sizeLimit)) ∧
      Restartable crates m.visible ∧ Restartable crates m.durable := by
  have htidy : Tidy crates.lower m :=
    hrun.invariant (I := fun _ m => Tidy crates.lower m)
      (tidy_down (Or.inl rfl) (Or.inl rfl)) fun _ htidy hstep => tidy_step hreads hlower htidy hstep
  have hfile : ∀ file, Written crates.lower file → Restartable crates file := by
    intro file hwritten
    rcases hwritten with rfl | ⟨state, hclean, rfl⟩
    · exact Or.inl rfl
    · exact Or.inr ⟨state, rfl, reloads_iff hreads hclean⟩
  refine ⟨?_, hfile _ htidy.visible, hfile _ htidy.durable⟩
  intro replay a hprocess
  exact reloads_iff hreads (clean_updated (htidy.replay _ hprocess) (htidy.phase _ hprocess))

theorem firstCall_reloads :
    Reloads sampleCrates (ReplayState.default.updated sampleAdmission) := by
  have hrun : Run (Step sampleService sampleCrates) ⟨none, none, none⟩
      [.start, .accept sampleAdmission]
      ⟨none, none, some ⟨.default, .writing sampleAdmission⟩⟩ :=
    .snoc (.snoc .refl (.start rfl)) (.accept sampleAuthorization_accepted)
  have hiff := (replayState_reloads_iff ReplayText.readsBack_readReplay (fun _ _ => rfl) hrun).1
    .default sampleAdmission rfl
  exact hiff.mpr (by decide +kernel)

/-! ## A run past the limit

One transfer after another of the same wallet, each with a decision and a nonce of its own.
The policy service has signed all the decisions. -/

section Growth

open Gateway Gateway.SignedEffect Gateway.AttestationSoundness Gateway.SignerAgreement
open Gateway.GateChecks Gateway.Eip1559 Gateway.Eip1559Codec Gateway.RlpCodec
open Gateway.CanonicalText

/-- The digests of the sample request, and some digest of any other data. -/
def paddedKeccak (data : Bytes) : Bytes :=
  if sampleCrates.keccak data = [] then bytesLiteral 32 (fromBytes data)
  else sampleCrates.keccak data

def recipient : LowerAddress := lowerAddress 0x3434343434343434343434343434343434343434

def bindingAt (nonce : Nat) : TransactionBindingV1 :=
  { transferBinding enclaveAddress recipient with
    walletNonce := nonce
    shape := (transferBinding enclaveAddress recipient).shape }

def payloadAt (nonce : Nat) : Bytes :=
  transactionBytes (unsignedTransaction (bindingAt nonce).toBindingFields recipient)
    (hexBytes recipient) []

def decisionAt (nonce : Nat) : DecisionTokenV1 :=
  { honestDecision with
    decisionNonce := BitVec.ofNat 128 nonce
    reservationMatchesVerdict := honestDecision.reservationMatchesVerdict }

theorem length_bytesLiteral (size n : Nat) : (bytesLiteral size n).length = size := by
  simp [bytesLiteral]

theorem length_paddedKeccak (data : Bytes) : (paddedKeccak data).length = 32 := by
  unfold paddedKeccak
  split_ifs with hempty
  · exact length_bytesLiteral 32 _
  · change digestTable _ data ≠ [] at hempty
    change (digestTable _ data).length = 32
    unfold digestTable at hempty ⊢
    split at hempty
    · exact length_bytesLiteral 32 _
    · exact absurd rfl hempty

theorem matches_payloadAt (nonce : Nat) :
    (matchesHexBytes isLowerHexDigit (prefixedHex (payloadAt nonce)) &&
      (prefixedHex (payloadAt nonce)).length != 2) = true := by
  have hmatches := matchesHex_prefixedHex (payloadAt nonce)
  rw [matchesHexBytes_of_matchesHex (by omega) hmatches, Bool.true_and, bne_iff_ne,
    length_prefixedHex, payloadAt, transactionBytes, List.length_cons]
  omega

theorem matches_paddedKeccak (data : Bytes) :
    matchesHex isLowerHexDigit 64 (prefixedHex (paddedKeccak data)) = true := by
  have hmatches := matchesHex_prefixedHex (paddedKeccak data)
  rw [length_paddedKeccak] at hmatches
  exact hmatches

def requestAt (nonce : Nat) : TransactionSignRequestV1 :=
  { transferSignRequest with
    decision := decisionAt nonce
    walletNonce := nonce
    transaction := bindingAt nonce
    eip1559UnsignedPayload := ⟨prefixedHex (payloadAt nonce), matches_payloadAt nonce⟩
    eip1559Hash := ⟨prefixedHex (paddedKeccak (payloadAt nonce)), matches_paddedKeccak _⟩ }

def policySignature : Bytes := (fromHex honestDecision.signature).getD []

/-- The policy service has signed the first `count` decisions. -/
def policyVerify (count : Nat) (key message signature : Bytes) : Bool :=
  key = policyKey && signature = policySignature &&
    (List.range count).any fun nonce =>
      message = canonicalText ((decisionAt nonce).unsignedDump textHost)

def growingHost (count : Nat) : Host :=
  { signerHost with keccak := paddedKeccak, ed25519Verify := policyVerify count }

/-- The JSON of the first `count` requests. -/
def parseRequest (count : Nat) (bytes : Bytes) : Option Json :=
  ((List.range count).find? fun nonce =>
    (requestAt nonce).authorizationJson (growingHost count) = bytes).map fun nonce =>
      (requestAt nonce).modelDumpJson (growingHost count)

def growingCrates (count : Nat) : Crates :=
  { signerCrates with
    keccak := paddedKeccak
    ed25519Verify := policyVerify count
    parseJson := parseRequest count
    signPrehash := fun _ => some sampleSignature }

theorem sharedLibraries_growing (count : Nat) :
    SharedLibraries (growingHost count) (growingCrates count) where
  sha256 := rfl
  keccak := rfl
  ed25519Verify := rfl
  rfc8785 := sharedLibraries_sample.rfc8785
  jcs := sharedLibraries_sample.jcs
  hostLower := sharedLibraries_sample.hostLower
  lower := sharedLibraries_sample.lower
  parseAddress := sharedLibraries_sample.parseAddress
  encodedForSigning := sharedLibraries_sample.encodedForSigning
  decodeTx := sharedLibraries_sample.decodeTx

/-! ### Each request is accepted -/

theorem length_encodeBytes_le {value : Bytes} (h : value.length < 56) :
    (encodeBytes value).length ≤ value.length + 1 := by
  rw [encodeBytes]
  split_ifs
  · omega
  · rw [length_withHeader_short h]
    omega

variable {nonce : Nat}

theorem length_payloadAt (h : nonce < 2 ^ 24) : (payloadAt nonce).length ≤ 46 := by
  have hnonce : (encodeBytes (toBytes nonce)).length ≤ 4 := by
    have hbytes : (toBytes nonce).length ≤ 3 := by
      rw [length_toBytes, byteLength_le_iff]
      exact h
    have hlength : (encodeBytes (toBytes nonce)).length ≤ (toBytes nonce).length + 1 :=
      length_encodeBytes_le (by omega)
    omega
  have hchain : (encodeBytes (toBytes 31337)).length = 3 := by decide +kernel
  have hpriority : (encodeBytes (toBytes 100000000)).length = 5 := by decide +kernel
  have hfee : (encodeBytes (toBytes 1000000000)).length = 5 := by decide +kernel
  have hgas : (encodeBytes (toBytes 21000)).length = 3 := by decide +kernel
  have htarget : (encodeBytes (hexBytes recipient)).length = 21 := by decide +kernel
  have hvalue : (encodeBytes (toBytes 100)).length = 1 := by decide +kernel
  have hcalldata : (encodeBytes []).length = 1 := rfl
  have haccess : (encodeList []).length = 1 := rfl
  have hpayload : payloadAt nonce = 2 :: encodeList [encodeBytes (toBytes 31337),
      encodeBytes (toBytes nonce), encodeBytes (toBytes 100000000),
      encodeBytes (toBytes 1000000000), encodeBytes (toBytes 21000),
      encodeBytes (hexBytes recipient), encodeBytes (toBytes 100), encodeBytes [],
      encodeList []] := rfl
  rw [hpayload, List.length_cons, encodeList, length_withHeader_short]
  all_goals
    simp only [List.flatten_cons, List.flatten_nil, List.length_append, List.length_nil, hchain,
      hpriority, hfee, hgas, htarget, hvalue, hcalldata, haccess]
    omega

theorem encodable_payloadAt (h : nonce < 2 ^ 24) :
    Encodable (unsignedTransaction (bindingAt nonce).toBindingFields recipient)
      (hexBytes recipient) [] where
  chainId := (by decide : 0 < 31337)
  gasLimit := (by decide : 0 < 21000)
  maxFeePerGas := (by decide : 0 < 1000000000)
  priorityFee := (by decide : 100000000 ≤ 1000000000)
  targetLength := by decide +kernel
  target := (by decide +kernel : recipient.val = prefixedHex (hexBytes recipient))
  calldata := rfl
  size := (length_payloadAt h).trans (by decide)

theorem authorizationJson_injective {host : Host} {request other : TransactionSignRequestV1}
    (h : request.authorizationJson host = other.authorizationJson host) :
    request.modelDumpJson host = other.modelDumpJson host :=
  write_injective (utf8_injective h)

variable {count : Nat}

theorem parseRequest_authorizationJson (h : nonce < count) :
    parseRequest count ((requestAt nonce).authorizationJson (growingHost count)) =
      some ((requestAt nonce).modelDumpJson (growingHost count)) := by
  unfold parseRequest
  cases hfound : (List.range count).find? fun other =>
      (requestAt other).authorizationJson (growingHost count) =
        (requestAt nonce).authorizationJson (growingHost count) with
  | none =>
    have habsent := List.find?_eq_none.mp hfound nonce (List.mem_range.mpr h)
    simp at habsent
  | some other =>
    have hsame := List.find?_some hfound
    rw [Option.map_some, authorizationJson_injective (of_decide_eq_true hsame)]

theorem transmits_requestAt (h : nonce < count) :
    Transmits (growingHost count) (growingCrates count) (requestAt nonce) where
  json := parseRequest_authorizationJson h
  timestamps := by
    intro t ht
    exact transmits_sample.timestamps t ht

theorem withinBounds_requestAt (h : nonce < 2 ^ 24) : WithinBounds (requestAt nonce) :=
  have hnonce : nonce < 2 ^ 64 := h.trans (by decide)
  { withinBounds_sample with
    walletNonce := hnonce
    bindingNonce := hnonce
    payload := by
      have hbytes : hexBytes (requestAt nonce).eip1559UnsignedPayload = payloadAt nonce :=
        hexBytes_prefixedHex _
      rw [hbytes]
      exact (length_payloadAt h).trans (by decide) }

theorem sameReading_start : SameReading sampleNow 1784376000000000000 := by
  constructor <;> decide +kernel

theorem policyVerify_decisionAt (h : nonce < count) :
    policyVerify count policyKey (canonicalText ((decisionAt nonce).unsignedDump textHost))
      policySignature = true := by
  have hsigned : (List.range count).any (fun other =>
      canonicalText ((decisionAt nonce).unsignedDump textHost) =
        canonicalText ((decisionAt other).unsignedDump textHost)) = true :=
    List.any_eq_true.mpr ⟨nonce, List.mem_range.mpr h, decide_eq_true rfl⟩
  rw [policyVerify, hsigned]
  simp

theorem verifyDecision_requestAt (h : nonce < count) (hcount : count ≤ 2 ^ 24) :
    sampleService.verifyDecision (growingCrates count)
      ((requestAt nonce).modelDumpJson (growingHost count)) 1784376000000000000 = .ok () := by
  have hbounds := withinBounds_requestAt (h.trans_le hcount)
  have hsignature : fromHex honestDecision.signature = some policySignature := by decide +kernel
  have hsigner : signerHost.lower honestDecision.policySigner =
      signerHost.lower (addressOf signerHost policyKey) := by
    decide +kernel
  have hdigest : ((growingHost count).sha256 sampleService.policyKey).length = 32 :=
    (by decide +kernel : (signerHost.sha256 policyKey).length = 32)
  have hverify : (growingHost count).ed25519Verify sampleService.policyKey
      (utf8 (dumps ((requestAt nonce).decision.unsignedDump (growingHost count))))
      policySignature = true := by
    have hdump : (decisionAt nonce).unsignedDump (growingHost count) =
        (decisionAt nonce).unsignedDump textHost := by
      unfold DecisionTokenV1.unsignedDump
      rfl
    have hdecision : (requestAt nonce).decision = decisionAt nonce := rfl
    have hpolicy : (growingHost count).ed25519Verify = policyVerify count := rfl
    have hkey : sampleService.policyKey = policyKey := rfl
    rw [hdecision, hdump, hpolicy, hkey]
    exact policyVerify_decisionAt h
  apply (verifyDecision_iff (sharedLibraries_growing count) hbounds (transmits_requestAt h) hdigest
    sameReading_start).mpr
  rw [verifyDecisionToken_iff (sharedLibraries_growing count) hbounds]
  refine ⟨⟨(by decide : sampleNow < sampleExpiry), policySignature, hsignature, hverify⟩,
    hsigner, rfl, ?_⟩
  intro hpolicies
  exact absurd rfl hpolicies

theorem verifyBinding_requestAt (h : nonce < count) (hcount : count ≤ 2 ^ 24) :
    sampleService.verifyBinding (growingCrates count)
      ((requestAt nonce).modelDumpJson (growingHost count)) 1784376000000000000 = .ok () := by
  have hsmall := h.trans_le hcount
  have hidentity : enclaveAddress.val =
      prefixedHex ((paddedKeccak (sampleService.publicKey.drop 1)).drop 12) := by
    decide +kernel
  have hwallet : ManagedWallet (growingCrates count) sampleService (requestAt nonce) :=
    ⟨hidentity, Or.inl rfl⟩
  have hhash : honestAttestation.proposal.proposalHash signerHost =
      .ok honestDecision.proposalHash.val := by
    decide +kernel
  have htypedData : transferSignRequest.eip712Payload.val = prefixedHex (GateChecks.typedData
      (List.replicate 32 0xab) (hexBytes honestDecision.proposalHash)) := by
    decide +kernel
  have htypedHash : keccakHex { signerHost with keccak := paddedKeccak }
      transferSignRequest.eip712Payload = transferSignRequest.eip712Hash.val := by
    decide +kernel
  have hdigest : keccakHex (growingHost count) (prefixedHex (payloadAt nonce)) =
      prefixedHex (paddedKeccak (payloadAt nonce)) := by
    rw [keccakHex, hexBytes_prefixedHex]
    rfl
  apply (verifyBinding_iff (sharedLibraries_growing count) (withinBounds_requestAt hsmall)
    (transmits_requestAt h) hwallet sameReading_start).mpr
  refine ⟨⟨hhash, rfl, ?_, rfl, rfl, rfl, rfl, rfl, rfl⟩, ⟨rfl, rfl, rfl, ?_⟩,
    ⟨(by decide : sampleNow < sampleExpiry), le_refl sampleExpiry,
      (by decide : sampleExpiry ≤ sampleDeadline)⟩, ⟨recipient, rfl, ?_⟩,
    ⟨_, List.length_replicate, htypedData⟩, htypedHash, rfl, hdigest⟩
  · exact (by decide +kernel : UInt64.ofNat 31337 ∈ sampleService.allowedChains)
  · exact (rfl : (bindingAt nonce).recipient = some recipient)
  · exact encodeUnsigned_of_encodable (encodable_payloadAt hsmall)

theorem requestAt_accepted (h : nonce < count) (hcount : count ≤ 2 ^ 24) {replay : ReplayState}
    (hfresh : uuidText (BitVec.ofNat 128 nonce) ∉ replay.usedDecisions)
    (hnonce : UInt64.ofNat nonce = replay.expectedNonce (enclaveAddress.val, 31337)) :
    sampleService.accept (growingCrates count) replay
      ((requestAt nonce).authorizationJson (growingHost count)) 1784376000000000000
      1784376000000000000 = .ok (admission (requestAt nonce)) :=
  (accept_eq_ok_iff (sharedLibraries_growing count)
    (withinBounds_requestAt (h.trans_le hcount)) (transmits_requestAt h)).mpr
    ⟨verifyDecision_requestAt h hcount, verifyBinding_requestAt h hcount, hfresh, hnonce, rfl⟩

/-! ### The run -/

/-- The replay state after the first `n` requests. -/
def replayAt : Nat → ReplayState
  | 0 => .default
  | n + 1 => (replayAt n).updated (admission (requestAt n))

def fileAt : Nat → Option Bytes
  | 0 => none
  | n + 1 => some (replayAt (n + 1)).persisted.fileBytes

variable {n : Nat}

theorem mem_usedDecisions_replayAt {text : Str} (h : text ∈ (replayAt n).usedDecisions) :
    ∃ nonce < n, text = uuidText (BitVec.ofNat 128 nonce) := by
  induction n with
  | zero => cases h
  | succ n ih =>
    rcases List.mem_insert_iff.mp h with rfl | h
    · exact ⟨n, by omega, rfl⟩
    · obtain ⟨nonce, hnonce, htext⟩ := ih h
      exact ⟨nonce, by omega, htext⟩

theorem decision_fresh (h : n < 2 ^ 24) :
    uuidText (BitVec.ofNat 128 n) ∉ (replayAt n).usedDecisions := by
  intro hmem
  obtain ⟨nonce, hnonce, htext⟩ := mem_usedDecisions_replayAt hmem
  have hsame := congrArg BitVec.toNat (uuidText_injective htext)
  rw [BitVec.toNat_ofNat, BitVec.toNat_ofNat] at hsame
  omega

theorem length_usedDecisions_replayAt (h : n ≤ 2 ^ 24) : (replayAt n).usedDecisions.length = n := by
  induction n with
  | zero => rfl
  | succ n ih =>
    have hfresh := decision_fresh (n := n) (by omega)
    change ((replayAt n).usedDecisions.insert (uuidText (BitVec.ofNat 128 n))).length = n + 1
    rw [List.length_insert_of_not_mem hfresh, ih (by omega)]

theorem expectedNonce_replayAt (n : Nat) :
    (replayAt n).expectedNonce (enclaveAddress.val, 31337) = UInt64.ofNat n := by
  cases n with
  | zero => rfl
  | succ n =>
    change (((replayAt n).nextWalletNonce.set (enclaveAddress.val, 31337)
      (UInt64.ofNat n + 1)).get? (enclaveAddress.val, 31337)).getD 0 = UInt64.ofNat (n + 1)
    rw [get?_set_self, Option.getD_some, UInt64.ofNat_add]
    rfl

theorem signature_requestAt (count nonce : Nat) :
    signature (growingCrates count) (admission (requestAt nonce)) = .ok sampleSignature := by
  have hdigest : decodeHex (admission (requestAt nonce)).digestHex =
      .ok (paddedKeccak (payloadAt nonce)) := decodeHex_prefixedHex _
  rw [signature, hdigest]
  rfl

/-- The signer signs request after request. -/
theorem exists_run_replayAt (hn : n ≤ count) (hcount : count ≤ 2 ^ 24) :
    ∃ trace, Run (Step sampleService (growingCrates count)) ⟨none, none, none⟩ trace
        ⟨fileAt n, fileAt n, some ⟨replayAt n, .idle⟩⟩ ∧ (signatures trace).length = n := by
  induction n with
  | zero => exact ⟨[.start], .snoc .refl (.start rfl), rfl⟩
  | succ n ih =>
    obtain ⟨trace, hrun, hlength⟩ := ih (by omega)
    have hnext : n < count := by omega
    have haccept := requestAt_accepted hnext hcount (decision_fresh (by omega))
      (expectedNonce_replayAt n).symm
    refine ⟨_, hrun.snoc (.accept haccept) |>.snoc .rename |>.snoc .sync |>.snoc .commit
      |>.snoc (.sign (signature_requestAt count n)), ?_⟩
    simpa [signatures] using hlength

theorem length_le_utf8 (s : Str) : s.length ≤ (utf8 s).length := by
  induction s with
  | nil => simp
  | cons c s ih =>
    have hchar : 0 < (utf8 [c]).length := by
      rw [utf8, List.flatMap_singleton, String.length_utf8EncodeChar]
      exact Char.utf8Size_pos c
    rw [utf8_cons, List.length_append, List.length_cons]
    omega

theorem length_uuidText (u : Uuid) : (uuidText u).length = 36 := by
  simp [uuidText, length_lowHexDigits]

theorem le_length_quote_uuidText (u : Uuid) : 38 ≤ (utf8 (quote (uuidText u))).length := by
  have hbytes := length_le_utf8 (quote (uuidText u))
  have hescaped := ReplayText.length_le_flatMap_escapeChar (uuidText u)
  rw [quote, List.length_append, List.length_cons, List.length_singleton] at hbytes
  rw [length_uuidText] at hescaped
  change 38 ≤ (utf8 ('"' :: (uuidText u).flatMap escapeChar ++ ['"'])).length
  omega

/-- Every decision adds the text of a UUID to the file. -/
theorem le_recordSize_replayAt (h : n ≤ 2 ^ 24) : 38 * n ≤ recordSize (replayAt n) := by
  have hsum := List.card_nsmul_le_sum
    (((replayAt n).usedDecisions.map quote).map fun text => (utf8 text).length) 38 (by
      intro size hsize
      simp only [List.map_map, List.mem_map] at hsize
      obtain ⟨text, htext, rfl⟩ := hsize
      obtain ⟨nonce, _, rfl⟩ := mem_usedDecisions_replayAt htext
      exact le_length_quote_uuidText _)
  rw [List.length_map, List.length_map, length_usedDecisions_replayAt h, smul_eq_mul] at hsum
  rw [recordSize, joinedSize]
  omega

/-- After 442000 signed requests the file that the signer wrote is larger than the one it
reads, and it does not start again. -/
theorem longRun_refused :
    ∃ trace replay, Run (Step sampleService (growingCrates 442000)) ⟨none, none, none⟩ trace
        ⟨some replay.persisted.fileBytes, some replay.persisted.fileBytes,
          some ⟨replay, .idle⟩⟩ ∧
      (signatures trace).length = 442000 ∧
      loadReplayState (growingCrates 442000).lower (growingCrates 442000).fromSlice
        (some replay.persisted.fileBytes) =
        .error "replay state must be a regular file no larger than 16 MiB" := by
  obtain ⟨trace, hrun, hlength⟩ := exists_run_replayAt (le_refl 442000) (by decide)
  have hsize := le_recordSize_replayAt (n := 442000) (by decide)
  refine ⟨trace, replayAt 442000, hrun, hlength, load_persisted_large ?_⟩
  exact lt_of_lt_of_le (by decide) hsize

end Growth

end AegisLedger.Signer.ReplayFile
