import AegisLedger.Gateway.Proofs.CanonicalText
import AegisLedger.Gateway.Proofs.SignedEffect
import AegisLedger.Gateway.ServiceAccounts
import AegisLedger.Support.Raises

/-!
# Service credentials authenticate their holders

The store is a mirror of the history: one record for each credential that was issued, in the
order of issue, with the digest of its token, and with a revocation exactly when a call of
`revoke` has named it.  A token leads to its own record however the reader of key identifiers
treats other spellings, and no other token has its digest.
-/

namespace AegisLedger.Gateway.ServiceCredentials

open AegisLedger.Support HexText Checks Dict
open MemoryServiceAccountStore ServiceAccountManager

variable {host : Host} {parseUuid : Str → Option Uuid} {trace : List Event}
  {store after : MemoryServiceAccountStore}

/-! ## Histories -/

/-- The credential that an identifier names: the first one issued under it. -/
def named (trace : List Event) (credentialId : Uuid) : Option IssuedServiceAccount :=
  (issued trace).find? fun account => account.credentialId = credentialId

/-- A call of `revoke` that named the credential has returned. -/
def Revoked (trace : List Event) (account : IssuedServiceAccount) : Prop :=
  ∃ earlier event later credentialId, trace = earlier ++ event :: later ∧
    event.revoked? = some credentialId ∧ named earlier credentialId = some account

theorem issued_append (trace later : List Event) :
    issued (trace ++ later) = issued trace ++ issued later :=
  List.filterMap_append

variable {event : Event}

theorem issued_snoc_of_none (h : event.issued? = none) :
    issued (trace ++ [event]) = issued trace := by
  rw [issued_append]
  simp [issued, h]

variable {account : IssuedServiceAccount}

theorem issued_snoc_of_some (h : event.issued? = some account) :
    issued (trace ++ [event]) = issued trace ++ [account] := by
  rw [issued_append]
  simp [issued, h]

variable {credentialId : Uuid}

theorem mem_issued_of_named (h : named trace credentialId = some account) :
    account ∈ issued trace :=
  List.mem_of_find?_eq_some h

theorem credentialId_of_named (h : named trace credentialId = some account) :
    account.credentialId = credentialId := by
  have hfound := List.find?_some h
  exact of_decide_eq_true hfound

theorem revoked_snoc :
    Revoked (trace ++ [event]) account ↔ Revoked trace account ∨
      ∃ credentialId, event.revoked? = some credentialId ∧
        named trace credentialId = some account := by
  constructor
  · rintro ⟨earlier, revocation, later, credentialId, htrace, hrevoked, hnamed⟩
    rcases List.eq_nil_or_concat later with rfl | ⟨rest, last, rfl⟩
    · obtain ⟨rfl, hlast⟩ := List.append_inj' htrace rfl
      obtain rfl := List.singleton_inj.mp hlast
      exact Or.inr ⟨credentialId, hrevoked, hnamed⟩
    · rw [List.concat_eq_append, ← List.cons_append, ← List.append_assoc] at htrace
      exact Or.inl ⟨earlier, revocation, rest, credentialId, (List.append_inj' htrace rfl).1,
        hrevoked, hnamed⟩
  · rintro (⟨earlier, revocation, later, credentialId, rfl, h⟩ | ⟨credentialId, h⟩)
    · exact ⟨earlier, revocation, later ++ [event], credentialId, by simp, h⟩
    · exact ⟨trace, event, [], credentialId, rfl, h⟩

theorem revoked_snoc_of_none (h : event.revoked? = none) :
    Revoked (trace ++ [event]) account ↔ Revoked trace account := by
  rw [revoked_snoc, h]
  simp

theorem mem_issued_of_revoked (h : Revoked trace account) : account ∈ issued trace := by
  obtain ⟨earlier, event, later, credentialId, rfl, -, hnamed⟩ := h
  rw [issued_append]
  exact List.mem_append_left _ (mem_issued_of_named hnamed)

/-! ## What the calls do -/

/-- The record of a credential that has just been issued. -/
def recordOf (host : Host) (account : IssuedServiceAccount) (now : Datetime) :
    ServiceAccountRecord where
  credentialId := account.credentialId
  keyId := account.keyId
  name := account.name
  subject := account.subject
  organizationId := account.organizationId
  environmentId := account.environmentId
  permissions := account.permissions
  tokenDigest := tokenDigest host account.token
  createdAt := now
  expiresAt := account.expiresAt
  revokedAt := none
  lastUsedAt := none

/-- A credential and the call of `issue` that returned it. -/
structure IssuedBy (manager : ServiceAccountManager) (request : IssueRequest) (draws : IssueDraws)
    (account : IssuedServiceAccount) : Prop where
  keyId : account.keyId = draws.keyId
  token : account.token = tokenText draws.keyId draws.secret
  subject : account.subject = request.subject
  subjectValid : matchesIdentifier 256 request.subject = true
  permissions : account.permissions = request.permissions
  organizationId : account.organizationId = manager.organizationId.val
  environmentId : account.environmentId = manager.environmentId.val

theorem issue_eq_ok {manager : ServiceAccountManager} {request : IssueRequest}
    {draws : IssueDraws} (h : manager.issue host store request draws = .ok (account, after)) :
    IssuedBy manager request draws account ∧ account.keyId ∉ store.records.keys ∧
      after = ⟨store.records.set account.keyId (recordOf host account draws.now)⟩ := by
  unfold issue validatedIdentifier create at h
  simp only [bind_eq_ok, constrain_eq_ok, raiseIf_eq_ok, pure_eq_ok, Prod.mk.injEq] at h
  obtain ⟨name, -, subject, hsubject, -, -, expiresAt, -, created, ⟨_, hnew, hcreated⟩, rfl,
    rfl⟩ := h
  rw [← hcreated]
  refine ⟨⟨rfl, rfl, hsubject, ?_, rfl, rfl, rfl⟩, hnew, rfl⟩
  rw [← hsubject]
  exact subject.property

variable {record : ServiceAccountRecord}

theorem findCredential_eq_ok {keyId : Uuid}
    (h : store.findCredential credentialId = .ok (keyId, record)) :
    store.records.entries.find? (fun entry => entry.2.credentialId = credentialId) =
      some (keyId, record) ∧
      store.records.get? keyId = some record ∧ record.credentialId = credentialId := by
  rw [findCredential, orRaise_eq_ok] at h
  have hcredential := List.find?_some h
  exact ⟨h, get?_of_mem_entries (List.mem_of_find?_eq_some h), of_decide_eq_true hcredential⟩

theorem revoke_eq_ok {now : Datetime} (h : store.revoke credentialId now = .ok after) :
    ∃ keyId record, store.findCredential credentialId = .ok (keyId, record) ∧
      after = ⟨store.records.set keyId { record with revokedAt := some now }⟩ := by
  rw [MemoryServiceAccountStore.revoke, bind_eq_ok] at h
  obtain ⟨⟨keyId, record⟩, hfind, h⟩ := h
  exact ⟨keyId, record, hfind, (pure_eq_ok.mp h).symm⟩

theorem markUsed_eq_ok {now : Datetime} (h : store.markUsed credentialId now = .ok after) :
    ∃ keyId record, store.findCredential credentialId = .ok (keyId, record) ∧
      after = ⟨store.records.set keyId { record with lastUsedAt := some now }⟩ := by
  rw [markUsed, bind_eq_ok] at h
  obtain ⟨⟨keyId, record⟩, hfind, h⟩ := h
  exact ⟨keyId, record, hfind, (pure_eq_ok.mp h).symm⟩

/-- `authenticate` writes nothing but the time of use of some record. -/
theorem authenticate_cases (manager : ServiceAccountManager) (token : Str) (now : Datetime) :
    (manager.authenticate host parseUuid store token now).2 = store ∨
      ∃ credentialId, store.markUsed credentialId now =
        .ok (manager.authenticate host parseUuid store token now).2 := by
  unfold authenticate
  split
  · exact Or.inl rfl
  · exact Or.inl rfl
  · rename_i record _
    split
    · exact Or.inl rfl
    · rename_i used hused
      exact Or.inr ⟨record.credentialId, hused⟩

/-- A call issues a credential, or revokes one, or at most notes the use of one. -/
theorem step_cases (hstep : Step host parseUuid store event after) :
    (∃ manager request draws account,
      event = ⟨.issue manager request draws, .ok (.issued account)⟩ ∧
        manager.issue host store request draws = .ok (account, after)) ∨
    (∃ credentialId now, event = ⟨.revoke credentialId now, .ok .revoked⟩ ∧
      store.revoke credentialId now = .ok after) ∨
    (event.issued? = none ∧ event.revoked? = none ∧
      (after = store ∨ ∃ credentialId now, store.markUsed credentialId now = .ok after)) := by
  obtain ⟨call, result⟩ := event
  unfold Step perform at hstep
  cases call with
  | issue manager request draws =>
    dsimp only at hstep
    split at hstep
    · rename_i account created hissue
      obtain ⟨rfl, rfl⟩ := Prod.mk.inj hstep
      exact Or.inl ⟨manager, request, draws, account, rfl, hissue⟩
    · obtain ⟨rfl, rfl⟩ := Prod.mk.inj hstep
      exact Or.inr (Or.inr ⟨rfl, rfl, Or.inl rfl⟩)
  | revoke credentialId now =>
    dsimp only at hstep
    split at hstep
    · rename_i revoked hrevoke
      obtain ⟨rfl, rfl⟩ := Prod.mk.inj hstep
      exact Or.inr (Or.inl ⟨credentialId, now, rfl, hrevoke⟩)
    · obtain ⟨rfl, rfl⟩ := Prod.mk.inj hstep
      exact Or.inr (Or.inr ⟨rfl, rfl, Or.inl rfl⟩)
  | authenticate manager token now =>
    obtain ⟨rfl, rfl⟩ := Prod.mk.inj hstep
    refine Or.inr (Or.inr ⟨?_, rfl, ?_⟩)
    · unfold Event.issued?
      cases (manager.authenticate host parseUuid store token now).1 with
      | error error => rfl
      | ok principal => rfl
    · rcases authenticate_cases manager token now with hsame | ⟨credentialId, hused⟩
      · exact Or.inl hsame
      · exact Or.inr ⟨credentialId, now, hused⟩

/-! ## The store mirrors the history -/

/-- The record is that of the credential, but for revocation and use. -/
def Matches (host : Host) (account : IssuedServiceAccount) (record : ServiceAccountRecord) : Prop :=
  record = { recordOf host account record.createdAt with
    revokedAt := record.revokedAt, lastUsedAt := record.lastUsedAt }

theorem Matches.update (h : Matches host account record) (revokedAt lastUsedAt : Option Datetime) :
    Matches host account { record with revokedAt := revokedAt, lastUsedAt := lastUsedAt } := by
  unfold Matches at h
  rw [h]
  rfl

structure Mirrors (host : Host) (trace : List Event) (store : MemoryServiceAccountStore) :
    Prop where
  inOrder : store.records.entries.map (fun entry => (entry.1, entry.2.credentialId)) =
    (issued trace).map fun account => (account.keyId, account.credentialId)
  recorded : ∀ account ∈ issued trace, ∃ record,
    store.records.get? account.keyId = some record ∧ Matches host account record ∧
      (record.revokedAt = none ↔ ¬ Revoked trace account)

section Mirrors

variable (hmirrors : Mirrors host trace store)
include hmirrors

theorem Mirrors.keys : store.records.keys = (issued trace).map IssuedServiceAccount.keyId := by
  have hfirst := congrArg (List.map Prod.fst) hmirrors.inOrder
  simpa [Dict.keys, Function.comp_def] using hfirst

theorem Mirrors.nodup : ((issued trace).map IssuedServiceAccount.keyId).Nodup := by
  rw [← hmirrors.keys]
  exact store.records.nodup

theorem Mirrors.eq_of_keyId {account other : IssuedServiceAccount} (h : account ∈ issued trace)
    (hother : other ∈ issued trace) (hkey : account.keyId = other.keyId) : account = other :=
  List.inj_on_of_nodup_map hmirrors.nodup h hother hkey

variable {credentialId : Uuid}

/-- The record that `_find_credential` finds is that of the credential named. -/
theorem Mirrors.named_of_find {keyId : Uuid} {record : ServiceAccountRecord}
    (h : store.findCredential credentialId = .ok (keyId, record)) :
    ∃ account, named trace credentialId = some account ∧ account.keyId = keyId := by
  have hfind := (findCredential_eq_ok h).1
  have hpairs := congrArg (List.find? fun pair => decide (pair.2 = credentialId)) hmirrors.inOrder
  rw [List.find?_map, List.find?_map] at hpairs
  have hleft : store.records.entries.find? ((fun pair : Uuid × Uuid =>
      decide (pair.2 = credentialId)) ∘ fun entry => (entry.1, entry.2.credentialId)) =
        some (keyId, record) := hfind
  rw [hleft, Option.map_some, eq_comm, Option.map_eq_some_iff] at hpairs
  obtain ⟨account, hnamed, hpair⟩ := hpairs
  exact ⟨account, hnamed, (Prod.mk.inj hpair).1⟩

variable {event : Event}

/-- A write to the record of one credential. -/
theorem Mirrors.write {keyId : Uuid} {record updated : ServiceAccountRecord}
    (hissued : event.issued? = none) (hget : store.records.get? keyId = some record)
    (hcredential : updated.credentialId = record.credentialId)
    (hmatches : ∀ account, Matches host account record → Matches host account updated)
    (hrevoked : ∀ account ∈ issued trace, account.keyId = keyId →
      (updated.revokedAt = none ↔ ¬ Revoked (trace ++ [event]) account))
    (hothers : ∀ account ∈ issued trace, account.keyId ≠ keyId →
      (Revoked (trace ++ [event]) account ↔ Revoked trace account)) :
    Mirrors host (trace ++ [event]) ⟨store.records.set keyId updated⟩ := by
  constructor
  · rw [issued_snoc_of_none hissued, ← hmirrors.inOrder]
    exact map_entries_set _ hget (by rw [hcredential])
  · rw [issued_snoc_of_none hissued]
    intro account haccount
    obtain ⟨found, hfound, hmatch, hlive⟩ := hmirrors.recorded account haccount
    by_cases hkey : account.keyId = keyId
    · obtain rfl : found = record := by
        rw [hkey, hget] at hfound
        exact (Option.some.inj hfound).symm
      refine ⟨updated, ?_, hmatches account hmatch, hrevoked account haccount hkey⟩
      rw [hkey]
      exact get?_set_self _ _ _
    · refine ⟨found, ?_, hmatch, ?_⟩
      · exact (get?_set_ne store.records hkey updated).trans hfound
      · rw [hlive, hothers account haccount hkey]

theorem Mirrors.unchanged (hissued : event.issued? = none) (hrevoked : event.revoked? = none) :
    Mirrors host (trace ++ [event]) store := by
  constructor
  · rw [issued_snoc_of_none hissued]
    exact hmirrors.inOrder
  · rw [issued_snoc_of_none hissued]
    intro account haccount
    rw [revoked_snoc_of_none hrevoked]
    exact hmirrors.recorded account haccount

theorem Mirrors.issue {manager : ServiceAccountManager} {request : IssueRequest}
    {draws : IssueDraws} {account : IssuedServiceAccount}
    (h : manager.issue host store request draws = .ok (account, after)) :
    Mirrors host (trace ++ [⟨.issue manager request draws, .ok (.issued account)⟩]) after := by
  obtain ⟨-, hnew, rfl⟩ := issue_eq_ok h
  have hfresh : ∀ other ∈ issued trace, other.keyId ≠ account.keyId := by
    intro other hother hkey
    rw [hmirrors.keys, ← hkey] at hnew
    exact hnew (List.mem_map_of_mem hother)
  constructor
  · rw [issued_snoc_of_some rfl, List.map_append, ← hmirrors.inOrder,
      entries_set_of_notMem hnew, List.map_append]
    rfl
  · rw [issued_snoc_of_some rfl]
    intro other hother
    rw [revoked_snoc_of_none rfl]
    rcases List.mem_append.mp hother with hold | hself
    · obtain ⟨record, hget, hmatch, hlive⟩ := hmirrors.recorded other hold
      exact ⟨record, (get?_set_ne store.records (hfresh other hold) _).trans hget, hmatch, hlive⟩
    · obtain rfl := List.mem_singleton.mp hself
      refine ⟨recordOf host other draws.now, get?_set_self _ _ _, rfl, fun _ hrevoked => ?_,
        fun _ => rfl⟩
      exact hfresh other (mem_issued_of_revoked hrevoked) rfl

theorem Mirrors.revoke {now : Datetime} (h : store.revoke credentialId now = .ok after) :
    Mirrors host (trace ++ [⟨.revoke credentialId now, .ok .revoked⟩]) after := by
  obtain ⟨keyId, record, hfind, rfl⟩ := revoke_eq_ok h
  obtain ⟨account, hnamed, hkey⟩ := hmirrors.named_of_find hfind
  have hmem := mem_issued_of_named hnamed
  refine hmirrors.write rfl (findCredential_eq_ok hfind).2.1 ?_ ?_ ?_ ?_
  · rfl
  · exact fun _ hmatch => hmatch.update _ _
  · intro other hother hsame
    obtain rfl := hmirrors.eq_of_keyId hother hmem (hsame.trans hkey.symm)
    exact ⟨nofun, fun hlive => absurd (revoked_snoc.mpr (Or.inr ⟨credentialId, rfl, hnamed⟩)) hlive⟩
  · intro other hother hdiffers
    rw [revoked_snoc]
    constructor
    · rintro (hold | ⟨_, hid, hnamed'⟩)
      · exact hold
      · obtain rfl : credentialId = _ := Option.some.inj hid
        rw [hnamed] at hnamed'
        rw [← Option.some.inj hnamed'] at hdiffers
        exact absurd hkey hdiffers
    · exact Or.inl

theorem Mirrors.markUsed (hissued : event.issued? = none) (hrevoked : event.revoked? = none)
    {now : Datetime} (h : store.markUsed credentialId now = .ok after) :
    Mirrors host (trace ++ [event]) after := by
  obtain ⟨keyId, record, hfind, rfl⟩ := markUsed_eq_ok h
  have hget := (findCredential_eq_ok hfind).2.1
  refine hmirrors.write hissued hget ?_ ?_ ?_ ?_
  · rfl
  · exact fun _ hmatch => hmatch.update _ _
  · intro account haccount hkey
    rw [revoked_snoc_of_none hrevoked]
    obtain ⟨found, hfound, -, hlive⟩ := hmirrors.recorded account haccount
    rw [hkey, hget] at hfound
    rw [← hlive, ← Option.some.inj hfound]
  · exact fun _ _ _ => revoked_snoc_of_none hrevoked

theorem Mirrors.step (hstep : Step host parseUuid store event after) :
    Mirrors host (trace ++ [event]) after := by
  rcases step_cases hstep with ⟨manager, request, draws, account, rfl, hissue⟩ |
    ⟨credentialId, now, rfl, hrevoke⟩ | ⟨hissued, hrevoked, rfl | ⟨credentialId, now, hused⟩⟩
  · exact hmirrors.issue hissue
  · exact hmirrors.revoke hrevoke
  · exact hmirrors.unchanged hissued hrevoked
  · exact hmirrors.markUsed hissued hrevoked hused

end Mirrors

theorem mirrors_of_run (hrun : Run (Step host parseUuid) .empty trace store) :
    Mirrors host trace store := by
  apply hrun.invariant (I := fun trace store => Mirrors host trace store)
  · exact ⟨rfl, nofun⟩
  · rintro _ _ _ _ _ hmirrors hstep
    exact hmirrors.step hstep

/-- Every credential comes from a call of `issue`. -/
theorem issuedBy_of_mem (hrun : Run (Step host parseUuid) .empty trace store)
    (hmem : event ∈ trace) (h : event.issued? = some account) :
    ∃ manager request draws, event = ⟨.issue manager request draws, .ok (.issued account)⟩ ∧
      IssuedBy manager request draws account := by
  obtain ⟨before, next, hstep⟩ := hrun.exists_step hmem
  rcases step_cases hstep with ⟨manager, request, draws, issued, rfl, hissue⟩ |
    ⟨credentialId, now, rfl, -⟩ | ⟨hissued, -⟩
  · obtain rfl : issued = account := Option.some.inj h
    exact ⟨manager, request, draws, rfl, (issue_eq_ok hissue).1⟩
  · cases h
  · rw [hissued] at h
    cases h

theorem named_of_revoked (hmirrors : Mirrors host trace store)
    (hstep : Step host parseUuid store event after) (h : event.revoked? = some credentialId) :
    ∃ account, named trace credentialId = some account := by
  rcases step_cases hstep with ⟨manager, request, draws, account, rfl, -⟩ |
    ⟨revokedId, now, rfl, hrevoke⟩ | ⟨-, hrevoked, -⟩
  · cases h
  · obtain rfl : revokedId = credentialId := Option.some.inj h
    obtain ⟨keyId, record, hfind, -⟩ := revoke_eq_ok hrevoke
    obtain ⟨account, hnamed, -⟩ := hmirrors.named_of_find hfind
    exact ⟨account, hnamed⟩
  · rw [hrevoked] at h
    cases h

/-- Where no two credentials share an identifier, those revoked are the ones whose identifier
was given to `revoke`. -/
theorem revoked_iff_of_nodup (hrun : Run (Step host parseUuid) .empty trace store)
    (hdistinct : ((issued trace).map IssuedServiceAccount.credentialId).Nodup)
    (haccount : account ∈ issued trace) :
    Revoked trace account ↔
      ∃ earlier event later, trace = earlier ++ event :: later ∧
        event.revoked? = some account.credentialId := by
  constructor
  · rintro ⟨earlier, event, later, credentialId, rfl, hrevoked, hnamed⟩
    have hid := credentialId_of_named hnamed
    exact ⟨earlier, event, later, rfl, by rw [hid, hrevoked]⟩
  · rintro ⟨earlier, event, later, rfl, hrevoked⟩
    obtain ⟨before, hbefore, hlater⟩ := hrun.of_append
    obtain ⟨next, hstep, -⟩ := hlater.of_cons
    obtain ⟨named, hnamed⟩ := named_of_revoked (mirrors_of_run hbefore) hstep hrevoked
    have hmem : named ∈ issued (earlier ++ event :: later) := by
      rw [issued_append]
      exact List.mem_append_left _ (mem_issued_of_named hnamed)
    have hid := credentialId_of_named hnamed
    obtain rfl := List.inj_on_of_nodup_map hdistinct hmem haccount hid
    exact ⟨earlier, event, later, _, rfl, hrevoked, hnamed⟩

/-! ## Tokens -/

theorem partition_append {separator : Char} {head : Str} (h : separator ∉ head) (rest : Str) :
    partition separator (head ++ separator :: rest) = (head, [separator], rest) := by
  have hhead : ∀ c ∈ head, decide (c ≠ separator) = true := by
    intro c hc
    exact decide_eq_true fun heq => h (heq ▸ hc)
  have hdrop : (head ++ separator :: rest).dropWhile (· ≠ separator) = separator :: rest := by
    rw [List.dropWhile_append_of_pos hhead]
    simp
  have htake : (head ++ separator :: rest).takeWhile (· ≠ separator) = head := by
    rw [List.takeWhile_append_of_pos hhead]
    simp
  rw [partition, hdrop]
  simp only [htake]

theorem underscore_notMem_uuidHex (keyId : Uuid) : '_' ∉ uuidHex keyId := by
  intro hmem
  have hdigit := List.all_eq_true.mp (all_lowHexDigits 32 keyId.toNat) '_' hmem
  exact absurd hdigit (by decide)

/-- The splitter finds the key identifier, whatever the secret. -/
theorem parseKeyId_tokenText (hparse : ∀ keyId, parseUuid (uuidHex keyId) = some keyId)
    (keyId : Uuid) (secret : Secret) :
    parseKeyId parseUuid (tokenText keyId secret) = .ok keyId := by
  have htoken : tokenText keyId secret =
      tokenPrefixText ++ '_' :: (uuidHex keyId ++ '_' :: secret.val) := by
    rw [tokenText, List.append_assoc, List.cons_append]
  have hmark : '_' ∉ tokenPrefixText := by decide
  have hlength : (uuidHex keyId).length = 32 := length_lowHexDigits 32 keyId.toNat
  rw [parseKeyId, htoken, partition_append hmark]
  dsimp only
  rw [partition_append (underscore_notMem_uuidHex keyId)]
  dsimp only
  rw [raiseIf_bind_eq_ok, orRaise_eq_ok]
  refine ⟨?_, hparse keyId⟩
  simp [hlength, secret.property]

/-- No other text has the digest of an issued token. -/
def CollisionFree (host : Host) (trace : List Event) : Prop :=
  ∀ account ∈ issued trace, ∀ token, host.sha256 (utf8 token) = host.sha256 (utf8 account.token) →
    utf8 token = utf8 account.token

theorem token_eq_of_digest (hfree : CollisionFree host trace) (haccount : account ∈ issued trace)
    {token : Str} (h : tokenDigest host account.token = tokenDigest host token) :
    account.token = token := by
  have hdigest := toHex_injective h
  exact (CanonicalText.utf8_injective (hfree account haccount token hdigest.symm)).symm

/-! ## Authentication -/

/-- A credential with the call of `issue` that returned it. -/
structure Holder where
  issuer : ServiceAccountManager
  request : IssueRequest
  draws : IssueDraws
  account : IssuedServiceAccount

/-- The token was issued for the organization and environment of the manager, and is neither
revoked nor expired. -/
structure Holds (trace : List Event) (manager : ServiceAccountManager) (token : Str)
    (now : Datetime) (holder : Holder) : Prop where
  issued : ⟨.issue holder.issuer holder.request holder.draws, .ok (.issued holder.account)⟩ ∈ trace
  token : holder.account.token = token
  organization : holder.issuer.organizationId = manager.organizationId
  environment : holder.issuer.environmentId = manager.environmentId
  live : ¬ Revoked trace holder.account
  current : ∀ expiresAt ∈ holder.account.expiresAt, now < expiresAt

/-- The principal has the subject and the permissions of the call of `issue`. -/
structure Describes (manager : ServiceAccountManager) (holder : Holder) (principal : Principal) :
    Prop where
  subject : principal.subject.val = holder.request.subject
  roles : principal.roles = ∅
  permissions : principal.permissions = holder.request.permissions
  kind : principal.kind = .service
  organization : principal.organizationId.val = manager.organizationId.val
  environment : principal.environmentId.val = manager.environmentId.val

section Authentication

variable {manager : ServiceAccountManager} {token : Str} {now : Datetime}
  {record : ServiceAccountRecord}

theorem all_lt_iff {expiry : Option Datetime} :
    (expiry.all fun expiresAt => now < expiresAt) = true ↔
      ∀ expiresAt ∈ expiry, now < expiresAt := by
  cases expiry with
  | none => simp
  | some expiresAt => simp

theorem verifiedRecord_eq_ok :
    manager.verifiedRecord host parseUuid store token now = .ok record ↔
      ∃ keyId, parseKeyId parseUuid token = .ok keyId ∧
        store.records.get? keyId = some record ∧
        (record.organizationId = manager.organizationId.val ∧
          record.environmentId = manager.environmentId.val) ∧
        record.tokenDigest = tokenDigest host token ∧
        record.revokedAt = none ∧ ∀ expiresAt ∈ record.expiresAt, now < expiresAt := by
  unfold verifiedRecord getByKeyId
  simp only [bind_eq_ok, orRaise_eq_ok, raiseIf_eq_ok, pure_eq_ok, not_or, not_not, all_lt_iff]
  constructor
  · rintro ⟨keyId, hparse, found, hfound, _, ⟨hscope, hdigest, hactive⟩, rfl⟩
    exact ⟨keyId, hparse, hfound, hscope, hdigest, hactive⟩
  · rintro ⟨keyId, hparse, hfound, hscope, hdigest, hactive⟩
    exact ⟨keyId, hparse, record, hfound, (), ⟨hscope, hdigest, hactive⟩, rfl⟩

/-- Whatever goes wrong inside `try` is caught. -/
theorem onlyRaises_verifiedRecord :
    OnlyRaises (fun error => ∃ message, error = .valueError message)
      (manager.verifiedRecord host parseUuid store token now) := by
  unfold verifiedRecord
  refine .bind ?_ fun keyId _ => .bind (.orRaise fun _ => ⟨_, rfl⟩) fun found _ =>
    .bind (.raiseIf fun _ => ⟨_, rfl⟩) fun _ _ => .ok found
  unfold parseKeyId
  exact .bind (.raiseIf fun _ => ⟨_, rfl⟩) fun _ _ => .orRaise fun _ => ⟨_, rfl⟩

variable {holder : Holder}

theorem Holds.mem_issued (h : Holds trace manager token now holder) :
    holder.account ∈ MemoryServiceAccountStore.issued trace :=
  List.mem_filterMap.mpr ⟨_, h.issued, rfl⟩

theorem Holds.issuedBy (h : Holds trace manager token now holder)
    (hrun : Run (Step host parseUuid) .empty trace store) :
    IssuedBy holder.issuer holder.request holder.draws holder.account := by
  obtain ⟨issuer, request, draws, hevent, hissued⟩ := issuedBy_of_mem hrun h.issued rfl
  injection hevent with hcall
  injection hcall with hissuer hrequest hdraws
  rw [hissuer, hrequest, hdraws]
  exact hissued

/-- The record of a credential is in the scope of the manager that its token holds for. -/
theorem Holds.scope (hholds : Holds trace manager token now holder)
    (hissued : IssuedBy holder.issuer holder.request holder.draws holder.account)
    (hmatch : Matches host holder.account record) :
    record.organizationId = manager.organizationId.val ∧
      record.environmentId = manager.environmentId.val := by
  rw [hmatch, ← hholds.organization, ← hholds.environment]
  exact ⟨hissued.organizationId, hissued.environmentId⟩

section Histories

variable (hparse : ∀ keyId, parseUuid (uuidHex keyId) = some keyId)
  (hrun : Run (Step host parseUuid) .empty trace store) (hfree : CollisionFree host trace)
include hparse hrun hfree

/-- The record passes the checks exactly if it is that of a credential that the token holds. -/
theorem verifiedRecord_iff :
    manager.verifiedRecord host parseUuid store token now = .ok record ↔
      ∃ holder, Holds trace manager token now holder ∧
        Matches host holder.account record ∧
        store.records.get? holder.account.keyId = some record := by
  have hmirrors := mirrors_of_run hrun
  rw [verifiedRecord_eq_ok]
  constructor
  · rintro ⟨keyId, -, hget, ⟨horganization, henvironment⟩, hdigest, hlive, hcurrent⟩
    have hkey := mem_keys_of_get? hget
    rw [hmirrors.keys] at hkey
    obtain ⟨account, haccount, rfl⟩ := List.mem_map.mp hkey
    obtain ⟨found, hfound, hmatch, hrevoked⟩ := hmirrors.recorded account haccount
    obtain rfl : found = record := Option.some.inj (hfound.symm.trans hget)
    obtain ⟨event, hevent, hreturned⟩ := List.mem_filterMap.mp haccount
    obtain ⟨issuer, request, draws, rfl, hissued⟩ := issuedBy_of_mem hrun hevent hreturned
    unfold Matches at hmatch
    rw [hmatch] at horganization henvironment hdigest hcurrent
    refine ⟨⟨issuer, request, draws, account⟩, ⟨hevent, token_eq_of_digest hfree haccount hdigest,
      ?_, ?_, hrevoked.mp hlive, hcurrent⟩, hmatch, hget⟩
    · exact Subtype.ext (hissued.organizationId.symm.trans horganization)
    · exact Subtype.ext (hissued.environmentId.symm.trans henvironment)
  · rintro ⟨⟨issuer, request, draws, account⟩, hholds, hmatch, hget⟩
    have hissued := hholds.issuedBy hrun
    obtain ⟨found, hfound, -, hrevoked⟩ := hmirrors.recorded account hholds.mem_issued
    obtain rfl : found = record := Option.some.inj (hfound.symm.trans hget)
    have hlive := hrevoked.mpr hholds.live
    have hparsed : parseKeyId parseUuid token = .ok account.keyId := by
      rw [← hholds.token]
      dsimp only
      rw [hissued.token, hissued.keyId]
      exact parseKeyId_tokenText hparse _ _
    refine ⟨account.keyId, hparsed, hget, hholds.scope hissued hmatch, ?_, hlive, ?_⟩
    · rw [hmatch, ← hholds.token]
      rfl
    · rw [hmatch]
      exact hholds.current

theorem exists_verified (hholds : Holds trace manager token now holder) :
    ∃ record, manager.verifiedRecord host parseUuid store token now = .ok record := by
  obtain ⟨record, hget, hmatch, -⟩ := (mirrors_of_run hrun).recorded _ hholds.mem_issued
  exact ⟨record, (verifiedRecord_iff hparse hrun hfree).mpr ⟨holder, hholds, hmatch, hget⟩⟩

end Histories

theorem exists_markUsed {keyId : Uuid} (hget : store.records.get? keyId = some record)
    (now : Datetime) : ∃ after, store.markUsed record.credentialId now = .ok after := by
  have hfound : (store.records.entries.find? fun entry =>
      entry.2.credentialId = record.credentialId).isSome = true := by
    rw [List.find?_isSome]
    exact ⟨_, mem_entries_of_get? hget, decide_eq_true rfl⟩
  obtain ⟨entry, hentry⟩ := Option.isSome_iff_exists.mp hfound
  refine ⟨⟨store.records.set entry.1 { entry.2 with lastUsedAt := some now }⟩, ?_⟩
  rw [markUsed, findCredential, hentry]
  rfl

theorem length_of_matchesIdentifier {maximum : Nat} {value : Str}
    (h : matchesIdentifier maximum value = true) : 1 ≤ value.length ∧ value.length ≤ maximum := by
  cases value with
  | nil => cases h
  | cons c rest =>
    simp only [matchesIdentifier, Bool.and_eq_true, decide_eq_true_eq] at h
    rw [List.length_cons]
    omega

/-- The principal of the record of a credential is the one that its call of `issue` describes. -/
theorem principalOf_eq_ok {principal : Principal} (hholds : Holds trace manager token now holder)
    (hissued : IssuedBy holder.issuer holder.request holder.draws holder.account)
    (hmatch : Matches host holder.account record) :
    principalOf record = .ok principal ↔ Describes manager holder principal := by
  have hsubject : record.subject = holder.request.subject := by
    rw [hmatch]
    exact hissued.subject
  have hpermissions : record.permissions = holder.request.permissions := by
    rw [hmatch]
    exact hissued.permissions
  obtain ⟨horganization, henvironment⟩ := hholds.scope hissued hmatch
  simp only [principalOf, bind_eq_ok, constrain_eq_ok, pure_eq_ok]
  rw [hsubject, hpermissions, horganization, henvironment]
  constructor
  · rintro ⟨subject, hsubject, organizationId, horganization, environmentId, henvironment, rfl⟩
    exact ⟨hsubject, rfl, rfl, rfl, horganization, henvironment⟩
  · intro h
    obtain ⟨subject, roles, permissions, kind, organizationId, environmentId⟩ := principal
    obtain rfl : roles = ∅ := h.roles
    obtain rfl : permissions = holder.request.permissions := h.permissions
    obtain rfl : kind = .service := h.kind
    exact ⟨subject, h.subject, organizationId, h.organization, environmentId, h.environment, rfl⟩

theorem exists_describes
    (hissued : IssuedBy holder.issuer holder.request holder.draws holder.account) :
    ∃ principal, Describes manager holder principal :=
  ⟨⟨⟨_, length_of_matchesIdentifier hissued.subjectValid⟩, ∅, holder.request.permissions, .service,
    ⟨_, length_of_matchesIdentifier manager.organizationId.property⟩,
    ⟨_, length_of_matchesIdentifier manager.environmentId.property⟩⟩, rfl, rfl, rfl, rfl, rfl, rfl⟩

/-- A record that passes the checks is marked as used, and its principal is returned. -/
theorem authenticate_of_verified {keyId : Uuid}
    (hverified : manager.verifiedRecord host parseUuid store token now = .ok record)
    (hget : store.records.get? keyId = some record) :
    (manager.authenticate host parseUuid store token now).1 = principalOf record := by
  obtain ⟨after, hused⟩ := exists_markUsed hget now
  rw [authenticate, hverified]
  dsimp only
  rw [hused]

theorem authenticate_of_error {error : ServiceAccountError}
    (herror : manager.verifiedRecord host parseUuid store token now = .error error) :
    (manager.authenticate host parseUuid store token now).1 =
      .error (.authenticationError "invalid service credential") := by
  obtain ⟨message, rfl⟩ := onlyRaises_verifiedRecord error herror
  rw [authenticate, herror]

/-- After any history of calls, a manager's `authenticate` returns a principal exactly for the
tokens that were issued for its organization and environment and are neither revoked nor
expired, with the subject and permissions of their issue, and raises `AuthenticationError` for
every other text. -/
theorem authenticate_exact (hparse : ∀ keyId, parseUuid (uuidHex keyId) = some keyId)
    (hrun : Run (Step host parseUuid) .empty trace store) (hfree : CollisionFree host trace)
    (manager : ServiceAccountManager) (token : Str) (now : Datetime) :
    ((∃ principal, (manager.authenticate host parseUuid store token now).1 = .ok principal) ↔
      ∃ holder, Holds trace manager token now holder) ∧
    (∀ principal, (manager.authenticate host parseUuid store token now).1 = .ok principal →
      ∃ holder, Holds trace manager token now holder ∧ Describes manager holder principal) ∧
    ∀ error, (manager.authenticate host parseUuid store token now).1 = .error error →
      error = .authenticationError "invalid service credential" := by
  cases hverified : manager.verifiedRecord host parseUuid store token now with
  | error error =>
    have hraises := authenticate_of_error hverified
    have hnone : ¬ ∃ holder, Holds trace manager token now holder := by
      rintro ⟨holder, hholds⟩
      obtain ⟨record, hrecord⟩ := exists_verified hparse hrun hfree hholds
      rw [hverified] at hrecord
      cases hrecord
    rw [hraises]
    refine ⟨⟨nofun, fun h => absurd h hnone⟩, nofun, ?_⟩
    intro raised h
    exact (Except.error.inj h).symm
  | ok record =>
    obtain ⟨holder, hholds, hmatch, hget⟩ :=
      (verifiedRecord_iff hparse hrun hfree).mp hverified
    have hissued := hholds.issuedBy hrun
    obtain ⟨principal, hprincipal⟩ : ∃ principal, Describes manager holder principal :=
      exists_describes hissued
    have hreturns := authenticate_of_verified hverified hget
    have hok := (principalOf_eq_ok hholds hissued hmatch).mpr hprincipal
    rw [hreturns]
    refine ⟨⟨fun _ => ⟨holder, hholds⟩, fun _ => ⟨principal, hok⟩⟩, ?_, ?_⟩
    · intro returned h
      exact ⟨holder, hholds, (principalOf_eq_ok hholds hissued hmatch).mp h⟩
    · intro error h
      rw [hok] at h
      cases h

end Authentication

/-! ## Two credentials, of which one is revoked -/

section Samples

open SignedEffect

/-- A reader of key identifiers, by the values of the digits. -/
def readUuid (text : Str) : Option Uuid :=
  some (BitVec.ofNat 128 (text.foldl (fun value c => value * 16 + (hexValue c).getD 0) 0))

theorem foldl_lowHexDigits (count n start : Nat) :
    (lowHexDigits count n).foldl (fun value c => value * 16 + (hexValue c).getD 0) start =
      start * 16 ^ count + n % 16 ^ count := by
  induction count generalizing start with
  | zero => simp [lowHexDigits, Nat.mod_one]
  | succ count ih =>
    have hdigits : lowHexDigits (count + 1) n =
        hexDigit (n / 16 ^ count % 16) :: lowHexDigits count n := by
      simp [lowHexDigits, List.range_succ]
    have hdigit := hexValue_hexDigit (Nat.mod_lt (n / 16 ^ count) (show 16 > 0 by decide))
    rw [hdigits, List.foldl_cons, ih, hdigit, Option.getD_some, Nat.pow_succ, Nat.mod_mul]
    ring

theorem readUuid_uuidHex (keyId : Uuid) : readUuid (uuidHex keyId) = some keyId := by
  have hlt : keyId.toNat < 16 ^ 32 := keyId.isLt
  rw [readUuid, uuidHex, foldl_lowHexDigits, Nat.zero_mul, Nat.zero_add, Nat.mod_eq_of_lt hlt,
    BitVec.ofNat_toNat, BitVec.setWidth_eq]

/-- A host whose hash function keeps all texts apart. -/
def plainHost : Host := { textHost with sha256 := id }

def acmeStaging : ServiceAccountManager where
  organizationId := ⟨"acme".toList, by decide⟩
  environmentId := ⟨"staging".toList, by decide⟩

def acmeProduction : ServiceAccountManager where
  organizationId := ⟨"acme".toList, by decide⟩
  environmentId := ⟨"production".toList, by decide⟩

def checkoutRequest : IssueRequest where
  name := "checkout-agent".toList
  subject := "checkout-agent".toList
  permissions := {.proposalsRead}
  expiresAt := some (some sampleDeadline)

/-- A secret of underscores. -/
def checkoutDraws : IssueDraws where
  now := sampleNow
  credentialId := 1
  keyId := 0x19f7518fe0070008000000000000041
  secret := ⟨List.replicate 43 '_', by decide +kernel⟩

def replacedDraws : IssueDraws where
  now := sampleNow
  credentialId := 2
  keyId := 0x19f7518fe0070008000000000000042
  secret := ⟨List.replicate 43 'A', by decide +kernel⟩

def credentialCalls : List Call := [
  .issue acmeStaging checkoutRequest checkoutDraws,
  .issue acmeStaging checkoutRequest replacedDraws,
  .revoke 2 sampleNow,
  .authenticate acmeStaging (tokenText checkoutDraws.keyId checkoutDraws.secret) sampleNow]

/-- The history and the store after a list of calls. -/
def historyOf : List Call → List Event × MemoryServiceAccountStore :=
  List.foldl (fun done call =>
    let result := done.2.perform plainHost readUuid call
    (done.1 ++ [⟨call, result.1⟩], result.2)) ([], .empty)

theorem run_historyOf (calls : List Call) :
    Run (Step plainHost readUuid) .empty (historyOf calls).1 (historyOf calls).2 := by
  induction calls using List.reverseRecOn with
  | nil => exact .refl
  | append_singleton calls call ih =>
    rw [historyOf, List.foldl_append]
    exact .snoc ih rfl

/-- The first token is a holder's, in its own environment only; the second one is revoked. -/
theorem checkout_authenticates :
    (∃ holder, Holds (historyOf credentialCalls).1 acmeStaging
      (tokenText checkoutDraws.keyId checkoutDraws.secret) sampleNow holder) ∧
    (¬ ∃ holder, Holds (historyOf credentialCalls).1 acmeProduction
      (tokenText checkoutDraws.keyId checkoutDraws.secret) sampleNow holder) ∧
    ¬ ∃ holder, Holds (historyOf credentialCalls).1 acmeStaging
      (tokenText replacedDraws.keyId replacedDraws.secret) sampleNow holder := by
  have hfree : CollisionFree plainHost (historyOf credentialCalls).1 :=
    fun _ _ _ h => h
  have hexact := authenticate_exact readUuid_uuidHex (run_historyOf credentialCalls) hfree
  have hresults :
      ((acmeStaging.authenticate plainHost readUuid (historyOf credentialCalls).2
        (tokenText checkoutDraws.keyId checkoutDraws.secret) sampleNow).1.isOk = true ∧
      (acmeProduction.authenticate plainHost readUuid (historyOf credentialCalls).2
        (tokenText checkoutDraws.keyId checkoutDraws.secret) sampleNow).1.isOk = false ∧
      (acmeStaging.authenticate plainHost readUuid (historyOf credentialCalls).2
        (tokenText replacedDraws.keyId replacedDraws.secret) sampleNow).1.isOk = false) := by
    decide +kernel
  obtain ⟨hstaging, hproduction, hreplaced⟩ := hresults
  refine ⟨(hexact _ _ _).1.mp (exists_eq_ok hstaging), ?_, ?_⟩
  · intro hholder
    obtain ⟨principal, hprincipal⟩ := (hexact _ _ _).1.mpr hholder
    rw [hprincipal] at hproduction
    cases hproduction
  · intro hholder
    obtain ⟨principal, hprincipal⟩ := (hexact _ _ _).1.mpr hholder
    rw [hprincipal] at hreplaced
    cases hreplaced

end Samples

end AegisLedger.Gateway.ServiceCredentials
