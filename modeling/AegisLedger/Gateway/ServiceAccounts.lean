import AegisLedger.Gateway.Contracts
import AegisLedger.Support.Dict
import AegisLedger.Support.Run

/-!
# Service credentials

`ServiceAccountManager` and `MemoryServiceAccountStore` of `aegisledger/service_accounts.py`.
Any number of managers share one store.  `uuid.UUID` reads more than one spelling of an
identifier, so the reader of key identifiers is a parameter.  A timestamp is its instant; one
that comes without a UTC offset has none.
-/

namespace AegisLedger.Gateway

open AegisLedger.Support HexText Checks

/-! ## Principals -/

inductive Role
  | viewer
  | researcher
  | policyAdmin
  | auditor
  deriving DecidableEq

inductive Permission
  | proposalsRead
  | proposalsWrite
  | policiesSimulate
  | attestationsVerify
  deriving DecidableEq

inductive PrincipalKind
  | human
  | service
  deriving DecidableEq

structure Principal where
  subject : BoundedStr 1 256
  roles : Finset Role
  permissions : Finset Permission
  kind : PrincipalKind
  organizationId : BoundedStr 1 128
  environmentId : BoundedStr 1 128
  deriving DecidableEq

inductive ServiceAccountError
  | valueError (message : String)
  | keyError (message : Str)
  | authenticationError (message : String)
  | validationError
  deriving DecidableEq

/-! ## Records -/

structure ServiceAccountRecord where
  credentialId : Uuid
  keyId : Uuid
  name : Str
  subject : Str
  organizationId : Str
  environmentId : Str
  permissions : Finset Permission
  tokenDigest : Str
  createdAt : Datetime
  expiresAt : Option Datetime
  revokedAt : Option Datetime
  lastUsedAt : Option Datetime
  deriving DecidableEq

structure IssuedServiceAccount where
  credentialId : Uuid
  keyId : Uuid
  name : Str
  subject : Str
  organizationId : Str
  environmentId : Str
  permissions : Finset Permission
  token : Str
  expiresAt : Option Datetime
  deriving DecidableEq

structure MemoryServiceAccountStore where
  records : Dict Uuid ServiceAccountRecord
  deriving DecidableEq

namespace MemoryServiceAccountStore

def empty : MemoryServiceAccountStore := ⟨.empty⟩

def create (store : MemoryServiceAccountStore) (record : ServiceAccountRecord) :
    Except ServiceAccountError MemoryServiceAccountStore := do
  raiseIf (record.keyId ∈ store.records.keys)
    (ServiceAccountError.valueError "service credential key already exists")
  pure ⟨store.records.set record.keyId record⟩

def getByKeyId (store : MemoryServiceAccountStore) (keyId : Uuid) : Option ServiceAccountRecord :=
  store.records.get? keyId

/-- `_find_credential`: the first record with the identifier. -/
def findCredential (store : MemoryServiceAccountStore) (credentialId : Uuid) :
    Except ServiceAccountError (Uuid × ServiceAccountRecord) :=
  orRaise (store.records.entries.find? fun entry => entry.2.credentialId = credentialId)
    (.keyError ("unknown service credential ".toList ++ uuidText credentialId))

def revoke (store : MemoryServiceAccountStore) (credentialId : Uuid) (revokedAt : Datetime) :
    Except ServiceAccountError MemoryServiceAccountStore := do
  let (keyId, record) ← store.findCredential credentialId
  pure ⟨store.records.set keyId { record with revokedAt := some revokedAt }⟩

def markUsed (store : MemoryServiceAccountStore) (credentialId : Uuid) (usedAt : Datetime) :
    Except ServiceAccountError MemoryServiceAccountStore := do
  let (keyId, record) ← store.findCredential credentialId
  pure ⟨store.records.set keyId { record with lastUsedAt := some usedAt }⟩

end MemoryServiceAccountStore

/-! ## Identifiers and tokens -/

def isAlphanumeric (c : Char) : Bool :=
  (65 ≤ c.toNat && c.toNat ≤ 90) || (97 ≤ c.toNat && c.toNat ≤ 122) ||
    (48 ≤ c.toNat && c.toNat ≤ 57)

/-- The pattern `^[A-Za-z0-9][-A-Za-z0-9._:@/]*$`, and at most `maximum` characters. -/
def matchesIdentifier (maximum : Nat) : Str → Bool
  | [] => false
  | c :: rest => decide (rest.length + 1 ≤ maximum) && isAlphanumeric c &&
      rest.all fun d => isAlphanumeric d || ['.', '_', ':', '@', '/', '-'].contains d

abbrev Identifier (maximum : Nat) := {s : Str // matchesIdentifier maximum s = true}

/-- `_validated_identifier`. -/
def validatedIdentifier (field : String) (maximum : Nat) (value : Str) :
    Except ServiceAccountError (Identifier maximum) :=
  constrain value (.valueError ("invalid " ++ field))

def isUrlSafe (c : Char) : Bool := isAlphanumeric c || c == '_' || c == '-'

/-- The pattern `^[A-Za-z0-9_-]{43}$`. -/
def matchesSecret (s : Str) : Bool := s.length == 43 && s.all isUrlSafe

/-- What `secrets.token_urlsafe(32)` returns. -/
abbrev Secret := {s : Str // matchesSecret s = true}

/-- `key_id.hex`. -/
def uuidHex (u : Uuid) : Str := lowHexDigits 32 u.toNat

def tokenPrefixText : Str := "agsa".toList

def tokenText (keyId : Uuid) (secret : Secret) : Str :=
  tokenPrefixText ++ '_' :: uuidHex keyId ++ '_' :: secret.val

/-- `text.partition(separator)`. -/
def partition (separator : Char) (text : Str) : Str × Str × Str :=
  match text.dropWhile (· ≠ separator) with
  | [] => (text, [], [])
  | c :: rest => (text.takeWhile (· ≠ separator), [c], rest)

/-- `_parse_key_id`, where `parseUuid` is `uuid.UUID(hex=..)`. -/
def parseKeyId (parseUuid : Str → Option Uuid) (token : Str) : Except ServiceAccountError Uuid := do
  let (mark, separator, remainder) := partition '_' token
  let (keyText, secondSeparator, secret) := partition '_' remainder
  raiseIf (mark ≠ tokenPrefixText ∨ separator ≠ ['_'] ∨ secondSeparator ≠ ['_'] ∨
      keyText.length ≠ 32 ∨ matchesSecret secret = false)
    (ServiceAccountError.valueError "malformed service credential")
  orRaise (parseUuid keyText) (.valueError "badly formed hexadecimal UUID string")

/-- `_token_digest`. -/
def tokenDigest (host : Host) (token : Str) : Str := toHex (host.sha256 (utf8 token))

/-- `_as_utc`. -/
def asUtc (value : Option Datetime) : Except ServiceAccountError Datetime :=
  orRaise value (.valueError "service credential timestamps must include a UTC offset")

/-! ## Managers -/

structure ServiceAccountManager where
  organizationId : Identifier 128
  environmentId : Identifier 128

/-- The arguments of `issue`; `expiresAt` is none for the default and `some none` for a
timestamp without a UTC offset. -/
structure IssueRequest where
  name : Str
  subject : Str
  permissions : Finset Permission
  expiresAt : Option (Option Datetime)

/-- What `issue` draws: the time, two identifiers and a secret. -/
structure IssueDraws where
  now : Datetime
  credentialId : Uuid
  keyId : Uuid
  secret : Secret

namespace ServiceAccountManager

/-- The expiry of `issue`. -/
def checkedExpiry (now : Datetime) :
    Option (Option Datetime) → Except ServiceAccountError (Option Datetime)
  | none => pure none
  | some value => do
      let expiresAt ← asUtc value
      raiseIf (expiresAt ≤ now)
        (ServiceAccountError.valueError "service credential expiry must be in the future")
      pure (some expiresAt)

def issue (host : Host) (manager : ServiceAccountManager) (store : MemoryServiceAccountStore)
    (request : IssueRequest) (draws : IssueDraws) :
    Except ServiceAccountError (IssuedServiceAccount × MemoryServiceAccountStore) := do
  let name ← validatedIdentifier "name" 128 request.name
  let subject ← validatedIdentifier "subject" 256 request.subject
  raiseIf (request.permissions = ∅)
    (ServiceAccountError.valueError "service credential requires at least one permission")
  let expiresAt ← checkedExpiry draws.now request.expiresAt
  let token := tokenText draws.keyId draws.secret
  let after ← store.create {
    credentialId := draws.credentialId
    keyId := draws.keyId
    name := name
    subject := subject
    organizationId := manager.organizationId
    environmentId := manager.environmentId
    permissions := request.permissions
    tokenDigest := tokenDigest host token
    createdAt := draws.now
    expiresAt := expiresAt
    revokedAt := none
    lastUsedAt := none }
  pure ({
    credentialId := draws.credentialId
    keyId := draws.keyId
    name := name
    subject := subject
    organizationId := manager.organizationId
    environmentId := manager.environmentId
    permissions := request.permissions
    token := token
    expiresAt := expiresAt }, after)

/-- What `authenticate` does inside `try`. -/
def verifiedRecord (host : Host) (parseUuid : Str → Option Uuid) (manager : ServiceAccountManager)
    (store : MemoryServiceAccountStore) (token : Str) (now : Datetime) :
    Except ServiceAccountError ServiceAccountRecord := do
  let keyId ← parseKeyId parseUuid token
  let record ← orRaise (store.getByKeyId keyId) (.valueError "")
  let scopeMatches := record.organizationId = manager.organizationId.val ∧
    record.environmentId = manager.environmentId.val
  let digestMatches := record.tokenDigest = tokenDigest host token
  let active := record.revokedAt = none ∧
    (record.expiresAt.all fun expiresAt => now < expiresAt) = true
  raiseIf (¬scopeMatches ∨ ¬digestMatches ∨ ¬active) (ServiceAccountError.valueError "")
  pure record

/-- The principal that `authenticate` returns for a record. -/
def principalOf (record : ServiceAccountRecord) : Except ServiceAccountError Principal := do
  let subject ← constrain record.subject .validationError
  let organizationId ← constrain record.organizationId .validationError
  let environmentId ← constrain record.environmentId .validationError
  pure {
    subject := subject
    roles := ∅
    permissions := record.permissions
    kind := .service
    organizationId := organizationId
    environmentId := environmentId }

def authenticate (host : Host) (parseUuid : Str → Option Uuid) (manager : ServiceAccountManager)
    (store : MemoryServiceAccountStore) (token : Str) (now : Datetime) :
    Except ServiceAccountError Principal × MemoryServiceAccountStore :=
  match manager.verifiedRecord host parseUuid store token now with
  | .error (.valueError _) => (.error (.authenticationError "invalid service credential"), store)
  | .error error => (.error error, store)
  | .ok record =>
    match store.markUsed record.credentialId now with
    | .error error => (.error error, store)
    | .ok after => (principalOf record, after)

end ServiceAccountManager

/-! ## Runs -/

namespace MemoryServiceAccountStore

inductive Call
  | issue (manager : ServiceAccountManager) (request : IssueRequest) (draws : IssueDraws)
  | revoke (credentialId : Uuid) (now : Datetime)
  | authenticate (manager : ServiceAccountManager) (token : Str) (now : Datetime)

inductive Answer
  | issued (account : IssuedServiceAccount)
  | revoked
  | principal (principal : Principal)
  deriving DecidableEq

/-- A call and what came of it. -/
structure Event where
  call : Call
  result : Except ServiceAccountError Answer

def perform (host : Host) (parseUuid : Str → Option Uuid) (store : MemoryServiceAccountStore) :
    Call → Except ServiceAccountError Answer × MemoryServiceAccountStore
  | .issue manager request draws =>
    match manager.issue host store request draws with
    | .ok (account, after) => (.ok (.issued account), after)
    | .error error => (.error error, store)
  | .revoke credentialId now =>
    match store.revoke credentialId now with
    | .ok after => (.ok .revoked, after)
    | .error error => (.error error, store)
  | .authenticate manager token now =>
    let result := manager.authenticate host parseUuid store token now
    (result.1.map .principal, result.2)

/-- One call of one of the managers of the store. -/
def Step (host : Host) (parseUuid : Str → Option Uuid) (store : MemoryServiceAccountStore)
    (event : Event) (after : MemoryServiceAccountStore) : Prop :=
  store.perform host parseUuid event.call = (event.result, after)

/-- The credential that a call has issued. -/
def Event.issued? (event : Event) : Option IssuedServiceAccount :=
  match event.result with
  | .ok (.issued account) => some account
  | _ => none

/-- The credentials issued in a run. -/
def issued (trace : List Event) : List IssuedServiceAccount := trace.filterMap Event.issued?

/-- The identifier that a call of `revoke` has revoked. -/
def Event.revoked? (event : Event) : Option Uuid :=
  match event.call, event.result with
  | .revoke credentialId _, .ok _ => some credentialId
  | _, _ => none

end MemoryServiceAccountStore

end AegisLedger.Gateway
