import AegisLedger.Gateway.Policy
import AegisLedger.Support.Dict

/-!
# Policy versions

`policy_hash` of `aegisledger/policy.py` and the registry of `aegisledger/policies.py`.  A
version carries the hash that `create` computed for its policy, so the type of versions
depends on the host that hashes.  Clock readings and new identifiers are arguments.
-/

namespace AegisLedger.Gateway

open AegisLedger.Support HexText Checks

/-! ## The hash of a policy -/

/-- `normalized`. -/
def PolicyV1.normalized (policy : PolicyV1) : Json := .obj [
    ("schema_version".toList, .str "aegisledger.policy.v1".toList),
    ("name".toList, .str policy.name),
    ("default_action".toList, .str "deny".toList),
    ("enabled_wallets".toList, .arr (policy.enabledWallets.map fun wallet => .str wallet.val)),
    ("enabled_principals".toList,
      .arr (policy.enabledPrincipals.map fun principal => .str principal.val)),
    ("enabled_chains".toList, .arr (policy.enabledChains.map fun chain => .int chain.val)),
    ("enabled_assets".toList, .arr (policy.enabledAssets.map fun asset => .str asset.val)),
    ("allowed_recipients".toList,
      .arr (policy.allowedRecipients.map fun recipient => .str recipient.val)),
    ("contract_rules".toList, .arr (policy.contractRules.map fun rule => .obj [
      ("contract".toList, .str rule.contract),
      ("selectors".toList, .arr (rule.selectors.map fun selector => .str selector.val))])),
    ("per_transaction_cap".toList, .int policy.perTransactionCap),
    ("rolling_caps".toList, .arr (policy.rollingCaps.map fun cap => .obj [
      ("window_seconds".toList, .int cap.windowSeconds.val),
      ("amount".toList, .int cap.amount)])),
    ("maximum_transactions_per_hour".toList, .int policy.maximumTransactionsPerHour),
    ("mandate_required_above".toList, .int policy.mandateRequiredAbove),
    ("risk".toList, .obj [
      ("maximum_slippage_bps".toList, .int policy.risk.maximumSlippageBps.val),
      ("maximum_quote_age_seconds".toList, .int policy.risk.maximumQuoteAgeSeconds.val),
      ("deny_on_missing_quote".toList, .bool policy.risk.denyOnMissingQuote)]),
    ("emergency_stop".toList, .bool policy.emergencyStop)]

/-- `policy_hash`. -/
def PolicyV1.policyHash (host : Host) (policy : PolicyV1) : Except CanonicalError Str := do
  let bytes ← canonicalJson host policy.normalized
  pure (prefixedHex (host.sha256 bytes))

/-! ## Versions -/

inductive PolicyStatus
  | draft
  | approved
  | active
  | retired
  deriving DecidableEq

structure PolicyVersion (host : Host) where
  versionId : Uuid
  policy : PolicyV1
  policyHash : Str
  status : PolicyStatus
  createdBy : Str
  createdAt : Datetime
  approvals : List Str
  activatedAt : Option Datetime
  activatedBy : Option Str
  /-- `create` hashes the policy, and neither is assigned again. -/
  hashed : policy.policyHash host = .ok policyHash

inductive PolicyError
  | canonical (error : CanonicalError)
  | keyError (message : Str)
  | valueError (message : Str)
  | permissionError (message : Str)
  | lookupError (message : Str)
  deriving DecidableEq

structure PolicyRegistry (host : Host) where
  versions : Dict Uuid (PolicyVersion host)
  activeId : Option Uuid

namespace PolicyRegistry

variable {host : Host}

def empty : PolicyRegistry host := ⟨.empty, none⟩

/-- A version as `create` makes it. -/
def draft (policy : PolicyV1) (policyHash : Str)
    (hashed : policy.policyHash host = .ok policyHash) (createdBy : Str) (versionId : Uuid)
    (now : Datetime) : PolicyVersion host where
  versionId := versionId
  policy := policy
  policyHash := policyHash
  status := .draft
  createdBy := createdBy
  createdAt := now
  approvals := []
  activatedAt := none
  activatedBy := none
  hashed := hashed

def put (registry : PolicyRegistry host) (version : PolicyVersion host) : PolicyRegistry host :=
  { registry with versions := registry.versions.set version.versionId version }

def create (registry : PolicyRegistry host) (policy : PolicyV1) (createdBy : Str)
    (versionId : Uuid) (now : Datetime) :
    Except PolicyError (PolicyVersion host × PolicyRegistry host) :=
  match hashed : policy.policyHash host with
  | .error error => .error (.canonical error)
  | .ok policyHash =>
    let version := draft policy policyHash hashed createdBy versionId now
    .ok (version, registry.put version)

def get (registry : PolicyRegistry host) (versionId : Uuid) :
    Except PolicyError (PolicyVersion host) :=
  orRaise (registry.versions.get? versionId)
    (.keyError ("unknown policy version ".toList ++ uuidText versionId))

def approve (registry : PolicyRegistry host) (versionId : Uuid) (administratorId : Str) :
    Except PolicyError (PolicyVersion host × PolicyRegistry host) := do
  let version ← registry.get versionId
  raiseIf (version.status = .active ∨ version.status = .retired)
    (PolicyError.valueError "active or retired policies are immutable".toList)
  let approvals :=
    if administratorId ∈ version.approvals then version.approvals
    else version.approvals ++ [administratorId]
  let approved := { version with
    approvals := approvals
    status := if 2 ≤ approvals.length then .approved else version.status }
  pure (approved, registry.put approved)

/-- The registry with the version in force retired, unless it is `versionId` itself. -/
def retire (registry : PolicyRegistry host) (versionId : Uuid) :
    Except PolicyError (PolicyRegistry host) :=
  match registry.activeId with
  | none => pure registry
  | some activeId =>
    if activeId = versionId then pure registry
    else do
      let active ← registry.get activeId
      pure (registry.put { active with status := .retired })

def activate (registry : PolicyRegistry host) (versionId : Uuid) (activatedBy : Str)
    (now : Datetime) : Except PolicyError (PolicyVersion host × PolicyRegistry host) := do
  let version ← registry.get versionId
  raiseIf (version.approvals.length < 2) (PolicyError.permissionError
    "policy activation requires two distinct administrator approvals".toList)
  let retired ← registry.retire versionId
  let activated := { version with
    status := PolicyStatus.active, activatedAt := some now, activatedBy := some activatedBy }
  pure (activated, { retired.put activated with activeId := some versionId })

def active (registry : PolicyRegistry host) : Except PolicyError (PolicyVersion host) := do
  let activeId ← orRaise registry.activeId (PolicyError.lookupError "no active policy".toList)
  registry.get activeId

end PolicyRegistry

end AegisLedger.Gateway
