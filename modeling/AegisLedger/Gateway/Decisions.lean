import AegisLedger.Gateway.Policies
import AegisLedger.Gateway.Signing
import AegisLedger.Gateway.State

/-!
# Issuing decisions

`DecisionIssuer.issue` of `aegisledger/decisions.py`.  The key pair is outside the
repository: an issuer is known by its address and by what it signs.
-/

namespace AegisLedger.Gateway

open AegisLedger.Support HexText Checks

theorem matchesReasonCode_text (code : ReasonCode) :
    matchesReasonCode code.text.toList = true := by
  cases code <;> decide +kernel

def ReasonCode.reasonText (code : ReasonCode) : ReasonText :=
  ⟨code.text.toList, matchesReasonCode_text code⟩

/-- `now + timedelta(seconds=seconds)`, unless it leaves the range of the type. -/
def addSeconds (now : Datetime) (seconds : Int) : Option Datetime :=
  let moved := (now.val : Int) + seconds * 1000000
  if h : 0 ≤ moved ∧ moved.toNat < 315537897600000000 then some ⟨moved.toNat, h.2⟩ else none

inductive IssueError
  | valueError (message : String)
  | overflowError
  | canonical (error : CanonicalError)
  | validation
  deriving DecidableEq

structure DecisionIssuer where
  identity : Str
  sign : Bytes → Bytes
  lifetimeSeconds : Int

/-- `"0" * 128`. -/
def blankSignature : {s : Str // (s.length == 128 && s.all isLowerHexDigit) = true} :=
  ⟨List.replicate 128 '0', by decide +kernel⟩

def verdictFor (state : LifecycleState) : DecisionVerdict :=
  if state = .reserved then .allow else .deny

/-- `DecisionIssuer.issue`, with the identifiers it draws and its clock reading. -/
def DecisionIssuer.issue {host : Host} (issuer : DecisionIssuer) (record : ProposalRecord)
    (policyVersion : PolicyVersion host) (decisionId decisionNonce : Uuid) (now : Datetime) :
    Except IssueError DecisionTokenV1 := do
  raiseIf (record.state ≠ .reserved ∧ record.state ≠ .denied)
    (IssueError.valueError
      ("cannot issue a decision for lifecycle state " ++ record.state.value))
  let verdict := verdictFor record.state
  let lifetimeEnd ← orRaise (addSeconds now issuer.lifetimeSeconds) IssueError.overflowError
  let expiresAt := min record.proposal.deadline lifetimeEnd
  let proposalHash ← (record.proposal.proposalHash host).mapError IssueError.canonical
  let proposalHash ← constrain proposalHash IssueError.validation
  let policyHash ← constrain policyVersion.policyHash IssueError.validation
  let policySigner ← constrain issuer.identity IssueError.validation
  if hmatches : (verdict = .allow → record.reservationId ≠ none) ∧
      (verdict = .deny → record.reservationId = none) then do
    let placeholder : DecisionTokenV1 := {
      decisionId := decisionId
      proposalHash := proposalHash
      policyVersionId := policyVersion.versionId
      policyHash := policyHash
      stateVersion := record.stateVersion
      reservationId := record.reservationId
      verdict := verdict
      reasonCodes := record.reasonCodes.map ReasonCode.reasonText
      expiresAt := expiresAt
      decisionNonce := decisionNonce
      policySigner := policySigner
      signature := blankSignature
      reservationMatchesVerdict := hmatches }
    let payload ← (decisionSignaturePayload host placeholder).mapError IssueError.canonical
    let signature ← constrain (toHex (issuer.sign payload)) IssueError.validation
    pure { placeholder with signature := signature }
  else .error .validation

end AegisLedger.Gateway
