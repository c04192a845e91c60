import AegisLedger.Gateway.Contracts

/-!
# Policies and their static evaluation

`aegisledger/policy.py` and `static_policy_reasons` of `aegisledger/state.py`.
The collections of a policy are kept as the lists a validated policy holds; only
membership in them is ever tested.
-/

namespace AegisLedger.Gateway

open AegisLedger.Support HexText Checks

structure RollingCapV1 where
  windowSeconds : PosInt
  amount : Nat
  deriving DecidableEq

structure RiskConstraintsV1 where
  maximumSlippageBps : {n : Nat // n ≤ 10000}
  maximumQuoteAgeSeconds : PosInt
  denyOnMissingQuote : Bool
  deriving DecidableEq

structure ContractRuleV1 where
  contract : LowerAddress
  selectors : List Selector
  deriving DecidableEq

structure PolicyV1 where
  name : BoundedStr 3 96
  enabledWallets : List LowerAddress
  enabledPrincipals : List (BoundedStr 1 128)
  enabledChains : List PosInt
  enabledAssets : List AssetId
  allowedRecipients : List LowerAddress
  contractRules : List ContractRuleV1
  perTransactionCap : Nat
  rollingCaps : List RollingCapV1
  maximumTransactionsPerHour : Nat
  mandateRequiredAbove : Nat
  risk : RiskConstraintsV1
  emergencyStop : Bool
  /-- `explicit_constraints_are_coherent`. -/
  coherent : (rollingCaps.map (·.windowSeconds)).Nodup ∧
    (perTransactionCap = 0 → emergencyStop = true)
  deriving DecidableEq

inductive ReasonCode
  | emergencyStop
  | deadlineExpired
  | walletNotEnabled
  | principalNotEnabled
  | chainNotEnabled
  | assetNotEnabled
  | perTransactionCapExceeded
  | recipientNotAllowed
  | contractSelectorNotAllowed
  | quoteRequired
  | mandateRequired
  | rollingCapExceeded
  | velocityExceeded
  deriving DecidableEq

def ReasonCode.text : ReasonCode → String
  | .emergencyStop => "EMERGENCY_STOP"
  | .deadlineExpired => "DEADLINE_EXPIRED"
  | .walletNotEnabled => "WALLET_NOT_ENABLED"
  | .principalNotEnabled => "PRINCIPAL_NOT_ENABLED"
  | .chainNotEnabled => "CHAIN_NOT_ENABLED"
  | .assetNotEnabled => "ASSET_NOT_ENABLED"
  | .perTransactionCapExceeded => "PER_TRANSACTION_CAP_EXCEEDED"
  | .recipientNotAllowed => "RECIPIENT_NOT_ALLOWED"
  | .contractSelectorNotAllowed => "CONTRACT_SELECTOR_NOT_ALLOWED"
  | .quoteRequired => "QUOTE_REQUIRED"
  | .mandateRequired => "MANDATE_REQUIRED"
  | .rollingCapExceeded => "ROLLING_CAP_EXCEEDED"
  | .velocityExceeded => "VELOCITY_EXCEEDED"

/-- The `(contract, selector)` pairs that the contract rules allow. -/
def PolicyV1.allowedCalls (policy : PolicyV1) : List (Str × Str) :=
  policy.contractRules.flatMap fun rule =>
    rule.selectors.map fun selector => (rule.contract.val, asciiLower selector.val)

def intentReasons (proposal : ProposalV1) (policy : PolicyV1) : List ReasonCode :=
  match proposal.intent with
  | .transfer intent =>
    noteIf (intent.recipient ∉ policy.allowedRecipients) ReasonCode.recipientNotAllowed
  | .swap intent =>
    noteIf ((intent.contract.val, asciiLower intent.selector.val) ∉ policy.allowedCalls)
      ReasonCode.contractSelectorNotAllowed ++
    noteIf (policy.risk.denyOnMissingQuote = true ∧ proposal.quoteReference = none)
      ReasonCode.quoteRequired

/-- `static_policy_reasons`, with `now` the clock reading of the deadline check. -/
def staticPolicyReasons (proposal : ProposalV1) (policy : PolicyV1) (now : Datetime) :
    List ReasonCode :=
  if policy.emergencyStop then [.emergencyStop]
  else
    noteIf (proposal.deadline ≤ now) ReasonCode.deadlineExpired ++
    noteIf (proposal.wallet ∉ policy.enabledWallets) ReasonCode.walletNotEnabled ++
    noteIf (proposal.principalId ∉ policy.enabledPrincipals) ReasonCode.principalNotEnabled ++
    noteIf (proposal.chainId ∉ policy.enabledChains) ReasonCode.chainNotEnabled ++
    noteIf (proposal.asset ∉ policy.enabledAssets) ReasonCode.assetNotEnabled ++
    noteIf (policy.perTransactionCap < proposal.amount.val) ReasonCode.perTransactionCapExceeded ++
    intentReasons proposal policy ++
    noteIf (policy.mandateRequiredAbove < proposal.amount.val ∧ proposal.mandateId = none)
      ReasonCode.mandateRequired

end AegisLedger.Gateway
