import AegisLedger.Support.Checks
import AegisLedger.Support.HexText
import AegisLedger.Support.Dict
import AegisLedger.Support.Tally
import AegisLedger.Support.Window
import AegisLedger.Support.Binary64
import AegisLedger.Support.Table
import AegisLedger.Support.Merkle
import AegisLedger.Support.Run
import AegisLedger.Support.Threads
import AegisLedger.Support.Ancestry
import AegisLedger.Gateway.Canonical
import AegisLedger.Gateway.Contracts
import AegisLedger.Gateway.Policy
import AegisLedger.Gateway.Policies
import AegisLedger.Gateway.State
import AegisLedger.Gateway.Postgres
import AegisLedger.Gateway.Eip1559
import AegisLedger.Gateway.Signing
import AegisLedger.Gateway.Decisions
import AegisLedger.Gateway.Artifacts
import AegisLedger.Gateway.Audit
import AegisLedger.Gateway.Api
import AegisLedger.Gateway.Attestation
import AegisLedger.Gateway.Mandates
import AegisLedger.Gateway.Proofs.SignedEffect
import AegisLedger.Gateway.Proofs.RlpCodec
import AegisLedger.Gateway.Proofs.Eip1559Codec
import AegisLedger.Gateway.Proofs.AttestationSoundness
import AegisLedger.Gateway.Proofs.BudgetSafety
import AegisLedger.Gateway.Proofs.RecordHistory
import AegisLedger.Gateway.Proofs.PostgresSafety
import AegisLedger.Gateway.Proofs.PostgresBudget
import AegisLedger.Gateway.Proofs.AdapterAgreement
import AegisLedger.Gateway.Proofs.MandateBudget
import AegisLedger.Gateway.Proofs.CanonicalText
import AegisLedger.Gateway.Proofs.JournalIntegrity
import AegisLedger.Gateway.Proofs.ServiceLedger
import AegisLedger.Gateway.Proofs.DecisionPolicy
import AegisLedger.Gateway.Proofs.ExecutionRecovery
import AegisLedger.Gateway.Proofs.SingleTransaction
import AegisLedger.Account.Contract
import AegisLedger.Account.Calls
import AegisLedger.Account.Proofs.TransferBinding
import AegisLedger.Signer.Replay
import AegisLedger.Signer.ReplayText
import AegisLedger.Signer.Service
import AegisLedger.Signer.Machine
import AegisLedger.Signer.Proofs.AtMostOnce
import AegisLedger.Account.Ledger
import AegisLedger.Account.Proofs.Accounting
import AegisLedger.Account.Proofs.NativeBalance
import AegisLedger.Account.Proofs.Administration
import AegisLedger.Gateway.Reconciler
import AegisLedger.Gateway.Proofs.SettlementTotals
import AegisLedger.Gateway.Proofs.SettlementAgreement
import AegisLedger.Gateway.Proofs.Authorizations
import AegisLedger.Wallet.Chain
import AegisLedger.Wallet.Engine
import AegisLedger.Wallet.Payments
import AegisLedger.Wallet.Guard
import AegisLedger.Wallet.Proofs.Balances
import AegisLedger.Wallet.Proofs.SettledCaps
import AegisLedger.Gateway.SignerClient
import AegisLedger.Gateway.Proofs.SignerAgreement
import AegisLedger.Gateway.Proofs.PolicyInForce
import AegisLedger.Gateway.Proofs.AuditCompleteness
import AegisLedger.Gateway.Proofs.FailedSubmission
import AegisLedger.Signer.Proofs.ReplayFile
import AegisLedger.Wallet.Proofs.Conservation
import AegisLedger.Wallet.Proofs.ContractRules
import AegisLedger.Gateway.Settlements
import AegisLedger.Gateway.Proofs.SettlementAdapters
import AegisLedger.Wallet.Proofs.Digests
import AegisLedger.Wallet.Proofs.PolicySignatures
import AegisLedger.Support.Raises
import AegisLedger.Wallet.Proofs.BlockProduction
import AegisLedger.Gateway.Proofs.MandateChains
import AegisLedger.Gateway.Proofs.MandateReplay
import AegisLedger.Gateway.Proofs.PolicyTightening
import AegisLedger.Gateway.Proofs.PollIsolation
import AegisLedger.Gateway.Proofs.ResponseTrust
import AegisLedger.Gateway.Protocols
import AegisLedger.Gateway.Proofs.RequiredMandates
import AegisLedger.Gateway.ServiceAccounts
import AegisLedger.Gateway.Anchoring
import AegisLedger.Gateway.Proofs.ServiceCredentials
import AegisLedger.Gateway.Proofs.AnchorConsistency
import AegisLedger.Support.ConstantProduct
import AegisLedger.Wallet.Proofs.Pool
import AegisLedger.Wallet.Proofs.FacilitatorSettlement
import AegisLedger.Wallet.Proofs.SwapTerms
import AegisLedger.Wallet.Proofs.MandateAgents
import AegisLedger.Gateway.Proofs.PaymentRecords
import AegisLedger.Wallet.PolicyLoader
import AegisLedger.Wallet.Proofs.PolicyLoading
import AegisLedger.Wallet.Proofs.AuditChain
