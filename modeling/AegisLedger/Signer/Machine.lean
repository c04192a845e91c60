import AegisLedger.Signer.Service
import AegisLedger.Support.Run

/-!
# The signer as a process with a disk

`sign_authorized_transaction` of `signer/src/main.rs`, one atomic action at a time.
The replay lock is held from the replay check to the update of the memory, so a call
passes through the phases

  `idle → writing → renamed → synced → committed → idle`

and may leave each of them through a failure or a crash.  The temporary file is synced
before the rename, so the rename is atomic; until the directory is synced a loss of
power may undo it.  The response that is assembled after the signature is not part of
this machine.
-/

namespace AegisLedger.Signer

open AegisLedger.Support Checks Dict
open AegisLedger.Gateway (Json)

/-- The `tonic::Status` of a refused call. -/
inductive Status
  | invalidArgument (message : String)
  | permissionDenied (message : String)
  | unavailable (message : String)
  | internal (message : String)
  deriving DecidableEq

/-- What a call that passed every check is about to sign. -/
structure Admission where
  decisionNonce : Str
  wallet : Str
  chainId : UInt64
  walletNonce : UInt64
  /-- `eip1559_hash`. -/
  digestHex : Str
  deriving DecidableEq

def Admission.key (a : Admission) : Str × UInt64 := (a.wallet, a.chainId)

/-- `expected_nonce`. -/
def ReplayState.expectedNonce (replay : ReplayState) (key : Str × UInt64) : UInt64 :=
  (replay.nextWalletNonce.get? key).getD 0

/-- `updated_replay`; the addition wraps. -/
def ReplayState.updated (replay : ReplayState) (a : Admission) : ReplayState where
  usedDecisions := replay.usedDecisions.insert a.decisionNonce
  nextWalletNonce := replay.nextWalletNonce.set a.key (a.walletNonce + 1)

/-- The checks that need no replay state, and the fields read after them. -/
def SignerService.authorize (service : SignerService) (crates : Crates)
    (authorizationJson : Bytes) (decisionNow bindingNow : Int) : Except Status Admission := do
  let root ← (parseAuthorization crates authorizationJson).mapError
    fun _ => .invalidArgument "authorization_json schema is invalid"
  (service.verifyDecision crates root decisionNow).mapError
    fun _ => .permissionDenied "authorization denied"
  (service.verifyBinding crates root bindingNow).mapError
    fun _ => .permissionDenied "authorization denied"
  let decisionNonce ← (string root ["decision", "decision_nonce"]).mapError
    fun _ => .invalidArgument "decision nonce missing"
  let wallet ← (string root ["proposal", "wallet"]).mapError
    fun _ => .invalidArgument "wallet missing"
  let chainId ← (number root ["chain_id"]).mapError
    fun _ => .invalidArgument "chain id missing"
  let walletNonce ← (number root ["wallet_nonce"]).mapError
    fun _ => .invalidArgument "wallet nonce missing"
  let digestHex ← (string root ["eip1559_hash"]).mapError
    fun _ => .invalidArgument "transaction digest missing"
  pure ⟨decisionNonce, crates.lower wallet, chainId, walletNonce, digestHex⟩

/-- The whole call up to the point where it starts to persist. -/
def SignerService.accept (service : SignerService) (crates : Crates) (replay : ReplayState)
    (authorizationJson : Bytes) (decisionNow bindingNow : Int) : Except Status Admission := do
  let a ← service.authorize crates authorizationJson decisionNow bindingNow
  raiseIf (a.decisionNonce ∈ replay.usedDecisions)
    (.permissionDenied "decision replay detected")
  raiseIf (a.walletNonce ≠ replay.expectedNonce a.key)
    (.permissionDenied "wallet nonce is not monotonic")
  pure a

/-- The transaction signature of an admitted call. -/
def signature (crates : Crates) (a : Admission) : Except Status (Bytes × UInt8) := do
  let digest ← (decodeHex a.digestHex).mapError
    fun _ => .invalidArgument "transaction digest invalid"
  orRaise (crates.signPrehash digest) (.internal "signing failure")

/-! ## The machine -/

inductive Phase
  | idle
  | writing (a : Admission)
  | renamed (a : Admission)
  | synced (a : Admission)
  | committed (a : Admission)

structure Process where
  /-- The replay state under the lock. -/
  replay : ReplayState
  phase : Phase

/-- The file as a reader sees it, the file a loss of power falls back to, and the
process while it runs. -/
structure Machine where
  visible : Option Bytes
  durable : Option Bytes
  process : Option Process

inductive Label
  | start
  | refuse
  | accept (a : Admission)
  | writeFails
  | rename
  | syncFails
  | sync
  | flush
  | commit
  | sign (a : Admission) (signature : Bytes × UInt8)
  | signFails
  | crash
  | powerLoss

section Step

variable (service : SignerService) (crates : Crates)

inductive Step : Machine → Label → Machine → Prop
  | start {visible durable : Option Bytes} {replay : ReplayState}
      (hload : loadReplayState crates.lower crates.fromSlice visible = .ok replay) :
      Step ⟨visible, durable, none⟩ .start ⟨visible, durable, some ⟨replay, .idle⟩⟩
  | refuse {visible durable : Option Bytes} {replay : ReplayState} {authorizationJson : Bytes}
      {decisionNow bindingNow : Int} {status : Status}
      (haccept : service.accept crates replay authorizationJson decisionNow bindingNow =
        .error status) :
      Step ⟨visible, durable, some ⟨replay, .idle⟩⟩ .refuse
        ⟨visible, durable, some ⟨replay, .idle⟩⟩
  | accept {visible durable : Option Bytes} {replay : ReplayState} {authorizationJson : Bytes}
      {decisionNow bindingNow : Int} {a : Admission}
      (haccept : service.accept crates replay authorizationJson decisionNow bindingNow = .ok a) :
      Step ⟨visible, durable, some ⟨replay, .idle⟩⟩ (.accept a)
        ⟨visible, durable, some ⟨replay, .writing a⟩⟩
  /-- Creating, writing or syncing the temporary file fails. -/
  | writeFails {visible durable : Option Bytes} {replay : ReplayState} {a : Admission} :
      Step ⟨visible, durable, some ⟨replay, .writing a⟩⟩ .writeFails
        ⟨visible, durable, some ⟨replay, .idle⟩⟩
  | rename {visible durable : Option Bytes} {replay : ReplayState} {a : Admission} :
      Step ⟨visible, durable, some ⟨replay, .writing a⟩⟩ .rename
        ⟨some (replay.updated a).persisted.fileBytes, durable, some ⟨replay, .renamed a⟩⟩
  /-- Opening or syncing the directory fails after the rename. -/
  | syncFails {visible durable : Option Bytes} {replay : ReplayState} {a : Admission} :
      Step ⟨visible, durable, some ⟨replay, .renamed a⟩⟩ .syncFails
        ⟨visible, durable, some ⟨replay, .idle⟩⟩
  | sync {visible durable : Option Bytes} {replay : ReplayState} {a : Admission} :
      Step ⟨visible, durable, some ⟨replay, .renamed a⟩⟩ .sync
        ⟨visible, visible, some ⟨replay, .synced a⟩⟩
  /-- The system writes the directory back on its own. -/
  | flush {visible durable : Option Bytes} {process : Option Process} :
      Step ⟨visible, durable, process⟩ .flush ⟨visible, visible, process⟩
  | commit {visible durable : Option Bytes} {replay : ReplayState} {a : Admission} :
      Step ⟨visible, durable, some ⟨replay, .synced a⟩⟩ .commit
        ⟨visible, durable, some ⟨replay.updated a, .committed a⟩⟩
  | sign {visible durable : Option Bytes} {replay : ReplayState} {a : Admission}
      {sig : Bytes × UInt8} (hsign : signature crates a = .ok sig) :
      Step ⟨visible, durable, some ⟨replay, .committed a⟩⟩ (.sign a sig)
        ⟨visible, durable, some ⟨replay, .idle⟩⟩
  | signFails {visible durable : Option Bytes} {replay : ReplayState} {a : Admission}
      {status : Status} (hsign : signature crates a = .error status) :
      Step ⟨visible, durable, some ⟨replay, .committed a⟩⟩ .signFails
        ⟨visible, durable, some ⟨replay, .idle⟩⟩
  | crash {visible durable : Option Bytes} {process : Option Process} :
      Step ⟨visible, durable, process⟩ .crash ⟨visible, durable, none⟩
  | powerLoss {visible durable : Option Bytes} {process : Option Process} :
      Step ⟨visible, durable, process⟩ .powerLoss ⟨durable, durable, none⟩

end Step

/-- The signatures of a run, oldest first. -/
def signatures (trace : List Label) : List Admission :=
  trace.filterMap fun
    | .sign a _ => some a
    | _ => none

end AegisLedger.Signer
