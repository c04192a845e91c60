import AegisLedger.Gateway.Canonical
import AegisLedger.Support.Dict

/-!
# Replay state of the signer and its file

`ReplayState`, `load_replay_state` and `persist_replay_state` of `signer/src/main.rs`.
The sets and maps of the source have no order that can be observed: what is written is
sorted, and what is read is collected without duplicates.  `serde_json` reads the file; a
theorem that needs to know what it reads says so (`ReadsBack`).  The size limit and the
schema check are part of loading.
-/

namespace AegisLedger.Signer

open AegisLedger.Support Checks Dict
open AegisLedger.Gateway (codePointLe quote joinComma utf8)

structure ReplayState where
  usedDecisions : List Str
  nextWalletNonce : Dict (Str × UInt64) UInt64
  deriving DecidableEq

def ReplayState.default : ReplayState := ⟨[], .empty⟩

structure PersistedWalletNonce where
  wallet : Str
  chainId : UInt64
  nextNonce : UInt64
  deriving DecidableEq

structure PersistedReplayState where
  schemaVersion : Str
  usedDecisions : List Str
  walletNonces : List PersistedWalletNonce
  deriving DecidableEq

def replaySchema : Str := "aegisledger.signer_replay.v1".toList

/-! ## Writing -/

/-- The order of `(&wallet, chain_id)`. -/
def walletNonceLe (left right : PersistedWalletNonce) : Bool :=
  if left.wallet = right.wallet then left.chainId ≤ right.chainId
  else codePointLe left.wallet right.wallet

/-- The sorted contents of the file. -/
def ReplayState.persisted (state : ReplayState) : PersistedReplayState where
  schemaVersion := replaySchema
  usedDecisions := state.usedDecisions.insertionSort (fun a b => codePointLe a b)
  walletNonces :=
    (state.nextWalletNonce.entries.map fun entry =>
      ⟨entry.1.1, entry.1.2, entry.2⟩).insertionSort (fun a b => walletNonceLe a b)

def u64Text (n : UInt64) : Str := Nat.toDigits 10 n.toNat

def walletNonceText (entry : PersistedWalletNonce) : Str :=
  '{' :: ("\"wallet\":".toList ++ quote entry.wallet ++
    ',' :: ("\"chain_id\":".toList ++ u64Text entry.chainId ++
      ',' :: ("\"next_nonce\":".toList ++ u64Text entry.nextNonce ++ ['}'])))

/-- The text of `serde_json::to_vec`. -/
def PersistedReplayState.text (p : PersistedReplayState) : Str :=
  '{' :: ("\"schema_version\":".toList ++ quote p.schemaVersion ++
    ',' :: ("\"used_decisions\":[".toList ++ joinComma (p.usedDecisions.map quote) ++
      ']' :: ',' :: ("\"wallet_nonces\":[".toList ++
        joinComma (p.walletNonces.map walletNonceText) ++ [']', '}'])))

/-- The bytes `persist_replay_state` writes to the temporary file. -/
def PersistedReplayState.fileBytes (p : PersistedReplayState) : Bytes := utf8 p.text ++ [10]

/-! ## Loading -/

/-- One entry of the file; a second one for the same key is refused. -/
def insertNonce (lower : Str → Str) (nonces : Dict (Str × UInt64) UInt64)
    (entry : PersistedWalletNonce) : Except String (Dict (Str × UInt64) UInt64) := do
  let key := (lower entry.wallet, entry.chainId)
  raiseIf ((nonces.get? key).isSome = true) "duplicate wallet nonce entry in replay state"
  pure (nonces.set key entry.nextNonce)

def insertNonces (lower : Str → Str) (nonces : Dict (Str × UInt64) UInt64) :
    List PersistedWalletNonce → Except String (Dict (Str × UInt64) UInt64)
  | [] => .ok nonces
  | entry :: rest => do
      let nonces ← insertNonce lower nonces entry
      insertNonces lower nonces rest

/-- `load_replay_state` on the contents of the file, `none` when there is no file. -/
def loadReplayState (lower : Str → Str) (fromSlice : Bytes → Option PersistedReplayState)
    (file : Option Bytes) : Except String ReplayState :=
  match file with
  | none => .ok .default
  | some contents => do
      raiseIf (16 * 1024 * 1024 < contents.length)
        "replay state must be a regular file no larger than 16 MiB"
      let persisted ← orRaise (fromSlice contents) "replay state is not valid JSON"
      raiseIf (persisted.schemaVersion ≠ replaySchema) "unsupported replay state schema"
      let nonces ← insertNonces lower .empty persisted.walletNonces
      pure ⟨persisted.usedDecisions.dedup, nonces⟩

/-- `serde_json` reads what it wrote. -/
def ReadsBack (fromSlice : Bytes → Option PersistedReplayState) : Prop :=
  ∀ p : PersistedReplayState, fromSlice p.fileBytes = some p

end AegisLedger.Signer
