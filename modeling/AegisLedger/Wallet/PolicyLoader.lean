import AegisLedger.Wallet.Engine

/-!
# Policy documents

`load_policy` of `agentwallet/guard/policy.py`.  A document is what `yaml.safe_load` makes of
its text: nodes that are scalars, lists, mappings or sets.  Aliases can make a document
contain itself, so a node is a value of any type and `view` shows one level of it.  A tuple,
which is only ever an element of a list, is a list here: the loader tells neither apart.
-/

namespace AegisLedger.Wallet

open AegisLedger.Support HexText Checks
open AegisLedger.Gateway (PosInt intText)

/-! ## Values -/

/-- The hashable values, which can be keys. -/
inductive YamlScalar
  | null
  | bool (value : Bool)
  | int (value : Int)
  | float (bits : UInt64)
  | str (value : Str)
  | bytes (value : Bytes)
  | date (ordinal : Nat)
  | datetime (aware : Bool) (microseconds : Int)
  deriving DecidableEq

inductive Yaml (Node : Type)
  | scalar (value : YamlScalar)
  | list (items : List Node)
  | dict (entries : Dict YamlScalar Node)
  | set (items : List YamlScalar)

/-- Keys of one class are ordered among themselves, and keys of two classes are not. -/
inductive SortClass
  | none
  | number
  | text
  | bytes
  | date
  | naive
  | aware
  deriving DecidableEq

def YamlScalar.sortClass : YamlScalar → SortClass
  | .null => .none
  | .bool _ => .number
  | .int _ => .number
  | .float _ => .number
  | .str _ => .text
  | .bytes _ => .bytes
  | .date _ => .date
  | .datetime aware _ => if aware then .aware else .naive

/-- `sorted` returns. -/
def Sortable (keys : List YamlScalar) : Prop :=
  ∀ first ∈ keys, ∀ second ∈ keys, first.sortClass = second.sortClass

instance (keys : List YamlScalar) : Decidable (Sortable keys) :=
  inferInstanceAs (Decidable (∀ first ∈ keys, ∀ second ∈ keys, _))

namespace Yaml

variable {Node : Type}

/-- `type(value).__name__`. -/
def typeName : Yaml Node → String
  | .scalar .null => "NoneType"
  | .scalar (.bool _) => "bool"
  | .scalar (.int _) => "int"
  | .scalar (.float _) => "float"
  | .scalar (.str _) => "str"
  | .scalar (.bytes _) => "bytes"
  | .scalar (.date _) => "date"
  | .scalar (.datetime _ _) => "datetime"
  | .list _ => "list"
  | .dict _ => "dict"
  | .set _ => "set"

/-- `bool(value)`. -/
def truthy : Yaml Node → Bool
  | .scalar .null => false
  | .scalar (.bool value) => value
  | .scalar (.int value) => value ≠ 0
  | .scalar (.float bits) => bits.toNat % 2 ^ 63 ≠ 0
  | .scalar (.str value) => value ≠ []
  | .scalar (.bytes value) => value ≠ []
  | .scalar (.date _) => true
  | .scalar (.datetime _ _) => true
  | .list items => items.isEmpty = false
  | .dict entries => entries.entries.isEmpty = false
  | .set items => items ≠ []

def text? : Yaml Node → Option Str
  | .scalar (.str value) => some value
  | _ => none

end Yaml

/-- The library and the document model. -/
structure YamlHost (Node : Type) where
  /-- `yaml.safe_load`, with the text of a `YAMLError`. -/
  safeLoad : Str → Except Str Node
  view : Node → Yaml Node
  /-- The text of the keys as a sorted list. -/
  sortedText : List YamlScalar → Str
  /-- The message with which `sorted` refuses keys. -/
  unsortedText : List YamlScalar → Str

inductive LoadError
  | policyError (message : Str)
  | typeError (message : Str)
  deriving DecidableEq

/-! ## Checks -/

section Checks

variable {Node : Type}

/-- `_need_int`. -/
def needInt (what : Str) : Yaml Node → Except LoadError Nat
  | .scalar (.int value) => do
      raiseIf (value < 0) (.policyError (what ++ " must be >= 0".toList))
      pure value.toNat
  | other => .error (.policyError
      (what ++ " must be an integer, got ".toList ++ other.typeName.toList))

/-- `_need_positive_int`. -/
def needPositiveInt (what : Str) (value : Yaml Node) : Except LoadError PosInt := do
  let value ← needInt what value
  constrain value (.policyError (what ++ " must be > 0".toList))

/-- `_need_bool`. -/
def needBool (what : Str) : Yaml Node → Except LoadError Bool
  | .scalar (.bool value) => .ok value
  | other => .error (.policyError
      (what ++ " must be a boolean, got ".toList ++ other.typeName.toList))

/-- `_need_str_list`. -/
def needStrList (host : YamlHost Node) (what : Str) (value : Yaml Node) :
    Except LoadError (List Str) :=
  let malformed := LoadError.policyError (what ++ " must be a list of strings".toList)
  match value with
  | .list items => orRaise ((items.map host.view).mapM Yaml.text?) malformed
  | _ => .error malformed

/-- The check of `name`. -/
def needName : Yaml Node → Except LoadError Str
  | .scalar (.str value) => .ok value
  | _ => .error (.policyError "name must be a string".toList)

def unknownKeys (data : Dict YamlScalar Node) (allowed : List String) : List YamlScalar :=
  data.keys.filter fun key => decide (key ∉ allowed.map fun name => YamlScalar.str name.toList)

/-- `_reject_unknown`, which `load_policy` repeats for the keys of the policy itself. -/
def rejectUnknown (host : YamlHost Node) (data : Dict YamlScalar Node) (allowed : List String)
    (what : Str) : Except LoadError Unit := do
  let unknown := unknownKeys data allowed
  raiseIf (¬Sortable unknown) (.typeError (host.unsortedText unknown))
  raiseIf (unknown ≠ []) (.policyError
    ("unknown ".toList ++ what ++ " keys: ".toList ++ host.sortedText unknown))

end Checks

/-! ## The loader -/

/-- A policy with its name and the document it was read from. -/
structure LoadedPolicy (Node : Type) extends Policy where
  name : Str
  raw : Dict YamlScalar Node

/-- `_ALLOWED_KEYS`. -/
def allowedKeys : List String := [
  "name", "per_tx_cap", "window_caps", "velocity", "allowed_assets", "allowlist_recipients",
  "blocklist_recipients", "require_mandate_above", "risk", "kill_switch"]

def windowCapKeys : List String := ["window_s", "cap"]

def velocityKeys : List String := ["max_tx_per_window", "window_s"]

def riskKeys : List String := ["dynamic_tightening", "pool_move_threshold_bps", "max_slippage_bps"]

namespace YamlHost

variable {Node : Type} (host : YamlHost Node)

/-- The value under a key. -/
def entry (data : Dict YamlScalar Node) (name : String) : Option (Yaml Node) :=
  (data.get? (.str name.toList)).map host.view

/-- `data.get(name, default)`. -/
def get (data : Dict YamlScalar Node) (name : String) (default : Yaml Node) : Yaml Node :=
  (host.entry data name).getD default

/-- What `enumerate` goes through. -/
def iterate : Yaml Node → Except LoadError (List (Yaml Node))
  | .list items => .ok (items.map host.view)
  | .dict entries => .ok (entries.keys.map .scalar)
  | .set items => .ok (items.map .scalar)
  | .scalar (.str value) => .ok (value.map fun c => .scalar (.str [c]))
  | .scalar (.bytes value) => .ok (value.map fun byte => .scalar (.int byte.toNat))
  | other => .error (.typeError
      ("'".toList ++ other.typeName.toList ++ "' object is not iterable".toList))

def loadWindowCap (index : Nat) : Yaml Node → Except LoadError WindowCap
  | .dict entries => do
      let what := "window_caps[".toList ++ intText index ++ [']']
      rejectUnknown host entries windowCapKeys what
      let windowS ← needPositiveInt (what ++ ".window_s".toList)
        (host.get entries "window_s" (.scalar (.int 0)))
      let cap ← needInt (what ++ ".cap".toList) (host.get entries "cap" (.scalar (.int 0)))
      pure ⟨windowS, cap⟩
  | _ => .error (.policyError
      ("window_caps[".toList ++ intText index ++ "] must be a mapping".toList))

/-- The loop over the window caps, from `index` on. -/
def loadWindowCapsFrom (index : Nat) : List (Yaml Node) → Except LoadError (List WindowCap)
  | [] => pure []
  | value :: rest => do
      let cap ← host.loadWindowCap index value
      let caps ← loadWindowCapsFrom (index + 1) rest
      pure (cap :: caps)

def loadWindowCaps (data : Dict YamlScalar Node) : Except LoadError (List WindowCap) := do
  let value := host.get data "window_caps" (.list [])
  let values ← host.iterate (if value.truthy then value else .list [])
  host.loadWindowCapsFrom 0 values

/-- `data.get(name, {}) or {}`, which must be a mapping. -/
def mapping (data : Dict YamlScalar Node) (name : String) :
    Except LoadError (Dict YamlScalar Node) :=
  let value := host.get data name (.dict .empty)
  match if value.truthy then value else .dict .empty with
  | .dict entries => .ok entries
  | _ => .error (.policyError (name.toList ++ " must be a mapping".toList))

/-- The transaction limit of a window, and the window. -/
def loadVelocity (data : Dict YamlScalar Node) : Except LoadError (Nat × PosInt) := do
  let velocity ← host.mapping data "velocity"
  rejectUnknown host velocity velocityKeys "velocity".toList
  let maxTx ← needInt "velocity.max_tx_per_window".toList
    (host.get velocity "max_tx_per_window" (.scalar (.int 0)))
  let window ← needPositiveInt "velocity.window_s".toList
    (host.get velocity "window_s" (.scalar (.int 3600)))
  pure (maxTx, window)

def loadRisk (data : Dict YamlScalar Node) : Except LoadError RiskPolicy := do
  let risk ← host.mapping data "risk"
  rejectUnknown host risk riskKeys "risk".toList
  let dynamicTightening ← needBool "risk.dynamic_tightening".toList
    (host.get risk "dynamic_tightening" (.scalar (.bool false)))
  let poolMoveThresholdBps ← needInt "risk.pool_move_threshold_bps".toList
    (host.get risk "pool_move_threshold_bps" (.scalar (.int 100)))
  let maxSlippageBps ← needInt "risk.max_slippage_bps".toList
    (host.get risk "max_slippage_bps" (.scalar (.int 100)))
  pure ⟨dynamicTightening, poolMoveThresholdBps, maxSlippageBps⟩

/-- `_need_str_list` of the value under a key; the lists that stand for a missing one are lists
of strings. -/
def loadTexts (data : Dict YamlScalar Node) (name : String) (default : List Str) :
    Except LoadError (List Str) :=
  match host.entry data name with
  | none => .ok default
  | some value => needStrList host name.toList value

/-- `load_policy` of a mapping. -/
def loadMapping (data : Dict YamlScalar Node) : Except LoadError (LoadedPolicy Node) := do
  rejectUnknown host data allowedKeys "policy".toList
  let name ← needName (host.get data "name" (.scalar (.str "unnamed".toList)))
  let perTxCap ← needInt "per_tx_cap".toList (host.get data "per_tx_cap" (.scalar (.int 0)))
  let windowCaps ← host.loadWindowCaps data
  let velocity ← host.loadVelocity data
  let risk ← host.loadRisk data
  let allowedAssets ← host.loadTexts data "allowed_assets" ["TUSDC".toList]
  let allowlistRecipients ← host.loadTexts data "allowlist_recipients" []
  let blocklistRecipients ← host.loadTexts data "blocklist_recipients" []
  let requireMandateAbove ← needInt "require_mandate_above".toList
    (host.get data "require_mandate_above" (.scalar (.int (2 ^ 63 - 1))))
  let killSwitch ← needBool "kill_switch".toList
    (host.get data "kill_switch" (.scalar (.bool false)))
  pure {
    name := name
    perTxCap := perTxCap
    windowCaps := windowCaps
    maxTxPerWindow := velocity.1
    velocityWindowS := velocity.2
    allowedAssets := allowedAssets
    allowlistRecipients := allowlistRecipients
    blocklistRecipients := blocklistRecipients
    requireMandateAbove := requireMandateAbove
    risk := risk
    killSwitch := killSwitch
    raw := data }

def loadPolicy (text : Str) : Except LoadError (LoadedPolicy Node) :=
  match host.safeLoad text with
  | .error message => .error (.policyError ("invalid YAML: ".toList ++ message))
  | .ok node =>
    match host.view node with
    | .dict data => host.loadMapping data
    | _ => .error (.policyError "policy must be a mapping".toList)

end YamlHost

end AegisLedger.Wallet
