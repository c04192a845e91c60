import AegisLedger.Support.Raises
import AegisLedger.Wallet.PolicyLoader

/-!
# Loading a policy

What a document says is stated apart from the loader (`Describes`).  Each check of the loader
has its weakest precondition: it raises a `PolicyError` or its result is what the value says.
Three things escape: keys that `sorted` cannot order, window caps that cannot be gone through,
and falsy values in the place of a list or a mapping.
-/

namespace AegisLedger.Wallet.PolicyLoading

open AegisLedger.Support HexText Checks Dict
open AegisLedger.Gateway (PosInt)

variable {Node : Type}

/-! ## What a document says -/

/-- A value that is absent stands for a default. -/
def Field {α : Type} (entry : Option (Yaml Node)) (reads : Yaml Node → α → Prop) (default : α)
    (value : α) : Prop :=
  match entry with
  | none => value = default
  | some y => reads y value

def IsText (y : Yaml Node) (text : Str) : Prop := y = .scalar (.str text)

def IsNat (y : Yaml Node) (n : Nat) : Prop := y = .scalar (.int n)

def IsPosInt (y : Yaml Node) (n : PosInt) : Prop := y = .scalar (.int n.val)

def IsBool (y : Yaml Node) (value : Bool) : Prop := y = .scalar (.bool value)

def IsTexts (host : YamlHost Node) (y : Yaml Node) (texts : List Str) : Prop :=
  ∃ items, y = .list items ∧ items.map host.view = texts.map fun text => .scalar (.str text)

def Known (data : Dict YamlScalar Node) (allowed : List String) : Prop :=
  ∀ key ∈ data.keys, ∃ name ∈ allowed, key = .str name.toList

section Mappings

variable (host : YamlHost Node)

structure CapOf (entries : Dict YamlScalar Node) (cap : WindowCap) : Prop where
  known : Known entries windowCapKeys
  windowS : ∃ y, host.entry entries "window_s" = some y ∧ IsPosInt y cap.windowS
  cap : Field (host.entry entries "cap") IsNat 0 cap.cap

/-- A mapping that says what `of` asks. -/
def IsMapping {α : Type} (of : Dict YamlScalar Node → α → Prop) (y : Yaml Node) (value : α) :
    Prop :=
  ∃ entries, y = .dict entries ∧ of entries value

def IsCaps (y : Yaml Node) (caps : List WindowCap) : Prop :=
  ∃ items, y = .list items ∧ List.Forall₂ (IsMapping (CapOf host)) (items.map host.view) caps

structure VelocityOf (entries : Dict YamlScalar Node) (velocity : Nat × PosInt) : Prop where
  known : Known entries velocityKeys
  maxTx : Field (host.entry entries "max_tx_per_window") IsNat 0 velocity.1
  windowS : Field (host.entry entries "window_s") IsPosInt 3600 velocity.2

structure RiskOf (entries : Dict YamlScalar Node) (risk : RiskPolicy) : Prop where
  known : Known entries riskKeys
  dynamicTightening : Field (host.entry entries "dynamic_tightening") IsBool false
    risk.dynamicTightening
  poolMoveThresholdBps : Field (host.entry entries "pool_move_threshold_bps") IsNat 100
    risk.poolMoveThresholdBps
  maxSlippageBps : Field (host.entry entries "max_slippage_bps") IsNat 100 risk.maxSlippageBps

/-- The policy of a mapping: every key is known, every value that is present has its type and
range and is that of the policy, and the others have their defaults. -/
structure Describes (data : Dict YamlScalar Node) (policy : LoadedPolicy Node) : Prop where
  known : Known data allowedKeys
  name : Field (host.entry data "name") IsText "unnamed".toList policy.name
  perTxCap : Field (host.entry data "per_tx_cap") IsNat 0 policy.perTxCap
  windowCaps : Field (host.entry data "window_caps") (IsCaps host) [] policy.windowCaps
  velocity : Field (host.entry data "velocity") (IsMapping (VelocityOf host)) (0, 3600)
    (policy.maxTxPerWindow, policy.velocityWindowS)
  allowedAssets : Field (host.entry data "allowed_assets") (IsTexts host) ["TUSDC".toList]
    policy.allowedAssets
  allowlistRecipients : Field (host.entry data "allowlist_recipients") (IsTexts host) []
    policy.allowlistRecipients
  blocklistRecipients : Field (host.entry data "blocklist_recipients") (IsTexts host) []
    policy.blocklistRecipients
  requireMandateAbove : Field (host.entry data "require_mandate_above") IsNat (2 ^ 63 - 1)
    policy.requireMandateAbove
  risk : Field (host.entry data "risk") (IsMapping (RiskOf host)) ⟨false, 100, 100⟩ policy.risk
  killSwitch : Field (host.entry data "kill_switch") IsBool false policy.killSwitch
  raw : policy.raw = data

end Mappings

/-! ## The checks -/

def IsPolicyError (error : LoadError) : Prop := ∃ message, error = .policyError message

/-- The check raises a `PolicyError` or returns what the value says. -/
def Reads {α : Type} (check : Yaml Node → Except LoadError α) (reads : Yaml Node → α → Prop) :
    Prop :=
  ∀ y post, Ends IsPolicyError (check y) post ↔ ∀ a, reads y a → post a

theorem ends_policyError {α : Type} {message : Str} {post : α → Prop} :
    Ends IsPolicyError (.error (.policyError message)) post ↔ True :=
  iff_true_intro ⟨message, rfl⟩

theorem ends_constrain {α : Type} {q : α → Prop} [DecidablePred q] {value : α} {message : Str}
    {post : {a : α // q a} → Prop} :
    Ends IsPolicyError (constrain value (.policyError message)) post ↔
      ∀ a : {a : α // q a}, a.val = value → post a :=
  Ends.constrain_iff ⟨message, rfl⟩

theorem ends_orRaise {α : Type} {value : Option α} {message : Str} {post : α → Prop} :
    Ends IsPolicyError (orRaise value (.policyError message)) post ↔
      ∀ a, value = some a → post a :=
  Ends.orRaise_iff ⟨message, rfl⟩

theorem reads_needInt (what : Str) :
    Reads (needInt what : Yaml Node → Except LoadError Nat) IsNat := by
  intro y post
  unfold needInt IsNat
  split
  · rename_i value
    rw [Ends.bind_iff, Ends.raiseIf_iff]
    simp only [Yaml.scalar.injEq, YamlScalar.int.injEq]
    constructor
    · rintro ⟨-, h⟩ n rfl
      exact h (by omega)
    · intro h
      refine ⟨fun _ => ⟨_, rfl⟩, fun hnonneg => ?_⟩
      exact h value.toNat (by omega)
  · rename_i hother
    rw [ends_policyError, true_iff]
    rintro n rfl
    exact absurd rfl (hother n)

theorem reads_needPositiveInt (what : Str) :
    Reads (needPositiveInt what : Yaml Node → Except LoadError PosInt) IsPosInt := by
  intro y post
  unfold needPositiveInt
  rw [Ends.bind_iff, reads_needInt what y]
  simp only [ends_constrain]
  constructor
  · intro h n hn
    exact h n.val hn n rfl
  · rintro h _ hn n rfl
    exact h n hn

theorem reads_needBool (what : Str) :
    Reads (needBool what : Yaml Node → Except LoadError Bool) IsBool := by
  intro y post
  unfold needBool IsBool
  split
  · rename_i value
    simp only [Yaml.scalar.injEq, YamlScalar.bool.injEq, forall_eq']
    exact Iff.rfl
  · rename_i hother
    rw [ends_policyError, true_iff]
    rintro value rfl
    exact absurd rfl (hother value)

theorem reads_needName : Reads (needName : Yaml Node → Except LoadError Str) IsText := by
  intro y post
  unfold needName IsText
  split
  · rename_i value
    simp only [Yaml.scalar.injEq, YamlScalar.str.injEq, forall_eq']
    exact Iff.rfl
  · rename_i hother
    rw [ends_policyError, true_iff]
    rintro value rfl
    exact absurd rfl (hother value)

theorem text?_eq_some {y : Yaml Node} {text : Str} :
    y.text? = some text ↔ y = .scalar (.str text) := by
  unfold Yaml.text?
  split
  · simp
  · rename_i hother
    refine ⟨nofun, ?_⟩
    rintro rfl
    exact absurd rfl (hother text)

theorem mapM_text? {values : List (Yaml Node)} {texts : List Str} :
    values.mapM Yaml.text? = some texts ↔
      values = texts.map fun text => .scalar (.str text) := by
  induction values generalizing texts with
  | nil => cases texts <;> simp
  | cons y values ih =>
    rw [List.mapM_cons]
    cases texts with
    | nil => simp [Option.bind_eq_some_iff]
    | cons text texts => simp [Option.bind_eq_some_iff, text?_eq_some, ih]

theorem reads_needStrList (host : YamlHost Node) (what : Str) :
    Reads (needStrList host what) (IsTexts host) := by
  intro y post
  unfold needStrList IsTexts
  dsimp only
  split
  · rename_i items
    simp only [ends_orRaise, mapM_text?, Yaml.list.injEq, exists_eq_left']
  · rename_i hother
    rw [ends_policyError, true_iff]
    rintro texts ⟨items, rfl, -⟩
    exact absurd rfl (hother items)

/-! ## Entries -/

section Entries

variable {host : YamlHost Node} {data : Dict YamlScalar Node} {name : String} {α : Type}
  {check : Yaml Node → Except LoadError α} {reads : Yaml Node → α → Prop}

/-- A check of a value that may be absent. -/
theorem ends_get {default : Yaml Node} {value : α} (hcheck : Reads check reads)
    (hdefault : ∀ a, reads default a ↔ a = value) {post : α → Prop} :
    Ends IsPolicyError (check (host.get data name default)) post ↔
      ∀ a, Field (host.entry data name) reads value a → post a := by
  rw [hcheck, YamlHost.get]
  cases host.entry data name with
  | none => simp only [Option.getD_none, hdefault, Field]
  | some y => exact Iff.rfl

/-- A check of a value that must be there: the default does not pass. -/
theorem ends_get_required {default : Yaml Node} (hcheck : Reads check reads)
    (hdefault : ∀ a, ¬reads default a) {post : α → Prop} :
    Ends IsPolicyError (check (host.get data name default)) post ↔
      ∀ a, (∃ y, host.entry data name = some y ∧ reads y a) → post a := by
  rw [hcheck, YamlHost.get]
  cases host.entry data name with
  | none => simp [hdefault]
  | some y => simp

theorem ends_loadTexts {texts : List Str} {post : List Str → Prop} :
    Ends IsPolicyError (host.loadTexts data name texts) post ↔
      ∀ found, Field (host.entry data name) (IsTexts host) texts found → post found := by
  unfold YamlHost.loadTexts
  cases host.entry data name with
  | none => simp [Field, Ends]
  | some y => exact reads_needStrList host name.toList y post

variable {what : Str} {post : α → Prop}

theorem ends_needInt (z : Int) (n : Nat) (hz : z = n) {post : Nat → Prop} :
    Ends IsPolicyError (needInt what (host.get data name (.scalar (.int z)))) post ↔
      ∀ a, Field (host.entry data name) IsNat n a → post a := by
  refine ends_get (reads_needInt what) fun a => ?_
  simp only [IsNat, Yaml.scalar.injEq, YamlScalar.int.injEq]
  omega

theorem ends_needPositiveInt (z : Int) (n : PosInt) (hz : z = n.val) {post : PosInt → Prop} :
    Ends IsPolicyError (needPositiveInt what (host.get data name (.scalar (.int z)))) post ↔
      ∀ a, Field (host.entry data name) IsPosInt n a → post a := by
  refine ends_get (reads_needPositiveInt what) fun a => ?_
  simp only [IsPosInt, Yaml.scalar.injEq, YamlScalar.int.injEq, Subtype.ext_iff]
  omega

theorem ends_needBool {value : Bool} {post : Bool → Prop} :
    Ends IsPolicyError (needBool what (host.get data name (.scalar (.bool value)))) post ↔
      ∀ a, Field (host.entry data name) IsBool value a → post a := by
  refine ends_get (reads_needBool what) fun a => ?_
  simp only [IsBool, Yaml.scalar.injEq, YamlScalar.bool.injEq]
  exact eq_comm

theorem ends_needName {text : Str} {post : Str → Prop} :
    Ends IsPolicyError (needName (host.get data name (.scalar (.str text)))) post ↔
      ∀ a, Field (host.entry data name) IsText text a → post a := by
  refine ends_get reads_needName fun a => ?_
  simp only [IsText, Yaml.scalar.injEq, YamlScalar.str.injEq]
  exact eq_comm

theorem unknownKeys_eq_nil {allowed : List String} :
    unknownKeys data allowed = [] ↔ Known data allowed := by
  unfold unknownKeys Known
  simp only [List.filter_eq_nil_iff, decide_eq_true_eq, not_not, List.mem_map]
  constructor
  · intro h key hkey
    obtain ⟨name, hname, hsame⟩ := h key hkey
    exact ⟨name, hname, hsame.symm⟩
  · intro h key hkey
    obtain ⟨name, hname, hsame⟩ := h key hkey
    exact ⟨name, hname, hsame.symm⟩

theorem ends_rejectUnknown {allowed : List String} {what : Str} {post : Unit → Prop} :
    Ends IsPolicyError (rejectUnknown host data allowed what) post ↔
      Sortable (unknownKeys data allowed) ∧ (Known data allowed → post ()) := by
  unfold rejectUnknown
  rw [Ends.bind_iff, Ends.raiseIf_iff, Ends.raiseIf_iff, not_not, not_ne_iff, unknownKeys_eq_nil]
  constructor
  · rintro ⟨hsortable, h⟩
    have hsorted : Sortable (unknownKeys data allowed) := by
      by_contra hunsorted
      obtain ⟨message, hmessage⟩ := hsortable hunsorted
      cases hmessage
    exact ⟨hsorted, (h hsorted).2⟩
  · rintro ⟨hsorted, h⟩
    exact ⟨fun hunsorted => absurd hsorted hunsorted, fun _ => ⟨fun _ => ⟨_, rfl⟩, h⟩⟩

end Entries

/-! ## Window caps, velocity and risk -/

/-- The keys of a mapping that are not known can be put in order. -/
def KeysSortable (allowed : List String) (y : Yaml Node) : Prop :=
  ∀ entries, y = .dict entries → Sortable (unknownKeys entries allowed)

/-- What the loader takes a value for: a falsy one stands for the default as well. -/
def Tolerated {α : Type} (reads : Yaml Node → α → Prop) (default : α) (y : Yaml Node)
    (value : α) : Prop :=
  reads y value ∨ y.truthy = false ∧ value = default

theorem tolerated_of_truthy {α : Type} {reads : Yaml Node → α → Prop} {default : α} {y : Yaml Node}
    (hy : y.truthy = true) (a : α) : Tolerated reads default y a ↔ reads y a := by
  simp [Tolerated, hy]

theorem tolerated_of_falsy {α : Type} {reads : Yaml Node → α → Prop} {default : α} {y : Yaml Node}
    (hy : y.truthy = false) (hreads : ∀ a, reads y a → a = default) (a : α) :
    Tolerated reads default y a ↔ a = default :=
  ⟨fun h => h.elim (hreads a) And.right, fun h => .inr ⟨hy, h⟩⟩

def Iterable : Yaml Node → Prop
  | .scalar (.str _) => True
  | .scalar (.bytes _) => True
  | .scalar _ => False
  | .list _ => True
  | .dict _ => True
  | .set _ => True

section Parts

variable (host : YamlHost Node)

/-- The keys of every mapping up to the first one that is no window cap can be put in order. -/
def CapsSortable : List (Yaml Node) → Prop
  | [] => True
  | y :: rest =>
    KeysSortable windowCapKeys y ∧ ((∃ cap, IsMapping (CapOf host) y cap) → CapsSortable rest)

/-- The window caps can be gone through. -/
def CapsClosed (data : Dict YamlScalar Node) : Prop :=
  ∀ y, host.entry data "window_caps" = some y → y.truthy = true →
    Iterable y ∧ ∀ items, y = .list items → CapsSortable host (items.map host.view)

variable {host} {data : Dict YamlScalar Node}

theorem not_isPosInt_zero (n : PosInt) : ¬IsPosInt (.scalar (.int 0) : Yaml Node) n := by
  intro h
  have hzero := YamlScalar.int.inj (Yaml.scalar.inj h)
  have hpos := n.property
  omega

theorem ends_loadWindowCap {index : Nat} {y : Yaml Node} {post : WindowCap → Prop} :
    Ends IsPolicyError (host.loadWindowCap index y) post ↔
      KeysSortable windowCapKeys y ∧ ∀ cap, IsMapping (CapOf host) y cap → post cap := by
  unfold YamlHost.loadWindowCap
  split
  · rename_i entries
    simp only [Ends.bind_iff, Ends.pure_iff, ends_rejectUnknown, ends_needInt 0 0 rfl,
      ends_get_required (reads_needPositiveInt _) not_isPosInt_zero, KeysSortable,
      Yaml.dict.injEq, forall_eq']
    refine and_congr_right fun _ => ⟨?_, ?_⟩
    · rintro h cap ⟨_, hsame, hcap⟩
      obtain rfl := Yaml.dict.inj hsame
      exact h hcap.known cap.windowS hcap.windowS cap.cap hcap.cap
    · intro h hknown windowS hwindow cap hcap
      exact h ⟨windowS, cap⟩ ⟨entries, rfl, hknown, hwindow, hcap⟩
  · rename_i hother
    rw [ends_policyError, true_iff]
    refine ⟨fun entries hentries => absurd hentries (hother entries), ?_⟩
    rintro cap ⟨entries, rfl, -⟩
    exact absurd rfl (hother entries)

theorem ends_loadWindowCapsFrom {index : Nat} {values : List (Yaml Node)}
    {post : List WindowCap → Prop} :
    Ends IsPolicyError (host.loadWindowCapsFrom index values) post ↔
      CapsSortable host values ∧
        ∀ caps, List.Forall₂ (IsMapping (CapOf host)) values caps → post caps := by
  induction values generalizing index post with
  | nil => simp [YamlHost.loadWindowCapsFrom, Ends.pure_iff, CapsSortable]
  | cons y rest ih =>
    simp only [YamlHost.loadWindowCapsFrom, Ends.bind_iff, Ends.pure_iff, ends_loadWindowCap,
      ih, CapsSortable, and_assoc]
    refine and_congr_right fun _ => ⟨?_, ?_⟩
    · intro h
      refine ⟨fun ⟨cap, hcap⟩ => (h cap hcap).1, ?_⟩
      rintro _ (_ | ⟨hcap, hcaps⟩)
      exact (h _ hcap).2 _ hcaps
    · rintro ⟨hsortable, h⟩ cap hcap
      exact ⟨hsortable ⟨cap, hcap⟩, fun caps hcaps => h _ (.cons hcap hcaps)⟩

/-- No scalar is a window cap. -/
theorem ends_scalars {index : Nat} {values : List YamlScalar} (hvalues : values ≠ [])
    {post : List WindowCap → Prop} :
    Ends IsPolicyError (host.loadWindowCapsFrom index (values.map .scalar)) post := by
  obtain ⟨first, rest, rfl⟩ := List.exists_cons_of_ne_nil hvalues
  refine ends_loadWindowCapsFrom.mpr ⟨⟨nofun, ?_⟩, ?_⟩
  · rintro ⟨cap, entries, hentries, -⟩
    cases hentries
  · rintro _ (_ | ⟨⟨entries, hentries, -⟩, -⟩)
    cases hentries

theorem ends_iterate_scalars {y : Yaml Node} (values : List YamlScalar)
    (hiterate : host.iterate y = .ok (values.map .scalar)) (hvalues : values ≠ [])
    (hiterable : Iterable y) (hlist : ∀ items, y ≠ .list items)
    {post : List WindowCap → Prop} :
    Ends IsPolicyError (host.iterate y >>= host.loadWindowCapsFrom 0) post ↔
      (Iterable y ∧ ∀ items, y = .list items → CapsSortable host (items.map host.view)) ∧
        ∀ caps, IsCaps host y caps → post caps := by
  rw [hiterate, ok_bind]
  refine iff_of_true (ends_scalars hvalues) ⟨⟨hiterable, ?_⟩, ?_⟩
  · exact fun items hitems => absurd hitems (hlist items)
  · rintro caps ⟨items, hitems, -⟩
    exact absurd hitems (hlist items)

theorem ends_iterate {y : Yaml Node} (htruthy : y.truthy = true) {post : List WindowCap → Prop} :
    Ends IsPolicyError (host.iterate y >>= host.loadWindowCapsFrom 0) post ↔
      (Iterable y ∧ ∀ items, y = .list items → CapsSortable host (items.map host.view)) ∧
        ∀ caps, IsCaps host y caps → post caps := by
  cases y with
  | list items =>
    rw [YamlHost.iterate, ok_bind, ends_loadWindowCapsFrom]
    simp [Iterable, IsCaps]
  | dict entries =>
    refine ends_iterate_scalars entries.keys rfl ?_ (by trivial) (by simp)
    simpa [Yaml.truthy, Dict.keys] using htruthy
  | set items =>
    refine ends_iterate_scalars items rfl ?_ (by trivial) (by simp)
    simpa [Yaml.truthy] using htruthy
  | scalar value =>
    cases value with
    | str text =>
      refine ends_iterate_scalars (text.map fun c => .str [c]) ?_ ?_ (by trivial) (by simp)
      · simp [YamlHost.iterate]
      · simpa [Yaml.truthy] using htruthy
    | bytes bytes =>
      refine ends_iterate_scalars (bytes.map fun byte => .int byte.toNat) ?_ ?_ (by trivial) (by simp)
      · simp [YamlHost.iterate]
      · simpa [Yaml.truthy] using htruthy
    | _ =>
      refine iff_of_false ?_ fun h => h.1.1
      rintro ⟨message, hmessage⟩
      cases hmessage

theorem eq_nil_of_isCaps {y : Yaml Node} (hy : y.truthy = false) (caps : List WindowCap)
    (h : IsCaps host y caps) : caps = [] := by
  obtain ⟨items, rfl, hcaps⟩ := h
  obtain rfl : items = [] := by simpa [Yaml.truthy] using hy
  cases hcaps
  rfl

theorem ends_loadWindowCaps {post : List WindowCap → Prop} :
    Ends IsPolicyError (host.loadWindowCaps data) post ↔
      CapsClosed host data ∧
        ∀ caps, Field (host.entry data "window_caps") (Tolerated (IsCaps host) []) [] caps →
          post caps := by
  have hempty : Ends IsPolicyError (host.iterate (.list []) >>= host.loadWindowCapsFrom 0) post ↔
      post [] := Iff.rfl
  unfold YamlHost.loadWindowCaps CapsClosed YamlHost.get
  cases host.entry data "window_caps" with
  | none => simp [Yaml.truthy, hempty, Field]
  | some y =>
    cases htruthy : y.truthy with
    | true => simp [ends_iterate htruthy, Field, tolerated_of_truthy htruthy, htruthy]
    | false => simp [htruthy, hempty, Field, tolerated_of_falsy htruthy (eq_nil_of_isCaps htruthy)]

theorem eq_empty_of_falsy {entries : Dict YamlScalar Node}
    (h : (Yaml.dict entries).truthy = false) : entries = .empty := by
  obtain ⟨list, hnodup⟩ := entries
  obtain rfl : list = [] := by simpa [Yaml.truthy] using h
  rfl

theorem sortable_empty (allowed : List String) :
    Sortable (unknownKeys (.empty : Dict YamlScalar Node) allowed) :=
  fun _ hfirst => absurd hfirst List.not_mem_nil

/-- A part of the policy that is a mapping, whose loader is `load`. -/
theorem ends_mapping {α : Type} {name : String} {allowed : List String}
    {of : Dict YamlScalar Node → α → Prop} {default : α}
    {load : Dict YamlScalar Node → Except LoadError α} {post : α → Prop}
    (hload : ∀ entries, Ends IsPolicyError (load entries) post ↔
      Sortable (unknownKeys entries allowed) ∧ ∀ a, of entries a → post a)
    (hempty : ∀ a, of .empty a ↔ a = default) :
    Ends IsPolicyError (host.mapping data name >>= load) post ↔
      (∀ y, host.entry data name = some y → KeysSortable allowed y) ∧
        ∀ a, Field (host.entry data name) (Tolerated (IsMapping of) default) default a →
          post a := by
  have hnone : Ends IsPolicyError (load .empty) post ↔ post default := by
    simp only [hload, hempty, sortable_empty, true_and, forall_eq]
  unfold YamlHost.mapping YamlHost.get
  cases host.entry data name with
  | none => exact hnone.trans (by simp [Field])
  | some y =>
    simp only [Option.getD_some, Option.some.injEq, forall_eq', Field]
    cases htruthy : y.truthy with
    | false =>
      have hsortable : KeysSortable allowed y := by
        rintro entries rfl
        exact eq_empty_of_falsy htruthy ▸ sortable_empty allowed
      have hreads : ∀ a, IsMapping of y a → a = default := by
        rintro a ⟨entries, rfl, ha⟩
        exact (hempty a).mp (eq_empty_of_falsy htruthy ▸ ha)
      simp only [tolerated_of_falsy htruthy hreads, hsortable, true_and, forall_eq]
      exact hnone
    | true =>
      simp only [tolerated_of_truthy htruthy, if_true]
      cases y with
      | dict entries => exact (hload entries).trans (by simp [KeysSortable, IsMapping])
      | _ =>
        refine iff_of_true ⟨_, rfl⟩ ⟨nofun, ?_⟩
        rintro a ⟨entries, hentries, -⟩
        cases hentries

theorem known_empty (allowed : List String) :
    Known (.empty : Dict YamlScalar Node) allowed :=
  fun _ hkey => absurd hkey List.not_mem_nil

theorem ends_loadVelocity {post : Nat × PosInt → Prop} :
    Ends IsPolicyError (host.loadVelocity data) post ↔
      (∀ y, host.entry data "velocity" = some y → KeysSortable velocityKeys y) ∧
        ∀ velocity, Field (host.entry data "velocity")
          (Tolerated (IsMapping (VelocityOf host)) (0, 3600)) (0, 3600) velocity →
            post velocity := by
  refine ends_mapping (fun entries => ?_) fun velocity => ?_
  · simp only [Ends.bind_iff, Ends.pure_iff, ends_rejectUnknown, ends_needInt 0 0 rfl,
      ends_needPositiveInt 3600 3600 rfl]
    refine and_congr_right fun _ => ⟨?_, ?_⟩
    · intro h velocity hvelocity
      exact h hvelocity.known velocity.1 hvelocity.maxTx velocity.2 hvelocity.windowS
    · intro h hknown maxTx hmaxTx windowS hwindowS
      exact h (maxTx, windowS) ⟨hknown, hmaxTx, hwindowS⟩
  · constructor
    · intro h
      exact Prod.ext h.maxTx h.windowS
    · rintro rfl
      exact ⟨known_empty _, rfl, rfl⟩

theorem ends_loadRisk {post : RiskPolicy → Prop} :
    Ends IsPolicyError (host.loadRisk data) post ↔
      (∀ y, host.entry data "risk" = some y → KeysSortable riskKeys y) ∧
        ∀ risk, Field (host.entry data "risk")
          (Tolerated (IsMapping (RiskOf host)) ⟨false, 100, 100⟩) ⟨false, 100, 100⟩ risk →
            post risk := by
  refine ends_mapping (fun entries => ?_) fun risk => ?_
  · simp only [Ends.bind_iff, Ends.pure_iff, ends_rejectUnknown, ends_needInt 100 100 rfl,
      ends_needBool]
    refine and_congr_right fun _ => ⟨?_, ?_⟩
    · intro h risk hrisk
      exact h hrisk.known risk.dynamicTightening hrisk.dynamicTightening risk.poolMoveThresholdBps
        hrisk.poolMoveThresholdBps risk.maxSlippageBps hrisk.maxSlippageBps
    · intro h hknown dynamic hdynamic move hmove slippage hslippage
      exact h ⟨dynamic, move, slippage⟩ ⟨hknown, hdynamic, hmove, hslippage⟩
  · constructor
    · intro h
      obtain ⟨dynamic, move, slippage⟩ := risk
      obtain rfl : dynamic = false := h.dynamicTightening
      obtain rfl : move = 100 := h.poolMoveThresholdBps
      obtain rfl : slippage = 100 := h.maxSlippageBps
      rfl
    · rintro rfl
      exact ⟨known_empty _, rfl, rfl, rfl⟩

end Parts

/-! ## Documents -/

section Documents

variable (host : YamlHost Node)

/-- The loader raises a `PolicyError`, or returns the policy that the document describes. -/
def LoadsClosed (text : Str) : Prop :=
  (∃ message, host.loadPolicy text = .error (.policyError message)) ∨
    ∃ node data policy, host.safeLoad text = .ok node ∧ host.view node = .dict data ∧
      host.loadPolicy text = .ok policy ∧ Describes host data policy

/-- The loader gets as far as the window caps. -/
structure ReachesCaps (data : Dict YamlScalar Node) : Prop where
  known : Known data allowedKeys
  name : ∃ name, Field (host.entry data "name") IsText "unnamed".toList name
  perTxCap : ∃ cap, Field (host.entry data "per_tx_cap") IsNat 0 cap

structure ReachesVelocity (data : Dict YamlScalar Node) : Prop extends ReachesCaps host data where
  windowCaps : ∃ caps,
    Field (host.entry data "window_caps") (Tolerated (IsCaps host) []) [] caps

structure ReachesRisk (data : Dict YamlScalar Node) : Prop extends ReachesVelocity host data where
  velocity : ∃ velocity, Field (host.entry data "velocity")
    (Tolerated (IsMapping (VelocityOf host)) (0, 3600)) (0, 3600) velocity

/-- Every check of the loader passes. -/
structure Passes (data : Dict YamlScalar Node) : Prop extends ReachesRisk host data where
  risk : ∃ risk, Field (host.entry data "risk")
    (Tolerated (IsMapping (RiskOf host)) ⟨false, 100, 100⟩) ⟨false, 100, 100⟩ risk
  allowedAssets : ∃ texts,
    Field (host.entry data "allowed_assets") (IsTexts host) ["TUSDC".toList] texts
  allowlistRecipients : ∃ texts,
    Field (host.entry data "allowlist_recipients") (IsTexts host) [] texts
  blocklistRecipients : ∃ texts,
    Field (host.entry data "blocklist_recipients") (IsTexts host) [] texts
  requireMandateAbove : ∃ amount,
    Field (host.entry data "require_mandate_above") IsNat (2 ^ 63 - 1) amount
  killSwitch : ∃ value, Field (host.entry data "kill_switch") IsBool false value

/-- The mappings whose unknown keys the loader puts in order have keys it can order, the window
caps it goes through can be gone through, and no falsy value is taken for a list or a
mapping. -/
structure FailClosed (data : Dict YamlScalar Node) : Prop where
  keys : Sortable (unknownKeys data allowedKeys)
  windowCaps : ReachesCaps host data → CapsClosed host data
  velocity : ReachesVelocity host data →
    ∀ y, host.entry data "velocity" = some y → KeysSortable velocityKeys y
  risk : ReachesRisk host data →
    ∀ y, host.entry data "risk" = some y → KeysSortable riskKeys y
  listed : Passes host data → ∀ y, host.entry data "window_caps" = some y → ∃ items, y = .list items
  mapped : Passes host data → ∀ name ∈ ["velocity", "risk"], ∀ y,
    host.entry data name = some y → ∃ entries, y = .dict entries

variable {host} {data : Dict YamlScalar Node}

theorem field_of_tolerated {α : Type} {entry : Option (Yaml Node)} {reads : Yaml Node → α → Prop}
    {default value : α} (h : Field entry (Tolerated reads default) default value)
    (hfalsy : ∀ y, entry = some y → y.truthy = false → reads y default) :
    Field entry reads default value := by
  cases entry with
  | none => exact h
  | some y =>
    rcases h with h | ⟨hy, rfl⟩
    · exact h
    · exact hfalsy y rfl hy

theorem isMapping_of_falsy {α : Type} {of : Dict YamlScalar Node → α → Prop} {default : α}
    (hempty : of .empty default) {y : Yaml Node} (hmapped : ∃ entries, y = .dict entries)
    (hy : y.truthy = false) : IsMapping of y default := by
  obtain ⟨entries, rfl⟩ := hmapped
  obtain rfl := eq_empty_of_falsy hy
  exact ⟨.empty, rfl, hempty⟩

theorem ends_loadMapping :
    Ends IsPolicyError (host.loadMapping data) (Describes host data) ↔ FailClosed host data := by
  simp only [YamlHost.loadMapping, Ends.bind_iff, Ends.pure_iff, ends_rejectUnknown, ends_needName,
    ends_needInt 0 0 rfl, ends_loadWindowCaps, ends_loadVelocity, ends_loadRisk, ends_loadTexts,
    ends_needInt (2 ^ 63 - 1) (2 ^ 63 - 1) rfl, ends_needBool]
  constructor
  · rintro ⟨hkeys, h⟩
    have hcaps : ReachesCaps host data → CapsClosed host data := by
      rintro ⟨hknown, ⟨name, hname⟩, perTxCap, hperTxCap⟩
      exact (h hknown name hname perTxCap hperTxCap).1
    have hvelocity : ReachesVelocity host data →
        ∀ y, host.entry data "velocity" = some y → KeysSortable velocityKeys y := by
      rintro ⟨⟨hknown, ⟨name, hname⟩, perTxCap, hperTxCap⟩, caps, hcaps⟩
      exact ((h hknown name hname perTxCap hperTxCap).2 caps hcaps).1
    have hrisk : ReachesRisk host data →
        ∀ y, host.entry data "risk" = some y → KeysSortable riskKeys y := by
      rintro ⟨⟨⟨hknown, ⟨name, hname⟩, perTxCap, hperTxCap⟩, caps, hcaps⟩, velocity, hvelocity⟩
      exact (((h hknown name hname perTxCap hperTxCap).2 caps hcaps).2 velocity hvelocity).1
    have hdescribes : Passes host data → ∃ policy, Describes host data policy := by
      rintro ⟨⟨⟨⟨hknown, ⟨name, hname⟩, perTxCap, hperTxCap⟩, caps, hcaps⟩, velocity, hvelocity⟩,
        ⟨risk, hrisk⟩, ⟨assets, hassets⟩, ⟨allowed, hallowed⟩, ⟨blocked, hblocked⟩,
        ⟨amount, hamount⟩, value, hvalue⟩
      exact ⟨_, (((h hknown name hname perTxCap hperTxCap).2 caps hcaps).2 velocity hvelocity).2
        risk hrisk assets hassets allowed hallowed blocked hblocked amount hamount value hvalue⟩
    refine ⟨hkeys, hcaps, hvelocity, hrisk, ?_, ?_⟩
    · intro hpasses y hy
      obtain ⟨policy, hpolicy⟩ := hdescribes hpasses
      have hcaps := hpolicy.windowCaps
      rw [hy] at hcaps
      obtain ⟨items, hitems, -⟩ := hcaps
      exact ⟨items, hitems⟩
    · intro hpasses name hname y hy
      obtain ⟨policy, hpolicy⟩ := hdescribes hpasses
      simp only [List.mem_cons, List.not_mem_nil, or_false] at hname
      rcases hname with rfl | rfl
      · have hvelocity := hpolicy.velocity
        rw [hy] at hvelocity
        obtain ⟨entries, hentries, -⟩ := hvelocity
        exact ⟨entries, hentries⟩
      · have hrisk := hpolicy.risk
        rw [hy] at hrisk
        obtain ⟨entries, hentries, -⟩ := hrisk
        exact ⟨entries, hentries⟩
  · intro hclosed
    refine ⟨hclosed.keys, fun hknown name hname perTxCap hperTxCap => ?_⟩
    have hreaches : ReachesCaps host data := ⟨hknown, ⟨name, hname⟩, perTxCap, hperTxCap⟩
    refine ⟨hclosed.windowCaps hreaches, fun caps hcaps => ?_⟩
    have hreaches : ReachesVelocity host data := ⟨hreaches, caps, hcaps⟩
    refine ⟨hclosed.velocity hreaches, fun velocity hvelocity => ?_⟩
    have hreaches : ReachesRisk host data := ⟨hreaches, velocity, hvelocity⟩
    refine ⟨hclosed.risk hreaches, ?_⟩
    intro risk hrisk assets hassets allowed hallowed blocked hblocked amount hamount value hvalue
    have hpasses : Passes host data := ⟨hreaches, ⟨risk, hrisk⟩, ⟨assets, hassets⟩,
      ⟨allowed, hallowed⟩, ⟨blocked, hblocked⟩, ⟨amount, hamount⟩, value, hvalue⟩
    have hlisted : Field (host.entry data "window_caps") (IsCaps host) [] caps := by
      refine field_of_tolerated hcaps fun y hy hfalsy => ?_
      obtain ⟨items, rfl⟩ := hclosed.listed hpasses y hy
      obtain rfl : items = [] := by simpa [Yaml.truthy] using hfalsy
      exact ⟨[], rfl, .nil⟩
    exact {
      known := hknown
      name := hname
      perTxCap := hperTxCap
      windowCaps := hlisted
      velocity := field_of_tolerated hvelocity fun y hy =>
        isMapping_of_falsy ⟨known_empty _, rfl, rfl⟩ (hclosed.mapped hpasses _ (by simp) y hy)
      allowedAssets := hassets
      allowlistRecipients := hallowed
      blocklistRecipients := hblocked
      requireMandateAbove := hamount
      risk := field_of_tolerated hrisk fun y hy =>
        isMapping_of_falsy ⟨known_empty _, rfl, rfl, rfl⟩
          (hclosed.mapped hpasses _ (by simp) y hy)
      killSwitch := hvalue
      raw := rfl }

variable {text : Str} {node : Node}

theorem loadsClosed_iff_of_dict (hload : host.safeLoad text = .ok node)
    (hview : host.view node = .dict data) : LoadsClosed host text ↔ FailClosed host data := by
  have hpolicy : host.loadPolicy text = host.loadMapping data := by
    simp only [YamlHost.loadPolicy, hload, hview]
  rw [← ends_loadMapping, Ends.iff_cases, ← hpolicy]
  constructor
  · rintro (⟨message, hmessage⟩ | ⟨_, _, policy, hnode, hdata, hloaded, hdescribes⟩)
    · exact .inl ⟨_, hmessage, message, rfl⟩
    · obtain rfl := Except.ok.inj (hload.symm.trans hnode)
      obtain rfl := Yaml.dict.inj (hview.symm.trans hdata)
      exact .inr ⟨policy, hloaded, hdescribes⟩
  · rintro (⟨_, hmessage, message, rfl⟩ | ⟨policy, hloaded, hdescribes⟩)
    · exact .inl ⟨message, hmessage⟩
    · exact .inr ⟨node, data, policy, hload, hview, hloaded, hdescribes⟩

theorem loadsClosed_of_not_dict
    (h : ∀ node data, host.safeLoad text = .ok node → host.view node ≠ .dict data) :
    LoadsClosed host text := by
  left
  unfold YamlHost.loadPolicy
  split
  · exact ⟨_, rfl⟩
  · rename_i node hload
    split
    · rename_i data hview
      exact absurd hview (h node data hload)
    · exact ⟨_, rfl⟩

variable (host text) in
/-- Loading is fail-closed for exactly the documents that are no mapping or pass `FailClosed`. -/
theorem loadPolicy_failClosed_iff :
    LoadsClosed host text ↔
      ∀ node data, host.safeLoad text = .ok node → host.view node = .dict data →
        FailClosed host data := by
  constructor
  · intro h node data hload hview
    exact (loadsClosed_iff_of_dict hload hview).mp h
  · intro h
    by_cases hdict : ∃ node data, host.safeLoad text = .ok node ∧ host.view node = .dict data
    · obtain ⟨node, data, hload, hview⟩ := hdict
      exact (loadsClosed_iff_of_dict hload hview).mpr (h node data hload hview)
    · refine loadsClosed_of_not_dict fun node data hload hview => ?_
      exact hdict ⟨node, data, hload, hview⟩

end Documents

/-! ## Documents that are not refused -/

/-- Three documents: window caps that are a number, two unknown keys that cannot be compared, and
a velocity that is `false`. -/
def sampleYaml : YamlHost Nat where
  safeLoad text :=
    if text = "window_caps: 5".toList then .ok 0
    else if text = "\x7b1: 2, limit: 3\x7d".toList then .ok 1
    else if text = "velocity: false".toList then .ok 2
    else .error "could not find the document".toList
  view node := match node with
    | 0 => .dict (Dict.empty.set (.str "window_caps".toList) 5)
    | 1 => .dict ((Dict.empty.set (.int 1) 2).set (.str "limit".toList) 3)
    | 2 => .dict (Dict.empty.set (.str "velocity".toList) 4)
    | 4 => .scalar (.bool false)
    | n => .scalar (.int n)
  sortedText _ := []
  unsortedText _ := "'<' not supported between instances of 'str' and 'int'".toList

theorem loadPolicy_escapes :
    sampleYaml.loadPolicy "window_caps: 5".toList =
      .error (.typeError "'int' object is not iterable".toList) ∧
    ¬ LoadsClosed sampleYaml "window_caps: 5".toList ∧
    sampleYaml.loadPolicy "\x7b1: 2, limit: 3\x7d".toList =
      .error (.typeError "'<' not supported between instances of 'str' and 'int'".toList) ∧
    ¬ LoadsClosed sampleYaml "\x7b1: 2, limit: 3\x7d".toList ∧
    (sampleYaml.loadPolicy "velocity: false".toList).isOk = true ∧
    ¬ LoadsClosed sampleYaml "velocity: false".toList := by
  have hcaps : sampleYaml.loadPolicy "window_caps: 5".toList =
      .error (.typeError "'int' object is not iterable".toList) := by rfl
  have hkeys : sampleYaml.loadPolicy "\x7b1: 2, limit: 3\x7d".toList =
      .error (.typeError "'<' not supported between instances of 'str' and 'int'".toList) := by rfl
  have hvelocity : (sampleYaml.loadPolicy "velocity: false".toList).isOk = true := by rfl
  have hescapes : ∀ {text message}, sampleYaml.loadPolicy text = .error (.typeError message) →
      ¬ LoadsClosed sampleYaml text := by
    rintro text message hraised (⟨_, h⟩ | ⟨_, _, _, -, -, h, -⟩)
    all_goals
      rw [hraised] at h
      cases h
  refine ⟨hcaps, hescapes hcaps, hkeys, hescapes hkeys, hvelocity, ?_⟩
  rintro (⟨message, h⟩ | ⟨node, data, policy, hload, hview, -, hdescribes⟩)
  · rw [h] at hvelocity
    cases hvelocity
  · obtain rfl : 2 = node := Except.ok.inj hload
    obtain rfl := Yaml.dict.inj hview
    obtain ⟨entries, hentries, -⟩ : IsMapping (VelocityOf sampleYaml) (.scalar (.bool false))
      (policy.maxTxPerWindow, policy.velocityWindowS) := hdescribes.velocity
    cases hentries

end AegisLedger.Wallet.PolicyLoading
