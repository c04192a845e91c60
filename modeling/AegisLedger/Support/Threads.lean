import AegisLedger.Support.Run

/-!
# Threads over a shared state

A call of a service is a program: a tree of atomic commands on the state that all calls
share.  A command is answered, or raises and ends the program.  Threads interleave command
by command, new ones start at any time and a running one may stop for good between two
commands.

`Safe` is the proof rule for such programs.  A protocol names an invariant of the shared
state, a relation `keeps` that says what no step ever undoes, and what holds when a program
returns.  A thread may rely on what the others keep between two of its commands, and has to
keep it itself.
-/

namespace AegisLedger.Support.Threads

/-! ## Programs -/

inductive Prog (κ : Type) (Ans : κ → Type) (ε ρ : Type)
  | ret (result : ρ)
  | raise (error : ε)
  | op (command : κ) (next : Ans command → Prog κ Ans ε ρ)

namespace Prog

variable {κ : Type} {Ans : κ → Type} {ε ρ ρ' : Type}

def bind : Prog κ Ans ε ρ → (ρ → Prog κ Ans ε ρ') → Prog κ Ans ε ρ'
  | .ret result, rest => rest result
  | .raise error, _ => .raise error
  | .op command next, rest => .op command fun answer => (next answer).bind rest

instance : Monad (Prog κ Ans ε) where
  pure := .ret
  bind := bind

theorem bind_assoc {ρ'' : Type} (program : Prog κ Ans ε ρ) (next : ρ → Prog κ Ans ε ρ')
    (last : ρ' → Prog κ Ans ε ρ'') :
    (program >>= next) >>= last = program >>= fun result => next result >>= last := by
  induction program with
  | ret result => rfl
  | raise error => rfl
  | op command rest ih => exact congrArg (Prog.op command) (funext ih)

/-- One command. -/
def call (command : κ) : Prog κ Ans ε (Ans command) := .op command .ret

/-- A computation on the thread's own data. -/
def ofExcept : Except ε ρ → Prog κ Ans ε ρ
  | .ok result => .ret result
  | .error error => .raise error

/-- What a program that has ended returned. -/
def result? : Prog κ Ans ε ρ → Option ρ
  | .ret result => some result
  | .raise _ => none
  | .op _ _ => none

/-- The program has no command left to perform. -/
def ended : Prog κ Ans ε ρ → Bool
  | .ret _ => true
  | .raise _ => true
  | .op _ _ => false

/-- The program over a larger set of commands. -/
def embed {κ' : Type} {Ans' : κ' → Type} {ε' : Type} (command : κ → κ')
    (answer : ∀ c, Ans' (command c) → Ans c) (error : ε → ε') :
    Prog κ Ans ε ρ → Prog κ' Ans' ε' ρ
  | .ret result => .ret result
  | .raise e => .raise (error e)
  | .op c next => .op (command c) fun a => (next (answer c a)).embed command answer error

/-- The program performs no command but those of `p`. -/
def Uses (p : κ → Prop) : Prog κ Ans ε ρ → Prop
  | .ret _ => True
  | .raise _ => True
  | .op command next => p command ∧ ∀ answer, (next answer).Uses p

section Uses

variable {p : κ → Prop}

theorem uses_call {command : κ} {rest : Ans command → Prog κ Ans ε ρ} (h : p command)
    (hrest : ∀ answer, (rest answer).Uses p) : (call command >>= rest).Uses p :=
  ⟨h, hrest⟩

theorem uses_ofExcept {x : Except ε ρ'} {rest : ρ' → Prog κ Ans ε ρ}
    (hrest : ∀ value, (rest value).Uses p) : (ofExcept x >>= rest).Uses p := by
  cases x with
  | error error => trivial
  | ok value => exact hrest value

theorem uses_bind {part : Prog κ Ans ε ρ'} {rest : ρ' → Prog κ Ans ε ρ} (h : part.Uses p)
    (hrest : ∀ result, (rest result).Uses p) : (part >>= rest).Uses p := by
  induction part with
  | ret result => exact hrest result
  | raise error => trivial
  | op command next ih => exact ⟨h.1, fun answer => ih answer (h.2 answer)⟩

theorem uses_of_forall (h : ∀ command, p command) (program : Prog κ Ans ε ρ) :
    program.Uses p := by
  induction program with
  | ret result => trivial
  | raise error => trivial
  | op command next ih => exact ⟨h command, ih⟩

theorem Uses.mono {q : κ → Prop} {program : Prog κ Ans ε ρ} (h : program.Uses p)
    (hpq : ∀ command, p command → q command) : program.Uses q := by
  induction program with
  | ret result => trivial
  | raise error => trivial
  | op command next ih => exact ⟨hpq command h.1, fun answer => ih answer (h.2 answer)⟩

end Uses

theorem eq_ret_of_result? {program : Prog κ Ans ε ρ} {result : ρ}
    (h : program.result? = some result) : program = .ret result := by
  cases program with
  | ret other => rw [Option.some.inj h]
  | raise error => cases h
  | op command next => cases h

end Prog

/-! ## Configurations -/

structure Config (σ κ : Type) (Ans : κ → Type) (ε ρ : Type) where
  shared : σ
  threads : List (Prog κ Ans ε ρ)

/-- What the threads that have ended returned. -/
def Config.results {σ κ : Type} {Ans : κ → Type} {ε ρ : Type} (config : Config σ κ Ans ε ρ) :
    List ρ :=
  config.threads.filterMap Prog.result?

/-- What happens next: a request starts its program, a thread performs its next command
with some outcome of whatever that depends on outside, or a thread stops for good. -/
inductive Label (γ ω : Type)
  | start (request : γ)
  | advance (index : Nat) (outcome : ω)
  | crash (index : Nat)

/-- No thread stops for good. -/
def Label.proceeds {γ ω : Type} : Label γ ω → Bool
  | .start _ => true
  | .advance _ _ => true
  | .crash _ => false

section System

variable {σ κ : Type} {Ans : κ → Type} {ε ρ γ ω : Type}
variable (interp : ω → σ → (command : κ) → Except ε (Ans command) × σ)
variable (program : γ → Prog κ Ans ε ρ)

/-- The program that is left after a command. -/
def resume {command : κ} (next : Ans command → Prog κ Ans ε ρ) :
    Except ε (Ans command) → Prog κ Ans ε ρ
  | .ok answer => next answer
  | .error error => .raise error

/-- The program running alone, the `n`-th command with the `n`-th outcome. -/
def Prog.exec : Prog κ Ans ε ρ → (Nat → ω) → σ → Except ε ρ × σ
  | .ret result, _, s => (.ok result, s)
  | .raise error, _, s => (.error error, s)
  | .op command next, outcomes, s =>
    match interp (outcomes 0) s command with
    | (.ok answer, t) => (next answer).exec (fun n => outcomes (n + 1)) t
    | (.error error, t) => (.error error, t)

variable {command : κ}

theorem Prog.exec_of_ok {next : Ans command → Prog κ Ans ε ρ} {outcomes : Nat → ω} {s t : σ}
    {answer : Ans command} (h : interp (outcomes 0) s command = (.ok answer, t)) :
    (Prog.op command next).exec interp outcomes s =
      (next answer).exec interp (fun n => outcomes (n + 1)) t := by
  rw [Prog.exec, h]

theorem Prog.exec_of_error {next : Ans command → Prog κ Ans ε ρ} {outcomes : Nat → ω} {s t : σ}
    {error : ε} (h : interp (outcomes 0) s command = (.error error, t)) :
    (Prog.op command next).exec interp outcomes s = (.error error, t) := by
  rw [Prog.exec, h]

variable {ρ' : Type}

/-- Where the outcomes do not depend on the position, a program runs part by part. -/
theorem Prog.exec_bind (outcome : ω) (part : Prog κ Ans ε ρ') (rest : ρ' → Prog κ Ans ε ρ) (s : σ) :
    (part >>= rest).exec interp (fun _ => outcome) s =
      match part.exec interp (fun _ => outcome) s with
      | (.ok result, t) => (rest result).exec interp (fun _ => outcome) t
      | (.error error, t) => (.error error, t) := by
  induction part generalizing s with
  | ret result => rfl
  | raise error => rfl
  | op command next ih =>
    cases hcommand : interp outcome s command with
    | mk answered t =>
      cases answered with
      | error error =>
        rw [exec_of_error interp hcommand]
        exact exec_of_error interp hcommand
      | ok answer =>
        rw [exec_of_ok interp hcommand, ← ih answer t]
        exact exec_of_ok interp hcommand

def Config.perform (config : Config σ κ Ans ε ρ) : Label γ ω → Config σ κ Ans ε ρ
  | .start request => { config with threads := config.threads ++ [program request] }
  | .advance index outcome =>
    match config.threads[index]? with
    | some (.op command next) =>
      let result := interp outcome config.shared command
      ⟨result.2, config.threads.set index (resume next result.1)⟩
    | _ => config
  | .crash index => { config with threads := config.threads.eraseIdx index }

variable (entry : γ → Prop) (guard : σ → κ → Prop)

/-- The next command of a thread may be performed. -/
def Enabled (s : σ) : Option (Prog κ Ans ε ρ) → Prop
  | some (.op command _) => guard s command
  | some (.ret _) => True
  | some (.raise _) => True
  | none => True

/-- Only requests of `entry` start, and a command is performed only where `guard` holds. -/
def Allowed (config : Config σ κ Ans ε ρ) : Label γ ω → Prop
  | .start request => entry request
  | .advance index _ => Enabled guard config.shared config.threads[index]?
  | .crash _ => True

instance decidableEnabled [∀ s, DecidablePred (guard s)] (s : σ) :
    (thread : Option (Prog κ Ans ε ρ)) → Decidable (Enabled guard s thread)
  | some (.op command _) => inferInstanceAs (Decidable (guard s command))
  | some (.ret _) => .isTrue trivial
  | some (.raise _) => .isTrue trivial
  | none => .isTrue trivial

instance decidableAllowed [DecidablePred entry] [∀ s, DecidablePred (guard s)]
    (config : Config σ κ Ans ε ρ) :
    (label : Label γ ω) → Decidable (Allowed entry guard config label)
  | .start request => inferInstanceAs (Decidable (entry request))
  | .advance index _ => decidableEnabled guard config.shared config.threads[index]?
  | .crash _ => .isTrue trivial

/-- Where nothing holds the threads back, every label is allowed. -/
theorem allowed_true (config : Config σ κ Ans ε ρ) (label : Label γ ω) :
    Allowed (fun _ => True) (fun _ _ => True) config label := by
  cases label with
  | start request => trivial
  | crash index => trivial
  | advance index outcome =>
    rw [Allowed, Enabled.eq_def]
    split <;> trivial

def Step (config : Config σ κ Ans ε ρ) (label : Label γ ω) (after : Config σ κ Ans ε ρ) : Prop :=
  Allowed entry guard config label ∧ after = config.perform interp program label

/-! ## The proof rule -/

structure Protocol (σ ρ : Type) where
  invariant : σ → Prop
  keeps : σ → σ → Prop
  post : σ → ρ → Prop
  keeps_refl : ∀ s, keeps s s
  keeps_trans : ∀ {s t u}, keeps s t → keeps t u → keeps s u

/-- The protocol with another condition on what is returned. -/
def Protocol.returning {ρ' : Type} (protocol : Protocol σ ρ) (post : σ → ρ' → Prop) :
    Protocol σ ρ' where
  invariant := protocol.invariant
  keeps := protocol.keeps
  post := post
  keeps_refl := protocol.keeps_refl
  keeps_trans := protocol.keeps_trans

/-- From `s` on, whatever the other threads do, the program keeps to the protocol. -/
def Safe (protocol : Protocol σ ρ) : Prog κ Ans ε ρ → σ → Prop
  | .ret result, s => ∀ t, protocol.keeps s t → protocol.invariant t → protocol.post t result
  | .raise _, _ => True
  | .op command next, s => ∀ t, protocol.keeps s t → protocol.invariant t → guard t command →
      ∀ outcome, protocol.invariant (interp outcome t command).2 ∧
        protocol.keeps t (interp outcome t command).2 ∧
        ∀ answer, (interp outcome t command).1 = .ok answer →
          Safe protocol (next answer) (interp outcome t command).2

variable {interp program entry guard} {protocol : Protocol σ ρ} {s t : σ}

theorem Safe.mono {program : Prog κ Ans ε ρ} (h : Safe interp guard protocol program s)
    (hkeeps : protocol.keeps s t) : Safe interp guard protocol program t := by
  cases program with
  | ret result => exact fun u hu => h u (protocol.keeps_trans hkeeps hu)
  | raise error => trivial
  | op command next => exact fun u hu => h u (protocol.keeps_trans hkeeps hu)

theorem Safe.of_later {program : Prog κ Ans ε ρ}
    (h : ∀ t, protocol.keeps s t → protocol.invariant t →
      Safe interp guard protocol program t) : Safe interp guard protocol program s := by
  cases program with
  | ret result => exact fun t ht hinv => h t ht hinv t (protocol.keeps_refl t) hinv
  | raise error => trivial
  | op command next => exact fun t ht hinv => h t ht hinv t (protocol.keeps_refl t) hinv

theorem safe_ret {result : ρ}
    (h : ∀ t, protocol.keeps s t → protocol.invariant t → protocol.post t result) :
    Safe interp guard protocol (pure result : Prog κ Ans ε ρ) s := h

theorem safe_call {rest : Ans command → Prog κ Ans ε ρ}
    (h : ∀ t, protocol.keeps s t → protocol.invariant t → guard t command → ∀ outcome,
      protocol.invariant (interp outcome t command).2 ∧
        protocol.keeps t (interp outcome t command).2 ∧
        ∀ answer, (interp outcome t command).1 = .ok answer →
          Safe interp guard protocol (rest answer) (interp outcome t command).2) :
    Safe interp guard protocol (Prog.call command >>= rest) s := h

theorem safe_ofExcept {x : Except ε ρ'} {rest : ρ' → Prog κ Ans ε ρ}
    (h : ∀ value, x = .ok value → Safe interp guard protocol (rest value) s) :
    Safe interp guard protocol (Prog.ofExcept x >>= rest) s := by
  cases x with
  | error error => trivial
  | ok value => exact h value rfl

/-- A program runs to a condition on its result from which the rest is safe. -/
theorem safe_bind {part : Prog κ Ans ε ρ'} {rest : ρ' → Prog κ Ans ε ρ} {q : σ → ρ' → Prop}
    (h : Safe interp guard (protocol.returning q) part s)
    (hrest : ∀ t result, protocol.keeps s t → protocol.invariant t → q t result →
      Safe interp guard protocol (rest result) t) :
    Safe interp guard protocol (part >>= rest) s := by
  induction part generalizing s with
  | ret result =>
    exact Safe.of_later fun t ht hinv => hrest t result ht hinv (h t ht hinv)
  | raise error => trivial
  | op command next ih =>
    intro t ht hinv hguard outcome
    obtain ⟨hafter, hkept, hnext⟩ := h t ht hinv hguard outcome
    refine ⟨hafter, hkept, ?_⟩
    intro answer hanswer
    apply ih answer (hnext answer hanswer)
    intro u result hu
    exact hrest u result (protocol.keeps_trans (protocol.keeps_trans ht hkept) hu)

/-- A program is safe whatever it does if its commands keep to the protocol and nothing is
asked of the result. -/
theorem safe_of_uses {p : κ → Prop} {program : Prog κ Ans ε ρ} (huses : program.Uses p)
    (hpost : ∀ t result, protocol.post t result)
    (hkeeps : ∀ t command, p command → protocol.invariant t → guard t command → ∀ outcome,
      protocol.invariant (interp outcome t command).2 ∧
        protocol.keeps t (interp outcome t command).2) :
    Safe interp guard protocol program s := by
  induction program generalizing s with
  | ret result => exact fun t _ _ => hpost t result
  | raise error => trivial
  | op command next ih =>
    intro t _ hinv hguard outcome
    obtain ⟨hafter, hkept⟩ := hkeeps t command huses.1 hinv hguard outcome
    exact ⟨hafter, hkept, fun answer _ => ih answer (huses.2 answer)⟩

theorem safe_of_ended {program : Prog κ Ans ε ρ} (hended : program.ended = true)
    (hpost : ∀ t result, protocol.post t result) : Safe interp guard protocol program s := by
  cases program with
  | ret result => exact fun t _ _ => hpost t result
  | raise error => trivial
  | op command next => cases hended

variable (interp guard) in
/-- A program over a larger set of commands, which do to a part of the state what they do
alone. -/
theorem safe_embed_part {σ' κ' : Type} {Ans' : κ' → Type} {ε' ω' : Type} (part : σ' → σ)
    {command : κ → κ'} {answer : ∀ c, Ans' (command c) → Ans c} {error : ε → ε'}
    (outcome : ω' → ω) {interp' : ω' → σ' → (c : κ') → Except ε' (Ans' c) × σ'}
    {guard' : σ' → κ' → Prop} {whole : Protocol σ' ρ} {s : σ'}
    (hstate : ∀ o t c, part (interp' o t (command c)).2 = (interp (outcome o) (part t) c).2)
    (hanswer : ∀ o t c a, (interp' o t (command c)).1 = .ok a →
      (interp (outcome o) (part t) c).1 = .ok (answer c a))
    (hguard : ∀ t c, guard' t (command c) → guard (part t) c)
    (hinv : ∀ t, whole.invariant t → protocol.invariant (part t))
    (hkeeps : ∀ t u, whole.keeps t u → protocol.keeps (part t) (part u))
    (hstep : ∀ o t c, whole.invariant t → protocol.invariant (part (interp' o t (command c)).2) →
      protocol.keeps (part t) (part (interp' o t (command c)).2) →
      whole.invariant (interp' o t (command c)).2 ∧ whole.keeps t (interp' o t (command c)).2)
    (hpost : ∀ t result, protocol.post (part t) result → whole.post t result)
    {program : Prog κ Ans ε ρ} (h : Safe interp guard protocol program (part s)) :
    Safe interp' guard' whole (program.embed command answer error) s := by
  induction program generalizing s with
  | ret result => exact fun t ht hall => hpost t result (h _ (hkeeps _ _ ht) (hinv t hall))
  | raise e => trivial
  | op c next ih =>
    intro t ht hall hallowed o
    obtain ⟨hafter, hkept, hnext⟩ :=
      h _ (hkeeps _ _ ht) (hinv t hall) (hguard t c hallowed) (outcome o)
    rw [← hstate] at hafter hkept
    obtain ⟨hafter, hkept⟩ := hstep o t c hall hafter hkept
    refine ⟨hafter, hkept, ?_⟩
    intro a ha
    apply ih (answer c a)
    rw [hstate]
    exact hnext (answer c a) (hanswer o t c a ha)

variable (interp guard) in
/-- A program over a larger set of commands, which there do what they do alone. -/
theorem safe_embed {κ' : Type} {Ans' : κ' → Type} {ε' ω' : Type} {command : κ → κ'}
    {answer : ∀ c, Ans' (command c) → Ans c} {error : ε → ε'} (outcome : ω' → ω)
    {interp' : ω' → σ → (c : κ') → Except ε' (Ans' c) × σ} {guard' : σ → κ' → Prop}
    (hstate : ∀ o t c, (interp' o t (command c)).2 = (interp (outcome o) t c).2)
    (hanswer : ∀ o t c a, (interp' o t (command c)).1 = .ok a →
      (interp (outcome o) t c).1 = .ok (answer c a))
    (hguard : ∀ t c, guard' t (command c) → guard t c) {program : Prog κ Ans ε ρ}
    (h : Safe interp guard protocol program s) :
    Safe interp' guard' protocol (program.embed command answer error) s :=
  safe_embed_part interp guard id outcome hstate hanswer hguard (fun _ hinv => hinv)
    (fun _ _ hkeeps => hkeeps) (fun _ _ _ _ hafter hkept => ⟨hafter, hkept⟩)
    (fun _ _ hpost => hpost) h

/-! ## Assertions at commands -/

section Upholds

variable {asserts : σ → (command : κ) → (Ans command → Prog κ Ans ε ρ) → Prop}

variable (interp guard asserts) in
/-- As `Safe`, with an assertion that holds wherever the program comes to a command, about
the command and what is left of the program after it. -/
def Upholds (protocol : Protocol σ ρ) : Prog κ Ans ε ρ → σ → Prop
  | .ret result, s => ∀ t, protocol.keeps s t → protocol.invariant t → protocol.post t result
  | .raise _, _ => True
  | .op command next, s => ∀ t, protocol.keeps s t → protocol.invariant t → guard t command →
      asserts t command next ∧
      ∀ outcome, protocol.invariant (interp outcome t command).2 ∧
        protocol.keeps t (interp outcome t command).2 ∧
        ∀ answer, (interp outcome t command).1 = .ok answer →
          Upholds protocol (next answer) (interp outcome t command).2

theorem Upholds.mono {program : Prog κ Ans ε ρ}
    (h : Upholds interp guard asserts protocol program s) (hkeeps : protocol.keeps s t) :
    Upholds interp guard asserts protocol program t := by
  cases program with
  | ret result => exact fun u hu => h u (protocol.keeps_trans hkeeps hu)
  | raise error => trivial
  | op command next => exact fun u hu => h u (protocol.keeps_trans hkeeps hu)

theorem upholds_ret {result : ρ}
    (h : ∀ t, protocol.keeps s t → protocol.invariant t → protocol.post t result) :
    Upholds interp guard asserts protocol (pure result : Prog κ Ans ε ρ) s := h

theorem upholds_call {command : κ} {rest : Ans command → Prog κ Ans ε ρ}
    (h : ∀ t, protocol.keeps s t → protocol.invariant t → guard t command →
      asserts t command rest ∧
      ∀ outcome, protocol.invariant (interp outcome t command).2 ∧
        protocol.keeps t (interp outcome t command).2 ∧
        ∀ answer, (interp outcome t command).1 = .ok answer →
          Upholds interp guard asserts protocol (rest answer) (interp outcome t command).2) :
    Upholds interp guard asserts protocol (Prog.call command >>= rest) s := h

theorem upholds_ofExcept {ρ' : Type} {x : Except ε ρ'} {rest : ρ' → Prog κ Ans ε ρ}
    (h : ∀ value, x = .ok value → Upholds interp guard asserts protocol (rest value) s) :
    Upholds interp guard asserts protocol (Prog.ofExcept x >>= rest) s := by
  cases x with
  | error error => trivial
  | ok value => exact h value rfl

end Upholds

/-! ## Runs -/

variable {config : Config σ κ Ans ε ρ} {label : Label γ ω}

/-- Programs that are in order when they start, and that no step of any thread puts out of
order. -/
theorem step_of_local (inOrder : Prog κ Ans ε ρ → σ → Prop)
    (hraise : ∀ error s, inOrder (.raise error) s)
    (hmono : ∀ {thread s t}, inOrder thread s → protocol.keeps s t → inOrder thread t)
    (hop : ∀ {command next s}, inOrder (.op command next) s → protocol.invariant s →
      guard s command → ∀ outcome, protocol.invariant (interp outcome s command).2 ∧
        protocol.keeps s (interp outcome s command).2 ∧
        ∀ answer, (interp outcome s command).1 = .ok answer →
          inOrder (next answer) (interp outcome s command).2)
    (hentry : ∀ request, entry request → ∀ s, protocol.invariant s →
      inOrder (program request) s) {after : Config σ κ Ans ε ρ}
    (hinv : protocol.invariant config.shared)
    (hthreads : ∀ thread ∈ config.threads, inOrder thread config.shared)
    (hstep : Step interp program entry guard config label after) :
    protocol.invariant after.shared ∧ protocol.keeps config.shared after.shared ∧
      ∀ thread ∈ after.threads, inOrder thread after.shared := by
  obtain ⟨hallowed, rfl⟩ := hstep
  cases label with
  | start request =>
    refine ⟨hinv, protocol.keeps_refl _, ?_⟩
    intro thread hthread
    rcases List.mem_append.mp hthread with hold | hnew
    · exact hthreads thread hold
    · rw [List.mem_singleton.mp hnew]
      exact hentry request hallowed _ hinv
  | crash index =>
    exact ⟨hinv, protocol.keeps_refl _,
      fun thread hthread => hthreads thread (List.mem_of_mem_eraseIdx hthread)⟩
  | advance index outcome =>
    rw [Config.perform]
    split
    · rename_i command next hnow
      have hguard : Enabled guard config.shared config.threads[index]? := hallowed
      rw [hnow] at hguard
      obtain ⟨hafter, hkept, hnext⟩ :=
        hop (hthreads _ (List.mem_of_getElem? hnow)) hinv hguard outcome
      refine ⟨hafter, hkept, ?_⟩
      intro thread hthread
      rcases List.mem_or_eq_of_mem_set hthread with hold | rfl
      · exact hmono (hthreads thread hold) hkept
      · cases hanswer : (interp outcome config.shared command).1 with
        | error error => exact hraise error _
        | ok answer => exact hnext answer hanswer
    · exact ⟨hinv, protocol.keeps_refl _, hthreads⟩

theorem safe_step (hentry : ∀ request, entry request → ∀ s, protocol.invariant s →
      Safe interp guard protocol (program request) s) {after : Config σ κ Ans ε ρ}
    (hinv : protocol.invariant config.shared)
    (hthreads : ∀ thread ∈ config.threads, Safe interp guard protocol thread config.shared)
    (hstep : Step interp program entry guard config label after) :
    protocol.invariant after.shared ∧
      ∀ thread ∈ after.threads, Safe interp guard protocol thread after.shared := by
  obtain ⟨hafter, -, hsafe⟩ := step_of_local (Safe interp guard protocol)
    (fun _ _ => trivial) (fun h hkeeps => h.mono hkeeps)
    (fun h hinv hguard => h _ (protocol.keeps_refl _) hinv hguard) hentry hinv hthreads hstep
  exact ⟨hafter, hsafe⟩

/-- Programs that are safe when they start keep the invariant in every run, and every
result they return meets its condition. -/
theorem safe_run (protocol : Protocol σ ρ)
    (hentry : ∀ request, entry request → ∀ s, protocol.invariant s →
      Safe interp guard protocol (program request) s) {trace : List (Label γ ω)}
    (hinit : protocol.invariant s)
    (hrun : Run (Step interp program entry guard) ⟨s, []⟩ trace config) :
    protocol.invariant config.shared ∧
      ∀ result ∈ config.results, protocol.post config.shared result := by
  have hsafe : protocol.invariant config.shared ∧
      ∀ thread ∈ config.threads, Safe interp guard protocol thread config.shared := by
    apply hrun.invariant (I := fun _ config => protocol.invariant config.shared ∧
      ∀ thread ∈ config.threads, Safe interp guard protocol thread config.shared)
    · exact ⟨hinit, by simp⟩
    · rintro _ config label after _ ⟨hinv, hthreads⟩ hstep
      exact safe_step hentry hinv hthreads hstep
  refine ⟨hsafe.1, ?_⟩
  intro result hresult
  obtain ⟨thread, hthread, hended⟩ := List.mem_filterMap.mp hresult
  rw [Prog.eq_ret_of_result? hended] at hthread
  exact hsafe.2 _ hthread config.shared (protocol.keeps_refl _) hsafe.1

section Upholds

variable {asserts : σ → (command : κ) → (Ans command → Prog κ Ans ε ρ) → Prop}

theorem upholds_step
    (hentry : ∀ request, entry request → ∀ s, protocol.invariant s →
      Upholds interp guard asserts protocol (program request) s)
    {config after : Config σ κ Ans ε ρ} {label : Label γ ω}
    (hinv : protocol.invariant config.shared)
    (hthreads : ∀ thread ∈ config.threads,
      Upholds interp guard asserts protocol thread config.shared)
    (hstep : Step interp program entry guard config label after) :
    protocol.invariant after.shared ∧ protocol.keeps config.shared after.shared ∧
      ∀ thread ∈ after.threads, Upholds interp guard asserts protocol thread after.shared :=
  step_of_local (Upholds interp guard asserts protocol) (fun _ _ => trivial)
    (fun h hkeeps => h.mono hkeeps)
    (fun h hinv hguard => (h _ (protocol.keeps_refl _) hinv hguard).2) hentry hinv hthreads hstep

end Upholds

/-- A thread that has ended stays as it is, unless a thread stops for good. -/
theorem getElem?_perform_of_ended (hproceeds : label.proceeds = true) {index : Nat}
    {thread : Prog κ Ans ε ρ} (hthread : config.threads[index]? = some thread)
    (hended : thread.ended = true) :
    (config.perform interp program label).threads[index]? = some thread := by
  cases label with
  | start request =>
    exact List.getElem?_append_left (List.getElem?_eq_some_iff.mp hthread).1 ▸ hthread
  | crash other => cases hproceeds
  | advance other outcome =>
    rw [Config.perform]
    split
    · rename_i command next hnow
      have hne : other ≠ index := by
        rintro rfl
        rw [hthread, Option.some.injEq] at hnow
        rw [hnow] at hended
        cases hended
      rw [List.getElem?_set_ne hne]
      exact hthread
    · exact hthread

section Traces

variable (interp program entry guard)

/-- Each label of a trace is allowed where it is reached. -/
abbrev Follows : Config σ κ Ans ε ρ → List (Label γ ω) → Prop :=
  Run.Follows (Allowed entry guard) (Config.perform interp program)

/-- The configuration that a trace leads to. -/
def Config.performAll (config : Config σ κ Ans ε ρ) (trace : List (Label γ ω)) :
    Config σ κ Ans ε ρ :=
  trace.foldl (Config.perform interp program) config

end Traces

theorem Follows.run {trace : List (Label γ ω)}
    (h : Follows interp program entry guard config trace) :
    Run (Step interp program entry guard) config trace
      (config.performAll interp program trace) :=
  Run.Follows.run h

end System

end AegisLedger.Support.Threads
