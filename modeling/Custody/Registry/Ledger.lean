import Custody.Registry.SlotTable

/-!
# Ledgers of actions and tokens

An action binds a handle to the function that releases it, and enters that function once at
most: whoever comes first enters it, and it counts as done even if it panics. What entering does
to the world is left open; the ledger notes every entry into a release function with the effect
`ε` that it stands for.

Actions are shared. A ledger counts the references to each, because a release function is
destroyed with the last one, and its destruction can panic too. A liveness token lives until its
owner lets it go.
-/

namespace Custody

/-- A release function, known by what entering it and destroying it do. -/
structure Release (ε : Type) where
  /-- What entering it does to the world. -/
  effect : ε
  /-- The message with which it panics, if it does. -/
  panics : Option String
  /-- The message with which its destruction panics, if it does. -/
  bursts : Option String
  deriving DecidableEq

/-- A release function that returns and can be destroyed. -/
def Release.plain {ε : Type} (effect : ε) : Release ε := ⟨effect, none, none⟩

/-- An action. -/
structure Action (ε : Type) where
  /-- The handle. -/
  handle : Handle
  /-- The function that releases it. -/
  release : Release ε
  /-- Whether the function has been entered. -/
  completed : Bool
  /-- How many references to the action there are. -/
  references : Nat
  deriving DecidableEq

/-- An action in the form of debugging output. -/
def Action.debug {ε : Type} (action : Action ε) : String :=
  "DisposeAction \x7b handle: " ++ action.handle.text ++ ", completed: " ++
    toString action.completed ++ " \x7d"

/-- An entry into a release function. -/
structure Entered (ε : Type) where
  /-- The action. -/
  action : ActionId
  /-- Its handle. -/
  handle : Handle
  /-- What entering does to the world. -/
  effect : ε
  /-- The addresses that had an entry in the table at that moment. -/
  live : List Address
  deriving DecidableEq

/-- Actions and tokens by number, and the entries into release functions so far, the oldest
first. -/
structure Ledger (ε : Type) where
  /-- The actions. -/
  actions : List (Action ε)
  /-- Which tokens are alive. -/
  tokens : List Bool
  /-- The entries into release functions. -/
  entered : List (Entered ε)
  deriving DecidableEq

/-- What came of an attempt to release. -/
inductive Attempt
  /-- Somebody else has entered the release function before. -/
  | spent
  /-- The release function was entered and returned. -/
  | released
  /-- The release function was entered and panicked. -/
  | panicked (message : String)
  deriving DecidableEq, Repr

namespace Ledger

variable {ε : Type}

/-- A ledger without actions. -/
def empty : Ledger ε := ⟨[], [], []⟩

/-- Adds an action with one reference to it. -/
def addAction (ledger : Ledger ε) (handle : Handle) (release : Release ε) : ActionId × Ledger ε :=
  (ledger.actions.length,
    { ledger with actions := ledger.actions ++ [⟨handle, release, false, 1⟩] })

/-- Adds a token that is alive. -/
def addToken (ledger : Ledger ε) : TokenId × Ledger ε :=
  (ledger.tokens.length, { ledger with tokens := ledger.tokens ++ [true] })

/-- Whether a token is alive. -/
def isAlive (ledger : Ledger ε) (token : TokenId) : Bool := ledger.tokens[token]?.getD false

/-- Lets a token die. -/
def kill (ledger : Ledger ε) (token : TokenId) : Ledger ε :=
  { ledger with tokens := ledger.tokens.set token false }

/-- Whether an action is done. -/
def isCompleted (ledger : Ledger ε) (action : ActionId) : Bool :=
  (ledger.actions[action]?.map (·.completed)).getD false

/-- **Releases the handle of an action**, unless that has been done before. -/
def run (ledger : Ledger ε) (live : List Address) (id : ActionId) : Attempt × Ledger ε :=
  match ledger.actions[id]? with
  | none => (.spent, ledger)
  | some action =>
    if action.completed then (.spent, ledger)
    else
      (match action.release.panics with
        | none => .released
        | some message => .panicked message,
       { ledger with
          actions := ledger.actions.set id { action with completed := true }
          entered := ledger.entered ++ [⟨id, action.handle, action.release.effect, live⟩] })

/-- Adds a reference to an action. -/
def hold (ledger : Ledger ε) (id : ActionId) : Ledger ε :=
  { ledger with
    actions := ledger.actions.modify id fun a => { a with references := a.references + 1 } }

/-- Takes a reference to an action away, and destroys its release function with the last one:
the panic of that, if there is one. -/
def letGo (ledger : Ledger ε) (id : ActionId) : Option String × Ledger ε :=
  match ledger.actions[id]? with
  | none => (none, ledger)
  | some action =>
    (if action.references = 1 then action.release.bursts else none,
      { ledger with
        actions := ledger.actions.set id { action with references := action.references - 1 } })

end Ledger

end Custody
