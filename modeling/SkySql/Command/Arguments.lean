set_option autoImplicit false

/-!
The arguments of the program: `compile [INPUT] [--config FILE] [--no-index] [--json]` and
`stcs LITERAL [--json]`. Arguments are read from left to right, and the first one that does not fit
decides. An option is given at most once, and after `--` everything is a value.
-/

namespace SkySql

inductive Command where
  | compile (input config : Option String) (noIndex json : Bool)
  | stcs (literal : String) (json : Bool)
  deriving Repr, DecidableEq

inductive Request where
  | run (command : Command)
  | help
  | misuse
  deriving Repr, DecidableEq

namespace Arguments

/-- The kinds of arguments. `long` has the name of an option and the value after its equals sign. -/
inductive Kind where
  | separator
  | long (name : String) (value : Option String)
  | short (letters : List Char)
  | value
  deriving Repr, DecidableEq

def splitValue (cs : List Char) : String × Option String :=
  match cs.span (· != '=') with
  | (name, _ :: value) => (String.ofList name, some (String.ofList value))
  | (name, []) => (String.ofList name, none)

def kind (arg : String) : Kind :=
  match arg.toList with
  | ['-', '-'] => .separator
  | '-' :: '-' :: rest => let (name, value) := splitValue rest; .long name value
  | ['-'] => .value
  | '-' :: letters => .short letters
  | _ => .value

/-- Which arguments a command takes, besides `--json` and its one value. -/
structure Accepted where
  /-- Whether the value is a path, which cannot be empty. -/
  path : Bool
  config : Bool
  noIndex : Bool

structure Found where
  value : Option String := none
  config : Option String := none
  noIndex : Bool := false
  json : Bool := false

def Found.addValue (found : Found) (accepted : Accepted) (value : String) : Except Request Found :=
  if found.value.isSome || (accepted.path && value.isEmpty) then .error .misuse
  else .ok { found with value := some value }

def Found.addConfig (found : Found) (path : String) : Except Request Found :=
  if found.config.isSome || path.isEmpty then .error .misuse
  else .ok { found with config := some path }

def Found.addSwitch (found : Found) (accepted : Accepted) (name : String) : Except Request Found :=
  if name = "help" then .error .help
  else if name = "json" then
    if found.json then .error .misuse else .ok { found with json := true }
  else if name = "no-index" ∧ accepted.noIndex then
    if found.noIndex then .error .misuse else .ok { found with noIndex := true }
  else .error .misuse

def readValues (accepted : Accepted) : Found → List String → Except Request Found
  | found, [] => .ok found
  | found, value :: rest => do readValues accepted (← found.addValue accepted value) rest

/-- Reads arguments; `awaited` says that the one before was `--config` without a value. -/
def read (accepted : Accepted) : Bool → Found → List String → Except Request Found
  | awaited, found, [] => if awaited then .error .misuse else .ok found
  | awaited, found, arg :: rest =>
      match kind arg with
      | .value => do
          let found ← if awaited then found.addConfig arg else found.addValue accepted arg
          read accepted false found rest
      | other =>
          if awaited then .error .misuse
          else match other with
            | .separator => readValues accepted found rest
            | .long "config" value =>
                if accepted.config then
                  match value with
                  | some path => do read accepted false (← found.addConfig path) rest
                  | none => read accepted true found rest
                else .error .misuse
            | .long name none => do read accepted false (← found.addSwitch accepted name) rest
            | .short ('h' :: _) => .error .help
            | _ => .error .misuse

end Arguments

open Arguments in
def Request.ofCompileArguments (args : List String) : Request :=
  match read ⟨true, true, true⟩ false {} args with
  | .ok found => .run (.compile found.value found.config found.noIndex found.json)
  | .error request => request

open Arguments in
def Request.ofStcsArguments (args : List String) : Request :=
  match read ⟨false, false, false⟩ false {} args with
  | .ok found =>
      match found.value with
      | some literal => .run (.stcs literal found.json)
      | none => .misuse
  | .error request => request

def Request.ofArguments : List String → Request
  | "compile" :: args => ofCompileArguments args
  | "stcs" :: args => ofStcsArguments args
  | ["help"] | ["help", "compile"] | ["help", "stcs"] | ["help", "help"] => .help
  | arg :: _ =>
      match Arguments.kind arg with
      | .long "help" none => .help
      | .short ('h' :: _) => .help
      | _ => .misuse
  | [] => .misuse

end SkySql
