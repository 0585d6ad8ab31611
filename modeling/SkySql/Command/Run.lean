import SkySql.Command.Arguments
import SkySql.Dialect.Compile
import SkySql.Json.Printer
import SkySql.Json.Reader
import SkySql.Statement.Decoder
import SkySql.Statement.Encoder
import SkySql.Stcs.Reader

set_option autoImplicit false

/-!
What the program answers to its arguments, given the files it may read and its standard input.
-/

namespace SkySql

inductive Failure where
  | readingConfig (path : String)
  | parsingConfig (path : String)
  | reading (path : String)
  | notAStatement
  | dialect (error : Error)
  | stcs (error : Stcs.Error)
  | unresolved (region : String)

def Failure.message : Failure → String
  | .readingConfig path => "reading config " ++ path
  | .parsingConfig path => "parsing config " ++ path
  | .reading path => "reading " ++ path
  | .notAStatement => "input is not a JSON statement"
  | .dialect error => error.message
  | .stcs error => error.message
  | .unresolved region => "region needs resolving before storage: " ++ region

def Failure.notice (failure : Failure) : String := "Error: " ++ failure.message

/-- What the program prints, and the warnings it gives apart from that. -/
structure Report where
  output : String
  warnings : List String := []

def Report.notices (report : Report) : List String := report.warnings.map ("warning: " ++ ·)

abbrev Files := String → Option String

def depthLimit : Nat := 127

def document? (text : String) : Option Json := Json.readWithin? depthLimit text

def loadConfig (files : Files) : Option String → Except Failure DialectConfig
  | none => .ok {}
  | some path =>
      match files path with
      | none => .error (.readingConfig path)
      | some text =>
          match document? text >>= DialectConfig.ofJson? with
          | some config => .ok config
          | none => .error (.parsingConfig path)

def loadInput (files : Files) (stdin : String) : Option String → Except Failure String
  | none => .ok stdin
  | some path =>
      match files path with
      | some text => .ok text
      | none => .error (.reading path)

def Compiled.toJson (compiled : Compiled) : Json :=
  .object [("sql", .string compiled.sql), ("warnings", Json.ofStrings compiled.warnings)]

namespace Command

/-- Compiles a statement: the configuration is read first, then the statement. -/
def runCompile (files : Files) (stdin : String) (input config : Option String)
    (noIndex json : Bool) : Except Failure Report := do
  let config ← loadConfig files config
  let config := if noIndex then { config with spatialIndex := false } else config
  let source ← loadInput files stdin input
  match document? source >>= Statement.ofJson? with
  | none => throw .notAStatement
  | some statement =>
      let compiled ← (SkySql.compile config statement).mapError .dialect
      if json then return { output := compiled.toJson.pretty 0 ++ "\n" }
      else return { output := compiled.sql ++ "\n", warnings := compiled.warnings }

def runStcs (literal : String) (json : Bool) : Except Failure Report := do
  let value ← (Stcs.read literal).mapError .stcs
  if json then return { output := value.toJson.pretty 0 ++ "\n" }
  else match value with
    | .concrete geometry => return { output := geometry.literal ++ "\n" }
    | .unresolved region => throw (.unresolved region.text)

def run (files : Files) (stdin : String) : Command → Except Failure Report
  | .compile input config noIndex json => runCompile files stdin input config noIndex json
  | .stcs literal json => runStcs literal json

def paths : Command → List String
  | .compile input config _ _ => config.toList ++ input.toList
  | .stcs _ _ => []

def readsInput : Command → Bool
  | .compile none _ _ _ => true
  | _ => false

end Command

end SkySql
