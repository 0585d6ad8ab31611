import SkySql.Command.Run

set_option autoImplicit false

/-!
The command line program: it reads files and standard input, runs the command and prints what comes
of it.
-/

namespace SkySql.Program

def usage : String :=
  "usage: skysql compile [INPUT] [--config FILE] [--no-index] [--json]\n" ++
    "       skysql stcs LITERAL [--json]"

def readIfPossible (path : String) : IO (Option String) := do
  try return some (← IO.FS.readFile path)
  catch _ => return none

partial def readAll (stream : IO.FS.Stream) (text : String) : IO String := do
  let line ← stream.getLine
  if line.isEmpty then return text else readAll stream (text ++ line)

def perform (command : Command) : IO UInt32 := do
  let contents ← command.paths.mapM fun path => do return (path, ← readIfPossible path)
  let stdin ← if command.readsInput then readAll (← IO.getStdin) "" else pure ""
  match command.run (fun path => (contents.lookup path).join) stdin with
  | .ok report =>
      IO.print report.output
      report.notices.forM fun line => IO.eprintln line
      return 0
  | .error failure =>
      IO.eprintln failure.notice
      return 1

end SkySql.Program

open SkySql SkySql.Program in
def main (args : List String) : IO UInt32 := do
  match Request.ofArguments args with
  | .run command => perform command
  | .help =>
      IO.println usage
      return 0
  | .misuse =>
      IO.eprintln usage
      return 2
