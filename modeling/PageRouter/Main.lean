import PageRouter.CommandLine.Inspect

/-!
# The inspection program

The outer layer of the inspection command: it looks up the one file that the arguments name, prints what the
command reports, and exits with its status.  It reaches no server, so that to it no address has an answer.
-/

set_option autoImplicit false

namespace PageRouter.Program

open CommandLine

/-- What is found at a path. -/
def lookUp (path : String) : IO Config.File := do
  match ← (IO.FS.readBinFile path).toBaseIO with
  | .ok bytes => return .content bytes
  | .error (.inappropriateType ..) => return .directory
  | .error _ => return .missing

/-- The file that arguments name, if they name one. -/
def namedFile? (args : List String) : Option String :=
  match Inspect.readRequest args with
  | .command c => c.config?
  | _ => none

/-- What the command finds outside. -/
def surroundings (args : List String) : IO World := do
  let file ← (namedFile? args).elim (pure .missing) lookUp
  return ⟨fun _ => file, fun _ => none⟩

end PageRouter.Program

def main (args : List String) : IO UInt32 := do
  let report := PageRouter.CommandLine.Inspect.run (← PageRouter.Program.surroundings args) args
  IO.print report.output
  return report.status.toUInt32
