import Scaffold.CommandLine.Arguments
import Scaffold.Run.Session

/-!
# The program

A call of the program reads its arguments, runs one session, and ends with an exit code, a text on
the standard output and a text on the standard error. The log goes to the standard error too, if the
arguments ask for it.
-/

namespace Scaffold.CommandLine

/-- How a call ended. -/
structure Finish where
  code : Nat
  stdout : String
  stderr : String

/-- Lines as a text. -/
def linesText (lines : List String) : String := String.join (lines.map (· ++ "\n"))

/-- One call of the program. -/
def call (parse : Edn.Parser) (renderer : Renderer) (words : List String) (disk : Disk) :
    Finish × Disk :=
  match Arguments.read words with
  | .error halt =>
    if halt.isFault then (⟨2, "", halt.text⟩, disk) else (⟨0, halt.text, ""⟩, disk)
  | .ok arguments =>
    match arguments.targets? with
    | none => (⟨0, helpText ++ "Need at least one input\n", ""⟩, disk)
    | some (imports, dest) =>
      let (result, world) := (Run.session parse renderer imports dest).run.run (World.start disk)
      let stdout := linesText world.console
      let log := if arguments.verbose then linesText (world.notes.map Note.text) else ""
      match result with
      | .ok _ => (⟨0, stdout, log⟩, world.disk)
      | .error failure => (⟨1, stdout, log ++ failure.message ++ "\n"⟩, world.disk)

end Scaffold.CommandLine
