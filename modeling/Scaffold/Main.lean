import Scaffold.CommandLine.Program
import Scaffold.Edn.Reader
import Scaffold.Renderer
import Scaffold.Template.Render

/-!
# The command

`CommandLine.call` works on a disk that is a value. The command takes that value from the machine,
makes the call, stores the entries that the call changed, and prints what the call says. It takes
only what a session can look at: the manifests of the directories on the command line, and the
source and the destination of every step that can be reached from them.

The machine does not tell which files may be executed, so a copy is never marked here. A link that
leads nowhere counts as a free place.
-/

namespace Scaffold.Command

/-- Takes entries from the machine into a disk. -/
abbrev Survey := StateT Disk IO

/-- What stands under a name in a directory, a link not followed. -/
def kind? (name : String) (outer : Place) : IO (Option IO.FS.FileType) := do
  let entry : IO.FS.DirEntry := ⟨(Path.ofPlace outer).text, name⟩
  match ← entry.path.symlinkMetadata.toBaseIO with
  | .ok found => return some found.type
  | .error _ => return none

/-- Takes a file, once. -/
def takeFile (place : Place) : Survey Unit := do
  if ((← get).get? place).isNone then
    let content ← IO.FS.readBinFile (Path.ofPlace place).text
    modify (·.set place (.file content false))

/-- Follows parts from a place and takes every entry on the way. -/
partial def follow (place : Place) : List Part → Survey Place
  | [] => return place
  | .name n :: rest => do
    let inner := n :: place
    match ← kind? n place with
    | some .dir =>
      modify (·.set inner .directory)
      follow inner rest
    | some .file =>
      takeFile inner
      follow inner rest
    | some .symlink =>
      match ← (IO.FS.realPath (Path.ofPlace inner).text).toBaseIO with
      | .ok real =>
        let target : Path := ⟨real.toString⟩
        modify (·.set inner (.link target))
        follow place (target.parts ++ rest)
      | .error _ => follow inner rest
    | _ => follow inner rest
  | part :: rest => follow (part.step place) rest

/-- Takes everything below a place. Links are taken with what they name, and not descended. -/
partial def takeBelow (place : Place) : Survey Unit := do
  if (← get).get? place = some .directory then
    for entry in ← (← IO.FS.realPath (Path.ofPlace place).text).readDir do
      let inner ← follow place [.name entry.fileName]
      if inner = entry.fileName :: place then takeBelow inner

/-- Takes what a path names. -/
def look (p : Path) : Survey Place := do follow (← get).cwd p.writtenParts

/-- Takes what a path names, with everything below it. -/
def lookBelow (p : Path) : Survey Unit := do takeBelow (← look p)

/-- Takes what a session between the given directories can look at. -/
def lookAround (imports : List Path) (dest : Path) : Survey Unit := do
  for root in imports ++ [dest] do
    let _ ← look (root.join manifestFile)
  let (steps, _) := (Run.reachable Edn.Value.read imports dest).run.run (World.start (← get))
  for (root, step) in steps.toOption.getD [] do
    if let some t := step.transfer? then
      lookBelow (root.absolutize t.src)
      lookBelow (dest.absolutize t.dest)

/-- Takes the current directory, and what a call with the given words can look at. -/
def survey (words : List String) : Survey Unit := do
  let here : Path := ⟨(← IO.currentDir).toString⟩
  let cwd ← follow [] here.parts
  modify fun d => { d with cwd := cwd }
  if let .ok arguments := CommandLine.Arguments.read words then
    if let some (imports, dest) := arguments.targets? then lookAround imports dest

/-- Stores an entry on the machine. No call makes links. -/
def store (place : Place) : Node → IO Unit
  | .directory => IO.FS.createDirAll (Path.ofPlace place).text
  | .file content _ => IO.FS.writeBinFile (Path.ofPlace place).text content
  | .link _ => pure ()

end Scaffold.Command

/-- Runs the program on the words of the command line. -/
def main (words : List String) : IO UInt32 := do
  let ((), before) ← (Scaffold.Command.survey words).run ⟨[], []⟩
  let renderer := Scaffold.Renderer.ofEngine Scaffold.Template.render
  let (finish, after) := Scaffold.CommandLine.call Scaffold.Edn.Value.read renderer words before
  for (place, node) in before.changes after do
    Scaffold.Command.store place node
  IO.print finish.stdout
  IO.eprint finish.stderr
  return finish.code.toUInt32
