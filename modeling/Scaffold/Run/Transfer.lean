import Scaffold.Run.World

/-!
# Copying and writing

The operations of a run that write: making a directory together with those above it, writing a
rendered text, copying a file, and copying a tree. A tree is walked from its top down, each
directory before what it holds. Its contents are listed after its copy was made, so a tree that is
copied into itself without being recognised grows until its paths are too long.
-/

namespace Scaffold

namespace Run

/-- Makes the directory, going up at most `levels` times to make the directory above first. Another
entry in the way is an error unless it is a directory. -/
def makeDirectories : (levels : Nat) → Path → Run Unit
  | 0, _ => pure ()
  | levels + 1, p => do
    if p.text = "" then return
    match (← disk).makeDirectory p with
    | .ok d => modify fun w => { w with disk := d }
    | .error .notFound =>
      match p.parent? with
      | none => throw (.disk .notFound)
      | some outer =>
        makeDirectories levels outer
        match (← disk).makeDirectory p with
        | .ok d => modify fun w => { w with disk := d }
        | .error e => if !(← disk).isDirectory p then throw (.disk e)
    | .error e => if !(← disk).isDirectory p then throw (.disk e)

/-- Makes a directory and all directories above it. -/
def ensureDirectory (p : Path) : Run Unit := makeDirectories (p.parts.length + 1) p

/-- Makes the directories above a path. -/
def ensureParent (p : Path) : Run Unit :=
  match p.parent? with
  | none => pure ()
  | some outer => ensureDirectory outer

/-- Writes a text to a file; a file that was there keeps its mark of an executable. -/
def writeText (p : Path) (text : String) : Run Unit := do
  ensureParent p
  change fun d => d.write p text.toUTF8 (·.getD false)

/-- The bytes and the mark of a file that can be copied. -/
def copyable (d : Disk) (source : Path) : Except DiskError (ByteArray × Bool) := do
  match ← d.read source with
  | .file content executable => .ok (content, executable)
  | _ => .error .notRegularFile

/-- Copies the bytes of a file and its mark of an executable. The destination is emptied before the
source is read, so a file that is copied onto itself under another path is lost. -/
def copyFile (source dest : Path) : Run Unit := do
  ensureParent dest
  let (_, executable) ← reading (copyable · source)
  change fun d => d.write dest ByteArray.empty fun _ => executable
  let (content, _) ← reading (copyable · source)
  change fun d => d.write dest content fun _ => executable

/-- Copies an entry. A directory is made at the destination, and then what it holds is copied in turn;
everything else, a link included, is copied as a file. The source is opened before the directory is
made, and a source that cannot be opened is noticed after that. `levels` bounds the depth of the
tree. -/
def copyTree (levels : Nat) (source dest : Path) (isDirectory : Bool) : Run Unit := do
  if isDirectory then
    match levels with
    | 0 => pure ()
    | levels + 1 =>
      let before ← disk
      ensureDirectory dest
      match before.find source with
      | .error e => throw (.listing source e)
      | .ok place =>
        let d ← disk
        (d.names place).forM fun name =>
          copyTree levels (source.join ⟨name⟩) (dest.join ⟨name⟩)
            (d.get? (name :: place) = some .directory)
  else
    note (.copying source dest)
    copyFile source dest

/-- Copies a file, or a directory with everything in it. A path that is its own destination stays as
it is, and a directory whose copy would lie inside it is refused. Both are told from the parts of
the two paths alone. No path has more parts than `pathLimit` allows, so neither has the tree. -/
def copyPath (source dest : Path) : Run Unit := do
  if source.sameParts dest then note (.ownDestination source)
  else
    let d ← disk
    if !d.isDirectory source then copyFile source dest
    else if dest.startsWith source then throw (.intoItself source dest)
    else copyTree pathLimit source (dest.join ⟨""⟩) (d.entryItself? source = some .directory)

end Run

end Scaffold
