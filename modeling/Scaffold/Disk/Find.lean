import Scaffold.Disk.Basic

/-!
# Finding places

`Disk.find` follows a path over the disk to the place that it names. Every part but the last has to
lead into a directory. A symbolic link is followed wherever it stands in front of further parts, and
at the end if the caller asks for it; forty of them in a row are followed and no more. The place
found may be free: then it lies in a directory, and an entry can be made there.
-/

namespace Scaffold

/-- The longest name of an entry, in bytes. -/
def nameLimit : Nat := 255

/-- The first length of a path that is too long, in bytes. -/
def pathLimit : Nat := 4096

/-- How many links are followed on the way to one place. -/
def linkLimit : Nat := 40

/-- The parts that are followed: a slash at the end asks for a directory, as a dot does. -/
def Path.walkedParts (p : Path) : List Part :=
  if p.isSlashed then p.writtenParts ++ [.here] else p.writtenParts

namespace Disk

/-- Follows parts from a place. `onLink` goes on from the directory of a link, along the parts of its
target and those behind it. -/
def followWith (d : Disk) (atEnd : Bool)
    (onLink : Place → List Part → Except DiskError Place) :
    Place → List Part → Except DiskError Place
  | p, [] => .ok p
  | _, .root :: rest => followWith d atEnd onLink [] rest
  | p, .here :: rest => followWith d atEnd onLink p rest
  | p, .up :: rest => followWith d atEnd onLink p.tail rest
  | p, .name n :: rest =>
    if n.utf8ByteSize > nameLimit then .error .nameTooLong
    else
      match d.get? (n :: p) with
      | some .directory => followWith d atEnd onLink (n :: p) rest
      | some (.link target) =>
        if rest.isEmpty && !atEnd then .ok (n :: p) else onLink p (target.walkedParts ++ rest)
      | some (.file _ _) => if rest.isEmpty then .ok (n :: p) else .error .notDirectory
      | none => if rest.isEmpty then .ok (n :: p) else .error .notFound

/-- Follows parts from a place over at most `links` links. -/
def follow (d : Disk) (atEnd : Bool) : (links : Nat) → Place → List Part → Except DiskError Place
  | 0 => followWith d atEnd fun _ _ => .error .tooManyLinks
  | links + 1 => followWith d atEnd (follow d atEnd links)

/-- Refuses the texts that no disk operation takes. -/
def checkText (p : Path) : Except DiskError Unit :=
  if p.text.toList.contains '\x00' then .error .nulInPath
  else if p.text = "" then .error .notFound
  else if p.text.utf8ByteSize ≥ pathLimit then .error .nameTooLong
  else .ok ()

/-- The place that a path names. -/
def find (d : Disk) (p : Path) : Except DiskError Place := do
  checkText p
  d.follow true linkLimit d.cwd p.walkedParts

/-- The entry that a path names. -/
def node? (d : Disk) (p : Path) : Option Node :=
  match d.find p with
  | .ok place => d.get? place
  | .error _ => none

/-- The entry that a path names, a link at its end not followed. -/
def entryItself? (d : Disk) (p : Path) : Option Node :=
  match (do checkText p; d.follow false linkLimit d.cwd p.walkedParts : Except DiskError Place) with
  | .ok place => d.get? place
  | .error _ => none

/-- Whether a path names anything. -/
def holds (d : Disk) (p : Path) : Bool := (d.node? p).isSome

/-- Whether a path names a directory. -/
def isDirectory (d : Disk) (p : Path) : Bool := d.node? p = some .directory

/-- Whether a path names a file. -/
def isFile (d : Disk) (p : Path) : Bool :=
  match d.node? p with
  | some (.file _ _) => true
  | _ => false

/-! ## Reading and writing one entry -/

/-- The entry that a path names; a free place is none. -/
def read (d : Disk) (p : Path) : Except DiskError Node := do
  match d.get? (← d.find p) with
  | some node => .ok node
  | none => .error .notFound

/-- The text of a file. -/
def readText (d : Disk) (p : Path) : Except DiskError String := do
  match ← d.read p with
  | .file content _ =>
    match String.fromUTF8? content with
    | some text => .ok text
    | none => .error .notText
  | _ => .error .isDirectory

/-- Makes or replaces the file that a path names. `mark` gives the mark of an executable from the
mark of the file that was there. -/
def write (d : Disk) (p : Path) (content : ByteArray) (mark : Option Bool → Bool) :
    Except DiskError Disk := do
  checkText p
  let place ← d.follow true linkLimit d.cwd p.writtenParts
  if p.isSlashed then throw .isDirectory
  match d.get? place with
  | none => .ok (d.set place (.file content (mark none)))
  | some (.file _ old) => .ok (d.set place (.file content (mark (some old))))
  | some _ => .error .isDirectory

/-- Makes one directory. -/
def makeDirectory (d : Disk) (p : Path) : Except DiskError Disk := do
  checkText p
  match p.writtenParts.getLast? with
  | some (.name n) =>
    let outer ← d.follow true linkLimit d.cwd (p.writtenParts.dropLast ++ [.here])
    if n.utf8ByteSize > nameLimit then throw .nameTooLong
    match d.get? (n :: outer) with
    | some _ => .error .exists_
    | none => .ok (d.set (n :: outer) .directory)
  | _ =>
    let _ ← d.find p
    .error .exists_

end Disk

end Scaffold
