/-!
# Paths

A path is a text. Its parts are found by cutting it at the slashes: empty parts and every `.` but a
leading one are dropped, and `..` stays. `Path.normalize` folds `..` into the name before it, and
`Path.absolutize` puts a path below a root even when it begins with a slash. Nothing here looks at a
disk.

Both go over the parts of a path in rounds, and keep what they have so far as a path. A round that
meets `..` cuts that path into parts again to see what it ends in. Proofs do not open them by
unification, only by their equations.

`Place` is the meaning of a path: the directory names from the innermost one outward. A part moves
from one place to another, and a path moves by its parts in turn.
-/

namespace Scaffold

/-- The names from the innermost directory outward. -/
abbrev Place := List String

/-- A part of a path. -/
inductive Part where
  | root
  | here
  | up
  | name (n : String)
  deriving DecidableEq

/-- The place that a part leads to. Nothing lies above the top. -/
def Part.step : Place → Part → Place
  | _, .root => []
  | p, .here => p
  | p, .up => p.tail
  | p, .name n => n :: p

/-- The text between two slashes as a part; an empty one is none. -/
def Part.ofPiece? : List Char → Option Part
  | [] => none
  | ['.'] => some .here
  | ['.', '.'] => some .up
  | cs => some (.name (String.ofList cs))

/-- The pieces of a text between its slashes. -/
def cutAtSlashes : List Char → List (List Char)
  | [] => [[]]
  | c :: rest =>
    if c = '/' then [] :: cutAtSlashes rest
    else
      match cutAtSlashes rest with
      | [] => [[c]]
      | piece :: pieces => (c :: piece) :: pieces

/-- A path, as it is written. -/
structure Path where
  text : String
  deriving DecidableEq, Inhabited

namespace Path

/-- Whether the path begins at the top. -/
def isRooted (p : Path) : Bool := p.text.toList.head? = some '/'

/-- Whether the path ends with a slash. -/
def isSlashed (p : Path) : Bool := p.text.toList.getLast? = some '/'

/-- All parts that are written, every `.` included. -/
def writtenParts (p : Path) : List Part :=
  let parts := (cutAtSlashes p.text.toList).filterMap Part.ofPiece?
  if p.isRooted then .root :: parts else parts

/-- The parts of a path: a `.` counts only at the beginning. -/
def parts (p : Path) : List Part :=
  match p.writtenParts with
  | [] => []
  | first :: rest => first :: rest.filter (· ≠ .here)

/-- The place that a path names, seen from a directory. -/
def place (cwd : Place) (p : Path) : Place := p.parts.foldl Part.step cwd

/-- A path below this one. A rooted path replaces it. -/
def join (base rel : Path) : Path :=
  if rel.isRooted then rel
  else if base.text = "" || base.isSlashed then ⟨base.text ++ rel.text⟩
  else ⟨base.text ++ "/" ++ rel.text⟩

/-- The parts, with slashes between them. -/
def ofParts : List Part → Path
  | .root :: rest => ⟨"/" ++ "/".intercalate (rest.map word)⟩
  | all => ⟨"/".intercalate (all.map word)⟩
where
  /-- How a part is written. -/
  word : Part → String
    | .root => ""
    | .here => "."
    | .up => ".."
    | .name n => n

/-- The rooted path of a place. -/
def ofPlace (p : Place) : Path := ofParts (.root :: p.reverse.map .name)

/-- The path without its last part; none for the top and for the empty path. -/
def parent? (p : Path) : Option Path :=
  match p.parts.getLast? with
  | none => none
  | some .root => none
  | some _ => some (ofParts p.parts.dropLast)

/-- Whether two paths have the same parts. -/
def sameParts (p q : Path) : Bool := p.parts = q.parts

/-- Whether the parts of the other path begin this one. -/
def startsWith (p q : Path) : Bool := q.parts.isPrefixOf p.parts

/-! ## Normalizing -/

/-- The path that holds one part. -/
def ofPart : Part → Path
  | .root => ⟨"/"⟩
  | x => ⟨ofParts.word x⟩

/-- One round of normalizing. A `..` takes back the name that the path ends in so far. At the top it
is dropped, and behind nothing and behind another `..` it is kept. -/
def foldPart (folded : Path) : Part → Path
  | .here => folded
  | .up =>
    match folded.parts.getLast? with
    | some (.name _) => folded.parent?.getD folded
    | some .root => folded
    | _ => folded.join (ofPart .up)
  | x => folded.join (ofPart x)

/-- The canonical spelling of a path. What is folded to nothing is spelled `.`. -/
@[irreducible] def normalize (p : Path) : Path :=
  let folded := p.parts.foldl foldPart ⟨""⟩
  if folded.text = "" then folded.join (ofPart .here) else folded

/-- One round of going below a root: any part but a top is put behind the path. -/
def joinPart (joined : Path) : Part → Path
  | .root => joined
  | x => joined.join (ofPart x)

/-- The path `rel` below `root`, in canonical spelling. A leading slash of `rel` is ignored. -/
@[irreducible] def absolutize (root rel : Path) : Path :=
  (rel.parts.foldl joinPart root).normalize

end Path

end Scaffold
