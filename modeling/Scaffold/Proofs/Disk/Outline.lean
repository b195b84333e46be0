import Scaffold.Disk.Find

/-!
# The outline of a disk

The outline of a disk has the same entries, but all its files are empty. Nothing that finds, asks for,
makes or writes an entry looks at the bytes of a file, so it does the same on the outline: paths lead
to the same places (`find_outline`), and the outline of what is made or written is what is made
or written on the outline (`makeDirectory_outline`, `write_outline`).
-/

namespace Scaffold

/-- The entry without the bytes of its file. -/
def Node.outline : Node → Node
  | .directory => .directory
  | .file _ executable => .file ByteArray.empty executable
  | .link target => .link target

theorem Node.outline_eq_directory_iff {node : Node} : node.outline = .directory ↔ node = .directory := by
  cases node with
  | directory => exact Iff.rfl
  | file _ _ | link _ => exact ⟨Node.noConfusion, Node.noConfusion⟩

namespace Disk

/-- The disk with all its files emptied. -/
def outline (d : Disk) : Disk := { d with entries := d.entries.map fun (p, node) => (p, node.outline) }

variable (d : Disk)

@[simp] theorem cwd_outline : d.outline.cwd = d.cwd := rfl

theorem lookup_outline (entries : List (Place × Node)) (p : Place) :
    (entries.map fun (q, node) => (q, node.outline)).lookup p =
      (entries.lookup p).map Node.outline := by
  induction entries with
  | nil => rfl
  | cons entry entries ih =>
    rw [List.map_cons, List.lookup_cons, List.lookup_cons, ih]
    split
    · rfl
    · rfl

@[simp] theorem get?_outline (p : Place) : d.outline.get? p = (d.get? p).map Node.outline := by
  cases p with
  | nil => rfl
  | cons n outer => exact lookup_outline d.entries (n :: outer)

theorem isDirectory_outline_iff (p : Place) :
    d.outline.get? p = some .directory ↔ d.get? p = some .directory := by
  rw [get?_outline, Option.map_eq_some_iff]
  simp only [Node.outline_eq_directory_iff, exists_eq_right]

theorem assignEntry_outline (p : Place) (node : Node) (entries : List (Place × Node)) :
    assignEntry p node.outline (entries.map fun (q, old) => (q, old.outline)) =
      (assignEntry p node entries).map fun (q, old) => (q, old.outline) := by
  induction entries with
  | nil => rfl
  | cons entry entries ih =>
    rw [List.map_cons, assignEntry, assignEntry, ih]
    split
    · rfl
    · rfl

theorem outline_set (p : Place) (node : Node) :
    (d.set p node).outline = d.outline.set p node.outline :=
  congrArg (Disk.mk · d.cwd) (assignEntry_outline p node d.entries).symm

@[simp] theorem names_outline (p : Place) : d.outline.names p = d.names p :=
  List.filterMap_map

/-! ## Paths -/

theorem followWith_outline (atEnd : Bool) (onLink : Place → List Part → Except DiskError Place)
    (p : Place) (xs : List Part) :
    d.outline.followWith atEnd onLink p xs = d.followWith atEnd onLink p xs := by
  induction xs generalizing p with
  | nil => rfl
  | cons x rest ih =>
    cases x with
    | root => exact ih []
    | here => exact ih p
    | up => exact ih p.tail
    | name n =>
      rw [followWith, followWith, get?_outline]
      cases d.get? (n :: p) with
      | none => rfl
      | some node =>
        cases node with
        | directory => simp only [Option.map_some, Node.outline, ih]
        | file _ _ => rfl
        | link target => rfl

@[simp] theorem follow_outline (atEnd : Bool) (links : Nat) (p : Place) (xs : List Part) :
    d.outline.follow atEnd links p xs = d.follow atEnd links p xs := by
  induction links generalizing p xs with
  | zero => exact followWith_outline d atEnd _ p xs
  | succ links ih =>
    rw [follow, follow, followWith_outline, funext fun p => funext fun xs => ih p xs]

@[simp] theorem find_outline (path : Path) : d.outline.find path = d.find path := by
  rw [find, find, follow_outline, cwd_outline]

theorem node?_outline (path : Path) : d.outline.node? path = (d.node? path).map Node.outline := by
  rw [node?, node?, find_outline]
  cases d.find path with
  | ok place => exact get?_outline d place
  | error e => rfl

@[simp] theorem holds_outline (path : Path) : d.outline.holds path = d.holds path := by
  rw [holds, holds, node?_outline, Option.isSome_map]

@[simp] theorem isDirectory_outline (path : Path) : d.outline.isDirectory path = d.isDirectory path := by
  rw [isDirectory, isDirectory, node?_outline]
  simp only [Option.map_eq_some_iff, Node.outline_eq_directory_iff, exists_eq_right]

theorem entryItself?_outline (path : Path) :
    d.outline.entryItself? path = (d.entryItself? path).map Node.outline := by
  rw [entryItself?, entryItself?, follow_outline, cwd_outline]
  split
  · exact get?_outline d _
  · rfl

/-! ## Entries -/

theorem read_outline (path : Path) : d.outline.read path = (d.read path).map Node.outline := by
  rw [read, read, find_outline]
  cases d.find path with
  | error e => rfl
  | ok place =>
    simp only [bind, Except.bind, get?_outline]
    cases d.get? place with
    | none => rfl
    | some node => rfl

theorem makeDirectory_outline (path : Path) :
    d.outline.makeDirectory path = (d.makeDirectory path).map outline := by
  rw [makeDirectory, makeDirectory, follow_outline, find_outline, cwd_outline]
  cases checkText path with
  | error e => rfl
  | ok _ =>
    simp only [bind, Except.bind]
    split
    · next n last =>
      cases d.follow true linkLimit d.cwd (path.writtenParts.dropLast ++ [.here]) with
      | error e => rfl
      | ok outer =>
        dsimp only
        split
        · rfl
        · rw [get?_outline]
          cases d.get? (n :: outer) with
          | some node => rfl
          | none => exact congrArg Except.ok (outline_set d (n :: outer) .directory).symm
    · cases d.find path with
      | error e => rfl
      | ok place => rfl

/-- Whatever is written, the outline of the disk comes to be the same. -/
theorem write_outline (path : Path) (content : ByteArray) (mark : Option Bool → Bool) :
    d.outline.write path ByteArray.empty mark = (d.write path content mark).map outline := by
  rw [write, write, follow_outline, cwd_outline]
  cases checkText path with
  | error e => rfl
  | ok _ =>
    simp only [bind, Except.bind]
    cases d.follow true linkLimit d.cwd path.writtenParts with
    | error e => rfl
    | ok place =>
      dsimp only
      split
      · rfl
      · rw [get?_outline]
        cases d.get? place with
        | none => exact congrArg Except.ok (outline_set d place (.file content _)).symm
        | some node =>
          cases node with
          | file old was => exact congrArg Except.ok (outline_set d place (.file content _)).symm
          | directory | link _ => rfl

end Disk

end Scaffold
