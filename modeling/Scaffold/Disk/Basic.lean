import Scaffold.Path

/-!
# Disks

A disk is a value: an entry for each place that holds something, and the directory from which paths
are seen. An entry is a directory, a file with its bytes and the mark of an executable, or a
symbolic link. The top is always a directory. `Disk.get?` looks at one place and `Disk.set` changes
one place; all that a run does to a disk is a row of such changes.

A file belongs to its place, so it has one name only: there are no hard links. There are no owners and
no permissions beside the mark of an executable, and nothing is refused for lack of them. No device is
ever full or fails, and nobody else changes the disk during a run.
-/

namespace Scaffold

/-- Bytes are compared by the comparison of the core library, whatever else is in scope. -/
local instance bytesDecidableEq : DecidableEq ByteArray :=
  ByteArray.instDecidableEq

/-- What a place holds. -/
inductive Node where
  | directory
  | file (content : ByteArray) (executable : Bool)
  | link (target : Path)
  deriving DecidableEq, Inhabited

/-- Why the disk refuses an operation. -/
inductive DiskError where
  | notFound
  | exists_
  | notDirectory
  | isDirectory
  | nameTooLong
  | tooManyLinks
  | nulInPath
  | notText
  | notRegularFile
  deriving DecidableEq, Repr

/-- Entries by place, and the current directory. -/
structure Disk where
  entries : List (Place × Node)
  cwd : Place
  deriving Inhabited

/-- Gives a place an entry, in its old position if it has one. -/
def assignEntry (p : Place) (n : Node) : List (Place × Node) → List (Place × Node)
  | [] => [(p, n)]
  | (q, m) :: rest => if q = p then (q, n) :: rest else (q, m) :: assignEntry p n rest

theorem lookup_assignEntry (p q : Place) (n : Node) (entries : List (Place × Node)) :
    (assignEntry p n entries).lookup q = if q = p then some n else entries.lookup q := by
  induction entries with
  | nil =>
    by_cases h : q = p
    · simp [assignEntry, h]
    · simp [assignEntry, List.lookup_cons, h, beq_false_of_ne h]
  | cons e rest ih =>
    obtain ⟨r, m⟩ := e
    by_cases hr : r = p
    · by_cases h : q = p
      · simp [assignEntry, hr, h]
      · simp [assignEntry, hr, h, List.lookup_cons, beq_false_of_ne h]
    · by_cases h : q = r
      · have hp : q ≠ p := fun e => hr (h.symm.trans e)
        simp [assignEntry, hr, h]
      · simp [assignEntry, hr, List.lookup_cons, ih, beq_false_of_ne h]

namespace Disk

/-- The entry at a place. -/
def get? (d : Disk) : Place → Option Node
  | [] => some .directory
  | n :: outer => d.entries.lookup (n :: outer)

/-- Gives a place below the top an entry. -/
def set (d : Disk) (p : Place) (n : Node) : Disk := { d with entries := assignEntry p n d.entries }

@[simp] theorem get?_top (d : Disk) : d.get? [] = some .directory := rfl

theorem get?_set {d : Disk} {p : Place} (below : p ≠ []) (q : Place) (n : Node) :
    (d.set p n).get? q = if q = p then some n else d.get? q := by
  cases q with
  | nil =>
    have other : ([] : Place) ≠ p := fun h => below h.symm
    simp [get?, other]
  | cons m outer => simp [get?, set, lookup_assignEntry]

@[simp] theorem cwd_set (d : Disk) (p : Place) (n : Node) : (d.set p n).cwd = d.cwd := rfl

/-- The names in a directory, in the order in which their entries were made. -/
def names (d : Disk) (p : Place) : List String :=
  d.entries.filterMap fun (q, _) =>
    match q with
    | [] => none
    | n :: outer => if outer = p then some n else none

/-- The entries of a later disk that an earlier one does not have, in the order of the later one. -/
def changes (earlier later : Disk) : List (Place × Node) :=
  later.entries.filter fun (p, n) => earlier.get? p ≠ some n

end Disk

end Scaffold
