import Scaffold.Proofs.Disk.Growth
import Scaffold.Proofs.Disk.Normalize

/-!
# What new directories reveal

A path that leads nowhere can lead somewhere when directories are made, not only into those: a link to
`new/../old` leads to `old` once `new` is there. Only a `..` behind a name does that. On a disk where no
link has one (`ClimbsFirst`), a path that descends and is led to an old entry was led there before
(`ClimbsFirst.find_of_edits`): once it has gone into a new directory it stays below, where all is new
(`Sound.free_of_onward`).
-/

namespace Scaffold

/-- Behind a name stand names and dots only. -/
def Falls (xs : List Part) : Prop :=
  xs.Pairwise fun x y => (∃ n, x = .name n) → y ≠ .root ∧ y ≠ .up

theorem Falls.onward {n : String} {rest : List Part} (falls : Falls (.name n :: rest)) :
    ∀ x ∈ rest, x ≠ .root ∧ x ≠ .up := fun x later =>
  (List.pairwise_cons.1 falls).1 x later ⟨n, rfl⟩

theorem Falls.tail {x : Part} {rest : List Part} (falls : Falls (x :: rest)) : Falls rest :=
  (List.pairwise_cons.1 falls).2

/-- What falls goes on with parts that only lead downwards. -/
theorem Falls.append {xs ys : List Part} (falls : Falls xs) (onward : ∀ y ∈ ys, y ≠ .root ∧ y ≠ .up) :
    Falls (xs ++ ys) := by
  have level : Falls ys := List.pairwise_of_forall_mem_list fun _ _ y member _ => onward y member
  exact List.pairwise_append.2 ⟨falls, level, fun _ _ y member _ => onward y member⟩

/-- A path that descends falls, with the dots that are written. -/
theorem Path.Descends.falls {p : Path} (descends : p.Descends) : Falls p.walkedParts := by
  have dotless : (p.walkedParts.filter (· ≠ .here)).Pairwise
      fun x y => (∃ n, x = .name n) → ∃ n, y = .name n := by
    rw [Disk.filter_walkedParts, ← Path.filter_parts]
    exact descends.sublist List.filter_sublist
  refine (List.pairwise_filter.1 dotless).imp ?_
  rintro x y later ⟨n, rfl⟩
  by_cases dot : y = .here
  · subst dot
    exact ⟨Part.noConfusion, Part.noConfusion⟩
  · obtain ⟨m, rfl⟩ := later (by simp) (by simpa using dot) ⟨n, rfl⟩
    exact ⟨Part.noConfusion, Part.noConfusion⟩

namespace Disk

/-- No link has a `..` behind a name. -/
def ClimbsFirst (d : Disk) : Prop :=
  ∀ p target, d.get? p = some (.link target) → target.Descends

variable {d d' : Disk} {links : Nat} {p q : Place} {n : String} {xs : List Part}

/-- A name at the end leads to its place if no link stands there. -/
theorem follow_name_last (fits : n.utf8ByteSize ≤ nameLimit)
    (noLink : ∀ target, d.get? (n :: p) ≠ some (.link target)) :
    d.follow true links p [.name n] = .ok (n :: p) := by
  cases links with
  | zero => exact followWith_name_iff.2 ⟨fits, .ends rfl rfl fun _ => noLink⟩
  | succ links => exact followWith_name_iff.2 ⟨fits, .ends rfl rfl fun _ => noLink⟩

/-- Downwards from a new place all is new. -/
theorem Sound.free_of_onward (sound : d.Sound) (edits : Edits d d')
    (onward : ∀ x ∈ xs, x ≠ .root ∧ x ≠ .up) (free : d.get? p = none)
    (found : d'.follow true links p xs = .ok q) : d.get? q = none := by
  induction xs generalizing p with
  | nil =>
    rw [follow_nil] at found
    cases found
    exact free
  | cons x rest ih =>
    have later : ∀ y ∈ rest, y ≠ .root ∧ y ≠ .up := fun y member =>
      onward y (List.mem_cons_of_mem x member)
    cases x with
    | root => exact absurd rfl (onward .root List.mem_cons_self).1
    | up => exact absurd rfl (onward .up List.mem_cons_self).2
    | here =>
      rw [follow_dot] at found
      exact ih later free found
    | name n =>
      have below : d.get? (n :: p) = none := sound.free_append free [n]
      obtain ⟨-, ⟨-, given, -⟩ | ⟨-, found⟩ | ⟨target, _, -, link, -, -⟩⟩ := follow_name_cases found
      · subst given
        exact below
      · exact ih later below found
      · have before := edits.link link
        rw [below] at before
        cases before

/-- Parts that fall and lead to an old entry led there before. The induction is on the links first, as in
`exists_enters_of_follow`. -/
theorem ClimbsFirst.follow_of_edits (climbs : d.ClimbsFirst) (sound : d.Sound) (edits : Edits d d')
    (old : (d.get? q).isSome) (links : Nat) (p : Place) (xs : List Part) (falls : Falls xs)
    (found : d'.follow true links p xs = .ok q) : d.follow true links p xs = .ok q := by
  match xs with
  | [] =>
    rw [follow_nil] at found ⊢
    exact found
  | .root :: rest =>
    rw [follow_root] at found ⊢
    exact climbs.follow_of_edits sound edits old links [] rest falls.tail found
  | .here :: rest =>
    rw [follow_dot] at found ⊢
    exact climbs.follow_of_edits sound edits old links p rest falls.tail found
  | .up :: rest =>
    rw [follow_up] at found ⊢
    exact climbs.follow_of_edits sound edits old links p.tail rest falls.tail found
  | .name n :: rest =>
    obtain ⟨fits, ⟨last, given, noLink⟩ | ⟨inner, behind⟩ | ⟨target, fewer, counted, link, -, behind⟩⟩ :=
      follow_name_cases found
    · subst last given
      exact follow_name_last fits fun target there => noLink rfl target (edits.keeps.link there)
    · cases before : d.get? (n :: p) with
      | none =>
        have new := sound.free_of_onward edits falls.onward before behind
        rw [new] at old
        cases old
      | some node =>
        have directory := (edits.keeps.directory_iff (by rw [before]; rfl)).1 inner
        rw [follow_name_of_directory fits directory]
        exact climbs.follow_of_edits sound edits old links (n :: p) rest falls.tail behind
    · subst counted
      have before := edits.link link
      rw [follow_name_of_link fits before fun _ => rfl]
      exact climbs.follow_of_edits sound edits old fewer p (target.walkedParts ++ rest)
        ((climbs _ target before).falls.append falls.onward) behind
termination_by (links, xs.length)

/-- A path that descends and leads to an old entry led there before. -/
theorem ClimbsFirst.find_of_edits (climbs : d.ClimbsFirst) (sound : d.Sound) (edits : Edits d d')
    {path : Path} (descends : path.Descends) (old : (d.get? q).isSome)
    (found : d'.find path = .ok q) : d.find path = .ok q := by
  have walked := follow_walkedParts_of_find found
  rw [edits.cwd] at walked
  rw [find_of_checkText (checkText_of_find found)]
  exact climbs.follow_of_edits sound edits old linkLimit d.cwd _ descends.falls walked

end Disk

end Scaffold
