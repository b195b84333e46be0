import Scaffold.Disk.Find

/-!
# Passing a name

A path that leads somewhere passes each of its names in one of three ways: it ends there, it goes into a
directory, or it goes over a link. `Passes` lists the three, and `followWith_name_iff` says that there
is no other way. What is said of paths on a disk goes by these cases.
-/

namespace Scaffold

namespace Disk

variable {d : Disk} {atEnd : Bool} {p q : Place} {onLink : Place → List Part → Except DiskError Place}

theorem followWith_name_of_directory {n : String} {rest : List Part}
    (directory : d.get? (n :: p) = some .directory) (fits : n.utf8ByteSize ≤ nameLimit) :
    d.followWith atEnd onLink p (.name n :: rest) = d.followWith atEnd onLink (n :: p) rest := by
  rw [followWith, if_neg (Nat.not_lt_of_le fits), directory]

theorem followWith_name_of_link {n : String} {rest : List Part} {target : Path}
    (link : d.get? (n :: p) = some (.link target)) (fits : n.utf8ByteSize ≤ nameLimit)
    (follows : rest = [] → atEnd = true) :
    d.followWith atEnd onLink p (.name n :: rest) = onLink p (target.walkedParts ++ rest) := by
  have onward : ¬ (rest.isEmpty && !atEnd) = true := by
    rw [Bool.and_eq_true, List.isEmpty_iff, Bool.not_eq_true']
    rintro ⟨last, stays⟩
    rw [follows last] at stays
    cases stays
  rw [followWith, if_neg (Nat.not_lt_of_le fits), link]
  exact if_neg onward

/-- The ways in which a path passes the name `n` in the directory `p` and leads on to `q`. -/
inductive Passes (d : Disk) (atEnd : Bool) (onLink : Place → List Part → Except DiskError Place)
    (p : Place) (n : String) (rest : List Part) (q : Place) : Prop
  | ends : rest = [] → q = n :: p →
    (atEnd = true → ∀ target, d.get? (n :: p) ≠ some (.link target)) →
      Passes d atEnd onLink p n rest q
  | inside : rest ≠ [] → d.get? (n :: p) = some .directory →
    d.followWith atEnd onLink (n :: p) rest = .ok q → Passes d atEnd onLink p n rest q
  | across {target : Path} : d.get? (n :: p) = some (.link target) → (rest = [] → atEnd = true) →
    onLink p (target.walkedParts ++ rest) = .ok q → Passes d atEnd onLink p n rest q

theorem followWith_name_iff {n : String} {rest : List Part} :
    d.followWith atEnd onLink p (.name n :: rest) = .ok q ↔
      n.utf8ByteSize ≤ nameLimit ∧ Passes d atEnd onLink p n rest q := by
  constructor
  · intro found
    rw [followWith] at found
    split at found
    · cases found
    · next fits =>
      refine ⟨Nat.le_of_not_lt fits, ?_⟩
      split at found
      · next there =>
        cases rest with
        | nil =>
          cases found
          refine .ends rfl rfl fun _ target link => ?_
          rw [there] at link
          cases link
        | cons x rest => exact .inside (List.cons_ne_nil x rest) there found
      · next target there =>
        split at found
        · next last =>
          simp only [Bool.and_eq_true, List.isEmpty_iff, Bool.not_eq_true'] at last
          cases found
          refine .ends last.1 rfl fun follows => ?_
          rw [last.2] at follows
          cases follows
        · next last =>
          simp only [Bool.and_eq_true, List.isEmpty_iff, Bool.not_eq_true', not_and,
            Bool.not_eq_false] at last
          exact .across there last found
      · next there =>
        split at found
        · next last =>
          cases found
          refine .ends (List.isEmpty_iff.1 last) rfl fun _ target link => ?_
          rw [there] at link
          cases link
        · cases found
      · next there =>
        split at found
        · next last =>
          cases found
          refine .ends (List.isEmpty_iff.1 last) rfl fun _ target link => ?_
          rw [there] at link
          cases link
        · cases found
  · rintro ⟨fits, passes⟩
    cases passes with
    | ends last given noLink =>
      subst last given
      rw [followWith, if_neg (Nat.not_lt_of_le fits)]
      split
      · rfl
      · next target there =>
        cases atEnd with
        | true => exact absurd there (noLink rfl target)
        | false => rfl
      · rfl
      · rfl
    | inside _ there found => exact (followWith_name_of_directory there fits).trans found
    | across there follows found => exact (followWith_name_of_link there fits follows).trans found

end Disk

end Scaffold
