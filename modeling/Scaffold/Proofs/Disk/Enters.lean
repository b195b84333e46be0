import Scaffold.Proofs.Disk.Passes

/-!
# Entering directories

`Enters` says that a row of parts leads into a directory: one part after the other, each name over a
directory or over a link to one, with the links that may still be followed counted on the way. It is
how a path is followed as long as more of it is to come (`exists_enters_of_follow`), and what comes
behind is followed from the directory that was entered, with the links that are left
(`Enters.follow_append`). Rows are entered one behind the other (`Enters.append`,
`exists_enters_of_append`), and a dot matters only at the end, where it asks for a directory
(`follow_filter`, `follow_of_filter`).
-/

namespace Scaffold

namespace Disk

variable {d : Disk} {atEnd : Bool} {links left : Nat} {p q r : Place} {n : String} {x : Part}
  {xs ys : List Part}

/-! ## Following one part -/

theorem follow_nil : d.follow atEnd links p [] = .ok p := by
  cases links with
  | zero => rfl
  | succ links => rfl

theorem follow_root : d.follow atEnd links p (.root :: xs) = d.follow atEnd links [] xs := by
  cases links with
  | zero => rfl
  | succ links => rfl

theorem follow_dot : d.follow atEnd links p (.here :: xs) = d.follow atEnd links p xs := by
  cases links with
  | zero => rfl
  | succ links => rfl

theorem follow_up : d.follow atEnd links p (.up :: xs) = d.follow atEnd links p.tail xs := by
  cases links with
  | zero => rfl
  | succ links => rfl

theorem follow_name_of_directory (fits : n.utf8ByteSize ≤ nameLimit)
    (directory : d.get? (n :: p) = some .directory) :
    d.follow atEnd links p (.name n :: xs) = d.follow atEnd links (n :: p) xs := by
  cases links with
  | zero => exact followWith_name_of_directory directory fits
  | succ links => exact followWith_name_of_directory directory fits

theorem follow_name_of_link {target : Path} (fits : n.utf8ByteSize ≤ nameLimit)
    (link : d.get? (n :: p) = some (.link target)) (follows : xs = [] → atEnd = true) :
    d.follow atEnd (links + 1) p (.name n :: xs) =
      d.follow atEnd links p (target.walkedParts ++ xs) :=
  followWith_name_of_link link fits follows

/-- The ways in which a name is passed, with the links counted. -/
theorem follow_name_cases (found : d.follow atEnd links p (.name n :: xs) = .ok q) :
    n.utf8ByteSize ≤ nameLimit ∧
      ((xs = [] ∧ q = n :: p ∧ (atEnd = true → ∀ target, d.get? (n :: p) ≠ some (.link target))) ∨
      (d.get? (n :: p) = some .directory ∧ d.follow atEnd links (n :: p) xs = .ok q) ∨
      ∃ target fewer, links = fewer + 1 ∧ d.get? (n :: p) = some (.link target) ∧
        (xs = [] → atEnd = true) ∧ d.follow atEnd fewer p (target.walkedParts ++ xs) = .ok q) := by
  cases links with
  | zero =>
    obtain ⟨fits, passes⟩ := followWith_name_iff.1 found
    refine ⟨fits, ?_⟩
    cases passes with
    | ends last given noLink => exact .inl ⟨last, given, noLink⟩
    | inside _ there found => exact .inr (.inl ⟨there, found⟩)
    | across _ _ failed => cases failed
  | succ links =>
    obtain ⟨fits, passes⟩ := followWith_name_iff.1 found
    refine ⟨fits, ?_⟩
    cases passes with
    | ends last given noLink => exact .inl ⟨last, given, noLink⟩
    | inside _ there found => exact .inr (.inl ⟨there, found⟩)
    | across there follows found => exact .inr (.inr ⟨_, links, rfl, there, follows, found⟩)

/-! ## Entering -/

/-- From the place `p`, the parts lead into the directory `q`. Of the links that may be followed some are
left there. -/
inductive Enters (d : Disk) : (links : Nat) → Place → List Part → (left : Nat) → Place → Prop
  | done {links : Nat} {p : Place} : Enters d links p [] links p
  | root {links left : Nat} {p q : Place} {xs : List Part} :
    Enters d links [] xs left q → Enters d links p (.root :: xs) left q
  | here {links left : Nat} {p q : Place} {xs : List Part} :
    Enters d links p xs left q → Enters d links p (.here :: xs) left q
  | up {links left : Nat} {p q : Place} {xs : List Part} :
    Enters d links p.tail xs left q → Enters d links p (.up :: xs) left q
  | inside {links left : Nat} {p q : Place} {n : String} {xs : List Part} :
    n.utf8ByteSize ≤ nameLimit → d.get? (n :: p) = some .directory →
      Enters d links (n :: p) xs left q → Enters d links p (.name n :: xs) left q
  | across {links left : Nat} {p q : Place} {n : String} {target : Path} {xs : List Part} :
    n.utf8ByteSize ≤ nameLimit → d.get? (n :: p) = some (.link target) →
      Enters d links p (target.walkedParts ++ xs) left q →
        Enters d (links + 1) p (.name n :: xs) left q

/-- What comes behind parts that are entered is followed from there. -/
theorem Enters.follow_append (enters : d.Enters links p xs left q) (x : Part) (ys : List Part) :
    d.follow atEnd links p (xs ++ x :: ys) = d.follow atEnd left q (x :: ys) := by
  induction enters with
  | done => rfl
  | root _ ih => exact follow_root.trans ih
  | here _ ih => exact follow_dot.trans ih
  | up _ ih => exact follow_up.trans ih
  | inside fits directory _ ih => exact (follow_name_of_directory fits directory).trans ih
  | @across links left p q n target xs fits link _ ih =>
    have more : xs ++ x :: ys ≠ [] := List.append_ne_nil_of_right_ne_nil xs (List.cons_ne_nil x ys)
    rw [List.append_assoc] at ih
    exact (follow_name_of_link fits link fun last => absurd last more).trans ih

/-- Parts that are entered lead to the directory, also at the end of a path. -/
theorem Enters.follow (enters : d.Enters links p xs left q) :
    d.follow true links p xs = .ok q := by
  induction enters with
  | done => exact follow_nil
  | root _ ih => exact follow_root.trans ih
  | here _ ih => exact follow_dot.trans ih
  | up _ ih => exact follow_up.trans ih
  | inside fits directory _ ih => exact (follow_name_of_directory fits directory).trans ih
  | across fits link _ ih => exact (follow_name_of_link fits link fun _ => rfl).trans ih

/-- A path that can be followed enters what stands in front of each of its parts. The induction is on the
links first, for the parts of a link's target come in addition. -/
theorem exists_enters_of_follow (links : Nat) (p : Place) (xs : List Part)
    (found : d.follow atEnd links p (xs ++ x :: ys) = .ok r) :
    ∃ left q, d.Enters links p xs left q ∧ d.follow atEnd left q (x :: ys) = .ok r := by
  match xs with
  | [] => exact ⟨links, p, .done, found⟩
  | .root :: rest =>
    rw [List.cons_append, follow_root] at found
    obtain ⟨left, q, enters, behind⟩ := exists_enters_of_follow links [] rest found
    exact ⟨left, q, .root enters, behind⟩
  | .here :: rest =>
    rw [List.cons_append, follow_dot] at found
    obtain ⟨left, q, enters, behind⟩ := exists_enters_of_follow links p rest found
    exact ⟨left, q, .here enters, behind⟩
  | .up :: rest =>
    rw [List.cons_append, follow_up] at found
    obtain ⟨left, q, enters, behind⟩ := exists_enters_of_follow links p.tail rest found
    exact ⟨left, q, .up enters, behind⟩
  | .name n :: rest =>
    rw [List.cons_append] at found
    obtain ⟨fits, ⟨last, -⟩ | ⟨directory, found⟩ | ⟨target, fewer, counted, link, -, found⟩⟩ :=
      follow_name_cases found
    · exact absurd last (List.append_ne_nil_of_right_ne_nil rest (List.cons_ne_nil x ys))
    · obtain ⟨left, q, enters, behind⟩ := exists_enters_of_follow links (n :: p) rest found
      exact ⟨left, q, .inside fits directory enters, behind⟩
    · rw [← List.append_assoc] at found
      obtain ⟨left, q, enters, behind⟩ :=
        exists_enters_of_follow fewer p (target.walkedParts ++ rest) found
      subst counted
      exact ⟨left, q, .across fits link enters, behind⟩
termination_by (links, xs.length)

/-- A path that leads to a directory enters it. -/
theorem exists_enters_of_directory (links : Nat) (p : Place) (xs : List Part)
    (directory : d.get? q = some .directory) (found : d.follow true links p xs = .ok q) :
    ∃ left, d.Enters links p xs left q := by
  match xs with
  | [] =>
    rw [follow_nil] at found
    cases found
    exact ⟨links, .done⟩
  | .root :: rest =>
    rw [follow_root] at found
    obtain ⟨left, enters⟩ := exists_enters_of_directory links [] rest directory found
    exact ⟨left, .root enters⟩
  | .here :: rest =>
    rw [follow_dot] at found
    obtain ⟨left, enters⟩ := exists_enters_of_directory links p rest directory found
    exact ⟨left, .here enters⟩
  | .up :: rest =>
    rw [follow_up] at found
    obtain ⟨left, enters⟩ := exists_enters_of_directory links p.tail rest directory found
    exact ⟨left, .up enters⟩
  | .name n :: rest =>
    obtain ⟨fits, ⟨last, given, -⟩ | ⟨inner, found⟩ | ⟨target, fewer, counted, link, -, found⟩⟩ :=
      follow_name_cases found
    · subst last given
      exact ⟨links, .inside fits directory .done⟩
    · obtain ⟨left, enters⟩ := exists_enters_of_directory links (n :: p) rest directory found
      exact ⟨left, .inside fits inner enters⟩
    · obtain ⟨left, enters⟩ :=
        exists_enters_of_directory fewer p (target.walkedParts ++ rest) directory found
      subst counted
      exact ⟨left, .across fits link enters⟩
termination_by (links, xs.length)

/-- A dot at the end asks for a directory that is entered. -/
theorem follow_here_iff :
    d.follow true links p (xs ++ [.here]) = .ok q ↔ ∃ left, d.Enters links p xs left q := by
  constructor
  · intro found
    obtain ⟨left, q', enters, ends⟩ := exists_enters_of_follow links p xs found
    rw [follow_dot, follow_nil] at ends
    cases ends
    exact ⟨left, enters⟩
  · rintro ⟨left, enters⟩
    rw [enters.follow_append, follow_dot, follow_nil]

/-! ## Rows of parts -/

theorem Enters.append {last : Nat} (first : d.Enters links p xs left q)
    (second : d.Enters left q ys last r) : d.Enters links p (xs ++ ys) last r := by
  induction first with
  | done => exact second
  | root _ ih => exact .root (ih second)
  | here _ ih => exact .here (ih second)
  | up _ ih => exact .up (ih second)
  | inside fits directory _ ih => exact .inside fits directory (ih second)
  | across fits link _ ih =>
    have inner := ih second
    rw [List.append_assoc] at inner
    exact .across fits link inner

/-- A row that is entered can be cut anywhere. -/
theorem exists_enters_of_append {last : Nat} (enters : d.Enters links p (xs ++ ys) last r) :
    ∃ left q, d.Enters links p xs left q ∧ d.Enters left q ys last r := by
  generalize whole : xs ++ ys = zs at enters
  induction enters generalizing xs with
  | @done links p =>
    obtain ⟨rfl, rfl⟩ := List.append_eq_nil_iff.1 whole
    exact ⟨links, p, .done, .done⟩
  | @root links left p q zs enters ih =>
    rcases List.append_eq_cons_iff.1 whole with ⟨rfl, rfl⟩ | ⟨rest, rfl, rfl⟩
    · exact ⟨links, p, .done, .root enters⟩
    · obtain ⟨left, q, first, second⟩ := ih rfl
      exact ⟨left, q, .root first, second⟩
  | @here links left p q zs enters ih =>
    rcases List.append_eq_cons_iff.1 whole with ⟨rfl, rfl⟩ | ⟨rest, rfl, rfl⟩
    · exact ⟨links, p, .done, .here enters⟩
    · obtain ⟨left, q, first, second⟩ := ih rfl
      exact ⟨left, q, .here first, second⟩
  | @up links left p q zs enters ih =>
    rcases List.append_eq_cons_iff.1 whole with ⟨rfl, rfl⟩ | ⟨rest, rfl, rfl⟩
    · exact ⟨links, p, .done, .up enters⟩
    · obtain ⟨left, q, first, second⟩ := ih rfl
      exact ⟨left, q, .up first, second⟩
  | @inside links left p q n zs fits directory enters ih =>
    rcases List.append_eq_cons_iff.1 whole with ⟨rfl, rfl⟩ | ⟨rest, rfl, rfl⟩
    · exact ⟨links, p, .done, .inside fits directory enters⟩
    · obtain ⟨left, q, first, second⟩ := ih rfl
      exact ⟨left, q, .inside fits directory first, second⟩
  | @across links left p q n target zs fits link enters ih =>
    rcases List.append_eq_cons_iff.1 whole with ⟨rfl, rfl⟩ | ⟨rest, rfl, rfl⟩
    · exact ⟨links + 1, p, .done, .across fits link enters⟩
    · obtain ⟨left, q, first, second⟩ := ih (List.append_assoc ..)
      exact ⟨left, q, .across fits link first, second⟩

/-! ## Dots -/

/-- Parts lead where they lead without their dots. -/
theorem follow_filter (found : d.follow true links p xs = .ok q) :
    d.follow true links p (xs.filter (· ≠ .here)) = .ok q := by
  induction xs generalizing links p with
  | nil => exact found
  | cons x rest ih =>
    cases x with
    | root =>
      rw [follow_root] at found
      exact follow_root.trans (ih found)
    | here =>
      rw [follow_dot] at found
      exact ih found
    | up =>
      rw [follow_up] at found
      exact follow_up.trans (ih found)
    | name n =>
      rw [List.filter_cons_of_pos (by simp)]
      cases rest with
      | nil => exact found
      | cons y ys =>
        obtain ⟨left, r, enters, behind⟩ := exists_enters_of_follow links p [.name n] found
        have later := ih behind
        cases dotless : (y :: ys).filter (· ≠ .here) with
        | nil =>
          rw [dotless, follow_nil] at later
          cases later
          exact enters.follow
        | cons z zs =>
          rw [dotless] at later
          exact (enters.follow_append z zs).trans later

theorem enters_of_dots (dots : xs.filter (· ≠ .here) = []) : d.Enters links p xs links p := by
  induction xs with
  | nil => exact .done
  | cons x rest ih =>
    have here : x = .here := by
      have dot := List.filter_eq_nil_iff.1 dots x List.mem_cons_self
      simpa using dot
    subst here
    exact .here (ih dots)

/-- Dots can be written in, one at the end only behind a directory. -/
theorem follow_of_filter (directory : xs.getLast? = some .here → d.get? q = some .directory)
    (found : d.follow true links p (xs.filter (· ≠ .here)) = .ok q) :
    d.follow true links p xs = .ok q := by
  induction xs generalizing links p with
  | nil => exact found
  | cons x rest ih =>
    have ends : rest.getLast? = some .here → d.get? q = some .directory := by
      intro last
      refine directory ?_
      rw [List.getLast?_cons, last]
      rfl
    cases x with
    | root =>
      rw [List.filter_cons_of_pos (by decide), follow_root] at found
      exact follow_root.trans (ih ends found)
    | here => exact follow_dot.trans (ih ends found)
    | up =>
      rw [List.filter_cons_of_pos (by decide), follow_up] at found
      exact follow_up.trans (ih ends found)
    | name n =>
      rw [List.filter_cons_of_pos (by simp)] at found
      cases rest with
      | nil => exact found
      | cons y ys =>
        cases dotless : (y :: ys).filter (· ≠ .here) with
        | nil =>
          -- only dots are left, and the last of them asks for the directory
          have last : (y :: ys).getLast? = some .here := by
            have dots := List.filter_eq_nil_iff.1 dotless
            have member := List.getLast_mem (List.cons_ne_nil y ys)
            rw [List.getLast?_eq_some_getLast (List.cons_ne_nil y ys)]
            exact congrArg some (by simpa using dots _ member)
          rw [dotless] at found
          obtain ⟨left, enters⟩ := exists_enters_of_directory links p [.name n] (ends last) found
          refine (enters.follow_append y ys).trans (ih ends ?_)
          rw [dotless, follow_nil]
        | cons z zs =>
          rw [dotless] at found
          obtain ⟨left, r, enters, behind⟩ := exists_enters_of_follow links p [.name n] found
          refine (enters.follow_append y ys).trans (ih ends ?_)
          rw [dotless]
          exact behind

end Disk

end Scaffold
