import Scaffold.Proofs.Disk.Follow
import Scaffold.Proofs.Path.Length

/-!
# Normalized paths on a disk

Folding takes back a name in front of `..`, and following goes up from wherever that name leads. The two
agree unless the name is a link: `FoldsNoLink` says of a path that it has no such place, which is so on a
disk without links and for a path without `..`. Then the folded parts enter the same directory with the
same number of links left (`Enters.fold`), and the normalized path leads wherever the path itself leads
(`FoldsNoLink.find_normalize`).

A normalized directory has the same entries: what is joined to it is found where it is found behind the
directory itself (`FoldsNoLink.find_normalize_join`).
-/

namespace Scaffold

namespace Disk

variable {d : Disk} {links left : Nat} {p q place : Place} {n : String} {x : Part}
  {xs ys before behind : List Part} {path rel : Path}

/-! ## Texts -/

theorem nul_not_mem_normalize (free : '\x00' ∉ path.text.toList) :
    '\x00' ∉ path.normalize.text.toList := by
  intro member
  rcases Path.mem_text_normalize member with slash | dot | inside
  · cases slash
  · cases dot
  · exact free inside

/-- A path that is taken is taken when it is normalized. -/
theorem checkText_normalize (taken : checkText path = .ok ()) :
    checkText path.normalize = .ok () := by
  obtain ⟨free, filled, short⟩ := checkText_eq_ok_iff.1 taken
  have size := Path.size_normalize_le filled
  exact checkText_eq_ok_iff.2 ⟨nul_not_mem_normalize free, Path.text_normalize_ne_empty path, by omega⟩

/-- So is a path below it. -/
theorem checkText_normalize_join (filled : path.text ≠ "") (unrooted : rel.isRooted = false)
    (taken : checkText (path.join rel) = .ok ()) : checkText (path.normalize.join rel) = .ok () := by
  obtain ⟨free, -, short⟩ := checkText_eq_ok_iff.1 taken
  have size := Path.size_normalize_join_le filled unrooted
  refine checkText_eq_ok_iff.2
    ⟨fun member => ?_, Path.text_join_ne_empty (Path.text_normalize_ne_empty path) rel, by omega⟩
  rcases Path.mem_text_join unrooted member with outer | slash | inner
  · refine nul_not_mem_normalize (fun nul => free ?_) outer
    exact Path.mem_text_join_of_mem unrooted (.inl nul)
  · cases slash
  · exact free (Path.mem_text_join_of_mem unrooted (.inr inner))

/-! ## Folding while entering -/

/-- Where the parts go up, the name that folding takes back is no link. -/
def FoldsNoLinkIn (d : Disk) (xs : List Part) : Prop :=
  ∀ before behind, xs = before ++ .up :: behind →
    ∀ place target, d.follow false linkLimit d.cwd (Canonical.ofParts before).parts = .ok place →
      d.get? place ≠ some (.link target)

/-- Where the path goes up, the name that folding takes back is no link. -/
def FoldsNoLink (d : Disk) (path : Path) : Prop := d.FoldsNoLinkIn path.writtenParts

theorem Linkless.foldsNoLink (linkless : d.Linkless) (path : Path) : d.FoldsNoLink path :=
  fun _ _ _ place target _ => linkless place target

theorem FoldsNoLinkIn.init (folds : d.FoldsNoLinkIn (xs ++ ys)) : d.FoldsNoLinkIn xs := by
  intro before behind split
  refine folds before (behind ++ ys) ?_
  rw [split, List.append_assoc]
  rfl

/-- A path that does not go up goes on as the path in front of it. -/
theorem FoldsNoLinkIn.append (folds : d.FoldsNoLinkIn xs) (level : .up ∉ ys) :
    d.FoldsNoLinkIn (xs ++ ys) := by
  intro before behind split
  rcases List.append_eq_append_iff.1 split with ⟨more, rfl, later⟩ | ⟨more, rfl, later⟩
  · refine absurd ?_ level
    rw [later]
    exact List.mem_append_right _ List.mem_cons_self
  · cases more with
    | nil =>
      refine absurd ?_ level
      have starts : .up :: behind = ys := later
      rw [← starts]
      exact List.mem_cons_self
    | cons y more =>
      obtain ⟨rfl, -⟩ := List.cons.inj later
      exact folds before more rfl

theorem FoldsNoLink.join (folds : d.FoldsNoLink path) (unrooted : rel.isRooted = false)
    (level : .up ∉ rel.writtenParts) : d.FoldsNoLink (path.join rel) := by
  rw [FoldsNoLink, Path.writtenParts_join path unrooted]
  exact folds.append level

theorem Enters.up_inv (enters : d.Enters links p [.up] left q) : links = left ∧ q = p.tail := by
  cases enters with
  | up rest =>
    cases rest
    exact ⟨rfl, rfl⟩

/-- Parts that are entered are entered when they are folded, with the same number of links left. The
induction takes the last part away: a `..` takes back the name that was entered before it. -/
theorem Enters.fold (folds : d.FoldsNoLinkIn xs) (rootless : ∀ x ∈ xs.tail, x ≠ .root)
    (enters : d.Enters linkLimit d.cwd xs left q) :
    d.Enters linkLimit d.cwd (Canonical.ofParts xs).moves left q := by
  induction xs using List.reverseRecOn generalizing left q with
  | nil => exact enters
  | append_singleton xs x ih =>
    obtain ⟨middle, r, first, last⟩ := exists_enters_of_append enters
    have rootless' : ∀ y ∈ xs.tail, y ≠ .root := by
      intro y later
      cases xs with
      | nil => cases later
      | cons z rest => exact rootless y (List.mem_append_left _ later)
    have entered := ih folds.init rootless' first
    rw [Canonical.ofParts_concat]
    cases x with
    | root =>
      cases xs with
      | nil => exact enters
      | cons y rest => exact absurd rfl (rootless .root (List.mem_append_right _ List.mem_cons_self))
    | here =>
      cases last with
      | here rest =>
        cases rest
        exact entered
    | name n =>
      rw [Canonical.moves_push_name]
      exact entered.append last
    | up =>
      obtain ⟨rfl, rfl⟩ := last.up_inv
      cases named : (Canonical.ofParts xs).names with
      | nil =>
        rw [Canonical.moves_push_up named]
        split
        · next rooted =>
          rw [Canonical.moves_of_top rooted named] at entered ⊢
          cases entered with
          | root rest =>
            cases rest
            exact .root .done
        · exact entered.append (.up .done)
      | cons n outer =>
        have whole := Canonical.moves_eq_of_names named
        rw [whole] at entered
        obtain ⟨before, s, inner, name⟩ := exists_enters_of_append entered
        cases name with
        | inside _ _ rest =>
          cases rest
          exact inner
        | @across _ _ _ _ _ target _ fits link _ =>
          -- the folded path ends at the link, which the hypothesis forbids
          have ends : d.follow false linkLimit d.cwd (Canonical.ofParts xs).parts = .ok (n :: s) := by
            have moves : (Canonical.ofParts xs).moves ≠ [] := by
              rw [whole]
              exact List.append_ne_nil_of_right_ne_nil _ (List.cons_ne_nil _ _)
            rw [Canonical.parts_eq_of_moves moves, whole, inner.follow_append]
            exact followWith_name_iff.2 ⟨fits, .ends rfl rfl fun atEnd => by cases atEnd⟩
          exact absurd link (folds xs [] rfl _ target ends)

/-! ## Finding normalized paths -/

/-- A directory that a path enters is entered by the normalized path, with the same number of links
left. -/
theorem FoldsNoLink.enters_normalize (folds : d.FoldsNoLink path)
    (enters : d.Enters linkLimit d.cwd path.writtenParts left q) :
    d.Enters linkLimit d.cwd path.normalize.writtenParts left q := by
  have folded := enters.fold folds (Path.rootless_writtenParts path)
  rw [Path.writtenParts_normalize, ← Path.ofParts_writtenParts]
  by_cases stays : (Canonical.ofParts path.writtenParts).moves = []
  · rw [stays] at folded
    rw [Canonical.parts_eq_of_stays stays]
    exact .here folded
  · rw [Canonical.parts_eq_of_moves stays]
    exact folded

/-- Parts that are entered are walked, also behind a slash at the end. -/
theorem Enters.follow_walkedParts (enters : d.Enters links p path.writtenParts left q) :
    d.follow true links p path.walkedParts = .ok q := by
  unfold Path.walkedParts
  split
  · exact follow_here_iff.2 ⟨left, enters⟩
  · exact enters.follow

/-- A path whose last part is no name leads into a directory. -/
theorem exists_enters_of_follow_concat (other : ∀ n, x ≠ .name n)
    (found : d.follow true links p (xs ++ [x]) = .ok q) : ∃ left, d.Enters links p (xs ++ [x]) left q := by
  obtain ⟨left, r, enters, last⟩ := exists_enters_of_follow links p xs found
  have ends : d.Enters left r [x] left q := by
    cases x with
    | root =>
      rw [follow_root, follow_nil] at last
      cases last
      exact .root .done
    | here =>
      rw [follow_dot, follow_nil] at last
      cases last
      exact .here .done
    | up =>
      rw [follow_up, follow_nil] at last
      cases last
      exact .up .done
    | name n => exact absurd rfl (other n)
  exact ⟨left, enters.append ends⟩

/-- A path that is folded to end in a name does so when it is normalized, without a slash behind it. -/
theorem walkedParts_normalize (folded : (Canonical.ofParts path.writtenParts).moves = before ++ [.name n]) :
    path.normalize.walkedParts = before ++ [.name n] := by
  have normal : path.normalize.writtenParts = before ++ [.name n] := by
    rw [Path.writtenParts_normalize, ← Path.ofParts_writtenParts, Canonical.parts_eq_of_moves, folded]
    rw [folded]
    exact List.append_ne_nil_of_right_ne_nil _ (List.cons_ne_nil _ _)
  unfold Path.walkedParts
  split
  · next slashed =>
    have top : Path.writtenParts ⟨"/"⟩ = [.root] := by decide
    rw [Path.eq_top_of_isSlashed_normalize slashed, top] at normal
    have last := congrArg List.getLast? normal
    rw [List.getLast?_concat] at last
    cases last
  · exact normal

/-- **A path leads where it leads when it is normalized,** unless folding takes back a link. -/
theorem FoldsNoLink.find_normalize (folds : d.FoldsNoLink path) (found : d.find path = .ok place) :
    d.find path.normalize = .ok place := by
  have taken := checkText_of_find found
  obtain ⟨-, filled, -⟩ := checkText_eq_ok_iff.1 taken
  have followed := follow_of_find found
  rw [find_of_checkText (checkText_normalize taken)]
  obtain ⟨before, last, written⟩ : ∃ before x, path.writtenParts = before ++ [x] :=
    ⟨_, _, (List.dropLast_concat_getLast (Path.writtenParts_ne_nil filled)).symm⟩
  by_cases named : ∃ n, last = .name n
  · obtain ⟨n, rfl⟩ := named
    -- the directory in front of the last name is entered either way, and the name is followed from there
    rw [written] at followed
    obtain ⟨left, r, enters, ends⟩ := exists_enters_of_follow _ _ before followed
    have whole : d.FoldsNoLinkIn (before ++ [.name n]) := written ▸ folds
    have rootless : ∀ x ∈ before.tail, x ≠ .root := by
      intro x later
      refine Path.rootless_writtenParts path x ?_
      rw [written]
      cases before with
      | nil => cases later
      | cons y rest => exact List.mem_append_left _ later
    have folded := Canonical.moves_push_name (Canonical.ofParts before) n
    rw [← Canonical.ofParts_concat, ← written] at folded
    rw [walkedParts_normalize folded, (enters.fold whole.init rootless).follow_append]
    exact ends
  · rw [written] at followed
    obtain ⟨left, enters⟩ := exists_enters_of_follow_concat (fun n same => named ⟨n, same⟩) followed
    rw [← written] at enters
    exact (folds.enters_normalize enters).follow_walkedParts

/-! ## Entries of a normalized directory -/

theorem isSlashed_join (filled : rel.text ≠ "") (unrooted : rel.isRooted = false) :
    (path.join rel).isSlashed = rel.isSlashed := by
  have some_ : rel.text.toList ≠ [] := fun none => filled (String.toList_eq_nil_iff.1 none)
  obtain ⟨slash, -, text⟩ := Path.exists_slash_of_join path unrooted
  unfold Path.isSlashed
  rw [text, String.toList_append, List.getLast?_append, List.getLast?_eq_some_getLast some_,
    Option.some_or]

/-- A path that is joined is walked behind the other. -/
theorem walkedParts_join (filled : rel.text ≠ "") (unrooted : rel.isRooted = false) :
    (path.join rel).walkedParts = path.writtenParts ++ rel.walkedParts := by
  unfold Path.walkedParts
  rw [isSlashed_join filled unrooted, Path.writtenParts_join path unrooted]
  split
  · exact List.append_assoc ..
  · rfl

/-- Behind a path, a name ends a path without a slash. -/
theorem walkedParts_join_name (base : Path) (plain : Plain n) :
    (base.join ⟨n⟩).walkedParts = base.writtenParts ++ [.name n] := by
  have filled : n ≠ "" := by
    rintro rfl
    cases plain.ofPiece
  have flat : Path.isSlashed ⟨n⟩ = false :=
    decide_eq_false fun slash => plain.slash (List.mem_of_getLast? slash)
  rw [walkedParts_join filled (Path.writtenParts_name plain).1, Path.walkedParts, flat,
    if_neg Bool.false_ne_true, (Path.writtenParts_name plain).2]

/-- A name in a directory that the path enters is found behind the normalized path, or not found, as it
is behind the path itself. -/
theorem FoldsNoLink.find_normalize_join (folds : d.FoldsNoLink path)
    (enters : d.Enters linkLimit d.cwd path.writtenParts left q) (plain : Plain n)
    (taken : checkText (path.join ⟨n⟩) = .ok ())
    (taken' : checkText (path.normalize.join ⟨n⟩) = .ok ()) :
    d.find (path.normalize.join ⟨n⟩) = d.find (path.join ⟨n⟩) := by
  rw [find_of_checkText taken, find_of_checkText taken', walkedParts_join_name _ plain,
    walkedParts_join_name _ plain, enters.follow_append, (folds.enters_normalize enters).follow_append]

/-! ## Paths below a normalized directory -/

theorem filter_walkedParts (path : Path) :
    path.walkedParts.filter (· ≠ .here) = path.writtenParts.filter (· ≠ .here) := by
  unfold Path.walkedParts
  split
  · rw [List.filter_append]
    exact List.append_nil _
  · rfl

/-- Parts that neither restart nor go up end in a name, if they are not only dots. -/
theorem exists_name_of_onward (onward : ∀ x ∈ xs, x ≠ .root ∧ x ≠ .up)
    (some_ : xs.filter (· ≠ .here) ≠ []) :
    ∃ before n, xs.filter (· ≠ .here) = before ++ [.name n] := by
  obtain ⟨before, last, ends⟩ : ∃ before x, xs.filter (· ≠ .here) = before ++ [x] :=
    ⟨_, _, (List.dropLast_concat_getLast some_).symm⟩
  have kept : last ∈ xs.filter (· ≠ .here) := by
    rw [ends]
    exact List.mem_append_right _ List.mem_cons_self
  obtain ⟨member, notHere⟩ := List.mem_filter.1 kept
  cases last with
  | name n => exact ⟨before, n, ends⟩
  | here => cases notHere
  | root => exact absurd rfl (onward _ member).1
  | up => exact absurd rfl (onward _ member).2

/-- Dots below a directory lead to it. -/
theorem Enters.find_join_of_dots (enters : d.Enters linkLimit d.cwd path.writtenParts left q)
    (unrooted : rel.isRooted = false) (dots : rel.writtenParts.filter (· ≠ .here) = [])
    (taken : checkText (path.join rel) = .ok ()) : d.find (path.join rel) = .ok q := by
  have entered : d.Enters linkLimit d.cwd (path.join rel).writtenParts left q := by
    rw [Path.writtenParts_join path unrooted]
    exact enters.append (enters_of_dots dots)
  rw [find_of_checkText taken]
  exact entered.follow_walkedParts

/-- A path without `..` below a directory leads to what is found at its normalized spelling, if it is no
text that is refused. A slash or a dot at its end asks for a directory. -/
theorem FoldsNoLink.find_join (folds : d.FoldsNoLink path)
    (enters : d.Enters linkLimit d.cwd path.writtenParts left q) (unrooted : rel.isRooted = false)
    (level : .up ∉ rel.writtenParts) (taken : checkText (path.join rel) = .ok ())
    (directory : rel.walkedParts.getLast? = some .here → d.get? place = some .directory)
    (found : d.find (path.join rel).normalize = .ok place) : d.find (path.join rel) = .ok place := by
  by_cases dots : rel.writtenParts.filter (· ≠ .here) = []
  · have reached := enters.find_join_of_dots unrooted dots taken
    have normal := (folds.join unrooted level).find_normalize reached
    rw [found] at normal
    cases normal
    exact reached
  · have filled : rel.text ≠ "" := by
      intro empty
      obtain ⟨text⟩ := rel
      cases empty
      exact dots (by decide)
    have onward : ∀ x ∈ rel.writtenParts, x ≠ .root ∧ x ≠ .up := by
      refine fun x member => ⟨Path.ne_root_of_mem_writtenParts unrooted member, ?_⟩
      rintro rfl
      exact level member
    obtain ⟨before, n, named⟩ := exists_name_of_onward onward dots
    have folded : (Canonical.ofParts (path.join rel).writtenParts).moves =
        ((Canonical.ofParts path.writtenParts).moves ++ before) ++ [.name n] := by
      rw [Path.writtenParts_join path unrooted, Canonical.ofParts_append,
        Canonical.moves_foldl_push _ onward, named, List.append_assoc]
    -- the names are followed from the directory on either path
    have followed := follow_walkedParts_of_find found
    rw [walkedParts_normalize folded, List.append_assoc] at followed
    obtain ⟨x, xs, names⟩ := List.exists_cons_of_ne_nil dots
    rw [← named, names, (enters.fold folds (Path.rootless_writtenParts path)).follow_append, ← names,
      ← filter_walkedParts] at followed
    have behind := follow_of_filter directory followed
    obtain ⟨y, ys, some_⟩ : ∃ y ys, rel.walkedParts = y :: ys := by
      refine List.exists_cons_of_ne_nil fun none => dots ?_
      rw [← filter_walkedParts, none]
      rfl
    rw [find_of_checkText taken, walkedParts_join filled unrooted, some_, enters.follow_append, ← some_]
    exact behind

end Disk

end Scaffold
