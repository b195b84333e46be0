import Scaffold.Proofs.Disk.Reveal
import Scaffold.Proofs.Run.Overlay

/-!
# Ways that are clear

What a path leads to on one disk it leads to on another one as well, as long as nothing is in the way there
and no directory is missing. `ClearTo` says that nothing is in the way to a place, and `Astray` what following
the path comes to behind a missing directory. The path has to fall, for what lies behind a name is then on
the way to the place (`Sound.follow_of_clear`).

Two results are drawn from that. A path names the same on disks that have the same at its place
(`Steady.node?_congr`). And a directory that is there on one disk can be made on the other one, with all
directories above it, if nothing is in the way (`exists_exec_makeDirectories`): a missing directory is
told from an obstacle by the reason of the failure, and only the former makes the run go up.
-/

namespace Scaffold

/-! ## Paths above -/

namespace Path

variable {p outer : Path} {xs : List Part} {c : Char}

/-- A path of parts is spelled with their words and slashes. -/
theorem mem_text_ofParts (member : c ∈ (ofParts xs).text.toList) :
    c = '/' ∨ ∃ x ∈ xs, c ∈ (ofParts.word x).toList := by
  have inWords {ys : List Part} (member : c ∈ ("/".intercalate (ys.map ofParts.word)).toList) :
      c = '/' ∨ ∃ y ∈ ys, c ∈ (ofParts.word y).toList := by
    refine (mem_intercalate member).imp_right ?_
    rintro ⟨word, inWords, inside⟩
    obtain ⟨y, listed, rfl⟩ := List.mem_map.1 inWords
    exact ⟨y, listed, inside⟩
  unfold ofParts at member
  split at member
  · rw [String.toList_append, List.mem_append] at member
    rcases member with slash | behind
    · exact .inl (List.mem_singleton.1 slash)
    · exact (inWords behind).imp_right fun ⟨y, listed, inside⟩ =>
        ⟨y, List.mem_cons_of_mem _ listed, inside⟩
  · exact inWords member

theorem eq_ofParts_of_parent? (above : p.parent? = some outer) : outer = ofParts p.parts.dropLast := by
  unfold parent? at above
  split at above
  · cases above
  · cases above
  · cases above
    rfl

/-- The path above is spelled with slashes, dots, and what the path is spelled with. -/
theorem mem_text_parent (above : p.parent? = some outer) (member : c ∈ outer.text.toList) :
    c = '/' ∨ c = '.' ∨ c ∈ p.text.toList := by
  rw [eq_ofParts_of_parent? above] at member
  rcases mem_text_ofParts member with slash | ⟨x, listed, inside⟩
  · exact .inl slash
  · cases x with
    | root => cases inside
    | here => exact .inr (.inl (List.mem_singleton.1 inside))
    | up =>
      have dots : c ∈ ['.', '.'] := inside
      exact .inr (.inl (by simpa using dots))
    | name n => exact .inr (.inr (mem_text_of_name (List.dropLast_subset _ listed) inside))

/-- It is no longer than the path. -/
theorem size_parent_le (written : p.writtenParts = p.parts) (above : p.parent? = some outer) :
    outer.text.utf8ByteSize ≤ p.text.utf8ByteSize := by
  have some_ : p.parts ≠ [] := by
    intro none
    rw [parent?, none] at above
    cases above
  have filled : p.text ≠ "" := by
    intro empty
    obtain ⟨text⟩ := p
    cases empty
    exact some_ (by decide)
  have fits := Nat.le_trans (weight_writtenParts_le filled) (size_join_empty_le p)
  have whole := congrArg weight (List.dropLast_concat_getLast some_)
  rw [weight_append] at whole
  rw [written, ← whole] at fits
  rw [eq_ofParts_of_parent? above]
  cases before : p.parts.dropLast with
  | nil => exact Nat.zero_le _
  | cons x rest =>
    rw [before] at fits
    rcases size_ofParts x rest with size | ⟨rfl, rfl⟩
    · have last : 1 ≤ weight [p.parts.getLast some_] := Nat.le_add_left 1 _
      omega
    · exact Nat.pos_of_ne_zero fun zero => filled (String.utf8ByteSize_eq_zero_iff.1 zero)

/-- A path that goes straight and has a name ends in one. -/
theorem Straight.exists_getLast? (straight : p.Straight) {n : String} (named : .name n ∈ p.writtenParts) :
    ∃ m, p.writtenParts.getLast? = some (.name m) := by
  have some_ : p.writtenParts ≠ [] := List.ne_nil_of_mem named
  have whole := List.dropLast_concat_getLast some_
  rw [List.getLast?_eq_some_getLast some_]
  rw [← whole] at named
  rcases List.mem_append.1 named with before | last
  · have falls := straight.descends
    unfold Descends at falls
    rw [← straight.written, ← whole] at falls
    obtain ⟨m, same⟩ := (List.pairwise_append.1 falls).2.2 _ before _ List.mem_cons_self ⟨n, rfl⟩
    exact ⟨m, congrArg some same⟩
  · exact ⟨n, congrArg some (List.mem_singleton.1 last).symm⟩

/-- The written parts are followed before anything else. -/
theorem writtenParts_sublist (p : Path) : p.writtenParts.Sublist p.walkedParts := by
  unfold walkedParts
  split
  · exact List.sublist_append_left _ _
  · exact List.Sublist.refl _

/-- A path that ends in a name has a path above it. -/
theorem EndsInName.exists_parent (named : p.EndsInName) :
    ∃ outer n, p.parent? = some outer ∧ p.parts = outer.parts ++ [.name n] := by
  obtain ⟨n, last⟩ := named
  have above : p.parent? = some (ofParts p.parts.dropLast) := by
    unfold parent?
    rw [last]
  obtain ⟨before, parts⟩ := List.getLast?_eq_some_iff.1 last
  refine ⟨_, n, above, ?_⟩
  rw [parts_of_parent? above, parts, List.dropLast_concat]

theorem place_of_parts {n : String} (parts : p.parts = outer.parts ++ [.name n]) (cwd : Place) :
    p.place cwd = n :: outer.place cwd := by
  rw [place, parts, List.foldl_append]
  rfl

end Path

/-! ## Following a path on another disk -/

namespace Disk

/-- Nothing on the disk is in the way to the place: none of the directories that the other disk has on that
way is anything else here. -/
def ClearTo (q : Place) (seen d : Disk) : Prop :=
  ∀ p, p <:+ q → seen.get? p = some .directory → ¬ d.Leaf p

theorem ClearTo.of_suffix {p q : Place} {seen d : Disk} (clear : ClearTo q seen d) (above : p <:+ q) :
    ClearTo p seen d := fun x further => clear x (further.trans above)

/-- The parts lead to the place behind a directory that is missing. -/
structure Astray (d : Disk) (xs : List Part) (q : Place) : Prop where
  free : d.get? q = none
  named : ∃ n, .name n ∈ xs
  outer : ∀ n, xs.getLast? = some (.name n) → d.get? q.tail = none

variable {seen d : Disk} {p q : Place} {xs : List Part} {path : Path} {node : Node} {cwd : Place}

theorem Astray.cons (astray : d.Astray xs q) (x : Part) : d.Astray (x :: xs) q := by
  obtain ⟨free, ⟨n, member⟩, outer⟩ := astray
  refine ⟨free, ⟨n, List.mem_cons_of_mem x member⟩, fun m last => outer m ?_⟩
  cases xs with
  | nil => cases member
  | cons y rest => exact last

theorem node?_eq_some_iff :
    d.node? path = some node ↔ ∃ q, d.find path = .ok q ∧ d.get? q = some node := by
  unfold node?
  cases d.find path with
  | error e => simp only [reduceCtorEq, false_and, exists_const]
  | ok q => simp only [Except.ok.injEq, exists_eq_left']

/-- Onward parts lead downwards. -/
theorem exists_append_of_onward (onward : ∀ x ∈ xs, x ≠ .root ∧ x ≠ .up) (p : Place) :
    ∃ r, xs.foldl Part.step p = r ++ p := by
  induction xs generalizing p with
  | nil => exact ⟨[], rfl⟩
  | cons x rest ih =>
    have later := ih fun y member => onward y (List.mem_cons_of_mem x member)
    cases x with
    | root => exact absurd rfl (onward .root List.mem_cons_self).1
    | up => exact absurd rfl (onward .up List.mem_cons_self).2
    | here => exact later p
    | name n =>
      obtain ⟨r, below⟩ := later (n :: p)
      exact ⟨r ++ [n], by rw [List.append_assoc]; exact below⟩

/-- Onward parts behind a free place are astray. -/
theorem Sound.astray_of_onward (sound : d.Sound) (onward : ∀ x ∈ xs, x ≠ .root ∧ x ≠ .up)
    (more : xs ≠ []) {n : String} (free : d.get? (n :: p) = none) :
    d.Astray (.name n :: xs) (xs.foldl Part.step (n :: p)) := by
  obtain ⟨r, below⟩ := exists_append_of_onward onward (n :: p)
  refine ⟨below ▸ sound.free_append free r, ⟨n, List.mem_cons_self⟩, fun m last => ?_⟩
  rw [List.getLast?_cons_of_ne_nil more] at last
  obtain ⟨before, written⟩ := List.getLast?_eq_some_iff.1 last
  rw [written] at onward ⊢
  obtain ⟨r, below⟩ := exists_append_of_onward
    (fun y member => onward y (List.mem_append_left _ member)) (n :: p)
  rw [List.foldl_append, below]
  exact sound.free_append free r

/-- Parts that fall and lead to a place on another disk lead there again, if nothing is in the way and no
directory is missing. -/
theorem Sound.followWith_of_clear (sound : d.Sound) (linkless : d.Linkless) (seenLinkless : seen.Linkless)
    {atEnd : Bool} {onLink onLink' : Place → List Part → Except DiskError Place} (falls : Falls xs)
    (directory : d.get? p = some .directory) (clear : ClearTo q seen d)
    (found : seen.followWith atEnd onLink p xs = .ok q) :
    d.followWith atEnd onLink' p xs = .ok q ∨
      d.followWith atEnd onLink' p xs = .error .notFound ∧ d.Astray xs q := by
  induction xs generalizing p with
  | nil => exact .inl found
  | cons x rest ih =>
    cases x with
    | root => exact (ih falls.tail d.get?_top found).imp_right (And.imp_right (Astray.cons · _))
    | here => exact (ih falls.tail directory found).imp_right (And.imp_right (Astray.cons · _))
    | up => exact (ih falls.tail (sound.tail directory) found).imp_right (And.imp_right (Astray.cons · _))
    | name n =>
      obtain ⟨fits, passes⟩ := followWith_name_iff.1 found
      cases passes with
      | ends last given _ =>
        exact .inl (followWith_name_iff.2 ⟨fits, .ends last given fun _ => linkless _⟩)
      | inside more there found =>
        have led := seenLinkless.followWith_eq found
        obtain ⟨r, below⟩ := exists_append_of_onward falls.onward (n :: p)
        have onTheWay : n :: p <:+ q := ⟨r, (led.trans below).symm⟩
        cases here : d.get? (n :: p) with
        | none =>
          refine .inr ⟨?_, led ▸ sound.astray_of_onward falls.onward more here⟩
          rw [Disk.followWith, if_neg (Nat.not_lt_of_le fits), here]
          exact if_neg fun last => more (List.isEmpty_iff.1 last)
        | some node =>
          have inner : d.get? (n :: p) = some .directory := by
            by_contra other
            exact clear _ onTheWay there ⟨by rw [here]; rfl, other⟩
          rw [followWith_name_of_directory inner fits]
          exact (ih falls.tail inner found).imp_right (And.imp_right (Astray.cons · _))
      | across link => exact absurd link (seenLinkless _ _)

theorem Sound.follow_of_clear (sound : d.Sound) (linkless : d.Linkless) (seenLinkless : seen.Linkless)
    {atEnd : Bool} {links : Nat} (falls : Falls xs) (directory : d.get? p = some .directory)
    (clear : ClearTo q seen d) (found : seen.follow atEnd links p xs = .ok q) :
    d.follow atEnd links p xs = .ok q ∨
      d.follow atEnd links p xs = .error .notFound ∧ d.Astray xs q := by
  cases links with
  | zero => exact sound.followWith_of_clear linkless seenLinkless falls directory clear found
  | succ links => exact sound.followWith_of_clear linkless seenLinkless falls directory clear found

/-- Nothing is in the way to a place that holds the same as on the other disk. -/
theorem Sound.clearTo (sound : d.Sound) (filled : (d.get? q).isSome) (same : seen.get? q = d.get? q) :
    ClearTo q seen d := by
  rintro p ⟨r, rfl⟩ there leaf
  by_cases here : r = []
  · subst here
    exact leaf.other (same.symm.trans there)
  · exact leaf.other (sound.directory_of_append here filled)

namespace Steady

variable (steady : Steady cwd d) (steady' : Steady cwd seen)

include steady steady'

theorem find_of_clear (descends : path.Descends) (clear : ClearTo q seen d) (found : seen.find path = .ok q) :
    d.find path = .ok q ∨ d.find path = .error .notFound ∧ d.Astray path.walkedParts q := by
  have text := checkText_of_find found
  have walked := follow_walkedParts_of_find found
  rw [find_of_checkText text]
  rw [steady'.cwd_eq, ← steady.cwd_eq] at walked
  exact steady.sound.follow_of_clear steady.linkless steady'.linkless descends.falls steady.sound.cwd
    clear walked

/-- A path names what it names on the other disk, if the same is there. -/
theorem find_of_same (descends : path.Descends) (there : seen.get? q = some node)
    (same : seen.get? q = d.get? q) (found : seen.find path = .ok q) : d.find path = .ok q := by
  have filled : (d.get? q).isSome := by
    rw [← same, there]
    rfl
  rcases steady.find_of_clear steady' descends (steady.sound.clearTo filled same) found with
    led | ⟨-, astray⟩
  · exact led
  · rw [astray.free] at filled
    cases filled

/-- So what it names is the same. -/
theorem node?_of_same (descends : path.Descends)
    (same : seen.get? (path.place cwd) = d.get? (path.place cwd)) (there : seen.node? path = some node) :
    d.node? path = some node := by
  obtain ⟨q, found, there⟩ := node?_eq_some_iff.1 there
  cases steady'.find_eq found
  exact node?_eq_some_iff.2 ⟨_, steady.find_of_same steady' descends there same found, same ▸ there⟩

theorem node?_congr (descends : path.Descends)
    (same : seen.get? (path.place cwd) = d.get? (path.place cwd)) : seen.node? path = d.node? path :=
  Option.ext fun _ =>
    ⟨steady.node?_of_same steady' descends same, steady'.node?_of_same steady descends same.symm⟩

end Steady

/-- Where there are no links, it makes no difference whether one at the end is followed. -/
theorem Linkless.followWith_atEnd (linkless : d.Linkless)
    {onLink onLink' : Place → List Part → Except DiskError Place} (p : Place) (xs : List Part) :
    d.followWith false onLink p xs = d.followWith true onLink' p xs := by
  induction xs generalizing p with
  | nil => rfl
  | cons x rest ih =>
    cases x with
    | root => exact ih []
    | here => exact ih p
    | up => exact ih p.tail
    | name n =>
      rw [Disk.followWith, Disk.followWith]
      split
      · rfl
      · split
        · exact ih (n :: p)
        · next link => exact absurd link (linkless _ _)
        · rfl
        · rfl

theorem Linkless.entryItself?_eq (linkless : d.Linkless) (path : Path) :
    d.entryItself? path = d.node? path := by
  have followed : d.follow false linkLimit d.cwd path.walkedParts =
      d.follow true linkLimit d.cwd path.walkedParts := linkless.followWith_atEnd _ _
  rw [entryItself?, node?, Disk.find, followed]

theorem checkText_of_parent? {p outer : Path} (written : p.writtenParts = p.parts)
    (above : p.parent? = some outer) (filled : outer.text ≠ "") (taken : checkText p = .ok ()) :
    checkText outer = .ok () := by
  obtain ⟨free, -, short⟩ := checkText_eq_ok_iff.1 taken
  refine checkText_eq_ok_iff.2 ⟨fun nul => ?_, filled,
    Nat.lt_of_le_of_lt (Path.size_parent_le written above) short⟩
  rcases Path.mem_text_parent above nul with slash | dot | inside
  · cases slash
  · cases dot
  · exact free inside

namespace Steady

variable (steady : Steady cwd d) (steady' : Steady cwd seen)

include steady steady'

/-- A path without names leads to a directory. -/
theorem isDirectory_of_nameless (straight : path.Straight)
    (nameless : ∀ n, path.writtenParts.getLast? ≠ some (.name n))
    (there : seen.isDirectory path = true) (clear : ClearTo (path.place cwd) seen d) :
    d.find path = .ok (path.place cwd) ∧ d.isDirectory path = true := by
  obtain ⟨q, found, -⟩ := isDirectory_iff.1 there
  cases steady'.find_eq found
  have unnamed (n : String) : .name n ∉ path.walkedParts := by
    intro walked
    have written : .name n ∈ path.writtenParts := by
      unfold Path.walkedParts at walked
      split at walked
      · exact (List.mem_append.1 walked).resolve_right fun dot => by simp at dot
      · exact walked
    obtain ⟨m, last⟩ := straight.exists_getLast? written
    exact nameless m last
  rcases steady.find_of_clear steady' straight.descends clear found with led | ⟨-, astray⟩
  · have reached := steady.sound.follow (fun x member => wf_of_mem_walkedParts member) steady.sound.cwd
      (follow_walkedParts_of_find led)
    have directory := reached.directory fun n last => unnamed n (List.mem_of_getLast? last)
    exact ⟨led, isDirectory_iff.2 ⟨_, led, directory⟩⟩
  · obtain ⟨n, walked⟩ := astray.named
    exact absurd walked (unnamed n)

end Steady

/-- In front of a name at the end, a path leads into the directory around its place. -/
theorem Linkless.exists_outer (linkless : d.Linkless) {n : String} {before : List Part}
    (written : path.writtenParts = before ++ [.name n]) (found : d.find path = .ok q) :
    n.utf8ByteSize ≤ nameLimit ∧ ∃ outer, q = n :: outer ∧
      d.follow true linkLimit d.cwd (before ++ [.here]) = .ok outer := by
  have followed := follow_of_find found
  rw [written] at followed
  obtain ⟨left, outer, enters, last⟩ := exists_enters_of_follow _ _ before followed
  obtain ⟨fits, ⟨-, rfl, -⟩ | ⟨-, found⟩ | ⟨target, _, -, link, -, -⟩⟩ :=
    follow_name_cases last
  · exact ⟨fits, outer, rfl, follow_here_iff.2 ⟨left, enters⟩⟩
  · rw [follow_nil] at found
    cases found
    exact ⟨fits, outer, rfl, follow_here_iff.2 ⟨left, enters⟩⟩
  · exact absurd link (linkless _ _)

theorem makeDirectory_of_named {n : String} {before : List Part} {outer : Except DiskError Place}
    (text : checkText path = .ok ()) (written : path.writtenParts = before ++ [.name n])
    (fits : n.utf8ByteSize ≤ nameLimit)
    (led : d.follow true linkLimit d.cwd (before ++ [.here]) = outer) :
    d.makeDirectory path = outer.bind fun outer =>
      match d.get? (n :: outer) with
      | some _ => .error .exists_
      | none => .ok (d.set (n :: outer) .directory) := by
  have last : path.writtenParts.getLast? = some (.name n) := by rw [written, List.getLast?_concat]
  have init : path.writtenParts.dropLast = before := by rw [written, List.dropLast_concat]
  unfold makeDirectory
  rw [text]
  simp only [last, init, led, bind, Except.bind]
  cases outer with
  | error e => rfl
  | ok outer => exact if_neg (Nat.not_lt_of_le fits)

theorem makeDirectory_of_nameless (text : checkText path = .ok ())
    (nameless : ∀ n, path.writtenParts.getLast? ≠ some (.name n)) (found : d.find path = .ok q) :
    d.makeDirectory path = .error .exists_ := by
  unfold makeDirectory
  rw [text]
  cases last : path.writtenParts.getLast? with
  | none =>
    simp only [bind, Except.bind, found]
  | some x =>
    cases x with
    | name n => exact absurd last (nameless n)
    | root | here | up => simp only [bind, Except.bind, found]

/-- What comes of making a directory where nothing is in the way: it is made, or it is there, or the
directory around it is missing. -/
inductive Attempt (d : Disk) (path : Path) (outer : Place) : Prop
  | made {d' : Disk} : d.makeDirectory path = .ok d' → Attempt d path outer
  | there : d.makeDirectory path = .error .exists_ → d.isDirectory path = true → Attempt d path outer
  | missing : d.makeDirectory path = .error .notFound → path.EndsInName → d.get? outer = none →
    Attempt d path outer

/-- A directory that is there on one disk can be tried on another one. -/
theorem Steady.attempt (steady : Steady cwd d) (steady' : Steady cwd seen) (straight : path.Straight)
    (there : seen.isDirectory path = true) (clear : ClearTo (path.place cwd) seen d) :
    Attempt d path (path.place cwd).tail := by
  obtain ⟨q, found, directory⟩ := isDirectory_iff.1 there
  cases steady'.find_eq found
  have text := checkText_of_find found
  by_cases named : ∃ n, path.writtenParts.getLast? = some (.name n)
  · obtain ⟨n, last⟩ := named
    obtain ⟨before, written⟩ := List.getLast?_eq_some_iff.1 last
    obtain ⟨fits, outer, below, led⟩ := steady'.linkless.exists_outer written found
    have falls : Falls (before ++ [.here]) := by
      refine Falls.append ?_ fun y member => ?_
      · have inner : before.Sublist path.walkedParts := by
          refine List.Sublist.trans ?_ path.writtenParts_sublist
          rw [written]
          exact List.sublist_append_left before _
        exact straight.descends.falls.sublist inner
      · rw [List.mem_singleton.1 member]
        exact ⟨Part.noConfusion, Part.noConfusion⟩
    rw [steady'.cwd_eq, ← steady.cwd_eq] at led
    have clearOuter : ClearTo outer seen d := clear.of_suffix (below ▸ List.suffix_cons n outer)
    rw [below, List.tail_cons]
    rcases steady.sound.follow_of_clear steady.linkless steady'.linkless falls steady.sound.cwd clearOuter
      led with led | ⟨astray, missing⟩
    · have tried := makeDirectory_of_named text written fits led
      cases here : d.get? (n :: outer) with
      | none =>
        have made : d.makeDirectory path = .ok (d.set (n :: outer) .directory) := by
          rw [tried]
          simp only [Except.bind, here]
        exact .made made
      | some node =>
        have same : d.get? (n :: outer) = some .directory := by
          by_contra other
          rw [below] at clear directory
          exact clear _ (List.suffix_refl _) directory ⟨by rw [here]; rfl, other⟩
        refine .there (tried.trans ?_) ?_
        · simp only [Except.bind, here]
        · rcases steady.find_of_clear steady' straight.descends clear found with led | ⟨-, astray⟩
          · refine isDirectory_iff.2 ⟨_, led, ?_⟩
            rw [below, same]
          · have free := astray.free
            rw [below, here] at free
            cases free
    · refine .missing (makeDirectory_of_named text written fits astray) ?_ missing.free
      exact Path.endsInName_of_writtenParts last
  · have nameless : ∀ n, path.writtenParts.getLast? ≠ some (.name n) := fun n last => named ⟨n, last⟩
    obtain ⟨led, isDirectory⟩ := steady.isDirectory_of_nameless steady' straight nameless there clear
    exact .there (makeDirectory_of_nameless text nameless led) isDirectory

/-- The empty path stands for the directory that paths are seen from. -/
theorem Steady.directory_of_empty (steady : Steady cwd d) (empty : path.text = "") :
    d.get? (path.place cwd) = some .directory := by
  obtain ⟨text⟩ := path
  cases empty
  exact steady.cwd_eq ▸ steady.sound.cwd

theorem Steady.isDirectory_parent (steady : Steady cwd d) (straight : path.Straight)
    (there : d.isDirectory path = true) {outer : Path} {n : String} (above : path.parent? = some outer)
    (parts : path.parts = outer.parts ++ [.name n]) (filled : outer.text ≠ "") :
    d.isDirectory outer = true := by
  obtain ⟨q, found, directory⟩ := isDirectory_iff.1 there
  have text := checkText_of_parent? straight.written above filled (checkText_of_find found)
  have written : path.writtenParts = outer.writtenParts ++ [.name n] := by
    rw [straight.written, (straight.parent above).written, parts]
  obtain ⟨-, place, rfl, led⟩ := steady.linkless.exists_outer written found
  have leads : d.LeadsTo outer place := ⟨led, steady.sound.outer (n := n) (by rw [directory]; rfl)⟩
  exact leads.isDirectory text

end Disk

namespace Run

open Disk (ClearTo Steady Attempt)

variable {cwd : Place} {seen : Disk} {p : Path}

/-- Directories that are made are in no way. -/
theorem Makes.clearTo {q : Place} {w : World} {out : Except Failure Unit × World} (makes : Makes p w out)
    (clear : ClearTo q seen w.disk) : ClearTo q seen out.2.disk := by
  intro x above there leaf
  by_cases same : out.2.disk.get? x = w.disk.get? x
  · exact clear x above there ⟨same ▸ leaf.filled, same ▸ leaf.other⟩
  · exact leaf.other (makes.directory_of_changed same)

/-- Where nothing is in the way, a directory that is there on another disk can be made with those above
it. -/
theorem exists_exec_makeDirectories (steady' : Steady cwd seen) {levels : Nat} (straight : p.Straight)
    (there : p.text ≠ "" → seen.isDirectory p = true) {w : World} (steady : Steady cwd w.disk)
    (clear : ClearTo (p.place cwd) seen w.disk) (enough : p.parts.length < levels) :
    ∃ v, exec (makeDirectories levels p) w = (.ok (), v) := by
  induction levels generalizing p w with
  | zero => exact ⟨w, rfl⟩
  | succ levels ih =>
    rw [makeDirectories]
    split
    · exact ⟨w, rfl⟩
    · next filled =>
      have there := there filled
      rw [exec_bind_of_ok (exec_disk w)]
      cases steady.attempt steady' straight there clear with
      | made made =>
        rw [made]
        exact ⟨_, rfl⟩
      | there blocked directory =>
        rw [blocked]
        refine ⟨w, ?_⟩
        rw [exec_bind_of_ok (exec_disk w), directory]
        rfl
      | missing failed named free =>
        obtain ⟨outer, n, above, parts⟩ := named.exists_parent
        have below := Path.place_of_parts parts cwd
        rw [below, List.tail_cons] at free
        have filled : outer.text ≠ "" := by
          intro empty
          rw [steady.directory_of_empty empty] at free
          cases free
        rw [failed, above]
        have clearOuter : ClearTo (outer.place cwd) seen w.disk :=
          clear.of_suffix (below ▸ List.suffix_cons n _)
        have shorter := length_parts_of_parent? above
        obtain ⟨v, ran⟩ := ih (straight.parent above)
          (steady'.isDirectory_parent straight there above parts) steady clearOuter (by omega)
        have makes := makes_makeDirectories levels outer w (by omega)
        rw [ran] at makes
        have steadyAfter : Steady cwd v.disk := steady.edits makes.growsTo.edits
        dsimp only
        rw [exec_bind_of_ok ran, exec_bind_of_ok (exec_disk v)]
        -- the directory around it is there by now
        cases steadyAfter.attempt steady' straight there (makes.clearTo clear) with
        | made made =>
          rw [made]
          exact ⟨_, rfl⟩
        | there blocked directory =>
          rw [blocked]
          refine ⟨v, ?_⟩
          rw [exec_bind_of_ok (exec_disk v), directory]
          rfl
        | missing _ _ still =>
          rw [below, List.tail_cons] at still
          have made := steadyAfter.get?_of_isDirectory (makes.isDirectory filled)
          rw [still] at made
          cases made

end Run

end Scaffold
