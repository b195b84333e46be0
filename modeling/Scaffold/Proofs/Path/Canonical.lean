import Mathlib.Data.List.Induction
import Scaffold.Proofs.Path.Words

/-!
# Canonical form

`Canonical` is what is known about a movement between places before the starting place is: whether it
restarts at the top, how many names it drops, and which names it then adds. A row of parts is folded to
such a movement one part after the other (`Canonical.push`), so the fold of two rows goes on from the fold
of the first (`Canonical.ofParts_append`), and it leads where the parts lead (`Canonical.move_ofParts`).

A movement made of parts with plain names is well formed (`Canonical.wf_ofParts`), and the path that
spells a well-formed movement has exactly its parts (`Canonical.parts_path`). `Canonical.moves` are the
parts that a movement is made of. Its path spells them, and staying is spelled `.`.
-/

namespace Scaffold

/-- A movement between places: restart at the top or drop `climbs` names, then add `names`. -/
structure Canonical where
  rooted : Bool
  climbs : Nat
  names : Place
  deriving DecidableEq

namespace Canonical

/-- The movement that stays. -/
def stay : Canonical := ⟨false, 0, []⟩

/-- A movement followed by one more part. -/
def push (c : Canonical) : Part → Canonical
  | .root => ⟨true, 0, []⟩
  | .here => c
  | .up =>
    match c.names with
    | _ :: outer => { c with names := outer }
    | [] => if c.rooted then c else { c with climbs := c.climbs + 1 }
  | .name n => { c with names := n :: c.names }

/-- The movement of a row of parts. -/
def ofParts (parts : List Part) : Canonical := parts.foldl push stay

/-- Where the movement leads from a place. -/
def move (c : Canonical) (cwd : Place) : Place :=
  c.names ++ (if c.rooted then [] else cwd.drop c.climbs)

/-- The words of the text: one `..` for each dropped name, then the names from the outside in. -/
def words (c : Canonical) : List String := List.replicate c.climbs ".." ++ c.names.reverse

/-- The path that spells the movement; staying is spelled `.`. -/
def path (c : Canonical) : Path :=
  if c.rooted then ⟨"/" ++ "/".intercalate c.words⟩
  else if c.words.isEmpty then ⟨"."⟩
  else ⟨"/".intercalate c.words⟩

/-! ## Well-formed movements -/

/-- The names are plain, and a movement from the top drops nothing. -/
structure WF (c : Canonical) : Prop where
  plain : ∀ n ∈ c.names, Plain n
  level : c.rooted = true → c.climbs = 0

theorem wf_stay : stay.WF := ⟨fun _ member => (List.not_mem_nil member).elim, fun _ => rfl⟩

theorem WF.push {c : Canonical} (wf : c.WF) {x : Part} (fine : x.WF) : (c.push x).WF := by
  obtain ⟨rooted, climbs, names⟩ := c
  obtain ⟨plain, level⟩ := wf
  cases x with
  | root => exact ⟨fun _ member => (List.not_mem_nil member).elim, fun _ => rfl⟩
  | here => exact ⟨plain, level⟩
  | up =>
    cases names with
    | cons n outer => exact ⟨fun m member => plain m (List.mem_cons_of_mem n member), level⟩
    | nil =>
      cases rooted with
      | true => exact ⟨plain, level⟩
      | false => exact ⟨plain, fun rooted => by cases rooted⟩
  | name n =>
    refine ⟨fun m member => ?_, level⟩
    rcases List.mem_cons.1 member with rfl | older
    · exact fine
    · exact plain m older

/-- A row of parts with plain names makes a well-formed movement. -/
theorem wf_ofParts {parts : List Part} (fine : ∀ x ∈ parts, x.WF) : (ofParts parts).WF := by
  have fold (c : Canonical) (wf : c.WF) : (parts.foldl Canonical.push c).WF := by
    induction parts generalizing c with
    | nil => exact wf
    | cons x rest ih =>
      exact ih (fun y later => fine y (List.mem_cons_of_mem x later)) _
        (wf.push (fine x List.mem_cons_self))
  exact fold stay wf_stay

/-! ## Where a movement leads -/

/-- A further part moves on from where the movement leads. -/
theorem move_push (c : Canonical) (x : Part) (cwd : Place) :
    (c.push x).move cwd = x.step (c.move cwd) := by
  cases x with
  | root => rfl
  | here => rfl
  | up =>
    obtain ⟨rooted, climbs, names⟩ := c
    cases names with
    | cons n outer => rfl
    | nil =>
      cases rooted with
      | true => rfl
      | false => exact (@List.tail_drop _ cwd climbs).symm
  | name n => rfl

/-- A movement leads to where its parts lead one after the other. -/
theorem move_ofParts (parts : List Part) (cwd : Place) :
    (ofParts parts).move cwd = parts.foldl Part.step cwd := by
  have fold (c : Canonical) :
      (parts.foldl Canonical.push c).move cwd = parts.foldl Part.step (c.move cwd) := by
    induction parts generalizing c with
    | nil => rfl
    | cons x rest ih => rw [List.foldl_cons, List.foldl_cons, ih, move_push]
  exact fold stay

/-- A movement restarts at the top only where a part does. -/
theorem rooted_ofParts {parts : List Part} (rootless : ∀ x ∈ parts, x ≠ .root) :
    (ofParts parts).rooted = false := by
  have fold (c : Canonical) (unrooted : c.rooted = false) :
      (parts.foldl Canonical.push c).rooted = false := by
    induction parts generalizing c with
    | nil => exact unrooted
    | cons x rest ih =>
      refine ih (fun y later => rootless y (List.mem_cons_of_mem x later)) _ ?_
      cases x with
      | root => exact absurd rfl (rootless .root List.mem_cons_self)
      | here => exact unrooted
      | name n => exact unrooted
      | up =>
        obtain ⟨rooted, climbs, names⟩ := c
        cases names with
        | cons n outer => exact unrooted
        | nil =>
          cases unrooted
          rfl
  exact fold stay rfl

/-! ## The parts of a canonical path -/

/-- The parts that the path of a movement has. -/
def parts (c : Canonical) : List Part :=
  if c.rooted then .root :: c.names.reverse.map .name
  else if c.climbs = 0 ∧ c.names = [] then [.here]
  else List.replicate c.climbs .up ++ c.names.reverse.map .name

theorem foldl_push_names (c : Canonical) (names : Place) :
    (names.reverse.map Part.name).foldl push c = { c with names := names ++ c.names } := by
  induction names with
  | nil => rfl
  | cons n outer ih =>
    rw [List.reverse_cons, List.map_append, List.foldl_append, ih]
    rfl

theorem foldl_push_ups (climbs more : Nat) :
    (List.replicate more Part.up).foldl push ⟨false, climbs, []⟩ = ⟨false, climbs + more, []⟩ := by
  induction more generalizing climbs with
  | zero => rfl
  | succ more ih =>
    rw [List.replicate_succ, List.foldl_cons]
    exact (ih (climbs + 1)).trans (by rw [Nat.add_right_comm, Nat.add_assoc])

/-- A well-formed movement is the movement of its parts. -/
theorem ofParts_parts {c : Canonical} (wf : c.WF) : ofParts c.parts = c := by
  obtain ⟨rooted, climbs, names⟩ := c
  unfold parts
  cases rooted with
  | true =>
    have level : climbs = 0 := wf.level rfl
    subst level
    exact (foldl_push_names ⟨true, 0, []⟩ names).trans (by rw [List.append_nil])
  | false =>
    simp only [Bool.false_eq_true, if_false]
    split
    · next stays =>
      obtain ⟨rfl, rfl⟩ := stays
      rfl
    · rw [ofParts, List.foldl_append, stay, foldl_push_ups, foldl_push_names, Nat.zero_add,
        List.append_nil]

theorem parts_ne_nil (c : Canonical) : c.parts ≠ [] := by
  unfold parts
  split
  · exact List.cons_ne_nil _ _
  · split
    · exact List.cons_ne_nil _ _
    · next moves =>
      intro none
      obtain ⟨ups, names⟩ := List.append_eq_nil_iff.1 none
      refine moves ⟨?_, List.reverse_eq_nil_iff.1 (List.map_eq_nil_iff.1 names)⟩
      simpa using ups

theorem wf_of_mem_ups (climbs : Nat) {names : Place} (plain : ∀ n ∈ names, Plain n) {x : Part}
    (member : x ∈ List.replicate climbs Part.up ++ names.reverse.map Part.name) :
    x.WF ∧ x ≠ .root ∧ x ≠ .here := by
  rcases List.mem_append.1 member with climb | name
  · rw [List.eq_of_mem_replicate climb]
    exact ⟨trivial, Part.noConfusion, Part.noConfusion⟩
  · obtain ⟨n, listed, rfl⟩ := List.mem_map.1 name
    exact ⟨plain n (List.mem_reverse.1 listed), Part.noConfusion, Part.noConfusion⟩

/-- The parts of a well-formed movement have the shape that the parts of a path have. -/
theorem wf_of_mem_parts {c : Canonical} (wf : c.WF) :
    (∀ x ∈ c.parts, x.WF) ∧ ∀ x ∈ c.parts.tail, x ≠ .root ∧ x ≠ .here := by
  unfold parts
  split
  · refine ⟨fun x member => ?_, fun x later => (wf_of_mem_ups 0 wf.plain later).2⟩
    rcases List.mem_cons.1 member with rfl | later
    · trivial
    · exact (wf_of_mem_ups 0 wf.plain later).1
  · split
    · refine ⟨fun x member => ?_, fun x later => absurd later List.not_mem_nil⟩
      rw [List.mem_singleton.1 member]
      trivial
    · exact ⟨fun x member => (wf_of_mem_ups _ wf.plain member).1,
        fun x later => (wf_of_mem_ups _ wf.plain (List.mem_of_mem_tail later)).2⟩

/-- The path of a well-formed movement writes out the parts of the movement. -/
theorem path_eq_ofParts {c : Canonical} (wf : c.WF) : c.path = Path.ofParts c.parts := by
  obtain ⟨rooted, climbs, names⟩ := c
  have words : List.map Path.ofParts.word
      (List.replicate climbs .up ++ names.reverse.map .name) =
        List.replicate climbs ".." ++ names.reverse := by
    have spelled : names.reverse.map (Path.ofParts.word ∘ Part.name) = names.reverse :=
      List.map_id _
    rw [List.map_append, List.map_replicate, List.map_map, spelled]
    rfl
  cases rooted with
  | true =>
    have level : climbs = 0 := wf.level rfl
    subst level
    exact congrArg (fun row => (⟨"/" ++ "/".intercalate row⟩ : Path)) words.symm
  | false =>
    have stays : Canonical.words ⟨false, climbs, names⟩ = [] ↔ climbs = 0 ∧ names = [] := by
      simp [Canonical.words]
    unfold path parts
    simp only [Bool.false_eq_true, if_false, List.isEmpty_iff, stays]
    split
    · rfl
    · next moves =>
      have unrooted : (List.replicate climbs Part.up ++ names.reverse.map Part.name).head? ≠
          some .root := fun top =>
        (wf_of_mem_ups climbs wf.plain (List.mem_of_head? top)).2.1 rfl
      rw [Path.ofParts_of_unrooted unrooted]
      exact congrArg (fun row => (⟨"/".intercalate row⟩ : Path)) words.symm

/-- The path of a well-formed movement has the parts of the movement. -/
theorem parts_path {c : Canonical} (wf : c.WF) : c.path.parts = c.parts := by
  rw [path_eq_ofParts wf]
  exact Path.parts_ofParts (wf_of_mem_parts wf).1 (wf_of_mem_parts wf).2

/-- The path of a well-formed movement leads where the movement leads. -/
theorem place_path {c : Canonical} (wf : c.WF) (cwd : Place) : c.path.place cwd = c.move cwd := by
  rw [Path.place, parts_path wf, ← move_ofParts, ofParts_parts wf]

/-! ## Rows one behind the other -/

section

variable {c : Canonical} {xs : List Part} {n : String} {outer : Place}

theorem ofParts_append (xs ys : List Part) : ofParts (xs ++ ys) = ys.foldl push (ofParts xs) :=
  List.foldl_append

/-- A part at the end is the last one that is folded. -/
theorem ofParts_concat (xs : List Part) (x : Part) : ofParts (xs ++ [x]) = (ofParts xs).push x :=
  ofParts_append xs [x]

theorem foldl_push_filter (c : Canonical) (xs : List Part) :
    (xs.filter (· ≠ .here)).foldl push c = xs.foldl push c := by
  induction xs generalizing c with
  | nil => rfl
  | cons x rest ih =>
    by_cases here : x = .here
    · rw [List.filter_cons_of_neg (by simp [here]), ih, here]
      rfl
    · rw [List.filter_cons_of_pos (by simp [here]), List.foldl_cons, List.foldl_cons, ih]

/-- What was folded is folded no further. -/
theorem ofParts_parts_append (wf : c.WF) (ys : List Part) :
    ofParts (c.parts ++ ys) = ys.foldl push c := by
  rw [ofParts_append, ofParts_parts wf]

/-! ## The parts of a movement -/

/-- The parts that a movement is made of: the top or the climbs, then the names from the outside in. -/
def moves (c : Canonical) : List Part :=
  (if c.rooted then [.root] else List.replicate c.climbs .up) ++ c.names.reverse.map .name

theorem parts_eq_of_moves (moves : c.moves ≠ []) : c.parts = c.moves := by
  unfold Canonical.moves at moves ⊢
  unfold parts
  split
  · rfl
  · next unrooted =>
    rw [if_neg unrooted] at moves
    rw [if_neg]
    rintro ⟨level, names⟩
    rw [level, names] at moves
    exact moves rfl

theorem parts_eq_of_stays (stays : c.moves = []) : c.parts = [.here] := by
  unfold moves at stays
  unfold parts
  split
  · next rooted =>
    rw [if_pos rooted] at stays
    cases stays
  · next unrooted =>
    rw [if_neg unrooted] at stays
    obtain ⟨ups, names⟩ := List.append_eq_nil_iff.1 stays
    have nameless := List.reverse_eq_nil_iff.1 (List.map_eq_nil_iff.1 names)
    rw [if_pos ⟨(List.replicate_eq_nil_iff _).1 ups, nameless⟩]

/-- A name behind a movement is its last part. -/
theorem moves_push_name (c : Canonical) (n : String) :
    (c.push (.name n)).moves = c.moves ++ [.name n] := by
  simp only [moves, push, List.reverse_cons, List.map_append, List.map_cons, List.map_nil,
    List.append_assoc]
  rfl

/-- Where a movement ends in a name, `..` takes that name back. -/
theorem moves_eq_of_names (named : c.names = n :: outer) :
    c.moves = (c.push .up).moves ++ [.name n] := by
  obtain ⟨rooted, climbs, names⟩ := c
  cases named
  simp only [moves, push, List.reverse_cons, List.map_append, List.map_cons, List.map_nil,
    List.append_assoc]
  rfl

/-- Where it has no name, `..` is one more climb unless the movement starts at the top. -/
theorem moves_push_up (nameless : c.names = []) :
    (c.push .up).moves = if c.rooted then c.moves else c.moves ++ [.up] := by
  obtain ⟨rooted, climbs, names⟩ := c
  cases nameless
  cases rooted with
  | true => rfl
  | false =>
    simp only [moves, push, Bool.false_eq_true, if_false, List.reverse_nil, List.map_nil,
      List.append_nil, List.replicate_succ']

/-- Parts that neither restart nor go up are added as they are, without their dots. -/
theorem moves_foldl_push (c : Canonical) {xs : List Part} (level : ∀ x ∈ xs, x ≠ .root ∧ x ≠ .up) :
    (xs.foldl push c).moves = c.moves ++ xs.filter (· ≠ .here) := by
  induction xs generalizing c with
  | nil => exact (List.append_nil _).symm
  | cons x rest ih =>
    have later := ih (c.push x) fun y member => level y (List.mem_cons_of_mem x member)
    obtain ⟨notRoot, notUp⟩ := level x List.mem_cons_self
    rw [List.foldl_cons, later]
    cases x with
    | root => exact absurd rfl notRoot
    | up => exact absurd rfl notUp
    | here => rfl
    | name n =>
      rw [moves_push_name, List.filter_cons_of_pos (by simp), List.append_assoc]
      rfl

/-- From the top without a name there is only the top. -/
theorem moves_of_top (rooted : c.rooted = true) (nameless : c.names = []) : c.moves = [.root] := by
  rw [moves, if_pos rooted, nameless]
  rfl

theorem names_push_up (c : Canonical) : (c.push .up).names = c.names.tail := by
  obtain ⟨rooted, climbs, names⟩ := c
  cases names with
  | cons n outer => rfl
  | nil =>
    cases rooted with
    | true => rfl
    | false => rfl

/-- Only names are added to the names of a movement. -/
theorem name_mem_of_mem_names (member : n ∈ (ofParts xs).names) : .name n ∈ xs := by
  induction xs using List.reverseRecOn with
  | nil => cases member
  | append_singleton xs x ih =>
    rw [ofParts_concat] at member
    cases x with
    | root => cases member
    | here => exact List.mem_append_left _ (ih member)
    | up =>
      rw [names_push_up] at member
      exact List.mem_append_left _ (ih (List.mem_of_mem_tail member))
    | name m =>
      rcases List.mem_cons.1 member with rfl | older
      · exact List.mem_append_right _ List.mem_cons_self
      · exact List.mem_append_left _ (ih older)

end

end Canonical

end Scaffold
