import Scaffold.Proofs.Path.Canonical

/-!
# The rounds of normalizing

`Path.normalize` and `Path.absolutize` keep what they have so far as a path, and a round looks at the text of
it. Here the rounds are read as steps of a movement. After each of them the path spells the moves of the
movement that was folded so far (`Canonical.foldPart_moves`): a part that is put behind it is written as one
more move, and the last part that is read back from it is the last move.

So a normalized path spells the movement of its parts (`Path.normalize_eq`), and an absolutized one that of
the root and then of the other path without its top (`Path.absolutize_eq`). No later module looks at the
rounds.
-/

namespace Scaffold

namespace Path

/-! ## One more part -/

section

variable {xs : List Part} {x : Part}

theorem head?_ne_root (inner : x ≠ .root) (rest : List Part) : (x :: rest).head? ≠ some .root :=
  fun top => inner (Option.some.inj top)

/-- A path with a single part is the part that is written. -/
theorem ofPart_eq (inner : x ≠ .root) : ofPart x = ⟨ofParts.word x⟩ := by
  cases x with
  | root => exact absurd rfl inner
  | here | up | name => rfl

theorem ofParts_singleton (inner : x ≠ .root) : ofParts [x] = ofPart x := by
  rw [ofParts_of_unrooted (head?_ne_root inner []), List.map_singleton, String.intercalate_singleton,
    ofPart_eq inner]

theorem isRooted_ofPart (fine : x.WF) (inner : x ≠ .root) : (ofPart x).isRooted = false := by
  have word := @isRooted_words [x] (List.forall_mem_singleton.2 fine) (List.forall_mem_singleton.2 inner)
  rwa [List.map_singleton, String.intercalate_singleton, ← ofPart_eq inner] at word

theorem writtenParts_ofPart (fine : x.WF) (inner : x ≠ .root) : (ofPart x).writtenParts = [x] := by
  have pieces := @pieces_words [x] (List.forall_mem_singleton.2 fine) (List.forall_mem_singleton.2 inner)
  rw [List.map_singleton, String.intercalate_singleton, ← ofPart_eq inner] at pieces
  rw [writtenParts_eq, isRooted_ofPart fine inner, pieces]
  rfl

theorem intercalate_concat {words : List String} (filled : words ≠ []) (word : String) :
    "/".intercalate (words ++ [word]) = "/".intercalate words ++ "/" ++ word := by
  induction words with
  | nil => exact absurd rfl filled
  | cons first rest ih =>
    cases rest with
    | nil =>
      rw [List.singleton_append, String.intercalate_cons_cons, String.intercalate_singleton,
        String.intercalate_singleton]
    | cons next rest =>
      rw [List.cons_append, List.cons_append, String.intercalate_cons_cons, ← List.cons_append,
        ih (List.cons_ne_nil _ _), String.intercalate_cons_cons]
      simp only [String.append_assoc]

/-- Behind a row of parts other than the top alone, a part is written with a slash in front of it. -/
theorem text_ofParts_concat (filled : xs ≠ []) (below : xs ≠ [.root]) (x : Part) :
    (ofParts (xs ++ [x])).text = (ofParts xs).text ++ "/" ++ ofParts.word x := by
  have row {ys : List Part} (some : ys ≠ []) :
      "/".intercalate ((ys ++ [x]).map ofParts.word) =
        "/".intercalate (ys.map ofParts.word) ++ "/" ++ ofParts.word x := by
    rw [List.map_append, List.map_singleton]
    exact intercalate_concat (fun none => some (List.map_eq_nil_iff.1 none)) _
  obtain ⟨y, rest, rfl⟩ := List.exists_cons_of_ne_nil filled
  by_cases top : y = .root
  · subst top
    rw [List.cons_append, ofParts, ofParts, row fun none => below (congrArg _ none)]
    simp only [String.append_assoc]
  · rw [ofParts_of_unrooted (head?_ne_root top _), List.cons_append,
      ofParts_of_unrooted (head?_ne_root top _)]
    exact row filled

/-- The last part of a row is written at the end. -/
theorem exists_text_ofParts_concat (xs : List Part) (inner : x ≠ .root) :
    ∃ before, (ofParts (xs ++ [x])).text = before ++ ofParts.word x := by
  by_cases filled : xs = []
  · rw [filled, List.nil_append, ofParts_singleton inner, ofPart_eq inner]
    exact ⟨"", String.empty_append.symm⟩
  by_cases below : xs = [.root]
  · rw [below]
    exact ⟨"/", congrArg ("/" ++ ·) String.intercalate_singleton⟩
  · exact ⟨_, text_ofParts_concat filled below x⟩

/-- So a row of parts that does not end at the top is spelled, and without a slash at the end. -/
theorem ends_ofParts_concat (xs : List Part) (fine : x.WF) (inner : x ≠ .root) :
    (ofParts (xs ++ [x])).text ≠ "" ∧ (ofParts (xs ++ [x])).isSlashed = false := by
  obtain ⟨before, text⟩ := exists_text_ofParts_concat xs inner
  have filled := Part.word_ne_empty fine inner
  have last : (ofParts (xs ++ [x])).text.toList.getLast? = (ofParts.word x).toList.getLast? := by
    rw [text, String.toList_append, List.getLast?_append, List.getLast?_eq_some_getLast filled]
    rfl
  constructor
  · intro empty
    rw [empty] at last
    exact filled (List.getLast?_eq_none_iff.1 last.symm)
  · refine decide_eq_false fun slash => ?_
    rw [last] at slash
    exact Part.slash_not_mem_word fine (List.mem_of_getLast? slash)

/-- A part that is put behind a row of parts is written as one more part. -/
theorem join_ofPart (fine : ∀ y ∈ xs, y.WF) (rootless : ∀ y ∈ xs.tail, y ≠ .root) (wf : x.WF)
    (inner : x ≠ .root) : (ofParts xs).join (ofPart x) = ofParts (xs ++ [x]) := by
  unfold join
  rw [isRooted_ofPart wf inner, if_neg Bool.false_ne_true, ofPart_eq inner]
  by_cases filled : xs = []
  · rw [filled, List.nil_append, ofParts_singleton inner, ofPart_eq inner]
    exact congrArg Path.mk String.empty_append
  by_cases below : xs = [.root]
  · rw [below]
    exact congrArg (fun word => (⟨"/" ++ word⟩ : Path)) String.intercalate_singleton.symm
  · cases xs using List.reverseRecOn with
    | nil => exact absurd rfl filled
    | append_singleton before y =>
      have notTop : y ≠ .root := by
        rintro rfl
        cases before with
        | nil => exact below rfl
        | cons z rest => exact rootless .root (List.mem_append_right _ List.mem_cons_self) rfl
      obtain ⟨spelled, unslashed⟩ := ends_ofParts_concat before (fine y (by simp)) notTop
      rw [if_neg (by simp [spelled, unslashed])]
      exact congrArg Path.mk (text_ofParts_concat filled below x).symm

end

/-- What a round with `..` does depends on the last part of the path so far. -/
theorem foldPart_up (folded : Path) :
    foldPart folded .up =
      match folded.parts.getLast? with
      | some (.name _) => folded.parent?.getD folded
      | some .root => folded
      | _ => folded.join (ofPart .up) :=
  rfl

end Path

/-! ## Rounds as steps of a movement -/

namespace Canonical

variable {c : Canonical} {x : Part} {parts : List Part}

theorem wf_of_mem_moves (wf : c.WF) :
    (∀ x ∈ c.moves, x.WF) ∧ ∀ x ∈ c.moves.tail, x ≠ .root ∧ x ≠ .here := by
  by_cases stays : c.moves = []
  · rw [stays]
    exact ⟨fun x member => absurd member List.not_mem_nil, fun x later => absurd later List.not_mem_nil⟩
  · rw [← parts_eq_of_moves stays]
    exact wf_of_mem_parts wf

/-- The moves are read back from the path that spells them. -/
theorem parts_ofParts_moves (wf : c.WF) : (Path.ofParts c.moves).parts = c.moves :=
  Path.parts_ofParts (wf_of_mem_moves wf).1 (wf_of_mem_moves wf).2

theorem join_ofPart_moves (wf : c.WF) (fine : x.WF) (inner : x ≠ .root) :
    (Path.ofParts c.moves).join (Path.ofPart x) = Path.ofParts (c.moves ++ [x]) :=
  Path.join_ofPart (wf_of_mem_moves wf).1 (fun y later => ((wf_of_mem_moves wf).2 y later).1) fine inner

/-- Where a movement ends in a name, a round with `..` takes that name back. -/
theorem foldPart_up_of_names (wf : c.WF) {n : String} {outer : Place} (named : c.names = n :: outer) :
    Path.foldPart (Path.ofParts c.moves) .up = Path.ofParts (c.push .up).moves := by
  have moves := moves_eq_of_names named
  have last : (Path.ofParts c.moves).parts.getLast? = some (.name n) := by
    rw [parts_ofParts_moves wf, moves, List.getLast?_concat]
  have above : (Path.ofParts c.moves).parent? = some (Path.ofParts (c.push .up).moves) := by
    unfold Path.parent?
    rw [last]
    dsimp only
    rw [parts_ofParts_moves wf, moves, List.dropLast_concat]
  rw [Path.foldPart_up, last, above]
  rfl

/-- Where it does not, the round sees the top, nothing, or another `..`. -/
theorem foldPart_up_of_nameless (wf : c.WF) (nameless : c.names = []) :
    Path.foldPart (Path.ofParts c.moves) .up = Path.ofParts (c.push .up).moves := by
  rw [Path.foldPart_up, parts_ofParts_moves wf, moves_push_up nameless]
  obtain ⟨rooted, climbs, names⟩ := c
  cases nameless
  have kept := @join_ofPart_moves _ .up wf trivial Part.noConfusion
  cases rooted with
  | true => rfl
  | false =>
    cases climbs with
    | zero => exact kept
    | succ climbs =>
      have last : (moves ⟨false, climbs + 1, []⟩).getLast? = some .up := by
        simp [moves, List.getLast?_replicate]
      rw [last]
      exact kept

/-- A round takes the path of a movement to the path of the movement with one more part. -/
theorem foldPart_moves (wf : c.WF) (fine : x.WF) :
    Path.foldPart (Path.ofParts c.moves) x = Path.ofParts (c.push x).moves := by
  cases x with
  | root => rfl
  | here => rfl
  | up =>
    cases named : c.names with
    | cons n outer => exact foldPart_up_of_names wf named
    | nil => exact foldPart_up_of_nameless wf named
  | name n =>
    rw [moves_push_name]
    exact join_ofPart_moves wf fine Part.noConfusion

/-- So do all rounds. -/
theorem foldl_foldPart_moves (wf : c.WF) (fine : ∀ x ∈ parts, x.WF) :
    parts.foldl Path.foldPart (Path.ofParts c.moves) = Path.ofParts (parts.foldl push c).moves := by
  induction parts generalizing c with
  | nil => rfl
  | cons x rest ih =>
    have first := fine x List.mem_cons_self
    rw [List.foldl_cons, List.foldl_cons, foldPart_moves wf first]
    exact ih (wf.push first) fun y later => fine y (List.mem_cons_of_mem x later)

end Canonical

namespace Path

theorem wf_ofParts (p : Path) : (Canonical.ofParts p.parts).WF :=
  Canonical.wf_ofParts fun _ member => wf_of_mem_parts member

/-- **Normalizing spells a movement.** The rounds over the parts of a path end in the canonical spelling of
the movement that these parts are folded to. -/
theorem normalize_eq (p : Path) : p.normalize = (Canonical.ofParts p.parts).path := by
  have wf := wf_ofParts p
  have rounds : p.parts.foldl foldPart ⟨""⟩ = ofParts (Canonical.ofParts p.parts).moves :=
    Canonical.foldl_foldPart_moves Canonical.wf_stay fun _ member => wf_of_mem_parts member
  have read := Canonical.parts_ofParts_moves wf
  unfold normalize
  dsimp only
  rw [rounds, Canonical.path_eq_ofParts wf]
  by_cases stays : (Canonical.ofParts p.parts).moves = []
  · rw [stays, Canonical.parts_eq_of_stays stays]
    rfl
  · rw [Canonical.parts_eq_of_moves stays, if_neg]
    intro empty
    refine stays (read.symm.trans ?_)
    rw [show ofParts (Canonical.ofParts p.parts).moves = ⟨""⟩ from congrArg Path.mk empty]
    rfl

/-! ## Rounds of joining -/

/-- The `.` that a path has more than its parts folds to nothing. -/
theorem foldl_push_parts (c : Canonical) (p : Path) :
    p.parts.foldl Canonical.push c = p.writtenParts.foldl Canonical.push c := by
  unfold parts
  cases p.writtenParts with
  | nil => rfl
  | cons first rest => rw [List.foldl_cons, List.foldl_cons, Canonical.foldl_push_filter]

theorem ofParts_writtenParts (p : Path) :
    Canonical.ofParts p.writtenParts = Canonical.ofParts p.parts :=
  (foldl_push_parts _ p).symm

/-- A round of joining writes its part behind the others, unless it is a top. -/
theorem writtenParts_foldl_joinPart {parts : List Part} (fine : ∀ x ∈ parts, x.WF) (root : Path) :
    (parts.foldl joinPart root).writtenParts = root.writtenParts ++ parts.filter (· ≠ .root) := by
  induction parts generalizing root with
  | nil => exact (List.append_nil _).symm
  | cons x rest ih =>
    have later := ih fun y member => fine y (List.mem_cons_of_mem x member)
    have first := fine x List.mem_cons_self
    rw [List.foldl_cons, later]
    by_cases top : x = .root
    · rw [List.filter_cons_of_neg (by simp [top]), top]
      rfl
    · have joined : joinPart root x = root.join (ofPart x) := by
        cases x with
        | root => exact absurd rfl top
        | here | up | name => rfl
      rw [List.filter_cons_of_pos (by simp [top]), joined, writtenParts_join root (isRooted_ofPart first top),
        writtenParts_ofPart first top, List.append_assoc]
      rfl

/-- The movement of `rel` below `root`; a top of its own is left out. -/
def below (root rel : Path) : Canonical :=
  Canonical.ofParts (root.parts ++ rel.parts.filter (· ≠ .root))

/-- **Absolutizing spells a movement:** that of the root, and then of the other path without its top. -/
theorem absolutize_eq (root rel : Path) : root.absolutize rel = (below root rel).path := by
  rw [absolutize, normalize_eq, ← ofParts_writtenParts,
    writtenParts_foldl_joinPart fun _ member => wf_of_mem_parts member, Canonical.ofParts_append,
    ofParts_writtenParts, ← Canonical.ofParts_append, below]

end Path

end Scaffold
