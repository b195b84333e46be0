import Scaffold.Path

/-!
# What paths spell

The pieces between the slashes of a text carry no slash, so a name that stands in a path is `Plain`: it
is read back from its own text. A row of such parts, written with slashes between them, is read back
as it is (`Path.parts_ofParts`). With that, the parts of a joined path (`Path.parts_join_name`) and of
the path above one (`Path.parts_of_parent?`) are known, and no later module looks at texts.
-/

namespace Scaffold

/-! ## Pieces between slashes -/

theorem cutAtSlashes_eq_splitOn (cs : List Char) : cutAtSlashes cs = cs.splitOn '/' := by
  induction cs with
  | nil => rfl
  | cons c rest ih =>
    rw [cutAtSlashes, List.splitOn_cons_eq_if_modifyHead, ih]
    by_cases slash : c = '/'
    · simp only [slash, if_true, beq_self_eq_true]
    · simp only [slash, if_false, beq_iff_eq]
      cases pieces : rest.splitOn '/' with
      | nil => exact absurd pieces (List.splitOn_ne_nil '/' rest)
      | cons piece pieces => rfl

theorem slash_not_mem_of_mem_cutAtSlashes {cs piece : List Char} (member : piece ∈ cutAtSlashes cs) :
    '/' ∉ piece := by
  induction cs generalizing piece with
  | nil =>
    cases List.mem_singleton.1 member
    exact List.not_mem_nil
  | cons c rest ih =>
    rw [cutAtSlashes] at member
    split at member
    · rcases List.mem_cons.1 member with rfl | later
      · exact List.not_mem_nil
      · exact ih later
    · next other =>
      split at member
      · cases List.mem_singleton.1 member
        exact fun slash => other (List.mem_singleton.1 slash).symm
      · next first pieces cut =>
        rcases List.mem_cons.1 member with rfl | later
        · intro slash
          rcases List.mem_cons.1 slash with here | later
          · exact other here.symm
          · exact ih (cut ▸ List.mem_cons_self) later
        · exact ih (cut ▸ List.mem_cons_of_mem _ later)

/-- A first piece that is not empty begins the text. -/
theorem head?_of_cutAtSlashes {cs piece : List Char} {pieces : List (List Char)}
    (cut : cutAtSlashes cs = piece :: pieces) (filled : piece ≠ []) : cs.head? = piece.head? := by
  cases cs with
  | nil =>
    cases cut
    rfl
  | cons c rest =>
    rw [cutAtSlashes] at cut
    split at cut
    · cases cut
      exact absurd rfl filled
    · split at cut
      · cases cut
        rfl
      · cases cut
        rfl

theorem cutAtSlashes_intercalate {words : List String} (free : ∀ s ∈ words, '/' ∉ s.toList)
    (filled : words ≠ []) :
    cutAtSlashes ("/".intercalate words).toList = words.map String.toList := by
  have mapped : words.map String.toList ≠ [] := fun none => filled (List.map_eq_nil_iff.1 none)
  rw [cutAtSlashes_eq_splitOn, String.toList_intercalate]
  exact List.splitOn_intercalate '/' (by simpa using free) mapped

/-! ## Plain names -/

/-- A name that is read back from its text: it is not empty, no `.` and no `..`, and has no slash. -/
structure Plain (n : String) : Prop where
  ofPiece : Part.ofPiece? n.toList = some (.name n)
  slash : '/' ∉ n.toList

instance (n : String) : Decidable (Plain n) :=
  decidable_of_iff (Part.ofPiece? n.toList = some (.name n) ∧ '/' ∉ n.toList)
    ⟨fun ⟨ofPiece, slash⟩ => ⟨ofPiece, slash⟩, fun plain => ⟨plain.ofPiece, plain.slash⟩⟩

/-- A part whose name, if it has one, is plain. -/
def Part.WF : Part → Prop
  | .name n => Plain n
  | _ => True

theorem Part.wf_of_ofPiece? {cs : List Char} {x : Part} (free : '/' ∉ cs)
    (read : Part.ofPiece? cs = some x) : x.WF := by
  unfold Part.ofPiece? at read
  split at read
  · cases read
  · cases read
    trivial
  · cases read
    trivial
  · next filled dot dots =>
    cases read
    refine ⟨?_, by rwa [String.toList_ofList]⟩
    rw [String.toList_ofList]
    unfold Part.ofPiece?
    split
    · exact absurd rfl filled
    · exact absurd rfl dot
    · exact absurd rfl dots
    · rfl

namespace Path

theorem wf_of_mem_writtenParts {p : Path} {x : Part} (member : x ∈ p.writtenParts) : x.WF := by
  have piece {x : Part} (read : x ∈ (cutAtSlashes p.text.toList).filterMap Part.ofPiece?) : x.WF := by
    obtain ⟨cs, cut, read⟩ := List.mem_filterMap.1 read
    exact Part.wf_of_ofPiece? (slash_not_mem_of_mem_cutAtSlashes cut) read
  unfold writtenParts at member
  simp only at member
  split at member
  · rcases List.mem_cons.1 member with rfl | read
    · trivial
    · exact piece read
  · exact piece member

theorem mem_writtenParts_of_mem_parts {p : Path} {x : Part} (member : x ∈ p.parts) :
    x ∈ p.writtenParts := by
  unfold parts at member
  split at member
  · cases member
  · next first rest written =>
    rw [written]
    rcases List.mem_cons.1 member with rfl | later
    · exact List.mem_cons_self
    · exact List.mem_cons_of_mem _ (List.mem_filter.1 later).1

/-- Every name among the parts of a path is plain. -/
theorem wf_of_mem_parts {p : Path} {x : Part} (member : x ∈ p.parts) : x.WF :=
  wf_of_mem_writtenParts (mem_writtenParts_of_mem_parts member)

/-- Where a `.` stands at the beginning only, all parts that are written count. -/
theorem parts_eq_writtenParts {p : Path} (dotless : ∀ x ∈ p.writtenParts.tail, x ≠ .here) :
    p.parts = p.writtenParts := by
  unfold parts
  cases written : p.writtenParts with
  | nil => rfl
  | cons first rest =>
    rw [written] at dotless
    exact congrArg (first :: ·) (List.filter_eq_self.2 fun x later => decide_eq_true (dotless x later))

end Path

/-! ## Writing parts -/

theorem Part.ne_root_of_ofPiece? {cs : List Char} {x : Part} (read : Part.ofPiece? cs = some x) :
    x ≠ .root := by
  unfold Part.ofPiece? at read
  split at read
  · cases read
  · cases read
    exact Part.noConfusion
  · cases read
    exact Part.noConfusion
  · cases read
    exact Part.noConfusion

/-- The word of a part is read back. -/
theorem Part.ofPiece?_word {x : Part} (fine : x.WF) (inner : x ≠ .root) :
    Part.ofPiece? (Path.ofParts.word x).toList = some x := by
  cases x with
  | root => exact absurd rfl inner
  | here => decide
  | up => decide
  | name n => exact fine.ofPiece

/-- No word of a part is empty but that of the top. -/
theorem Part.word_ne_empty {x : Part} (fine : x.WF) (inner : x ≠ .root) :
    (Path.ofParts.word x).toList ≠ [] := by
  intro empty
  have read := Part.ofPiece?_word fine inner
  rw [empty] at read
  cases read

theorem Part.slash_not_mem_word {x : Part} (fine : x.WF) :
    '/' ∉ (Path.ofParts.word x).toList := by
  cases x with
  | root => decide
  | here => decide
  | up => decide
  | name n => exact fine.slash

namespace Path

/-- The parts between the slashes of a path, without the top that a leading slash stands for. -/
def pieces (p : Path) : List Part := (cutAtSlashes p.text.toList).filterMap Part.ofPiece?

theorem writtenParts_eq (p : Path) :
    p.writtenParts = if p.isRooted then .root :: p.pieces else p.pieces := rfl

theorem ne_root_of_mem_pieces {p : Path} {x : Part} (member : x ∈ p.pieces) : x ≠ .root := by
  obtain ⟨cs, -, read⟩ := List.mem_filterMap.1 member
  exact Part.ne_root_of_ofPiece? read

/-- Behind the first part of a path stand only names and climbs. -/
theorem inner_of_mem_tail_parts {p : Path} {x : Part} (member : x ∈ p.parts.tail) :
    x ≠ .root ∧ x ≠ .here := by
  have rootless : ∀ y ∈ p.writtenParts.tail, y ≠ .root := by
    intro y later
    rw [writtenParts_eq] at later
    split at later
    · exact ne_root_of_mem_pieces later
    · exact ne_root_of_mem_pieces (List.mem_of_mem_tail later)
  unfold parts at member
  split at member
  · cases member
  · next first rest written =>
    obtain ⟨later, here⟩ := List.mem_filter.1 member
    rw [written] at rootless
    exact ⟨rootless x later, of_decide_eq_true here⟩

section Spelling

variable {xs : List Part}

/-- Words with slashes between them are read back. -/
theorem pieces_words (fine : ∀ x ∈ xs, x.WF) (rootless : ∀ x ∈ xs, x ≠ .root) :
    pieces ⟨"/".intercalate (xs.map ofParts.word)⟩ = xs := by
  have each : ∀ ys : List Part, (∀ x ∈ ys, x.WF) → (∀ x ∈ ys, x ≠ .root) →
      ((ys.map ofParts.word).map String.toList).filterMap Part.ofPiece? = ys := by
    intro ys fine rootless
    induction ys with
    | nil => rfl
    | cons y rest ih =>
      have first := Part.ofPiece?_word (fine y List.mem_cons_self) (rootless y List.mem_cons_self)
      have later := ih (fun x member => fine x (List.mem_cons_of_mem y member))
        fun x member => rootless x (List.mem_cons_of_mem y member)
      simp only [List.map_cons, List.filterMap_cons, first, later]
  by_cases none : xs = []
  · rw [none]
    decide
  · have free : ∀ s ∈ xs.map ofParts.word, '/' ∉ s.toList := by
      intro s member
      obtain ⟨x, part, rfl⟩ := List.mem_map.1 member
      exact Part.slash_not_mem_word (fine x part)
    rw [pieces, cutAtSlashes_intercalate free fun empty => none (List.map_eq_nil_iff.1 empty)]
    exact each xs fine rootless

/-- A text that begins with a word does not begin at the top. -/
theorem isRooted_words (fine : ∀ x ∈ xs, x.WF) (rootless : ∀ x ∈ xs, x ≠ .root) :
    isRooted ⟨"/".intercalate (xs.map ofParts.word)⟩ = false := by
  cases xs with
  | nil => decide
  | cons x rest =>
    have plain := fine x List.mem_cons_self
    have filled := Part.word_ne_empty plain (rootless x List.mem_cons_self)
    have free : ∀ s ∈ (x :: rest).map ofParts.word, '/' ∉ s.toList := by
      intro s member
      obtain ⟨y, part, rfl⟩ := List.mem_map.1 member
      exact Part.slash_not_mem_word (fine y part)
    have cut := cutAtSlashes_intercalate free (List.cons_ne_nil _ _)
    rw [List.map_cons, List.map_cons] at cut
    unfold isRooted
    rw [List.map_cons, head?_of_cutAtSlashes cut filled]
    exact decide_eq_false fun slash => Part.slash_not_mem_word plain (List.mem_of_head? slash)

/-- A row of parts that does not begin at the top is spelled by its words alone. -/
theorem ofParts_of_unrooted (unrooted : xs.head? ≠ some .root) :
    ofParts xs = ⟨"/".intercalate (xs.map ofParts.word)⟩ := by
  unfold ofParts
  split
  · exact absurd rfl unrooted
  · rfl

theorem rootless_of_head? (unrooted : xs.head? ≠ some .root) (rootless : ∀ x ∈ xs.tail, x ≠ .root) :
    ∀ x ∈ xs, x ≠ .root := by
  intro x member
  cases xs with
  | nil => cases member
  | cons first rest =>
    rcases List.mem_cons.1 member with rfl | later
    · exact fun top => unrooted (congrArg some top)
    · exact rootless x later

/-- Parts that are written are read back, `.` included. -/
theorem writtenParts_ofParts (fine : ∀ x ∈ xs, x.WF) (rootless : ∀ x ∈ xs.tail, x ≠ .root) :
    (ofParts xs).writtenParts = xs := by
  by_cases rooted : xs.head? = some .root
  · obtain ⟨rest, rfl⟩ := List.head?_eq_some_iff.1 rooted
    have read : pieces ⟨"/" ++ "/".intercalate (rest.map ofParts.word)⟩ = rest := by
      have words := pieces_words (fun x member => fine x (List.mem_cons_of_mem _ member)) rootless
      rwa [pieces, String.toList_append]
    have top : isRooted ⟨"/" ++ "/".intercalate (rest.map ofParts.word)⟩ = true := by
      simp [isRooted, String.toList_append]
    rw [ofParts, writtenParts_eq, if_pos top, read]
  · have inner := rootless_of_head? rooted rootless
    rw [ofParts_of_unrooted rooted, writtenParts_eq, isRooted_words fine inner, pieces_words fine inner]
    rfl

/-- Parts of the shape that a path has are read back. -/
theorem parts_ofParts (fine : ∀ x ∈ xs, x.WF) (inner : ∀ x ∈ xs.tail, x ≠ .root ∧ x ≠ .here) :
    (ofParts xs).parts = xs := by
  have written := writtenParts_ofParts fine fun x later => (inner x later).1
  rw [parts_eq_writtenParts, written]
  intro x later
  rw [written] at later
  exact (inner x later).2

end Spelling

/-! ## Parents and joined paths -/

theorem mem_of_mem_tail_dropLast {α : Type} {xs : List α} {x : α} (member : x ∈ xs.dropLast.tail) :
    x ∈ xs.tail := by
  rw [List.tail_dropLast] at member
  exact List.dropLast_subset _ member

/-- The path above one has its parts without the last. -/
theorem parts_of_parent? {p outer : Path} (above : p.parent? = some outer) :
    outer.parts = p.parts.dropLast := by
  unfold parent? at above
  split at above
  · cases above
  · cases above
  · cases above
    exact parts_ofParts (fun x member => wf_of_mem_parts (List.dropLast_subset _ member))
      fun x later => inner_of_mem_tail_parts (mem_of_mem_tail_dropLast later)

theorem cutAtSlashes_ne_nil (cs : List Char) : cutAtSlashes cs ≠ [] := by
  rw [cutAtSlashes_eq_splitOn]
  exact List.splitOn_ne_nil '/' cs

/-- A slash cuts a text in two. -/
theorem cutAtSlashes_append (before behind : List Char) :
    cutAtSlashes (before ++ '/' :: behind) = cutAtSlashes before ++ cutAtSlashes behind := by
  induction before with
  | nil => rfl
  | cons c rest ih =>
    rw [List.cons_append, cutAtSlashes, cutAtSlashes, ih]
    by_cases slash : c = '/'
    · simp only [slash, if_true, List.cons_append]
    · simp only [slash, if_false]
      cases cut : cutAtSlashes rest with
      | nil => exact absurd cut (cutAtSlashes_ne_nil rest)
      | cons piece pieces => rfl

/-- A path below another one has the parts of both, as they are written. -/
theorem writtenParts_join (base : Path) {rel : Path} (unrooted : rel.isRooted = false) :
    (base.join rel).writtenParts = base.writtenParts ++ rel.writtenParts := by
  have relParts : rel.writtenParts = rel.pieces := by rw [writtenParts_eq, unrooted]; rfl
  have cut (text : String) (before : List Char) (spelled : text.toList = before ++ '/' :: rel.text.toList) :
      pieces ⟨text⟩ = (cutAtSlashes before).filterMap Part.ofPiece? ++ rel.pieces := by
    rw [pieces, spelled, cutAtSlashes_append, List.filterMap_append]
    rfl
  unfold join
  rw [unrooted, relParts]
  simp only [Bool.false_eq_true, if_false]
  by_cases empty : base.text = ""
  · have nothing : base.writtenParts = [] := by
      obtain ⟨text⟩ := base
      cases empty
      decide
    have same : (⟨base.text ++ rel.text⟩ : Path) = rel := by rw [empty, String.empty_append]
    rw [if_pos (by rw [decide_eq_true empty]; rfl), same, nothing, relParts]
    rfl
  · have filled : base.text.toList ≠ [] := fun none => empty (String.toList_eq_nil_iff.1 none)
    -- the first character is that of the base, so both begin at the top or neither does
    have rooted (text : String) (behind : List Char) (spelled : text.toList = base.text.toList ++ behind) :
        isRooted ⟨text⟩ = base.isRooted := by
      unfold isRooted
      cases begins : base.text.toList with
      | nil => exact absurd begins filled
      | cons c rest => rw [spelled, begins, List.cons_append, List.head?_cons, List.head?_cons]
    have both (text : String) (behind : List Char)
        (spelled : text.toList = base.text.toList ++ behind)
        (read : pieces ⟨text⟩ = base.pieces ++ rel.pieces) :
        writtenParts ⟨text⟩ = base.writtenParts ++ rel.pieces := by
      rw [writtenParts_eq, writtenParts_eq, rooted text behind spelled, read]
      split
      · rfl
      · rfl
    by_cases slashed : base.isSlashed = true
    · rw [if_pos (by rw [slashed, Bool.or_true])]
      obtain ⟨before, ends⟩ := List.getLast?_eq_some_iff.1 (of_decide_eq_true slashed)
      refine both _ _ (String.toList_append ..) ?_
      have basePieces : base.pieces = (cutAtSlashes before).filterMap Part.ofPiece? := by
        rw [pieces, ends, cutAtSlashes_append, List.filterMap_append]
        exact List.append_nil _
      rw [basePieces]
      exact cut _ before (by rw [String.toList_append, ends, List.append_assoc]; rfl)
    · rw [if_neg (by simp [empty, slashed])]
      have spelled : (base.text ++ "/" ++ rel.text).toList =
          base.text.toList ++ '/' :: rel.text.toList := by
        rw [String.toList_append, String.toList_append, List.append_assoc]
        rfl
      exact both _ _ spelled (cut _ _ spelled)

theorem writtenParts_name {n : String} (plain : Plain n) :
    isRooted ⟨n⟩ = false ∧ writtenParts ⟨n⟩ = [.name n] := by
  have unrooted : isRooted ⟨n⟩ = false :=
    decide_eq_false fun slash => plain.slash (List.mem_of_head? slash)
  have whole : cutAtSlashes n.toList = [n.toList] := by
    rw [cutAtSlashes_eq_splitOn]
    exact List.splitOn_eq_singleton plain.slash
  refine ⟨unrooted, ?_⟩
  rw [writtenParts_eq, unrooted, pieces, whole]
  simp only [Bool.false_eq_true, if_false, List.filterMap_cons, plain.ofPiece, List.filterMap_nil]

/-- A name below a path is one more part. -/
theorem parts_join_name (base : Path) {n : String} (plain : Plain n) :
    (base.join ⟨n⟩).parts = base.parts ++ [.name n] := by
  have written := writtenParts_join base (writtenParts_name plain).1
  rw [(writtenParts_name plain).2] at written
  unfold parts
  rw [written]
  cases base.writtenParts with
  | nil => rfl
  | cons first rest =>
    rw [List.cons_append]
    exact congrArg (first :: ·) (by rw [List.filter_append]; rfl)

/-- A slash at the end is no part. -/
theorem parts_join_empty (base : Path) : (base.join ⟨""⟩).parts = base.parts := by
  have nothing : writtenParts ⟨""⟩ = [] := by decide
  have unrooted : isRooted ⟨""⟩ = false := by decide
  have written := writtenParts_join base unrooted
  rw [nothing, List.append_nil] at written
  unfold parts
  rw [written]

/-- A path is written behind another one, with a slash in between or without one. -/
theorem exists_slash_of_join (base : Path) {rel : Path} (unrooted : rel.isRooted = false) :
    ∃ slash, (slash = "" ∨ slash = "/") ∧ (base.join rel).text = base.text ++ slash ++ rel.text := by
  unfold join
  rw [unrooted, if_neg Bool.false_ne_true]
  split
  · exact ⟨"", .inl rfl, by rw [String.append_empty]⟩
  · exact ⟨"/", .inr rfl, rfl⟩

theorem text_join_ne_empty {base : Path} (filled : base.text ≠ "") (rel : Path) :
    (base.join rel).text ≠ "" := by
  unfold join
  split
  · next rooted =>
    intro empty
    rw [isRooted, empty] at rooted
    cases rooted
  · split
    · simp [filled]
    · simp

/-- Joining nothing writes a slash at the end, unless one stands there. -/
theorem join_empty {base : Path} (filled : base.text ≠ "") :
    base.join ⟨""⟩ = if base.isSlashed then base else ⟨base.text ++ "/"⟩ := by
  have unrooted : isRooted ⟨""⟩ = false := by decide
  unfold join
  cases slashed : base.isSlashed with
  | true => simp [unrooted]
  | false => simp [unrooted, filled]

end Path

end Scaffold
