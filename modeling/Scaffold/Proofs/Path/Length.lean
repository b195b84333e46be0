import Mathlib.Algebra.GroupWithZero.Nat
import Scaffold.Proofs.Path.Folding

/-!
# How long normalized paths are

Each part of a path takes the bytes of its word and one more for a slash (`Part.weight`). The slashes cut
a text without losing bytes (`sum_size_cutAtSlashes`), so the parts of a path weigh no more than its text
with a slash at the end (`Path.weight_writtenParts_le`). Folding takes parts away and adds none
(`Canonical.weight_moves_le`), hence a normalized path is no longer than the path that was given
(`Path.size_normalize_le`), and neither is what is joined to it (`Path.size_normalize_join_le`). It has
no characters but those of the path, slashes and dots (`Path.mem_text_normalize`).
-/

namespace Scaffold

/-! ## Bytes between slashes -/

/-- The bytes that the characters take. -/
def byteSize (cs : List Char) : Nat := (String.ofList cs).utf8ByteSize

theorem byteSize_cons (c : Char) (cs : List Char) :
    byteSize (c :: cs) = c.utf8Size + byteSize cs := by
  simp only [byteSize, String.ofList_cons, String.utf8ByteSize_append, String.utf8ByteSize_singleton]

theorem byteSize_toList (s : String) : byteSize s.toList = s.utf8ByteSize := by
  rw [byteSize, String.ofList_toList]

/-- One slash fewer than pieces was cut away. -/
theorem sum_size_cutAtSlashes (cs : List Char) :
    ((cutAtSlashes cs).map (byteSize · + 1)).sum = byteSize cs + 1 := by
  induction cs with
  | nil => rfl
  | cons c rest ih =>
    rw [cutAtSlashes, byteSize_cons]
    split
    · next slash =>
      have oneByte : c.utf8Size = 1 := by rw [slash]; rfl
      rw [List.map_cons, List.sum_cons, ih, oneByte]
      have nothing : byteSize [] = 0 := rfl
      omega
    · split
      · next none => exact absurd none (Path.cutAtSlashes_ne_nil rest)
      · next piece pieces cut =>
        rw [cut, List.map_cons, List.sum_cons] at ih
        rw [List.map_cons, List.sum_cons, byteSize_cons]
        omega

theorem mem_of_mem_cutAtSlashes {cs piece : List Char} {c : Char} (cut : piece ∈ cutAtSlashes cs)
    (member : c ∈ piece) : c ∈ cs := by
  induction cs generalizing piece with
  | nil =>
    rw [List.mem_singleton.1 cut] at member
    exact member
  | cons first rest ih =>
    rw [cutAtSlashes] at cut
    split at cut
    · rcases List.mem_cons.1 cut with rfl | later
      · exact absurd member List.not_mem_nil
      · exact List.mem_cons_of_mem first (ih later member)
    · split at cut
      · rw [List.mem_singleton.1 cut] at member
        rw [List.mem_singleton.1 member]
        exact List.mem_cons_self
      · next before pieces whole =>
        rcases List.mem_cons.1 cut with rfl | later
        · rcases List.mem_cons.1 member with rfl | inside
          · exact List.mem_cons_self
          · exact List.mem_cons_of_mem first (ih (whole ▸ List.mem_cons_self) inside)
        · exact List.mem_cons_of_mem first (ih (whole ▸ List.mem_cons_of_mem before later) member)

/-! ## Weights -/

/-- The bytes of the word of a part, and one for the slash behind it. -/
def Part.weight (x : Part) : Nat := (Path.ofParts.word x).utf8ByteSize + 1

/-- What a row of parts weighs. -/
def weight (xs : List Part) : Nat := (xs.map Part.weight).sum

theorem weight_cons (x : Part) (xs : List Part) : weight (x :: xs) = x.weight + weight xs := rfl

theorem weight_append (xs ys : List Part) : weight (xs ++ ys) = weight xs + weight ys := by
  rw [weight, List.map_append, List.sum_append]
  rfl

theorem weight_ofPiece? {cs : List Char} {x : Part} (read : Part.ofPiece? cs = some x) :
    x.weight = byteSize cs + 1 := by
  unfold Part.ofPiece? at read
  split at read
  · cases read
  · cases read
    rfl
  · cases read
    rfl
  · cases read
    rfl

theorem weight_filterMap_le (pieces : List (List Char)) :
    weight (pieces.filterMap Part.ofPiece?) ≤ (pieces.map (byteSize · + 1)).sum := by
  induction pieces with
  | nil => exact Nat.le_refl 0
  | cons piece rest ih =>
    rw [List.map_cons, List.sum_cons]
    cases read : Part.ofPiece? piece with
    | none =>
      rw [List.filterMap_cons_none read]
      omega
    | some x =>
      have weighs := weight_ofPiece? read
      rw [List.filterMap_cons_some read, weight_cons]
      omega

namespace Path

variable {p rel : Path} {xs : List Part} {c : Char}

/-- The parts weigh no more than a text that ends with a slash. -/
theorem weight_le_of_slashed (slashed : p.isSlashed = true) :
    weight p.writtenParts ≤ p.text.utf8ByteSize := by
  obtain ⟨before, ends⟩ := List.getLast?_eq_some_iff.1 (of_decide_eq_true slashed)
  have size : p.text.utf8ByteSize = byteSize before + 1 := by
    have whole := sum_size_cutAtSlashes p.text.toList
    rw [ends, cutAtSlashes_append, List.map_append, List.sum_append, sum_size_cutAtSlashes] at whole
    rw [← byteSize_toList, ends]
    have last : ((cutAtSlashes []).map (byteSize · + 1)).sum = 1 := rfl
    omega
  have cut : cutAtSlashes p.text.toList = cutAtSlashes before ++ [[]] := by
    rw [ends, cutAtSlashes_append]
    rfl
  have pieces : p.pieces = (cutAtSlashes before).filterMap Part.ofPiece? := by
    rw [Path.pieces, cut, List.filterMap_append]
    exact List.append_nil _
  have whole := sum_size_cutAtSlashes before
  rw [writtenParts_eq]
  cases rooted : p.isRooted with
  | false =>
    have fits := weight_filterMap_le (cutAtSlashes before)
    rw [if_neg Bool.false_ne_true, pieces]
    omega
  | true =>
    -- the piece in front of the first slash is empty, which leaves its byte to the top
    have first : ∃ rest, cutAtSlashes before = [] :: rest := by
      unfold isRooted at rooted
      rw [ends] at rooted
      cases before with
      | nil => exact ⟨[], rfl⟩
      | cons c rest =>
        have slash : c = '/' := Option.some.inj (of_decide_eq_true rooted)
        exact ⟨cutAtSlashes rest, by rw [cutAtSlashes, if_pos slash]⟩
    obtain ⟨rest, first⟩ := first
    have fits := weight_filterMap_le rest
    rw [first, List.map_cons, List.sum_cons] at whole
    rw [if_pos rfl, pieces, first, List.filterMap_cons_none rfl, weight_cons]
    have top : Part.root.weight = 1 := rfl
    have nothing : byteSize [] = 0 := rfl
    omega

/-- How long a joined path is. -/
theorem size_join (filled : p.text ≠ "") (unrooted : rel.isRooted = false) :
    (p.join rel).text.utf8ByteSize =
      (p.join ⟨""⟩).text.utf8ByteSize + rel.text.utf8ByteSize := by
  rw [join_empty filled, join, if_neg (by simp [unrooted])]
  cases slashed : p.isSlashed with
  | true => simp [String.utf8ByteSize_append]
  | false => simp [filled, String.utf8ByteSize_append]

theorem isSlashed_join_empty (filled : p.text ≠ "") : (p.join ⟨""⟩).isSlashed = true := by
  rw [join_empty filled]
  cases slashed : p.isSlashed with
  | true => exact slashed
  | false =>
    refine decide_eq_true ?_
    rw [if_neg Bool.false_ne_true, String.toList_append]
    exact List.getLast?_concat

theorem weight_writtenParts_le (filled : p.text ≠ "") :
    weight p.writtenParts ≤ (p.join ⟨""⟩).text.utf8ByteSize := by
  have fits := weight_le_of_slashed (isSlashed_join_empty filled)
  have nothing : writtenParts ⟨""⟩ = [] := by decide
  rw [writtenParts_join p (by decide), nothing, List.append_nil] at fits
  exact fits

theorem size_join_empty_le (p : Path) :
    (p.join ⟨""⟩).text.utf8ByteSize ≤ p.text.utf8ByteSize + 1 := by
  by_cases filled : p.text = ""
  · obtain ⟨text⟩ := p
    cases filled
    decide
  · rw [join_empty filled]
    split
    · exact Nat.le_succ _
    · rw [String.utf8ByteSize_append]
      exact Nat.le_refl _

/-- A name makes a path longer. -/
theorem size_lt_join_name (p : Path) {n : String} (plain : Plain n) :
    p.text.utf8ByteSize < (p.join ⟨n⟩).text.utf8ByteSize := by
  have some_ : 0 < n.utf8ByteSize := by
    refine Nat.pos_of_ne_zero fun none => ?_
    cases String.utf8ByteSize_eq_zero_iff.1 none
    cases plain.ofPiece
  obtain ⟨slash, -, text⟩ := exists_slash_of_join p (writtenParts_name plain).1
  rw [text, String.utf8ByteSize_append, String.utf8ByteSize_append]
  dsimp only
  omega

/-- Words with slashes between them have one slash fewer than words. -/
theorem size_intercalate (word : String) (words : List String) :
    ("/".intercalate (word :: words)).utf8ByteSize + 1 =
      ((word :: words).map (·.utf8ByteSize + 1)).sum := by
  induction words generalizing word with
  | nil => rw [String.intercalate_singleton]; rfl
  | cons next rest ih =>
    have behind := ih next
    have slash : "/".utf8ByteSize = 1 := rfl
    rw [String.intercalate_cons_cons, String.utf8ByteSize_append, String.utf8ByteSize_append,
      List.map_cons, List.sum_cons]
    omega

/-- A row of parts is written in as many bytes as it weighs, less one for the slash that is not written
at the end. The top alone is a slash. -/
theorem size_ofParts (x : Part) (xs : List Part) :
    (ofParts (x :: xs)).text.utf8ByteSize + 1 = weight (x :: xs) ∨ (x = .root ∧ xs = []) := by
  have words (y : Part) (ys : List Part) :
      ("/".intercalate ((y :: ys).map ofParts.word)).utf8ByteSize + 1 = weight (y :: ys) := by
    rw [List.map_cons, size_intercalate, ← List.map_cons, List.map_map]
    rfl
  cases x with
  | root =>
    cases xs with
    | nil => exact .inr ⟨rfl, rfl⟩
    | cons y rest =>
      refine .inl ?_
      have behind := words y rest
      have slash : "/".utf8ByteSize = 1 := rfl
      have top : Part.root.weight = 1 := rfl
      rw [ofParts, weight_cons, String.utf8ByteSize_append]
      omega
  | here | up | name n => exact .inl (words _ xs)

end Path

/-! ## Folding makes a path no longer -/

namespace Canonical

theorem weight_moves_push_le (c : Canonical) (x : Part) :
    weight (c.push x).moves ≤ weight c.moves + x.weight := by
  cases x with
  | root => exact Nat.le_add_left _ _
  | here => exact Nat.le_add_right _ _
  | name n =>
    rw [moves_push_name, weight_append]
    exact Nat.le_refl _
  | up =>
    cases named : c.names with
    | cons n outer =>
      rw [moves_eq_of_names named, weight_append]
      omega
    | nil =>
      rw [moves_push_up named]
      split
      · exact Nat.le_add_right _ _
      · rw [weight_append]
        exact Nat.le_refl _

theorem weight_moves_le (xs : List Part) : weight (ofParts xs).moves ≤ weight xs := by
  induction xs using List.reverseRecOn with
  | nil => exact Nat.le_refl 0
  | append_singleton xs x ih =>
    have step := weight_moves_push_le (ofParts xs) x
    have last : weight [x] = x.weight := rfl
    rw [ofParts_concat, weight_append]
    omega

/-- Also a movement that stays, and is written as a dot, weighs no more than parts that it was made of. -/
theorem weight_parts_le {xs : List Part} (filled : xs ≠ []) : weight (ofParts xs).parts ≤ weight xs := by
  by_cases stays : (ofParts xs).moves = []
  · obtain ⟨before, x, rfl⟩ : ∃ before x, xs = before ++ [x] :=
      ⟨_, _, (List.dropLast_concat_getLast filled).symm⟩
    have notTop : x ≠ .root := by
      rintro rfl
      rw [ofParts_concat] at stays
      cases stays
    have dot : weight [.here] ≤ x.weight := by
      cases x with
      | root => exact absurd rfl notTop
      | here => exact Nat.le_refl _
      | up => exact Nat.le_succ _
      | name n =>
        rw [ofParts_concat, moves_push_name] at stays
        exact absurd stays (List.append_ne_nil_of_right_ne_nil _ (List.cons_ne_nil _ _))
    have last : weight [x] = x.weight := rfl
    rw [parts_eq_of_stays stays, weight_append]
    omega
  · rw [parts_eq_of_moves stays]
    exact weight_moves_le xs

end Canonical

namespace Path

variable {p rel : Path} {c : Char}

theorem writtenParts_ne_nil (filled : p.text ≠ "") : p.writtenParts ≠ [] := by
  intro none
  rw [writtenParts_eq] at none
  cases rooted : p.isRooted with
  | true =>
    rw [if_pos rooted] at none
    cases none
  | false =>
    rw [if_neg (by simp [rooted])] at none
    -- the first character is no slash, so the piece that it begins is a part
    cases spelled : p.text.toList with
    | nil => exact filled (String.toList_eq_nil_iff.1 spelled)
    | cons c rest =>
      have other : c ≠ '/' := by
        rintro rfl
        rw [isRooted, spelled] at rooted
        cases rooted
      have first : ∃ piece pieces, cutAtSlashes p.text.toList = (c :: piece) :: pieces := by
        rw [spelled, cutAtSlashes, if_neg other]
        split
        · exact ⟨[], [], rfl⟩
        · exact ⟨_, _, rfl⟩
      obtain ⟨piece, pieces, first⟩ := first
      rw [Path.pieces, first] at none
      have read := List.filterMap_eq_nil_iff.1 none (c :: piece) List.mem_cons_self
      unfold Part.ofPiece? at read
      split at read
      · next nothing => cases nothing
      · cases read
      · cases read
      · cases read

theorem weight_parts_normalize_le (filled : p.text ≠ "") :
    weight p.normalize.writtenParts ≤ weight p.writtenParts := by
  rw [writtenParts_normalize, ← ofParts_writtenParts]
  exact Canonical.weight_parts_le (writtenParts_ne_nil filled)

theorem size_normalize (p : Path) :
    p.normalize.text.utf8ByteSize + 1 = weight p.normalize.writtenParts ∨ p.normalize = ⟨"/"⟩ := by
  have wf := wf_ofParts p
  obtain ⟨x, xs, parts⟩ := List.exists_cons_of_ne_nil (Canonical.ofParts p.parts).parts_ne_nil
  have spelled : p.normalize = ofParts (x :: xs) := by
    rw [normalize_eq, Canonical.path_eq_ofParts wf, parts]
  rcases size_ofParts x xs with size | ⟨rfl, rfl⟩
  · rw [← spelled, ← parts, ← writtenParts_normalize] at size
    exact .inl size
  · exact .inr spelled

/-- The top is the only normalized path with a slash at the end. -/
theorem eq_top_of_isSlashed_normalize (slashed : p.normalize.isSlashed = true) :
    p.normalize = ⟨"/"⟩ := by
  have fits := weight_le_of_slashed slashed
  rcases size_normalize p with size | top
  · omega
  · exact top

/-- Normalizing makes a path no longer, with a slash at the end or without one. -/
theorem size_normalize_slashed_le (filled : p.text ≠ "") :
    (p.normalize.join ⟨""⟩).text.utf8ByteSize ≤ (p.join ⟨""⟩).text.utf8ByteSize := by
  have folded := weight_parts_normalize_le filled
  have written := weight_writtenParts_le filled
  rcases size_normalize p with size | top
  · have slash := size_join_empty_le p.normalize
    omega
  · have one : ((⟨"/"⟩ : Path).join ⟨""⟩).text.utf8ByteSize = weight (writtenParts ⟨"/"⟩) := by decide
    rw [top] at folded ⊢
    omega

theorem size_normalize_le (filled : p.text ≠ "") :
    p.normalize.text.utf8ByteSize ≤ p.text.utf8ByteSize := by
  have slashed := weight_writtenParts_le filled
  have slash := size_join_empty_le p
  have folded := weight_parts_normalize_le filled
  rcases size_normalize p with size | top
  · omega
  · rw [top]
    have positive : p.text.utf8ByteSize ≠ 0 := fun none => filled (String.utf8ByteSize_eq_zero_iff.1 none)
    have one : "/".utf8ByteSize = 1 := rfl
    dsimp only
    omega

theorem text_normalize_ne_empty (p : Path) : p.normalize.text ≠ "" := by
  intro empty
  have nothing : p.normalize.parts = [] := by
    unfold parts writtenParts isRooted
    rw [empty]
    rfl
  rw [parts_normalize] at nothing
  exact Canonical.parts_ne_nil _ nothing

/-- What is joined to a normalized path is no longer than what is joined to the path itself. -/
theorem size_normalize_join_le (filled : p.text ≠ "") (unrooted : rel.isRooted = false) :
    (p.normalize.join rel).text.utf8ByteSize ≤ (p.join rel).text.utf8ByteSize := by
  have slashed := size_normalize_slashed_le filled
  rw [size_join filled unrooted, size_join (text_normalize_ne_empty p) unrooted]
  omega

/-! ## The characters of a normalized path -/

theorem mem_text_of_name {n : String} (part : .name n ∈ p.parts) (member : c ∈ n.toList) :
    c ∈ p.text.toList := by
  have written := mem_writtenParts_of_mem_parts part
  have piece : Part.name n ∈ p.pieces := by
    rw [writtenParts_eq] at written
    split at written
    · exact (List.mem_cons.1 written).resolve_left Part.noConfusion
    · exact written
  obtain ⟨cs, cut, read⟩ := List.mem_filterMap.1 piece
  have whole : cs = n.toList := by
    unfold Part.ofPiece? at read
    split at read
    · cases read
    · cases read
    · cases read
    · cases read
      exact String.toList_ofList.symm
  exact mem_of_mem_cutAtSlashes cut (whole ▸ member)

theorem mem_intercalate {words : List String} (member : c ∈ ("/".intercalate words).toList) :
    c = '/' ∨ ∃ word ∈ words, c ∈ word.toList := by
  induction words with
  | nil => cases member
  | cons word rest ih =>
    cases rest with
    | nil =>
      rw [String.intercalate_singleton] at member
      exact .inr ⟨word, List.mem_cons_self, member⟩
    | cons next rest =>
      rw [String.intercalate_cons_cons, String.toList_append, String.toList_append, List.mem_append,
        List.mem_append] at member
      rcases member with (inside | slash) | behind
      · exact .inr ⟨word, List.mem_cons_self, inside⟩
      · exact .inl (List.mem_singleton.1 slash)
      · rcases ih behind with slash | ⟨other, listed, inside⟩
        · exact .inl slash
        · exact .inr ⟨other, List.mem_cons_of_mem word listed, inside⟩

/-- A normalized path is spelled with slashes, dots, and what its names are spelled with. -/
theorem mem_text_normalize (member : c ∈ p.normalize.text.toList) :
    c = '/' ∨ c = '.' ∨ c ∈ p.text.toList := by
  have spelled : c = '.' ∨ c = '/' ∨ ∃ word ∈ (Canonical.ofParts p.parts).words, c ∈ word.toList := by
    rw [normalize_eq] at member
    unfold Canonical.path at member
    split at member
    · rw [String.toList_append, List.mem_append] at member
      rcases member with slash | inside
      · exact .inr (.inl (List.mem_singleton.1 slash))
      · exact .inr (mem_intercalate inside)
    · split at member
      · exact .inl (List.mem_singleton.1 member)
      · exact .inr (mem_intercalate member)
  rcases spelled with dot | slash | ⟨word, listed, inside⟩
  · exact .inr (.inl dot)
  · exact .inl slash
  · rcases List.mem_append.1 listed with climb | name
    · rw [List.eq_of_mem_replicate climb] at inside
      have dots : c ∈ ['.', '.'] := inside
      have dot : c = '.' := by simpa using dots
      exact .inr (.inl dot)
    · have part := Canonical.name_mem_of_mem_names (List.mem_reverse.1 name)
      exact .inr (.inr (mem_text_of_name part inside))

/-! ## Joined paths -/

theorem mem_text_join (unrooted : rel.isRooted = false) :
    c ∈ (p.join rel).text.toList →
      c ∈ p.text.toList ∨ c = '/' ∨ c ∈ rel.text.toList := by
  intro member
  obtain ⟨slash, either, text⟩ := exists_slash_of_join p unrooted
  rw [text, String.toList_append, String.toList_append, List.mem_append, List.mem_append] at member
  rcases member with (outer | between) | inner
  · exact .inl outer
  · rcases either with rfl | rfl
    · cases between
    · exact .inr (.inl (List.mem_singleton.1 between))
  · exact .inr (.inr inner)

theorem mem_text_join_of_mem (unrooted : rel.isRooted = false)
    (member : c ∈ p.text.toList ∨ c ∈ rel.text.toList) : c ∈ (p.join rel).text.toList := by
  obtain ⟨slash, -, text⟩ := exists_slash_of_join p unrooted
  rw [text, String.toList_append, String.toList_append, List.mem_append, List.mem_append]
  exact member.imp_left .inl

end Path

end Scaffold
