import Scaffold.Proofs.Path.Length

/-!
# Normalized paths

A normalized path names the place of the path that it was made of, whatever directory both are seen from.
It is also the only one that does: movements that lead to the same place from every directory are one
movement (`Canonical.LeadAlike.eq`), so paths of the same places are normalized to the same text
(`Path.normalize_eq_iff_place_eq`).

Seen from a single directory, different movements can lead to one place. They are told apart by directories
that hold nothing but copies of one name: what is left of such a directory is seen behind the names that a
movement adds, and it changes with the name.

The text of a normalized path is a single dot or `Path.Tidy`.
-/

namespace Scaffold

/-! ## Movements are told apart by where they lead -/

namespace Canonical

variable {c c' : Canonical}

/-- From a row of copies of one name, a movement leaves the copies that it does not climb over. -/
theorem move_replicate (unrooted : c.rooted = false) (k : Nat) (n : String) :
    c.move (List.replicate k n) = c.names ++ List.replicate (k - c.climbs) n := by
  rw [move, unrooted, if_neg Bool.false_ne_true, List.drop_replicate]

theorem move_of_rooted (rooted : c.rooted = true) (cwd : Place) : c.move cwd = c.names := by
  rw [move, if_pos rooted, List.append_nil]

/-- The movements lead to the same place from every directory. -/
def LeadAlike (c c' : Canonical) : Prop := ∀ cwd : Place, (∀ n ∈ cwd, Plain n) → c.move cwd = c'.move cwd

theorem LeadAlike.symm (alike : c.LeadAlike c') : c'.LeadAlike c := fun cwd plain => (alike cwd plain).symm

/-- Nothing is a row of copies of every name. -/
theorem false_of_copies {names place : Place} {k : Nat}
    (copies : ∀ n, Plain n → place = names ++ List.replicate (k + 1) n) : False := by
  have same := (copies "a" (by decide)).symm.trans (copies "b" (by decide))
  have letters := List.append_cancel_left same
  rw [List.replicate_succ, List.replicate_succ] at letters
  exact absurd (List.cons.inj letters).1 (by decide)

theorem LeadAlike.replicate (alike : c.LeadAlike c') (k : Nat) {n : String} (plain : Plain n) :
    c.move (List.replicate k n) = c'.move (List.replicate k n) :=
  alike _ fun _ member => List.eq_of_mem_replicate member ▸ plain

/-- A movement from the top does not see the directory that another one starts from. -/
theorem LeadAlike.not_rooted (alike : c.LeadAlike c') (rooted : c.rooted = true) :
    c'.rooted ≠ false := by
  intro unrooted
  refine @false_of_copies c'.names c.names 0 fun n plain => ?_
  have same := alike.replicate (c'.climbs + 1) plain
  rw [move_of_rooted rooted, move_replicate unrooted, Nat.add_sub_cancel_left] at same
  exact same

/-- A movement that climbs less leaves a copy that the other one has climbed over. -/
theorem LeadAlike.not_climbs_lt (alike : c.LeadAlike c') (unrooted : c.rooted = false)
    (unrooted' : c'.rooted = false) : ¬ c.climbs < c'.climbs := by
  intro further
  obtain ⟨k, left⟩ := Nat.exists_eq_add_of_lt further
  refine @false_of_copies c.names c'.names k fun n plain => ?_
  have same := alike.replicate c'.climbs plain
  rw [move_replicate unrooted, move_replicate unrooted', Nat.sub_self, List.replicate_zero,
    List.append_nil] at same
  rw [← same, left, Nat.add_assoc, Nat.add_sub_cancel_left]

/-- Movements that lead to the same place from every directory are the same. -/
theorem LeadAlike.eq (wf : c.WF) (wf' : c'.WF) (alike : c.LeadAlike c') : c = c' := by
  have fromTop := alike [] fun _ member => absurd member List.not_mem_nil
  have rooted : c.rooted = c'.rooted := by
    cases top : c.rooted with
    | true => exact ((Bool.not_eq_false _).mp (alike.not_rooted top)).symm
    | false =>
      cases top' : c'.rooted with
      | true => exact absurd top (alike.symm.not_rooted top')
      | false => rfl
  obtain ⟨top, climbs, names⟩ := c
  obtain ⟨top', climbs', names'⟩ := c'
  cases rooted
  have same : names = names' := by
    cases top with
    | true => exact List.append_cancel_right fromTop
    | false => simpa [move] using fromTop
  have level : climbs = climbs' := by
    cases top with
    | true => exact (wf.level rfl).trans (wf'.level rfl).symm
    | false =>
      have less := alike.not_climbs_lt rfl rfl
      have more := alike.symm.not_climbs_lt rfl rfl
      dsimp only at less more
      omega
  rw [same, level]

end Canonical

/-! ## The text of a normalized path -/

/-- Of two slashes in a row, the piece between them is empty. -/
theorem nil_mem_of_slashes {cs : List Char} (twice : ['/', '/'] <:+: cs) :
    [] ∈ (cutAtSlashes cs).tail.dropLast := by
  obtain ⟨before, behind, rfl⟩ := twice
  have cut : cutAtSlashes (before ++ ['/', '/'] ++ behind) =
      cutAtSlashes before ++ [] :: cutAtSlashes behind := by
    rw [List.append_assoc]
    exact Path.cutAtSlashes_append before ('/' :: behind)
  obtain ⟨first, pieces, begins⟩ := List.exists_cons_of_ne_nil (Path.cutAtSlashes_ne_nil before)
  have ends := Path.cutAtSlashes_ne_nil behind
  rw [cut, begins, List.cons_append, List.tail_cons, List.dropLast_append_of_ne_nil (List.cons_ne_nil _ _),
    List.dropLast_cons_of_ne_nil ends]
  exact List.mem_append_right _ List.mem_cons_self

namespace Path

/-- The path is spelled without a detour. No `.` is written and no slash too many, and in front of `..`
stands nothing but `..`. -/
structure Tidy (p : Path) : Prop where
  dotless : .here ∉ p.writtenParts
  single : ¬ ['/', '/'] <:+: p.text.toList
  unslashed : p.isSlashed = true → p.text = "/"
  leading : p.writtenParts.Pairwise fun x y => y = .up → x = .up

variable {xs : List Part}

/-- Words with slashes between them have no two slashes in a row. -/
theorem not_slashes_of_words (fine : ∀ x ∈ xs, x.WF) (rootless : ∀ x ∈ xs, x ≠ .root) :
    [] ∉ (cutAtSlashes ("/".intercalate (xs.map ofParts.word)).toList).dropLast := by
  cases xs with
  | nil => decide
  | cons x rest =>
    have free : ∀ s ∈ (x :: rest).map ofParts.word, '/' ∉ s.toList := by
      intro s member
      obtain ⟨y, part, rfl⟩ := List.mem_map.1 member
      exact Part.slash_not_mem_word (fine y part)
    rw [cutAtSlashes_intercalate free (List.cons_ne_nil _ _)]
    intro empty
    obtain ⟨s, word, none⟩ := List.mem_map.1 (List.dropLast_subset _ empty)
    obtain ⟨y, part, rfl⟩ := List.mem_map.1 word
    exact Part.word_ne_empty (fine y part) (rootless y part) none

/-- So parts are spelled without two slashes in a row. -/
theorem not_slashes_ofParts (fine : ∀ x ∈ xs, x.WF) (rootless : ∀ x ∈ xs.tail, x ≠ .root) :
    ¬ ['/', '/'] <:+: (ofParts xs).text.toList := by
  intro twice
  have empty := nil_mem_of_slashes twice
  by_cases rooted : xs.head? = some .root
  · obtain ⟨rest, rfl⟩ := List.head?_eq_some_iff.1 rooted
    have cut : cutAtSlashes (ofParts (.root :: rest)).text.toList =
        [] :: cutAtSlashes ("/".intercalate (rest.map ofParts.word)).toList := by
      rw [ofParts, String.toList_append]
      exact cutAtSlashes_append [] _
    rw [cut] at empty
    exact not_slashes_of_words (fun x later => fine x (List.mem_cons_of_mem _ later)) rootless empty
  · rw [ofParts_of_unrooted rooted, ← List.tail_dropLast] at empty
    exact not_slashes_of_words fine (rootless_of_head? rooted rootless) (List.mem_of_mem_tail empty)

end Path

/-- In front of a climb of a movement stand climbs only. -/
theorem Canonical.leading_parts (c : Canonical) : c.parts.Pairwise fun x y => y = .up → x = .up := by
  have level : ∀ y ∈ c.names.reverse.map Part.name, y ≠ .up := by
    rintro y member rfl
    obtain ⟨n, -, same⟩ := List.mem_map.1 member
    cases same
  have names : (c.names.reverse.map Part.name).Pairwise fun x y => y = .up → x = .up :=
    List.pairwise_of_forall_mem_list fun _ _ y member climb => absurd climb (level y member)
  unfold Canonical.parts
  split
  · exact List.pairwise_cons.2 ⟨fun y member climb => absurd climb (level y member), names⟩
  · split
    · exact List.pairwise_singleton _ _
    · refine List.pairwise_append.2 ⟨List.pairwise_replicate.2 (.inr fun _ => rfl), names, ?_⟩
      exact fun x _ y member climb => absurd climb (level y member)

namespace Path

/-! ## Normalized paths -/

/-- Staying is spelled by one dot, and every other movement is spelled without any. -/
theorem text_normalize_or_dotless (p : Path) :
    p.normalize.text = "." ∨ .here ∉ p.normalize.writtenParts := by
  have wf := wf_ofParts p
  rw [writtenParts_normalize]
  by_cases stays : (Canonical.ofParts p.parts).moves = []
  · left
    rw [normalize_eq, Canonical.path_eq_ofParts wf, Canonical.parts_eq_of_stays stays]
    rfl
  · right
    rw [Canonical.parts_eq_of_moves stays]
    intro dot
    rcases List.mem_append.1 dot with start | name
    · split at start
      · cases List.mem_singleton.1 start
      · cases List.eq_of_mem_replicate start
    · obtain ⟨n, -, same⟩ := List.mem_map.1 name
      cases same

/-- A normalized path is a single dot, or it is spelled without a detour. -/
theorem tidy_normalize (p : Path) : p.normalize.text = "." ∨ p.normalize.Tidy := by
  have wf := wf_ofParts p
  refine (text_normalize_or_dotless p).imp_right fun dotless => ⟨dotless, ?_, fun slashed => ?_, ?_⟩
  · rw [normalize_eq, Canonical.path_eq_ofParts wf]
    exact not_slashes_ofParts (Canonical.wf_of_mem_parts wf).1
      fun x later => ((Canonical.wf_of_mem_parts wf).2 x later).1
  · rw [eq_top_of_isSlashed_normalize slashed]
  · rw [writtenParts_normalize]
    exact Canonical.leading_parts _

/-- A path and its normalized spelling name the same place. -/
theorem place_normalize (p : Path) (cwd : Place) : p.normalize.place cwd = p.place cwd := by
  rw [normalize_eq, Canonical.place_path (wf_ofParts p), Canonical.move_ofParts]
  rfl

/-- **Normalized paths are names of places.** Two paths are normalized to the same text exactly if they name
the same place from every directory, and the text is a name of that place itself. Normalizing it again
changes nothing, and it is a single dot or is spelled without a detour. -/
theorem normalize_eq_iff_place_eq (p q : Path) :
    (p.normalize = q.normalize ↔
      ∀ cwd : Place, (∀ n ∈ cwd, Plain n) → p.place cwd = q.place cwd) ∧
    (∀ cwd, p.normalize.place cwd = p.place cwd) ∧
    p.normalize.normalize = p.normalize ∧
    (p.normalize.text = "." ∨ p.normalize.Tidy) := by
  refine ⟨⟨fun same cwd _ => ?_, fun same => ?_⟩, place_normalize p, normalize_normalize p, tidy_normalize p⟩
  · rw [← place_normalize p, ← place_normalize q, same]
  · have alike : (Canonical.ofParts p.parts).LeadAlike (Canonical.ofParts q.parts) := by
      intro cwd plain
      rw [Canonical.move_ofParts, Canonical.move_ofParts]
      exact same cwd plain
    rw [normalize_eq, normalize_eq, alike.eq (wf_ofParts p) (wf_ofParts q)]

end Path

end Scaffold
