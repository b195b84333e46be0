import Scaffold.Proofs.Path.Absolutized

/-!
# Folding and joining

A `.` changes nothing wherever it is written (`Path.foldl_push_parts`), and a canonical path folds to the
movement that it spells. So normalizing twice is normalizing once, a root that has been normalized leaves
the paths below it as they are (`Path.absolutize_normalize`), and a path below a root is the normalized join
of the two (`Path.absolutize_eq_normalize_join`).
-/

namespace Scaffold

namespace Path

/-! ## Normalized paths -/

/-- Without dots, a path has the parts that are written. -/
theorem filter_parts (p : Path) :
    p.parts.filter (· ≠ .here) = p.writtenParts.filter (· ≠ .here) := by
  unfold parts
  cases p.writtenParts with
  | nil => rfl
  | cons first rest =>
    dsimp only
    rw [List.filter_cons, List.filter_cons, List.filter_filter]
    simp only [Bool.and_self]

theorem parts_normalize (p : Path) : p.normalize.parts = (Canonical.ofParts p.parts).parts := by
  rw [normalize_eq, Canonical.parts_path (wf_ofParts p)]

theorem writtenParts_normalize (p : Path) :
    p.normalize.writtenParts = (Canonical.ofParts p.parts).parts := by
  have wf := wf_ofParts p
  rw [normalize_eq, Canonical.path_eq_ofParts wf]
  exact writtenParts_ofParts (Canonical.wf_of_mem_parts wf).1
    fun x later => ((Canonical.wf_of_mem_parts wf).2 x later).1

/-- A normalized path is normal. -/
theorem normalize_normalize (p : Path) : p.normalize.normalize = p.normalize := by
  rw [normalize_eq p.normalize, parts_normalize, Canonical.ofParts_parts (wf_ofParts p), normalize_eq]

/-- A root and its normalized spelling have the same paths below them. -/
theorem absolutize_normalize (root rel : Path) :
    root.normalize.absolutize rel = root.absolutize rel := by
  rw [absolutize_eq, absolutize_eq, below, below, parts_normalize, Canonical.ofParts_parts_append (wf_ofParts root),
    Canonical.ofParts_append]

theorem ne_root_of_mem_writtenParts {rel : Path} (unrooted : rel.isRooted = false) {x : Part}
    (member : x ∈ rel.writtenParts) : x ≠ .root := by
  rw [writtenParts_eq, unrooted] at member
  exact ne_root_of_mem_pieces member

theorem rootless_writtenParts (p : Path) : ∀ x ∈ p.writtenParts.tail, x ≠ .root := by
  intro x later
  rw [writtenParts_eq] at later
  split at later
  · exact ne_root_of_mem_pieces later
  · exact ne_root_of_mem_pieces (List.mem_of_mem_tail later)

/-- A path below a root is the normalized join of the two. -/
theorem absolutize_eq_normalize_join (root : Path) {rel : Path} (unrooted : rel.isRooted = false) :
    root.absolutize rel = (root.join rel).normalize := by
  have whole : rel.parts.filter (· ≠ .root) = rel.parts :=
    List.filter_eq_self.2 fun x member => decide_eq_true
      (ne_root_of_mem_writtenParts unrooted (mem_writtenParts_of_mem_parts member))
  rw [absolutize_eq, below, normalize_eq, whole, ← ofParts_writtenParts, writtenParts_join root unrooted,
    Canonical.ofParts_append, Canonical.ofParts_append, foldl_push_parts, ofParts_writtenParts]

end Path

end Scaffold
