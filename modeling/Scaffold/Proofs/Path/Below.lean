import Mathlib.Data.List.Basic
import Scaffold.Proofs.Path.Folding

/-!
# Paths below paths

A path below a root names what it names from the place of the root, once its own top is left out
(`Path.place_absolutize_unrooted`). So a path below a path is a joined path below the root
(`Path.absolutize_absolutize`): joining comes before folding on one side and between two foldings on the
other, and a row of parts folds to the same movement wherever it is cut.

An absolutized path is normal, and a root may be normalized first. `Path.absolutize_composes` puts the three
together.
-/

namespace Scaffold

namespace Path

/-- The path without its own top. -/
def unrooted (p : Path) : Path := if p.isRooted then ofParts p.parts.tail else p

/-- Without dots, the parts of a path are those that are written, its own top left out or not. -/
theorem foldl_push_rootless (c : Canonical) (p : Path) :
    (p.parts.filter (· ≠ .root)).foldl Canonical.push c =
      (p.writtenParts.filter (· ≠ .root)).foldl Canonical.push c := by
  rw [← Canonical.foldl_push_filter, ← Canonical.foldl_push_filter c (p.writtenParts.filter _),
    List.filter_comm, filter_parts, List.filter_comm]

theorem parts_unrooted (p : Path) : p.unrooted.parts = p.parts.filter (· ≠ .root) := by
  have inner : ∀ x ∈ p.parts.tail, x ≠ .root := fun x later => (inner_of_mem_tail_parts later).1
  unfold unrooted
  cases rooted : p.isRooted with
  | false =>
    rw [if_neg Bool.false_ne_true, List.filter_eq_self.2]
    intro x member
    exact decide_eq_true (ne_root_of_mem_writtenParts rooted (mem_writtenParts_of_mem_parts member))
  | true =>
    have top : p.parts = .root :: p.parts.tail := by
      rw [parts, writtenParts_eq, if_pos rooted]
      rfl
    have names : (ofParts p.parts.tail).parts = p.parts.tail :=
      parts_ofParts (fun x later => wf_of_mem_parts (List.mem_of_mem_tail later))
        fun x later => inner_of_mem_tail_parts (List.mem_of_mem_tail later)
    have whole : p.parts.tail.filter (· ≠ .root) = p.parts.tail :=
      List.filter_eq_self.2 fun x later => decide_eq_true (inner x later)
    rw [if_pos rfl, names]
    conv_rhs => rw [top]
    rw [List.filter_cons_of_neg (by simp), whole]

/-- A path below a root names what it names without its own top, seen from the place of the root. -/
theorem place_absolutize_unrooted (root rel : Path) (cwd : Place) :
    (root.absolutize rel).place cwd = rel.unrooted.place (root.place cwd) := by
  rw [place_absolutize, placeBelow, ← parts_unrooted]
  rfl

/-- An absolutized path is normal. -/
theorem normalize_absolutize (root rel : Path) : (root.absolutize rel).normalize = root.absolutize rel := by
  rw [normalize_eq, parts_absolutize, Canonical.ofParts_parts (wf_below root rel), absolutize_eq]

/-- The path of `b` below the path of `a` below a root is that of the joined path below the root. -/
theorem absolutize_absolutize (root a : Path) {b : Path} (relative : b.isRooted = false) :
    (root.absolutize a).absolutize b = root.absolutize (a.join b) := by
  have joined : ((a.join b).writtenParts.filter (· ≠ .root)).foldl Canonical.push
      (Canonical.ofParts root.parts) =
        (b.writtenParts.filter (· ≠ .root)).foldl Canonical.push (below root a) := by
    rw [writtenParts_join a relative, List.filter_append, List.foldl_append,
      ← foldl_push_rootless _ a, below, Canonical.ofParts_append]
  rw [absolutize_eq, below, parts_absolutize, Canonical.ofParts_parts_append (wf_below root a),
    foldl_push_rootless, ← joined, ← foldl_push_rootless, ← Canonical.ofParts_append, absolutize_eq, below]

/-- **Absolutizing composes.** A path below a root names what it names without its own top, seen from the
place of the root. A root and its normalized spelling have the same paths below them, these paths are
normal, and a relative path below a path below a root is the joined path below the root. -/
theorem absolutize_composes (root rel a b : Path) (relative : b.isRooted = false) :
    (∀ cwd, (root.absolutize rel).place cwd = rel.unrooted.place (root.place cwd)) ∧
    root.normalize.absolutize rel = root.absolutize rel ∧
    (root.absolutize rel).normalize = root.absolutize rel ∧
    (root.absolutize a).absolutize b = root.absolutize (a.join b) :=
  ⟨place_absolutize_unrooted root rel, absolutize_normalize root rel, normalize_absolutize root rel,
    absolutize_absolutize root a relative⟩

/-- The root climbs, the paths below it climb over what it has left, and they meet at its place. -/
theorem absolutize_composes_over_climbs :
    let root : Path := ⟨"../r/./s"⟩
    let rel : Path := ⟨"/../../.."⟩
    let a : Path := ⟨"//d/../../.."⟩
    let b : Path := ⟨"./../../e"⟩
    b.isRooted = false ∧
    (∀ cwd, (root.absolutize rel).place cwd = rel.unrooted.place (root.place cwd)) ∧
    root.normalize.absolutize rel = root.absolutize rel ∧
    (root.absolutize rel).normalize = root.absolutize rel ∧
    (root.absolutize a).absolutize b = root.absolutize (a.join b) := by
  intro root rel a b
  have relative : b.isRooted = false := by decide
  exact ⟨relative, absolutize_composes root rel a b relative⟩

end Path

end Scaffold
