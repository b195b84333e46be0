import Scaffold.Proofs.Path.Rounds

/-!
# Absolutized paths

An absolutized path names the place that is reached by following `rel` from the place of the root
(`Path.place_absolutize`). `rel` leads out of the root by as many levels as it climbs, so it names a
place at or below the root when it does not climb (`Path.place_suffix_of_not_climbing`). Behind a name it
holds names only (`Path.descends_absolutize`), and all of its parts are written (`Path.straight_absolutize`).
-/

namespace Scaffold

namespace Path

/-! ## Where absolutized paths lead -/

theorem wf_below (root rel : Path) : (below root rel).WF := by
  refine Canonical.wf_ofParts fun x member => ?_
  rcases List.mem_append.1 member with outer | inner
  · exact wf_of_mem_parts outer
  · exact wf_of_mem_parts (List.mem_filter.1 inner).1

theorem parts_absolutize (root rel : Path) : (root.absolutize rel).parts = (below root rel).parts := by
  rw [absolutize_eq, Canonical.parts_path (wf_below root rel)]

/-- The place that `rel` names below `root`: its parts, without a top of its own, are followed from the
place of the root. -/
def placeBelow (cwd : Place) (root rel : Path) : Place :=
  (rel.parts.filter (· ≠ .root)).foldl Part.step (root.place cwd)

theorem move_below (root rel : Path) (cwd : Place) :
    (below root rel).move cwd = placeBelow cwd root rel := by
  rw [below, Canonical.move_ofParts, List.foldl_append]
  rfl

/-- An absolutized path names the place of `rel` below the place of `root`. -/
theorem place_absolutize (root rel : Path) (cwd : Place) :
    (root.absolutize rel).place cwd = placeBelow cwd root rel := by
  rw [absolutize_eq, Canonical.place_path (wf_below root rel), move_below]

/-- How many levels a path leads up from where it starts. A leading slash is ignored. -/
def climbs (rel : Path) : Nat := (Canonical.ofParts (rel.parts.filter (· ≠ .root))).climbs

theorem place_absolutize_eq (root rel : Path) (cwd : Place) :
    ∃ names, (root.absolutize rel).place cwd = names ++ (root.place cwd).drop rel.climbs := by
  have unrooted : (Canonical.ofParts (rel.parts.filter (· ≠ .root))).rooted = false :=
    Canonical.rooted_ofParts fun x member => of_decide_eq_true (List.mem_filter.1 member).2
  refine ⟨(Canonical.ofParts (rel.parts.filter (· ≠ .root))).names, ?_⟩
  rw [place_absolutize, placeBelow, ← Canonical.move_ofParts, Canonical.move, unrooted]
  rfl

/-- A path that does not climb names a place at or below the root. -/
theorem place_suffix_of_not_climbing {rel : Path} (level : rel.climbs = 0) (root : Path)
    (cwd : Place) : root.place cwd <:+ (root.absolutize rel).place cwd := by
  obtain ⟨names, named⟩ := place_absolutize_eq root rel cwd
  rw [level, List.drop_zero] at named
  exact ⟨names, named.symm⟩

/-! ## Places of joined paths -/

theorem foldl_step_filter (cwd : Place) (xs : List Part) :
    (xs.filter (· ≠ .here)).foldl Part.step cwd = xs.foldl Part.step cwd := by
  induction xs generalizing cwd with
  | nil => rfl
  | cons x rest ih =>
    by_cases here : x = .here
    · rw [List.filter_cons_of_neg (by simp [here]), ih, here]
      rfl
    · rw [List.filter_cons_of_pos (by simp [here]), List.foldl_cons, List.foldl_cons, ih]

theorem foldl_step_names (p : Place) (names : List String) :
    (names.map Part.name).foldl Part.step p = names.reverse ++ p := by
  induction names generalizing p with
  | nil => rfl
  | cons n rest ih =>
    rw [List.map_cons, List.foldl_cons, ih, List.reverse_cons, List.append_assoc]
    rfl

/-- A path names the place to which all parts that are written lead. -/
theorem foldl_writtenParts (p : Path) (cwd : Place) :
    p.writtenParts.foldl Part.step cwd = p.place cwd := by
  unfold place parts
  cases p.writtenParts with
  | nil => rfl
  | cons first rest => rw [List.foldl_cons, List.foldl_cons, foldl_step_filter]

theorem place_join_name (base : Path) {n : String} (plain : Plain n) (cwd : Place) :
    (base.join ⟨n⟩).place cwd = n :: base.place cwd := by
  rw [place, parts_join_name base plain, List.foldl_append]
  rfl

theorem place_join_empty (base : Path) (cwd : Place) :
    (base.join ⟨""⟩).place cwd = base.place cwd := by
  rw [place, parts_join_empty, place]

/-! ## Descending paths -/

/-- Behind a name stand names only. -/
def Descends (p : Path) : Prop :=
  p.parts.Pairwise fun x y => (∃ n, x = .name n) → ∃ n, y = .name n

/-- An absolutized path restarts or climbs first and descends then. -/
theorem descends_absolutize (root rel : Path) : (root.absolutize rel).Descends := by
  have names (ns : List String) :
      (ns.map Part.name).Pairwise fun x y => (∃ n, x = .name n) → ∃ n, y = .name n := by
    refine List.pairwise_of_forall_mem_list fun x _ y member _ => ?_
    obtain ⟨n, -, rfl⟩ := List.mem_map.1 member
    exact ⟨n, rfl⟩
  unfold Descends
  rw [parts_absolutize]
  unfold Canonical.parts
  split
  · refine List.pairwise_cons.2 ⟨?_, names _⟩
    rintro x - ⟨n, ⟨⟩⟩
  · split
    · exact List.pairwise_singleton _ _
    · refine List.pairwise_append.2 ⟨?_, names _, ?_⟩
      · refine List.pairwise_replicate.2 (.inr ?_)
        rintro ⟨n, ⟨⟩⟩
      · rintro x climb y -
        rw [List.eq_of_mem_replicate climb]
        rintro ⟨n, ⟨⟩⟩

theorem Descends.join_name {base : Path} (descends : base.Descends) {n : String} (plain : Plain n) :
    (base.join ⟨n⟩).Descends := by
  unfold Descends
  rw [parts_join_name base plain]
  refine List.pairwise_append.2 ⟨descends, List.pairwise_singleton _ _, ?_⟩
  rintro x - y last -
  exact ⟨n, List.mem_singleton.1 last⟩

theorem Descends.join_empty {base : Path} (descends : base.Descends) :
    (base.join ⟨""⟩).Descends := by
  unfold Descends
  rw [parts_join_empty]
  exact descends

theorem Descends.parent {p outer : Path} (descends : p.Descends) (above : p.parent? = some outer) :
    outer.Descends := by
  unfold Descends
  rw [parts_of_parent? above]
  exact descends.sublist (List.dropLast_sublist _)

/-- The last part of the path is a name. -/
def EndsInName (p : Path) : Prop := ∃ n, p.parts.getLast? = some (.name n)

/-- A dot behind the last name is not written. -/
theorem endsInName_of_writtenParts {p : Path} {n : String}
    (last : p.writtenParts.getLast? = some (.name n)) : p.EndsInName := by
  obtain ⟨before, written⟩ := List.getLast?_eq_some_iff.1 last
  refine ⟨n, ?_⟩
  unfold parts
  rw [written]
  cases before with
  | nil => rfl
  | cons first rest =>
    rw [List.cons_append]
    dsimp only
    rw [List.filter_append, ← List.cons_append]
    exact List.getLast?_concat

/-- A path whose parent ends in a name has one more name. -/
theorem Descends.exists_parts_eq {p outer : Path} (descends : p.Descends)
    (above : p.parent? = some outer) (named : outer.EndsInName) :
    ∃ n, p.parts = outer.parts ++ [.name n] := by
  obtain ⟨m, last⟩ := named
  have parts := parts_of_parent? above
  rw [parts] at last
  obtain ⟨before, split⟩ := List.getLast?_eq_some_iff.1 last
  have filled : p.parts ≠ [] := by
    intro none
    rw [none] at last
    cases last
  have whole : p.parts = p.parts.dropLast ++ [p.parts.getLast filled] :=
    (List.dropLast_concat_getLast filled).symm
  have behind : ∃ n, p.parts.getLast filled = .name n := by
    have pairs := descends
    unfold Descends at pairs
    rw [whole, List.pairwise_append] at pairs
    exact pairs.2.2 (.name m) (by rw [split]; exact List.mem_append_right _ List.mem_cons_self) _
      List.mem_cons_self ⟨m, rfl⟩
  obtain ⟨n, ends⟩ := behind
  exact ⟨n, by rw [parts, ← ends, ← whole]⟩

/-- It ends in a name too, one level below. -/
theorem Descends.place_parent {p outer : Path} (descends : p.Descends)
    (above : p.parent? = some outer) (named : outer.EndsInName) (cwd : Place) :
    p.EndsInName ∧ ∃ n, p.place cwd = n :: outer.place cwd := by
  obtain ⟨n, parts⟩ := descends.exists_parts_eq above named
  refine ⟨⟨n, ?_⟩, n, ?_⟩
  · rw [parts, List.getLast?_concat]
  · rw [place, parts, List.foldl_append]
    rfl

/-! ## Straight paths -/

/-- Nothing is written that does not count, and behind a name stand names only. -/
structure Straight (p : Path) : Prop where
  descends : p.Descends
  written : p.writtenParts = p.parts

theorem straight_absolutize (root rel : Path) : (root.absolutize rel).Straight := by
  refine ⟨descends_absolutize root rel, ?_⟩
  have wf := wf_below root rel
  rw [parts_absolutize, absolutize_eq, Canonical.path_eq_ofParts wf]
  exact writtenParts_ofParts (Canonical.wf_of_mem_parts wf).1
    fun x later => ((Canonical.wf_of_mem_parts wf).2 x later).1

theorem text_absolutize_ne_empty (root rel : Path) : (root.absolutize rel).text ≠ "" := by
  intro empty
  have nothing : (root.absolutize rel).parts = [] := by
    unfold parts writtenParts isRooted
    rw [empty]
    rfl
  rw [parts_absolutize] at nothing
  exact Canonical.parts_ne_nil _ nothing

theorem Straight.parent {p outer : Path} (straight : p.Straight) (above : p.parent? = some outer) :
    outer.Straight := by
  refine ⟨straight.descends.parent above, ?_⟩
  have parts := parts_of_parent? above
  unfold parent? at above
  split at above
  · cases above
  · cases above
  · cases above
    rw [parts]
    exact writtenParts_ofParts (fun x member => wf_of_mem_parts (List.dropLast_subset _ member))
      fun x later => (inner_of_mem_tail_parts (mem_of_mem_tail_dropLast later)).1

theorem Straight.join_name {base : Path} (straight : base.Straight) {n : String} (plain : Plain n) :
    (base.join ⟨n⟩).Straight := by
  refine ⟨straight.descends.join_name plain, ?_⟩
  rw [writtenParts_join base (writtenParts_name plain).1, (writtenParts_name plain).2,
    parts_join_name base plain, straight.written]

theorem Straight.join_empty {base : Path} (straight : base.Straight) :
    (base.join ⟨""⟩).Straight := by
  have nothing : writtenParts ⟨""⟩ = [] := by decide
  refine ⟨straight.descends.join_empty, ?_⟩
  rw [writtenParts_join base (by decide), nothing, List.append_nil, parts_join_empty, straight.written]

/-- A straight path is written as its parent is, and one more name. -/
theorem Straight.exists_writtenParts_eq {p outer : Path} (straight : p.Straight)
    (above : p.parent? = some outer) (named : outer.EndsInName) :
    ∃ n, p.writtenParts = outer.writtenParts ++ [.name n] := by
  rw [straight.written, (straight.parent above).written]
  exact straight.descends.exists_parts_eq above named

end Path

end Scaffold
