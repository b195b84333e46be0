import Scaffold.Proofs.Path.Absolutized

/-!
# Paths that begin one another

Whether one path begins another is told from their parts. For absolutized paths that start alike
(`Canonical.StartsAs`) it says what it should: one begins the other exactly where it names a place
around the other's (`Path.absolutize_prefix_iff`). Staying is spelled `.` and climbing is spelled
`..`. The first begins no other path (`Canonical.parts_eq_of_stay_begins`), and the second begins the paths
that climb further, which lead above it (`Canonical.startsAs_of_begins`).
-/

namespace Scaffold

namespace Canonical

/-- The two movements start at the same place wherever they are made from, and the first does not end
there by staying. -/
structure StartsAs (c c' : Canonical) : Prop where
  rooted : c.rooted = c'.rooted
  climbs : c.climbs = c'.climbs
  moves : c ≠ stay

variable {c c' : Canonical}

/-- Movements that are spelled alike are the same. -/
theorem parts_inj (wf : c.WF) (wf' : c'.WF) : c.parts = c'.parts ↔ c = c' := by
  refine ⟨fun same => ?_, congrArg parts⟩
  rw [← ofParts_parts wf, ← ofParts_parts wf', same]

/-- Of movements that start alike, the names of one continue those of the other where its parts do. -/
theorem parts_prefix_iff (starts : c.StartsAs c') : c.parts <+: c'.parts ↔ c.names <:+ c'.names := by
  obtain ⟨rooted, climbs, names⟩ := c
  obtain ⟨rooted', climbs', names'⟩ := c'
  obtain ⟨sameRoot, sameClimbs, moves⟩ := starts
  dsimp only at sameRoot sameClimbs
  subst sameRoot sameClimbs
  have spelled : names.reverse.map Part.name <+: names'.reverse.map Part.name ↔ names <:+ names' := by
    rw [List.prefix_map_iff_of_injective fun _ _ same => Part.name.inj same, List.reverse_prefix]
  cases rooted with
  | true =>
    simp only [parts, if_true, List.cons_prefix_cons, true_and]
    exact spelled
  | false =>
    have leaves : ¬ (climbs = 0 ∧ names = []) := by
      rintro ⟨rfl, rfl⟩
      exact moves rfl
    simp only [parts, Bool.false_eq_true, if_false, if_neg leaves]
    split
    · next stays =>
      -- the second movement stays, so the first has names that it lacks
      obtain ⟨rfl, rfl⟩ := stays
      cases names with
      | nil => exact absurd ⟨rfl, rfl⟩ leaves
      | cons n outer =>
        refine ⟨fun begins => ?_, fun ends => ?_⟩
        · obtain ⟨m, inner, listed⟩ := List.exists_cons_of_ne_nil
            (List.reverse_ne_nil_iff.2 (List.cons_ne_nil n outer))
          rw [listed] at begins
          cases (List.cons_prefix_cons.1 begins).1
        · cases List.suffix_nil.1 ends
    · rw [List.prefix_append_right_inj]
      exact spelled

/-- Of movements that start alike, one leads into the other where its names continue the other's. -/
theorem move_suffix_iff (starts : c.StartsAs c') (cwd : Place) :
    c.move cwd <:+ c'.move cwd ↔ c.names <:+ c'.names := by
  rw [move, move, ← starts.rooted, ← starts.climbs, ← List.reverse_prefix, List.reverse_append,
    List.reverse_append, List.prefix_append_right_inj, List.reverse_prefix]

theorem move_eq_iff (starts : c.StartsAs c') (cwd : Place) : c.move cwd = c'.move cwd ↔ c = c' := by
  obtain ⟨rooted, climbs, names⟩ := c
  obtain ⟨rooted', climbs', names'⟩ := c'
  obtain ⟨sameRoot, sameClimbs, -⟩ := starts
  dsimp only at sameRoot sameClimbs
  subst sameRoot sameClimbs
  refine ⟨fun same => ?_, fun same => by rw [same]⟩
  cases List.append_cancel_right same
  rfl

/-- The path of staying begins no path but itself. -/
theorem parts_eq_of_stay_begins (wf : c.WF) (begins : stay.parts <+: c.parts) : c.parts = stay.parts := by
  have first : ∃ rest, c.parts = .here :: rest := by
    obtain ⟨rest, whole⟩ := begins
    exact ⟨rest, whole.symm⟩
  obtain ⟨rest, starts⟩ := first
  unfold parts at starts ⊢
  split at starts
  · cases starts
  · split at starts
    · next unrooted stays =>
      rw [if_neg unrooted, if_pos stays]
      rfl
    · have member : Part.here ∈ List.replicate c.climbs .up ++ c.names.reverse.map .name := by
        rw [starts]
        exact List.mem_cons_self
      exact absurd rfl (wf_of_mem_ups c.climbs wf.plain member).2.2

/-- The climbs of a movement are spelled out. -/
theorem count_up_parts (wf : c.WF) : c.parts.count .up = c.climbs := by
  have descent (names : Place) : (names.reverse.map Part.name).count .up = 0 := by
    refine List.count_eq_zero.2 fun member => ?_
    obtain ⟨n, -, same⟩ := List.mem_map.1 member
    cases same
  obtain ⟨rooted, climbs, names⟩ := c
  unfold parts
  cases rooted with
  | true =>
    have level : climbs = 0 := wf.level rfl
    rw [if_pos rfl, level]
    exact (List.count_cons_of_ne Part.noConfusion).trans (descent names)
  | false =>
    rw [if_neg Bool.false_ne_true]
    split
    · next stays => exact stays.1.symm
    · rw [List.count_append, List.count_replicate_self, descent, Nat.add_zero]

theorem head?_parts (wf : c.WF) : c.parts.head? = some .root ↔ c.rooted = true := by
  unfold parts
  split
  · next rooted => exact ⟨fun _ => rooted, fun _ => rfl⟩
  · next unrooted =>
    refine ⟨fun top => ?_, fun rooted => absurd rooted unrooted⟩
    split at top
    · cases top
    · exact absurd rfl (wf_of_mem_ups c.climbs wf.plain (List.mem_of_head? top)).2.1

/-- A movement whose path begins another one starts like that one, or the other one climbs further. -/
theorem startsAs_of_begins (wf : c.WF) (wf' : c'.WF) (begins : c.parts <+: c'.parts)
    (other : c.parts ≠ c'.parts) : c.StartsAs c' ∨ c.climbs < c'.climbs := by
  have moves : c ≠ stay := by
    rintro rfl
    exact other (parts_eq_of_stay_begins wf' begins).symm
  have rooted : c.rooted = c'.rooted := by
    obtain ⟨first, inner, spelled⟩ := List.exists_cons_of_ne_nil c.parts_ne_nil
    have head : c'.parts.head? = c.parts.head? := by
      obtain ⟨rest, whole⟩ := begins
      rw [← whole, spelled]
      rfl
    rw [Bool.eq_iff_iff, ← head?_parts wf, ← head?_parts wf', head]
  have climbs : c.climbs ≤ c'.climbs := by
    rw [← count_up_parts wf, ← count_up_parts wf']
    exact begins.sublist.count_le _
  rcases Nat.lt_or_eq_of_le climbs with further | same
  · exact .inr further
  · exact .inl ⟨rooted, same, moves⟩

end Canonical

namespace Path

variable {root rel root' rel' : Path}

/-- Of absolutized paths that start alike, one begins the other where it names a place around the
other's. -/
theorem absolutize_prefix_iff (starts : (below root rel).StartsAs (below root' rel')) (cwd : Place) :
    (root.absolutize rel).parts <+: (root'.absolutize rel').parts ↔
      (root.absolutize rel).place cwd <:+ (root'.absolutize rel').place cwd := by
  rw [parts_absolutize, parts_absolutize, Canonical.parts_prefix_iff starts,
    ← Canonical.move_suffix_iff starts cwd, place_absolutize, place_absolutize, move_below,
    move_below]

/-- Absolutized paths that start alike have the same parts where they name the same place. -/
theorem absolutize_parts_eq_iff (starts : (below root rel).StartsAs (below root' rel'))
    (cwd : Place) :
    (root.absolutize rel).parts = (root'.absolutize rel').parts ↔
      (root.absolutize rel).place cwd = (root'.absolutize rel').place cwd := by
  rw [parts_absolutize, parts_absolutize,
    Canonical.parts_inj (wf_below root rel) (wf_below root' rel'),
    ← Canonical.move_eq_iff starts cwd, place_absolutize, place_absolutize, move_below, move_below]

end Path

end Scaffold
