import Scaffold.Proofs.Run.Passage

/-!
# What a transfer sees

A transfer from one place to another sees what lies at or below the two, and of the directories above its
destination no more than whether something else is in their place. `SameSight` says that two disks look the
same in that way. They may differ in directories that are there on one of them only.

Edits that give the same entries on both keep it up (`SameSight.edited`). For the rows of names that takes more
than for the entries, since a row shows in which order its names came: edits that add one name add it at the
end (`Edits.names_eq`). Disks look the same if what differs comes from a transfer to somewhere else
(`SameSight.of_changedAt`).
-/

namespace Scaffold

namespace Disk

variable {d d' e e' : Disk} {cwd s q t u p : Place} {n : String} {node : Node}

/-! ## Rows of names -/

/-- The name that a place has in a directory. -/
def nameIn? (u : Place) : Place → Option String
  | [] => none
  | n :: outer => if outer = u then some n else none

theorem nameIn?_eq_some_iff : nameIn? u p = some n ↔ p = n :: u := by
  cases p with
  | nil => simp [nameIn?]
  | cons m outer => simp [nameIn?, and_comm]

theorem names_eq_filterMap (d : Disk) (u : Place) :
    d.names u = (d.entries.map Prod.fst).filterMap (nameIn? u) := by
  rw [List.filterMap_map]
  refine congrArg (fun f => d.entries.filterMap f) (funext fun ⟨q, node⟩ => ?_)
  cases q with
  | nil => rfl
  | cons n outer => rfl

/-- A new place comes last. -/
theorem map_fst_assignEntry (p : Place) (node : Node) (entries : List (Place × Node)) :
    (assignEntry p node entries).map Prod.fst =
      entries.map Prod.fst ++ if entries.lookup p = none then [p] else [] := by
  induction entries with
  | nil => rfl
  | cons entry rest ih =>
    obtain ⟨r, other⟩ := entry
    by_cases same : r = p
    · simp [assignEntry, same]
    · rw [assignEntry, if_neg same, List.map_cons, ih, List.lookup_cons, beq_false_of_ne (Ne.symm same)]
      rfl

theorem names_set (below : p ≠ []) (node : Node) (u : Place) :
    (d.set p node).names u = d.names u ++ if d.get? p = none then (nameIn? u p).toList else [] := by
  obtain ⟨m, outer, rfl⟩ := List.exists_cons_of_ne_nil below
  have listed : d.entries.lookup (m :: outer) = d.get? (m :: outer) := rfl
  rw [names_eq_filterMap, names_eq_filterMap, set, map_fst_assignEntry, List.filterMap_append, listed]
  split
  · rfl
  · rfl

/-- Edits that fill no place in a directory but one add no other name to its row, and add it at the end. -/
theorem Edits.names_eq (edits : Edits d d')
    (only : ∀ m, d.get? (m :: u) = none → (d'.get? (m :: u)).isSome → m = n) :
    d'.names u = d.names u ++ if d.get? (n :: u) = none ∧ (d'.get? (n :: u)).isSome then [n] else [] := by
  induction edits with
  | refl =>
    rw [if_neg, List.append_nil]
    rintro ⟨free, filled⟩
    rw [free] at filled
    cases filled
  | @tail b c before edit ih =>
    have first := ih fun m free filled => only m free (edit.keeps.isSome filled)
    obtain ⟨place, node, rfl, below, -⟩ := edit.exists_set
    have there : (b.set place node).get? place = some node := by rw [get?_set below, if_pos rfl]
    rw [names_set below, first, List.append_assoc]
    by_cases new : b.get? place = none ∧ ∃ m, place = m :: u
    · obtain ⟨free, m, rfl⟩ := new
      cases only m (Edits.free before free) (by rw [there]; rfl)
      have named : nameIn? u (n :: u) = some n := nameIn?_eq_some_iff.2 rfl
      have absent : ¬ (d.get? (n :: u) = none ∧ (b.get? (n :: u)).isSome) := by
        rw [free]
        exact fun both => Bool.false_ne_true both.2
      rw [if_neg absent, if_pos free, if_pos ⟨Edits.free before free, by rw [there]; rfl⟩, named]
      rfl
    · -- the edit adds no name here
      have same : (b.get? (n :: u)).isSome = ((b.set place node).get? (n :: u)).isSome := by
        rw [get?_set below]
        split
        · next here =>
          subst here
          exact Option.isSome_iff_ne_none.2 fun free => new ⟨free, n, rfl⟩
        · rfl
      have nothing : (if b.get? place = none then (nameIn? u place).toList else []) = [] := by
        split
        · next free =>
          cases named : nameIn? u place with
          | none => rfl
          | some m => exact absurd ⟨free, m, nameIn?_eq_some_iff.1 named⟩ new
        · rfl
      rw [nothing, List.append_nil, same]

/-! ## Looking the same -/

/-- The disks are seen from one directory and look the same to a transfer from `s` to `q`. -/
structure SameSight (cwd s q : Place) (d d' : Disk) : Prop where
  left : Steady cwd d
  right : Steady cwd d'
  same : ∀ p, s <:+ p ∨ q <:+ p → d.get? p = d'.get? p
  listed : ∀ p, s <:+ p → d.names p = d'.names p
  way : ∀ p, p <:+ q → (d.Leaf p ↔ d'.Leaf p)

theorem leaf_congr (same : d.get? p = d'.get? p) : d.Leaf p ↔ d'.Leaf p :=
  ⟨fun leaf => ⟨same ▸ leaf.filled, same ▸ leaf.other⟩,
    fun leaf => ⟨same ▸ leaf.filled, same ▸ leaf.other⟩⟩

/-- At most one name leads from a directory towards a place. -/
theorem exists_onward (u t : Place) : ∃ n, ∀ m, m :: u <:+ t → m = n := by
  by_cases some_ : ∃ n, n :: u <:+ t
  · obtain ⟨n, towards⟩ := some_
    refine ⟨n, fun m alike => ?_⟩
    have both := (List.suffix_of_suffix_length_le alike towards (by simp)).eq_of_length (by simp)
    exact (List.cons.inj both).1
  · exact ⟨"", fun m towards => absurd ⟨m, towards⟩ some_⟩

namespace SameSight

theorem symm (sight : SameSight cwd s q d d') : SameSight cwd s q d' d :=
  ⟨sight.right, sight.left, fun p near => (sight.same p near).symm,
    fun p below => (sight.listed p below).symm, fun p above => (sight.way p above).symm⟩

/-- What is in the way on the one is in the way on the other. -/
theorem leaf_iff (sight : SameSight cwd s q d d') (near : t <:+ q ∨ q <:+ t) (above : p <:+ t) :
    d.Leaf p ↔ d'.Leaf p := by
  have onLine : p <:+ q ∨ q <:+ p := by
    rcases near with inside | outside
    · exact .inl (above.trans inside)
    · exact List.suffix_or_suffix_of_suffix above outside
  rcases onLine with inside | outside
  · exact sight.way p inside
  · exact leaf_congr (sight.same p (.inr outside))

/-- So the way of a path on the one, also after edits, is clear on the other. -/
theorem clearTo (sight : SameSight cwd s q d d') (near : t <:+ q ∨ q <:+ t) (edits : Edits d e) :
    ClearTo t e d' := fun _ above there leaf =>
  (edits.keeps.leaf ((sight.leaf_iff near above).2 leaf)).other there

/-- Edits that give the same entries to places on the way to a place. -/
theorem edited (sight : SameSight cwd s q d d') (new : Place → Option Node)
    (towards : ∀ p, new p ≠ none → p <:+ t) (edits : Edits d e) (edits' : Edits d' e')
    (given : ∀ p, e.get? p = (new p).or (d.get? p)) (given' : ∀ p, e'.get? p = (new p).or (d'.get? p)) :
    SameSight cwd s q e e' := by
  have same : ∀ p, s <:+ p ∨ q <:+ p → e.get? p = e'.get? p := fun p near => by
    rw [given, given', sight.same p near]
  refine ⟨sight.left.edits edits, sight.right.edits edits', same, fun p below => ?_, fun p above => ?_⟩
  · obtain ⟨n, single⟩ := exists_onward p t
    have only {d e : Disk} (given : ∀ p, e.get? p = (new p).or (d.get? p)) :
        ∀ m, d.get? (m :: p) = none → (e.get? (m :: p)).isSome → m = n := by
      intro m free filled
      refine single m (towards _ fun nothing => ?_)
      rw [given, nothing, free] at filled
      cases filled
    have inside : s <:+ n :: p := below.trans (List.suffix_cons n p)
    rw [edits.names_eq (only given), edits'.names_eq (only given'), sight.listed p below,
      sight.same _ (.inl inside), same _ (.inl inside)]
  · cases there : new p with
    | none =>
      have before : e.get? p = d.get? p := by rw [given, there]; rfl
      have before' : e'.get? p = d'.get? p := by rw [given', there]; rfl
      rw [leaf_congr before, leaf_congr before']
      exact sight.way p above
    | some node =>
      refine leaf_congr ?_
      rw [given, given', there]
      rfl

/-- A transfer to somewhere else makes no difference. -/
theorem of_changedAt {place : Place} (steady : Steady cwd d) (edits : Edits d d')
    (changed : ChangedAt place d d') (source : Beside s place) (dest : Beside q place) :
    SameSight cwd s q d d' := by
  have same {x : Place} (beside : Beside x place) {p : Place} (below : x <:+ p) : d.get? p = d'.get? p := by
    obtain ⟨r, rfl⟩ := below
    exact (beside.get?_eq changed r).symm
  refine ⟨steady, steady.edits edits, fun p near => near.elim (same source) (same dest), fun p below => ?_,
    fun p above => ?_⟩
  · have nothing {m : String} (free : d.get? (m :: p) = none) : ¬ (d'.get? (m :: p)).isSome := by
      rw [← same source (below.trans (List.suffix_cons m p)), free]
      exact Bool.false_ne_true
    rw [edits.names_eq (n := "") fun m free filled => absurd filled (nothing free), if_neg, List.append_nil]
    exact fun ⟨free, filled⟩ => nothing free filled
  · by_cases still : d'.get? p = d.get? p
    · exact leaf_congr still.symm
    · rcases changed p still with below | ⟨-, free, made⟩
      · exact absurd (below.trans above) dest.around
      · refine ⟨fun leaf => ?_, fun leaf => absurd made leaf.other⟩
        have filled := leaf.filled
        rw [free] at filled
        cases filled

end SameSight

end Disk

end Scaffold
