import Scaffold.Proofs.Disk.Follow

/-!
# Disks that grow

A disk grows when edits add to it and every entry that it had stays as it was, bytes and marks
included (`GrowsTo`). Writing to a path keeps that if the path names nothing that the disk had at the
beginning (`Misses`, `GrowsTo.write`). What a path names can be decided late, for the directories on
its way may be missing at first. But a name in a directory that is new names something new, since on a sound
disk nothing lies below a place that is free (`LeadsTo.misses_child`).
-/

namespace Scaffold

namespace Disk

/-- Edits have led from one disk to the other, and every entry of the first is unchanged. -/
structure GrowsTo (d d' : Disk) : Prop where
  edits : Edits d d'
  kept : ∀ p node, d.get? p = some node → d'.get? p = some node

/-- Seen on `d`, the path names no entry of the earlier disk. -/
def Misses (earlier d : Disk) (path : Path) : Prop :=
  ∀ place, d.find path = .ok place → earlier.get? place = none

variable {earlier d d' d'' : Disk} {path : Path} {place : Place}

theorem GrowsTo.refl (d : Disk) : d.GrowsTo d := ⟨.refl, fun _ _ there => there⟩

theorem GrowsTo.trans (first : d.GrowsTo d') (second : d'.GrowsTo d'') : d.GrowsTo d'' :=
  ⟨first.edits.trans second.edits, fun p node there => second.kept p node (first.kept p node there)⟩

/-- A new entry at a place that the earlier disk does not have changes nothing that it has. -/
theorem GrowsTo.set (grows : earlier.GrowsTo d) (below : place ≠ []) {node : Node}
    (edits : Edits d (d.set place node)) (free : earlier.get? place = none) :
    earlier.GrowsTo (d.set place node) := by
  refine ⟨grows.edits.trans edits, fun p old there => ?_⟩
  rw [get?_set below]
  split
  · next same =>
    rw [same, free] at there
    cases there
  · exact grows.kept p old there

theorem growsTo_of_makeDirectory (made : d.makeDirectory path = .ok d') : d.GrowsTo d' := by
  have edits : Edits d d' := .single (.directory made)
  obtain ⟨n, outer, -, -, -, free, rfl⟩ := exists_of_makeDirectory made
  exact (GrowsTo.refl d).set (List.cons_ne_nil n outer) edits free

theorem misses_of_not_holds (missing : ¬ d.holds path = true) : Misses d d path := by
  intro place found
  cases there : d.get? place with
  | none => rfl
  | some node => exact absurd (holds_iff.2 ⟨place, node, found, there⟩) missing

/-- Writing to a path that misses the earlier disk lets it grow, and the path goes on missing it. -/
theorem GrowsTo.write (grows : earlier.GrowsTo d) (misses : Misses earlier d path)
    {content : ByteArray} {mark : Option Bool → Bool} (wrote : d.write path content mark = .ok d') :
    earlier.GrowsTo d' ∧ Misses earlier d' path := by
  have edits : Edits d d' := .single (.file wrote)
  obtain ⟨place, was, below, -, found, -, rfl⟩ := exists_of_write wrote
  have free := misses place found
  refine ⟨grows.set below edits free, fun place' found' => ?_⟩
  cases (edits.find found).symm.trans found'
  exact free

/-- A name in a new directory names something new. -/
theorem LeadsTo.misses_child (leads : d.LeadsTo path place) (sound : earlier.Sound)
    (edits : Edits earlier d) (free : earlier.get? place = none) {inner : Path} {n : String}
    (written : inner.writtenParts = path.writtenParts ++ [.name n]) : Misses earlier d inner := by
  have freeChild : earlier.get? (n :: place) = none := sound.free_append free [n]
  intro place' found
  have noLink (target : Path) : d.get? (n :: place) ≠ some (.link target) := by
    intro link
    have before := edits.link link
    rw [freeChild] at before
    cases before
  rw [leads.eq_of_find_child written noLink found]
  exact freeChild

end Disk

end Scaffold
