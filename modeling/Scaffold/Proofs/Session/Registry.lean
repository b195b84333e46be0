import Scaffold.Proofs.NameOrder
import Scaffold.Registry

/-!
# What a registry holds

Under each tag a registry holds the first manifest of that name (`get?_ofManifests`), until the tag is
removed (`get?_removeAll`). The tags are in order at all times, so a registry is known by what it holds
(`ofManifests_congr`): manifests that other ones come before, and the order of manifests of different names,
leave no trace.
-/

namespace Scaffold

namespace Registry

variable {r : Registry} {ms ms' : List Manifest}

/-- The packs are in the order of their tags, each tag once. -/
def Ordered (r : Registry) : Prop := InNameOrder r.packs

theorem insertPack_eq (tag : String) (m : Manifest) (packs : List (String × Manifest)) :
    insertPack tag m packs = insertNamed tag m packs := by
  induction packs with
  | nil => rfl
  | cons first rest ih =>
    obtain ⟨t, n⟩ := first
    rw [insertPack, insertNamed, ih]

theorem get?_insert (r : Registry) (m : Manifest) (tag : String) :
    (r.insert m).get? tag = if tag = m.name then some m else r.get? tag := by
  unfold get? insert
  rw [insertPack_eq, lookup_insertNamed]

theorem Ordered.insert (ordered : r.Ordered) (m : Manifest) : (r.insert m).Ordered := by
  unfold Ordered Registry.insert
  rw [insertPack_eq]
  exact InNameOrder.insertNamed ordered m.name m

theorem Ordered.without (ordered : r.Ordered) (tag : String) : (r.without tag).Ordered :=
  List.Pairwise.filter _ ordered

theorem Ordered.tags (ordered : r.Ordered) : r.tags.Pairwise (· < ·) := List.pairwise_map.2 ordered

theorem mem_tags_iff {tag : String} : tag ∈ r.tags ↔ (r.get? tag).isSome := mem_names_iff

/-! ## Registries of manifests -/

/-- Of the manifests of one name the first is registered. -/
theorem get?_ofManifests (ms : List Manifest) (tag : String) :
    (ofManifests ms).get? tag = ms.find? (·.name = tag) := by
  induction ms with
  | nil => rfl
  | cons m rest ih =>
    have registered : ofManifests (m :: rest) = (ofManifests rest).insert m := rfl
    rw [registered, get?_insert, ih, List.find?_cons]
    by_cases named : m.name = tag
    · rw [if_pos named.symm, decide_eq_true named]
    · rw [if_neg fun same => named same.symm, decide_eq_false named]

theorem ordered_ofManifests (ms : List Manifest) : (ofManifests ms).Ordered := by
  induction ms with
  | nil => exact List.Pairwise.nil
  | cons m rest ih => exact ih.insert m

/-- Manifests with the same first ones of all names make the same registry. -/
theorem ofManifests_congr (same : ∀ tag, ms.find? (·.name = tag) = ms'.find? (·.name = tag)) :
    ofManifests ms = ofManifests ms' := by
  have packs : (ofManifests ms).packs = (ofManifests ms').packs := by
    refine (ordered_ofManifests ms).eq_of_lookup (ordered_ofManifests ms') fun tag => ?_
    have found := same tag
    rw [← get?_ofManifests, ← get?_ofManifests] at found
    exact found
  exact congrArg Registry.mk packs

/-! ## Removing tags -/

/-- The registry after all these removals, one after the other. -/
def removeAll (r : Registry) (removed : List String) : Registry := removed.foldl without r

theorem get?_removeAll (r : Registry) (removed : List String) (tag : String) :
    (r.removeAll removed).get? tag = if tag ∈ removed then none else r.get? tag := by
  induction removed generalizing r with
  | nil => simp [removeAll]
  | cons first rest ih =>
    have after : r.removeAll (first :: rest) = (r.without first).removeAll rest := rfl
    rw [after, ih, get?_without]
    simp only [List.mem_cons]
    by_cases here : tag = first
    · simp [here]
    · simp [here]

theorem Ordered.removeAll (ordered : r.Ordered) (removed : List String) :
    (r.removeAll removed).Ordered := by
  induction removed generalizing r with
  | nil => exact ordered
  | cons first rest ih => exact ih (ordered.without first)

end Registry

end Scaffold
