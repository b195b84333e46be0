import Scaffold.Step

/-!
# Registries

A registry holds the packs that can be expanded, under their tags and in the order of the tags. Of
two manifests of one name the one that comes first is kept. Removing a tag gives a new registry, so
that a tag can be missing inside its own expansion and present beside it.
-/

namespace Scaffold

/-- Packs under their tags, ordered by tag. -/
structure Registry where
  packs : List (String × Manifest)
  deriving Inhabited

namespace Registry

/-- The registry without packs. -/
def empty : Registry := ⟨[]⟩

/-- Puts a pack among packs ordered by tag. A pack of the same tag is replaced. -/
def insertPack (tag : String) (m : Manifest) : List (String × Manifest) → List (String × Manifest)
  | [] => [(tag, m)]
  | (t, n) :: rest =>
    if tag = t then (tag, m) :: rest
    else if tag < t then (tag, m) :: (t, n) :: rest
    else (t, n) :: insertPack tag m rest

/-- Registers a manifest under its name. -/
def insert (r : Registry) (m : Manifest) : Registry := ⟨insertPack m.name m r.packs⟩

/-- The registry of a row of manifests, the earlier of two of one name. -/
def ofManifests (ms : List Manifest) : Registry := ms.foldr (fun m r => r.insert m) empty

/-- The pack under a tag. -/
def get? (r : Registry) (tag : String) : Option Manifest := r.packs.lookup tag

/-- The registry with a tag removed. -/
def without (r : Registry) (tag : String) : Registry := ⟨r.packs.filter fun (t, _) => t ≠ tag⟩

/-- The tags in order. -/
def tags (r : Registry) : List String := r.packs.map Prod.fst

/-- The number of packs. -/
def size (r : Registry) : Nat := r.packs.length

theorem get?_without (r : Registry) (tag t : String) :
    (r.without tag).get? t = if t = tag then none else r.get? t := by
  obtain ⟨packs⟩ := r
  simp only [get?, without]
  induction packs with
  | nil => simp
  | cons pack rest ih =>
    obtain ⟨u, m⟩ := pack
    by_cases removed : u = tag
    · rw [List.filter_cons_of_neg (by simpa using removed), ih, List.lookup_cons]
      by_cases same : t = tag
      · rw [if_pos same, if_pos same]
      · rw [if_neg same, if_neg same, beq_false_of_ne fun h => same (h.trans removed)]
    · rw [List.filter_cons_of_pos (by simpa using removed), List.lookup_cons, ih, List.lookup_cons]
      by_cases asked : t = u
      · subst asked
        simp only [beq_self_eq_true, if_neg removed]
      · rw [beq_false_of_ne asked]

/-- A pack stands under one of the tags. -/
theorem mem_tags_of_get? {r : Registry} {tag : String} (found : (r.get? tag).isSome) :
    tag ∈ r.tags := by
  obtain ⟨packs⟩ := r
  simp only [get?, tags] at found ⊢
  induction packs with
  | nil => simp at found
  | cons pack rest ih =>
    obtain ⟨u, m⟩ := pack
    by_cases same : tag = u
    · exact same ▸ List.mem_cons_self
    · rw [List.lookup_cons, beq_false_of_ne same] at found
      exact List.mem_cons_of_mem u (ih found)

/-- Removing a tag that is registered makes the registry smaller. -/
theorem size_without_lt {r : Registry} {tag : String} {m : Manifest} (found : r.get? tag = some m) :
    (r.without tag).size < r.size := by
  obtain ⟨packs⟩ := r
  simp only [get?, size, without] at found ⊢
  induction packs with
  | nil => simp at found
  | cons pack rest ih =>
    obtain ⟨t, n⟩ := pack
    by_cases same : t = tag
    · simp only [List.filter_cons, same, ne_eq, not_true_eq_false, decide_false, List.length_cons]
      exact Nat.lt_succ_of_le (List.length_filter_le _ _)
    · have other : (tag == t) = false := by simpa using fun h => same h.symm
      rw [List.lookup_cons, other] at found
      simpa [List.filter_cons, same] using ih found

end Registry

end Scaffold
