import Scaffold.Decode
import Scaffold.Proofs.Decode.Members

/-!
# Entries that become members

A map becomes an object, and each of its entries a member under the name that its key becomes. Entries whose
keys become one name meet: the last of them is kept (`Edn.Value.Kept`), and the others are lost.

Keywords become one name if they differ in their namespaces only (`Edn.Value.Meets`), for the namespace of a
key is dropped, and what is left of it is told from a keyword without a namespace by a colon in front. A map
from keywords keeps all its entries exactly if no two of its keys meet (`converted_map_keeps_entries`), and
the object of a map that is held by other values is held by what they become (`Edn.Value.Reaches`).
-/

namespace Scaffold

open Edn (Ident Value)

/-! ## Rows of values and entries -/

theorem Json.ofItems_eq_map (items : List Value) : Json.ofItems items = items.map Json.ofEdn := by
  induction items with
  | nil => rfl
  | cons first rest ih => rw [Json.ofItems, ih, List.map_cons]

theorem Json.ofEntries_eq_map (entries : List (Value × Value)) :
    Json.ofEntries entries = entries.map fun e => (memberName e.1, Json.ofEdn e.2) := by
  induction entries with
  | nil => rfl
  | cons first rest ih => rw [Json.ofEntries, ih, List.map_cons]

theorem names_ofEntries (entries : List (Value × Value)) :
    (Json.ofEntries entries).map Prod.fst = entries.map fun e => memberName e.1 := by
  rw [Json.ofEntries_eq_map, List.map_map]
  rfl

/-- The members of the object that a map becomes. -/
def membersOfMap (entries : List (Value × Value)) : List (String × Json) :=
  inNameOrder (Json.ofEntries entries)

theorem ofEdn_map (entries : List (Value × Value)) :
    Json.ofEdn (.map entries) = .object (membersOfMap entries) := by
  rw [Json.ofEdn, Json.ofMembers_eq]
  rfl

/-! ## The entries that are kept -/

/-- The entry is the last one whose key becomes this name. -/
def Edn.Value.Kept (entries : List (Value × Value)) (k v : Value) : Prop :=
  ∃ before behind, entries = before ++ (k, v) :: behind ∧ ∀ e ∈ behind, memberName e.1 ≠ memberName k

theorem exists_kept_iff (entries : List (Value × Value)) (name : String) (value : Json) :
    (Json.ofEntries entries).reverse.lookup name = some value ↔
      ∃ k v, Value.Kept entries k v ∧ memberName k = name ∧ Json.ofEdn v = value := by
  induction entries with
  | nil =>
    constructor
    · intro found
      cases found
    · rintro ⟨k, v, ⟨before, behind, split, -⟩, -⟩
      exact absurd split (by simp)
  | cons first rest ih =>
    obtain ⟨k, v⟩ := first
    rw [Json.ofEntries, List.reverse_cons, List.lookup_append, Option.or_eq_some_iff, ih]
    constructor
    · rintro (⟨k', v', ⟨before, behind, rfl, last⟩, named, given⟩ | ⟨missing, found⟩)
      · exact ⟨k', v', ⟨(k, v) :: before, behind, rfl, last⟩, named, given⟩
      · rw [lookup_cons_eq] at found
        split at found
        · next named =>
          cases found
          refine ⟨k, v, ⟨[], rest, rfl, fun e later same => ?_⟩, named.symm, rfl⟩
          have listed : name ∈ (Json.ofEntries rest).reverse.map Prod.fst := by
            rw [List.map_reverse, List.mem_reverse, names_ofEntries]
            exact List.mem_map.2 ⟨e, later, same.trans named.symm⟩
          rw [mem_names_iff, missing] at listed
          cases listed
        · cases found
    · rintro ⟨k', v', ⟨before, behind, split, last⟩, named, given⟩
      cases before with
      | nil =>
        cases split
        refine .inr ⟨?_, ?_⟩
        · rw [← Option.not_isSome_iff_eq_none, ← mem_names_iff, List.map_reverse, List.mem_reverse,
            names_ofEntries]
          intro listed
          obtain ⟨e, later, same⟩ := List.mem_map.1 listed
          exact last e later (same.trans named.symm)
        · rw [lookup_cons_eq, if_pos named.symm, given]
      | cons other before =>
        cases split
        exact .inl ⟨k', v', ⟨before, behind, rfl, last⟩, named, given⟩

/-- The members of the object are the entries that are kept. -/
theorem mem_membersOfMap_iff {entries : List (Value × Value)} {name : String} {value : Json} :
    (name, value) ∈ membersOfMap entries ↔
      ∃ k v, Value.Kept entries k v ∧ memberName k = name ∧ Json.ofEdn v = value := by
  rw [← exists_kept_iff, ← lookup_inNameOrder, lookup_eq_some_iff (ordered_inNameOrder _).nodup]
  rfl

/-! ## Values inside of values -/

/-- The first value is or holds the second. -/
inductive Json.Holds : Json → Json → Prop
  | here (v : Json) : Holds v v
  | item {items : List Json} {x v : Json} : x ∈ items → Holds x v → Holds (.array items) v
  | member {members : List (String × Json)} {name : String} {x v : Json} :
    (name, x) ∈ members → Holds x v → Holds (.object members) v

/-- The second value is inside of the first, and not in an entry that is lost. Keys and tagged values become
texts, and what is inside of them is not reached. -/
inductive Edn.Value.Reaches : Value → Value → Prop
  | here (v : Value) : Reaches v v
  | list {items : List Value} {x v : Value} : x ∈ items → Reaches x v → Reaches (.list items) v
  | vector {items : List Value} {x v : Value} : x ∈ items → Reaches x v → Reaches (.vector items) v
  | set {items : List Value} {x v : Value} : x ∈ items → Reaches x v → Reaches (.set items) v
  | entry {entries : List (Value × Value)} {k x v : Value} :
    Value.Kept entries k x → Reaches x v → Reaches (.map entries) v

/-- What a value reaches is held, converted, by what the value becomes. -/
theorem Edn.Value.Reaches.holds {whole part : Value} (reaches : whole.Reaches part) :
    (Json.ofEdn whole).Holds (Json.ofEdn part) := by
  have item {items : List Value} {x : Value} (listed : x ∈ items) :
      Json.ofEdn x ∈ Json.ofItems items := by
    rw [Json.ofItems_eq_map]
    exact List.mem_map_of_mem listed
  induction reaches with
  | here v => exact .here _
  | list listed _ ih | vector listed _ ih | set listed _ ih => exact .item (item listed) ih
  | entry kept _ ih =>
    rw [ofEdn_map]
    exact .member (mem_membersOfMap_iff.2 ⟨_, _, kept, rfl, rfl⟩) ih

/-! ## Keys that meet -/

/-- The two keys are keywords that become one name: either has a namespace and they are equal behind it, or
one is spelled like the other without its namespace. Of the keywords that can be read only the first holds,
for there is no colon in their names. -/
def Edn.Value.Meets : Value → Value → Prop
  | .keyword ⟨some _, name⟩, .keyword ⟨some _, name'⟩ => name = name'
  | .keyword ⟨some _, name⟩, .keyword ⟨none, name'⟩ => name' = ":" ++ name
  | .keyword ⟨none, name⟩, .keyword ⟨some _, name'⟩ => name = ":" ++ name'
  | _, _ => False

/-- Keywords become one name if they are the same or meet. -/
theorem memberName_eq_iff {k k' : Value} {id id' : Ident} (keyword : k = .keyword id)
    (keyword' : k' = .keyword id') (other : k ≠ k') : memberName k = memberName k' ↔ k.Meets k' := by
  have colon (s s' : String) : ":" ++ s = ":" ++ s' ↔ s = s' := by
    rw [← String.toList_inj, ← String.toList_inj, String.toList_append, String.toList_append,
      List.append_cancel_left_eq]
  subst keyword keyword'
  obtain ⟨ns, name⟩ := id
  obtain ⟨ns', name'⟩ := id'
  cases ns with
  | none =>
    cases ns' with
    | none =>
      refine ⟨fun same => ?_, False.elim⟩
      have same : name = name' := same
      exact absurd (congrArg (fun n => Value.keyword ⟨none, n⟩) same) other
    | some _ => exact Iff.rfl
  | some _ =>
    cases ns' with
    | none => exact eq_comm
    | some _ => exact colon name name'

/-- Different keywords are given different names if no two of them meet. -/
theorem nodup_names_iff {entries : List (Value × Value)}
    (keywords : ∀ e ∈ entries, ∃ id, e.1 = .keyword id) (distinct : (entries.map Prod.fst).Nodup) :
    ((Json.ofEntries entries).map Prod.fst).Nodup ↔ entries.Pairwise fun a b => ¬ a.1.Meets b.1 := by
  rw [names_ofEntries, List.Nodup, List.pairwise_map]
  have others := List.pairwise_map.1 distinct
  have differ : ∀ a ∈ entries, ∀ b ∈ entries, a.1 ≠ b.1 →
      (memberName a.1 ≠ memberName b.1 ↔ ¬ a.1.Meets b.1) := by
    intro a first b second other
    obtain ⟨id, keyword⟩ := keywords a first
    obtain ⟨id', keyword'⟩ := keywords b second
    exact not_congr (memberName_eq_iff keyword keyword' other)
  constructor
  · intro names
    exact (others.and names).imp_of_mem fun first second both => (differ _ first _ second both.1).1 both.2
  · intro apart
    exact (others.and apart).imp_of_mem fun first second both => (differ _ first _ second both.1).2 both.2

/-- **Converting a map from keywords.** Let the keys of a map be pairwise different keywords. The map becomes
an object in which each entry has a member of its own exactly if no two of the keys meet. In any case the
members are the entries that are last of their names. The object is found in whatever any value becomes that
holds the map. -/
theorem converted_map_keeps_entries (entries : List (Value × Value))
    (keywords : ∀ e ∈ entries, ∃ id, e.1 = .keyword id) (distinct : (entries.map Prod.fst).Nodup) :
    ∃ members, Json.ofEdn (.map entries) = .object members ∧
      (members.length = entries.length ∧
          members.Perm (entries.map fun e => (memberName e.1, Json.ofEdn e.2)) ↔
        entries.Pairwise fun a b => ¬ a.1.Meets b.1) ∧
      (∀ name value, (name, value) ∈ members ↔
        ∃ k v, Value.Kept entries k v ∧ memberName k = name ∧ Json.ofEdn v = value) ∧
      ∀ whole : Value, whole.Reaches (.map entries) → (Json.ofEdn whole).Holds (.object members) := by
  refine ⟨membersOfMap entries, ofEdn_map entries, ?_, fun name value => mem_membersOfMap_iff,
    fun whole reaches => ofEdn_map entries ▸ reaches.holds⟩
  have size : (Json.ofEntries entries).length = entries.length := by
    rw [Json.ofEntries_eq_map, List.length_map]
  rw [← nodup_names_iff keywords distinct, ← Json.ofEntries_eq_map, ← size]
  refine ⟨fun kept => (length_inNameOrder_eq_iff _).1 kept.1, fun names => ?_⟩
  have perm := inNameOrder_perm names
  exact ⟨perm.length_eq, perm⟩

/-- A map in a vector in a map: `:x/a`, `:a` and `:y/b` become `":a"`, `"a"` and `":b"`. -/
theorem converted_map_keeps_entries_nested :
    let entries : List (Value × Value) :=
      [(.keyword ⟨some "x", "a"⟩, .int 1), (.keyword (.plain "a"), .int 2), (.keyword ⟨some "y", "b"⟩, .nil)]
    let whole : Value := .map [(.keyword (.plain "k"), .vector [.nil, .map entries])]
    ∃ members, Json.ofEdn (.map entries) = .object members ∧ members.length = 3 ∧
      members.Perm [(":a", .int 1), ("a", .int 2), (":b", .null)] ∧
      (Json.ofEdn whole).Holds (.object members) := by
  intro entries whole
  obtain ⟨members, becomes, all, -, held⟩ := converted_map_keeps_entries entries
    (by simp [entries]) (by simp [entries, Ident.plain])
  have kept := all.2 (by simp [entries, Ident.plain, Value.Meets])
  refine ⟨members, becomes, kept.1, kept.2, held whole ?_⟩
  exact .entry (k := .keyword (.plain "k")) ⟨[], [], rfl, by simp⟩ (.vector (by simp) (.here _))

/-- In `{:x/a 1 :y/a 2}` the keys are different keywords, and the first entry is lost. -/
theorem converted_map_loses_entry :
    let entries : List (Value × Value) :=
      [(.keyword ⟨some "x", "a"⟩, .int 1), (.keyword ⟨some "y", "a"⟩, .int 2)]
    (entries.map Prod.fst).Nodup ∧ Json.ofEdn (.map entries) = .object [(":a", .int 2)] :=
  ⟨by simp, rfl⟩

end Scaffold
