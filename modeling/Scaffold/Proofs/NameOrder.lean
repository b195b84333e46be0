import Mathlib.Data.List.Dedup
import Mathlib.Data.List.Induction

/-!
# Rows in the order of names

Packs are kept in the order of their tags, and the members of an object in the order of their names. Both
are rows of named values into which values are inserted one by one (`insertNamed`). The order is kept by
each insertion (`InNameOrder.insertNamed`), and a row in order is known by the values that are found in it
(`InNameOrder.eq_of_lookup`). So it is enough to say what is found after an insertion (`lookup_insertNamed`).
-/

namespace Scaffold

variable {α : Type} {row row' : List (String × α)} {name n : String} {value : α}

/-! ## Looking up -/

theorem lookup_cons_eq (name : String) (value : α) (row : List (String × α)) (n : String) :
    ((name, value) :: row).lookup n = if n = name then some value else row.lookup n := by
  rw [List.lookup_cons]
  by_cases asked : n = name
  · rw [if_pos asked, beq_iff_eq.2 asked]
  · rw [if_neg asked, beq_false_of_ne asked]

/-- Something is found under the names of the row. -/
theorem mem_names_iff : name ∈ row.map Prod.fst ↔ (row.lookup name).isSome := by
  induction row with
  | nil => simp
  | cons first rest ih =>
    obtain ⟨m, v⟩ := first
    rw [lookup_cons_eq, List.map_cons, List.mem_cons, ih]
    split
    · next same => simp [same]
    · next other => simp [other]

/-- Where no name occurs twice, what is found under a name is what stands there. -/
theorem lookup_eq_some_iff (distinct : (row.map Prod.fst).Nodup) :
    row.lookup name = some value ↔ (name, value) ∈ row := by
  induction row with
  | nil => simp
  | cons first rest ih =>
    obtain ⟨m, v⟩ := first
    obtain ⟨fresh, distinct⟩ := List.nodup_cons.1 distinct
    rw [lookup_cons_eq, List.mem_cons, Prod.mk.injEq]
    split
    · next same =>
      subst same
      have notLater : (name, value) ∉ rest := fun later =>
        fresh (List.mem_map.2 ⟨_, later, rfl⟩)
      simp only [Option.some.injEq, true_and, notLater, or_false]
      exact eq_comm
    · next other =>
      rw [ih distinct]
      simp only [other, false_and, false_or]

theorem lookup_eq_of_perm (distinct : (row.map Prod.fst).Nodup) (perm : row'.Perm row) (name : String) :
    row'.lookup name = row.lookup name := by
  have distinct' := (perm.map Prod.fst).nodup_iff.2 distinct
  refine Option.ext fun value => ?_
  rw [lookup_eq_some_iff distinct', lookup_eq_some_iff distinct, perm.mem_iff]

/-! ## Order -/

/-- The names of the row are in order, each name once. -/
def InNameOrder (row : List (String × α)) : Prop := row.Pairwise fun a b => a.1 < b.1

theorem InNameOrder.nodup (ordered : InNameOrder row) : (row.map Prod.fst).Nodup := by
  refine List.pairwise_map.2 (ordered.imp fun {a b} less same => ?_)
  rw [same] at less
  exact String.lt_irrefl _ less

/-- Rows in order in which the same is found are the same. -/
theorem InNameOrder.eq_of_lookup (ordered : InNameOrder row) (ordered' : InNameOrder row')
    (same : ∀ name, row.lookup name = row'.lookup name) : row = row' := by
  have perm : row.Perm row' := by
    refine (List.perm_ext_iff_of_nodup (ordered.nodup.of_map _) (ordered'.nodup.of_map _)).2 ?_
    rintro ⟨name, value⟩
    rw [← lookup_eq_some_iff ordered.nodup, ← lookup_eq_some_iff ordered'.nodup, same]
  exact perm.eq_of_pairwise (fun _ _ _ _ less more => absurd more (String.lt_asymm less)) ordered ordered'

/-! ## Inserting -/

/-- Puts a value among values in the order of their names. A value of the same name is replaced. -/
def insertNamed (name : String) (value : α) : List (String × α) → List (String × α)
  | [] => [(name, value)]
  | (n, v) :: rest =>
    if name = n then (name, value) :: rest
    else if name < n then (name, value) :: (n, v) :: rest
    else (n, v) :: insertNamed name value rest

/-- What is inserted is found under its name, and nothing else changes. -/
theorem lookup_insertNamed (name : String) (value : α) (row : List (String × α)) (n : String) :
    (insertNamed name value row).lookup n = if n = name then some value else row.lookup n := by
  induction row with
  | nil => exact lookup_cons_eq name value [] n
  | cons first rest ih =>
    obtain ⟨m, v⟩ := first
    unfold insertNamed
    split
    · next same =>
      subst same
      rw [lookup_cons_eq, lookup_cons_eq]
      split
      · rfl
      · rfl
    · next other =>
      split
      · exact lookup_cons_eq name value _ n
      · rw [lookup_cons_eq, ih, lookup_cons_eq]
        by_cases here : n = m
        · rw [if_pos here, if_pos here, if_neg fun asked => other (asked.symm.trans here)]
        · rw [if_neg here, if_neg here]

theorem eq_or_mem_of_mem_insertNamed {entry : String × α} (member : entry ∈ insertNamed name value row) :
    entry.1 = name ∨ entry ∈ row := by
  induction row with
  | nil =>
    cases List.mem_singleton.1 member
    exact .inl rfl
  | cons first rest ih =>
    obtain ⟨n, v⟩ := first
    unfold insertNamed at member
    split at member
    · rcases List.mem_cons.1 member with rfl | later
      · exact .inl rfl
      · exact .inr (List.mem_cons_of_mem _ later)
    · split at member
      · rcases List.mem_cons.1 member with rfl | later
        · exact .inl rfl
        · exact .inr later
      · rcases List.mem_cons.1 member with rfl | later
        · exact .inr List.mem_cons_self
        · exact (ih later).imp_right (List.mem_cons_of_mem _)

/-- The order is kept. -/
theorem InNameOrder.insertNamed (ordered : InNameOrder row) (name : String) (value : α) :
    InNameOrder (insertNamed name value row) := by
  induction row with
  | nil => exact List.pairwise_singleton _ _
  | cons first rest ih =>
    obtain ⟨n, v⟩ := first
    obtain ⟨least, later⟩ := List.pairwise_cons.1 ordered
    unfold Scaffold.insertNamed
    split
    · next same => exact List.pairwise_cons.2 ⟨same ▸ least, later⟩
    · next other =>
      split
      · next less =>
        refine List.pairwise_cons.2 ⟨fun entry listed => ?_, ordered⟩
        rcases List.mem_cons.1 listed with rfl | inside
        · exact less
        · exact String.lt_trans less (least entry inside)
      · next notLess =>
        have greater : n < name := Std.lt_of_le_of_ne notLess (Ne.symm other)
        refine List.pairwise_cons.2 ⟨fun entry listed => ?_, ih later⟩
        rcases eq_or_mem_of_mem_insertNamed listed with same | inside
        · exact same ▸ greater
        · exact least entry inside

/-! ## Rows put in order -/

/-- The values of a row in the order of their names; of two values of one name the later one counts. -/
def inNameOrder (row : List (String × α)) : List (String × α) :=
  row.foldl (fun acc (name, value) => insertNamed name value acc) []

theorem inNameOrder_concat (row : List (String × α)) (name : String) (value : α) :
    inNameOrder (row ++ [(name, value)]) = insertNamed name value (inNameOrder row) :=
  List.foldl_append

theorem ordered_inNameOrder (row : List (String × α)) : InNameOrder (inNameOrder row) := by
  induction row using List.reverseRecOn with
  | nil => exact List.Pairwise.nil
  | append_singleton row last ih =>
    rw [inNameOrder_concat]
    exact ih.insertNamed last.1 last.2

/-- The last value of a name is found. -/
theorem lookup_inNameOrder (row : List (String × α)) (name : String) :
    (inNameOrder row).lookup name = row.reverse.lookup name := by
  induction row using List.reverseRecOn with
  | nil => rfl
  | append_singleton row last ih =>
    rw [inNameOrder_concat, lookup_insertNamed, ih, List.reverse_concat, lookup_cons_eq]

/-- Values of different names are all kept. -/
theorem inNameOrder_perm (distinct : (row.map Prod.fst).Nodup) : (inNameOrder row).Perm row := by
  have ordered := ordered_inNameOrder row
  refine (List.perm_ext_iff_of_nodup (ordered.nodup.of_map _) (distinct.of_map _)).2 ?_
  rintro ⟨name, value⟩
  rw [← lookup_eq_some_iff ordered.nodup, ← lookup_eq_some_iff distinct, lookup_inNameOrder,
    lookup_eq_of_perm distinct row.reverse_perm]

/-- A value is lost for each name that comes again. -/
theorem length_inNameOrder_eq_iff (row : List (String × α)) :
    (inNameOrder row).length = row.length ↔ (row.map Prod.fst).Nodup := by
  refine ⟨fun size => ?_, fun distinct => (inNameOrder_perm distinct).length_eq⟩
  have names : ((inNameOrder row).map Prod.fst).Perm (row.map Prod.fst).dedup := by
    refine (List.perm_ext_iff_of_nodup (ordered_inNameOrder row).nodup (List.nodup_dedup _)).2 fun name => ?_
    rw [List.mem_dedup, mem_names_iff, lookup_inNameOrder, ← mem_names_iff, List.map_reverse,
      List.mem_reverse]
  have count : (row.map Prod.fst).dedup.length = (row.map Prod.fst).length := by
    rw [← names.length_eq, List.length_map, List.length_map, size]
  exact List.dedup_eq_self.1 ((List.dedup_sublist _).eq_of_length count)

end Scaffold
