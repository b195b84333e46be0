import Scaffold.Json

/-!
# Contexts

A context binds names to values, each name once, in the order in which the names were first bound.
It is a value: an update gives a new context. The update of a run is `Context.withDefault`, under
which the first binding of a name stays.
-/

namespace Scaffold

/-- Bindings in the order in which their names were first bound. No name occurs twice. -/
structure Context where
  bindings : List (String × Json)
  distinct : (bindings.map Prod.fst).Nodup

namespace Context

/-- The context without bindings. -/
def empty : Context := ⟨[], List.nodup_nil⟩

instance : Inhabited Context := ⟨empty⟩

/-- The value of a name. -/
def get? (c : Context) (name : String) : Option Json := c.bindings.lookup name

/-- The bound names, in order. -/
def names (c : Context) : List String := c.bindings.map Prod.fst

/-- The number of bindings. -/
def size (c : Context) : Nat := c.bindings.length

/-- A name is without a value just when it is not among the names. -/
theorem get?_eq_none_iff {c : Context} {name : String} : c.get? name = none ↔ name ∉ c.names := by
  simp only [get?, names, List.lookup_eq_none_iff, List.mem_map, not_exists, not_and, bne_iff_ne,
    ne_eq]
  exact ⟨fun free n member same => free n member same.symm,
    fun free n member same => free n member same.symm⟩

/-- A name that is free can be bound behind all others. -/
theorem nodup_names_append {c : Context} {name : String} (free : name ∉ c.names) (value : Json) :
    ((c.bindings ++ [(name, value)]).map Prod.fst).Nodup := by
  rw [List.map_append, List.nodup_append]
  refine ⟨c.distinct, by simp, fun n bound m last same => free ?_⟩
  rw [List.map_singleton, List.mem_singleton] at last
  subst same last
  exact bound

/-- Binds a name unless it is bound already. -/
def withDefault (c : Context) (name : String) (value : Json) : Context :=
  match free : c.get? name with
  | some _ => c
  | none => ⟨c.bindings ++ [(name, value)], nodup_names_append (get?_eq_none_iff.mp free) value⟩

theorem withDefault_of_mem {c : Context} {name : String} (bound : name ∈ c.names) (value : Json) :
    c.withDefault name value = c := by
  unfold withDefault
  split
  · rfl
  · next free => exact absurd bound (get?_eq_none_iff.mp free)

theorem bindings_withDefault_of_not_mem {c : Context} {name : String} (free : name ∉ c.names)
    (value : Json) : (c.withDefault name value).bindings = c.bindings ++ [(name, value)] := by
  unfold withDefault
  split
  · next bound => exact absurd (bound.symm.trans (get?_eq_none_iff.mpr free)) (by simp)
  · rfl

/-- Gives a name a value in a row of bindings, in its old place if it is bound already. -/
def assignIn (name : String) (value : Json) : List (String × Json) → List (String × Json)
  | [] => [(name, value)]
  | (n, v) :: rest => if n = name then (n, value) :: rest else (n, v) :: assignIn name value rest

theorem mem_names_assignIn {name n : String} {value : Json} {bindings : List (String × Json)} :
    n ∈ (assignIn name value bindings).map Prod.fst ↔ n = name ∨ n ∈ bindings.map Prod.fst := by
  induction bindings with
  | nil => simp [assignIn]
  | cons binding rest ih =>
    obtain ⟨m, v⟩ := binding
    by_cases same : m = name
    · simp [assignIn, same]
    · rw [assignIn, if_neg same, List.map_cons, List.mem_cons, ih, List.map_cons, List.mem_cons]
      exact or_left_comm

/-- Giving a name a value repeats no name. -/
theorem nodup_names_assignIn {name : String} {value : Json} {bindings : List (String × Json)}
    (distinct : (bindings.map Prod.fst).Nodup) :
    ((assignIn name value bindings).map Prod.fst).Nodup := by
  induction bindings with
  | nil => simp [assignIn]
  | cons binding rest ih =>
    obtain ⟨m, v⟩ := binding
    rw [List.map_cons, List.nodup_cons] at distinct
    rw [assignIn]
    split
    · exact List.nodup_cons.mpr distinct
    · next other =>
      rw [List.map_cons, List.nodup_cons, mem_names_assignIn, not_or]
      exact ⟨⟨other, distinct.1⟩, ih distinct.2⟩

/-- Gives a name a value, in its old place if it is bound already. -/
def assign (c : Context) (name : String) (value : Json) : Context :=
  ⟨assignIn name value c.bindings, nodup_names_assignIn c.distinct⟩

/-- The context of a row of pairs. A repeated name keeps its first place and takes its last value. -/
def ofPairs (pairs : List (String × Json)) : Context :=
  pairs.foldl (fun c (name, value) => c.assign name value) empty

/-- Whether two contexts bind the same names to equal values, in any order. -/
def same (c d : Context) : Bool :=
  c.size = d.size && c.bindings.all fun (name, v) => (d.get? name).any v.same

end Context

end Scaffold
