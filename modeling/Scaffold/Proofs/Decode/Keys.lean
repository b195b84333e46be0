import Scaffold.Decode
import Scaffold.Edn.Reader
import Mathlib.Data.List.Nodup

/-!
# The keys of a map that was read

A manifest is looked up in a map under keywords without a namespace, so it matters that each of them is a key
once at most (`Parser.KeyedOnce`): then the value under a keyword is the one that an entry gives it
(`keyed?_eq_some_iff`), wherever the entry stands. This is all that is asked of a parser.

The reader is such a parser (`keyedOnce_read`). It refuses a map in which a key stands twice, and orders the
entries of the others.

`Gives r P` says that whatever the reader `r` reads has the property. It is proved along the program text of
a reader: a refusal gives nothing, and a reader in sequence gives what its last part does.
-/

namespace Scaffold

namespace Edn

/-! ## Plain keywords among the keys -/

theorem Value.plainKeyword?_eq_some_iff {k : Value} {name : String} :
    k.plainKeyword? = some name ↔ k = .keyword (.plain name) := by
  constructor
  · intro plain
    unfold Value.plainKeyword? at plain
    split at plain
    · cases plain
      rfl
    · cases plain
  · rintro rfl
    rfl

/-- The keywords without a namespace among the keys. -/
def plainKeys (entries : List (Value × Value)) : List String :=
  entries.filterMap fun e => e.1.plainKeyword?

theorem mem_plainKeys_iff {entries : List (Value × Value)} {name : String} :
    name ∈ plainKeys entries ↔ ∃ v, (.keyword (.plain name), v) ∈ entries := by
  unfold plainKeys
  rw [List.mem_filterMap]
  constructor
  · rintro ⟨⟨k, v⟩, listed, plain⟩
    cases Value.plainKeyword?_eq_some_iff.1 plain
    exact ⟨v, listed⟩
  · rintro ⟨v, listed⟩
    exact ⟨_, listed, rfl⟩

theorem plainKeys_cons_of_plain (name : String) (v : Value) (entries : List (Value × Value)) :
    plainKeys ((.keyword (.plain name), v) :: entries) = name :: plainKeys entries :=
  rfl

theorem plainKeys_cons_of_other {k : Value} (other : k.plainKeyword? = none) (v : Value)
    (entries : List (Value × Value)) : plainKeys ((k, v) :: entries) = plainKeys entries :=
  List.filterMap_cons_none other

/-- In a map that the parser gives, each keyword without a namespace is a key once at most. -/
def Parser.KeyedOnce (parse : Parser) : Prop :=
  ∀ content entries, parse content = .ok (.map entries) → (plainKeys entries).Nodup

/-- Where a keyword is a key once, it is found behind any other keys. -/
theorem keyed?_eq_some_iff {entries : List (Value × Value)} (once : (plainKeys entries).Nodup)
    {name : String} {v : Value} :
    keyed? name entries = some v ↔ (.keyword (.plain name), v) ∈ entries := by
  unfold keyed?
  rw [Option.map_eq_some_iff]
  constructor
  · rintro ⟨⟨k, v⟩, found, rfl⟩
    have plain := List.find?_some found
    cases Value.plainKeyword?_eq_some_iff.1 (of_decide_eq_true plain)
    exact List.mem_of_find?_eq_some found
  · intro listed
    refine ⟨(.keyword (.plain name), v), ?_, rfl⟩
    induction entries with
    | nil => cases listed
    | cons first rest ih =>
      obtain ⟨k, w⟩ := first
      by_cases plain : k.plainKeyword? = some name
      · cases Value.plainKeyword?_eq_some_iff.1 plain
        rw [plainKeys_cons_of_plain, List.nodup_cons, mem_plainKeys_iff] at once
        rcases List.mem_cons.1 listed with same | later
        · cases same
          exact List.find?_cons_of_pos (decide_eq_true plain)
        · exact absurd ⟨v, later⟩ once.1
      · rw [List.find?_cons_of_neg (by simpa using plain)]
        rcases List.mem_cons.1 listed with same | later
        · cases same
          exact absurd rfl plain
        · exact ih (once.sublist ((List.sublist_cons_self _ _).filterMap _)) later

/-! ## Entries that are put in order -/

theorem Ident.cmp_self (id : Ident) : id.cmp id = .eq := by
  obtain ⟨ns, name⟩ := id
  have self (s : String) : compare s s = .eq := Std.ReflCmp.compare_self
  cases ns with
  | none => exact self name
  | some ns => exact Ordering.then_eq_eq.2 ⟨self ns, self name⟩

theorem Value.same_keyword (id : Ident) : (Value.keyword id).same (.keyword id) = true := by
  unfold Value.same
  rw [Value.cmp, Ident.cmp_self]
  rfl

/-- An entry with a new key is added to the others. -/
theorem insertEntry_perm {k : Value} {entries : List (Value × Value)}
    (fresh : ∀ e ∈ entries, k.same e.1 = false) (v : Value) :
    (insertEntry k v entries).Perm ((k, v) :: entries) := by
  induction entries with
  | nil => exact .refl _
  | cons first rest ih =>
    obtain ⟨l, w⟩ := first
    have other : k.same l = false := fresh _ List.mem_cons_self
    unfold insertEntry
    split
    · exact .refl _
    · next same =>
      rw [Value.same, same] at other
      cases other
    · exact ((ih fun e later => fresh e (List.mem_cons_of_mem _ later)).cons _).trans (.swap _ _ _)

/-- Inserting an entry brings no other key. -/
theorem key_of_mem_insertEntry {k v : Value} {entries : List (Value × Value)} {e : Value × Value}
    (listed : e ∈ insertEntry k v entries) : e.1 = k ∨ ∃ f ∈ entries, e.1 = f.1 := by
  induction entries with
  | nil => exact .inl (congrArg Prod.fst (List.mem_singleton.1 listed))
  | cons first rest ih =>
    obtain ⟨l, w⟩ := first
    unfold insertEntry at listed
    split at listed
    · rcases List.mem_cons.1 listed with rfl | old
      · exact .inl rfl
      · exact .inr ⟨e, old, rfl⟩
    · rcases List.mem_cons.1 listed with rfl | later
      · exact .inr ⟨_, List.mem_cons_self, rfl⟩
      · exact .inr ⟨e, List.mem_cons_of_mem _ later, rfl⟩
    · rcases List.mem_cons.1 listed with rfl | later
      · exact .inr ⟨_, List.mem_cons_self, rfl⟩
      · rcases ih later with here | ⟨f, old, same⟩
        · exact .inl here
        · exact .inr ⟨f, List.mem_cons_of_mem _ old, same⟩

theorem keepLast_sublist {α : Type} (related : α → α → Bool) (items : List α) :
    (keepLast related items).Sublist items := by
  fun_induction keepLast related items with
  | case1 => exact .slnil
  | case2 x => exact .refl _
  | case3 x y rest _ ih => exact ih.cons x
  | case4 x y rest _ ih => exact ih.cons_cons x

/-- A key that is new keeps the keywords apart. -/
theorem nodup_plainKeys_insertEntry {k : Value} {entries : List (Value × Value)}
    (once : (plainKeys entries).Nodup) (fresh : ∀ e ∈ entries, k.same e.1 = false) (v : Value) :
    (plainKeys (insertEntry k v entries)).Nodup := by
  have added : (plainKeys (insertEntry k v entries)).Perm (plainKeys ((k, v) :: entries)) :=
    (insertEntry_perm fresh v).filterMap _
  rw [added.nodup_iff]
  cases plain : k.plainKeyword? with
  | none => rwa [plainKeys_cons_of_other plain]
  | some name =>
    cases Value.plainKeyword?_eq_some_iff.1 plain
    rw [plainKeys_cons_of_plain, List.nodup_cons, mem_plainKeys_iff]
    refine ⟨fun ⟨w, listed⟩ => ?_, once⟩
    have other := fresh _ listed
    rw [Value.same_keyword] at other
    cases other

/-- The entries of a map have each keyword as a key once: a second one is a fault. -/
theorem plainKeys_entriesOf {items : List Value} {entries : List (Value × Value)}
    (taken : entriesOf items = .ok entries) : (plainKeys entries).Nodup := by
  -- by the recursion of the reader, for any entries found so far that have each keyword once
  have go (found : List (Value × Value)) (items : List Value) (once : (plainKeys found).Nodup)
      (taken : entriesOf.go found items = .ok entries) : (plainKeys entries).Nodup := by
    fun_induction entriesOf.go found items with
    | case1 found k v rest twice => cases taken
    | case2 found k v rest new ih =>
      have fresh : ∀ e ∈ found, k.same e.1 = false := by simpa using new
      exact ih (nodup_plainKeys_insertEntry once fresh v) taken
    | case3 _ found _ =>
      cases taken
      exact once.sublist ((keepLast_sublist _ found).filterMap _)
  unfold entriesOf at taken
  split at taken
  · cases taken
  · exact go [] items List.nodup_nil taken

theorem plainKeys_insertEntry_eq_nil {k v : Value} {entries : List (Value × Value)}
    (other : k.plainKeyword? = none) (empty : plainKeys entries = []) :
    plainKeys (insertEntry k v entries) = [] := by
  refine List.filterMap_eq_nil_iff.2 fun e listed => ?_
  rcases key_of_mem_insertEntry listed with same | ⟨f, old, same⟩
  · rw [same, other]
  · rw [same]
    exact List.filterMap_eq_nil_iff.1 empty f old

/-- A map with a namespace has no keyword without one as a key. -/
theorem plainKeys_qualifyKeys (ns : String) (entries : List (Value × Value)) :
    plainKeys (qualifyKeys ns entries) = [] := by
  refine List.foldlRecOn entries _ (motive := fun acc => plainKeys acc = []) rfl fun acc empty e _ => ?_
  obtain ⟨k, v⟩ := e
  dsimp only
  split
  · exact plainKeys_insertEntry_eq_nil rfl empty
  · next named =>
    refine plainKeys_insertEntry_eq_nil ?_ empty
    cases plain : k.plainKeyword? with
    | none => rfl
    | some name => exact absurd (Value.plainKeyword?_eq_some_iff.1 plain) (named name)

/-! ## What a reader gives -/

/-- Whatever the reader reads has the property. -/
def Gives {α : Type} (r : Reader α) (P : α → Prop) : Prop :=
  ∀ cur a cur', r cur = .ok (a, cur') → P a

section

variable {α β : Type} {P : α → Prop} {Q : β → Prop}

theorem gives_true (r : Reader α) : Gives r fun _ => True := fun _ _ _ _ => trivial

theorem gives_pure {a : α} (has : P a) : Gives (pure a) P := by
  intro cur b cur' gave
  cases gave
  exact has

theorem gives_refuse (cause : Cause) : Gives (refuse cause) P := by
  intro cur a cur' gave
  cases gave

theorem Gives.bind {r : Reader α} {next : α → Reader β} (first : Gives r P)
    (rest : ∀ a, P a → Gives (next a) Q) : Gives (r >>= next) Q := by
  intro cur b cur' gave
  have unfolded : (r >>= next) cur = (r cur).bind fun (a, cur) => next a cur := rfl
  rw [unfolded] at gave
  cases ran : r cur with
  | error e =>
    rw [ran] at gave
    cases gave
  | ok result =>
    rw [ran] at gave
    exact rest _ (first _ _ _ ran) _ _ _ gave

/-- What the first part of a sequence reads need not matter. -/
theorem Gives.after {r : Reader α} {next : α → Reader β} (rest : ∀ a, Gives (next a) Q) :
    Gives (r >>= next) Q :=
  (gives_true r).bind fun a _ => rest a

theorem Gives.within {r : Reader α} (inner : Gives r P) (kind : PartKind) : Gives (within kind r) P :=
  .after fun _ => inner.bind fun _ has => .after fun _ => gives_pure has

theorem gives_orRefuse {made : Except Cause α} (has : ∀ a, made = .ok a → P a) : Gives (orRefuse made) P := by
  cases made with
  | error cause => exact gives_refuse cause
  | ok a => exact gives_pure (has a rfl)

end

/-! ## Maps that are read -/

/-- The value is not a map, or a map with each keyword once. -/
def Value.KeyedOnce : Value → Prop
  | .map entries => (plainKeys entries).Nodup
  | _ => True

theorem keyedOnce_map_iff {entries : List (Value × Value)} :
    (Value.map entries).KeyedOnce ↔ (plainKeys entries).Nodup :=
  .rfl

section

variable {v : Value}

theorem keyedOnce_ofNumber {cs : List Char} (spelled : Value.ofNumber cs = .ok v) : v.KeyedOnce := by
  unfold Value.ofNumber at spelled
  dsimp only at spelled
  repeat' split at spelled
  all_goals cases spelled
  all_goals trivial

theorem keyedOnce_map_ofChars {ofKeyword : Bool} {cs : List Char} (made : Ident → Value)
    (named : ∀ id, (made id).KeyedOnce) (spelled : (Ident.ofChars ofKeyword cs).map made = .ok v) :
    v.KeyedOnce := by
  cases id : Ident.ofChars ofKeyword cs with
  | error cause =>
    rw [id] at spelled
    cases spelled
  | ok id' =>
    rw [id] at spelled
    cases spelled
    exact named id'

theorem keyedOnce_ofKeyword {cs : List Char} (spelled : Value.ofKeyword cs = .ok v) : v.KeyedOnce := by
  unfold Value.ofKeyword at spelled
  repeat' split at spelled
  · cases spelled
    trivial
  · cases spelled
  · cases spelled
  · cases spelled
  · exact keyedOnce_map_ofChars .keyword (fun _ => trivial) spelled

theorem keyedOnce_ofAtom {cs : List Char} (spelled : Value.ofAtom cs = .ok v) : v.KeyedOnce := by
  unfold Value.ofAtom at spelled
  split at spelled
  · cases spelled
    trivial
  · cases spelled
    trivial
  · cases spelled
    trivial
  · cases spelled
  · exact keyedOnce_ofKeyword spelled
  · cases spelled
    trivial
  · repeat' split at spelled
    · cases spelled
    · cases spelled
    · cases spelled
    · exact keyedOnce_ofNumber spelled
    · exact keyedOnce_map_ofChars .symbol (fun _ => trivial) spelled

theorem keyedOnce_ofTagged {tag : Ident} {tagged : Value} (read : Value.ofTagged tag tagged = .ok v) :
    v.KeyedOnce := by
  unfold Value.ofTagged at read
  repeat' split at read
  all_goals cases read
  all_goals trivial

theorem keyedOnce_qualifyKeys (ns : String) (entries : List (Value × Value)) :
    (Value.map (qualifyKeys ns entries)).KeyedOnce := by
  rw [keyedOnce_map_iff, plainKeys_qualifyKeys]
  exact List.nodup_nil

end

/-- An atom is not a map. -/
theorem gives_atom (steps : Nat) (first : Char) : Gives (atom steps first) Value.KeyedOnce := by
  refine .within (.after fun rest => ?_) _
  split
  · next spelled => exact gives_pure (keyedOnce_ofAtom spelled)
  · exact gives_refuse _

theorem gives_character : Gives character Value.KeyedOnce := by
  unfold character
  refine .after fun _ => .after fun _ => ?_
  dsimp only
  repeat' split
  all_goals first
    | exact gives_refuse _
    | exact .after fun _ => gives_pure trivial

/-- Values have their keywords once, and so have those behind a hash sign. -/
theorem gives_form_dispatch (steps : Nat) :
    Gives (form steps) Value.KeyedOnce ∧ Gives (dispatch steps) Value.KeyedOnce := by
  -- each of the two calls the other with one step less; members of collections need nothing
  induction steps with
  | zero =>
    unfold form dispatch
    exact ⟨gives_refuse _, gives_refuse _⟩
  | succ steps ih =>
    obtain ⟨form_, dispatch_⟩ := ih
    constructor
    · unfold form
      refine .after fun _ => .after fun c => ?_
      split
      · exact gives_refuse _
      · exact .within (.after fun _ => .after fun _ => gives_pure trivial) _
      · exact .within (.after fun _ => .after fun _ => gives_pure trivial) _
      · refine .within (.after fun items => ?_) _
        exact (gives_orRefuse fun _ => plainKeys_entriesOf).bind fun _ once => .after fun _ => gives_pure once
      · exact .within (.after fun _ => gives_pure trivial) _
      · exact gives_character
      · exact dispatch_
      · split
        · exact gives_atom _ _
        · exact gives_refuse _
    · unfold dispatch
      refine .after fun _ => .after fun c => ?_
      split
      · exact gives_refuse _
      · exact .after fun _ => .after fun _ => form_
      · exact .after fun _ => .within (.after fun _ => .after fun _ => .after fun _ => gives_pure trivial) _
      · refine .after fun head => ?_
        split
        · exact .after fun v => gives_orRefuse fun _ => keyedOnce_ofTagged
        · refine .after fun v => ?_
          split
          · exact gives_pure (keyedOnce_qualifyKeys _ _)
          · exact gives_refuse _
        · exact gives_refuse _

/-- The reader gives no map with a keyword twice among its keys. -/
theorem keyedOnce_read : Parser.KeyedOnce Value.read := by
  intro content entries read
  unfold Value.read at read
  dsimp only at read
  cases ran : (form (3 * content.toList.length + 4)).run ⟨content.toList, ⟨0, 1⟩, []⟩ with
  | error e =>
    rw [ran] at read
    cases read
  | ok result =>
    rw [ran] at read
    have given : result.1 = .map entries := Except.ok.inj read
    have once := (gives_form_dispatch _).1 _ _ _ ran
    rwa [given] at once

end Edn

end Scaffold
