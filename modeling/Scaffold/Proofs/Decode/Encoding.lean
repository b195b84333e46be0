import Scaffold.Proofs.Decode.Members
import Scaffold.Proofs.Decode.Step

/-!
# The spellings of a step

A step can be written in many ways. Its word may be a string, a symbol or a keyword in any mix of cases, a
destination that is the source may be left out, an argument value has two places, and the value itself can
be written with vectors or lists and with two kinds of keys (`Json.Spells`). `Step.Encodes` lists the ways,
and `encoded_step_decodes` says that each of them decodes to the step.

Every step whose argument value can be written has a spelling (`Step.exists_encodes`). Those are all values
with finite numbers and with the members of objects in order (`Json.WF`).
-/

namespace Scaffold

open Edn (Value)

/-! ## Argument values -/

/-- The key stands for the name of a member. -/
def SpellsName (name : String) (key : Value) : Prop :=
  key = .str name ∨ key = .keyword (.plain name)

namespace Json

mutual

/-- The EDN value is a form of the argument value. The entries of a map come in any order. -/
inductive Spells : Json → Value → Prop
  | null : Spells .null .nil
  | bool (b : Bool) : Spells (.bool b) (.bool b)
  | int (n : Int) : Spells (.int n) (.int n)
  | float {x : Double} : x.isFinite = true → Spells (.float x) (.float x)
  | str (s : String) : Spells (.str s) (.str s)
  | vector {items : List Json} {forms : List Value} :
    SpellsItems items forms → Spells (.array items) (.vector forms)
  | list {items : List Json} {forms : List Value} :
    SpellsItems items forms → Spells (.array items) (.list forms)
  | map {members members' : List (String × Json)} {entries : List (Value × Value)} :
    Ordered members → members'.Perm members → SpellsMembers members' entries →
      Spells (.object members) (.map entries)

/-- The EDN values are forms of the argument values, one by one. -/
inductive SpellsItems : List Json → List Value → Prop
  | nil : SpellsItems [] []
  | cons {v : Json} {form : Value} {items : List Json} {forms : List Value} :
    Spells v form → SpellsItems items forms → SpellsItems (v :: items) (form :: forms)

/-- The entries are forms of the members, one by one. -/
inductive SpellsMembers : List (String × Json) → List (Value × Value) → Prop
  | nil : SpellsMembers [] []
  | cons {name : String} {v : Json} {key form : Value} {members : List (String × Json)}
    {entries : List (Value × Value)} :
    SpellsName name key → Spells v form → SpellsMembers members entries →
      SpellsMembers ((name, v) :: members) ((key, form) :: entries)

end

theorem memberName_of_spells {name : String} {key : Value} (spells : SpellsName name key) :
    memberName key = name := by
  rcases spells with rfl | rfl
  · rfl
  · rfl

mutual

/-- A form of an argument value becomes the value. -/
theorem Spells.ofEdn {v : Json} {form : Value} (spells : Spells v form) : Json.ofEdn form = v := by
  cases spells with
  | null | bool | int | str => rfl
  | float finite =>
    rw [Json.ofEdn, if_pos finite]
  | vector forms => rw [Json.ofEdn, forms.ofItems]
  | list forms => rw [Json.ofEdn, forms.ofItems]
  | map ordered perm entries =>
    rw [Json.ofEdn, entries.ofEntries]
    exact ofMembers_of_perm perm ordered

theorem SpellsItems.ofItems {items : List Json} {forms : List Value}
    (spells : SpellsItems items forms) : Json.ofItems forms = items := by
  cases spells with
  | nil => rfl
  | cons first rest => rw [Json.ofItems, first.ofEdn, rest.ofItems]

theorem SpellsMembers.ofEntries {members : List (String × Json)} {entries : List (Value × Value)}
    (spells : SpellsMembers members entries) : Json.ofEntries entries = members := by
  cases spells with
  | nil => rfl
  | cons key first rest =>
    rw [Json.ofEntries, memberName_of_spells key, first.ofEdn, rest.ofEntries]

end

/-- Only null is written as nil. -/
theorem Spells.ne_nil {v : Json} {form : Value} (spells : Spells v form) (filled : v ≠ .null) :
    form ≠ .nil := by
  rintro rfl
  exact filled spells.ofEdn.symm

/-! ### Values that can be written -/

mutual

/-- Numbers are finite, and the members of objects are in order. -/
def WF : Json → Prop
  | .null | .bool _ | .int _ | .str _ => True
  | .float x => x.isFinite = true
  | .array items => WFItems items
  | .object members => Ordered members ∧ WFMembers members
termination_by structural v => v

/-- All values of the row are well formed. -/
def WFItems : List Json → Prop
  | [] => True
  | v :: rest => WF v ∧ WFItems rest
termination_by structural vs => vs

/-- All values of the members are well formed. -/
def WFMembers : List (String × Json) → Prop
  | [] => True
  | (_, v) :: rest => WF v ∧ WFMembers rest
termination_by structural ms => ms

end

mutual

/-- A well-formed value has a form. -/
theorem WF.exists_spells : ∀ {v : Json}, WF v → ∃ form, Spells v form
  | .null, _ => ⟨_, .null⟩
  | .bool b, _ => ⟨_, .bool b⟩
  | .int n, _ => ⟨_, .int n⟩
  | .float _, finite => ⟨_, .float finite⟩
  | .str s, _ => ⟨_, .str s⟩
  | .array _, fine =>
    have ⟨_, spells⟩ := WFItems.exists_spells fine
    ⟨_, .vector spells⟩
  | .object _, fine =>
    have ⟨_, spells⟩ := WFMembers.exists_spells fine.2
    ⟨_, .map fine.1 (.refl _) spells⟩

theorem WFItems.exists_spells : ∀ {items : List Json}, WFItems items → ∃ forms, SpellsItems items forms
  | [], _ => ⟨_, .nil⟩
  | _ :: _, fine =>
    have ⟨_, first⟩ := WF.exists_spells fine.1
    have ⟨_, rest⟩ := WFItems.exists_spells fine.2
    ⟨_, .cons first rest⟩

theorem WFMembers.exists_spells :
    ∀ {members : List (String × Json)}, WFMembers members → ∃ entries, SpellsMembers members entries
  | [], _ => ⟨_, .nil⟩
  | (_, _) :: _, fine =>
    have ⟨_, first⟩ := WF.exists_spells fine.1
    have ⟨_, rest⟩ := WFMembers.exists_spells fine.2
    ⟨_, .cons (.inl rfl) first rest⟩

end

end Json

/-! ## Words -/

/-- The value stands for the word: a string, a symbol or a keyword with its letters in any mix of cases. -/
def SpellsWord (word : String) (form : Value) : Prop :=
  ∃ s : String, s.toList.map Char.toLower = word.toList ∧
    (form = .str s ∨ form = .symbol (.plain s) ∨ form = .keyword (.plain s))

theorem kindWord_of_lowered {word s : String} (known : word ∈ Step.words)
    (lowered : s.toList.map Char.toLower = word.toList) :
    kindWord s = word ∧ kindWord (":" ++ s) = word := by
  have unmarked : ':' ∉ s.toList := by
    intro marked
    have colon : ':' ∈ word.toList := by
      rw [← lowered]
      exact List.mem_map_of_mem (f := Char.toLower) marked
    have free : ∀ word ∈ Step.words, ':' ∉ word.toList := by decide
    exact free word known colon
  have kept : s.toList.dropWhile (· = ':') = s.toList := by
    cases letters : s.toList with
    | nil => rfl
    | cons c rest =>
      have other : c ≠ ':' := fun same => unmarked (by rw [letters, same]; exact List.mem_cons_self)
      exact List.dropWhile_cons_of_neg (by simpa using other)
  constructor
  · rw [kindWord, kept, lowered, String.ofList_toList]
  · have dropped : (":" ++ s).toList.dropWhile (· = ':') = s.toList := by
      rw [String.toList_append]
      exact kept
    rw [kindWord, dropped, lowered, String.ofList_toList]

/-- A form of the word of a step is read as the word. -/
theorem SpellsWord.exists_kind {step : Step} {form : Value} (spells : SpellsWord step.word form) :
    ∃ kind, form.atomText? = some kind ∧ kindWord kind = step.word := by
  obtain ⟨s, lowered, forms⟩ := spells
  obtain ⟨bare, marked⟩ := kindWord_of_lowered step.word_mem_words lowered
  rcases forms with rfl | rfl | rfl
  · exact ⟨s, rfl, bare⟩
  · exact ⟨s, rfl, bare⟩
  · exact ⟨":" ++ s, rfl, marked⟩

/-! ## Steps -/

/-- The members are a spelling of the step. `more` stands for further members, which are not read. -/
inductive Step.Encodes : Step → List Value → Prop
  | transfer {step : Step} {t : Transfer} {word : Value} (more : List Value) :
    step.transfer? = some t → SpellsWord step.word word →
      Step.Encodes step (word :: .str t.src.text :: .str t.dest.text :: more)
  | sameDest {step : Step} {t : Transfer} {word : Value} :
    step.transfer? = some t → SpellsWord step.word word → t.dest = t.src →
      Step.Encodes step [word, .str t.src.text]
  | expand {tag : String} {word : Value} (more : List Value) :
    SpellsWord "from" word → Step.Encodes (.expand tag) (word :: .str tag :: more)
  | value {name : String} {v : Json} {word form : Value} :
    SpellsWord "arg" word → v.Spells form → Step.Encodes (.bind name v) [word, .str name, form]
  | fallback {name : String} {v : Json} {word form : Value} (more : List Value) :
    SpellsWord "arg" word → v.Spells form →
      Step.Encodes (.bind name v) (word :: .str name :: .nil :: form :: more)
  | default {name : String} {v : Json} {word form : Value} (unread : Value) (more : List Value) :
    SpellsWord "arg" word → v.Spells form → v ≠ .null →
      Step.Encodes (.bind name v) (word :: .str name :: form :: unread :: more)

/-- What is decoded from the members of an encoding. -/
theorem Step.Encodes.members {step : Step} {items : List Value} (encodes : step.Encodes items) :
    (∃ kind, atomAt? items 0 = some kind ∧ kindWord kind = step.word) ∧
      atomAt? items 1 = some step.operand ∧ step.EndsWith items := by
  cases encodes with
  | @transfer _ t word more transfers spells =>
    refine ⟨spells.exists_kind, ?_⟩
    cases step with
    | copy _ | template _ =>
      cases transfers
      exact ⟨rfl, rfl⟩
    | expand _ | bind _ _ => cases transfers
  | @sameDest _ t word transfers spells same =>
    refine ⟨spells.exists_kind, ?_⟩
    cases step with
    | copy _ | template _ =>
      cases transfers
      exact ⟨rfl, congrArg Path.text same⟩
    | expand _ | bind _ _ => cases transfers
  | expand more spells => exact ⟨SpellsWord.exists_kind spells, rfl, trivial⟩
  | @value name v word form spells given =>
    have read : decodeArgument [word, .str name, form] = v := by
      rw [← given.ofEdn]
      cases form with
      | _ => rfl
    exact ⟨SpellsWord.exists_kind spells, rfl, read.symm⟩
  | fallback more spells given => exact ⟨SpellsWord.exists_kind spells, rfl, given.ofEdn.symm⟩
  | @default name v word form unread more spells given filled =>
    have read : decodeArgument (word :: .str name :: form :: unread :: more) = v := by
      rw [← given.ofEdn]
      cases form with
      | nil => exact absurd rfl (given.ne_nil filled)
      | _ => rfl
    exact ⟨SpellsWord.exists_kind spells, rfl, read.symm⟩

/-- Every step can be written, a binding if its value can be. -/
theorem Step.exists_encodes (step : Step) (fine : ∀ name v, step = .bind name v → v.WF) :
    ∃ items, step.Encodes items := by
  have word (step : Step) : SpellsWord step.word (.str step.word) := by
    refine ⟨step.word, ?_, .inl rfl⟩
    have lower : ∀ word ∈ Step.words, word.toList.map Char.toLower = word.toList := by decide
    exact lower _ step.word_mem_words
  cases step with
  | copy t => exact ⟨_, .transfer [] rfl (word _)⟩
  | template t => exact ⟨_, .transfer [] rfl (word _)⟩
  | expand tag => exact ⟨_, .expand [] (word (.expand tag))⟩
  | bind name v =>
    obtain ⟨form, spells⟩ := (fine name v rfl).exists_spells
    exact ⟨_, .value (word (.bind name v)) spells⟩

/-- **Every spelling of a step decodes to it**, as a list and as a vector. -/
theorem encoded_step_decodes (step : Step) (items : List Value) (encodes : step.Encodes items) :
    Step.decode (.list items) = .ok step ∧ Step.decode (.vector items) = .ok step := by
  obtain ⟨⟨kind, first, word⟩, operand, ends⟩ := encodes.members
  exact ⟨decode_of_members rfl first word operand ends, decode_of_members rfl first word operand ends⟩

/-- An object in an array, with both kinds of keys and the entries in another order than the members, behind
a nil. -/
theorem encoded_step_decodes_nested :
    let value : Json := .array [.null, .object [("a", .int 1), ("b", .array []), ("c", .str "x")]]
    let form : Value := .list [.nil, .map [(.str "b", .vector []), (.str "c", .str "x"),
      (.keyword (.plain "a"), .int 1)]]
    let items : List Value := [.keyword (.plain "aRG"), .str "n", .nil, form, .bool true]
    Step.Encodes (.bind "n" value) items ∧ Step.decode (.list items) = .ok (.bind "n" value) ∧
      Step.decode (.vector items) = .ok (.bind "n" value) := by
  intro value form items
  have members : Json.Spells (.object [("a", .int 1), ("b", .array []), ("c", .str "x")])
      (.map [(.str "b", .vector []), (.str "c", .str "x"), (.keyword (.plain "a"), .int 1)]) := by
    refine .map ?_ ((List.Perm.swap _ _ _).cons _ |>.trans (.swap _ _ _)) ?_
    · unfold Json.Ordered
      decide
    exact .cons (.inl rfl) (.vector .nil) (.cons (.inl rfl) (.str "x")
      (.cons (.inr rfl) (.int 1) .nil))
  have encodes : Step.Encodes (.bind "n" value) items :=
    .fallback _ ⟨"aRG", by decide, .inr (.inr rfl)⟩ (.list (.cons .null (.cons members .nil)))
  exact ⟨encodes, encoded_step_decodes _ _ encodes⟩

end Scaffold
