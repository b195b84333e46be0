import Mathlib.Data.List.TakeWhile
import Scaffold.Proofs.Decode.Step

/-!
# Steps with quoted members

A step may name its kind, a path, a name or a tag by a symbol or a keyword, and an argument value may be
one. The string that holds the same text is another spelling of the same step as long as the symbol or the
keyword has no namespace (`quoting_keeps_step`).

A namespace is read as if it were not there: `src/main.rs` stands for `main.rs` and not for the path that it
looks like (`quoting_changes_step`). The string that keeps a step is the one without the namespace, and
quoting the whole text gives another step wherever the text is read at all (`Step.Reads`).
-/

namespace Scaffold

open Edn (Ident Value)

/-! ## Decoding alike -/

/-- Two results of decoding: the same step, or the same failure of either raw step. -/
inductive SameOutcome (raw raw' : Value) : Except Failure Step → Except Failure Step → Prop
  | step (step : Step) : SameOutcome raw raw' (.ok step) (.ok step)
  | missing (what : Missing) :
    SameOutcome raw raw' (.error (.badManifest (.missing what raw)))
      (.error (.badManifest (.missing what raw')))
  | unknown : SameOutcome raw raw' (.error (.unknownStep raw)) (.error (.unknownStep raw'))

/-- The raw steps decode to the same step, or they fail in the same way. -/
def DecodesAlike (raw raw' : Value) : Prop := SameOutcome raw raw' (Step.decode raw) (Step.decode raw')

variable {raw raw' : Value} {items items' : List Value} {step : Step} {e v : Value} {id : Ident}
  {i : Nat} {bare s : String}

theorem DecodesAlike.ok_iff (alike : DecodesAlike raw raw') :
    Step.decode raw = .ok step ↔ Step.decode raw' = .ok step := by
  unfold DecodesAlike at alike
  generalize Step.decode raw = left, Step.decode raw' = right at alike ⊢
  cases alike with
  | step => exact Iff.rfl
  | missing | unknown => exact ⟨fun decoded => (by cases decoded), fun decoded => (by cases decoded)⟩

/-- A raw step that fails does so for its word, or because nothing that can be read stands behind it. -/
theorem decodesAlike_of_error {fault : Failure} (failed : Step.decode raw = .error fault)
    (sequence : raw.sequence? = some items) (sequence' : raw'.sequence? = some items')
    (first : atomAt? items' 0 = atomAt? items 0)
    (second : (atomAt? items' 1).isSome = (atomAt? items 1).isSome) : DecodesAlike raw raw' := by
  have nothing (none_ : atomAt? items 1 = none) : atomAt? items' 1 = none := by
    rw [none_] at second
    exact Option.not_isSome_iff_eq_none.1 (by simp [second])
  unfold DecodesAlike
  unfold Step.decode at failed ⊢
  simp only [sequence, sequence', first] at failed ⊢
  cases word : atomAt? items 0 with
  | none => exact .missing .stepType
  | some kind =>
    simp only [word] at failed
    have transfer (f : Transfer → Step) (conditional : Bool)
        (failed : (decodeTransfer raw items conditional).map f = .error fault) :
        SameOutcome raw raw' ((decodeTransfer raw items conditional).map f)
          ((decodeTransfer raw' items' conditional).map f) := by
      unfold decodeTransfer at failed ⊢
      cases operand : atomAt? items 1 with
      | none =>
        rw [nothing operand]
        exact .missing .sourcePath
      | some src =>
        rw [operand] at failed
        cases failed
    dsimp only
    split at failed
    · exact transfer .copy false failed
    · exact transfer .copy true failed
    · exact transfer .template false failed
    · exact transfer .template true failed
    · cases operand : atomAt? items 1 with
      | none =>
        rw [nothing operand]
        exact .missing .name
      | some name =>
        rw [operand] at failed
        cases failed
    · cases operand : atomAt? items 1 with
      | none =>
        rw [nothing operand]
        exact .missing .tag
      | some tag =>
        rw [operand] at failed
        cases failed
    · exact .unknown

theorem Step.EndsWith.of_members (ends : step.EndsWith items)
    (third : atomAt? items' 2 = atomAt? items 2)
    (argument : decodeArgument items' = decodeArgument items) : step.EndsWith items' := by
  cases step with
  | copy t | template t => exact Eq.trans ends (by rw [third])
  | expand tag => trivial
  | bind name value => exact Eq.trans ends argument.symm

/-- Raw steps decode alike if their members are read alike. -/
theorem decodesAlike_of_members (sequence : raw.sequence? = some items)
    (sequence' : raw'.sequence? = some items') (first : atomAt? items' 0 = atomAt? items 0)
    (second : atomAt? items' 1 = atomAt? items 1) (third : atomAt? items' 2 = atomAt? items 2)
    (argument : decodeArgument items' = decodeArgument items) : DecodesAlike raw raw' := by
  cases decoded : Step.decode raw with
  | error fault =>
    exact decodesAlike_of_error decoded sequence sequence' first (congrArg Option.isSome second)
  | ok step =>
    obtain ⟨⟨kind, word, known⟩, operand, ends⟩ := members_of_decode sequence decoded
    have decoded' : Step.decode raw' = .ok step :=
      decode_of_members sequence' (first.trans word) known (second.trans operand)
        (ends.of_members third argument)
    rw [DecodesAlike, decoded, decoded']
    exact .step step

/-! ## Replacing a member -/

/-- The raw step with another value at the position. -/
def Edn.Value.replace (raw : Value) (i : Nat) (v : Value) : Value :=
  match raw with
  | .list items => .list (items.set i v)
  | .vector items => .vector (items.set i v)
  | other => other

theorem sequence?_replace (sequence : raw.sequence? = some items) (i : Nat) (v : Value) :
    (raw.replace i v).sequence? = some (items.set i v) := by
  cases raw with
  | list _ | vector _ =>
    cases sequence
    rfl
  | _ => cases sequence

theorem atomAt?_set (there : items[i]? = some e) (v : Value) (j : Nat) :
    atomAt? (items.set i v) j = if i = j then v.atomText? else atomAt? items j := by
  obtain ⟨inside, -⟩ := List.getElem?_eq_some_iff.1 there
  unfold atomAt?
  by_cases here : i = j
  · subst here
    rw [List.getElem?_set_self inside, if_pos rfl]
    rfl
  · rw [List.getElem?_set_ne here, if_neg here]

theorem atomAt?_of_getElem? (there : items[i]? = some e) : atomAt? items i = e.atomText? := by
  rw [atomAt?, there]
  rfl

/-- The argument is at this position. -/
def ArgumentAt (items : List Value) (i : Nat) : Prop :=
  i = 2 ∨ i = 3 ∧ items[2]? = some .nil

/-- Where the argument is, another one takes its place; elsewhere nothing does. Nil is no argument there,
for it gives way to what is behind it. -/
theorem decodeArgument_set (there : items[i]? = some e) (filled : e ≠ .nil) (filled' : v ≠ .nil) :
    (ArgumentAt items i → decodeArgument items = Json.ofEdn e ∧
      decodeArgument (items.set i v) = Json.ofEdn v) ∧
    (¬ ArgumentAt items i → decodeArgument (items.set i v) = decodeArgument items) := by
  obtain ⟨inside, -⟩ := List.getElem?_eq_some_iff.1 there
  have some_ {items : List Value} {e : Value} (third : items[2]? = some e) (filled : e ≠ .nil) :
      decodeArgument items = Json.ofEdn e := by
    unfold decodeArgument
    rw [third]
    cases e with
    | nil => exact absurd rfl filled
    | _ => rfl
  have behind {items : List Value} {e : Value} (third : items[2]? = some .nil)
      (fourth : items[3]? = some e) : decodeArgument items = Json.ofEdn e := by
    unfold decodeArgument
    rw [third, fourth]
  refine ⟨?_, fun elsewhere => ?_⟩
  · rintro (rfl | ⟨rfl, third⟩)
    · exact ⟨some_ there filled, some_ (List.getElem?_set_self inside) filled'⟩
    · refine ⟨behind third there, behind ?_ (List.getElem?_set_self inside)⟩
      rw [List.getElem?_set_ne (by decide), third]
  · have other : i ≠ 2 := fun here => elsewhere (.inl here)
    by_cases fourth : i = 3
    · subst fourth
      cases third : items[2]? with
      | none =>
        -- there is nothing in front of the fourth member
        rw [List.getElem?_eq_none_iff] at third
        omega
      | some value =>
        have real : value ≠ .nil := fun nil => elsewhere (.inr ⟨rfl, nil ▸ third⟩)
        rw [some_ third real]
        exact some_ ((List.getElem?_set_ne (by decide)).trans third) real
    · unfold decodeArgument
      rw [List.getElem?_set_ne other, List.getElem?_set_ne fourth]

/-- A member that is read like another can stand for it. -/
theorem decodesAlike_replace (sequence : raw.sequence? = some items) (there : items[i]? = some e)
    (filled : e ≠ .nil) (filled' : v ≠ .nil) (text : v.atomText? = e.atomText?)
    (value : Json.ofEdn v = Json.ofEdn e) : DecodesAlike raw (raw.replace i v) := by
  have atoms (j : Nat) : atomAt? (items.set i v) j = atomAt? items j := by
    rw [atomAt?_set there]
    split
    · next here => rw [← here, atomAt?_of_getElem? there, text]
    · rfl
  obtain ⟨here, elsewhere⟩ := decodeArgument_set there filled filled'
  refine decodesAlike_of_members sequence (sequence?_replace sequence i v) (atoms 0) (atoms 1) (atoms 2) ?_
  by_cases argument : ArgumentAt items i
  · obtain ⟨before, after⟩ := here argument
    rw [before, after, value]
  · exact elsewhere argument

/-! ## Names -/

/-- The identifier of a symbol or a keyword. -/
def Edn.Value.ident? : Value → Option Ident
  | .symbol id | .keyword id => some id
  | _ => none

/-- The text of a namespace, a slash and a name is longer than the name. -/
theorem text_ne_name {ns : String} (qualified : id.ns = some ns) (mark : String) :
    mark ++ id.text ≠ mark ++ id.name := by
  intro same
  have size := congrArg String.length same
  rw [Ident.text, qualified] at size
  simp only [String.length_append] at size
  have slash : "/".length = 1 := rfl
  omega

theorem slash_mem_text {ns : String} (qualified : id.ns = some ns) : '/' ∈ id.text.toList := by
  rw [Ident.text, qualified]
  simp

/-- A symbol or a keyword is read as one text, as an atom and as an argument value alike. That is its own
text unless it has a namespace. -/
theorem exists_text_of_ident (named : e.ident? = some id) :
    ∃ bare, e.atomText? = some bare ∧ Json.ofEdn e = .str bare ∧ e ≠ .nil ∧
      (id.ns = none → e.text = bare) ∧
      ∀ ns, id.ns = some ns → e.text ≠ bare ∧ '/' ∈ e.text.toList := by
  cases e with
  | symbol id =>
    cases named
    refine ⟨id.name, rfl, rfl, Value.noConfusion, fun plain => ?_, fun ns qualified => ?_⟩
    · rw [Value.text, Ident.text, plain]
    · rw [Value.text]
      have other := text_ne_name qualified ""
      rw [String.empty_append, String.empty_append] at other
      exact ⟨other, slash_mem_text qualified⟩
  | keyword id =>
    cases named
    refine ⟨":" ++ id.name, rfl, rfl, Value.noConfusion, fun plain => ?_, fun ns qualified => ?_⟩
    · rw [Value.text, Ident.text, plain]
    · rw [Value.text, String.toList_append]
      exact ⟨text_ne_name qualified ":", List.mem_append_right _ (slash_mem_text qualified)⟩
  | _ => cases named

/-- No word of a step has a slash. -/
theorem kindWord_of_slash {s : String} (slash : '/' ∈ s.toList) : kindWord s ∉ Step.words := by
  have kept : '/' ∈ s.toList.dropWhile (· = ':') := by
    rw [← List.takeWhile_append_dropWhile (p := (· = ':')) (l := s.toList)] at slash
    rcases List.mem_append.1 slash with dropped | kept
    · have colon := List.mem_takeWhile_imp dropped
      cases of_decide_eq_true colon
    · exact kept
  have lowered : '/' ∈ (kindWord s).toList := by
    rw [kindWord, String.toList_ofList]
    exact List.mem_map_of_mem (f := Char.toLower) kept
  intro known
  have free : ∀ word ∈ Step.words, '/' ∉ word.toList := by decide
  exact free _ known lowered

/-! ## Quoting -/

/-- The step reads the member at the position. -/
def Step.Reads (items : List Value) (i : Nat) : Step → Prop
  | .copy _ | .template _ => i ≤ 2
  | .expand _ => i ≤ 1
  | .bind _ _ => i ≤ 1 ∨ ArgumentAt items i

/-- Every step reads its word and what stands behind it. -/
theorem Step.reads_of_le_one (step : Step) (items : List Value) (upTo : i ≤ 1) : step.Reads items i := by
  cases step with
  | copy t | template t => exact Nat.le_succ_of_le upTo
  | expand tag => exact upTo
  | bind name value => exact .inl upTo

/-- A member that the step does not read can be anything but nil. -/
theorem decode_replace_of_not_reads (sequence : raw.sequence? = some items) (there : items[i]? = some e)
    (filled : e ≠ .nil) (filled' : v ≠ .nil) (decoded : Step.decode raw = .ok step)
    (unread : ¬ step.Reads items i) : Step.decode (raw.replace i v) = .ok step := by
  have atoms := atomAt?_set there v
  have elsewhere := (decodeArgument_set there filled filled').2
  have behind : ¬ i ≤ 1 := fun upTo => unread (step.reads_of_le_one items upTo)
  obtain ⟨⟨kind, word, known⟩, operand, ends⟩ := members_of_decode sequence decoded
  have word' := (atoms 0).trans (if_neg (by omega))
  have operand' := (atoms 1).trans (if_neg (by omega))
  refine decode_of_members (sequence?_replace sequence i v) (word'.trans word) known
    (operand'.trans operand) ?_
  cases step with
  | copy t | template t =>
    have third : i ≠ 2 := fun here => unread (here ▸ Nat.le_refl 2)
    exact Eq.trans ends (by rw [atoms, if_neg third])
  | expand tag => trivial
  | bind name given =>
    exact Eq.trans ends (elsewhere fun argument => unread (.inr argument)).symm

/-- Where a text with a slash is put for a member that is read as another text, and the step stays the same,
the step does not read the member. -/
theorem not_reads_of_decode_replace (sequence : raw.sequence? = some items) (there : items[i]? = some e)
    (text : e.atomText? = some bare) (value : Json.ofEdn e = .str bare) (filled : e ≠ .nil)
    (other : s ≠ bare) (slash : '/' ∈ s.toList) (decoded : Step.decode raw = .ok step)
    (decoded' : Step.decode (raw.replace i (.str s)) = .ok step) : ¬ step.Reads items i := by
  intro reads
  have sequence' := sequence?_replace sequence i (.str s)
  have atoms := atomAt?_set there (.str s)
  have old := (atomAt?_of_getElem? there).trans text
  obtain ⟨-, operand, ends⟩ := members_of_decode sequence decoded
  obtain ⟨⟨kind', word', known'⟩, operand', ends'⟩ := members_of_decode sequence' decoded'
  have notWord : i ≠ 0 := by
    rintro rfl
    cases (atoms 0).symm.trans word'
    exact kindWord_of_slash slash (known' ▸ step.word_mem_words)
  have notOperand : i ≠ 1 := by
    rintro rfl
    cases old.symm.trans operand
    cases (atoms 1).symm.trans operand'
    exact other rfl
  have transfer {t : Transfer} (dest : t.dest.text = (atomAt? items 2).getD t.src.text)
      (dest' : t.dest.text = (atomAt? (items.set i (.str s)) 2).getD t.src.text) (upTo : i ≤ 2) :
      False := by
    have last : i = 2 := by omega
    subst last
    rw [old] at dest
    rw [atoms, if_pos rfl] at dest'
    exact other (dest'.symm.trans dest)
  cases step with
  | copy t | template t => exact transfer ends ends' reads
  | expand tag =>
    have upTo : i ≤ 1 := reads
    omega
  | bind name given =>
    rcases reads with upTo | argument
    · omega
    · have given_ := (decodeArgument_set there filled (v := .str s) Value.noConfusion).1 argument
      have same : Json.str s = .str bare :=
        given_.2.symm.trans (ends'.symm.trans (Eq.trans ends (given_.1.trans value)))
      cases same
      exact other rfl

/-- A member that is read otherwise leaves a step alone exactly where the step does not read it. -/
theorem decode_replace_iff (sequence : raw.sequence? = some items) (there : items[i]? = some e)
    (text : e.atomText? = some bare) (value : Json.ofEdn e = .str bare) (filled : e ≠ .nil)
    (other : s ≠ bare) (slash : '/' ∈ s.toList) (decoded : Step.decode raw = .ok step) :
    Step.decode (raw.replace i (.str s)) = .ok step ↔ ¬ step.Reads items i :=
  ⟨not_reads_of_decode_replace sequence there text value filled other slash decoded,
    decode_replace_of_not_reads sequence there filled Value.noConfusion decoded⟩

/-- **Quoting a member.** Let a member of a raw step be a symbol or a keyword, and put the string that
holds its text in its place. Without a namespace the two raw steps decode alike. With one, what failed
goes on failing in the same way, except that the word is no longer one of a kind; and what was a step is
the same step exactly if it does not read the member. The string that always keeps the step is the one
without the namespace. -/
theorem quoting_keeps_step (raw : Value) (items : List Value) (i : Nat) (e : Value) (id : Ident)
    (sequence : raw.sequence? = some items) (there : items[i]? = some e)
    (named : e.ident? = some id) :
    let quoted := raw.replace i (.str e.text)
    (id.ns = none → DecodesAlike raw quoted) ∧
    (∀ ns, id.ns = some ns →
      (∀ step, Step.decode raw = .ok step →
        (Step.decode quoted = .ok step ↔ ¬ step.Reads items i)) ∧
      (∀ fault, Step.decode raw = .error fault → i ≠ 0 → DecodesAlike raw quoted) ∧
      (i = 0 → Step.decode quoted = .error (.unknownStep quoted))) ∧
    ∀ bare, e.atomText? = some bare → DecodesAlike raw (raw.replace i (.str bare)) := by
  intro quoted
  obtain ⟨bare, text, value, filled, plain, qualified⟩ := exists_text_of_ident named
  have sequence' : quoted.sequence? = _ := sequence?_replace sequence i (.str e.text)
  have keeps : DecodesAlike raw (raw.replace i (.str bare)) :=
    decodesAlike_replace sequence there filled Value.noConfusion text.symm value.symm
  refine ⟨fun none_ => ?_, fun ns given => ⟨fun step decoded => ?_, fun fault failed notWord => ?_, ?_⟩,
    fun bare' text' => ?_⟩
  · dsimp only [quoted]
    rw [plain none_]
    exact keeps
  · obtain ⟨other, slash⟩ := qualified ns given
    exact decode_replace_iff sequence there text value filled other slash decoded
  · refine decodesAlike_of_error failed sequence sequence'
      ((atomAt?_set there _ 0).trans (if_neg notWord)) ?_
    rw [atomAt?_set there]
    split
    · next here =>
      rw [← here, atomAt?_of_getElem? there, text]
      rfl
    · rfl
  · rintro rfl
    refine decode_of_unknown sequence' ((atomAt?_set there _ 0).trans (if_pos rfl)) ?_
    exact kindWord_of_slash (qualified ns given).2
  · cases text.symm.trans text'
    exact keeps

/-- The destination has no namespace and can be quoted. The source has one: the string without it keeps
the step, and its whole text gives another step. -/
theorem quoting_keeps_step_of_plain :
    let raw : Value := .list
      [.symbol (.plain "xcopy"), .symbol ⟨some "src", "main.rs"⟩, .keyword (.plain "t")]
    DecodesAlike raw (raw.replace 2 (.str ":t")) ∧ DecodesAlike raw (raw.replace 1 (.str "main.rs")) ∧
      Step.decode (raw.replace 1 (.str "src/main.rs")) ≠
        .ok (.copy ⟨⟨"main.rs"⟩, ⟨":t"⟩, true⟩) := by
  intro raw
  obtain ⟨dest, -, -⟩ := quoting_keeps_step raw _ 2 _ _ rfl rfl rfl
  obtain ⟨-, source, bare⟩ := quoting_keeps_step raw _ 1 _ _ rfl rfl rfl
  obtain ⟨changed, -, -⟩ := source "src" rfl
  have decoded : Step.decode raw = .ok (.copy ⟨⟨"main.rs"⟩, ⟨":t"⟩, true⟩) :=
    decode_of_members rfl rfl (by decide) rfl rfl
  refine ⟨dest rfl, bare "main.rs" rfl, fun kept => ?_⟩
  exact (changed _ decoded).1 kept (Nat.le_succ 1)

/-- `(copy src/main.rs)` copies another file than `(copy "src/main.rs")`. -/
theorem quoting_changes_step :
    let raw : Value := .list [.symbol (.plain "copy"), .symbol ⟨some "src", "main.rs"⟩]
    (Value.symbol ⟨some "src", "main.rs"⟩).text = "src/main.rs" ∧
      Step.decode raw = .ok (.copy ⟨⟨"main.rs"⟩, ⟨"main.rs"⟩, false⟩) ∧
      Step.decode (raw.replace 1 (.str "src/main.rs")) =
        .ok (.copy ⟨⟨"src/main.rs"⟩, ⟨"src/main.rs"⟩, false⟩) ∧
      ¬ DecodesAlike raw (raw.replace 1 (.str "src/main.rs")) := by
  intro raw
  have before : Step.decode raw = .ok (.copy ⟨⟨"main.rs"⟩, ⟨"main.rs"⟩, false⟩) :=
    decode_of_members rfl rfl (by decide) rfl rfl
  have after : Step.decode (raw.replace 1 (.str "src/main.rs")) =
      .ok (.copy ⟨⟨"src/main.rs"⟩, ⟨"src/main.rs"⟩, false⟩) :=
    decode_of_members rfl rfl (by decide) rfl rfl
  refine ⟨by decide, before, after, fun alike => ?_⟩
  have same := after.symm.trans (alike.ok_iff.1 before)
  simp at same

end Scaffold
