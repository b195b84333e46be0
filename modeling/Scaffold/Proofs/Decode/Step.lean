import Scaffold.Decode

/-!
# What a step is decoded from

A step is decoded from the texts of its first three members and, if it binds an argument, from the
value behind its name. `members_of_decode` says what the members of a raw step are that decodes, and
`decode_of_members` that nothing else counts. A word of no kind is refused, whatever stands behind it
(`decode_of_unknown`).
-/

namespace Scaffold

open Edn (Value)

/-! ## The members of a step -/

/-- The word for the kind of a step. -/
def Step.word : Step → String
  | .copy t => if t.conditional then "xcopy" else "copy"
  | .template t => if t.conditional then "xtemplate" else "template"
  | .expand _ => "from"
  | .bind _ _ => "arg"

/-- What stands behind the word: the source of a transfer, a tag, or a name. -/
def Step.operand : Step → String
  | .copy t | .template t => t.src.text
  | .expand tag => tag
  | .bind name _ => name

/-- The words of all kinds. -/
def Step.words : List String := ["copy", "xcopy", "template", "xtemplate", "from", "arg"]

theorem Step.word_mem_words (step : Step) : step.word ∈ Step.words := by
  cases step with
  | copy t | template t =>
    obtain ⟨src, dest, conditional⟩ := t
    cases conditional with
    | true => simp [Step.word, Step.words]
    | false => simp [Step.word, Step.words]
  | expand _ | bind _ _ => simp [Step.word, Step.words]

/-- What stands behind the operand gives the destination of a transfer and the value of an argument. -/
def Step.EndsWith (items : List Value) : Step → Prop
  | .copy t | .template t => t.dest.text = (atomAt? items 2).getD t.src.text
  | .expand _ => True
  | .bind _ value => value = decodeArgument items

/-! ## Decoding -/

variable {raw : Value} {items : List Value} {step : Step} {kind : String}

theorem decodeTransfer_eq_ok_iff {conditional : Bool} {t : Transfer} :
    decodeTransfer raw items conditional = .ok t ↔
      t.conditional = conditional ∧ atomAt? items 1 = some t.src.text ∧
        t.dest.text = (atomAt? items 2).getD t.src.text := by
  obtain ⟨⟨src⟩, ⟨dest⟩, mark⟩ := t
  unfold decodeTransfer
  cases atomAt? items 1 with
  | none => simp
  | some text =>
    simp only [Except.ok.injEq, Transfer.mk.injEq, Path.mk.injEq, Option.some.injEq]
    constructor
    · rintro ⟨rfl, rfl, rfl⟩
      exact ⟨rfl, rfl, rfl⟩
    · rintro ⟨rfl, rfl, rfl⟩
      exact ⟨rfl, rfl, rfl⟩

theorem map_decodeTransfer_eq_ok_iff {conditional : Bool} {f : Transfer → Step} :
    (decodeTransfer raw items conditional).map f = .ok step ↔
      ∃ t : Transfer, step = f t ∧ t.conditional = conditional ∧
        atomAt? items 1 = some t.src.text ∧ t.dest.text = (atomAt? items 2).getD t.src.text := by
  simp only [← @decodeTransfer_eq_ok_iff raw]
  cases decodeTransfer raw items conditional with
  | error e => simp [Except.map]
  | ok t =>
    simp only [Except.map, Except.ok.injEq]
    constructor
    · rintro rfl
      exact ⟨t, rfl, rfl⟩
    · rintro ⟨_, rfl, rfl⟩
      rfl

/-- What a raw step that decodes has for members. -/
theorem members_of_decode (sequence : raw.sequence? = some items) (decoded : Step.decode raw = .ok step) :
    (∃ kind, atomAt? items 0 = some kind ∧ kindWord kind = step.word) ∧
      atomAt? items 1 = some step.operand ∧ step.EndsWith items := by
  unfold Step.decode at decoded
  simp only [sequence] at decoded
  cases first : atomAt? items 0 with
  | none =>
    rw [first] at decoded
    cases decoded
  | some kind =>
    simp only [first] at decoded
    split at decoded
    · next word =>
      obtain ⟨⟨src, dest, _⟩, rfl, rfl, source, ends⟩ := map_decodeTransfer_eq_ok_iff.1 decoded
      exact ⟨⟨kind, rfl, word⟩, source, ends⟩
    · next word =>
      obtain ⟨⟨src, dest, _⟩, rfl, rfl, source, ends⟩ := map_decodeTransfer_eq_ok_iff.1 decoded
      exact ⟨⟨kind, rfl, word⟩, source, ends⟩
    · next word =>
      obtain ⟨⟨src, dest, _⟩, rfl, rfl, source, ends⟩ := map_decodeTransfer_eq_ok_iff.1 decoded
      exact ⟨⟨kind, rfl, word⟩, source, ends⟩
    · next word =>
      obtain ⟨⟨src, dest, _⟩, rfl, rfl, source, ends⟩ := map_decodeTransfer_eq_ok_iff.1 decoded
      exact ⟨⟨kind, rfl, word⟩, source, ends⟩
    · next word =>
      cases name : atomAt? items 1 with
      | none =>
        rw [name] at decoded
        cases decoded
      | some text =>
        rw [name] at decoded
        cases decoded
        exact ⟨⟨kind, rfl, word⟩, rfl, rfl⟩
    · next word =>
      cases tag : atomAt? items 1 with
      | none =>
        rw [tag] at decoded
        cases decoded
      | some text =>
        rw [tag] at decoded
        cases decoded
        exact ⟨⟨kind, rfl, word⟩, rfl, trivial⟩
    · cases decoded

/-- A raw step with the members of a step decodes to it. -/
theorem decode_of_members (sequence : raw.sequence? = some items) (first : atomAt? items 0 = some kind)
    (word : kindWord kind = step.word) (operand : atomAt? items 1 = some step.operand)
    (ends : step.EndsWith items) : Step.decode raw = .ok step := by
  unfold Step.decode
  simp only [sequence, first, word]
  cases step with
  | copy t =>
    obtain ⟨src, dest, conditional⟩ := t
    cases conditional with
    | true => exact map_decodeTransfer_eq_ok_iff.2 ⟨_, rfl, rfl, operand, ends⟩
    | false => exact map_decodeTransfer_eq_ok_iff.2 ⟨_, rfl, rfl, operand, ends⟩
  | template t =>
    obtain ⟨src, dest, conditional⟩ := t
    cases conditional with
    | true => exact map_decodeTransfer_eq_ok_iff.2 ⟨_, rfl, rfl, operand, ends⟩
    | false => exact map_decodeTransfer_eq_ok_iff.2 ⟨_, rfl, rfl, operand, ends⟩
  | expand tag => simp only [Step.word, operand, Step.operand]
  | bind name value =>
    cases ends
    simp only [Step.word, operand, Step.operand]

/-- A word of no kind is refused. -/
theorem decode_of_unknown (sequence : raw.sequence? = some items) (first : atomAt? items 0 = some kind)
    (unknown : kindWord kind ∉ Step.words) : Step.decode raw = .error (.unknownStep raw) := by
  unfold Step.decode
  simp only [sequence, first]
  simp only [Step.words, List.mem_cons, List.not_mem_nil, or_false, not_or] at unknown
  obtain ⟨copy, xcopy, template, xtemplate, from_, arg⟩ := unknown
  split
  · next word => exact absurd word copy
  · next word => exact absurd word xcopy
  · next word => exact absurd word template
  · next word => exact absurd word xtemplate
  · next word => exact absurd word arg
  · next word => exact absurd word from_
  · rfl

end Scaffold
