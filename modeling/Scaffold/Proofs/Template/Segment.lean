import Scaffold.Template.Settings
import Scaffold.Template.Token.Scan

/-!
# Segments of a template

A template of literal text and placeholders is a row of segments. What such a template prints can be said of
any engine that keeps to its documentation. Text outside of inserts is raw, but a line end at the end of the
template is dropped unless it is set to be kept. An insert prints the value of its expression, escaped as the
settings ask for, and the context comes before the functions. Blanks and line ends next to an insert stay.
`Engine.Documented` names these laws. They are about any settings, so what a renderer prints depends on what
it sets.
-/

namespace Scaffold.Template

/-! ## Segments -/

/-- A piece of a template: text that stands for itself, or a name with blanks around it between the markers
of a print insert. -/
inductive Segment where
  | literal (text : String)
  | placeholder (before name after : String)

/-- A text that can stand for a name: it begins as a name does and goes on so. -/
structure IsIdentifier (name : String) : Prop where
  starts : name.toList.head?.any isNameStart = true
  goesOn : name.toList.all isNamePart = true

instance (name : String) : Decidable (IsIdentifier name) :=
  decidable_of_iff (name.toList.head?.any isNameStart = true ∧ name.toList.all isNamePart = true)
    ⟨fun ⟨starts, goesOn⟩ => ⟨starts, goesOn⟩, fun fine => ⟨fine.starts, fine.goesOn⟩⟩

/-- The words that are values, operators or the names of a loop and of the template. -/
def reservedWords : List String :=
  ["true", "True", "false", "False", "none", "None", "not", "and", "or", "in", "is", "if", "else", "loop",
    "self"]

namespace Segment

/-- How a segment is written. -/
def source : Segment → String
  | .literal text => text
  | .placeholder before name after => "\x7b\x7b" ++ before ++ name ++ after ++ "\x7d\x7d"

/-- Literal text has no opening brace. A placeholder has an identifier that is no reserved word, with nothing
but blanks around it. -/
def WF : Segment → Prop
  | .literal text => '\x7b' ∉ text.toList
  | .placeholder before name after =>
    before.toList.all isGap = true ∧ (IsIdentifier name ∧ name ∉ reservedWords) ∧
      after.toList.all isGap = true

instance : DecidablePred WF
  | .literal text => inferInstanceAs (Decidable ('\x7b' ∉ text.toList))
  | .placeholder before name after => inferInstanceAs (Decidable
    (before.toList.all isGap = true ∧ (IsIdentifier name ∧ name ∉ reservedWords) ∧
      after.toList.all isGap = true))

/-- How a row of segments is written. -/
def sources (segments : List Segment) : String := String.join (segments.map source)

theorem sources_cons (s : Segment) (rest : List Segment) : sources (s :: rest) = s.source ++ sources rest :=
  String.join_cons

theorem sources_singleton (s : Segment) : sources [s] = s.source :=
  (sources_cons s []).trans String.append_empty

theorem free_append {lead text : String} (front : '\x7b' ∉ lead.toList) (behind : '\x7b' ∉ text.toList) :
    '\x7b' ∉ (lead ++ text).toList := by
  rw [String.toList_append, List.mem_append]
  exact fun brace => brace.elim front behind

theorem wf_row {lead before name after : String} {row : List Segment} (free : '\x7b' ∉ lead.toList)
    (fine : (placeholder before name after).WF) (fineRow : ∀ s ∈ row, s.WF) :
    ∀ s ∈ literal lead :: placeholder before name after :: row, s.WF :=
  List.forall_mem_cons.2 ⟨free, List.forall_mem_cons.2 ⟨fine, fineRow⟩⟩

/-- The text that a segment stands for: literal text for itself, a placeholder for the text that its name is
bound to. -/
inductive StandsFor (context : Context) : Segment → String → Prop
  | literal (text : String) : StandsFor context (.literal text) text
  | placeholder (before name after : String) {text : String} (bound : context.get? name = some (.str text)) :
    StandsFor context (.placeholder before name after) text

end Segment

/-! ## What an engine is asked for -/

/-- An engine that keeps to its documentation where a template is a row of segments. -/
structure Engine.Documented (engine : Engine) : Prop where
  /-- Text without inserts is printed as it stands if the line end at its end is kept. -/
  text {settings : Settings} (context : Context) {text : String} :
    settings.keepsLineEnd = true → '\x7b' ∉ text.toList → engine settings text context = .ok text
  /-- Otherwise one line end is dropped. -/
  lineEnd {settings : Settings} (context : Context) {text : String} :
    settings.keepsLineEnd = false → '\x7b' ∉ text.toList → text.toList.getLast? ≠ some '\r' →
      engine settings (text ++ "\n") context = .ok text
  /-- An insert prints the text that the context binds its name to, also if a function has that name. The
  text is escaped as it is set for the template. -/
  insert (settings : Settings) (context : Context) {before name after text printed : String} :
    (Segment.placeholder before name after).WF → context.get? name = some (.str text) →
      Value.escaped settings.textEscaping (.str text false) = .ok printed →
      engine settings (Segment.placeholder before name after).source context = .ok printed
  /-- Text in front of an insert is printed whole, and what stands behind the insert is rendered as it is
  without the insert. -/
  parts (settings : Settings) (context : Context) {lead before name after printed out : String}
    {rest : List Segment} :
    '\x7b' ∉ lead.toList → (Segment.placeholder before name after).WF → (∀ s ∈ rest, s.WF) →
      engine settings (Segment.placeholder before name after).source context = .ok printed →
      engine settings (Segment.sources rest) context = .ok out →
      engine settings (lead ++ ((Segment.placeholder before name after).source ++ Segment.sources rest))
        context = .ok (lead ++ (printed ++ out))

end Scaffold.Template
