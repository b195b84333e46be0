import Scaffold.Context
import Scaffold.Template.Fault
import Scaffold.Template.Value.Text

/-!
# Settings of an engine

An engine renders templates under settings that are made before: how printed values are escaped, by the
name of the template, and whether a line end at the end of a template is kept.
-/

namespace Scaffold.Template

open Value (Escaping)

/-- What is set for an engine. -/
structure Settings where
  escaping : String → Escaping
  keepsLineEnd : Bool

/-- What renders a template that is given as a text, under the name `textName`. -/
abbrev Engine := Settings → String → Context → Except Fault String

namespace Settings

/-- The escaping in a template that is given as a text. -/
def textEscaping (s : Settings) : Escaping := s.escaping textName

/-- The part of a source that is rendered. -/
def kept (s : Settings) (source : List Char) : List Char :=
  if s.keepsLineEnd then source else dropLineEnd source
where
  /-- A text without the line end at its end. -/
  dropLineEnd : List Char → List Char
    | [] => []
    | ['\n'] => []
    | ['\r', '\n'] => []
    | c :: rest => c :: dropLineEnd rest

end Settings

end Scaffold.Template
