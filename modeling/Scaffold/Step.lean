import Scaffold.Json
import Scaffold.Path

/-!
# Steps and manifests

A manifest is the description of a pack: the name under which others expand it, the directory it was
loaded from, and the steps to run in order. A step copies, renders, expands another pack, or binds
an argument. A transfer that is conditional is left out when its destination exists already.
-/

namespace Scaffold

/-- What a copy and a rendering have in common. -/
structure Transfer where
  src : Path
  dest : Path
  conditional : Bool
  deriving DecidableEq, Inhabited

/-- A step. -/
inductive Step where
  | copy (t : Transfer)
  | template (t : Transfer)
  | expand (tag : String)
  | bind (name : String) (value : Json)
  deriving Inhabited

/-- The transfer of a step that writes. -/
def Step.transfer? : Step → Option Transfer
  | .copy t | .template t => some t
  | .expand _ | .bind _ _ => none

/-- The description of a pack. -/
structure Manifest where
  name : String
  root : Path
  steps : List Step
  noDest : Bool
  deriving Inhabited

end Scaffold
