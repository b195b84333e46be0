import Scaffold.Run.Transfer
import Scaffold.Step

/-!
# Applying one step

A step reads below a source root and writes below a destination root. A step that writes is done
when it has reported itself; a step that expands a pack or binds an argument hands a directive to
the walk over the steps.
-/

namespace Scaffold

/-- What a step asks of the walk. -/
inductive Directive where
  | expand (tag : String)
  | bind (name : String) (value : Json)

namespace Run

/-- Copies below the roots. -/
def copy (srcRoot destRoot : Path) (t : Transfer) : Run Unit := do
  copyPath (srcRoot.absolutize t.src) (destRoot.absolutize t.dest)
  report (.copied t.src t.dest)

/-- Renders a template below the roots. The report comes before the file is written. -/
def template (renderer : Renderer) (srcRoot destRoot : Path) (t : Transfer) (context : Context) :
    Run Unit := do
  let source ← reading (·.readText (srcRoot.absolutize t.src))
  let text ← render renderer source context
  report (.rendered t.src t.dest)
  writeText (destRoot.absolutize t.dest) text

/-- Whether a transfer is left out: it is conditional and its destination exists. -/
def isGated (destRoot : Path) (t : Transfer) : Run Bool :=
  return t.conditional && (← disk).holds (destRoot.absolutize t.dest)

/-- Applies a transfer unless it is left out. -/
def unlessGated (destRoot : Path) (t : Transfer) (body : Run Unit) : Run Unit := do
  if ← isGated destRoot t then report (.skipped t.dest) else body

/-- Applies a step. -/
def apply (renderer : Renderer) (srcRoot destRoot : Path) (step : Step) (context : Context) :
    Run (Option Directive) := do
  match step with
  | .copy t =>
    unlessGated destRoot t (copy srcRoot destRoot t)
    return none
  | .template t =>
    unlessGated destRoot t (template renderer srcRoot destRoot t context)
    return none
  | .expand tag =>
    report (.expanding tag)
    return some (.expand tag)
  | .bind name value =>
    note (.argument name value)
    return some (.bind name value)

end Run

end Scaffold
