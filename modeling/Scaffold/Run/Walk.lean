import Scaffold.Registry
import Scaffold.Run.Apply

/-!
# Walking the steps of a manifest

The walk applies the steps of a manifest in order and threads the context through them. A step that
expands a pack walks the steps of that pack from the pack's own root, to the same destination, with
the pack's tag removed from the registry; whatever comes behind it sees the whole registry again.
The walk ends because an expansion makes the registry smaller and every step makes the row of steps
shorter.

`Scaffold.Run.flatten` says what a walk does without recursion over packs: the row of all steps that
can be reached, each with the root it reads from, in the order in which they are applied.
`Scaffold.Run.execute` applies such a row from left to right.
-/

namespace Scaffold.Run

/-- Walks steps, and gives the context behind the last one. -/
def walk (renderer : Renderer) (destRoot srcRoot : Path) (registry : Registry) (steps : List Step)
    (context : Context) : Run Context :=
  match steps with
  | [] => return context
  | step :: rest => do
    match ← apply renderer srcRoot destRoot step context with
    | none => walk renderer destRoot srcRoot registry rest context
    | some (.bind name value) =>
      walk renderer destRoot srcRoot registry rest (context.withDefault name value)
    | some (.expand tag) =>
      match _found : registry.get? tag with
      | none =>
        note (.notRegistered tag)
        walk renderer destRoot srcRoot registry rest context
      | some pack =>
        note (.expanding tag pack.root)
        let inner ← walk renderer destRoot pack.root (registry.without tag) pack.steps context
        walk renderer destRoot srcRoot registry rest inner
termination_by (registry.size, steps.length)
decreasing_by
  all_goals first
    | exact Prod.Lex.left _ _ (Registry.size_without_lt ‹_›)
    | exact Prod.Lex.right _ (by simp)

/-- All steps that a walk can reach, each with the root that it reads from. The steps of a pack stand
right behind the step that expands it. -/
def flatten (registry : Registry) (srcRoot : Path) (steps : List Step) : List (Path × Step) :=
  match steps with
  | [] => []
  | step :: rest =>
    let inner :=
      match step with
      | .expand tag =>
        match _found : registry.get? tag with
        | some pack => flatten (registry.without tag) pack.root pack.steps
        | none => []
      | _ => []
    (srcRoot, step) :: inner ++ flatten registry srcRoot rest
termination_by (registry.size, steps.length)
decreasing_by
  all_goals first
    | exact Prod.Lex.left _ _ (Registry.size_without_lt ‹_›)
    | exact Prod.Lex.right _ (by simp)

/-- Applies a flat row of steps. Bindings take effect and expansions do nothing. -/
def execute (renderer : Renderer) (destRoot : Path) :
    List (Path × Step) → Context → Run Context
  | [], context => return context
  | (srcRoot, step) :: rest, context => do
    match ← apply renderer srcRoot destRoot step context with
    | some (.bind name value) =>
      execute renderer destRoot rest (context.withDefault name value)
    | _ => execute renderer destRoot rest context

end Scaffold.Run
