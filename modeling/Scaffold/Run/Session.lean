import Scaffold.Decode
import Scaffold.Run.Walk

/-!
# Sessions

A session loads the packs that can be expanded, then the manifest of the destination, and walks the
steps of the destination in place. Everything is loaded and decoded before the first step is
applied. What parses manifests and what renders templates is given.
-/

namespace Scaffold

/-- The name of the file that describes a pack. -/
def manifestFile : Path := ⟨"Custodianfile"⟩

/-- How a session ended. -/
inductive Outcome where
  | noManifest
  | noDest
  | applied (context : Context)

namespace Run

/-- Loads the manifest of a directory. That there is none is reported and is no failure. -/
def load (parse : Edn.Parser) (root : Path) : Run (Option Manifest) := do
  let file := root.join manifestFile
  if !(← disk).isFile file then
    report (.noManifest root)
    return none
  else
    note (.loading file)
    let content ← reading (·.readText file)
    let manifest ← ofExcept (Manifest.decode parse content root)
    note (.loaded manifest.name manifest.steps.length manifest.noDest)
    return some manifest

/-- Loads the manifests of directories in order, leaving out those without one. -/
def loadAll (parse : Edn.Parser) : List Path → Run (List Manifest)
  | [] => return []
  | root :: rest => do
    let first ← load parse root
    let others ← loadAll parse rest
    return first.toList ++ others

/-- The registry of the packs in the given directories. -/
def buildRegistry (parse : Edn.Parser) (roots : List Path) : Run Registry := do
  let registry := Registry.ofManifests (← loadAll parse roots)
  note (.registered registry.tags)
  return registry

/-- Applies the manifest at the destination, with the packs of the given directories. -/
def session (parse : Edn.Parser) (renderer : Renderer) (imports : List Path) (dest : Path) :
    Run Outcome := do
  let registry ← buildRegistry parse imports
  match ← load parse dest with
  | none =>
    report .nothingToDo
    return .noManifest
  | some manifest =>
    if manifest.noDest then
      report .notADestination
      return .noDest
    else
      let context ← walk renderer dest dest registry manifest.steps .empty
      return .applied context

/-- The steps that a session can reach, each with the root that it reads from. -/
def reachable (parse : Edn.Parser) (imports : List Path) (dest : Path) :
    Run (List (Path × Step)) := do
  let registry ← buildRegistry parse imports
  match ← load parse dest with
  | none => return []
  | some manifest => return flatten registry dest manifest.steps

end Run

end Scaffold
