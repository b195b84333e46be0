import Scaffold.Context
import Scaffold.Disk.Find
import Scaffold.Failure
import Scaffold.Text.Quoted

/-!
# What a run sees and changes

A run changes the disk, reports on the console what it did, and notes further detail in a log. It
also keeps what it handed to the renderer. `World` holds all four, and `Run` is a computation over a
world that may fail: what was done before a failure stays.
-/

namespace Scaffold

/-- A line on the console. -/
inductive Report where
  | skipped (dest : Path)
  | copied (src dest : Path)
  | rendered (src dest : Path)
  | expanding (tag : String)
  | noManifest (root : Path)
  | nothingToDo
  | notADestination
  deriving DecidableEq

/-- The text of a line on the console. -/
def Report.text : Report → String
  | .skipped dest => "SKIP\t" ++ dest.text
  | .copied src dest => "COPY\t" ++ src.text ++ "\t" ++ dest.text
  | .rendered src dest => "TEMPLATE\t" ++ src.text ++ "\t" ++ dest.text
  | .expanding tag => "FROM\t" ++ tag
  | .noManifest root => "No Custodianfile found at " ++ root.text
  | .nothingToDo => "Nothing to do here..."
  | .notADestination => "The specified destination has the `nodest` pragma. Stopping."

/-- An entry of the log. -/
inductive Note where
  | loading (manifest : Path)
  | loaded (name : String) (steps : Nat) (noDest : Bool)
  | registered (tags : List String)
  | argument (name : String) (value : Json)
  | expanding (tag : String) (root : Path)
  | notRegistered (tag : String)
  | ownDestination (source : Path)
  | copying (source dest : Path)

/-- The text of an entry of the log. -/
def Note.text : Note → String
  | .loading manifest => "Loading manifest from " ++ manifest.text
  | .loaded name steps noDest =>
    "Loaded manifest '" ++ name ++ "' with " ++ toString steps ++ " steps" ++
      if noDest then " (nodest)" else ""
  | .registered tags => "Registered tags: [" ++ ", ".intercalate (tags.map Text.quoted) ++ "]"
  | .argument name value => "ARG\t" ++ name ++ "\t" ++ value.text
  | .expanding tag root => "Expanding '" ++ tag ++ "' from " ++ root.text
  | .notRegistered tag => "No manifest registered for '" ++ tag ++ "', skipping"
  | .ownDestination source => source.text ++ " is its own destination, leaving it as is"
  | .copying source dest => "Copying " ++ source.text ++ " to " ++ dest.text

/-- The disk, the console, the log, and what was rendered so far. -/
structure World where
  disk : Disk
  reports : List Report
  notes : List Note
  renderings : List (String × Context)
  deriving Inhabited

/-- A world in which nothing has happened yet. -/
def World.start (disk : Disk) : World := ⟨disk, [], [], []⟩

/-- The lines on the console. -/
def World.console (w : World) : List String := w.reports.map Report.text

/-- A computation that changes the world and may fail. -/
abbrev Run (α : Type) := ExceptT Failure (StateM World) α

/-- What renders templates. It may fail for whatever a run can fail for. -/
abbrev Renderer := String → Context → Except Failure String

namespace Run

/-- Prints a line on the console. -/
def report (r : Report) : Run Unit := modify fun w => { w with reports := w.reports ++ [r] }

/-- Adds an entry to the log. -/
def note (n : Note) : Run Unit := modify fun w => { w with notes := w.notes ++ [n] }

/-- The disk. -/
def disk : Run Disk := return (← get).disk

/-- Goes on with a result, or fails. -/
def ofExcept {α : Type} : Except Failure α → Run α
  | .ok a => pure a
  | .error e => throw e

/-- What an operation reads from the disk. -/
def reading {α : Type} (op : Disk → Except DiskError α) : Run α := do
  ofExcept ((op (← disk)).mapError .disk)

/-- Makes the disk what an operation makes of it. -/
def change (op : Disk → Except DiskError Disk) : Run Unit := do
  let d ← reading op
  modify fun w => { w with disk := d }

/-- Renders a template, and keeps what was rendered. -/
def render (renderer : Renderer) (template : String) (context : Context) : Run String := do
  modify fun w => { w with renderings := w.renderings ++ [(template, context)] }
  ofExcept (renderer template context)

end Run

end Scaffold
