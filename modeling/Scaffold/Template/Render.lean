import Scaffold.Template.Machine.Statement
import Scaffold.Template.Settings
import Scaffold.Template.Token.Scan
import Scaffold.Template.Tree.Statement

/-!
# Rendering

A template is read as a whole before any of it is run, so that a template which cannot be read prints
nothing. Values are escaped as the settings ask for, until the template asks for something else.
-/

namespace Scaffold.Template

/-- The tree of a source. -/
def Tree.read (settings : Settings) (source : String) : Except Fault Tree :=
  Tree.ofLexemes (scan (settings.kept source.toList))

/-- The state at the beginning of a rendering. -/
def Machine.start (escaping : Value.Escaping) (tree : Tree) (context : Context) : Machine where
  context := context.bindings.map fun (name, j) => (name, .ofJson j)
  frames := [{ Frame.empty with backing := .context }]
  outer := 0
  cells := #[]
  out := ""
  escaping := escaping
  initialEscaping := escaping
  blocks := tree.blocks

/-- Runs a tree, and gives what it prints. -/
def Tree.print (escaping : Value.Escaping) (tree : Tree) (context : Context) : Except Fault String :=
  ((Stmt.runEach (invokeUpTo maxDepth) tree.body).run (.start escaping tree context)).map
    fun (_, m) => m.out

/-- Renders a template. -/
def render : Engine := fun settings source context => do
  (← Tree.read settings source).print settings.textEscaping context

end Scaffold.Template
