import Scaffold.Run.World
import Scaffold.Template.Settings

/-!
# The renderer

Templates are rendered by an engine that is given. It is set to escape nothing, whatever a template is
called, and to keep the line end at the end of a template. What it fails for is a failure of the run.
-/

namespace Scaffold.Renderer

open Template (Engine Settings)

/-- What is set for the engine. -/
def settings : Settings where
  escaping := fun _ => .plain
  keepsLineEnd := true

/-- The renderer that goes by an engine. -/
def ofEngine (engine : Engine) : Renderer := fun template context =>
  (engine settings template context).mapError .template

end Scaffold.Renderer
