import TaskPipeline.Record.Settings
import TaskPipeline.Toml.Document

/-!
# Settings from configuration texts

What is not understood is refused; what is not known is ignored.
-/

namespace TaskPipeline

/-- The settings of a workspace that a text describes. -/
def WorkspaceSettings.read? (text : String) : Option WorkspaceSettings :=
  Toml.read? text >>= WorkspaceSettings.decode .configuration

/-- The settings of a user that a text describes. -/
def UserSettings.read? (text : String) : Option UserSettings :=
  Toml.read? text >>= UserSettings.decode .configuration

end TaskPipeline
