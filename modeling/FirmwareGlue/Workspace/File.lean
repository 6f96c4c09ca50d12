import FirmwareGlue.Storage.Surroundings
import FirmwareGlue.Workspace.Document

/-!
# Workspaces in files

A workspace document is read from a file, which has to be text.
-/

namespace FirmwareGlue.Workspace

variable {m : Type → Type} [Monad m] [Surroundings m]

/-- The workspace that the document in a file describes. -/
def ofFile (path : String) : m (Except Error Workspace) := do
  match ← Surroundings.textOf path with
  | .error fault => return .error (.fileError fault)
  | .ok document => return ofDocument document

end FirmwareGlue.Workspace
