import FlowCanvas.Canvas.Config

/-!
# Files

Flows and configurations are kept in files, as JSON texts. The files themselves are the business of
the host, who reports what is in a file or why it cannot be used; this module says what follows
from the report.
-/

set_option autoImplicit false

namespace FlowCanvas

/-- Why nothing has been loaded or saved. -/
inductive FileError where
  /-- The text in the file does not describe what is wanted. -/
  | unreadable
  /-- The host cannot use the file. -/
  | inaccessible (path reason : String)
  deriving DecidableEq

namespace FileError

/-- The text shown for an error. -/
def message : FileError → String
  | unreadable => "Failed to parse flow JSON"
  | inaccessible path reason => "Failed to read or write '" ++ path ++ "': " ++ reason

/-- The host's reason where there is no such file. -/
def noSuchFile : String := "No such file or directory (os error 2)"

/-- What a text describes, or the error that it describes nothing. -/
def orUnreadable {α : Type} : Option α → Except FileError α
  | some a => .ok a
  | none => .error unreadable

end FileError

/-- What the host reports of reading a file: its text or the reason why there is none. -/
structure FileReport where
  path : String
  text : Except String String

namespace FileReport

/-- The text of the file. -/
def content (r : FileReport) : Except FileError String :=
  r.text.mapError (FileError.inaccessible r.path)

end FileReport

/-- Loads a flow from a file. -/
def Flow.load (r : FileReport) : Except FileError Flow := do
  FileError.orUnreadable (Flow.parse? (← r.content))

/-- Loads a configuration from a file. -/
def Config.load (r : FileReport) : Except FileError Config := do
  FileError.orUnreadable (Config.parse? (← r.content))

/-- The text that is saved for a flow. -/
def Flow.fileText (f : Flow) : String := f.print Json.indented

end FlowCanvas
