import StyleLens.Text.Quoted

/-!
# Failures

Showing a hover never fails. What can fail is setting things up: reading
documentation data, reading a file and opening the log. Each failure is a
cause, and `Failure.message` is its wording.
-/

namespace StyleLens

/-- Why something could not be set up. -/
inductive Failure where
  /-- A file could not be read or written. -/
  | file (what : String)
  /-- A text is not JSON, or not of the right shape. -/
  | json (what : String)
  /-- No syntax tree could be made. -/
  | noTree
  /-- A file of documentation data cannot be used. -/
  | customData (path what : String)
  /-- The log could not be set up. -/
  | log (what : String)
  deriving DecidableEq

namespace Failure

/-- A file operation failed, and nothing more is known. -/
def someFile : Failure := file "IO operation failed"

/-- Reading or writing JSON failed, and nothing more is known. -/
def someJson : Failure := json "JSON operation failed"

/-- The wording of a failure. -/
def message : Failure → String
  | file what => "IO error: " ++ what
  | json what => "JSON error: " ++ what
  | noTree => "Failed to parse stylesheet"
  | customData path what => "Invalid custom data file " ++ Text.quoted path ++ ": " ++ what
  | log what => "Failed to initialize logger: " ++ what

end Failure

end StyleLens
