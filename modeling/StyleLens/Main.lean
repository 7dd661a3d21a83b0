import Std.Time.DateTime.Timestamp
import StyleLens.CommandLine
import StyleLens.Json.Reader
import StyleLens.Log

/-!
# The program

The outer layer: arguments, the log file and the messages on standard input and
output. A message is a block of header lines, of which one gives its length, an
empty line and then its text.

No parser is linked in, so documents have no syntax tree here and hovers on them
are empty.
-/

namespace StyleLens

/-- The time now, for the log. -/
def now : IO String := do
  let t ← Std.Time.Timestamp.now
  pure (Clock.render (t.toNanosecondsSinceUnixEpoch.val / 1000000).toNat)

/-- Write records to the log. -/
def writeLog (log : IO.FS.Handle) (records : List LogRecord) : IO Unit := do
  for r in records do
    log.putStr (r.line (← now))
  log.flush

/-- Read the length of the next message from its header lines. -/
partial def readLength (input : IO.FS.Stream) (length : Option Nat) : IO (Option Nat) := do
  let line ← input.getLine
  if line.isEmpty then return none
  let line := String.ofList (line.toList.filter fun c => c ≠ '\r' && c ≠ '\n')
  if line.isEmpty then return length
  match Text.dropHead? "content-length:".toList (Text.lower line.toList) with
  | some rest => readLength input (Json.number (String.ofList (Text.trim rest))).nat?
  | none => readLength input length

/-- Read a number of bytes. -/
partial def readBytes (input : IO.FS.Stream) (n : Nat) (read : ByteArray) : IO ByteArray := do
  if n ≤ read.size then return read
  let more ← input.read (.ofNat (n - read.size))
  if more.isEmpty then return read
  readBytes input n (read ++ more)

/-- Write a message. -/
def writeMessage (output : IO.FS.Stream) (v : Json) : IO Unit := do
  let body := v.write
  output.putStr ("Content-Length: " ++ Nat.repr body.utf8ByteSize ++ "\r\n\r\n" ++ body)
  output.flush

/-- The texts of the files that the options of a client name. -/
def readCustomData (v : Json) : IO (List (String × String)) := do
  let options := do
    let m ← Message.ofJson? v
    let (_, options) ← introduced? (← m.params)
    options
  let mut texts := []
  for path in (Settings.ofOptions options).1.customData do
    try
      let text ← IO.FS.readFile path
      texts := (path, text) :: texts
    catch _ => pure ()
  pure texts

/-- Serve a session until its messages end. -/
partial def serveAll (log : IO.FS.Handle) (input output : IO.FS.Stream) (s : Session) :
    IO Unit := do
  let some length ← readLength input none | return
  let body ← readBytes input length .empty
  match (String.fromUTF8? body).bind Json.parse? with
  | none => serveAll log input output s
  | some v =>
    let texts ← readCustomData v
    let (s, outcome) := s.receive ⟨fun _ => none, fun path => texts.lookup path⟩ v
    writeLog log outcome.records
    for v in CommandLine.written outcome do
      writeMessage output v
    if s.phase = .over then return
    serveAll log input output s

/-- The folder where programs keep their data. -/
def dataFolder : IO String := do
  match ← IO.getEnv "XDG_DATA_HOME" with
  | some folder => pure folder
  | none =>
    let home ← IO.getEnv "HOME"
    pure (home.getD "" ++ "/.local/share")

/-- Open the log at a path, and make the folders that it lies in. -/
def openLogFile (path : String) : IO (Except Failure IO.FS.Handle) := do
  if let some parent := Path.parent? path then
    if parent ≠ "" then
      try IO.FS.createDirAll parent
      catch _ => return .error (.file ("Failed to create log directory " ++ parent))
  try
    let log ← IO.FS.Handle.mk path .write
    pure (.ok log)
  catch _ => pure (.error (.file ("Failed to open log file " ++ path)))

end StyleLens

open StyleLens in
/-- Serve one session on standard input and output. -/
def main (arguments : List String) : IO UInt32 := do
  let complain (lines : List String) : IO UInt32 := do
    for line in lines do
      IO.eprintln line
    pure 1
  match CommandLine.logPath none arguments with
  | .error misuse => complain (CommandLine.complaint misuse)
  | .ok path =>
    let path := path.getD (CommandLine.defaultLog (← dataFolder))
    match ← openLogFile path with
    | .error e => complain (CommandLine.logComplaint e)
    | .ok log =>
      writeLog log (CommandLine.opening path arguments)
      let input ← IO.getStdin
      let output ← IO.getStdout
      serveAll log input output .fresh
      writeLog log CommandLine.closing
      pure 0
