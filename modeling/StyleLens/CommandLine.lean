import StyleLens.Folder
import StyleLens.Session.Basic

/-!
# The command line

The program takes the path of its log, or puts it where programs keep their
data, and serves one session. A run is a function of its arguments, its folder
and what it is sent (`CommandLine.run`).
-/

namespace StyleLens.CommandLine

/-- The name of the program. -/
def program : String := "style_hover"

/-- Why arguments cannot be used. -/
inductive Misuse where
  | missingPath
  | unknown (argument : String)

/-- The wording of a misuse. -/
def Misuse.message : Misuse → String
  | missingPath => "--log requires a file path"
  | unknown argument => "Unknown argument: " ++ argument

/-- The path of the log in some arguments, or the one that is known already. The
    last one counts. -/
def logPath (known : Option String) : List String → Except Misuse (Option String)
  | [] => .ok known
  | "--log" :: path :: rest => logPath (some path) rest
  | ["--log"] => .error .missingPath
  | "--stdio" :: rest => logPath known rest
  | argument :: _ => .error (.unknown argument)

/-- How the program is used. -/
def usage : List String :=
  ["Usage: " ++ program ++ " [--log <file>]",
    "  Starts the stylesheet hover language server on stdin/stdout.",
    "  --log <file>: Write the log to <file> instead of the local app data directory"]

/-- The complaint about arguments that cannot be used, in lines. -/
def complaint (misuse : Misuse) : List String := misuse.message :: usage

/-- The complaint about a log that cannot be opened. -/
def logComplaint (e : Failure) : List String := ["Failed to initialize logger: " ++ e.message]

/-- The path of the log in the folder where programs keep their data. -/
def defaultLog (dataFolder : String) : String := dataFolder ++ "/StyleHover/style_hover.log"

/-- What is logged before a session. -/
def opening (log : String) (arguments : List String) : List LogRecord :=
  [.info ("Style Hover starting, logging to " ++ log),
    .info ("Command line arguments: " ++ Text.quotedList (program :: arguments))]

/-- What is logged after a session. -/
def closing : List LogRecord := [.info "Style Hover shutting down"]

/-- What the server writes to the client for an outcome. -/
def written (o : Outcome) : List Json := o.sent ++ o.reply.toJson?.toList

/-- A session over what arrives from the client: what is written, and what is
    logged. -/
def converse (services : Services) (s : Session) : List Json → List Json × List LogRecord
  | [] => ([], [])
  | v :: vs =>
    let (s, outcome) := s.receive services v
    let (out, log) := converse services s vs
    (written outcome ++ out, outcome.records ++ log)

/-- What a run leaves. -/
structure Run where
  exit : Nat
  /-- The lines of complaints. -/
  errors : List String
  /-- What was written to the client. -/
  output : List Json
  folder : Folder

/-- A run of the program in a folder, with the folder where programs keep their
    data, on what arrives from the client. Every line of the log has the time
    `time`. -/
def run (folder : Folder) (dataFolder time : String) (parse : Parser) (arguments : List String)
    (arrivals : List Json) : Run :=
  match logPath none arguments with
  | .error misuse => ⟨1, complaint misuse, [], folder⟩
  | .ok path =>
    let log := path.getD (defaultLog dataFolder)
    match folder.openLog log with
    | .error e => ⟨1, logComplaint e, [], folder⟩
    | .ok folder =>
      let (output, records) := converse ⟨parse, folder.read?⟩ .fresh arrivals
      let lines := (opening log arguments ++ records ++ closing).map (LogRecord.line time)
      ⟨0, [], output, folder.write log (String.join lines)⟩

end StyleLens.CommandLine
