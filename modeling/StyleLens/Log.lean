/-!
# Log records

What is written to the log: messages with a level (`LogRecord`), each on a line
with the time. A moment is given in milliseconds since the start of 1970, and is
written in universal time (`Clock.render`): `2024-01-01 12:00:00.000`.
-/

namespace StyleLens

/-! ### Calendar time -/

namespace Clock

/-- A number with at least `width` digits. -/
def padded (width n : Nat) : String :=
  let digits := Nat.toDigits 10 n
  String.ofList (List.replicate (width - digits.length) '0' ++ digits)

/-- The year, month and day of a day, counted from the first of January 1970.

    Years are taken to start in March, so that the day that is added every four
    years, but not in three of four centuries, is the last one of its year. -/
def date (day : Nat) : Nat × Nat × Nat :=
  let z := day + 719468
  let era := z / 146097
  let doe := z % 146097
  let yoe := (doe - doe / 1460 + doe / 36524 - doe / 146096) / 365
  let doy := doe - (365 * yoe + yoe / 4 - yoe / 100)
  let mp := (5 * doy + 2) / 153
  let month := if mp < 10 then mp + 3 else mp - 9
  let year := yoe + era * 400
  (if month ≤ 2 then year + 1 else year, month, doy - (153 * mp + 2) / 5 + 1)

/-- The text of a moment. -/
def render (milliseconds : Nat) : String :=
  let seconds := milliseconds / 1000
  let (year, month, day) := date (seconds / 86400)
  let rest := seconds % 86400
  padded 4 year ++ "-" ++ padded 2 month ++ "-" ++ padded 2 day ++ " " ++ padded 2 (rest / 3600)
    ++ ":" ++ padded 2 (rest / 60 % 60) ++ ":" ++ padded 2 (rest % 60) ++ "."
    ++ padded 3 (milliseconds % 1000)

end Clock

/-! ### Records -/

/-- How grave a log record is. -/
inductive Level where
  | error
  | warning
  | info
  deriving DecidableEq

/-- The word for a level. -/
def Level.word : Level → String
  | .error => "ERROR"
  | .warning => "WARN"
  | .info => "INFO"

/-- A message in the log. -/
structure LogRecord where
  level : Level
  message : String
  deriving DecidableEq

namespace LogRecord

/-- An error. -/
def error (message : String) : LogRecord := ⟨.error, message⟩

/-- A warning. -/
def warn (message : String) : LogRecord := ⟨.warning, message⟩

/-- A note. -/
def info (message : String) : LogRecord := ⟨.info, message⟩

/-- A line of the log, written at the given time. -/
def line (time : String) (r : LogRecord) : String :=
  "[" ++ time ++ "] [" ++ r.level.word ++ "] " ++ r.message ++ "\n"

end LogRecord

end StyleLens
