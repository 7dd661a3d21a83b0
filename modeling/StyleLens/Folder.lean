import StyleLens.Failure
import StyleLens.Index
import StyleLens.Text.Basic

/-!
# A folder of files

The files that the program can see from its working folder, the *home*. A path
leads from home, or from the top if it starts with a separator. Around home
things can be made; elsewhere there is only what is there already.

* `Folder.read?`: the text of a file;
* `Folder.makeFolders?`, `Folder.clear?`: make the folders on a path, and make or
  empty a file;
* `Folder.openLog`: both, to write a log.
-/

namespace StyleLens

namespace Path

/-- A path, given backwards, without separators and steps in place at its end. -/
def trimEnd : List Char → List Char
  | '/' :: rest => trimEnd rest
  | '.' :: '/' :: rest => trimEnd rest
  | rest => rest

/-- The path of the folder that a path lies in. The empty path and the top lie
    in none. -/
def parent? (path : String) : Option String :=
  match trimEnd path.toList.reverse with
  | [] => none
  | name =>
    let above := (trimEnd (name.dropWhile (· ≠ '/'))).reverse
    some (if above = [] ∧ path.toList.head? = some '/' then "/" else String.ofList above)

/-- Whether a path can be used at all: neither it nor a name on it is too long
    for a file system, and it has no null character. -/
def usable (path : String) : Bool :=
  path.utf8ByteSize < 4096 && (path.splitOn "/").all (·.utf8ByteSize ≤ 255) &&
    !path.toList.contains '\x00'

/-- Whether a path can only name a folder: it ends in a separator or in a step
    that is no name. -/
def namesFolder (path : String) : Bool :=
  match (path.splitOn "/").getLast? with
  | some last => last = "" || last = "." || last = ".."
  | none => true

end Path

/-- What a path can lead to. -/
inductive FolderItem where
  | file (bytes : ByteArray)
  | folder
  /-- A device that keeps nothing of what is written to it, and the text that can
      be read from it. Where that never ends, there is none. -/
  | device (text : Option String)

/-- What can be seen from a working folder. -/
structure Folder where
  /-- The names on the way from the top to the working folder. -/
  home : List String
  /-- What there is, by the names on the way from the top. -/
  items : Index (List String) FolderItem

namespace Folder

/-- The devices of the system that take anything. -/
def devices : List (List String × FolderItem) :=
  [(["dev", "null"], .device (some "")), (["dev", "full"], .device none),
    (["dev", "zero"], .device none)]

/-- An empty working folder, and the devices of the system. -/
def empty (home : List String) : Folder :=
  ⟨home, devices.foldl (fun items (names, device) => items.insert names device)
    (Index.empty.insert home .folder)⟩

/-- Where a path starts: at the top or at home. -/
def startOf (f : Folder) (path : String) : List String :=
  if path.toList.head? = some '/' then [] else f.home

/-- The names and steps of a path that can be used. -/
def steps? (path : String) : Option (List String) :=
  if path = "" ∨ !Path.usable path then none
  else some ((path.splitOn "/").filter fun step => step ≠ "" && step ≠ ".")

/-- Where a step leads to. There is nothing above the top. -/
def next (names : List String) (step : String) : List String :=
  if step = ".." then names.dropLast else names ++ [step]

/-- Whether there is a folder at the end of some names. -/
def isFolder (f : Folder) (names : List String) : Bool :=
  names.isEmpty || f.items.entries.any fun (key, item) =>
    match item with
    | .folder => names.isPrefixOf key
    | .file _ | .device _ => names.isPrefixOf key && key ≠ names

/-- The names that some steps lead to, from the folder at the end of `names`. -/
def follow? (f : Folder) (names : List String) : List String → Option (List String)
  | [] => some names
  | step :: steps =>
    if steps.isEmpty || f.isFolder (next names step) then f.follow? (next names step) steps
    else none

/-- The names that a path leads to, through folders that exist. -/
def reach? (f : Folder) (path : String) : Option (List String) :=
  (steps? path).bind (f.follow? (f.startOf path))

/-- The text of the file at a path, if there is one and it is text. -/
def read? (f : Folder) (path : String) : Option String :=
  if Path.namesFolder path then none
  else
    (f.reach? path).bind fun names =>
      match f.items.get? names with
      | some (.file bytes) => String.fromUTF8? bytes
      | some (.device text) => text
      | some .folder | none => none

/-- The same view with something else at the end of some names. -/
def put (f : Folder) (names : List String) (item : FolderItem) : Folder :=
  ⟨f.home, f.items.insert names item⟩

/-- Whether something can be made at the end of some names: only in home or
    beside it. -/
def canMake (f : Folder) (names : List String) : Bool := f.home.dropLast.isPrefixOf names

/-- The view with a folder for each of some steps. There is none if something
    else is in the way. -/
def makeSteps? (f : Folder) (names : List String) : List String → Option Folder
  | [] => some f
  | step :: steps =>
    let names := next names step
    if f.isFolder names then f.makeSteps? names steps
    else if (f.items.get? names).isSome || !f.canMake names then none
    else (f.put names .folder).makeSteps? names steps

/-- The view with all folders on a path. -/
def makeFolders? (f : Folder) (path : String) : Option Folder :=
  if path = "" then some f else (steps? path).bind (f.makeSteps? (f.startOf path))

/-- The view with a text at the end of some names, where there is a file or none
    yet. -/
def store? (f : Folder) (names : List String) (text : String) : Option Folder :=
  match f.items.get? names with
  | some (.device _) => some f
  | some (.file _) => some (f.put names (.file text.toUTF8))
  | some .folder => none
  | none =>
    if f.isFolder names || !f.canMake names then none
    else some (f.put names (.file text.toUTF8))

/-- The view with an empty file at a path, which must lie in a folder. -/
def clear? (f : Folder) (path : String) : Option Folder :=
  if Path.namesFolder path then none else (f.reach? path).bind fun names => f.store? names ""

/-- The view with a text in the file at a path. -/
def write (f : Folder) (path text : String) : Folder :=
  ((f.reach? path).bind fun names => f.store? names text).getD f

/-- The view with an empty log at a path, and the folders that it lies in. -/
def openLog (f : Folder) (path : String) : Except Failure Folder :=
  let cleared (f : Folder) : Except Failure Folder :=
    match f.clear? path with
    | some f => .ok f
    | none => .error (.file ("Failed to open log file " ++ path))
  match Path.parent? path with
  | none => cleared f
  | some parent =>
    match f.makeFolders? parent with
    | some f => cleared f
    | none => .error (.file ("Failed to create log directory " ++ parent))

/-- A log opened by a program that has one already. The file is made, but the
    log that is there stays the one in use. -/
def openSecondLog (f : Folder) (path : String) : Folder × Failure :=
  match f.openLog path with
  | .error e => (f, e)
  | .ok f => (f,
    .log "attempted to set a logger after the logging system was already initialized")

/-- The files in home with their texts, by their paths from there. -/
def texts (f : Folder) : List (String × String) :=
  f.items.entries.filterMap fun (names, item) =>
    match item with
    | .file bytes =>
      if f.home.isPrefixOf names then
        some ("/".intercalate (names.drop f.home.length), (String.fromUTF8? bytes).getD "")
      else none
    | .folder | .device _ => none

end Folder

end StyleLens
