import StyleLens.Uri.Percent

/-!
# Paths of URIs

The path of a URI is a list of segments. Steps are taken while it is read: a
segment of one dot is left out, and one of two dots takes away the segment
before it, but no drive letter (`resolve`).
-/

namespace StyleLens.UriPath

/-- A dot, as it can be written in a segment. -/
def dots : List String := [".", "%2e", "%2E"]

/-- Whether a segment stays in place. -/
def isStay (segment : String) : Bool := dots.contains segment

/-- Whether a segment goes up. -/
def isUp (segment : String) : Bool := dots.any fun a => dots.any fun b => a ++ b = segment

/-- Whether a text is a letter and then a colon or a bar. -/
def isDrive : List Char → Bool
  | [letter, mark] => letter.isAlpha && (mark = ':' || mark = '|')
  | _ => false

/-- Whether a segment starts with a drive letter, which steps upwards keep. -/
def keepsStep (segment : String) : Bool :=
  match segment.toList with
  | [letter, mark] => isDrive [letter, mark]
  | letter :: mark :: '\x5c' :: _ => isDrive [letter, mark]
  | _ => false

/-- A drive letter with a colon after it. -/
def mendDrive (segment : String) : String :=
  match segment.toList with
  | [letter, '|'] => if letter.isAlpha then String.ofList [letter, ':'] else segment
  | _ => segment

/-- A path without its last segment. -/
def parent (segments : List String) : List String :=
  if segments.getLast?.any keepsStep then segments else segments.dropLast

/-- A path with one more segment, where `first` mends the first one. -/
def push (first : String → String) (path : List String) (segment : String) : List String :=
  if path = [] then [first segment] else path ++ [segment]

/-- A path with more segments, with steps taken. A step at the end leaves an empty
    segment. -/
def resolve (first : String → String) (path : List String) : List String → List String
  | [] => path
  | [last] =>
    if isUp last then parent path ++ [""]
    else if isStay last then path ++ [""]
    else push first path last
  | segment :: rest =>
    if isUp segment then resolve first (parent path) rest
    else if isStay segment then resolve first path rest
    else resolve first (push first path segment) rest

/-- The segments of a text, as they are written. -/
def segments (separates : Char → Bool) (text : List Char) : List String :=
  (text.splitOnP separates).map fun segment => String.ofList (Percent.encode Percent.path segment)

/-- A path without the empty segments at its start. -/
def withoutEmpty (path : List String) : List String :=
  match path.dropWhile (· = "") with
  | [] => [""]
  | rest => rest

/-- The text of a path. -/
def render (path : List String) : String := "/" ++ "/".intercalate path

end StyleLens.UriPath
