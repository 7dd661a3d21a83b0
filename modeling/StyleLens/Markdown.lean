import StyleLens.Text.Basic

/-!
# Markdown as plain text

What is left of a markdown text for a client that does not render it: a link
becomes its text with its address in parentheses, code and emphasis lose their
marks, escaped characters lose the backslash, and brackets that belong to no
link are dropped. Each step reads the result of the one before it.
-/

namespace StyleLens.Markdown

/-! ### Links -/

/-- The text, the address and what follows a link that starts right after its
    opening bracket. The text ends at the first closing bracket, and the address
    holds no closing parenthesis and no blank. -/
def link? (cs : List Char) : Option (List Char × List Char × List Char) :=
  match cs.dropWhile (· ≠ ']') with
  | ']' :: '(' :: rest =>
    let inAddress := fun c => c ≠ ')' && !Text.isBlank c
    match rest.dropWhile inAddress with
    | ')' :: after => some (cs.takeWhile (· ≠ ']'), rest.takeWhile inAddress, after)
    | _ => none
  | _ => none

/-- A link is found where it is written. -/
theorem eq_of_link? {cs text address after : List Char}
    (h : link? cs = some (text, address, after)) :
    cs = text ++ ']' :: '(' :: (address ++ ')' :: after) := by
  unfold link? at h
  split at h
  · next rest hrest =>
    simp only at h
    split at h
    · next a ha =>
      simp only [Option.some.injEq, Prod.mk.injEq] at h
      obtain ⟨rfl, rfl, rfl⟩ := h
      rw [← ha, List.takeWhile_append_dropWhile, ← hrest, List.takeWhile_append_dropWhile]
    · simp at h
  · simp at h

/-- A link leaves less to read than it was found in. -/
theorem length_lt_of_link? {cs text address after : List Char}
    (h : link? cs = some (text, address, after)) : after.length < cs.length := by
  rw [eq_of_link? h]
  simp only [List.length_append, List.length_cons]
  omega

/-- A text with every link written as its text and its address in parentheses. -/
def unlink : List Char → List Char
  | [] => []
  | c :: cs =>
    if c = '[' then
      match h : link? cs with
      | some (text, address, after) =>
        have := length_lt_of_link? h
        text ++ ' ' :: '(' :: address ++ ')' :: unlink after
      | none => c :: unlink cs
    else c :: unlink cs
termination_by cs => cs.length
decreasing_by all_goals simp only [List.length_cons]; omega

/-! ### Marks -/

/-- A text without the marks of code and of strong emphasis. -/
def unmark : List Char → List Char
  | '\x60' :: cs => unmark cs
  | '*' :: '*' :: cs => unmark cs
  | '_' :: '_' :: cs => unmark cs
  | c :: cs => c :: unmark cs
  | [] => []

/-- The characters that a backslash can escape. -/
def escapable : List Char :=
  ['\x5c', '\x60', '*', '_', '\x7b', '\x7d', '[', ']', '(', ')', '#', '+', '-', '.', '!', '<', '>']

/-- A text without the backslashes that escape a character. -/
def unescape : List Char → List Char
  | '\x5c' :: c :: cs => if c ∈ escapable then c :: unescape cs else '\x5c' :: unescape (c :: cs)
  | c :: cs => c :: unescape cs
  | [] => []

/-- A text without brackets. -/
def unbracket (cs : List Char) : List Char := cs.filter fun c => c ≠ '[' && c ≠ ']'

/-- A markdown text as plain text. -/
def toPlain (text : String) : String :=
  String.ofList (unbracket (unescape (unmark (unlink text.toList))))

end StyleLens.Markdown
