import StyleLens.Text.Basic

/-!
# JSON tokens

The lexical part of reading JSON: a text is cut into tokens by a machine that
goes along it one character at a time (`Lexer.step`). It is strict: only the
four blanks of JSON stand between tokens, a number has no leading zero, and a
string holds no raw control character.
-/

namespace StyleLens.Json

/-- A token of JSON. A broken string is a token without text. -/
inductive Token where
  | openObject
  | closeObject
  | openArray
  | closeArray
  | colon
  | comma
  | null
  | bool (value : Bool)
  | number (literal : String)
  | string (text : Option String)

/-! ### Strings -/

/-- What a string is written with: a character, or an escape that names a
    UTF-16 code unit. -/
inductive Piece where
  | char (c : Char)
  | unit (code : Nat)

/-- Whether a code unit is the first half of a surrogate pair. -/
def isHigh (code : Nat) : Bool := 0xD800 ≤ code && code ≤ 0xDBFF

/-- Whether a code unit is the second half of a surrogate pair. -/
def isLow (code : Nat) : Bool := 0xDC00 ≤ code && code ≤ 0xDFFF

/-- The characters of the pieces of a string, unless half of a surrogate pair
    stands alone. -/
def assemble? : List Piece → Option (List Char)
  | [] => some []
  | .char c :: rest => (assemble? rest).map (c :: ·)
  | .unit high :: .unit low :: rest =>
    if isHigh high then
      if isLow low then
        (assemble? rest).map (Char.ofNat (0x10000 + (high - 0xD800) * 0x400 + (low - 0xDC00)) :: ·)
      else none
    else if isLow high then none
    else (assemble? (.unit low :: rest)).map (Char.ofNat high :: ·)
  | .unit code :: rest =>
    if isHigh code || isLow code then none else (assemble? rest).map (Char.ofNat code :: ·)

/-- The character that a one-letter escape names. -/
def escaped? (c : Char) : Option Char :=
  match c with
  | '\x22' => some '\x22'
  | '\x5c' => some '\x5c'
  | '/' => some '/'
  | 'b' => some '\x08'
  | 'f' => some '\x0c'
  | 'n' => some '\n'
  | 'r' => some '\r'
  | 't' => some '\t'
  | _ => none

/-! ### Numbers -/

/-- Whether a text is the exponent of a number, or nothing. -/
def isExponent : List Char → Bool
  | [] => true
  | e :: rest =>
    let digits := match rest with
      | '+' :: ds => ds
      | '-' :: ds => ds
      | ds => ds
    (e = 'e' || e = 'E') && !digits.isEmpty && digits.all Char.isDigit

/-- Whether a text is what can follow the whole part of a number. -/
def isFraction : List Char → Bool
  | '.' :: d :: rest => d.isDigit && isExponent (rest.dropWhile Char.isDigit)
  | rest => isExponent rest

/-- Whether a text is a number without a sign. -/
def isUnsigned : List Char → Bool
  | [] => false
  | '0' :: rest => isFraction rest
  | d :: rest => d.isDigit && isFraction (rest.dropWhile Char.isDigit)

/-- Whether a text is a number. -/
def isNumber : List Char → Bool
  | '-' :: rest => isUnsigned rest
  | rest => isUnsigned rest

/-! ### The machine -/

/-- What the machine is in the middle of. What it has read is held backwards. -/
inductive Mode where
  | between
  | word (read : List Char)
  | number (read : List Char)
  | string (read : List Piece)
  /-- After a backslash. -/
  | escape (read : List Piece)
  /-- After `\u`, with as many digits as are still to come. -/
  | hex (left : Nat) (code : Nat) (read : List Piece)

/-- The machine: what it is in the middle of, and the tokens so far, backwards. -/
structure Lexer where
  mode : Mode
  tokens : List Token

namespace Lexer

/-- The token of a word. -/
def word? (w : List Char) : Option Token :=
  if w = "null".toList then some .null
  else if w = "true".toList then some (.bool true)
  else if w = "false".toList then some (.bool false)
  else none

/-- The machine when a word or a number is over. -/
def flush? (m : Lexer) : Option Lexer :=
  match m.mode with
  | .word read => (word? read.reverse).map fun t => ⟨.between, t :: m.tokens⟩
  | .number read =>
    if isNumber read.reverse then some ⟨.between, .number (String.ofList read.reverse) :: m.tokens⟩
    else none
  | _ => some m

/-- Whether a character can go on a number. -/
def inNumber (c : Char) : Bool := c.isDigit || c ∈ ['+', '-', '.', 'e', 'E']

/-- One character between two tokens. -/
def start? (tokens : List Token) (c : Char) : Option Lexer :=
  match c with
  | ' ' | '\t' | '\n' | '\r' => some ⟨.between, tokens⟩
  | '\x7b' => some ⟨.between, .openObject :: tokens⟩
  | '\x7d' => some ⟨.between, .closeObject :: tokens⟩
  | '[' => some ⟨.between, .openArray :: tokens⟩
  | ']' => some ⟨.between, .closeArray :: tokens⟩
  | ':' => some ⟨.between, .colon :: tokens⟩
  | ',' => some ⟨.between, .comma :: tokens⟩
  | '\x22' => some ⟨.string [], tokens⟩
  | _ =>
    if c.isDigit || c = '-' then some ⟨.number [c], tokens⟩
    else if c.isLower then some ⟨.word [c], tokens⟩
    else none

/-- One character inside a string. -/
def inString? (tokens : List Token) (read : List Piece) (c : Char) : Option Lexer :=
  if c = '\x22' then
    some ⟨.between, .string ((assemble? read.reverse).map String.ofList) :: tokens⟩
  else if c = '\x5c' then some ⟨.escape read, tokens⟩
  else if c.toNat < 0x20 then none
  else some ⟨.string (.char c :: read), tokens⟩

/-- One more character. -/
def step (m : Lexer) (c : Char) : Option Lexer :=
  match m.mode with
  | .between => start? m.tokens c
  | .word read =>
    if c.isLower then some ⟨.word (c :: read), m.tokens⟩
    else m.flush?.bind fun m => start? m.tokens c
  | .number read =>
    if inNumber c then some ⟨.number (c :: read), m.tokens⟩
    else m.flush?.bind fun m => start? m.tokens c
  | .string read => inString? m.tokens read c
  | .escape read =>
    if c = 'u' then some ⟨.hex 4 0 read, m.tokens⟩
    else (escaped? c).map fun c => ⟨.string (.char c :: read), m.tokens⟩
  | .hex left code read =>
    (Text.hexDigit? c).map fun d =>
      if left ≤ 1 then ⟨.string (.unit (code * 16 + d) :: read), m.tokens⟩
      else ⟨.hex (left - 1) (code * 16 + d) read, m.tokens⟩

/-- The tokens of a text that is over. -/
def finish? (m : Lexer) : Option (List Token) :=
  m.flush?.bind fun m =>
    match m.mode with
    | .between => some m.tokens.reverse
    | _ => none

end Lexer

/-- The tokens of a text, if it has nothing else. -/
def tokens? (s : String) : Option (List Token) :=
  (s.toList.foldlM Lexer.step ⟨.between, []⟩).bind Lexer.finish?

end StyleLens.Json
