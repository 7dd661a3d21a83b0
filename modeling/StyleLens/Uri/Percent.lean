import StyleLens.Text.Basic

/-!
# Percent encoding

A part of a URI writes some characters by the bytes of their UTF-8 form, each
byte as a percent sign and two hexadecimal digits: controls, all that is not
ASCII, and the characters that would end the part (`encode`). A percent sign
stays as it is, so that what is written so already is not written so again.
-/

namespace StyleLens.Percent

/-- The hexadecimal digit for a number below 16. -/
def digit (n : Nat) : Char := if n < 10 then Char.ofNat (0x30 + n) else Char.ofNat (0x37 + n)

/-- A byte as a percent sign and two digits. -/
def encodeByte (b : UInt8) : List Char := ['%', digit (b.toNat / 16), digit (b.toNat % 16)]

/-- Whether a character is written by its bytes where `reserved` are not allowed. -/
def isEncoded (reserved : List Char) (c : Char) : Bool :=
  c.toNat < 0x20 || 0x7F ≤ c.toNat || reserved.contains c

/-- A text as it is written where `reserved` are not allowed. -/
def encode (reserved cs : List Char) : List Char :=
  cs.flatMap fun c =>
    if isEncoded reserved c then (String.utf8EncodeChar c).flatMap encodeByte else [c]

/-- The bytes that a text is written for. A percent sign without two digits after
    it stands for itself. -/
def decode : List Char → List UInt8
  | '%' :: a :: b :: rest =>
    match Text.hexDigit? a, Text.hexDigit? b with
    | some x, some y => .ofNat (x * 16 + y) :: decode rest
    | _, _ => String.utf8EncodeChar '%' ++ decode (a :: b :: rest)
  | c :: rest => String.utf8EncodeChar c ++ decode rest
  | [] => []

/-- The text that a text is written for, if its bytes are text. -/
def decodeText? (cs : List Char) : Option (List Char) :=
  (String.fromUTF8? ⟨(decode cs).toArray⟩).map String.toList

/-! ### The parts of a URI -/

/-- What a fragment does not have. -/
def fragment : List Char := [' ', '\x22', '<', '>', '\x60']

/-- What a path does not have. -/
def path : List Char := fragment ++ ['#', '?', '\x7b', '\x7d']

/-- What a user name and a password do not have. -/
def credentials : List Char := path ++ ['/', ':', ';', '=', '@', '[', '\x5c', ']', '^', '|']

/-- What a query does not have. -/
def query : List Char := [' ', '\x22', '#', '<', '>']

end StyleLens.Percent
