import StyleLens.Uri.Address
import StyleLens.Uri.Domain.Basic
import StyleLens.Uri.Percent

/-!
# Hosts

The host of a URI is a numeric address or a name. With a scheme of the web it is
a domain name; with any other scheme it is a name that stays as it is.
-/

namespace StyleLens

/-- The host of a URI. -/
inductive Host where
  | name (text : String)
  /-- An address of four bytes. -/
  | ipv4 (address : Nat)
  /-- An address of eight groups. -/
  | ipv6 (groups : List Nat)
  deriving DecidableEq

namespace Host

/-- A host as it is written. -/
def render : Host → String
  | name text => text
  | ipv4 address => Address.renderIPv4 address
  | ipv6 groups => "[" ++ Address.renderIPv6 groups ++ "]"

/-- The address that a text in brackets stands for. -/
def ofBrackets? (text : List Char) : Option Host :=
  match text.reverse with
  | ']' :: rest => (Address.ofIPv6? rest.reverse).map ipv6
  | _ => none

/-- The host that a text stands for with a scheme of the web. -/
def ofDomain? : List Char → Option Host
  | '[' :: rest => ofBrackets? rest
  | text => do
    let domain ← Domain.toAscii? (← Percent.decodeText? text)
    if domain = [] then none
    else if Address.endsInNumber domain then (Address.ofIPv4? domain).map ipv4
    else some (name (String.ofList domain))

/-- The characters that no host has. -/
def forbidden : List Char :=
  ['\x00', '\t', '\n', '\r', ' ', '#', '/', ':', '<', '>', '?', '@', '[', '\x5c', ']', '^', '|']

/-- The host that a text stands for with a scheme that is not of the web. -/
def ofPlain? : List Char → Option Host
  | '[' :: rest => ofBrackets? rest
  | text =>
    if text.any forbidden.contains then none
    else some (name (String.ofList (Percent.encode [] text)))

end Host

end StyleLens
