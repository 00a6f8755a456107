import AlertRelay.Text.Percent
import AlertRelay.Web.Domain

/-!
Which texts name a host in a web address.

`isHost` accepts an address in square brackets, and otherwise a name.  In an ordinary web
scheme the name may be percent-encoded and may use any script; a name whose last label is a
number has to be a network address of four parts at most.
-/

namespace AlertRelay.Web

open AlertRelay.Text

/-- Characters that no host name may hold. -/
def isForbiddenInHost (c : Char) : Bool :=
  c == '\x00' || c == '\t' || c == '\n' || c == '\r' || c == ' ' || c == '#' || c == '/' ||
    c == ':' || c == '<' || c == '>' || c == '?' || c == '@' || c == '[' || c == '\\' ||
    c == ']' || c == '^' || c == '|'

/-- Characters that no domain name may hold once it is decoded. -/
def isForbiddenInDomain (c : Char) : Bool :=
  isForbiddenInHost c || c.toNat ≤ 0x1F || c == '%' || c == '\x7F'

/-- The value of up to four digits in base sixteen, and the rest. -/
def takeHexGroup : Nat → List Char → Nat → Nat × Nat × List Char
  | 0, cs, n => (n, 0, cs)
  | _ + 1, [], n => (n, 0, [])
  | more + 1, c :: cs, n =>
    if isHexDigit c then
      let (value, count, rest) := takeHexGroup more cs (n * 16 + Numeral.digitValue c)
      (value, count + 1, rest)
    else (n, 0, c :: cs)

/-- Whether a text is a decimal number from 0 to 255 without needless zeros. -/
def isOctet (cs : List Char) : Bool :=
  !cs.isEmpty && cs.all Numeral.isDigit && cs.length ≤ 3 && Numeral.natOf 10 cs ≤ 255 &&
    (cs.length == 1 || cs.head? != some '0')

/-- Whether a text is four octets with points between them. -/
def isDottedQuad (cs : List Char) : Bool :=
  let parts := splitAt '.' cs
  parts.length == 4 && parts.all isOctet

/-- Whether the groups of an address can be read from here on: `groups` pairs of bytes are
already there, and `gap` tells whether a run of zeros was left out. -/
def isGroupedFrom : Nat → Nat → Bool → List Char → Bool
  | 0, _, _, _ => false
  | fuel + 1, groups, gap, cs =>
    match cs with
    | [] => groups == 8 || (gap && groups < 8)
    | ':' :: rest =>
      !gap && groups < 8 && isGroupedFrom fuel (groups + 1) true rest
    | _ =>
      let (_, count, rest) := takeHexGroup 4 cs 0
      if 8 ≤ groups then false
      else
        match rest with
        | '.' :: _ => isDottedQuad cs && (groups == 6 || (gap && groups ≤ 6))
        | ':' :: more =>
          count != 0 && !more.isEmpty && isGroupedFrom fuel (groups + 1) gap more
        | [] => count != 0 && isGroupedFrom fuel (groups + 1) gap []
        | _ => false

/-- Whether a text is an address of eight groups, a run of zero groups written `::`. -/
def isGroupedAddress (cs : List Char) : Bool :=
  match cs with
  | ':' :: ':' :: rest => isGroupedFrom (cs.length + 1) 1 true rest
  | ':' :: _ => false
  | [] => false
  | _ => isGroupedFrom (cs.length + 1) 0 false cs

/-- The value of a part of a network address: decimal, octal after `0`, hexadecimal after
`0x`. -/
def addressPart? (cs : List Char) : Option Nat :=
  match cs with
  | [] => none
  | '0' :: x :: digits =>
    if x = 'x' ∨ x = 'X' then
      if digits.all isHexDigit then some (Numeral.natOf 16 digits) else none
    else if (x :: digits).all fun c => '0' ≤ c && c ≤ '7' then
      some (Numeral.natOf 8 (x :: digits))
    else none
  | _ => if cs.all Numeral.isDigit then some (Numeral.natOf 10 cs) else none

/-- The labels of a domain, without an empty one at its end. -/
def labels (cs : List Char) : List (List Char) :=
  let parts := splitAt '.' cs
  match parts.reverse with
  | [] :: rest@(_ :: _) => rest.reverse
  | _ => parts

/-- Whether the last label of a domain is a number. -/
def endsInNumber (cs : List Char) : Bool :=
  match (labels cs).getLast? with
  | some last =>
    (!last.isEmpty && last.all Numeral.isDigit) || (addressPart? last).isSome
  | none => false

/-- Whether a text is a network address of up to four numbers: all but the last are below
256, and the last fills the bytes that are left. -/
def isNumericAddress (cs : List Char) : Bool :=
  let parts := labels cs
  parts.length ≤ 4 &&
    match parts.mapM addressPart? with
    | none => false
    | some values =>
      values.dropLast.all (· ≤ 255) &&
        match values.getLast? with
        | some last => last < Nat.pow 256 (5 - values.length)
        | none => false

/-- Whether a text without percent signs names a host of an ordinary web scheme. -/
def isDomainName (cs : List Char) : Bool :=
  match commonForm? cs with
  | none => false
  | some name =>
    !name.isEmpty && !name.any isForbiddenInDomain && (splitAt '.' name).all isLabel &&
      (!endsInNumber name || isNumericAddress name)

/-- Whether a percent-encoded text names a host of an ordinary web scheme. -/
def isDomain (cs : List Char) : Bool :=
  (strictUtf8? (percentDecode cs)).any isDomainName

/-- Whether a text names a host. -/
def isHost (special : Bool) (cs : List Char) : Bool :=
  match cs with
  | '[' :: inner => inner.getLast? == some ']' && isGroupedAddress inner.dropLast
  | _ => if special then isDomain cs else !cs.any isForbiddenInHost

example : isHost true "errors.example.com".toList := by decide +kernel

example : isHost true "[::1]".toList := by decide +kernel

example : isHost true "[2001:db8::ff00:42:8329]".toList := by decide +kernel

example : isHost true "1.2.3.256".toList = false := by decide +kernel

example : isHost true "a%2fb".toList = false := by decide +kernel

end AlertRelay.Web
