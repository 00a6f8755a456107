import AlertRelay.Text.Blank

/-!
Media types as headers name them.

A media type is a type and a subtype with a slash between them, and may have parameters after
it.  `mediaType?` gives the type without its parameters, in lower case, if all of it is well
formed.
-/

namespace AlertRelay.Web

open AlertRelay.Text

/-- Characters of types and subtypes. -/
def isTypeChar (c : Char) : Bool :=
  c.isAlphanum || "!#$%&'*+.^_|~-".toList.contains c

/-- Characters of parameters that are not quoted. -/
def isParameterChar (c : Char) : Bool :=
  isTypeChar c || c == '\x60'

/-- Characters that stand for themselves between quotes. -/
def isQuotable (c : Char) : Bool :=
  (c == '\x0b' || (' ' ≤ c && c ≤ '~') || ('\x80' ≤ c && c ≤ 'ÿ')) && c != '\x22' && c != '\\'

/-- Characters that may stand behind a backslash between quotes. -/
def isEscapable (c : Char) : Bool :=
  c == '\x0b' || (' ' ≤ c && c ≤ 'ÿ')

/-- Where in the parameters of a media type a reader is: behind a parameter, before or in a
name, before or in a value, or in a quoted value, possibly behind a backslash. -/
inductive ParameterPlace where
  | behind
  | beforeName
  | name
  | beforeValue
  | value
  | quoted
  | escaped
deriving DecidableEq, Repr

namespace ParameterPlace

/-- Where a reader is after one more character, if that can stand there. -/
def next? (p : ParameterPlace) (c : Char) : Option ParameterPlace :=
  match p with
  | .behind => if c = ';' then some beforeName else if c = ' ' then some behind else none
  | .beforeName => if c = ' ' then some beforeName else if isParameterChar c then some name else none
  | .name => if c = '=' then some beforeValue else if isParameterChar c then some name else none
  | .beforeValue =>
    if c = '\x22' then some quoted else if isParameterChar c then some value else none
  | .value =>
    if c = ';' then some beforeName
    else if c = ' ' then some behind
    else if isParameterChar c then some value
    else none
  | .quoted =>
    if c = '\x22' then some behind
    else if c = '\\' then some escaped
    else if isQuotable c then some quoted
    else none
  | .escaped => if isEscapable c then some quoted else none

/-- Whether the parameters may end there. -/
def mayEnd (p : ParameterPlace) : Bool :=
  p == .behind || p == .value

end ParameterPlace

/-- Whether a text is a list of parameters. -/
def areParameters (cs : List Char) : Bool :=
  (cs.foldlM ParameterPlace.next? .behind).any ParameterPlace.mayEnd

/-- Whether a text is a type and a subtype. -/
def isTypeName (cs : List Char) : Bool :=
  match splitAt '/' cs with
  | [type, subtype] =>
    !type.isEmpty && type.all isTypeChar && !subtype.isEmpty && subtype.all isTypeChar
  | _ => false

/-- The media type that a header names, without its parameters and in lower case. -/
def mediaType? (header : List Char) : Option (List Char) :=
  let type := trimBy isBlank (header.takeWhile (· != ';'))
  if isTypeName type && areParameters (header.dropWhile (· != ';')) then
    some (type.map Char.toLower)
  else none

example : mediaType? "Text/Plain; charset=\"a;b\"".toList = some "text/plain".toList := by
  decide +kernel

example : mediaType? "text/plain;".toList = none := by decide +kernel

end AlertRelay.Web
