import AlertRelay.Text.Percent
import AlertRelay.Text.Blank

/-!
Queries as lists of named values.

`Form.read` splits a query at `&` and each piece at its first `=`, and `Form.text` writes
the pairs back in form encoding.  Names may repeat, and their order counts.
-/

namespace AlertRelay.Web

open AlertRelay.Text

/-- The named values of a query, in their order. -/
abbrev Form := List (List Char × List Char)

namespace Form

/-- A piece of a query: the text before its first `=` and the text after it. -/
def readPair (piece : List Char) : List Char × List Char :=
  (formDecode (piece.takeWhile (· != '=')),
    formDecode ((piece.dropWhile (· != '=')).drop 1))

/-- The pairs of a query; empty pieces count for nothing. -/
def read (query : List Char) : Form :=
  ((splitAt '&' query).filter (!·.isEmpty)).map readPair

/-- One pair in form encoding. -/
def pairText (p : List Char × List Char) : List Char :=
  formEncode p.1 ++ '=' :: formEncode p.2

/-- The pairs in form encoding. -/
def text : Form → List Char
  | [] => []
  | [p] => pairText p
  | p :: rest => pairText p ++ '&' :: text rest

/-- Gives the first pair of that name a value and drops the later ones. -/
def replace (name value : List Char) : Form → Form
  | [] => []
  | p :: rest =>
    if p.1 = name then (name, value) :: rest.filter (·.1 != name)
    else p :: replace name value rest

example : text (read "a=1&&b".toList) = "a=1&b=".toList := by decide +kernel

end Form

end AlertRelay.Web
