import FacetSearch.Error
/-!
# Faults of JSON texts

Why a text is not JSON. A fault is worded with the place where reading stopped, by line, column and
characters from the start; a numeral with too many digits is worded without a place. Brackets within
more brackets than `maxDepth` are not read; whoever asks for the text then fails without words.
-/

namespace FacetSearch.Json

/-- What was expected or found where reading stopped. -/
inductive FaultKind where
  | value
  | propertyName
  | colon
  | comma
  | controlCharacter
  | unterminated
  | escape
  | unicodeEscape
  | extraData
  | byteOrderMark
  | digits (count : Nat)
  | depth
  deriving DecidableEq

/-- A fault and the number of characters from its place to the end of the text. -/
structure Fault where
  kind : FaultKind
  remaining : Nat
  deriving DecidableEq

/-- How many brackets may stand around a value. -/
def maxDepth : Nat := 980

/-- The words for a kind. -/
def FaultKind.message : FaultKind → String
  | value => "Expecting value"
  | propertyName => "Expecting property name enclosed in double quotes"
  | colon => "Expecting ':' delimiter"
  | comma => "Expecting ',' delimiter"
  | controlCharacter => "Invalid control character at"
  | unterminated => "Unterminated string starting at"
  | escape => "Invalid \\escape"
  | unicodeEscape => "Invalid \\uXXXX escape"
  | extraData => "Extra data"
  | byteOrderMark => "Unexpected UTF-8 BOM (decode using utf-8-sig)"
  | digits n => (ValueFault.integerDigits n).message
  | depth => "Too many brackets"

/-- The words for a place, which is at the end of the characters. -/
def placeText (before : List Char) : String :=
  let line := before.count '\n' + 1
  let column := (before.reverse.takeWhile (· ≠ '\n')).length + 1
  ": line " ++ toString line ++ " column " ++ toString column ++
    " (char " ++ toString before.length ++ ")"

/-- The words for a fault of a text. -/
def Fault.message (f : Fault) (text : List Char) : String :=
  match f.kind with
  | .digits _ => f.kind.message
  | kind => kind.message ++ placeText (text.take (text.length - f.remaining))

/-- The failure of whoever asks for a text that is not read, if the fault is not worded. -/
def Fault.failure? (f : Fault) : Option Error := if f.kind = .depth then some (.failure .depth) else none

end FacetSearch.Json
