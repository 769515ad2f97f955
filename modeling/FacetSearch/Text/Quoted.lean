import FacetSearch.Text.Code
import FacetSearch.Text.Visible
/-!
# Quoted text

Messages show a text between quotes: single ones, or double ones when the text holds a single quote
and no double quote. A backslash, the enclosing quote, line ends and tabs are escaped by a letter,
other characters that are not visible by their code in two, four or eight hexadecimal digits.
Bytes are shown in the same way after a `b`.
-/

namespace FacetSearch.Text

/-- A hexadecimal digit in lower case. -/
def hexDigit (n : Nat) : Char := Nat.digitChar (n % 16)

/-- The last `width` hexadecimal digits of a number. -/
def hexDigits : Nat → Nat → List Char
  | 0, _ => []
  | width + 1, n => hexDigits width (n / 16) ++ [hexDigit n]

/-- The quote that encloses a text. -/
def enclosing (cs : List Char) : Char :=
  if cs.contains '\'' && !cs.contains '"' then '"' else '\''

/-- The escape of a character by its code. -/
def escapeCode (c : Char) : List Char :=
  if code c < 0x100 then '\\' :: 'x' :: hexDigits 2 (code c)
  else if code c < 0x10000 then '\\' :: 'u' :: hexDigits 4 (code c)
  else '\\' :: 'U' :: hexDigits 8 (code c)

/-- One character of a quoted text. -/
def quoteChar (quote c : Char) : List Char :=
  if c = '\\' ∨ c = quote then ['\\', c]
  else if c = '\n' then ['\\', 'n']
  else if c = '\r' then ['\\', 'r']
  else if c = '\t' then ['\\', 't']
  else if isVisible c then [c]
  else escapeCode c

/-- A text between quotes. -/
def quoted (s : String) : String :=
  let q := enclosing s.toList
  String.ofList (q :: s.toList.flatMap (quoteChar q) ++ [q])

/-- One byte of quoted bytes: beyond ASCII always by its code. -/
def quoteByte (quote : Char) (b : UInt8) : List Char :=
  if b.toNat < 128 then quoteChar quote (Char.ofNat b.toNat) else '\\' :: 'x' :: hexDigits 2 b.toNat

/-- Bytes between quotes. -/
def quotedBytes (bytes : List UInt8) : String :=
  let q := enclosing (bytes.map fun b => Char.ofNat b.toNat)
  String.ofList ('b' :: q :: bytes.flatMap (quoteByte q) ++ [q])

end FacetSearch.Text
