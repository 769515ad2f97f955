import FacetSearch.Json.Fault
import FacetSearch.Keyed
import FacetSearch.Number.Numeral
import FacetSearch.Text.Utf16
import FacetSearch.Value.Basic
/-!
# Reading JSON

`read` turns a JSON text into a value. Numerals without fraction and exponent are integers of any
size, others binary64 numbers; `NaN` and the infinities are read too. Of a key that is repeated the
last value counts, at the first place. Every step of the reader returns a rest that is shorter than
what it was given, which is why reading ends.
-/

namespace FacetSearch.Json

/-- What is left of a text after something was read from it. -/
abbrev Rest (s : List Char) := { r : List Char // r.length < s.length }

/-- A fault at the start of a rest. -/
def fail {α : Type} (kind : FaultKind) (rest : List Char) : Except Fault α := .error ⟨kind, rest.length⟩

/-- White space between the parts of a JSON text. -/
def isBlank (c : Char) : Bool := c == ' ' || c == '\t' || c == '\n' || c == '\r'

/-- The text without white space in front. -/
def skipBlank (s : List Char) : List Char := s.dropWhile isBlank

theorem length_skipBlank_le (s : List Char) : (skipBlank s).length ≤ s.length :=
  (List.dropWhile_sublist isBlank).length_le

/-- The value of a hexadecimal digit. -/
def hexValue? (c : Char) : Option Nat :=
  if '0' ≤ c ∧ c ≤ '9' then some (c.toNat - 48)
  else if 'a' ≤ c ∧ c ≤ 'f' then some (c.toNat - 87)
  else if 'A' ≤ c ∧ c ≤ 'F' then some (c.toNat - 55)
  else none

/-- The number that four hexadecimal digits in front of a text stand for. The text has to go on
behind them. -/
def hex4? (s : List Char) : Option Nat :=
  if s.length ≤ 4 then none
  else (s.take 4).foldl (fun n c => do return (← n) * 16 + (← hexValue? c)) (some 0)

/-- The character that an escape by code stands for and the length of the escape. `s` is what follows
the letter `u`. -/
def unicodeEscape (s : List Char) : Except Fault (Char × Nat) :=
  match hex4? s with
  | none => .error ⟨.unicodeEscape, s.length + 1⟩
  | some high =>
    if Utf16.isHigh high && 10 < s.length && (s.drop 4).take 2 == ['\\', 'u'] then
      match hex4? (s.drop 6) with
      | none => .error ⟨.unicodeEscape, s.length - 5⟩
      | some low =>
        if Utf16.isLow low then .ok (Utf16.pair high low, 11) else .ok (Text.ofCode high, 5)
    else .ok (Text.ofCode high, 5)

/-- The character that a letter after a backslash stands for. -/
def letterEscape? : Char → Option Char
  | '"' => some '"'
  | '\\' => some '\\'
  | '/' => some '/'
  | 'b' => some '\x08'
  | 'f' => some '\x0c'
  | 'n' => some '\n'
  | 'r' => some '\r'
  | 't' => some '\t'
  | _ => none

/-- The characters of a text up to the closing quote, and what follows the quote. `opening` is the
number of characters from the opening quote to the end. -/
def stringBody (opening : Nat) (s : List Char) : Except Fault (List Char × Rest s) :=
  match s with
  | [] => .error ⟨.unterminated, opening⟩
  | '"' :: r => .ok ([], ⟨r, by simp⟩)
  | '\\' :: [] => .error ⟨.unterminated, opening⟩
  | '\\' :: 'u' :: r => do
    let (c, width) ← unicodeEscape r
    let (cs, ⟨rest, h⟩) ← stringBody opening (r.drop (width - 1))
    return (c :: cs, ⟨rest, by have := List.length_drop (i := width - 1) (l := r); simp; omega⟩)
  | '\\' :: e :: r =>
    match letterEscape? e with
    | none => fail .escape ('\\' :: e :: r)
    | some c => do
      let (cs, ⟨rest, h⟩) ← stringBody opening r
      return (c :: cs, ⟨rest, by simp; omega⟩)
  | c :: r =>
    if c.toNat < 32 then fail .controlCharacter (c :: r)
    else do
      let (cs, ⟨rest, h⟩) ← stringBody opening r
      return (c :: cs, ⟨rest, by simp; omega⟩)
  termination_by s.length
  decreasing_by all_goals (simp; try omega)

/-- An ASCII digit. -/
def isDigit (c : Char) : Bool := '0' ≤ c && c ≤ '9'

/-- The digits in front of the point of a numeral; a zero in front stands alone. -/
def wholeDigits : List Char → List Char
  | '0' :: _ => ['0']
  | s => s.takeWhile isDigit

/-- The point and the digits behind it, if there is a digit. -/
def fractionPart : List Char → List Char
  | '.' :: s => if (s.takeWhile isDigit).isEmpty then [] else '.' :: s.takeWhile isDigit
  | _ => []

/-- The sign in front of an exponent. -/
def signPart : List Char → List Char
  | '+' :: _ => ['+']
  | '-' :: _ => ['-']
  | _ => []

/-- The exponent of a numeral, if there is a digit in it. -/
def exponentPart : List Char → List Char
  | e :: s =>
    let sign := signPart s
    let digits := (s.drop sign.length).takeWhile isDigit
    if (e == 'e' || e == 'E') && !digits.isEmpty then e :: sign ++ digits else []
  | [] => []

/-- An integer with a sign and digits. A minus in front of zero is dropped. -/
def integer (negative : Bool) (digits : List Char) : Except Fault Value :=
  if Numeral.maxDigits < digits.length then .error ⟨.digits digits.length, 0⟩
  else
    let n : Int := Numeral.ofDigits (digits.map fun c => c.toNat - 48)
    .ok (.int (if negative then -n else n))

/-- A number. -/
def number (s : List Char) : Except Fault (Value × Rest s) := do
  let sign := if s.head? = some '-' then ['-'] else []
  let whole := wholeDigits (s.drop sign.length)
  if hw : whole.length = 0 then fail .value s
  else
    let fraction := fractionPart (s.drop (sign.length + whole.length))
    let exponent := exponentPart (s.drop (sign.length + whole.length + fraction.length))
    let width := sign.length + whole.length + fraction.length + exponent.length
    if hs : s.length = 0 then fail .value s
    else
      let rest : Rest s := ⟨s.drop width, by simp only [List.length_drop]; omega⟩
      if fraction.isEmpty && exponent.isEmpty then return (← integer (!sign.isEmpty) whole, rest)
      else (Numeral.double? (s.take width)).elim (fail .value s) fun d => .ok (.float d, rest)

/-- Words with the values that they stand for. -/
def words : List (String × Value) :=
  [("null", .null), ("true", .bool true), ("false", .bool false), ("NaN", .float (.nan 0)),
    ("Infinity", .float (.infinite false)), ("-Infinity", .float (.infinite true))]

/-- The word in front of a text with its value. -/
def word? (s : List Char) : Option (String × Value) := words.find? fun w => w.1.toList.isPrefixOf s

/-- A word or a number. -/
def scalar (s : List Char) : Except Fault (Value × Rest s) :=
  match word? s with
  | none => number s
  | some (w, v) =>
    if h : w.length = 0 ∨ s.length = 0 then fail .value s
    else .ok (v, ⟨s.drop w.length, by simp only [List.length_drop]; omega⟩)

/-- An object of entries of which the last with a key counts. -/
def objectOf (entries : List (String × Value)) : Value :=
  .object ((Keyed.ofList entries).map fun (k, v) => (.text k, v))

mutual

/-- A value in front of a text, with at most so many brackets within each other. -/
def value (depth : Nat) (s : List Char) : Except Fault (Value × Rest s) :=
  match s with
  | '"' :: r => do
    let (cs, ⟨rest, h⟩) ← stringBody (r.length + 1) r
    return (.text (String.ofList cs), ⟨rest, by simp; omega⟩)
  | '\x7b' :: r =>
    have hb := length_skipBlank_le r
    if depth = 0 then fail .depth s
    else match hr : skipBlank r with
    | '\x7d' :: rest => .ok (.object [], ⟨rest, by rw [hr] at hb; simp at hb ⊢; omega⟩)
    | r' => do
      let (entries, ⟨rest, h⟩) ← members (depth - 1) r'
      return (objectOf entries, ⟨rest, by rw [hr] at hb; simp; omega⟩)
  | '[' :: r =>
    have hb := length_skipBlank_le r
    if depth = 0 then fail .depth s
    else match hr : skipBlank r with
    | ']' :: rest => .ok (.list [], ⟨rest, by rw [hr] at hb; simp at hb ⊢; omega⟩)
    | r' => do
      let (vs, ⟨rest, h⟩) ← elements (depth - 1) r'
      return (.list vs, ⟨rest, by rw [hr] at hb; simp; omega⟩)
  | s => scalar s
  termination_by (s.length, 0)
  decreasing_by all_goals (rw [hr] at hb; apply Prod.Lex.left; simp; omega)

/-- The members of a list up to its closing bracket; there is at least one. -/
def elements (depth : Nat) (s : List Char) : Except Fault (List Value × Rest s) := do
  let (v, ⟨rest, h⟩) ← value depth s
  have hb := length_skipBlank_le rest
  match hr : skipBlank rest with
  | ']' :: rest' => return ([v], ⟨rest', by rw [hr] at hb; simp at hb; omega⟩)
  | ',' :: rest' =>
    have hb' := length_skipBlank_le rest'
    let (vs, ⟨rest'', h'⟩) ← elements depth (skipBlank rest')
    return (v :: vs, ⟨rest'', by rw [hr] at hb; simp at hb; omega⟩)
  | rest' => fail .comma rest'
  termination_by (s.length, 1)
  decreasing_by
    · apply Prod.Lex.right; omega
    · rw [hr] at hb; apply Prod.Lex.left; simp at hb; omega

/-- The entries of an object up to its closing bracket; there is at least one. -/
def members (depth : Nat) (s : List Char) : Except Fault (List (String × Value) × Rest s) :=
  match s with
  | '"' :: r => do
    let (key, ⟨afterKey, hk⟩) ← stringBody (r.length + 1) r
    have hbk := length_skipBlank_le afterKey
    match hc : skipBlank afterKey with
    | ':' :: afterColon =>
      have hbc := length_skipBlank_le afterColon
      let (v, ⟨rest, hv⟩) ← value depth (skipBlank afterColon)
      have hb := length_skipBlank_le rest
      match hr : skipBlank rest with
      | '\x7d' :: rest' =>
        return ([(String.ofList key, v)], ⟨rest', by
          rw [hr] at hb; rw [hc] at hbk; simp at hb hbk ⊢; omega⟩)
      | ',' :: rest' =>
        have hb' := length_skipBlank_le rest'
        let (entries, ⟨rest'', h'⟩) ← members depth (skipBlank rest')
        return ((String.ofList key, v) :: entries, ⟨rest'', by
          rw [hr] at hb; rw [hc] at hbk; simp at hb hbk ⊢; omega⟩)
      | rest' => fail .comma rest'
    | rest => fail .colon rest
  | s => fail .propertyName s
  termination_by (s.length, 1)
  decreasing_by
    · rw [hc] at hbk; apply Prod.Lex.left; simp at hbk ⊢; omega
    · rw [hr] at hb; rw [hc] at hbk; apply Prod.Lex.left; simp at hb hbk ⊢; omega

end

/-- The value of a JSON text. -/
def read (text : List Char) : Except Fault Value := do
  let (v, ⟨rest, _⟩) ← value maxDepth (skipBlank text)
  match skipBlank rest with
  | [] => return v
  | rest => fail .extraData rest

/-- The value of a JSON text that has to begin without a byte order mark. -/
def readUnmarked (text : List Char) : Except Fault Value :=
  if text.head? = some '\ufeff' then fail .byteOrderMark text else read text

end FacetSearch.Json
