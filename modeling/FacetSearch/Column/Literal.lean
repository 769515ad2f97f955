import FacetSearch.Error
import FacetSearch.Time.IsoText
import FacetSearch.Time.SlashedText
import FacetSearch.Value.Numeral
/-!
# Literals of columns

`ColumnType.literal?` turns a value into the form in which it is bound for a column of the type, if it
has one: an identifier, a text, an integer in the range of the type, a finite number or a timestamp.
Columns that hold arrays have no literals. `ColumnType.coerce` says why a value is refused.
-/

namespace FacetSearch.ColumnType

/-- The least and greatest integer of an integer type. -/
def intRange? : ColumnType → Option (Int × Int)
  | integer => some (-2147483648, 2147483647)
  | bigint => some (-9223372036854775808, 9223372036854775807)
  | oid => some (0, 4294967295)
  | _ => none

/-- The integer that a value stands for: itself, a number without fraction, or a text of digits with
an optional sign. A boolean is not an integer. -/
def intOf? : Value → Option Int
  | .bool _ => none
  | .int n => some n
  | .float d => d.int?
  | v => Numeral.plainInt? (Text.stripChars v.plain.toList)

/-- The integer that a value stands for, if it is in range. -/
def intWithin? (range : Int × Int) (v : Value) : Option Int :=
  (intOf? v).filter fun n => range.1 ≤ n && n ≤ range.2

/-- The binary64 number that a value stands for, finite or not. A boolean is not a number. -/
def doubleOf? : Value → Option Double
  | .int n => Double.ofInt? n
  | .text s => Numeral.double? (Text.stripChars s.toList)
  | v => v.double?

/-- The timestamp that a value stands for; a date is its first moment. -/
def timestampOf? : Value → Option Timestamp
  | .timestamp t => some t
  | .date d => some (.ofDate d)
  | .text s =>
    let cs := Text.stripChars s.toList
    Timestamp.ofIso? cs <|> Timestamp.ofSlashed? cs
  | _ => none

/-- The text that a value stands for, unless it holds other values or cannot be written. -/
def textOf? : Value → Option String
  | .object _ | .list _ | .tuple _ | .bytes _ => none
  | v => if v.isWritable then some v.plain else none

/-- The identifier that a value is or spells. -/
def uuidOf? : Value → Option Uuid
  | .uuid u => some u
  | v => (Uuid.parse v.plain).toOption

/-- The value that is bound for a literal of the type. -/
def literal? : ColumnType → Value → Option Value
  | _, .null => none
  | array, _ => none
  | string, v => (textOf? v).map .text
  | uuid, v => (uuidOf? v).map .uuid
  | double, v => ((doubleOf? v).filter Double.isFinite).map .float
  | timestamp, v => (timestampOf? v).map .timestamp
  | t@integer, v => (t.intRange?.bind fun r => intWithin? r v).map .int
  | t@bigint, v => (t.intRange?.bind fun r => intWithin? r v).map .int
  | t@oid, v => (t.intRange?.bind fun r => intWithin? r v).map .int

/-- The error of a value that is no literal of the type. The words for it hold the value, which has to be
one that can be written. -/
def mismatch (type : ColumnType) (v : Value) (column : Option Value) : Error :=
  if v.isWritable then .typeMismatch (.literal v type column) else .value .integerText

/-- The value that is bound for a literal, or why there is none. An error names the column unless its name
is empty. -/
def coerce (type : ColumnType) (v : Value) (column : Option Value) : Except Error Value :=
  match type.literal? v with
  | some bound => .ok bound
  | none =>
    let column := column.filter Value.isTruthy
    if type = array ∧ !v.isNull then .error (.typeMismatch (.uncomparable type column))
    else .error (mismatch type v column)

end FacetSearch.ColumnType
