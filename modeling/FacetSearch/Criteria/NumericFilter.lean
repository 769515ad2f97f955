import FacetSearch.Error
import FacetSearch.Text.Code
/-!
# Numeric filters

A row matches a numeric filter if its value lies in the window around one of the centres: between the
centre plus `lower` and the centre plus `upper`. A filter that is given in this form is not looked at
before it is used, so that its parts may be of any kind.
-/

namespace FacetSearch

/-- The sum of two numbers, which overflows if one of them is an integer that is too large for binary64
and the other is none; two texts, or two runs of bytes, are put one behind the other. -/
def Value.sum (a b : Value) : Except Error Value :=
  match a, b with
  | .text s, .text t => .ok (.text (s ++ t))
  | .bytes s, .bytes t => .ok (.bytes (s ++ t))
  | a, b =>
    match a.number?, b.number? with
    | some m, some n => ((m.add? n).map Value.ofNumber).elim (.error (.failure .overflow)) .ok
    | _, _ => .error (.failure .wrongType)

/-- The first of two numbers, texts or runs of bytes is greater. -/
def Value.isGreater (a b : Value) : Except Error Bool :=
  match a, b with
  | .text s, .text t => .ok (Text.before t s)
  | .bytes s, .bytes t => .ok (t < s)
  | a, b =>
    match a.number?, b.number? with
    | some m, some n => .ok (m.gt n)
    | _, _ => .error (.failure .wrongType)

/-- Centres, and what is added to each of them for the ends of its window. -/
structure NumericFilter where
  centres : List Value
  lower : Value
  upper : Value

namespace NumericFilter

/-- The window around a centre. -/
def window (f : NumericFilter) (centre : Value) : Except Error (Value × Value) := do
  return (← centre.sum f.lower, ← centre.sum f.upper)

/-- The windows around all centres, in their order. -/
def windows (f : NumericFilter) : Except Error (List (Value × Value)) := f.centres.mapM f.window

/-- The filter as a value. -/
def toValue (f : NumericFilter) : Value := .filter f.centres f.lower f.upper

end NumericFilter

end FacetSearch
