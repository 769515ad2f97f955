import FacetSearch.Error
/-!
# Fragments

A fragment is SQL text and the parameters for its placeholders, which are the question marks. Text
and parameters are only ever added together, and only if they agree in number, so that the i-th
placeholder belongs to the i-th parameter; `WellFormed` says that the numbers agree, and
`wellFormed_append` that adding keeps it.
-/

namespace FacetSearch

/-- A value for a placeholder and the type that it is bound with. -/
structure Param where
  value : Value
  type : ColumnType

/-- SQL text with the parameters for its placeholders in order. -/
structure Fragment where
  text : String
  params : List Param

namespace Fragment

/-- The number of placeholders in a text. -/
def placeholders (text : String) : Nat := text.toList.count '?'

/-- There are as many placeholders as parameters. -/
def WellFormed (f : Fragment) : Prop := placeholders f.text = f.params.length

/-- No text and no parameters. -/
def empty : Fragment := ⟨"", []⟩

/-- The fragment with text and as many parameters as the text has placeholders at its end. -/
def append (f : Fragment) (text : String) (params : List Param) : Except Error Fragment :=
  if placeholders text = params.length then .ok ⟨f.text ++ text, f.params ++ params⟩
  else .error (.binding (.fragment text (placeholders text) params.length))

/-- The fragment with another one at its end. -/
def extend (f g : Fragment) : Except Error Fragment := f.append g.text g.params

/-- What is reached when fragments are added with a separator in front of each, and the error that
stopped it. -/
def extendAll (f : Fragment) (separator : String) : List Fragment → Fragment × Option Error
  | [] => (f, none)
  | g :: gs =>
    match f.append separator [] with
    | .error e => (f, some e)
    | .ok separated =>
      match separated.extend g with
      | .error e => (separated, some e)
      | .ok extended => extendAll extended separator gs

/-- What is reached when fragments are added with a separator between them, and the error that
stopped it. -/
def joinReached (f : Fragment) (separator : String) : List Fragment → Fragment × Option Error
  | [] => (f, none)
  | g :: gs =>
    match f.extend g with
    | .error e => (f, some e)
    | .ok extended => extendAll extended separator gs

/-- The fragment with others at its end and a separator between them. -/
def join (f : Fragment) (separator : String) (gs : List Fragment) : Except Error Fragment :=
  match f.joinReached separator gs with
  | (reached, none) => .ok reached
  | (_, some e) => .error e

theorem placeholders_append (s t : String) : placeholders (s ++ t) = placeholders s + placeholders t := by
  simp [placeholders, List.count_append]

theorem wellFormed_empty : empty.WellFormed := rfl

theorem wellFormed_append {f g : Fragment} {text : String} {params : List Param}
    (hf : f.WellFormed) (h : f.append text params = .ok g) : g.WellFormed := by
  unfold append at h
  split at h
  · cases h
    simp_all [WellFormed, placeholders_append]
  · cases h

end Fragment

end FacetSearch
