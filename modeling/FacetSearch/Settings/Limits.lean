import FacetSearch.Json.Reader
import FacetSearch.Log.Record
import FacetSearch.Value.Equality
import FacetSearch.Value.Numeral
import FacetSearch.Value.Text
import FacetSearch.Text.Lines
/-!
# Limits

An optional file holds settings for searches: the tolerance for numeric filters that are given without
bounds, the greatest number of rows when a request names none, and the greatest number that a request
may ask for. A setting that is missing or makes no sense has a default; a tolerance that makes no sense
is reported.
-/

namespace FacetSearch

/-- Settings for searches. -/
structure Limits where
  tolerance : Double
  defaultLimit : Option Int
  maxLimit : Int

/-- What is reported beside a result or an error. -/
abbrev Reporting := ExceptT Error (StateM (List LogRecord))

namespace Limits

/-- A warning about settings. -/
def warning (message : String) : LogRecord := ⟨.warning, .settings, message⟩

/-- The object of a settings file, and what is reported about it: without a file it is empty, and so it
is if the file holds no object. -/
def ofFile (path : String) : Option String → Value × List LogRecord
  | none => (.object [], [])
  | some content =>
    match Json.readUnmarked (Text.unifyLines content.toList) with
    | .error _ => (.object [], [warning ("Could not read " ++ path ++ "; falling back to defaults")])
    | .ok (.object es) => (.object es, [])
    | .ok _ =>
      (.object [], [warning (path ++ " does not contain a JSON object; falling back to defaults")])

/-- The tolerance without a setting: the distance from one to the next binary64 number. -/
def usualTolerance : Double := Double.ofDecimal false 2220446049250313 (-31)

/-- The greatest number of rows without a setting. -/
def usualLimit : Int := 1000

/-- The greatest number that a request may ask for, without a setting. -/
def usualMaximum : Int := 10000

/-- The binary64 number that a setting is or spells. An integer beyond binary64 overflows. -/
def double (v : Value) : Except Error (Option Double) :=
  match v with
  | .bool b => .ok (Double.ofInt? b.toNat)
  | .int n =>
    match Double.ofInt? n with
    | some d => .ok (some d)
    | none => .error (.failure .overflow)
  | v => .ok v.double?

/-- A setting; nothing if there are none. -/
def setting (config : Value) (name : String) : Value := (config.get? name).getD .null

/-- The tolerance of settings. -/
def toleranceOf (config : Value) : Reporting Double := do
  let v := setting config "numeric_tolerance"
  if v.isNull then return usualTolerance
  match ← (double v : Except Error (Option Double)) with
  | some d => if d.isFinite then return d.abs
  | none => pure ()
  modify (· ++ [warning ("Invalid numeric_tolerance " ++ v.quoted ++ "; using " ++ usualTolerance.text)])
  return usualTolerance

/-- A number above zero without its fraction; anything else is the fallback. -/
def positiveInt (v : Value) (fallback : Int) : Int :=
  match v with
  | .bool _ => fallback
  | v =>
    match double v with
    | .ok (some d) =>
      if d.isFinite ∧ d.compareInt? 0 = some .gt then d.truncate?.getD fallback else fallback
    | _ => fallback

/-- The greatest number that a request may ask for. -/
def maxLimitOf (config : Value) : Int :=
  let n := positiveInt (setting config "search_max_limit") usualMaximum
  if n = 0 then usualMaximum else n

/-- The greatest number of rows when a request names none; a setting of nothing is no limit. -/
def defaultLimitOf (config : Value) : Option Int :=
  match config.get? "search_default_limit" with
  | some .null => none
  | v => some (min (positiveInt (v.getD .null) usualLimit) (maxLimitOf config))

/-- The settings of an object. -/
def ofConfig (config : Value) : Reporting Limits := do
  let tolerance ← toleranceOf config
  return { tolerance, defaultLimit := defaultLimitOf config, maxLimit := maxLimitOf config }

/-- A limit as a value. -/
def limitValue (limit : Option Int) : Value := (limit.map Value.int).getD .null

/-- The entries of the settings object together with the settings that were made of them. -/
def entries (config : Value) (l : Limits) : List (Value × Value) :=
  let es := Value.put (config.entries?.getD []) (.text "NUMERIC_TOLERANCE") (.float l.tolerance)
  let es := Value.put es (.text "SEARCH_DEFAULT_LIMIT") (limitValue l.defaultLimit)
  Value.put es (.text "SEARCH_MAX_LIMIT") (.int l.maxLimit)

/-- The settings of a file and the object they were made of. -/
def load (path : String) (content : Option String) : Reporting (Value × Limits) := do
  let (config, records) := ofFile path content
  modify (· ++ records)
  return (config, ← ofConfig config)

end Limits

end FacetSearch
