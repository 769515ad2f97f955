import FacetSearch.Catalog.Basic
import FacetSearch.Json.Reader
import FacetSearch.Text.Lines
/-!
# Catalog files

A catalog can be kept in a file as a JSON object: its member `columns` holds the tables, its member
`primary_keys`, if it is there, their keys. A file that cannot be read, that is not JSON or that has no
object of tables is refused with the reason.
-/

namespace FacetSearch

namespace Catalog

/-- The JSON value of a catalog file. -/
def fileValue (path : String) (content : Except FileFault String) : Except Error Value :=
  match content with
  | .error f => .error (.configuration (.catalogUnreadable path (f.message path)))
  | .ok content =>
    let text := Text.unifyLines content.toList
    match Json.readUnmarked text with
    | .ok v => .ok v
    | .error f => .error (f.failure?.getD (.configuration (.catalogUnreadable path (f.message text))))

/-- The catalog of a file. -/
def ofFile (path : String) (content : Except FileFault String) : Except Error Catalog := do
  let v ← fileValue path content
  match v.get? "columns" with
  | some (.object tables) => ofValues (.object tables) ((v.get? "primary_keys").getD .null)
  | _ => .error (.configuration (.catalogShape path))

end Catalog

end FacetSearch
