import FacetSearch.Files.Fault
import FacetSearch.Files.Path
import FacetSearch.Keyed
/-!
# Trees of files

A tree says what stands at each place: a directory or a file with some content. A place is the list of
names on the way to it from the root. A path is followed name by name, each time from a directory, so
that the first fault on the way decides. What is made anew takes away nothing (`at?_add`), and writing
to one file leaves the content of the others (`content?_write_of_ne`).
-/

namespace FacetSearch

/-- What stands at a place: a directory or a file with its content. -/
inductive FileEntry (α : Type) where
  | directory
  | file (content : α)

/-- A tree of files: what stands at places, and the place at which paths begin that do not begin at the
root. -/
structure FileTree (α : Type) where
  entries : List (List String × FileEntry α)
  here : List String

namespace FileTree

variable {α : Type}

/-- What stands at a place. -/
def at? (t : FileTree α) (place : List String) : Option (FileEntry α) := Keyed.get? t.entries place

/-- The content of the file at a place. -/
def content? (t : FileTree α) (place : List String) : Option α :=
  match t.at? place with
  | some (.file content) => some content
  | _ => none

/-- The tree with something more. -/
def add (t : FileTree α) (place : List String) (e : FileEntry α) : FileTree α :=
  { t with entries := t.entries ++ [(place, e)] }

/-- The tree with another content of the file at a place. -/
def write (t : FileTree α) (place : List String) (content : α) : FileTree α :=
  { t with entries := Keyed.put t.entries place (.file content) }

/-! ## Following paths -/

/-- The most bytes of a name. -/
def maxNameBytes : Nat := 255

/-- The number of bytes that a path has to stay below. -/
def maxPathBytes : Nat := 4096

/-- The place where a path begins. -/
def start (t : FileTree α) (p : Path) : List String := if p.slashes = 0 then t.here else []

/-- The place that a name leads to from another one, which has to be a directory. -/
def step (t : FileTree α) (place : List String) (name : String) : Except FileFault (List String) :=
  match t.at? place with
  | none => .error .missing
  | some (.file _) => .error .notDirectory
  | some .directory =>
    if name = ".." then .ok place.dropLast
    else if maxNameBytes < name.utf8ByteSize then .error .nameTooLong
    else .ok (place ++ [name])

/-- The place that a path leads to; nothing needs to stand there. -/
def locate (t : FileTree α) (p : Path) : Except FileFault (List String) :=
  if p.names.any (·.contains '\x00') then .error .zeroCharacter
  else if maxPathBytes ≤ p.text.utf8ByteSize then .error .nameTooLong
  else p.names.foldlM t.step (t.start p)

/-- The path from the root that a path spells, whatever the files are: two dots take back the name before
them. -/
def absolute (t : FileTree α) (p : Path) : Path where
  slashes := 1
  names := (t.start p ++ p.names).foldl (fun names n => if n = ".." then names.dropLast else names ++ [n]) []

/-! ## Reading, making directories and beginning files -/

/-- The content of the file at a path. -/
def read (t : FileTree α) (p : Path) : Except FileFault α := do
  match t.at? (← t.locate p) with
  | none => throw .missing
  | some .directory => throw .directory
  | some (.file content) => return content

/-- The tree with a new directory at a path. -/
def makeDirectory (t : FileTree α) (p : Path) : Except FileFault (FileTree α) := do
  let place ← t.locate p
  match t.at? place with
  | none => return t.add place .directory
  | some _ => throw .exists

/-- A path leads to a directory. -/
def isDirectory (t : FileTree α) (p : Path) : Bool :=
  match t.locate p with
  | .ok place => (t.at? place matches some .directory)
  | .error _ => false

/-- The tree with a directory at a path, which may be there already. -/
def ensureDirectory (t : FileTree α) (p : Path) : Except FileFault (FileTree α) :=
  match t.makeDirectory p with
  | .error .exists => if t.isDirectory p then .ok t else .error .exists
  | r => r

/-- What became of a tree: another one, or the same one and a fault. -/
def orFault (t : FileTree α) : Except FileFault (FileTree α) → FileTree α × Option FileFault
  | .ok t => (t, none)
  | .error f => (t, some f)

/-- The tree with directories at a path, whose names are given from the last one on, and on the way to
it, and the fault that came up, if there was one. What is made before a fault stays. -/
def ensureWay (t : FileTree α) (slashes : Nat) : List String → FileTree α × Option FileFault
  | [] => t.orFault (t.ensureDirectory ⟨slashes, []⟩)
  | name :: names =>
    let p : Path := ⟨slashes, (name :: names).reverse⟩
    match t.ensureDirectory p with
    | .error .missing =>
      match t.ensureWay slashes names with
      | (t, none) => t.orFault (t.ensureDirectory p)
      | r => r
    | r => t.orFault r

/-- The tree with directories at a path and on the way to it, and the fault that came up. -/
def ensureDirectories (t : FileTree α) (p : Path) : FileTree α × Option FileFault :=
  t.ensureWay p.slashes p.names.reverse

/-- The place of the file at a path, and the tree with that file; a file that is new has the given
content. -/
def beginFile (t : FileTree α) (content : α) (p : Path) : Except FileFault (List String × FileTree α) := do
  let place ← t.locate p
  match t.at? place with
  | none => return (place, t.add place (.file content))
  | some .directory => throw .directory
  | some (.file _) => return (place, t)

/-- The files at the place where one is and below, each with the names that lead to it from there. -/
def filesHere (t : FileTree α) : List (List String × α) :=
  t.entries.filterMap fun (place, e) =>
    match e with
    | .file content => if t.here.isPrefixOf place then some (place.drop t.here.length, content) else none
    | .directory => none

/-! ## The tree to begin with -/

/-- The directories that every system has. -/
def usualDirectories : List (List String) :=
  [[], ["bin"], ["dev"], ["etc"], ["home"], ["lib"], ["mnt"], ["opt"], ["proc"], ["root"], ["run"], ["sbin"],
    ["srv"], ["sys"], ["tmp"], ["usr"], ["usr", "bin"], ["usr", "lib"], ["usr", "local"], ["var"],
    ["var", "lib"], ["var", "log"], ["var", "tmp"]]

/-- A place for temporary files that no path from the root leads to. -/
def temporary : List String := ["tmp", "/"]

/-- A system with an empty directory for temporary files, where one is, and a file with nothing in it. -/
def fresh (nothing : α) : FileTree α where
  entries := (temporary :: usualDirectories).map (·, .directory) ++ [(["dev", "null"], .file nothing)]
  here := temporary

theorem at?_add {t : FileTree α} {place other : List String} {e e' : FileEntry α}
    (h : t.at? place = some e) : (t.add other e').at? place = some e :=
  Keyed.get?_append_of_some _ h

theorem content?_write (t : FileTree α) (place : List String) (content : α) :
    (t.write place content).content? place = some content := by
  simp [content?, at?, write, Keyed.get?_put_self]

theorem content?_write_of_ne (t : FileTree α) {place other : List String} (content : α)
    (h : place ≠ other) : (t.write place content).content? other = t.content? other := by
  simp [content?, at?, write, Keyed.get?_put_of_ne _ _ h]

end FileTree

end FacetSearch
