import FacetSearch.Settings.Environment
import FacetSearch.Text.Blank
import FacetSearch.Text.Lines
import FacetSearch.Text.LowerCase
/-!
# Environment files

A file of lines `NAME=text` adds names to an environment. A line may begin with `export` and end with
a comment; a text may stand between single quotes, in which only the quote and the backslash are
escaped, or double quotes, in which line ends and tabs are escaped too; either may go over several lines.
`${NAME}` stands for the text of a name, and `${NAME:-text}` for the text behind it if there is no
such name. A line that is none of this is skipped. The environment may say that files add nothing.
-/

namespace FacetSearch.EnvFile

/-- White space within a line. -/
def isLineBlank (c : Char) : Bool := Text.isBlank c && c != '\n'

/-- The characters without white space of the line in front. -/
def skipLineBlank (s : List Char) : List Char := s.dropWhile isLineBlank

/-- The characters behind the end of the line. -/
def skipLine (s : List Char) : List Char := (s.dropWhile (· != '\n')).drop 1

/-- A statement without the word `export` in front. -/
def skipExport (s : List Char) : List Char :=
  match s with
  | 'e' :: 'x' :: 'p' :: 'o' :: 'r' :: 't' :: r =>
    if (skipLineBlank r).length < r.length then skipLineBlank r else s
  | s => s

/-- The characters between quotes and what follows them. A backslash takes the next character with it. -/
def quotedBody? (quote : Char) : List Char → Option (List Char × List Char)
  | [] => none
  | '\\' :: [] => none
  | '\\' :: c :: s => (quotedBody? quote s).map fun (body, rest) => ('\\' :: c :: body, rest)
  | c :: s =>
    if c = quote then some ([], s)
    else (quotedBody? quote s).map fun (body, rest) => (c :: body, rest)

/-- Letters after a backslash with the characters that they stand for between double quotes. -/
def doubleEscapes : List (Char × Char) :=
  [('\\', '\\'), ('\'', '\''), ('"', '"'), ('a', '\x07'), ('b', '\x08'), ('f', '\x0c'), ('n', '\n'),
    ('r', '\r'), ('t', '\t'), ('v', '\x0b')]

/-- Letters after a backslash with the characters that they stand for between single quotes. -/
def singleEscapes : List (Char × Char) := [('\\', '\\'), ('\'', '\'')]

/-- The characters with escapes replaced; a backslash in front of anything else stands for itself. -/
def unescape (escapes : List (Char × Char)) : List Char → List Char
  | [] => []
  | '\\' :: c :: s =>
    match Keyed.get? escapes c with
    | some e => e :: unescape escapes s
    | none => '\\' :: unescape escapes (c :: s)
  | c :: s => c :: unescape escapes s

/-- A text without quotes, up to a comment; `blank` says that the character in front is white space. -/
def uncommented (blank : Bool) : List Char → List Char
  | [] => []
  | c :: s => if blank && c == '#' then [] else c :: uncommented (Text.isBlank c) s

/-- The text of a statement and what follows it, from its first character that is not white space on;
`blank` says that there is white space in front. -/
def text? (blank : Bool) (s : List Char) : Option (List Char × List Char) :=
  match s with
  | '\'' :: r => (quotedBody? '\'' r).map fun (body, rest) => (unescape singleEscapes body, rest)
  | '"' :: r => (quotedBody? '"' r).map fun (body, rest) => (unescape doubleEscapes body, rest)
  | s =>
    let line := s.takeWhile (· != '\n')
    some (Text.dropEndWhile Text.isBlank (uncommented blank line), s.dropWhile (· != '\n'))

/-- A character of a name without quotes. -/
def isNameChar (c : Char) : Bool := c != '=' && c != '#' && !Text.isBlank c

/-- The name of a statement and what follows it. A comment has no name. -/
def name? (s : List Char) : Option (Option (List Char) × List Char) :=
  match s with
  | '#' :: _ => some (none, s)
  | '\'' :: r =>
    match r.takeWhile (· != '\''), r.dropWhile (· != '\'') with
    | c :: cs, _ :: rest => some (some (c :: cs), rest)
    | _, _ => none
  | s =>
    match s.takeWhile isNameChar with
    | [] => none
    | cs => some (some cs, s.dropWhile isNameChar)

/-- The rest without a comment at its start and without the end of the line, which has to follow. -/
def endOfLine? (s : List Char) : Option (List Char) :=
  let s := match skipLineBlank s with
    | '#' :: r => r.dropWhile (· != '\n')
    | r => r
  match s with
  | [] => some []
  | '\n' :: r => some r
  | _ => none

/-- A statement: a name with a text, if it has one. -/
structure Statement where
  name : List Char
  text : Option (List Char)

/-- The statement that a text begins with and what follows it. What is no statement is skipped up to
the end of the line in which reading it stopped. -/
def statement (s : List Char) : Option Statement × List Char :=
  let s := skipExport s
  match name? s with
  | none => (none, skipLine s)
  | some (name, afterName) =>
    let afterName := skipLineBlank afterName
    match afterName with
    | '=' :: r =>
      match text? (r.head?.any isLineBlank) (skipLineBlank r) with
      | none => (none, skipLine (skipLineBlank r))
      | some (text, rest) =>
        match endOfLine? rest with
        | none => (none, skipLine rest)
        | some rest => (name.map fun n => ⟨n, some text⟩, rest)
    | _ =>
      match endOfLine? afterName with
      | none => (none, skipLine afterName)
      | some rest => (name.map fun n => ⟨n, none⟩, rest)

/-- The statements of a text, read in at most so many steps. -/
def statementsWithin : Nat → List Char → List Statement
  | 0, _ => []
  | steps + 1, s =>
    match s.dropWhile Text.isBlank with
    | [] => []
    | s =>
      match statement s with
      | (some statement, rest) => statement :: statementsWithin steps rest
      | (none, rest) => statementsWithin steps rest

/-- The statements of a text; each step takes at least one character. -/
def statements (s : List Char) : List Statement := statementsWithin s.length s

/-- A name in braces, the text for when it is missing, and what follows the closing brace. -/
def reference? (s : List Char) : Option (List Char × List Char × List Char) :=
  let name := s.takeWhile fun c => c != '\x7d' && c != ':'
  match s.drop name.length with
  | '\x7d' :: rest => some (name, [], rest)
  | ':' :: '-' :: r =>
    let usual := r.takeWhile (· != '\x7d')
    match r.drop usual.length with
    | '\x7d' :: rest => some (name, usual, rest)
    | _ => none
  | _ => none

/-- The characters with references replaced by what `find` knows, in at most so many steps. -/
def expandWithin (find : String → Option String) : Nat → List Char → List Char
  | 0, s => s
  | _ + 1, [] => []
  | steps + 1, c :: s =>
    match c, s with
    | '$', '\x7b' :: r =>
      match reference? r with
      | some (name, usual, rest) =>
        ((find (String.ofList name)).map String.toList).getD usual ++ expandWithin find steps rest
      | none => c :: expandWithin find steps s
    | _, _ => c :: expandWithin find steps s

/-- The characters with references replaced by what `find` knows. -/
def expand (find : String → Option String) (s : List Char) : List Char := expandWithin find s.length s

/-- The text of a name: that of the environment, or that of the file, which is empty if a statement
has no text. -/
def lookUp (env : Environment) (known : List (String × Option String)) (name : String) : Option String :=
  Keyed.get? env name <|> (Keyed.get? known name).map (·.getD "")

/-- The names of the file with their texts, the last of each name at the first place. -/
def resolve (env : Environment) (ss : List Statement) : List (String × Option String) :=
  ss.foldl (fun known s => Keyed.put known (String.ofList s.name)
    (s.text.map fun text => String.ofList (expand (lookUp env known) text))) []

/-- The entries that a file adds to an environment, each of which has to be possible there. -/
def additions (env : Environment) (content : List Char) : Except Error (List (String × String)) :=
  let known := resolve env (statements (Text.unifyLines (Text.unmarked content)))
  let missing := known.filter fun (name, _) => (Keyed.get? env name).isNone
  (missing.filterMap fun (name, text) => text.map (name, ·)).mapM Environment.entry

/-- Words that say that files add nothing. -/
def disabling : List String := ["1", "true", "t", "yes", "y"]

/-- A text with its letters in small form, where the long s counts as an s. -/
def foldCase (s : String) : String := (Text.lower s).map fun c => if c = 'ſ' then 's' else c

/-- The environment says that files add nothing. -/
def isDisabled (env : Environment) : Bool :=
  match Keyed.get? env "PYTHON_DOTENV_DISABLED" with
  | some s => disabling.contains (foldCase s)
  | none => false

/-- The environment with the names of a file that it does not have yet. -/
def load (env : Environment) (content : Option String) : Except Error Environment :=
  match content with
  | some content =>
    if isDisabled env then .ok env
    else (additions env content.toList).map env.addMissing
  | none => .ok env

end FacetSearch.EnvFile
