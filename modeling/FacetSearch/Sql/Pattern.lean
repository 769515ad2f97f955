import FacetSearch.Criteria.MatchMode
/-!
# Patterns

The regular expressions that tags and attributes are matched with. A literal is escaped character by
character, so that it matches itself; the pattern for a group has one branch for each literal, between
anchors that depend on the match mode. Expressions that are given as such are joined by alternation,
each in a group of its own.
-/

namespace FacetSearch.Pattern

/-- Characters that mean something in a regular expression. -/
def metacharacters : List Char := "\\^$.|?*+()[]\x7b\x7d".toList

/-- A character so that it matches itself. -/
def escapeChar (c : Char) : List Char := if metacharacters.contains c then ['\\', c] else [c]

/-- Characters so that they match themselves. -/
def escapeChars (cs : List Char) : List Char := cs.flatMap escapeChar

/-- A text so that it matches itself. -/
def escape (s : String) : String := String.ofList (escapeChars s.toList)

/-- Branches with bars between them. -/
def bars (branches : List (List Char)) : List Char := List.intercalate ['|'] branches

/-- An expression that matches what one of the branches matches. -/
def alternation : List (List Char) → List Char
  | [branch] => branch
  | branches => '(' :: bars branches ++ [')']

/-- The characters without slashes at their end. -/
def dropSlashes (cs : List Char) : List Char := (cs.reverse.dropWhile (· == '/')).reverse

/-- Branches between the anchors of a mode. -/
def ofBranches (mode : MatchMode) (branches : List (List Char)) : List Char :=
  match mode with
  | .whole => '^' :: alternation branches ++ ['$']
  | .subtree => '^' :: alternation branches ++ "(/.*)?$".toList
  | .word => "(^|/)".toList ++ alternation branches ++ "(/|$)".toList

/-- The branch for a literal; where all below it matches too, slashes at its end say nothing. -/
def branch (mode : MatchMode) (literal : List Char) : List Char :=
  match mode with
  | .subtree => escapeChars (dropSlashes literal)
  | .whole | .word => escapeChars literal

/-- The pattern for a group of literals. -/
def ofLiterals (mode : MatchMode) (literals : List (List Char)) : List Char :=
  ofBranches mode (literals.map (branch mode))

/-- The pattern for a group of literals, as a text. -/
def forGroup (mode : MatchMode) (literals : List String) : String :=
  String.ofList (ofLiterals mode (literals.map String.toList))

/-- An expression in a group that is not captured. -/
def grouped (expression : List Char) : List Char := "(?:".toList ++ expression ++ [')']

/-- An expression that matches what one of the expressions matches. -/
def ofExpressions : List (List Char) → List Char
  | [expression] => expression
  | expressions => bars (expressions.map grouped)

/-- An expression that matches what one of the expressions matches, as a text. -/
def joined (expressions : List String) : String :=
  String.ofList (ofExpressions (expressions.map String.toList))

end FacetSearch.Pattern
