/-!
# Text files

A text file may begin with a byte order mark, and ends its lines with a line feed, a carriage return or
both; read as a text, each of them is one line feed.
-/

namespace FacetSearch.Text

/-- The characters without a byte order mark in front. -/
def unmarked : List Char → List Char
  | '\ufeff' :: cs => cs
  | cs => cs

/-- The characters with every line end as a line feed. -/
def unifyLines : List Char → List Char
  | [] => []
  | '\r' :: '\n' :: cs => '\n' :: unifyLines cs
  | '\r' :: cs => '\n' :: unifyLines cs
  | c :: cs => c :: unifyLines cs

end FacetSearch.Text
