/-!
# Help for the command

The text that explains the options: how they are used, in short, and what each of them is for.
-/

namespace FacetSearch.Command

/-- The name of the command. -/
def name : String := "warehouse-search"

/-- The lines of the help. -/
def helpLines : List String :=
  ["usage: " ++ name ++ " [-h] [--table TABLE] [--db-url DB_URL]",
    "                        [--catalog CATALOG] [--tag TAG]",
    "                        [--attribute ATTRIBUTE] [--column COL=VALUE]",
    "                        [--numeric COL=V1,V2] [--range LOWER UPPER]",
    "                        [--match \x7bexact,prefix,word\x7d] [--regex]",
    "                        [--limit LIMIT] [--show-sql] [--list-tables]",
    "                        [--log-level LOG_LEVEL]",
    "",
    "Search warehouse tables by tags, attributes and columns",
    "",
    "options:",
    "  -h, --help            show this help message and exit",
    "  --table TABLE         Table to search (e.g. events)",
    "  --db-url DB_URL       SQLAlchemy URL (default: DATABASE_URL / DB_* env)",
    "  --catalog CATALOG     JSON schema catalog to use instead of reflecting the",
    "                        database",
    "  --tag TAG             One tag group; separate alternatives with '|'",
    "  --attribute ATTRIBUTE",
    "                        One attribute group; separate alternatives with '|'",
    "  --column COL=VALUE    Column filter, repeatable",
    "  --numeric COL=V1,V2   Numeric centre values",
    "  --range LOWER UPPER   Window added to every numeric value",
    "  --match \x7bexact,prefix,word\x7d",
    "                        Tag match mode",
    "  --regex               Treat tags, attributes and string columns as regular",
    "                        expressions",
    "  --limit LIMIT         Maximum number of rows",
    "  --show-sql            Print the bound SQL and parameters instead of running",
    "                        it",
    "  --list-tables         Print the schema catalog and exit",
    "  --log-level LOG_LEVEL",
    "                        Console log level (default: WARNING)"]

/-- The help, each line with its end. -/
def help : String := String.join (helpLines.map (· ++ "\n"))

end FacetSearch.Command
