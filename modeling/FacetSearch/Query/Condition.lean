import FacetSearch.Sql.Fragment
/-!
# Conditions

What a row has to meet, as a tree with the parameters at its leaves. `Condition.sql` writes it with a
placeholder for each parameter, and `Condition.params` lists the parameters in the order of their
placeholders.
-/

namespace FacetSearch

/-- A condition on the columns of a row. -/
inductive Condition where
  | matching (column : String) (pattern : Param)
  | among (column : String) (values : List Param)
  | foldedAmong (column : String) (values : List Param)
  | foldedEqual (column : String) (value : Param)
  | within (column : String) (low high : Param)
  | anyOf (alternatives : List Condition)
  | both (first second : Condition)

namespace Condition

/-- Placeholders for so many parameters. -/
def marks (n : Nat) : String := ", ".intercalate (List.replicate n "?")

/-- Placeholders for so many parameters, each in capitals as the column is. -/
def foldedMarks (n : Nat) : String := ", ".intercalate (List.replicate n "UPPER(?)")

mutual

/-- The text of a condition. -/
def sql : Condition → String
  | .matching column _ => column ++ " ~* ?"
  | .among column values => column ++ " IN (" ++ marks values.length ++ ")"
  | .foldedAmong column values => "UPPER(" ++ column ++ ") IN (" ++ foldedMarks values.length ++ ")"
  | .foldedEqual column _ => "UPPER(" ++ column ++ ") = " ++ foldedMarks 1
  | .within column _ _ => column ++ " BETWEEN ? AND ?"
  | .anyOf alternatives => "(" ++ " OR ".intercalate (sqls alternatives) ++ ")"
  | .both first second => sql first ++ " AND " ++ sql second

/-- The texts of conditions. -/
def sqls : List Condition → List String
  | [] => []
  | c :: cs => sql c :: sqls cs

end

mutual

/-- The parameters of a condition in the order of their placeholders. -/
def params : Condition → List Param
  | .matching _ pattern => [pattern]
  | .among _ values => values
  | .foldedAmong _ values => values
  | .foldedEqual _ value => [value]
  | .within _ low high => [low, high]
  | .anyOf alternatives => allParams alternatives
  | .both first second => params first ++ params second

/-- The parameters of conditions one after the other. -/
def allParams : List Condition → List Param
  | [] => []
  | c :: cs => params c ++ allParams cs

end

end Condition

end FacetSearch
