/-!
# Query predicates

The condition that a search imposes on the rows of an entity, as a tree and in its written form. In
the written form the conjuncts of a conjunction stand in parentheses when they are compound
themselves, and a filter given as text always does.
-/

namespace EntitySurface

/-- A condition on the columns of a row. -/
inductive Predicate where
  /-- The column matches a pattern. -/
  | like (column pattern : String)
  | equals (column value : String)
  /-- The column lies between two values, ends included. -/
  | between (column from' to' : String)
  | atLeast (column value : String)
  | atMost (column value : String)
  | anyOf (items : List Predicate)
  | allOf (items : List Predicate)
  /-- A condition in the words of the query language. -/
  | raw (text : String)

namespace Predicate

/-- A disjunction or conjunction of more than one condition. -/
def isCompound : Predicate → Bool
  | anyOf items | allOf items => 1 < items.length
  | _ => false

mutual

/-- The columns in order of appearance. -/
def columns : Predicate → List String
  | like column _ | equals column _ | between column _ _ | atLeast column _ | atMost column _ =>
      [column]
  | anyOf items | allOf items => columnsOfEach items
  | raw _ => []

/-- The columns of several conditions. -/
def columnsOfEach : List Predicate → List String
  | [] => []
  | item :: rest => columns item ++ columnsOfEach rest

end

/-- One character inside a literal: a quote is written twice. -/
def literalChar (c : Char) : List Char :=
  if c = '\'' then ['\'', '\''] else [c]

/-- A value between single quotes. -/
def literal (value : String) : String :=
  String.ofList ('\'' :: value.toList.flatMap literalChar ++ ['\''])

mutual

/-- The written form. -/
def text : Predicate → String
  | like column pattern => column ++ " LIKE " ++ literal pattern
  | equals column value => column ++ " = " ++ literal value
  | between column from' to' =>
      column ++ " BETWEEN " ++ literal from' ++ " AND " ++ literal to'
  | atLeast column value => column ++ " >= " ++ literal value
  | atMost column value => column ++ " <= " ++ literal value
  | anyOf items => " OR ".intercalate (textOfEach items)
  | allOf items => " AND ".intercalate (conjunctOfEach items)
  | raw text => "(" ++ text ++ ")"

/-- The written forms of several conditions. -/
def textOfEach : List Predicate → List String
  | [] => []
  | item :: rest => text item :: textOfEach rest

/-- The written forms of several conjuncts. -/
def conjunctOfEach : List Predicate → List String
  | [] => []
  | item :: rest =>
      (if isCompound item then "(" ++ text item ++ ")" else text item) :: conjunctOfEach rest

end

end Predicate

end EntitySurface
