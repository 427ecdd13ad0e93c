/-!
# Identifiers and namespaces

Names of entities, fields and properties become identifiers and column names of what is emitted, so
they share one grammar: an ASCII letter followed by ASCII letters, digits and underscores, at most
64 bytes. A namespace is a dotted sequence of lowercase segments.
-/

namespace EntitySurface.Name

/-- What can be wrong with a name. -/
inductive Problem where
  | empty
  | tooLong
  | notIdentifier
  | notNamespace
  /-- A text field that allows no character. -/
  | noCharacters
  /-- A choice category without values. -/
  | noValues
  deriving DecidableEq

/-- The longest accepted name, in bytes. -/
def maxLength : Nat := 64

/-- ASCII letters, digits and the underscore. -/
def isNameChar (c : Char) : Bool :=
  c.isAlphanum || c == '_'

/-- ASCII lowercase letters, digits and the underscore. -/
def isSegmentChar (c : Char) : Bool :=
  c.isLower || c.isDigit || c == '_'

/-- A letter followed by name characters. -/
def isIdentifierShape : List Char → Bool
  | [] => false
  | c :: rest => c.isAlpha && rest.all isNameChar

/-- The rest of a namespace after the first letter of a segment: segment characters, and dots that
a lowercase letter follows. -/
def isSegmentTail : List Char → Bool
  | [] => true
  | '.' :: c :: rest => c.isLower && isSegmentTail rest
  | c :: rest => isSegmentChar c && isSegmentTail rest

/-- One or more lowercase segments joined by dots. -/
def isNamespaceShape : List Char → Bool
  | [] => false
  | c :: rest => c.isLower && isSegmentTail rest

/-- A name that may be used as an identifier. -/
def isIdentifier (name : String) : Bool :=
  name.utf8ByteSize ≤ maxLength && isIdentifierShape name.toList

/-- A name that may be used as a namespace. -/
def isNamespace (name : String) : Bool :=
  isNamespaceShape name.toList

/-- The first thing wrong with an identifier. -/
def identifierProblem? (name : String) : Option Problem :=
  if name = "" then some .empty
  else if maxLength < name.utf8ByteSize then some .tooLong
  else if isIdentifierShape name.toList then none
  else some .notIdentifier

/-- What is wrong with a namespace. -/
def namespaceProblem? (name : String) : Option Problem :=
  if isNamespace name then none else some .notNamespace

namespace Problem

/-- The problem in words. -/
def message : Problem → String
  | empty => "name cannot be empty"
  | tooLong => "name is longer than " ++ toString maxLength ++ " characters"
  | notIdentifier => "must start with a letter and contain only letters, digits and '_'"
  | notNamespace => "namespace must be lowercase dotted segments"
  | noCharacters => "text field must allow at least one character"
  | noValues => "choice category needs at least one value"

end Problem

end EntitySurface.Name
