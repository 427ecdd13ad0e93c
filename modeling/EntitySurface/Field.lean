import EntitySurface.FieldType
import EntitySurface.Name

/-!
# Fields and stored elements

A field is a column that an entity declares itself; a stored element is a column that a property
brings along.
-/

namespace EntitySurface

/-- A column declared on an entity. -/
structure Field where
  name : String
  label : String
  type : FieldType
  searchable : Bool := false
  indexed : Bool := false
  /-- A value is required on creation. -/
  mandatory : Bool := false
  description : Option String := none
  deriving DecidableEq

/-- A column stored by a property on behalf of its entity. -/
structure StoredElement where
  name : String
  label : String
  type : FieldType
  searchable : Bool := false
  deriving DecidableEq

/-- What is wrong with a field: its name, or a text type that holds nothing. -/
def Field.problem? (field : Field) : Option Name.Problem :=
  match Name.identifierProblem? field.name with
  | some problem => some problem
  | none => if field.type = .text 0 then some .noCharacters else none

end EntitySurface
