import EntitySurface.Fault
import EntitySurface.KeyIndex

/-!
# The catalog of namespaces and choice categories

A schema knows its namespaces and, per choice category, the values that a choice may take. A
category is registered with its namespace; category keys are unique and codes are unique within a
category.
-/

namespace EntitySurface

/-- One value of a choice category. -/
structure ChoiceValue where
  code : String
  label : String
  deriving DecidableEq

/-- The values that a choice may take, in declaration order. -/
structure ChoiceCategory where
  key : ChoiceKey
  values : List ChoiceValue
  deriving DecidableEq

namespace ChoiceCategory

/-- The code is one of the values. -/
def contains (category : ChoiceCategory) (code : String) : Bool :=
  category.values.any fun value => value.code == code

/-- The value that a new object starts with. -/
def default? (category : ChoiceCategory) : Option ChoiceValue :=
  category.values.head?

/-- The length of the longest code, in bytes. -/
def maxCodeLength (category : ChoiceCategory) : Nat :=
  category.values.foldl (fun longest value => max longest value.code.utf8ByteSize) 0

/-- The first code that already stands before its own position. -/
def repeatedCode? (category : ChoiceCategory) : Option String :=
  go [] category.values
where
  go (seen : List String) : List ChoiceValue → Option String
    | [] => none
    | value :: rest =>
        if seen.contains value.code then some value.code else go (value.code :: seen) rest

end ChoiceCategory

/-- The namespaces and categories that a schema knows, each in registration order. -/
structure Catalog where
  namespaces : List String := []
  categories : List ChoiceCategory := []
  /-- Where the category of a key stands. -/
  index : KeyIndex ChoiceKey := {}
  deriving DecidableEq

namespace Catalog

/-- The namespace is registered. -/
def ownsNamespace (catalog : Catalog) (space : String) : Bool :=
  catalog.namespaces.contains space

/-- The registered category of a key. -/
def category? (catalog : Catalog) (key : ChoiceKey) : Option ChoiceCategory :=
  (catalog.index.position? key).bind fun position => catalog.categories[position]?

/-- The catalog with a namespace; one that is known stays where it is. -/
def withNamespace (catalog : Catalog) (space : String) : Catalog :=
  if catalog.ownsNamespace space then catalog
  else { catalog with namespaces := catalog.namespaces ++ [space] }

/-- Register a namespace. -/
def registerNamespace (space : String) : EStateM Fault Catalog Unit := fun catalog =>
  match Name.namespaceProblem? space with
  | some problem => .error (.invalidName space problem) catalog
  | none => .ok () (catalog.withNamespace space)

/-- What is wrong with a category that is to be added: its key is taken, it has no values, or two of
its values have the same code. -/
def categoryFault? (catalog : Catalog) (category : ChoiceCategory) : Option Fault :=
  if catalog.index.contains category.key then
    some (.duplicateName .categories category.key.text)
  else if category.values.isEmpty then
    some (.invalidName category.key.text .noValues)
  else
    category.repeatedCode?.map fun code => .duplicateName (.codes category.key) code

/-- The catalog with a category at the end. -/
def add (catalog : Catalog) (category : ChoiceCategory) : Catalog :=
  { catalog with
    categories := catalog.categories ++ [category]
    index := catalog.index.enter category.key catalog.categories.length }

/-- Register a category, and its namespace on the way. The namespace stays registered when the
category itself is refused. -/
def registerCategory (category : ChoiceCategory) : EStateM Fault Catalog Unit := do
  match Name.identifierProblem? category.key.name with
  | some problem => throw (.invalidName category.key.name problem)
  | none =>
      registerNamespace category.key.space
      fun catalog =>
        match catalog.categoryFault? category with
        | some fault => .error fault catalog
        | none => .ok () (catalog.add category)

end Catalog

end EntitySurface
