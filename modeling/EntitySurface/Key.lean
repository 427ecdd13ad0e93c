/-!
# Qualified names

Entities and choice categories are identified by a namespace and a name. The written form joins the
two with a dot; since namespaces may be dotted and names are not, it is read at its last dot.
-/

namespace EntitySurface

/-- The identity of an entity. -/
structure EntityKey where
  space : String
  name : String
  deriving DecidableEq

/-- The identity of a choice category. -/
structure ChoiceKey where
  space : String
  name : String
  deriving DecidableEq

/-- Split at the last dot. -/
def splitLastDot : List Char → Option (List Char × List Char)
  | [] => none
  | c :: rest =>
      match splitLastDot rest with
      | some (before, after) => some (c :: before, after)
      | none => if c = '.' then some ([], rest) else none

namespace EntityKey

/-- The written form `namespace.Name`. -/
def text (key : EntityKey) : String :=
  key.space ++ "." ++ key.name

/-- Read `namespace.Name`; both halves must be there. -/
def parse? (text : String) : Option EntityKey :=
  match splitLastDot text.toList with
  | some (space, name) =>
      if space.isEmpty || name.isEmpty then none
      else some ⟨String.ofList space, String.ofList name⟩
  | none => none

/-- Keys are ordered by namespace, then by name. -/
def precedes (first second : EntityKey) : Bool :=
  first.space < second.space || (first.space == second.space && first.name ≤ second.name)

end EntityKey

/-- The written form `namespace.Name`. -/
def ChoiceKey.text (key : ChoiceKey) : String :=
  key.space ++ "." ++ key.name

end EntitySurface
