import EntitySurface.Property.Kind
import EntitySurface.Property.Rule
import EntitySurface.Text.Case

/-!
# Properties

A property is a named instance of a capability. Attaching it binds it to one owner, finalizing the
owner resolves the settings that depend on its siblings. Links imply companions: properties that
the entities at their ends must carry so that the link can be followed from there.
-/

namespace EntitySurface

/-- Whether a property contributes to the derived surface. -/
inductive Visibility where
  | active
  /-- Kept in storage only. -/
  | legacy
  deriving DecidableEq

/-- What a property takes from its siblings when its entity is finalized. -/
structure ResolvedSettings where
  /-- Arguments that the property's methods gain. -/
  extraArguments : List MethodArgument := []
  /-- Built-in hooks around methods of siblings. -/
  hooks : List MethodHook := []
  /-- Numbers are assigned automatically. -/
  automaticNumbering : Bool := false
  /-- The parent link within which numbers are unique. -/
  numberingScope : Option String := none
  /-- The name of the argument that carries the parent. -/
  parentArgument : Option String := none
  deriving DecidableEq

/-- A capability as an entity carries it. -/
structure Property where
  name : String
  kind : PropertyKind
  rules : List BusinessRule := []
  visibility : Visibility := .active
  owner : Option EntityKey := none
  declaredHooks : List MethodHook := []
  resolved : Option ResolvedSettings := none
  deriving DecidableEq

/-- A property that another entity must carry, with that entity. -/
structure Companion where
  target : EntityKey
  property : Property
  deriving DecidableEq

/-- The companions that a kind implies for its owner. -/
def PropertyKind.companions (owner : EntityKey) (name : String) : PropertyKind → List Companion
  | .linkedToParent parent =>
      [⟨parent,
        { name := "CHILDREN_" ++ Text.uppercase owner.name ++ "_" ++ name
          kind := .hasChildren owner name }⟩]
  | .linkObject left right =>
      [⟨left,
        { name := "LEFTFOR_" ++ Text.uppercase owner.name
          kind := .leftForLink owner right }⟩,
       ⟨right,
        { name := "RIGHTFOR_" ++ Text.uppercase owner.name
          kind := .rightForLink owner left }⟩]
  | .autolinkObject target =>
      [⟨target,
        { name := "AUTOLINK_" ++ Text.uppercase owner.name
          kind := .hasAutolink owner }⟩]
  | _ => []

/-- The argument that carries the parent of a parent link. -/
def parentArgumentName (link : String) : String :=
  Text.lowercase link ++ "_id"

namespace Property

/-- A property under the default name of its kind. -/
def ofKind (kind : PropertyKind) : Property :=
  { name := kind.tag.defaultName, kind }

/-- The kind of the property without its parameters. -/
def tag (property : Property) : PropertyTag :=
  property.kind.tag

/-- The property is kept in storage only. -/
def isLegacy (property : Property) : Bool :=
  property.visibility == .legacy

/-- The stored columns; a property without owner stores none. -/
def elements (property : Property) : List StoredElement :=
  match property.owner with
  | some owner => property.kind.elements owner property.name
  | none => []

/-- Built-in hooks, then declared hooks. -/
def hooks (property : Property) : List MethodHook :=
  (match property.resolved with
    | some settings => settings.hooks
    | none => []) ++ property.declaredHooks

/-- The arguments that one of the property's methods gained. -/
def extraArguments (property : Property) (method : String) : List MethodArgument :=
  match property.resolved with
  | some settings => settings.extraArguments.filter fun argument => argument.method == method
  | none => []

/-- A parent link under which the entity alone exists. -/
def isSubObject (property : Property) : Bool :=
  property.tag == .linkedToParent && property.rules.contains .subObject

/-- A numbering that assigns its numbers itself. -/
def isAutomaticNumbering (property : Property) : Bool :=
  property.tag == .numbered && property.rules.contains .automaticNumbering

/-- An auto-link that reads the same in both directions. -/
def isSymmetric (property : Property) : Bool :=
  property.tag == .autolinkObject && property.rules.contains .symmetric

/-- The rules on which objects a link may join. -/
def linkConstraints (property : Property) : List BusinessRule :=
  property.rules.filter BusinessRule.isLinkConstraint

end Property

end EntitySurface
