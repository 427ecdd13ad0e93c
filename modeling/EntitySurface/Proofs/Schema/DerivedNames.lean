import EntitySurface.Demo
import EntitySurface.Proofs.Derivation.ArgumentSources
import EntitySurface.Proofs.Schema.StubFunctions
import EntitySurface.Proofs.Surface.Integrity

/-!
# The form of derived names

Names of operations and pages are capitalized texts, and names of arguments are small names, however
underscores and digits stand in what they are made of: the names of entities, properties and columns
start with a letter, case conversion drops or keeps the rest, and every piece that is added starts
with a letter itself.
-/

namespace EntitySurface

open Text

/-- Operations are named by capitalized texts. -/
theorem Entity.NamesOperation.isCapitalized {entity : Entity} {name : String}
    (named : entity.NamesOperation name) (capitalized : entity.IsCapitalized) :
    isCapitalized name = true := by
  cases named with
  | plain listed =>
      exact isCapitalized_append
        (Operation.isCapitalized_of_mem_verbs (Operation.mem_verbs_of_plain listed)).1
        capitalized.name
  | family family mem =>
      exact isCapitalized_append (Operation.isCapitalized_of_mem_verbs family.verb_mem_verbs).1
        (isCapitalized_of_mem_endings capitalized mem)

/-- Objects of an entity with an accepted name go by small names. -/
theorem EntityKey.isSmallName_of_mem_relatedArguments {key : EntityKey} (named : key.IsNamed)
    {argument : Argument} (listed : argument ∈ key.relatedArguments) :
    isSmallName argument.name = true := by
  have object := isSmallName_snakeCase
    (Name.isIdentifierShape_of_identifierProblem?_eq_none named.identifier)
  have objects := isSmallName_plural object
  have prefixed (front : String) (small : isSmallName front = true) :
      isSmallName (front ++ snakeCase key.name) = true :=
    isSmallName_prefixed small object
  have all : ∀ argument ∈ key.relatedArguments, isSmallName argument.name = true := by
    simp [relatedArguments, objectArgument, objectsArgument, leftArgument, rightArgument, object,
      objects, prefixed "left_" (by decide), prefixed "right_" (by decide),
      prefixed "new_" (by decide)]
  exact all argument listed

namespace Schema.Reachable

variable {schema : Schema} {entity : Entity} {rules : List DerivationRule}

/-- In a finalized schema, all arguments go by small names. -/
theorem isSmallName_of_supplies (reached : schema.Reachable) (finalized : schema.phase = .finalized)
    (mem : entity ∈ schema.entities) {argument : Argument}
    (supplies : entity.Supplies rules argument) : isSmallName argument.name = true := by
  have wellFormed := reached.wellFormed.entities entity mem
  cases supplies with
  | common listed =>
      have small : ∀ argument ∈ Derivation.commonArguments, isSmallName argument.name = true := by
        decide
      exact small argument listed
  | own listed =>
      have own : entity.ownArguments ⊆
          { name := "predecessor", kind := .object entity.key } :: entity.key.relatedArguments := by
        simp [Entity.ownArguments, EntityKey.relatedArguments, Entity.objectArgument,
          Entity.objectsArgument]
      rcases List.mem_cons.mp (own listed) with rfl | related
      · exact (by decide : isSmallName "predecessor" = true)
      · exact EntityKey.isSmallName_of_mem_relatedArguments (reached.isNamed mem) related
  | related stored bound listed =>
      exact EntityKey.isSmallName_of_mem_relatedArguments
        (reached.isNamed_of_mem_bindings finalized mem stored bound) listed
  | state stored brought =>
      rw [Property.name_of_stateArgument?_eq_some brought]
      decide
  | @parent link _ stored brought =>
      obtain ⟨parent, -, rfl⟩ := Property.parentObject?_eq_some_iff.mp brought
      have shape := Name.isIdentifierShape_of_identifierProblem?_eq_none
        (wellFormed.propertyIdentifiers link stored)
      exact isSmallName_append (isSmallName_lowercase shape) (by decide)
  | @searched widget inRules shown inWidgets =>
      exact isSmallName_lowercase
        (wellFormed.isIdentifierShape_of_mem_columns (wellFormed.widgetElements widget inWidgets).2)

/-- Whatever is derived for an entity of a finalized schema, every operation and every page is named
by a capital letter with letters and digits behind it, and every argument by a small letter with
small letters, digits and underscores behind it. -/
theorem derived_names (reached : schema.Reachable) (finalized : schema.phase = .finalized)
    (mem : entity ∈ schema.entities) {surface : Surface}
    (derived : Surface.derive rules entity = .ok surface) :
    (∀ operation ∈ surface.operations, Text.isCapitalized operation.name = true ∧
      ∀ argument ∈ operation.inputs ++ operation.outputs, isSmallName argument.name = true) ∧
    ∀ page ∈ surface.pages, Text.isCapitalized page.name = true ∧
      ∀ argument ∈ page.inputs, isSmallName argument.name = true := by
  have settled := reached.settled finalized entity mem
  have wellFormed := reached.wellFormed.entities entity mem
  have capitalized : ∀ operation ∈ surface.operations, Text.isCapitalized operation.name = true :=
    fun _ inSurface => (Surface.namesOperation_of_mem derived inSurface).isCapitalized
      (reached.isCapitalized finalized mem)
  constructor
  · intro operation inSurface
    refine ⟨capitalized operation inSurface, fun argument among => ?_⟩
    exact reached.isSmallName_of_supplies finalized mem
      (Surface.supplies_of_mem_operations derived settled wellFormed inSurface argument among)
  · intro page inSurface
    constructor
    · obtain ⟨operation, inOperations, linked, named⟩ :=
        Surface.exists_operation_of_derive derived inSurface
      rw [named, ← linked]
      exact isCapitalized_append (capitalized operation inOperations) (by decide)
    · exact fun argument among => reached.isSmallName_of_supplies finalized mem
        (Surface.supplies_of_mem_pages derived settled wellFormed inSurface argument among)

/-- An entity whose name ends in a digit between underscores. -/
def secondOrder : EntityKey := ⟨"sales", "Order_2_"⟩

/-- Orders with underscores and digits in all the names that they give. -/
def secondOrders : List Command :=
  Demo.identified Demo.Sales.customer "Customer" "A party that places orders" ++
  Demo.identified secondOrder "Second Order" "An order that follows another" ++
  [Demo.attach secondOrder { name := "P__O_1", kind := .linkedToParent Demo.Sales.customer },
   Demo.attach secondOrder { name := "SCAN_2__B", kind := .imageContent },
   .field secondOrder { name := "NR_1_", label := "Nr", type := .text 20, searchable := true },
   .finish]

/-- Underscores stay in the argument that takes the parent and go from the name of the operation. -/
theorem derived_names_secondOrders :
    let schema := (({ name := "sales" } : Schema).executeAll secondOrders).1
    ∃ entity ∈ schema.entities, entity.key = secondOrder ∧
      ∃ surface, Surface.derive DerivationRule.standard entity = .ok surface ∧
        (∃ operation ∈ surface.operations, operation.name = "ChangeParentOrder2ForPO1" ∧
          operation.inputs.map Argument.name = ["order_2", "p__o_1_id"]) ∧
        (∀ operation ∈ surface.operations, Text.isCapitalized operation.name = true ∧
          ∀ argument ∈ operation.inputs ++ operation.outputs,
            isSmallName argument.name = true) ∧
        ∀ page ∈ surface.pages, Text.isCapitalized page.name = true ∧
          ∀ argument ∈ page.inputs, isSmallName argument.name = true := by
  intro schema
  have found : schema.phase = .finalized ∧ ∃ entity ∈ schema.entities, entity.key = secondOrder ∧
      (Surface.derive DerivationRule.standard entity).toOption.any (fun surface =>
        ∃ operation ∈ surface.operations, operation.name = "ChangeParentOrder2ForPO1" ∧
          operation.inputs.map Argument.name = ["order_2", "p__o_1_id"]) = true := by
    decide +kernel
  obtain ⟨finalized, entity, mem, key, holds⟩ := found
  cases derived : Surface.derive DerivationRule.standard entity with
  | error fault => simp [derived, Except.toOption] at holds
  | ok surface =>
      have reached : schema.Reachable := (Reachable.start "sales").executeAll secondOrders
      rw [derived, Except.toOption, Option.any_some, decide_eq_true_eq] at holds
      exact ⟨entity, mem, key, surface, derived, holds,
        reached.derived_names finalized mem derived⟩

end Schema.Reachable

end EntitySurface
