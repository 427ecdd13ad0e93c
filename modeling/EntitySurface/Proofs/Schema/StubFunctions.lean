import EntitySurface.Proofs.Emission.Functions
import EntitySurface.Proofs.Entity.HookChains
import EntitySurface.Proofs.FileTree.Paths
import EntitySurface.Proofs.Property.HookPlan
import EntitySurface.Proofs.Schema.Bindings
import EntitySurface.Proofs.Schema.Files
import EntitySurface.Proofs.Schema.Invariant
import EntitySurface.Proofs.Surface.Functions

/-!
# The functions of a stub module

A stub module has a function for every operation and for every hook chain of an entity. Operations
have different names, but their functions are named in snake case, which takes different names for
one, and in one module with the functions of hook chains. So a module can define a function twice,
and this happens exactly where names are chosen for it.
-/

namespace EntitySurface

open Text

/-! ## Hook chains -/

/-- Texts are cut at their first underscore in one way. -/
theorem append_underscore_inj {first second rest otherRest : String}
    (one : '_' ∉ first.toList) (other : '_' ∉ second.toList) :
    first ++ "_" ++ rest = second ++ "_" ++ otherRest ↔ first = second ∧ rest = otherRest := by
  rw [← String.toList_inj]
  simp only [String.toList_append, List.append_assoc]
  exact (append_cons_inj_of_first one other).trans
    (and_congr String.toList_inj String.toList_inj)

namespace PropertyKind

/-- The names of the data access methods of all kinds. -/
def methodNames : List String := [
  "insert", "readone", "update", "delete", "setobjectname", "renumber", "changestate",
  "settargetdate", "reschedule", "previewplan", "insertafter", "setparent", "getallchildren",
  "setleftobject", "setrightobject", "getlinksfromleft", "getlinksfromright", "setlinks",
  "getlinksfromobject", "showhistory", "newversion", "forceaslast", "reassign", "setimage",
  "getimage", "addattachment", "downloadattachment", "deleteattachment", "preview"]

theorem name_mem_methodNames {kind : PropertyKind} {method : AccessMethod}
    (mem : method ∈ kind.methods) : method.name ∈ methodNames := by
  revert method
  cases kind <;> simp [methods, methodNames]

theorem underscore_notMem_methodNames : ∀ method ∈ methodNames, '_' ∉ method.toList := by
  decide +kernel

theorem notMem_firstWords : ∀ method ∈ methodNames, method ∉ Operation.firstWords := by
  decide +kernel

theorem snakeCase_verb_mem_methodNames :
    ∀ family ∈ OperationFamily.calledLikeMethods, snakeCase family.verb ∈ methodNames := by
  decide +kernel

end PropertyKind

/-- What the name of a chain's function says beside the method. -/
def HookChain.ending (chain : HookChain) : String :=
  snakeCase chain.origin ++ if chain.bulk then "_massive" else ""

theorem Stub.chainFunction_eq (chain : HookChain) :
    Stub.chainFunction chain = chain.method ++ "_" ++ chain.ending :=
  String.append_assoc

namespace Entity

/-- The chains with hooks. -/
def wovenChains (entity : Entity) : List HookChain :=
  (entity.hookTargets.map entity.chainFor).filter fun chain => !chain.isEmpty

/-- The chains of one method have different endings: the names of the properties that they belong
to, with the mark of a bulk chain, differ in snake case. And where a method is called like the verb
of operations, its chains have other endings than these: what follows the verb, which are words, the
name of the entity and the names of print-outs, differs in snake case from the ending of a chain. -/
structure ChainsApart (entity : Entity) : Prop where
  endings : ∀ first ∈ entity.wovenChains, ∀ second ∈ entity.wovenChains,
    first.method = second.method → first.ending = second.ending → first = second
  operations : ∀ family ∈ OperationFamily.calledLikeMethods, ∀ chain ∈ entity.wovenChains,
    chain.method = snakeCase family.verb →
      ∀ ending ∈ family.endings entity, chain.ending ≠ snakeCase ending

instance (entity : Entity) : Decidable entity.ChainsApart :=
  decidable_of_iff
    ((∀ first ∈ entity.wovenChains, ∀ second ∈ entity.wovenChains,
      first.method = second.method → first.ending = second.ending → first = second) ∧
    ∀ family ∈ OperationFamily.calledLikeMethods, ∀ chain ∈ entity.wovenChains,
      chain.method = snakeCase family.verb →
        ∀ ending ∈ family.endings entity, chain.ending ≠ snakeCase ending)
    ⟨fun ⟨endings, operations⟩ => ⟨endings, operations⟩,
      fun ⟨endings, operations⟩ => ⟨endings, operations⟩⟩

end Entity

/-- What a generation derives for an entity. -/
def Entity.derived? (entity : Entity) : Option DerivedEntity :=
  (Surface.derive DerivationRule.standard entity).toOption.map fun surface =>
    { entity, surface, chains := entity.wovenChains }

namespace DerivedEntity

variable {item : DerivedEntity} {entity : Entity}

section Woven

variable {rules : List DerivationRule} (derives : item.Derives rules entity)
  (finalized : entity.finalized = true) (names : (entity.properties.map Property.name).Nodup)
include derives finalized names

theorem Derives.chains_eq : item.chains = entity.wovenChains := by
  obtain ⟨chains, woven, kept⟩ := derives.woven
  rw [Entity.hookChains_eq finalized names, Except.ok.injEq] at woven
  rw [kept, ← woven]
  rfl

theorem Derives.derived?_eq (standard : rules = DerivationRule.standard) :
    entity.derived? = some item := by
  subst standard
  rw [Entity.derived?, derives.surfaced, Except.toOption, Option.map_some, Option.some.injEq,
    ← derives.chains_eq finalized names, ← derives.source]

theorem Derives.nodup_chains : item.chains.Nodup := by
  rw [derives.chains_eq finalized names]
  refine ((Entity.nodup_hookTargets names).map ?_).filter _
  rintro ⟨method, origin, bulk⟩ ⟨otherMethod, otherOrigin, otherBulk⟩ same
  obtain ⟨-, rfl, rfl, rfl, -⟩ := HookChain.mk.inj same
  rfl

theorem Derives.method_mem {chain : HookChain} (mem : chain ∈ item.chains) :
    chain.method ∈ PropertyKind.methodNames := by
  rw [derives.chains_eq finalized names] at mem
  obtain ⟨⟨method, origin, bulk⟩, target, rfl⟩ := List.mem_map.mp (List.mem_filter.mp mem).1
  obtain ⟨property, -, -, found, inMethods, rfl, -⟩ := Entity.mem_hookTargets_iff.mp target
  exact PropertyKind.name_mem_methodNames inMethods

end Woven

theorem chainFunction_eq_iff {first second : HookChain}
    (one : first.method ∈ PropertyKind.methodNames)
    (other : second.method ∈ PropertyKind.methodNames) :
    Stub.chainFunction first = Stub.chainFunction second ↔
      first.method = second.method ∧ first.ending = second.ending := by
  rw [Stub.chainFunction_eq, Stub.chainFunction_eq]
  exact append_underscore_inj (PropertyKind.underscore_notMem_methodNames _ one)
    (PropertyKind.underscore_notMem_methodNames _ other)

/-- The functions of operations and of hook chains differ if and only if the chains of the methods
that verbs are called like have other endings than their operations. -/
theorem functions_disjoint_iff (derived : Surface.derive DerivationRule.standard entity =
      .ok item.surface) (capitalized : entity.IsCapitalized) {chains : List HookChain}
    (methods : ∀ chain ∈ chains, chain.method ∈ PropertyKind.methodNames) :
    (∀ operation ∈ item.surface.operations, ∀ chain ∈ chains,
      snakeCase operation.name ≠ Stub.chainFunction chain) ↔
    ∀ family ∈ OperationFamily.calledLikeMethods, ∀ chain ∈ chains,
      chain.method = snakeCase family.verb →
        ∀ ending ∈ family.endings entity, chain.ending ≠ snakeCase ending := by
  constructor
  · intro apart family called chain mem method ending among same
    have telling : OperationFamily.calledLikeMethods ⊆ OperationFamily.telling := by decide
    obtain ⟨operation, inSurface, named⟩ :=
      Surface.exists_operation_of_mem_endings derived (telling called) among
    apply apart operation inSurface chain mem
    rw [named, snakeCase_family capitalized among, Stub.chainFunction_eq, method, same]
  · intro apart operation inSurface chain mem same
    have noUnderscore := PropertyKind.underscore_notMem_methodNames _ (methods chain mem)
    rw [Stub.chainFunction_eq] at same
    rcases (Surface.namesOperation_of_mem derived inSurface).family_or_firstWord capitalized with
      ⟨family, called, ending, among, named⟩ | ⟨word, inWords, rest, named⟩
    · rw [named, snakeCase_family capitalized among] at same
      have verbal := PropertyKind.underscore_notMem_methodNames _
        (PropertyKind.snakeCase_verb_mem_methodNames family called)
      obtain ⟨method, endings⟩ := (append_underscore_inj verbal noUnderscore).mp same
      exact apart family called chain mem method.symm ending among endings.symm
    · rw [named] at same
      have method : word = chain.method := ((append_underscore_inj
        (Operation.underscore_notMem_firstWords word inWords) noUnderscore).mp same).1
      exact PropertyKind.notMem_firstWords _ (methods chain mem) (method ▸ inWords)

/-- A stub module defines no function twice if and only if its names are told apart: those of its
operations, those of its hook chains, and both from each other. -/
theorem nodup_functions_iff (derives : item.Derives DerivationRule.standard entity)
    (finalized : entity.finalized = true) (names : (entity.properties.map Property.name).Nodup)
    (capitalized : entity.IsCapitalized) :
    item.functions.Nodup ↔ entity.OperationsApart ∧ entity.ChainsApart := by
  have woven := derives.chains_eq finalized names
  have distinct : entity.wovenChains.Nodup := woven ▸ derives.nodup_chains finalized names
  have methods : ∀ chain ∈ entity.wovenChains, chain.method ∈ PropertyKind.methodNames :=
    woven ▸ fun _ => derives.method_mem finalized names
  rw [functions, woven, List.nodup_append, Surface.nodup_functions_iff derives.surfaced capitalized,
    List.nodup_map_iff_inj_on distinct]
  simp only [List.forall_mem_map]
  rw [functions_disjoint_iff derives.surfaced capitalized methods]
  refine and_congr_right fun _ => ?_
  constructor
  · rintro ⟨chains, operations⟩
    refine ⟨fun first one second other method ending => ?_, operations⟩
    exact chains first one second other
      ((chainFunction_eq_iff (methods first one) (methods second other)).mpr ⟨method, ending⟩)
  · intro apart
    refine ⟨fun first one second other same => ?_, apart.operations⟩
    obtain ⟨method, ending⟩ :=
      (chainFunction_eq_iff (methods first one) (methods second other)).mp same
    exact apart.endings first one second other method ending

end DerivedEntity

/-! ## Runs -/

namespace Schema

theorem exists_derives_of_mem {rules : List DerivationRule} {entities : List Entity}
    {derived : List DerivedEntity}
    (derives : List.Forall₂ (fun entity item => item.Derives rules entity) entities derived)
    {entity : Entity} (mem : entity ∈ entities) : ∃ item ∈ derived, item.Derives rules entity := by
  induction derives with
  | nil => contradiction
  | cons found others ih =>
      rcases List.mem_cons.mp mem with rfl | later
      · exact ⟨_, List.mem_cons_self, found⟩
      · obtain ⟨item, among, derives⟩ := ih later
        exact ⟨item, List.mem_cons_of_mem _ among, derives⟩

/-- The stub module of every entity is among the files of a project. -/
theorem exists_stubModule_of_generate {schema : Schema} {settings : GenerationSettings}
    {project : Project} (generated : schema.generate settings = .ok project)
    (emits : settings.emitStubs = true) {entity : Entity} (mem : entity ∈ schema.entities) :
    ∃ item : DerivedEntity, item.Derives DerivationRule.standard entity ∧
      (item.stubModule settings.generateDocs).file ∈ project.files := by
  obtain ⟨derived, derives, files⟩ := exists_derived_of_generate generated
  obtain ⟨item, among, derives⟩ := exists_derives_of_mem derives mem
  refine ⟨item, derives, ?_⟩
  rw [files, if_pos emits, StubEmitter.filesOf, List.append_assoc, List.append_assoc]
  exact List.mem_append_left _ (List.mem_map_of_mem among)

namespace Reachable

variable {schema : Schema} {entity : Entity}

/-- In a finalized schema, the entities that properties are bound to have accepted names. -/
theorem isNamed_of_mem_bindings (reached : schema.Reachable) (finalized : schema.phase = .finalized)
    (mem : entity ∈ schema.entities) {property : Property} (stored : property ∈ entity.properties)
    {key : EntityKey} (bound : .entity key ∈ property.kind.bindings.map Binding.target) :
    key.IsNamed := by
  obtain ⟨binding, inBindings, target⟩ := List.mem_map.mp bound
  have known := reached.resolves_of_mem_bindings finalized mem stored inBindings
  rw [target] at known
  obtain ⟨other, otherMem, rfl⟩ := reached.wellFormed.resolves_entity_iff.mp known
  exact reached.isNamed otherMem

/-- In a finalized schema, what operations are named after has the form of an identifier. -/
theorem isCapitalized (reached : schema.Reachable) (finalized : schema.phase = .finalized)
    (mem : entity ∈ schema.entities) : entity.IsCapitalized := by
  have identifiers := (reached.wellFormed.entities entity mem).propertyIdentifiers
  have stored {tag : PropertyTag} {property : Property}
      (among : property ∈ entity.propertiesOf tag) : property ∈ entity.properties :=
    (Entity.mem_activeProperties_iff.mp (List.mem_filter.mp among).1).1
  have name := isCapitalized_pascalCase (reached.isNamed mem).identifier
  have suffixed {tag : PropertyTag} {property : Property}
      (among : property ∈ entity.propertiesOf tag) :
      Text.isCapitalized (property.suffix ++ entity.pascalName) = true := by
    unfold Property.suffix
    split
    · rw [String.empty_append]
      exact name
    · exact isCapitalized_append
        (isCapitalized_pascalCase (identifiers property (stored among))) name
  refine ⟨name, ?_, ?_, ?_, ?_⟩
  · rw [Entity.linkNames, List.forall_mem_map]
    exact fun link inLinks => isCapitalized_pascalCase (identifiers link (stored inLinks))
  · intro child among
    obtain ⟨collection, inCollections, named⟩ := List.mem_filterMap.mp among
    split at named
    · next key link kind =>
      cases named
      have childNamed : key.IsNamed :=
        reached.isNamed_of_mem_bindings finalized mem (stored inCollections)
          (by simp [kind, PropertyKind.bindings])
      exact isCapitalized_pascalCase childNamed.identifier
    · cases named
  · rw [Entity.imageNames, List.forall_mem_map]
    exact fun image => suffixed
  · intro preview among
    rcases List.mem_append.mp among with plan | content
    · obtain ⟨-, rfl⟩ := mem_ite_singleton_iff.mp plan
      exact isCapitalized_append (by decide) name
    · obtain ⟨printOut, inPrintOuts, rfl⟩ := List.mem_map.mp content
      exact suffixed inPrintOuts

/-- When stubs are emitted, every entity has its module among the files of the project, with a
function for each of its operations and hook chains. No function is defined twice if and only if
snake case tells apart what operations are named after, the endings of the chains of one method are
different, and chains of a method that is called like a verb have other endings than the operations
of this verb. -/
theorem stub_functions_distinct_iff (reached : schema.Reachable) {settings : GenerationSettings}
    {project : Project} (generated : schema.generate settings = .ok project)
    (emits : settings.emitStubs = true) (mem : entity ∈ schema.entities) :
    ∃ item : DerivedEntity, item.Derives DerivationRule.standard entity ∧
      (∃ file ∈ project.files, file = (item.stubModule settings.generateDocs).file ∧
        ∀ function ∈ item.functions, (Stub.opening function).toList <:+: file.content.toList) ∧
      (item.functions.Nodup ↔ entity.OperationsApart ∧ entity.ChainsApart) := by
  have finalized := phase_of_generate generated
  obtain ⟨item, derives, among⟩ := exists_stubModule_of_generate generated emits mem
  refine ⟨item, derives, ⟨_, among, rfl, fun function mem => item.opening_infix_file mem _⟩, ?_⟩
  exact DerivedEntity.nodup_functions_iff derives (reached.settled finalized entity mem).finalized
    (reached.wellFormed.entities entity mem).propertyNames (reached.isCapitalized finalized mem)

/-- Invoices of customers, to be emitted as stubs. -/
def stubbedInvoices : List Command :=
  Demo.Sales.categories ++ Demo.Sales.customers ++ Demo.Sales.invoices ++ [.finish]

/-- The functions of an invoice of a customer are all different. -/
theorem stub_functions_distinct_invoices :
    let schema := (({ name := "sales" } : Schema).executeAll stubbedInvoices).1
    ∃ project, schema.generate {} = .ok project ∧
      ∃ entity ∈ schema.entities, entity.key = Demo.Sales.invoice ∧
        ∃ item : DerivedEntity, item.functions.Nodup ∧
          ∃ file ∈ project.files, file = (item.stubModule true).file ∧
            ∀ function ∈ ["change_parent_invoice_for_customer", "insert_storedobject_massive"],
              (Stub.opening function).toList <:+: file.content.toList := by
  intro schema
  have found : (schema.deriveAll DerivationRule.standard).toOption.isSome = true ∧
      ∃ entity ∈ schema.entities, entity.key = Demo.Sales.invoice ∧
        entity.OperationsApart ∧ entity.ChainsApart ∧ entity.derived?.all (fun item =>
          ∀ function ∈ ["change_parent_invoice_for_customer", "insert_storedobject_massive"],
            function ∈ item.functions) = true := by
    decide +kernel
  obtain ⟨derivable, entity, mem, key, operations, chains, stubs⟩ := found
  obtain ⟨project, generated⟩ := exists_generate_of_deriveAll {} derivable
  have reached : schema.Reachable := (Reachable.start "sales").executeAll stubbedInvoices
  have finalized := phase_of_generate generated
  obtain ⟨item, derives, ⟨file, emitted, written, defined⟩, distinct⟩ :=
    reached.stub_functions_distinct_iff generated rfl mem
  rw [derives.derived?_eq (reached.settled finalized entity mem).finalized
    (reached.wellFormed.entities entity mem).propertyNames rfl, Option.all_some,
    decide_eq_true_eq] at stubs
  exact ⟨project, generated, entity, mem, key, item, distinct.mpr ⟨operations, chains⟩, file,
    emitted, written, fun function among => defined function (stubs function among)⟩

/-- Orders whose identity is called like the order, linked to two parents. -/
def linkedOrders : List Command :=
  Demo.identified Demo.Sales.customer "Customer" "A party that places orders" ++
  Demo.identified Demo.Sales.product "Product" "A sellable article" ++
  [.entity "sales" "Order" "Order",
   Demo.attach Demo.Sales.order (.ofKind .storedObject),
   Demo.attach Demo.Sales.order { name := "ORDER", kind := .uniqueIdentified },
   Demo.attach Demo.Sales.order (.ofKind .lastUpdate),
   Demo.attach Demo.Sales.order { name := "P_O", kind := .linkedToParent Demo.Sales.customer },
   Demo.attach Demo.Sales.order { name := "PO", kind := .linkedToParent Demo.Sales.product },
   .finish]

/-- The module of orders defines two functions twice: updating an order is the name of an operation
and of a hook chain, and the links become the same in snake case. -/
theorem stub_functions_repeated_orders :
    let schema := (({ name := "sales" } : Schema).executeAll linkedOrders).1
    schema.Reachable ∧ schema.phase = .finalized ∧
      (schema.validate ValidationRule.standard).isValid = true ∧
      ∃ project, schema.generate {} = .ok project ∧
        ∃ entity ∈ schema.entities, ∃ item : DerivedEntity,
          item.Derives DerivationRule.standard entity ∧
          (item.stubModule true).file ∈ project.files ∧
          item.functions.count "update_order" = 2 ∧
          item.functions.count "change_parent_order_for_po" = 2 := by
  intro schema
  have found : (schema.deriveAll DerivationRule.standard).toOption.isSome = true ∧
      (schema.validate ValidationRule.standard).isValid = true ∧
      ∃ entity ∈ schema.entities, entity.key = Demo.Sales.order ∧
        entity.derived?.all (fun item => item.functions.count "update_order" = 2 ∧
          item.functions.count "change_parent_order_for_po" = 2) = true := by
    decide +kernel
  obtain ⟨derivable, accepted, entity, mem, -, repeated⟩ := found
  obtain ⟨project, generated⟩ := exists_generate_of_deriveAll {} derivable
  have reached : schema.Reachable := (Reachable.start "sales").executeAll linkedOrders
  have finalized := phase_of_generate generated
  obtain ⟨item, derives, emitted⟩ := exists_stubModule_of_generate generated rfl mem
  rw [derives.derived?_eq (reached.settled finalized entity mem).finalized
    (reached.wellFormed.entities entity mem).propertyNames rfl, Option.all_some,
    decide_eq_true_eq] at repeated
  exact ⟨reached, finalized, accepted, project, generated, entity, mem, item, derives, emitted,
    repeated⟩

end Reachable

end Schema

end EntitySurface
