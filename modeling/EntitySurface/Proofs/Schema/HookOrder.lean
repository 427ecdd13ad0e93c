import EntitySurface.Demo
import EntitySurface.Proofs.Entity.HookChains
import EntitySurface.Proofs.Schema.Course
import EntitySurface.Proofs.Schema.Finalized

/-!
# The order of hooks

Hooks run property by property, and of one property the built-in hooks run before the declared ones.
The properties stand in the order in which they were attached, and the declared hooks of a property
in the order in which they were declared: whatever a run does later, a property keeps its place, and
further hooks are declared behind the ones that it has.
-/

namespace EntitySurface

/-- The property under the same name, with the same kind and visibility, and with further hooks
declared at most behind those that it has. -/
def Property.Continues (property later : Property) : Prop :=
  later.name = property.name ∧ later.kind = property.kind ∧
    later.visibility = property.visibility ∧ property.declaredHooks <+: later.declaredHooks

theorem Property.Continues.refl (property : Property) : property.Continues property :=
  ⟨rfl, rfl, rfl, List.prefix_refl _⟩

theorem Property.Continues.trans {first middle last : Property} (former : first.Continues middle)
    (latter : middle.Continues last) : first.Continues last := by
  rcases former with ⟨name, kind, visibility, hooks⟩
  rcases latter with ⟨laterName, laterKind, laterVisibility, laterHooks⟩
  exact ⟨laterName.trans name, laterKind.trans kind, laterVisibility.trans visibility,
    hooks.trans laterHooks⟩

/-- Settings do not count. -/
theorem Property.continues_of_unresolved_eq {property later : Property}
    (same : later.unresolved = property.unresolved) : property.Continues later := by
  simp only [Property.unresolved, Property.mk.injEq] at same
  rcases same with ⟨name, kind, -, visibility, -, hooks, -⟩
  exact ⟨name, kind, visibility, hooks ▸ List.prefix_refl _⟩

namespace Entity

/-- The properties of an entity continue in their places. -/
def KeepsPlaces (before after : Entity) : Prop :=
  ∀ (position : Nat) (property : Property), before.properties[position]? = some property →
    ∃ later, after.properties[position]? = some later ∧ property.Continues later

variable {entity grown : Entity}

theorem KeepsPlaces.of_properties_eq (same : grown.properties = entity.properties) :
    entity.KeepsPlaces grown := by
  intro position property stored
  exact ⟨property, same ▸ stored, Property.Continues.refl property⟩

theorem KeepsPlaces.trans {first middle last : Entity} (former : first.KeepsPlaces middle)
    (latter : middle.KeepsPlaces last) : first.KeepsPlaces last := by
  intro position property stored
  rcases former position property stored with ⟨between, betweenStored, continued⟩
  rcases latter position between betweenStored with ⟨later, laterStored, continuedOn⟩
  exact ⟨later, laterStored, continued.trans continuedOn⟩

/-- A new property takes the last place. -/
theorem keepsPlaces_withProperty (entity : Entity) (property : Property) :
    entity.KeepsPlaces (entity.withProperty property) := by
  intro position other stored
  have inRange := (List.getElem?_eq_some_iff.mp stored).1
  apply Exists.intro other
  constructor
  · rw [← stored]
    exact List.getElem?_append_left inRange
  · exact Property.Continues.refl other

theorem keepsPlaces_modifyProperty {change : Property → Property}
    (continued : ∀ property : Property, property.Continues (change property)) (entity : Entity)
    (name : String) : entity.KeepsPlaces (entity.modifyProperty name change) := by
  have along : ∀ (properties : List Property) (position : Nat) (property : Property),
      properties[position]? = some property →
        ∃ later, (modifyProperty.go name change properties)[position]? = some later ∧
          property.Continues later := by
    intro properties
    induction properties with
    | nil =>
        intro position property stored
        simp at stored
    | cons first rest ih =>
        intro position property stored
        rw [modifyProperty_go_cons]
        cases position with
        | zero =>
            obtain rfl : first = property := by simpa using stored
            split
            · exact ⟨change first, rfl, continued first⟩
            · exact ⟨first, rfl, Property.Continues.refl first⟩
        | succ position =>
            split
            · exact ⟨property, stored, Property.Continues.refl property⟩
            · exact ih position property stored
  exact along entity.properties

theorem keepsPlaces_finalize (entity : Entity) : entity.KeepsPlaces entity.finalize.1 := by
  intro position property stored
  obtain ⟨finalized, settled⟩ := entity.exists_finalize_eq
  have same := congrArg (fun properties => properties[position]?) entity.map_unresolved_settling
  simp only [List.getElem?_map, stored, Option.map_some, Option.map_eq_some_iff] at same
  rcases same with ⟨later, laterStored, unresolved⟩
  rw [settled]
  exact ⟨later, laterStored, Property.continues_of_unresolved_eq unresolved⟩

/-- Nothing that happens to an entity moves its properties or the hooks declared on them. -/
theorem keepsPlaces_course : Entity.Course KeepsPlaces where
  refl entity := KeepsPlaces.of_properties_eq rfl
  trans := KeepsPlaces.trans
  addition := by
    intro schema entity grown added
    cases added with
    | description | field => exact KeepsPlaces.of_properties_eq rfl
    | property => exact keepsPlaces_withProperty entity _
    | rule found fits added =>
        rcases eq_or_eq_withRule added with rfl | rfl
        · exact KeepsPlaces.of_properties_eq rfl
        · apply keepsPlaces_modifyProperty
          exact fun property => ⟨rfl, rfl, rfl, List.prefix_refl _⟩
    | hook added =>
        rw [← (addHook_eq_ok_iff.mp added).2]
        apply keepsPlaces_modifyProperty
        exact fun property => ⟨rfl, rfl, rfl, List.prefix_append _ _⟩
    | widget resolved added =>
        rw [addWidget_ok_eq added]
        exact KeepsPlaces.of_properties_eq rfl
    | tab identifier added =>
        rw [← (addTab_eq_ok_iff.mp added).2.2]
        exact KeepsPlaces.of_properties_eq rfl
    | loaderAlias added =>
        rw [← (addAlias_eq_ok_iff.mp added).2]
        exact KeepsPlaces.of_properties_eq rfl
  finalize := keepsPlaces_finalize

/-! ## Resolving one chain -/

/-- What is not a target is refused. -/
theorem hookChain_eq_error (finalized : entity.finalized = true)
    {method origin : String} {bulk : Bool} (absent : (method, origin, bulk) ∉ entity.hookTargets) :
    entity.hookChain method origin bulk =
      .error (.unknownHookTarget entity.key method origin) := by
  unfold hookChain
  simp only [finalized, Bool.not_true, Bool.false_eq_true, if_false]
  split
  · next found =>
    exfalso
    apply absent
    rw [Option.any_eq_true] at found
    rcases found with ⟨targeted, resolved, variant⟩
    rcases Option.bind_eq_some_iff.mp resolved with ⟨property, first, declared⟩
    rw [mem_hookTargets_iff]
    exact ⟨property, List.mem_of_find?_eq_some first, by simpa using List.find?_some first,
      targeted, List.mem_of_find?_eq_some declared, by simpa using List.find?_some declared,
      by cases bulk <;> simp_all⟩
  · rfl

/-- The hooks around a method, each active property with its built-in hooks before the declared
ones. -/
theorem Settled.hooksAround_eq (settled : entity.Settled) (method origin : String) :
    entity.hooksAround method origin =
      (entity.activeProperties.flatMap fun property =>
        property.plannedHooks (entity.siblings []) ++ property.declaredHooks).filter
          fun hook => hook.targets method origin := by
  unfold hooksAround
  congr 1
  apply List.flatMap_congr
  intro property active
  exact settled.hooks_eq (mem_activeProperties_iff.mp active).1

end Entity

namespace Schema.Reachable

variable {schema : Schema} {entity : Entity}

/-- On an entity of a finalized schema, the hooks around a method can be resolved exactly if an
active property of the given name has the method and, for the bulk variant, if the method has one;
otherwise the target is unknown. The chain consists of the three phases of one sequence, which holds
the hooks around the method of all active properties in their order, the built-in hooks of each
property before the declared ones. At any point of the run that led to the schema, the properties
that the entity had stood where they stand now, and the hooks declared on them were the first of
those declared now. -/
theorem hookChain_exact (reached : schema.Reachable) (finalized : schema.phase = .finalized)
    (mem : entity ∈ schema.entities) (method origin : String) (bulk : Bool) :
    ((∃ chain, entity.hookChain method origin bulk = .ok chain) ↔
      ∃ property ∈ entity.activeProperties, property.name = origin ∧
        ∃ found ∈ property.kind.methods, found.name = method ∧
          (bulk = true → found.hasBulk = true)) ∧
    (∀ fault, entity.hookChain method origin bulk = .error fault →
      fault = .unknownHookTarget entity.key method origin) ∧
    (∀ chain, entity.hookChain method origin bulk = .ok chain →
      let around := (entity.activeProperties.flatMap fun property =>
        property.plannedHooks (entity.siblings []) ++ property.declaredHooks).filter
          fun hook => hook.method == method && hook.origin == origin
      chain.entity = entity.key ∧ chain.method = method ∧ chain.origin = origin ∧
        chain.bulk = bulk ∧
        chain.preliminary = around.filter (fun hook => hook.phase == .pre true) ∧
        chain.pre = around.filter (fun hook => hook.phase == .pre false) ∧
        chain.post = around.filter fun hook => hook.phase == .post) ∧
    ∀ former : Schema, former.Reachable → ∀ commands, (former.executeAll commands).1 = schema →
      ∀ before ∈ former.entities, before.key = entity.key → before.KeepsPlaces entity := by
  have settled := reached.settled finalized entity mem
  have names := (reached.wellFormed.entities entity mem).propertyNames
  have places : ∀ former : Schema, former.Reachable → ∀ commands,
      (former.executeAll commands).1 = schema →
        ∀ before ∈ former.entities, before.key = entity.key → before.KeepsPlaces entity := by
    rintro former start commands rfl before beforeMem sameKey
    rcases start.continues_executeAll Entity.keepsPlaces_course commands before beforeMem with
      ⟨after, afterMem, afterKey, kept⟩
    rwa [reached.wellFormed.eq_of_key_eq afterMem mem (afterKey.trans sameKey)] at kept
  rw [← Entity.mem_hookTargets_iff]
  by_cases target : (method, origin, bulk) ∈ entity.hookTargets
  · rw [Entity.hookChain_eq settled.finalized names target]
    refine ⟨iff_of_true ⟨_, rfl⟩ target, ?_, ?_, places⟩
    · intro fault failed
      cases failed
    · intro chain woven
      rw [Except.ok.injEq] at woven
      subst woven
      unfold Entity.chainAround
      rw [settled.hooksAround_eq]
      exact ⟨rfl, rfl, rfl, rfl, rfl, rfl, rfl⟩
  · rw [Entity.hookChain_eq_error settled.finalized target]
    refine ⟨iff_of_false ?_ target, ?_, ?_, places⟩
    · rintro ⟨chain, woven⟩
      cases woven
    · intro fault failed
      rw [Except.error.injEq] at failed
      exact failed.symm
    · intro chain woven
      cases woven

/-- Hooks that are declared on the customers against the order of the phases. -/
def customerHooks : List Command :=
  [.hook Demo.Sales.customer "LASTUPDATE" "insert" "STOREDOBJECT" .post,
   .hook Demo.Sales.customer "LASTUPDATE" "insert" "STOREDOBJECT" (.pre false),
   .hook Demo.Sales.customer "NUMBERED" "insert" "STOREDOBJECT" (.pre false),
   .hook Demo.Sales.customer "NAMED" "insert" "STOREDOBJECT" (.pre true),
   .finish]

/-- The numbering comes before the log of updates, each with its built-in hook first. -/
theorem hookChain_exact_customers :
    let former := (({ name := "sales" } : Schema).executeAll Demo.Sales.customers).1
    let schema := (former.executeAll customerHooks).1
    schema.phase = .finalized ∧
    (schema.entities.map fun entity => (entity.hookChain "insert" "STOREDOBJECT" true).map
      fun chain => (chain.preliminary.map MethodHook.label, chain.pre.map MethodHook.label,
        chain.post.map MethodHook.label)) =
      [.ok (["named processing"],
        ["assign next number", "numbered processing", "stamp update user and time",
          "lastupdate processing"],
        ["lastupdate processing"])] ∧
    ∀ entity ∈ schema.entities,
      (∃ chain, entity.hookChain "insert" "STOREDOBJECT" true = .ok chain) ∧
      ∀ before ∈ former.entities, before.key = entity.key → before.KeepsPlaces entity := by
  intro former schema
  have start : former.Reachable := (Reachable.start "sales").executeAll Demo.Sales.customers
  have reached : schema.Reachable := start.executeAll customerHooks
  have finalized : schema.phase = .finalized := by decide +kernel
  have targeted : ∀ entity ∈ schema.entities, ∃ property ∈ entity.activeProperties,
      property.name = "STOREDOBJECT" ∧ ∃ found ∈ property.kind.methods, found.name = "insert" ∧
        (true = true → found.hasBulk = true) := by
    decide +kernel
  refine ⟨finalized, by decide +kernel, ?_⟩
  intro entity mem
  rcases reached.hookChain_exact finalized mem "insert" "STOREDOBJECT" true with
    ⟨resolved, -, -, places⟩
  constructor
  · exact resolved.mpr (targeted entity mem)
  · exact places former start customerHooks rfl

end Schema.Reachable

end EntitySurface
