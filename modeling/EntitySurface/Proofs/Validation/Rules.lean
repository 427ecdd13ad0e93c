import EntitySurface.Validation.Rule

/-!
# What an accepted schema satisfies

A schema is accepted when none of the rules reports an error; warnings do not count. For every rule:
the codes of its errors, and what a schema satisfies when it reports none.
-/

namespace EntitySurface

theorem Report.isValid_mergeAll_iff {reports : List Report} :
    (Report.mergeAll reports).isValid = true ↔ ∀ report ∈ reports, report.isValid = true := by
  simp [Report.isValid, Report.mergeAll]

theorem Report.isValid_iff {report : Report} : report.isValid = true ↔ report.errors = [] :=
  List.isEmpty_iff

theorem Report.toFault?_eq_none_iff {report : Report} :
    report.toFault? = none ↔ report.isValid = true := by
  simp [Report.toFault?]

/-- The codes of the errors that a rule reports. -/
def ValidationRule.codes : ValidationRule → List ErrorCode
  | entityNames => [.invalidEntityName, .duplicateEntityName]
  | genericBindings => [.unresolvedBinding]
  | linkExclusivity => [.exclusiveLinkRoles]
  | scheduleDependency => [.invalidScheduleDependency]
  | linkRules => [.invalidSameParent, .invalidStateRestriction]
  | loaderAliases => [.unresolvedLoaderAlias]
  | surface => []

namespace Schema

variable {schema : Schema}

/-- All rules have to accept the schema. -/
theorem isValid_validate_iff {rules : List ValidationRule} :
    (schema.validate rules).isValid = true ↔
      ∀ rule ∈ rules, (rule.check schema).isValid = true := by
  rw [validate, Report.isValid_mergeAll_iff, List.forall_mem_map]

/-- Every error of a validation is an error of one of the rules. -/
theorem mem_errors_validate_iff {rules : List ValidationRule} {finding : ErrorFinding} :
    finding ∈ (schema.validate rules).errors ↔
      ∃ rule ∈ rules, finding ∈ (rule.check schema).errors := by
  simp only [validate, Report.mergeAll, List.flatMap_map, List.mem_flatMap]

/-! ## Names -/

/-- Entities that have this in common differ in the case of their names at most. -/
def foldedName (entity : Entity) : String × String :=
  (entity.key.space, Text.lowercase entity.key.name)

/-- The name is an identifier that starts with an uppercase letter. -/
def isPascalCase (name : String) : Bool :=
  Name.isIdentifier name && name.toList.head?.any Char.isUpper

/-- Names are compared with those of all entities before. -/
theorem isValid_checkEntityNames_go_iff {seen : List (String × String)} {entities : List Entity} :
    (Report.mergeAll (checkEntityNames.go seen entities)).isValid = true ↔
      (∀ entity ∈ entities, isPascalCase entity.key.name = true) ∧
        (∀ entity ∈ entities, foldedName entity ∉ seen) ∧ (entities.map foldedName).Nodup := by
  induction entities generalizing seen with
  | nil => simp [checkEntityNames.go, Report.mergeAll, Report.isValid]
  | cons entity rest ih =>
      rw [checkEntityNames.go, Report.isValid_mergeAll_iff, List.forall_mem_cons,
        ← Report.isValid_mergeAll_iff, ih]
      have here : ∀ {misspelt double : ErrorFinding} {warnings : List WarningFinding},
          ({ errors := (if isPascalCase entity.key.name then [] else [misspelt]) ++
               if seen.contains (foldedName entity) then [double] else []
             warnings } : Report).isValid = true ↔
            isPascalCase entity.key.name = true ∧ foldedName entity ∉ seen := by
        intro misspelt double warnings
        by_cases shaped : isPascalCase entity.key.name = true <;>
          by_cases known : foldedName entity ∈ seen <;> simp [Report.isValid, shaped, known]
      have apart : (∀ other ∈ rest, foldedName other ∉ foldedName entity :: seen) ↔
          foldedName entity ∉ rest.map foldedName ∧ ∀ other ∈ rest, foldedName other ∉ seen := by
        simp only [List.mem_cons, not_or, List.mem_map, not_exists, not_and]
        exact ⟨fun both => ⟨fun other mem => (both other mem).1, fun other mem =>
          (both other mem).2⟩, fun both other mem => ⟨both.1 other mem, both.2 other mem⟩⟩
      refine (and_congr here (and_congr_right' (and_congr_left' apart))).trans ?_
      rw [List.forall_mem_cons, List.forall_mem_cons, List.map_cons, List.nodup_cons]
      simp only [and_assoc, and_left_comm]

theorem isValid_checkEntityNames_iff :
    schema.checkEntityNames.isValid = true ↔
      (∀ entity ∈ schema.entities, isPascalCase entity.key.name = true) ∧
        (schema.entities.map foldedName).Nodup := by
  rw [checkEntityNames, isValid_checkEntityNames_go_iff]
  simp

/-! ## Bindings and aliases -/

theorem isValid_checkBindings_iff :
    schema.checkBindings.isValid = true ↔
      ∀ entity ∈ schema.entities, ∀ property ∈ entity.properties,
        ∀ binding ∈ property.kind.bindings, schema.resolves binding.target = true := by
  simp [checkBindings, Report.isValid]

theorem isValid_checkLoaderAliases_iff :
    schema.checkLoaderAliases.isValid = true ↔
      ∀ entity ∈ schema.entities, ∀ header ∈ entity.loaderAliases,
        entity.hasColumn header.column = true := by
  simp only [checkLoaderAliases, Report.isValid_mergeAll_iff, List.mem_flatMap, List.mem_map]
  constructor
  · intro sound entity mem header inAliases
    have report := sound _ ⟨entity, mem, header, inAliases, rfl⟩
    cases found : entity.hasColumn header.column with
    | true => rfl
    | false => simp [found, Report.isValid] at report
  · rintro sound report ⟨entity, mem, header, inAliases, rfl⟩
    rw [sound entity mem header inAliases]
    split
    · contradiction
    · split <;> rfl

/-! ## Links and schedules -/

theorem isValid_checkLinkExclusivity_iff :
    schema.checkLinkExclusivity.isValid = true ↔
      ∀ entity ∈ schema.entities, ¬(entity.isLink = true ∧ entity.isAutolink = true) := by
  simp [checkLinkExclusivity, Report.isValid]

theorem isValid_checkScheduleDependencies_iff :
    schema.checkScheduleDependencies.isValid = true ↔
      ∀ entity ∈ schema.entities, ∀ property ∈ entity.propertiesOf .schedule,
        ∀ dependency, property.kind = .schedule dependency →
          (schema.entity? dependency).any (fun link => linksToItself link entity.key) = true := by
  simp only [checkScheduleDependencies, Report.isValid, List.isEmpty_iff, List.flatMap_eq_nil_iff]
  refine forall₂_congr fun entity _ => forall₂_congr fun property _ => ?_
  cases property.kind <;> simp

theorem isValid_checkLinkRules_iff :
    schema.checkLinkRules.isValid = true ↔
      ∀ entity ∈ schema.entities, ∀ property ∈ entity.propertiesOf .linkObject,
        ∀ left right, property.kind = .linkObject left right → ∀ rule ∈ property.rules,
          schema.linkRuleFindings (propertyPath entity property) left right rule = [] := by
  simp only [checkLinkRules, Report.isValid, List.isEmpty_iff, List.flatMap_eq_nil_iff]
  refine forall₂_congr fun entity _ => forall₂_congr fun property _ => ?_
  cases property.kind <;> simp

theorem linkRuleFindings_eq_nil_iff {path : Option String} {left right : EntityKey}
    {rule : BusinessRule} :
    schema.linkRuleFindings path left right rule = [] ↔
      (∀ parent, rule = .sameParent parent →
        hasParent (schema.entity? left) parent = true ∧
          hasParent (schema.entity? right) parent = true) ∧
      (∀ states, rule = .leftStateRestriction states →
        schema.stateProblem? (schema.entity? left) states = none) ∧
      ∀ states, rule = .rightStateRestriction states →
        schema.stateProblem? (schema.entity? right) states = none := by
  unfold linkRuleFindings
  cases rule with
  | sameParent parent => simp
  | leftStateRestriction states =>
      cases found : schema.stateProblem? (schema.entity? left) states <;> simp [found]
  | rightStateRestriction states =>
      cases found : schema.stateProblem? (schema.entity? right) states <;> simp [found]
  | _ => simp

theorem stateProblem?_eq_none_iff {side : Option Entity} {states : List String} :
    schema.stateProblem? side states = none ↔
      ∃ linked lifecycle category registered, side = some linked ∧
        linked.firstOf? .lifecycle = some lifecycle ∧ lifecycle.kind = .lifecycle category ∧
        schema.catalog.category? category = some registered ∧
        ∀ state ∈ states, registered.contains state = true := by
  unfold stateProblem?
  cases side with
  | none => simp
  | some linked =>
      cases first : linked.firstOf? .lifecycle with
      | none => simp [first]
      | some lifecycle =>
          cases kind : lifecycle.kind with
          | lifecycle category =>
              cases found : schema.catalog.category? category <;> simp [first, kind, found]
          | _ => simp [first, kind]

/-! ## Codes -/

theorem code_of_mem_checkEntityNames_go {seen : List (String × String)} {entities : List Entity}
    {finding : ErrorFinding}
    (mem : finding ∈ (Report.mergeAll (checkEntityNames.go seen entities)).errors) :
    finding.code ∈ ValidationRule.entityNames.codes := by
  induction entities generalizing seen with
  | nil => contradiction
  | cons entity rest ih =>
      simp only [checkEntityNames.go, Report.mergeAll, List.flatMap_cons, List.mem_append] at mem
      rcases mem with (shape | double) | later
      · split at shape
        · contradiction
        · simp [List.mem_singleton.mp shape, ValidationRule.codes]
      · split at double
        · simp [List.mem_singleton.mp double, ValidationRule.codes]
        · contradiction
      · exact ih later

theorem code_of_mem_linkRuleFindings {path : Option String} {left right : EntityKey}
    {rule : BusinessRule} {finding : ErrorFinding}
    (mem : finding ∈ schema.linkRuleFindings path left right rule) :
    finding.code ∈ ValidationRule.linkRules.codes := by
  unfold linkRuleFindings at mem
  dsimp only at mem
  repeat' split at mem
  all_goals first
    | contradiction
    | simp [List.mem_singleton.mp mem, ValidationRule.codes]

/-- A rule reports errors of its own codes only. Thin surfaces are warned about and no error. -/
theorem code_mem_codes {rule : ValidationRule} {finding : ErrorFinding}
    (mem : finding ∈ (rule.check schema).errors) : finding.code ∈ rule.codes := by
  cases rule with
  | entityNames => exact code_of_mem_checkEntityNames_go mem
  | genericBindings =>
      simp only [ValidationRule.check, checkBindings, List.mem_flatMap, List.mem_map] at mem
      obtain ⟨entity, -, property, -, binding, -, rfl⟩ := mem
      exact List.mem_cons_self
  | linkExclusivity =>
      obtain ⟨entity, -, rfl⟩ := List.mem_map.mp mem
      exact List.mem_cons_self
  | scheduleDependency =>
      simp only [ValidationRule.check, checkScheduleDependencies, List.mem_flatMap] at mem
      obtain ⟨entity, -, property, -, reported⟩ := mem
      split at reported
      · split at reported
        · contradiction
        · rw [List.mem_singleton.mp reported]
          exact List.mem_cons_self
      · contradiction
  | linkRules =>
      simp only [ValidationRule.check, checkLinkRules, List.mem_flatMap] at mem
      obtain ⟨entity, -, property, -, reported⟩ := mem
      split at reported
      · obtain ⟨rule, -, found⟩ := List.mem_flatMap.mp reported
        exact code_of_mem_linkRuleFindings found
      · contradiction
  | loaderAliases =>
      simp only [ValidationRule.check, checkLoaderAliases, Report.mergeAll, List.mem_flatMap,
        List.mem_map] at mem
      obtain ⟨report, ⟨entity, -, header, -, rfl⟩, reported⟩ := mem
      split at reported
      · rw [List.mem_singleton.mp reported]
        exact List.mem_cons_self
      · split at reported <;> contradiction
  | surface => contradiction

end Schema

end EntitySurface
