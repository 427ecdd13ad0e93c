import EntitySurface.Derivation.Arguments
import EntitySurface.Proofs.Entity.Finalization

/-!
# Settled entities

A successful finalization leaves every property with the settings that it gets after the properties
stored before it. From this the settings of each kind can be read off without going back to the
pass: hooks, the arguments of creation and the arguments of parents depend on the stored properties
alone, and a numbering is scoped by the first parent link that is stored before it.
-/

namespace EntitySurface

namespace Property

/-- A parent link as the scope of a numbering: its name, its argument and its parent. -/
def scope? (link : Property) : Option (String × String × EntityKey) :=
  match link.kind with
  | .linkedToParent parent => some (link.name, parentArgumentName link.name, parent)
  | _ => none

/-- The first parent link, whether active or not. -/
def firstLink? (properties : List Property) : Option Property :=
  properties.find? fun property => property.tag == .linkedToParent

theorem mem_of_firstLink?_eq_some {properties : List Property} {link : Property}
    (found : firstLink? properties = some link) :
    link ∈ properties ∧ ∃ parent, link.kind = .linkedToParent parent := by
  have tagged : link.tag = .linkedToParent := by simpa using List.find?_some found
  exact ⟨List.mem_of_find?_eq_some found, PropertyKind.tag_eq_linkedToParent_iff.mp tagged⟩

end Property

namespace Entity

/-- What a property of the entity sees after the properties in `earlier` are settled. -/
def siblings (entity : Entity) (earlier : List Property) : Siblings :=
  { entity := entity.key, all := entity.properties, earlier }

/-- Every property has the settings that it gets after the properties before it. -/
structure Settled (entity : Entity) : Prop where
  finalized : entity.finalized = true
  resolved : ∀ earlier property later, entity.properties = earlier ++ property :: later →
    ∃ settings, property.settle (entity.siblings earlier) = .ok settings ∧
      property.resolved = some settings

variable {entity before : Entity}

theorem settled_of_finalize (done : before.finalize = (entity, none)) : entity.Settled := by
  have success : before.finalize.2 = none := congrArg Prod.snd done
  have settled : before.settling.2 = none := (finalize_eq_none_iff.mp success).1
  rw [finalize_eq_of_none success] at done
  cases done
  constructor
  · exact rfl
  · obtain ⟨tail, final, -, traced⟩ := Property.settleFrom_trace (Prod.ext rfl settled)
    rw [List.nil_append] at final
    intro earlier property later split
    obtain ⟨settings, outcome, resolved⟩ := traced earlier property later (final ▸ split)
    refine ⟨settings, ?_, resolved⟩
    rw [← outcome]
    exact Property.settle_congr rfl before.map_unresolved_settling

namespace Settled

variable (settled : entity.Settled)
include settled

/-- The settings of a stored property. -/
theorem resolved_eq {earlier later : List Property} {property : Property}
    (split : entity.properties = earlier ++ property :: later) :
    property.resolved = some { property.plainSettings (entity.siblings earlier) with
      hooks := property.plannedHooks (entity.siblings []) } := by
  obtain ⟨settings, outcome, resolved⟩ := settled.resolved earlier property later split
  obtain ⟨-, -, rfl⟩ := Property.settle_eq_ok_iff.mp outcome
  exact resolved

/-- Every planned hook has its origin. -/
theorem exists_origin {property : Property} (mem : property ∈ entity.properties) {plan : HookPlan}
    (planned : plan ∈ property.hookPlans) : ∃ origin, entity.properties.find?
      (fun sibling => sibling.tag == plan.tag) = some origin := by
  obtain ⟨earlier, later, split⟩ := List.append_of_mem mem
  obtain ⟨settings, outcome, -⟩ := settled.resolved earlier property later split
  have present := (Property.settle_eq_ok_iff.mp outcome).2.1 plan planned
  rw [Siblings.has_eq_isSome_first?] at present
  exact Option.isSome_iff_exists.mp present

/-- The hooks of a stored property do not depend on the order in which properties are settled. -/
theorem hooks_eq {property : Property} (mem : property ∈ entity.properties) :
    property.hooks = property.plannedHooks (entity.siblings []) ++ property.declaredHooks := by
  obtain ⟨earlier, later, split⟩ := List.append_of_mem mem
  rw [Property.hooks, settled.resolved_eq split]

/-- The parent of a stored parent link goes by the default name. -/
theorem parentArgument?_eq {property : Property} (mem : property ∈ entity.properties) :
    property.parentArgument? = property.unresolved.parentArgument? := by
  obtain ⟨earlier, later, split⟩ := List.append_of_mem mem
  unfold Property.parentArgument?
  rw [settled.resolved_eq split]
  cases kind : property.kind <;> simp [Property.unresolved, Property.plainSettings, kind]

/-- The arguments that insertion gained. -/
theorem extraArguments_storedObject {property : Property} (mem : property ∈ entity.properties)
    (kind : property.kind = .storedObject) (method : String) :
    property.extraArguments method =
      (Property.insertArguments (entity.siblings [])).filter fun argument =>
        argument.method == method := by
  obtain ⟨earlier, later, split⟩ := List.append_of_mem mem
  rw [Property.extraArguments, settled.resolved_eq split]
  simp only [Property.plainSettings, kind]
  rfl

/-! ## The scope of a numbering -/

omit settled in
/-- The first answer for the elements that pass a test, when all of these have an answer. -/
theorem findSome?_filter {α β : Type} {list : List α} {test : α → Bool} {answer? : α → Option β}
    (answered : ∀ item ∈ list, test item = true → (answer? item).isSome) :
    (list.filter test).findSome? answer? = (list.find? test).bind answer? := by
  induction list with
  | nil => rfl
  | cons item rest ih =>
      cases passes : test item with
      | false =>
          rw [List.filter_cons_of_neg (by simp [passes]), List.find?_cons_of_neg (by simp [passes])]
          exact ih fun other mem => answered other (List.mem_cons_of_mem _ mem)
      | true =>
          obtain ⟨found, same⟩ := Option.isSome_iff_exists.mp
            (answered item List.mem_cons_self passes)
          simp [List.filter_cons_of_pos passes, passes, same]

section Scope

variable (names : (entity.properties.map Property.name).Nodup) {earlier later : List Property}
  {property : Property} (split : entity.properties = earlier ++ property :: later)
include names split

theorem resolved?_parentArgument {link : Property} (mem : link ∈ earlier)
    (tagged : link.tag = .linkedToParent) :
    ((entity.siblings earlier).resolved? link.name).bind ResolvedSettings.parentArgument =
      some (parentArgumentName link.name) := by
  rw [split, List.map_append] at names
  have found : ({ entity with properties := earlier } : Entity).property? link.name = some link :=
    property?_eq_some_of_mem (List.nodup_append.mp names).1 mem
  obtain ⟨first, rest, here⟩ := List.append_of_mem mem
  have whole : entity.properties = first ++ link :: (rest ++ property :: later) := by
    rw [split, here, List.append_assoc, List.cons_append]
  have resolved := settled.resolved_eq whole
  obtain ⟨parent, kind⟩ := PropertyKind.tag_eq_linkedToParent_iff.mp tagged
  simp only [Property.plainSettings, kind] at resolved
  show ((({ entity with properties := earlier } : Entity).property? link.name).bind
    Property.resolved).bind _ = _
  rw [found, Option.bind_some, resolved, Option.bind_some]

omit settled in
theorem resolved?_eq_none {link : Property} (mem : link ∈ property :: later) :
    (entity.siblings earlier).resolved? link.name = none := by
  rw [split, List.map_append] at names
  have apart := (List.nodup_append.mp names).2.2
  have absent : earlier.find? (fun other => other.name == link.name) = none := by
    rw [List.find?_eq_none]
    intro other inEarlier same
    exact apart other.name (List.mem_map_of_mem inEarlier) link.name (List.mem_map_of_mem mem)
      (eq_of_beq same)
  simp [Siblings.resolved?, siblings, absent]

/-- A numbering is scoped by the first parent link that is stored before it. -/
theorem numberingScope?_eq : Property.numberingScope? (entity.siblings earlier) =
    (Property.firstLink? earlier).bind Property.scope? := by
  unfold Property.numberingScope?
  have all_eq : (entity.siblings earlier).allOf .linkedToParent =
      (earlier.filter fun link => link.tag == .linkedToParent) ++
        (property :: later).filter fun link => link.tag == .linkedToParent := by
    rw [← List.filter_append, ← split]
    rfl
  have answered : ∀ link ∈ earlier, (link.tag == .linkedToParent) = true →
      Property.linkScope? (entity.siblings earlier) link = Property.scope? link ∧
        (Property.scope? link).isSome := by
    intro link mem tagged
    have tagged := eq_of_beq tagged
    obtain ⟨parent, kind⟩ := PropertyKind.tag_eq_linkedToParent_iff.mp tagged
    rw [Property.linkScope?, settled.resolved?_parentArgument names split mem tagged]
    simp [Property.scope?, kind]
  have unanswered : ((property :: later).filter fun link => link.tag == .linkedToParent).findSome?
      (Property.linkScope? (entity.siblings earlier)) = none := by
    rw [List.findSome?_eq_none_iff]
    intro link mem
    rw [Property.linkScope?, resolved?_eq_none names split (List.mem_filter.mp mem).1]
    rfl
  rw [all_eq, List.findSome?_append, unanswered, Option.or_none, findSome?_filter,
    ← Property.firstLink?]
  · cases first : Property.firstLink? earlier with
    | none => rfl
    | some link =>
        obtain ⟨mem, parent, kind⟩ := Property.mem_of_firstLink?_eq_some first
        exact (answered link mem (by rw [Property.tag, kind]; rfl)).1
  · intro link mem tagged
    obtain ⟨same, found⟩ := answered link mem tagged
    rw [same]
    exact found

/-- Renumbering takes the parent of the first parent link that is stored before the numbering. -/
theorem extraArguments_renumber (kind : property.kind = .numbered) :
    (property.extraArguments "renumber").map Argument.ofMethodArgument =
      ((Property.firstLink? earlier).bind fun link => link.unresolved.parentArgument?).toList := by
  rw [Property.extraArguments, settled.resolved_eq split]
  simp only [Property.plainSettings, kind, settled.numberingScope?_eq names split]
  cases first : Property.firstLink? earlier with
  | none => rfl
  | some link =>
      obtain ⟨-, parent, linkKind⟩ := Property.mem_of_firstLink?_eq_some first
      simp only [Option.bind_some, Property.scope?, linkKind, Property.parentArgument?,
        Property.unresolved]
      rfl

theorem numberingScope_eq (kind : property.kind = .numbered) :
    property.resolved.bind ResolvedSettings.numberingScope =
      (Property.firstLink? earlier).map Property.name := by
  rw [settled.resolved_eq split]
  simp only [Property.plainSettings, kind, settled.numberingScope?_eq names split]
  cases first : Property.firstLink? earlier with
  | none => rfl
  | some link =>
      obtain ⟨-, parent, linkKind⟩ := Property.mem_of_firstLink?_eq_some first
      simp [Property.scope?, linkKind]

end Scope

end Settled

end Entity

end EntitySurface
