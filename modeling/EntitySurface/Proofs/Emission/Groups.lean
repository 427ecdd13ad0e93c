import EntitySurface.Emission.Manifest
import EntitySurface.Proofs.Surface.Derived

/-!
# Action groups by name

A manifest lists action groups by their names. Every group of a derived surface bears the name that
belongs to its kind, and the ten names of one entity differ. So no group takes the place of another
one in the list.
-/

namespace EntitySurface

/-- Entries with different keys are all kept. -/
theorem Dictionary.find?_ofList_iff {α : Type} {entries : List (String × α)}
    (distinct : (entries.map Prod.fst).Nodup) {key : String} {value : α} :
    (ofList entries).find? key = some value ↔ (key, value) ∈ entries := by
  have collected (dictionary : Dictionary α) :
      (entries.foldl (fun dictionary entry => dictionary.insert entry.1 entry.2)
        dictionary).find? key = some value ↔
      (key, value) ∈ entries ∨
        key ∉ entries.map Prod.fst ∧ dictionary.find? key = some value := by
    induction entries generalizing dictionary with
    | nil => simp
    | cons entry rest ih =>
        obtain ⟨first, kept⟩ := entry
        obtain ⟨apart, others⟩ := List.nodup_cons.mp distinct
        rw [List.foldl_cons, ih others, find?_insert]
        by_cases same : key = first
        · subst same
          have absent : ∀ other, (key, other) ∉ rest := by simpa using apart
          simp [absent, eq_comm]
        · simp [same]
  rw [ofList, collected]
  simp [find?_empty]

namespace GroupKind

theorem suffix_inj {first second : GroupKind} : first.suffix = second.suffix ↔ first = second := by
  cases first <;> cases second <;> decide

/-- The groups of one entity have different names. -/
theorem groupName_inj {entity : EntityKey} {first second : GroupKind} :
    first.groupName entity = second.groupName entity ↔ first = second := by
  rw [groupName, groupName, String.append_right_inj, suffix_inj]

end GroupKind

namespace GroupSet

variable {set : GroupSet} {kind : GroupKind}

/-- Every group bears the name that belongs to its kind. -/
def Named (set : GroupSet) : Prop :=
  ∀ group ∈ set.groups, group.name = group.kind.groupName set.entity

theorem named_forEntity (entity : EntityKey) : (forEntity entity).Named := by
  simp [Named, forEntity]

theorem mem_joinFirst {operation : String} {groups : List ActionGroup} {group : ActionGroup}
    (mem : group ∈ joinFirst kind operation groups) :
    ∃ before ∈ groups, before.kind = group.kind ∧ before.name = group.name := by
  induction groups with
  | nil => contradiction
  | cons first rest ih =>
      rw [joinFirst] at mem
      repeat' split at mem
      · exact ⟨group, mem, rfl, rfl⟩
      · rcases List.mem_cons.mp mem with rfl | inRest
        · exact ⟨first, List.mem_cons_self, rfl, rfl⟩
        · exact ⟨group, List.mem_cons_of_mem _ inRest, rfl, rfl⟩
      · rcases List.mem_cons.mp mem with rfl | inRest
        · exact ⟨group, List.mem_cons_self, rfl, rfl⟩
        · obtain ⟨before, old, same⟩ := ih inRest
          exact ⟨before, List.mem_cons_of_mem _ old, same⟩

theorem Named.register (named : set.Named) (kind : GroupKind) (operation : String) :
    (set.register kind operation).Named := by
  intro group mem
  obtain ⟨before, old, sameKind, sameName⟩ := mem_joinFirst mem
  rw [← sameKind, ← sameName]
  split at old
  · exact named before old
  · rcases List.mem_append.mp old with stored | added
    · exact named before stored
    · rw [List.mem_singleton.mp added]
      rfl

theorem entity_registerAll (set : GroupSet) (kinds : List GroupKind) (operation : String) :
    (kinds.foldl (fun groups kind => groups.register kind operation) set).entity = set.entity := by
  induction kinds generalizing set with
  | nil => rfl
  | cons kind rest ih => exact ih (set.register kind operation)

theorem Named.registerAll (named : set.Named) (kinds : List GroupKind) (operation : String) :
    (kinds.foldl (fun groups kind => groups.register kind operation) set).Named := by
  induction kinds generalizing set with
  | nil => exact named
  | cons kind rest ih => exact ih (named.register kind operation)

variable (kinds : (set.groups.map ActionGroup.kind).Nodup)
include kinds

theorem operations_eq_of_mem {group : ActionGroup} (mem : group ∈ set.groups) :
    set.operations group.kind = group.operations := by
  have found : set.group? group.kind = some group := by
    have present : (set.group? group.kind).isSome = true :=
      List.find?_isSome.mpr ⟨group, mem, by simp⟩
    obtain ⟨other, first⟩ := Option.isSome_iff_exists.mp present
    have same : other.kind = group.kind := by simpa using List.find?_some first
    rw [first, List.inj_on_of_nodup_map kinds (List.mem_of_find?_eq_some first) mem same]
  rw [operations, found]

/-- The groups that have members are listed under their names, and nothing else is. -/
theorem find?_members_iff (named : set.Named) {name : String} {members : List String} :
    set.members.find? name = some members ↔
      members ≠ [] ∧ ∃ kind, name = kind.groupName set.entity ∧ set.operations kind = members := by
  have names : set.groups.map ActionGroup.name =
      (set.groups.map ActionGroup.kind).map fun kind => kind.groupName set.entity := by
    rw [List.map_map]
    exact List.map_congr_left named
  have distinct : (((set.groups.filter fun group => !group.operations.isEmpty).map fun group =>
      (group.name, group.operations)).map Prod.fst).Nodup := by
    rw [List.map_map]
    refine (List.filter_sublist.map ActionGroup.name).nodup ?_
    rw [names]
    exact kinds.map fun first second same => GroupKind.groupName_inj.mp same
  rw [GroupSet.members, Dictionary.find?_ofList_iff distinct]
  simp only [List.mem_map, List.mem_filter, Bool.not_eq_true', List.isEmpty_eq_false_iff,
    Prod.mk.injEq]
  constructor
  · rintro ⟨group, ⟨mem, filled⟩, rfl, rfl⟩
    exact ⟨filled, group.kind, named group mem, operations_eq_of_mem kinds mem⟩
  · rintro ⟨filled, kind, rfl, rfl⟩
    unfold operations at filled
    split at filled
    · next group found =>
      have mem := List.mem_of_find?_eq_some found
      have same : group.kind = kind := by simpa using List.find?_some found
      subst same
      exact ⟨group, ⟨mem, filled⟩, named group mem, (operations_eq_of_mem kinds mem).symm⟩
    · contradiction

end GroupSet

namespace Surface

variable {surface : Surface} {entity : EntityKey}

/-- The groups belong to the entity and bear its name. -/
def GroupsNamed (surface : Surface) (entity : EntityKey) : Prop :=
  surface.groups.entity = entity ∧ surface.groups.Named

theorem GroupsNamed.offer (named : surface.GroupsNamed entity) (contribution : Contribution) :
    (surface.offer contribution).2.GroupsNamed entity := by
  cases contribution with
  | operation operation =>
      cases found : surface.operation? operation.name with
      | none =>
          rw [offer_operation_of_free found]
          refine ⟨?_, named.2.registerAll operation.groups operation.name⟩
          rw [withOperation, GroupSet.entity_registerAll]
          exact named.1
      | some existing =>
          rw [offer_operation_of_taken found]
          exact named
  | page page =>
      cases found : surface.page? page.name with
      | none =>
          rw [offer_page_of_free found]
          exact named
      | some existing =>
          rw [offer_page_of_taken found]
          exact named
  | menuEntry entry =>
      show (surface.addMenuEntry entry).GroupsNamed entity
      unfold addMenuEntry
      split <;> exact named
  | searchPlan plan => exact named

theorem GroupsNamed.offerAll (named : surface.GroupsNamed entity) (offered : List Contribution) :
    (surface.offerAll offered).GroupsNamed entity := by
  induction offered generalizing surface with
  | nil => exact named
  | cons contribution rest ih => exact ih (named.offer contribution)

theorem groupsNamed_of_derive {rules : List DerivationRule} {entity : Entity}
    (derived : derive rules entity = .ok surface) : surface.GroupsNamed entity.key := by
  rw [← offerAll_eq_of_absorbAll (absorbAll_of_derive derived)]
  exact GroupsNamed.offerAll ⟨rfl, GroupSet.named_forEntity entity.key⟩ _

/-- The groups of a derived surface are listed by their names, as far as they have members. -/
theorem find?_members_of_derive {rules : List DerivationRule} {entity : Entity}
    (derived : derive rules entity = .ok surface) {name : String} {members : List String} :
    surface.groups.members.find? name = some members ↔
      members ≠ [] ∧ ∃ kind, name = kind.groupName entity.key ∧
        surface.groups.operations kind = members := by
  obtain ⟨belongs, named⟩ := groupsNamed_of_derive derived
  have kinds : (surface.groups.groups.map ActionGroup.kind).Nodup := by
    rw [(records_of_derive derived).kinds]
    decide
  rw [GroupSet.find?_members_iff kinds named, belongs]

end Surface

end EntitySurface
