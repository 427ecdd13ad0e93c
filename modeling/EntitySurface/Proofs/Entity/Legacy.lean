import EntitySurface.Proofs.Entity.Creation

/-!
# Entities without their legacy properties

Deleting the legacy properties of a settled entity and finalizing it again leaves the active
properties with their names, kinds and rules, while their settings are computed anew. Creation takes
the same arguments as before, but a numbering that was scoped by a legacy parent link is not.
-/

namespace EntitySurface

namespace Entity

/-- The entity with its legacy properties deleted. -/
def withoutLegacy (entity : Entity) : Entity :=
  { entity with properties := entity.activeProperties }

/-- The entity without legacy properties and without settings. -/
def bare (entity : Entity) : Entity :=
  { entity with properties := entity.activeProperties.map Property.unresolved, finalized := true }

/-- The first numbering is done by hand, and within the parent of a legacy parent link. -/
def LegacyScoped (entity : Entity) : Prop :=
  ∃ numbered, entity.firstOf? .numbered = some numbered ∧ numbered.isAutomaticNumbering = false ∧
    ∃ link ∈ entity.properties, link.isLegacy = true ∧
      numbered.resolved.bind ResolvedSettings.numberingScope = some link.name

/-- An entity and the outcome of finalizing it without its legacy properties. -/
structure Reduces (entity reduced : Entity) : Prop where
  frame : reduced = { entity with properties := reduced.properties, finalized := true }
  unresolved : reduced.properties.map Property.unresolved =
    entity.activeProperties.map Property.unresolved
  settled : reduced.Settled

variable {entity reduced : Entity}

theorem reduces_of_finalize (done : entity.withoutLegacy.finalize = (reduced, none)) :
    Reduces entity reduced := by
  have success : entity.withoutLegacy.finalize.2 = none := congrArg Prod.snd done
  have settled := settled_of_finalize done
  rw [finalize_eq_of_none success] at done
  cases done
  exact ⟨rfl, entity.withoutLegacy.map_unresolved_settling, settled⟩

namespace Reduces

variable (reduces : Reduces entity reduced)
include reduces

theorem key_eq : reduced.key = entity.key := by rw [reduces.frame]

/-- What is read of a property apart from its settings is the same along both lists. -/
theorem map_eq_map {α : Type} {read : Property → α}
    (indifferent : ∀ property, read property.unresolved = read property) :
    reduced.properties.map read = entity.activeProperties.map read :=
  Property.map_eq_map_of_unresolved indifferent reduces.unresolved

/-- All remaining properties are active. -/
theorem activeProperties_eq : reduced.activeProperties = reduced.properties := by
  unfold activeProperties
  rw [List.filter_eq_self]
  intro property mem
  have inMap : property.isLegacy ∈ reduced.properties.map Property.isLegacy :=
    List.mem_map_of_mem mem
  rw [reduces.map_eq_map fun _ => rfl] at inMap
  obtain ⟨other, inActive, same⟩ := List.mem_map.mp inMap
  rw [← same, (mem_activeProperties_iff.mp inActive).2]
  rfl

theorem bare_eq : reduced.bare = entity.bare := by
  rw [bare, bare, reduces.activeProperties_eq, reduces.unresolved]
  rw [reduces.frame]

theorem names (distinct : (entity.properties.map Property.name).Nodup) :
    (reduced.properties.map Property.name).Nodup := by
  rw [reduces.map_eq_map fun _ => rfl]
  exact distinct.sublist (List.filter_sublist.map Property.name)

/-! ## Arguments of creation -/

/-- What the active properties answer apart from their settings stays the same. -/
theorem filterMap_eq {α : Type} {answer? : Property → Option α}
    (indifferent : ∀ property, answer? property.unresolved = answer? property) :
    reduced.activeProperties.filterMap answer? = entity.activeProperties.filterMap answer? := by
  have answers := congrArg (List.filterMap id) (reduces.map_eq_map indifferent)
  rw [reduces.activeProperties_eq]
  simpa [List.filterMap_map] using answers

/-- Legacy properties bring no arguments to creation. -/
theorem expectedArguments_eq : reduced.expectedArguments = entity.expectedArguments := by
  unfold expectedArguments
  rw [reduces.filterMap_eq fun _ => rfl, reduces.filterMap_eq fun _ => rfl]

theorem hasAtMostOne {tag : PropertyTag} (single : entity.HasAtMostOne tag) :
    reduced.HasAtMostOne tag := by
  have remaining : entity.activeProperties.Sublist entity.properties := List.filter_sublist
  unfold HasAtMostOne
  rw [reduces.map_eq_map fun _ => rfl]
  exact Nat.le_trans ((remaining.map Property.tag).count_le tag) single

/-! ## Numbering -/

theorem firstOf?_eq (tag : PropertyTag) :
    (reduced.firstOf? tag).map Property.unresolved =
      (entity.firstOf? tag).map Property.unresolved := by
  rw [firstOf?, reduces.activeProperties_eq]
  exact Property.map_find?_of_unresolved tag reduces.unresolved

/-- The place of an active property after the deletion. -/
theorem exists_split {earlier later : List Property} {property : Property}
    (split : entity.properties = earlier ++ property :: later)
    (active : property.isLegacy = false) :
    ∃ remaining same rest, reduced.properties = remaining ++ same :: rest ∧
      remaining.map Property.unresolved =
        (earlier.filter fun other => !other.isLegacy).map Property.unresolved ∧
      same.unresolved = property.unresolved := by
  have unresolved := reduces.unresolved
  rw [activeProperties, split, List.filter_append, List.filter_cons_of_pos (by simp [active]),
    List.map_append, List.map_cons] at unresolved
  obtain ⟨remaining, tail, whole, first, last⟩ := List.map_eq_append_iff.mp unresolved
  obtain ⟨same, rest, rfl, equal, -⟩ := List.map_eq_cons_iff.mp last
  exact ⟨remaining, same, rest, whole, first, equal⟩

omit reduces in
/-- Without legacy parent links, another link comes first exactly if the first one is legacy; its
argument has another name. -/
theorem parentArgument_firstLink?_eq_iff (wellFormed : entity.WellFormed)
    {earlier : List Property} (stored : earlier ⊆ entity.properties) :
    (Property.firstLink? (earlier.filter fun other => !other.isLegacy)).bind
        (fun link => link.unresolved.parentArgument?) =
      (Property.firstLink? earlier).bind (fun link => link.unresolved.parentArgument?) ↔
    ∀ link, Property.firstLink? earlier = some link → link.isLegacy = false := by
  cases first : Property.firstLink? earlier with
  | none =>
      have absent : Property.firstLink? (earlier.filter fun other => !other.isLegacy) = none := by
        rw [Property.firstLink?, List.find?_eq_none] at first ⊢
        exact fun link mem => first link (List.mem_filter.mp mem).1
      simp [absent]
  | some link =>
      obtain ⟨mem, parent, kind⟩ := Property.mem_of_firstLink?_eq_some first
      simp only [Option.some.injEq, forall_eq']
      constructor
      · intro same
        rw [← Bool.not_eq_true]
        intro legacy
        cases next : Property.firstLink? (earlier.filter fun other => !other.isLegacy) with
        | none => simp [next, Property.parentArgument?, Property.unresolved, kind] at same
        | some other =>
            obtain ⟨otherMem, otherParent, otherKind⟩ := Property.mem_of_firstLink?_eq_some next
            obtain ⟨inEarlier, active⟩ := List.mem_filter.mp otherMem
            have named : parentArgumentName other.name = parentArgumentName link.name := by
              simp only [next, Option.bind_some, Property.parentArgument?, Property.unresolved,
                kind, otherKind, Option.some.injEq, Argument.mk.injEq] at same
              exact same.1
            rw [wellFormed.eq_of_parentArgumentName (stored inEarlier) (stored mem)
              (by rw [Property.tag, otherKind]; rfl) (by rw [Property.tag, kind]; rfl) named,
              legacy] at active
            contradiction
      · intro active
        rw [Property.firstLink?, find?_filter_of_find? first (by simp [active])]

/-- The first numbering stays the first one, and is scoped by the first remaining parent link. -/
theorem exists_numbered (names : (entity.properties.map Property.name).Nodup) {numbered : Property}
    (first : entity.firstOf? .numbered = some numbered) {earlier later : List Property}
    (split : entity.properties = earlier ++ numbered :: later) :
    ∃ same, reduced.firstOf? .numbered = some same ∧
      (same.extraArguments "renumber").map Argument.ofMethodArgument =
        ((Property.firstLink? (earlier.filter fun other => !other.isLegacy)).bind fun link =>
          link.unresolved.parentArgument?).toList := by
  obtain ⟨inActive, tagged⟩ := mem_of_firstOf?_eq_some first
  obtain ⟨remaining, same, rest, whole, unresolved, equal⟩ :=
    reduces.exists_split split (mem_activeProperties_iff.mp inActive).2
  have namesReduced := reduces.names names
  refine ⟨same, ?_, ?_⟩
  · have found := reduces.firstOf?_eq .numbered
    rw [first] at found
    obtain ⟨other, foundOther, otherEqual⟩ := Option.map_eq_some_iff.mp found
    have otherMem : other ∈ reduced.properties :=
      (mem_activeProperties_iff.mp (mem_of_firstOf?_eq_some foundOther).1).1
    have sameMem : same ∈ reduced.properties := whole ▸ List.mem_append_right _ List.mem_cons_self
    have sameName : other.unresolved.name = same.unresolved.name := by rw [otherEqual, equal]
    rw [foundOther, List.inj_on_of_nodup_map namesReduced otherMem sameMem sameName]
  · have kind : same.unresolved.kind = .numbered := by
      rw [equal]
      exact PropertyKind.tag_eq_numbered_iff.mp tagged
    have links := congrArg (Option.bind · Property.parentArgument?)
      (Property.map_find?_of_unresolved .linkedToParent unresolved)
    rw [Option.bind_map, Option.bind_map] at links
    rw [reduces.settled.extraArguments_renumber namesReduced whole kind]
    exact congrArg Option.toList links

/-- The numbering gains the same arguments after the deletion, unless it was scoped by a legacy
parent link. -/
theorem extraArguments_numbered_eq_iff (wellFormed : entity.WellFormed) (settled : entity.Settled)
    {numbered : Property} (first : entity.firstOf? .numbered = some numbered) :
    ∃ same, reduced.firstOf? .numbered = some same ∧
      ((same.extraArguments "renumber").map Argument.ofMethodArgument =
          (numbered.extraArguments "renumber").map Argument.ofMethodArgument ↔
        ¬ ∃ link ∈ entity.properties, link.isLegacy = true ∧
          numbered.resolved.bind ResolvedSettings.numberingScope = some link.name) := by
  obtain ⟨inActive, tagged⟩ := mem_of_firstOf?_eq_some first
  obtain ⟨earlier, later, split⟩ := List.append_of_mem (mem_activeProperties_iff.mp inActive).1
  have kind : numbered.kind = .numbered := PropertyKind.tag_eq_numbered_iff.mp tagged
  have names := wellFormed.propertyNames
  have stored : earlier ⊆ entity.properties := split ▸ List.subset_append_left _ _
  obtain ⟨same, found, arguments⟩ := reduces.exists_numbered names first split
  have injective : Function.Injective (@Option.toList Argument) :=
    Function.LeftInverse.injective fun _ => Option.head?_toList
  refine ⟨same, found, ?_⟩
  rw [arguments, settled.extraArguments_renumber names split kind, injective.eq_iff,
    parentArgument_firstLink?_eq_iff wellFormed stored, settled.numberingScope_eq names split kind]
  constructor
  · rintro active ⟨link, mem, legacy, named⟩
    obtain ⟨other, foundOther, sameName⟩ := Option.map_eq_some_iff.mp named
    have otherMem := stored (Property.mem_of_firstLink?_eq_some foundOther).1
    have activeOther := active other foundOther
    rw [List.inj_on_of_nodup_map names otherMem mem sameName, legacy] at activeOther
    contradiction
  · intro free link foundLink
    rw [← Bool.not_eq_true]
    intro legacy
    exact free ⟨link, stored (Property.mem_of_firstLink?_eq_some foundLink).1, legacy,
      by rw [foundLink]; rfl⟩

end Reduces

end Entity

end EntitySurface
