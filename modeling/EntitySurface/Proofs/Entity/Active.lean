import EntitySurface.Entity

/-!
# Active properties

What it means that a query of an entity finds an active property.
-/

namespace EntitySurface

namespace Entity

variable {entity : Entity} {tag : PropertyTag} {property : Property}

theorem mem_activeProperties_iff :
    property ∈ entity.activeProperties ↔
      property ∈ entity.properties ∧ property.isLegacy = false := by
  simp [activeProperties]

theorem mem_of_firstOf?_eq_some (found : entity.firstOf? tag = some property) :
    property ∈ entity.activeProperties ∧ property.tag = tag :=
  ⟨List.mem_of_find?_eq_some found, by simpa using List.find?_some found⟩

theorem hasKind_eq_isSome_firstOf? (entity : Entity) (tag : PropertyTag) :
    entity.hasKind tag = (entity.firstOf? tag).isSome := by
  rw [Bool.eq_iff_iff]
  simp [hasKind, firstOf?]

theorem exists_firstOf? (present : entity.hasKind tag = true) :
    ∃ property ∈ entity.activeProperties, entity.firstOf? tag = some property ∧
      property.tag = tag := by
  rw [hasKind_eq_isSome_firstOf?] at present
  rcases Option.isSome_iff_exists.mp present with ⟨property, found⟩
  rcases mem_of_firstOf?_eq_some found with ⟨active, tagged⟩
  exact ⟨property, active, found, tagged⟩

theorem firstOf?_eq_none (absent : entity.hasKind tag = false) : entity.firstOf? tag = none := by
  simpa [hasKind_eq_isSome_firstOf?] using absent

/-- The first element that passes a test stays the first when others are filtered out. -/
theorem find?_filter_of_find? {α : Type} {list : List α} {test keep : α → Bool} {item : α}
    (found : list.find? test = some item) (kept : keep item = true) :
    (list.filter keep).find? test = some item := by
  obtain ⟨passes, before, after, rfl, failed⟩ := List.find?_eq_some_iff_append.mp found
  rw [List.filter_append, List.filter_cons_of_pos kept]
  refine List.find?_eq_some_iff_append.mpr ⟨passes, before.filter keep, after.filter keep, rfl, ?_⟩
  exact fun other mem => failed other (List.mem_filter.mp mem).1

end Entity

end EntitySurface
