import EntitySurface.Proofs.Schema.Invariant

/-!
# Looking entities up by text

A text is read as a qualified name at its last dot, and only if that leads to no entity, as a bare
name that must be the name of one entity alone. Names have no dots, so that no text is taken for
both, and every entity is found under its written key.
-/

namespace EntitySurface

/-! ## Reading qualified names -/

theorem splitLastDot_eq_none {text : List Char} (plain : '.' ∉ text) :
    splitLastDot text = none := by
  induction text with
  | nil => rfl
  | cons c rest ih =>
      rw [List.mem_cons, not_or] at plain
      simp [splitLastDot, ih plain.2, Ne.symm plain.1]

/-- A text is split around its last dot. -/
theorem splitLastDot_append {before after : List Char} (plain : '.' ∉ after) :
    splitLastDot (before ++ '.' :: after) = some (before, after) := by
  induction before with
  | nil => simp [splitLastDot, splitLastDot_eq_none plain]
  | cons c rest ih => simp [splitLastDot, ih]

theorem splitLastDot_eq_some_iff {text before after : List Char} :
    splitLastDot text = some (before, after) ↔ text = before ++ '.' :: after ∧ '.' ∉ after := by
  constructor
  · intro halves
    have dotted : '.' ∈ text := by
      by_contra plain
      rw [splitLastDot_eq_none plain] at halves
      contradiction
    obtain ⟨backwards, rest, reversed, plain⟩ :=
      List.eq_append_cons_of_mem (List.mem_reverse.mpr dotted)
    have last : '.' ∉ backwards.reverse := mt List.mem_reverse.mp plain
    obtain rfl : text = rest.reverse ++ '.' :: backwards.reverse := by
      simpa using congrArg List.reverse reversed
    rw [splitLastDot_append last, Option.some.injEq, Prod.mk.injEq] at halves
    obtain ⟨rfl, rfl⟩ := halves
    exact ⟨rfl, last⟩
  · rintro ⟨rfl, plain⟩
    exact splitLastDot_append plain

namespace EntityKey

variable {key : EntityKey}

/-- A text is read as a key exactly when it is the written form of the key, and the key has a
namespace and a name without dots. -/
theorem parse?_eq_some_iff {text : String} :
    parse? text = some key ↔
      text = key.text ∧ key.space ≠ "" ∧ key.name ≠ "" ∧ '.' ∉ key.name.toList := by
  have halves : splitLastDot text.toList = some (key.space.toList, key.name.toList) ↔
      text = key.text ∧ '.' ∉ key.name.toList := by
    rw [splitLastDot_eq_some_iff, ← String.toList_inj]
    simp [EntityKey.text]
  have read : parse? text = some key ↔
      splitLastDot text.toList = some (key.space.toList, key.name.toList) ∧
        key.space ≠ "" ∧ key.name ≠ "" := by
    unfold parse?
    cases splitLastDot text.toList with
    | none => simp
    | some around =>
        obtain ⟨space, name⟩ := around
        dsimp only
        constructor
        · intro found
          split at found
          · contradiction
          · next full =>
              obtain rfl := Option.some.inj found
              simpa [← String.toList_eq_nil_iff] using full
        · rintro ⟨same, someSpace, someName⟩
          obtain ⟨rfl, rfl⟩ := Prod.mk.inj (Option.some.inj same)
          simp [someSpace, someName]
  rw [read, halves]
  tauto

/-- The written form of a key with accepted names is read as this key. -/
theorem IsNamed.parse?_text (named : key.IsNamed) : parse? key.text = some key := by
  refine parse?_eq_some_iff.mpr ⟨rfl, ?_, ?_, named.not_mem_name (by decide)⟩
  · rintro empty
    have := named.namespaced
    rw [empty] at this
    contradiction
  · rintro empty
    have := named.identifier
    rw [empty] at this
    contradiction

end EntityKey

namespace Schema

variable {schema : Schema} {entity : Entity} {text : String}

/-- One stored entity alone passes a test. -/
theorem WellFormed.filter_eq_singleton_iff (wellFormed : schema.WellFormed)
    {passes : Entity → Bool} :
    schema.entities.filter passes = [entity] ↔
      entity ∈ schema.entities ∧ passes entity = true ∧
        ∀ other ∈ schema.entities, passes other = true → other = entity := by
  have nodup : schema.entities.Nodup := wellFormed.nodup_keys.of_map Entity.key
  rw [← List.perm_singleton,
    List.perm_ext_iff_of_nodup (nodup.filter passes) (List.nodup_singleton entity)]
  simp only [List.mem_filter, List.mem_singleton]
  grind

/-- An entity is found under its key, or, when no entity has the key, by its name alone. -/
theorem find?_eq_some_iff_or :
    schema.find? text = some entity ↔
      (EntityKey.parse? text).bind schema.entity? = some entity ∨
      (EntityKey.parse? text).bind schema.entity? = none ∧
        (schema.entities.filter fun entity => entity.key.name == text) = [entity] := by
  unfold find?
  cases (EntityKey.parse? text).bind schema.entity? with
  | some found => simp
  | none =>
      simp only [reduceCtorEq, true_and, false_or]
      split <;> simp_all

namespace Reachable

/-- The route over the key finds exactly the entities whose written key the text is. -/
theorem bind_parse?_eq_some_iff (reached : schema.Reachable) :
    (EntityKey.parse? text).bind schema.entity? = some entity ↔
      entity ∈ schema.entities ∧ text = entity.key.text := by
  rw [Option.bind_eq_some_iff]
  constructor
  · rintro ⟨key, read, known⟩
    obtain ⟨mem, rfl⟩ := reached.wellFormed.entity?_eq_some_iff.mp known
    exact ⟨mem, (EntityKey.parse?_eq_some_iff.mp read).1⟩
  · rintro ⟨mem, rfl⟩
    exact ⟨entity.key, (reached.isNamed mem).parse?_text,
      reached.wellFormed.entity?_eq_some_iff.mpr ⟨mem, rfl⟩⟩

/-- A name is not the written form of a key, since it has no dot. -/
theorem text_ne_name (reached : schema.Reachable) {other : Entity}
    (mem : entity ∈ schema.entities) : other.key.text ≠ entity.key.name := by
  intro same
  apply (reached.isNamed mem).not_mem_name (by decide : Name.isNameChar '.' = false)
  simp [← same, EntityKey.text]

/-- In every schema that a composition run leads to, a text leads to an entity exactly when it is
the written form of the entity's key, or the entity's name and the name of no other entity. The
written form of the key of a stored entity is read as that key. -/
theorem find?_iff_text_or_name (reached : schema.Reachable) :
    (∀ text entity, schema.find? text = some entity ↔
      entity ∈ schema.entities ∧
        (text = entity.key.text ∨
          text = entity.key.name ∧
            ∀ other ∈ schema.entities, other.key.name = text → other = entity)) ∧
    ∀ entity ∈ schema.entities, EntityKey.parse? entity.key.text = some entity.key := by
  refine ⟨fun text entity => ?_, fun entity mem => (reached.isNamed mem).parse?_text⟩
  have byName : (schema.entities.filter fun entity => entity.key.name == text) = [entity] ↔
      entity ∈ schema.entities ∧ entity.key.name = text ∧
        ∀ other ∈ schema.entities, other.key.name = text → other = entity := by
    rw [reached.wellFormed.filter_eq_singleton_iff]
    simp only [beq_iff_eq]
  rw [find?_eq_some_iff_or, reached.bind_parse?_eq_some_iff, byName]
  constructor
  · rintro (⟨mem, same⟩ | ⟨-, mem, same, alone⟩)
    · exact ⟨mem, Or.inl same⟩
    · exact ⟨mem, Or.inr ⟨same.symm, alone⟩⟩
  · rintro ⟨mem, same | ⟨rfl, alone⟩⟩
    · exact Or.inl ⟨mem, same⟩
    · refine Or.inr ⟨?_, mem, rfl, alone⟩
      by_contra found
      obtain ⟨other, known⟩ := Option.ne_none_iff_exists'.mp found
      obtain ⟨-, same⟩ := reached.bind_parse?_eq_some_iff.mp known
      exact reached.text_ne_name mem same.symm

/-- Customers and orders, and archived orders in a namespace that ends like that of the orders. -/
def archivedOrders : List Command :=
  [.entity "sales" "Customer" "Customer", .entity "sales" "Order" "Order",
   .entity "archive.sales" "Order" "Archived order"]

/-- Both orders are found under their written keys, and neither by the name that they share. -/
theorem find?_archivedOrders :
    let schema := (({ name := "sales" } : Schema).executeAll archivedOrders).1
    let archived : Entity := { key := ⟨"archive.sales", "Order"⟩, label := "Archived order" }
    let order : Entity := { key := ⟨"sales", "Order"⟩, label := "Order" }
    let customer : Entity := { key := ⟨"sales", "Customer"⟩, label := "Customer" }
    schema.find? "archive.sales.Order" = some archived ∧ schema.find? "sales.Order" = some order ∧
      schema.find? "Customer" = some customer ∧ schema.find? "Order" ≠ some order := by
  intro schema archived order customer
  have found := ((Reachable.start "sales").executeAll archivedOrders).find?_iff_text_or_name.1
  exact ⟨(found _ archived).mpr (by decide +kernel), (found _ order).mpr (by decide +kernel),
    (found _ customer).mpr (by decide +kernel), (found _ order).not.mpr (by decide +kernel)⟩

end Reachable

end Schema

end EntitySurface
