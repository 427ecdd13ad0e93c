import EntitySurface.Proofs.Schema.Change

/-!
# Failed steps change nothing

On a well-formed schema, every step that adds to entities either succeeds or leaves the schema as it
was. For most steps all checks come first. A searchable field is stored before its widget; the
widget cannot be refused any more, since its search argument is as new as the column of the field.
A cascade of attachments may fail after some of them; it works on entities only, and they are put
back.
-/

namespace EntitySurface

open Composer

namespace Entity.WellFormed

variable {entity stored : Entity}

/-- The widget of a field that was just added is never refused. -/
theorem addWidget_fieldWidget (wellFormed : entity.WellFormed) {field : Field}
    (sound : field.problem? = none) (added : entity.addField field = .ok stored) :
    ∃ shown, stored.addWidget (fieldWidget field) = .ok shown := by
  obtain ⟨free, rfl⟩ := addField_eq_ok_iff.mp added
  refine ⟨_, addWidget_eq_ok_iff.mpr ⟨fun other mem => ⟨fun same => ?_, ?_⟩, rfl⟩⟩
  · have inColumns := (wellFormed.widgetElements other mem).2
    have clash := columnClashes_eq_false_iff.mp free _ inColumns
    rw [same] at clash
    simp [fieldWidget, ElementRef.column] at clash
  · have ascii := Name.isAscii_of_identifierProblem?_eq_none
      (Field.identifierProblem?_eq_none sound)
    exact wellFormed.argumentName_ne ascii free mem

end Entity.WellFormed

namespace Composer

variable {before : Schema} (key : EntityKey)

theorem registerNamespace_eq_ok {space : String}
    (valid : Name.namespaceProblem? space = none) (catalog : Catalog) :
    Catalog.registerNamespace space catalog = .ok () (catalog.withNamespace space) := by
  simp [Catalog.registerNamespace, valid]

theorem allOrNothing_newEntity (space name label : String) :
    AllOrNothing (newEntity space name label) before := by
  apply (Reads.check _).bind
  intro _ _
  apply (Reads.check _).bind
  intro _ namespaced
  apply (Reads.check _).bind
  intro _ _
  apply (Reads.check _).bind
  intro _ _
  have valid := (requireNamespace_eq_ok_iff.mp namespaced).1
  refine AllOrNothing.bind ?_ fun _ middle _ => ⟨_, _, rfl⟩
  intro fault after failed
  simp [onCatalog, registerNamespace_eq_ok valid] at failed

theorem allOrNothing_describeEntity (text : String) :
    AllOrNothing (describeEntity key text) before :=
  (Reads.check _).bind fun _ _ => allOrNothing_modifyEntity key _

theorem allOrNothing_attachField (wellFormed : before.WellFormed) (field : Field) :
    AllOrNothing (attachField key field) before := by
  apply (Reads.check _).bind
  intro _ _
  apply (Reads.check _).bind
  intro _ sound
  apply (Reads.check _).bind
  intro _ _
  have sound : field.problem? = none := by simpa using (check_eq_ok_iff.mp sound).1
  apply (allOrNothing_modifyEntity key _).bind
  intro _ middle changed
  obtain ⟨found, stored, known, added, rfl⟩ := modifyEntity_eq_ok_iff.mp changed
  split
  · obtain ⟨shown, addedWidget⟩ := (wellFormed.entity known).addWidget_fieldWidget sound added
    exact ⟨(), _, modifyEntity_eq_ok_iff.mpr
      ⟨stored, shown, Schema.entity?_replace_self known stored, addedWidget, rfl⟩⟩
  · exact ⟨(), _, rfl⟩

/-! ## Attachments -/

theorem confined_store (pending : Pending) : Confined (store pending) := by
  apply (Confined.of_reads (Reads.check _)).bind
  intro _
  apply (Confined.of_reads (Reads.check _)).bind
  intro _
  apply (Confined.of_reads (Reads.check _)).bind
  intro _
  apply (Confined.of_reads (Reads.check _)).bind
  intro _
  apply (Confined.modifyEntity _ _).bind
  intro _
  apply (Confined.forM fun _ => Confined.modifyEntity _ _).bind
  intro _
  exact Confined.of_reads (Reads.pure _)

theorem confined_process (pending : Pending) : Confined (process pending) := by
  apply (Confined.of_reads (Reads.requireTarget pending)).bind
  intro owner
  split
  · split
    · exact Confined.of_reads (Reads.pure [])
    · exact Confined.of_reads (Reads.throw _)
  · exact confined_store pending

theorem confined_drain (steps : Nat) (pending : List Pending) : Confined (drain steps pending) := by
  induction steps generalizing pending with
  | zero =>
      cases pending with
      | nil => exact Confined.of_reads (Reads.pure ())
      | cons first rest => exact Confined.of_reads (Reads.throw _)
  | succ steps ih =>
      cases pending with
      | nil => exact Confined.of_reads (Reads.pure ())
      | cons first rest => exact (confined_process first).bind fun implied => ih (rest ++ implied)

theorem allOrNothing_attach (property : Property) (visibility : Visibility) :
    AllOrNothing (attach key property visibility) before := by
  apply (Reads.check _).bind
  intro _ _
  apply (Reads.requireEntity key).bind
  intro _ _
  exact allOrNothing_restoring (confined_drain _ _)

/-! ## Rules, hooks and presentation -/

theorem allOrNothing_attachRule (property : String) (rule : BusinessRule) :
    AllOrNothing (attachRule key property rule) before := by
  apply (Reads.check _).bind
  intro _ _
  apply (Reads.requireEntity key).bind
  intro found _
  cases found.property? property with
  | none => exact (Reads.throw _).allOrNothing
  | some attached => exact (Reads.check _).bind fun _ _ => allOrNothing_modifyEntity key _

theorem allOrNothing_declareHook (declaring method origin : String) (phase : HookPhase) :
    AllOrNothing (declareHook key declaring method origin phase) before :=
  (Reads.check _).bind fun _ _ => allOrNothing_modifyEntity key _

theorem allOrNothing_declareWidget (element : ElementRef) (isPrimary : Bool)
    (category : Option ChoiceKey) :
    AllOrNothing (declareWidget key element isPrimary category) before := by
  apply (Reads.check _).bind
  intro _ _
  apply (Reads.requireEntity key).bind
  intro found _
  cases found.resolveElement? element with
  | none => exact (Reads.throw _).allOrNothing
  | some described =>
      apply (Reads.check _).bind
      intro _ _
      exact (Reads.check _).bind fun _ _ => allOrNothing_modifyEntity key _

theorem allOrNothing_addTab (tab : DisplayTab) : AllOrNothing (addTab key tab) before := by
  apply (Reads.check _).bind
  intro _ _
  exact (Reads.check _).bind fun _ _ => allOrNothing_modifyEntity key _

theorem allOrNothing_addAlias (header : LoaderAlias) : AllOrNothing (addAlias key header) before :=
  (Reads.check _).bind fun _ _ => allOrNothing_modifyEntity key _

end Composer

end EntitySurface
