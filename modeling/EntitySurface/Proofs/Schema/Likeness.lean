import EntitySurface.Proofs.Schema.Atomicity

/-!
# Steps on two schemas

Two schemas may differ in what a step neither reads nor passes on. Run on both of them, the step
comes to the same: it fails with one fault or succeeds with corresponding values, and it leaves
schemas that again differ only in this. Here the relation between the schemas is left open; that it
is fit for attaching properties is put into a few conditions on single reads and writes.
-/

namespace EntitySurface

/-- Two checked changes both fail with the same fault, or both succeed with related values. -/
inductive SameResult {α : Type} (related : α → α → Prop) : Except Fault α → Except Fault α → Prop
  where
  | ok {first second : α} (values : related first second) :
      SameResult related (.ok first) (.ok second)
  | error (fault : Fault) : SameResult related (.error fault) (.error fault)

theorem SameResult.refl {α : Type} (result : Except Fault α) : SameResult Eq result result := by
  cases result with
  | ok value => exact .ok rfl
  | error fault => exact .error fault

/-- Results that a function cannot tell apart are the same up to what the function hides. -/
theorem SameResult.of_map_eq {α β : Type} {read : α → β} {first second : Except Fault α}
    (same : first.map read = second.map read) :
    SameResult (fun one other => read one = read other) first second := by
  cases first with
  | ok value =>
      cases second with
      | ok other => exact .ok (Except.ok.inj same)
      | error fault => cases same
  | error fault =>
      cases second with
      | ok other => cases same
      | error cause =>
          cases same
          exact .error fault

/-- Companions imply no companions. -/
theorem PropertyKind.companions_of_mem {kind : PropertyKind} {owner : EntityKey} {name : String}
    {companion : Companion} (mem : companion ∈ kind.companions owner name)
    {other : EntityKey} {link : String} : companion.property.kind.companions other link = [] := by
  cases kind <;> simp only [companions, List.not_mem_nil, List.mem_cons, or_false] at mem
  all_goals rcases mem with rfl | rfl
  all_goals rfl

namespace Composer

variable {α β : Type} {alike : Schema → Schema → Prop}

/-- Two steps both fail with the same fault, or both succeed with related values, and the schemas
that they leave are alike. -/
inductive SameOutcome (related : α → α → Prop) (alike : Schema → Schema → Prop) :
    EStateM.Result Fault Schema α → EStateM.Result Fault Schema α → Prop where
  | ok {first second : α} {left right : Schema} (values : related first second)
      (rest : alike left right) : SameOutcome related alike (.ok first left) (.ok second right)
  | error (fault : Fault) {left right : Schema} (rest : alike left right) :
      SameOutcome related alike (.error fault left) (.error fault right)

/-- On schemas that are alike, the two steps come to the same. -/
def Respects (alike : Schema → Schema → Prop) (related : α → α → Prop)
    (first second : Composer α) : Prop :=
  ∀ left right, alike left right → SameOutcome related alike (first left) (second right)

namespace Respects

variable {related : α → α → Prop} {results : β → β → Prop} {first second : Composer α}
  {next following : α → Composer β}

theorem bind (steps : Respects alike related first second)
    (rest : ∀ one other, related one other → Respects alike results (next one) (following other)) :
    Respects alike results (first >>= next) (second >>= following) := by
  intro left right same
  cases leftOutcome : first left with
  | ok one middle =>
      have outcome := steps left right same
      rw [leftOutcome] at outcome
      cases rightOutcome : second right with
      | ok other after =>
          rw [rightOutcome] at outcome
          cases outcome with
          | ok values alike =>
              rw [bind_of_ok leftOutcome, bind_of_ok rightOutcome]
              exact rest one other values middle after alike
      | error fault after =>
          rw [rightOutcome] at outcome
          cases outcome
  | error fault middle =>
      have outcome := steps left right same
      rw [leftOutcome] at outcome
      cases rightOutcome : second right with
      | ok other after =>
          rw [rightOutcome] at outcome
          cases outcome
      | error cause after =>
          rw [rightOutcome] at outcome
          cases outcome with
          | error _ alike =>
              rw [bind_of_error leftOutcome, bind_of_error rightOutcome]
              exact .error fault alike

/-- After steps without a value of interest, both sides go on in the same way. -/
theorem andThen {first second : Composer Unit} {next following : Unit → Composer β}
    (steps : Respects alike Eq first second)
    (rest : Respects alike results (next ()) (following ())) :
    Respects alike results (first >>= next) (second >>= following) :=
  steps.bind fun _ _ _ => rest

theorem pure {one other : α} (values : related one other) :
    Respects alike related (pure one) (pure other) :=
  fun _ _ same => .ok values same

theorem throw (fault : Fault) : Respects alike related (throw fault) (throw fault) :=
  fun _ _ same => .error fault same

theorem check {fault? cause? : Schema → Option Fault}
    (reads : ∀ left right, alike left right → fault? left = cause? right) :
    Respects alike Eq (check fault?) (check cause?) := by
  intro left right same
  unfold Composer.check
  rw [reads left right same]
  cases cause? right with
  | none => exact .ok rfl same
  | some fault => exact .error fault same

theorem modify {change : Schema → Schema}
    (writes : ∀ left right, alike left right → alike (change left) (change right)) :
    Respects alike Eq (modify change) (modify change) :=
  fun left right same => .ok rfl (writes left right same)

theorem forM {item : Type} {action : item → Composer Unit}
    (each : ∀ value, Respects alike Eq (action value) (action value)) (list : List item) :
    Respects alike Eq (list.forM action) (list.forM action) := by
  induction list with
  | nil => exact pure rfl
  | cons value rest ih => exact (each value).andThen ih

/-- Steps on entities that put them back when they fail leave schemas that fail as they were. -/
theorem restoring {first second : Composer Unit} (steps : Respects alike Eq first second)
    (firstConfined : Confined first) (secondConfined : Confined second) :
    Respects alike Eq (restoring first) (restoring second) := by
  intro left right same
  have leftRestored : AllOrNothing (Composer.restoring first) left :=
    allOrNothing_restoring firstConfined
  have rightRestored : AllOrNothing (Composer.restoring second) right :=
    allOrNothing_restoring secondConfined
  have outcome := steps left right same
  unfold AllOrNothing Composer.restoring at leftRestored rightRestored
  unfold Composer.restoring
  generalize first left = leftOutcome at outcome leftRestored
  generalize second right = rightOutcome at outcome rightRestored
  cases outcome with
  | ok values rest => exact .ok rfl rest
  | error fault rest =>
      dsimp only
      rw [leftRestored fault _ rfl, rightRestored fault _ rfl]
      exact .error fault same

end Respects

/-! ## Attachments -/

/-- What a relation between schemas has to satisfy so that attaching properties to entities of the
given keys comes to the same: the schemas agree in what is looked up in all of them, the entities
of these keys are related, and they may be replaced by related ones; related entities take the same
properties and widgets. -/
structure Likeness (keys : EntityKey → Prop) (related : Entity → Entity → Prop)
    (alike : Schema → Schema → Prop) : Prop where
  phase {left right} (same : alike left right) : left.phase = right.phase
  catalog {left right} (same : alike left right) : left.catalog = right.catalog
  contains {left right} (same : alike left right) (key) : left.contains key = right.contains key
  entity {left right} (same : alike left right) {key} (among : keys key) :
    Option.Rel related (left.entity? key) (right.entity? key)
  replace {left right} (same : alike left right) {key} (among : keys key) {one other}
    (entities : related one other) : alike (left.replace key one) (right.replace key other)
  property {one other} (entities : related one other) (name) :
    (one.property? name).map Property.kind = (other.property? name).map Property.kind
  addProperty {one other} (entities : related one other) (property) :
    SameResult related (one.addProperty property) (other.addProperty property)
  addWidget {one other} (entities : related one other) (widget) :
    SameResult related (one.addWidget widget) (other.addWidget widget)

namespace Likeness

variable {keys : EntityKey → Prop} {related : Entity → Entity → Prop}
  (likeness : Likeness keys related alike)
include likeness

theorem ensureComposing (step : CompositionStep) :
    Respects alike Eq (ensureComposing step) (ensureComposing step) :=
  .check fun left right same => by rw [Schema.isFinalized, likeness.phase same, Schema.isFinalized]

theorem requireEntity {key : EntityKey} (among : keys key) :
    Respects alike related (requireEntity key) (requireEntity key) := by
  intro left right same
  have found := likeness.entity same among
  unfold Composer.requireEntity
  generalize left.entity? key = one at found
  generalize right.entity? key = other at found
  cases found with
  | none => exact .error _ same
  | some entities => exact .ok entities same

theorem requireTarget {pending : Pending} (among : keys pending.target) :
    Respects alike related (requireTarget pending) (requireTarget pending) := by
  intro left right same
  have found := likeness.entity same among
  unfold Composer.requireTarget
  generalize left.entity? pending.target = one at found
  generalize right.entity? pending.target = other at found
  cases found with
  | none => exact .error _ same
  | some entities => exact .ok entities same

theorem requireCategory (key : EntityKey) (owner : String) (category : Option ChoiceKey) :
    Respects alike Eq (requireCategory key owner category) (requireCategory key owner category) :=
  .check fun left right same => by rw [likeness.catalog same]

theorem modifyEntity {key : EntityKey} (among : keys key)
    {change : Entity → Except Fault Entity}
    (changes : ∀ one other, related one other → SameResult related (change one) (change other)) :
    Respects alike Eq (modifyEntity key change) (modifyEntity key change) := by
  refine (likeness.requireEntity among).bind fun one other entities => ?_
  have result := changes one other entities
  generalize change one = leftChanged at result
  generalize change other = rightChanged at result
  cases result with
  | ok changed =>
      exact fun left right same => .ok rfl (likeness.replace same among changed)
  | error fault => exact .throw fault

/-- Whether a parameter is there is looked up in the whole schema. -/
theorem bindingFault?_eq {left right : Schema} (same : alike left right) (key : EntityKey)
    (property : Property) : bindingFault? left key property = bindingFault? right key property := by
  have unresolved : isUnresolved left = isUnresolved right := by
    funext binding
    unfold isUnresolved
    cases binding.target with
    | entity other => simp only [likeness.contains same]
    | choice category => simp only [likeness.catalog same]
  unfold bindingFault?
  rw [unresolved]

/-- Processing an attachment adds nothing to the queue but the attachments that it implies. -/
theorem store {pending : Pending} (among : keys pending.target) :
    Respects alike (fun one other => one = other ∧ one ⊆ pending.implied) (store pending)
      (store pending) := by
  have bound : Respects alike Eq
      (check fun schema => bindingFault? schema pending.target pending.property)
      (check fun schema => bindingFault? schema pending.target pending.property) :=
    .check fun _ _ same => likeness.bindingFault?_eq same _ _
  refine (Respects.check fun _ _ _ => rfl).andThen ?_
  refine (Respects.check fun _ _ _ => rfl).andThen ?_
  refine bound.andThen ?_
  refine (Respects.check fun _ _ _ => rfl).andThen ?_
  refine (likeness.modifyEntity among fun _ _ entities =>
    likeness.addProperty entities _).andThen ?_
  refine (Respects.forM (fun widget => likeness.modifyEntity among fun _ _ entities =>
    likeness.addWidget entities widget) _).andThen ?_
  exact .pure ⟨rfl, List.Subset.refl _⟩

theorem process {pending : Pending} (among : keys pending.target) :
    Respects alike (fun one other => one = other ∧ one ⊆ pending.implied) (process pending)
      (process pending) := by
  refine (likeness.requireTarget among).bind fun one other entities => ?_
  have present := likeness.property entities pending.property.name
  cases pending.isCompanion with
  | false => exact likeness.store among
  | true =>
      cases leftFound : one.property? pending.property.name with
      | none =>
          rw [leftFound] at present
          rw [Option.map_eq_none_iff.mp present.symm]
          exact likeness.store among
      | some existing =>
          rw [leftFound] at present
          obtain ⟨standing, rightFound, kind⟩ := Option.map_eq_some_iff.mp present.symm
          rw [rightFound]
          dsimp only
          rw [kind]
          split
          · exact .pure ⟨rfl, List.nil_subset _⟩
          · exact .throw _

/-- The queue only ever reaches the entities that its attachments touch, since companions imply no
companions. -/
theorem drain (steps : Nat) {queue : List Pending}
    (among : ∀ pending ∈ queue, keys pending.target ∧
      ∀ implied ∈ pending.implied, keys implied.target ∧ implied.implied = []) :
    Respects alike Eq (drain steps queue) (drain steps queue) := by
  induction steps generalizing queue with
  | zero =>
      cases queue with
      | nil => exact .pure rfl
      | cons first rest => exact .throw _
  | succ steps ih =>
      cases queue with
      | nil => exact .pure rfl
      | cons first rest =>
          obtain ⟨⟨target, implied⟩, others⟩ := List.forall_mem_cons.mp among
          refine (likeness.process target).bind ?_
          rintro added _ ⟨rfl, subset⟩
          refine ih (List.forall_mem_append.mpr ⟨others, fun pending mem => ?_⟩)
          obtain ⟨reached, last⟩ := implied pending (subset mem)
          exact ⟨reached, by simp [last]⟩

/-- Attaching a property comes to the same if the relation covers its entity and the entities that
must carry its companions. -/
theorem attach {key : EntityKey} {property : Property} (visibility : Visibility) (among : keys key)
    (companions : ∀ companion ∈ property.kind.companions key property.name,
      keys companion.target) :
    Respects alike Eq (attach key property visibility) (attach key property visibility) := by
  refine (likeness.ensureComposing _).andThen ?_
  refine (likeness.requireEntity among).bind fun _ _ _ => ?_
  refine .restoring (likeness.drain _ ?_) (confined_drain _ _) (confined_drain _ _)
  simp only [List.forall_mem_singleton, Pending.implied, List.forall_mem_map]
  exact ⟨among, fun companion mem => ⟨companions companion mem, by
    rw [PropertyKind.companions_of_mem mem, List.map_nil]⟩⟩

end Likeness

end Composer

end EntitySurface
