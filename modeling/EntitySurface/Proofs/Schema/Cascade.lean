import EntitySurface.Proofs.Schema.Attachments

/-!
# Cascades

Attaching a property stores it and then works off its companions, which imply nothing more. So the
cascade is known before it runs: the property first, then its companions in order. It succeeds when
each of them fits the schema that those before it have left, and then every entity has received
what was meant for it.
-/

namespace EntitySurface

open Composer

/-- A cascade went on for too long. -/
def Fault.isCyclic : Fault → Bool
  | .cyclicCascade _ _ _ => true
  | _ => false

/-- The attachment that a property is attached by. -/
def Composer.Pending.requested (key : EntityKey) (property : Property) (visibility : Visibility) :
    Pending :=
  { target := key, property, visibility, isCompanion := false }

/-- The attachment with those that it implies. -/
def Composer.Pending.cascade (pending : Pending) : List Pending :=
  pending :: pending.implied

namespace Schema

/-- Each of the attachments fits the schema that those before it have left. -/
def FitsAll (schema : Schema) : List Pending → Prop
  | [] => True
  | pending :: rest => pending.Fits schema ∧ (schema.mapEntities pending.receivedBy).FitsAll rest

/-- The schema after every entity has received the attachments in order. -/
def receiveAll (schema : Schema) (queue : List Pending) : Schema :=
  queue.foldl (fun schema pending => schema.mapEntities pending.receivedBy) schema

end Schema

namespace Composer

variable {before after : Schema} {done : Unit} {pending : Pending} {implied queue : List Pending}
  {steps : Nat} {key : EntityKey} {property : Property} {visibility : Visibility}

/-! ## Success -/

/-- What is implied by an attachment implies nothing. -/
theorem Pending.last_of_implied : ∀ companion ∈ pending.implied, companion.implied = [] := by
  intro companion mem
  obtain ⟨found, inCompanions, rfl⟩ := List.mem_map.mp mem
  simp [implied, PropertyKind.companions_of_mem inCompanions]

theorem Pending.length_implied_le (pending : Pending) : pending.implied.length ≤ 2 := by
  unfold implied
  rw [List.length_map]
  cases pending.property.kind <;> simp [PropertyKind.companions]

theorem implied_of_process (processed : process pending before = .ok implied after) :
    implied = [] ∨ implied = pending.implied := by
  rcases process_eq_ok processed with ⟨-, -, -, -, -, nothing, -⟩ | stored
  · exact Or.inl nothing
  · exact Or.inr (store_eq_ok_iff.mp stored).1

theorem last_of_process (processed : process pending before = .ok implied after) :
    ∀ companion ∈ implied, companion.implied = [] := by
  rcases implied_of_process processed with rfl | rfl
  · simp
  · exact Pending.last_of_implied

theorem implied_length_of_process (processed : process pending before = .ok implied after) :
    implied.length ≤ 2 := by
  rcases implied_of_process processed with rfl | rfl
  · simp
  · exact pending.length_implied_le

/-- Processing a property that is no companion. -/
theorem process_requested_eq_ok_iff (wellFormed : before.WellFormed) :
    process (.requested key property visibility) before = .ok implied after ↔
      implied = (Pending.requested key property visibility).implied ∧
        (Pending.requested key property visibility).Fits before ∧
        after = before.mapEntities (Pending.requested key property visibility).receivedBy := by
  rw [process_eq_ok_iff wellFormed]
  simp only [Pending.Fits, Pending.IsPresent, Pending.requested, Bool.false_eq_true, false_and,
    false_or]
  tauto

/-- Processing an attachment that implies nothing. -/
theorem process_last_eq_ok_iff (wellFormed : before.WellFormed) (last : pending.implied = []) :
    process pending before = .ok implied after ↔
      implied = [] ∧ pending.Fits before ∧ after = before.mapEntities pending.receivedBy := by
  rw [process_eq_ok_iff wellFormed, last]
  constructor
  · rintro ⟨⟨found, known, ⟨fits, rfl⟩ | ⟨fits, rfl⟩⟩, rfl⟩
    · exact ⟨rfl, ⟨found, known, Or.inl fits⟩, rfl⟩
    · exact ⟨rfl, ⟨found, known, Or.inr fits⟩, rfl⟩
  · rintro ⟨rfl, ⟨found, known, fits⟩, rfl⟩
    exact ⟨⟨found, known, fits.imp (⟨·, rfl⟩) (⟨·, rfl⟩)⟩, rfl⟩

/-- What an attachment that fits leads to is well-formed. -/
theorem Pending.Fits.wellFormed (fits : pending.Fits before) (sound : before.WellFormed) :
    (before.mapEntities pending.receivedBy).WellFormed := by
  obtain ⟨found, known, outcome⟩ := fits
  have processed : ∃ implied, process pending before =
      .ok implied (before.mapEntities pending.receivedBy) := by
    rcases outcome with present | takes
    · exact ⟨[], (process_eq_ok_iff sound).mpr ⟨⟨found, known, Or.inl ⟨present, rfl⟩⟩, rfl⟩⟩
    · exact ⟨_, (process_eq_ok_iff sound).mpr ⟨⟨found, known, Or.inr ⟨takes, rfl⟩⟩, rfl⟩⟩
  obtain ⟨implied, succeeded⟩ := processed
  exact (process_growth sound succeeded).wellFormed sound

/-- A queue of attachments that imply nothing is worked off in order. -/
theorem drain_last_eq_ok_iff (wellFormed : before.WellFormed)
    (last : ∀ pending ∈ queue, pending.implied = []) (room : queue.length ≤ steps) :
    drain steps queue before = .ok done after ↔
      before.FitsAll queue ∧ after = before.receiveAll queue := by
  induction queue generalizing before steps with
  | nil =>
      cases steps <;> simp [drain, pure_eq_ok_iff, Schema.FitsAll, Schema.receiveAll, eq_comm]
  | cons first rest ih =>
      obtain ⟨firstLast, restLast⟩ := List.forall_mem_cons.mp last
      cases steps with
      | zero => contradiction
      | succ steps =>
          have room : rest.length ≤ steps := Nat.le_of_succ_le_succ room
          simp only [drain, bind_eq_ok_iff, process_last_eq_ok_iff wellFormed firstLast]
          constructor
          · rintro ⟨_, middle, ⟨rfl, fits, rfl⟩, drained⟩
            rw [List.append_nil, ih (fits.wellFormed wellFormed) restLast room] at drained
            exact ⟨⟨fits, drained.1⟩, drained.2⟩
          · rintro ⟨⟨fits, others⟩, rfl⟩
            refine ⟨[], _, ⟨rfl, fits, rfl⟩, ?_⟩
            rw [List.append_nil, ih (fits.wellFormed wellFormed) restLast room]
            exact ⟨others, rfl⟩

/-- A cascade is worked off in order. -/
theorem drain_requested_eq_ok_iff (wellFormed : before.WellFormed) :
    drain maxCascadeSteps [.requested key property visibility] before = .ok done after ↔
      before.FitsAll (Pending.requested key property visibility).cascade ∧
        after = before.receiveAll (Pending.requested key property visibility).cascade := by
  have room := Nat.le_trans (Pending.requested key property visibility).length_implied_le
    (by decide : 2 ≤ 1023)
  simp only [maxCascadeSteps, drain, bind_eq_ok_iff, List.nil_append,
    process_requested_eq_ok_iff wellFormed]
  constructor
  · rintro ⟨_, _, ⟨rfl, fits, rfl⟩, drained⟩
    rw [drain_last_eq_ok_iff (fits.wellFormed wellFormed) Pending.last_of_implied room] at drained
    exact ⟨⟨fits, drained.1⟩, drained.2⟩
  · rintro ⟨⟨fits, others⟩, rfl⟩
    refine ⟨_, _, ⟨rfl, fits, rfl⟩, ?_⟩
    rw [drain_last_eq_ok_iff (fits.wellFormed wellFormed) Pending.last_of_implied room]
    exact ⟨others, rfl⟩

/-- A property is attached when it and then its companions in order fit, and then every entity has
received its part of them. -/
theorem attach_eq_ok_iff (wellFormed : before.WellFormed) :
    attach key property visibility before = .ok done after ↔
      before.phase = .composing ∧
        before.FitsAll (Pending.requested key property visibility).cascade ∧
        after = before.receiveAll (Pending.requested key property visibility).cascade := by
  simp only [attach, bind_eq_ok_iff, ensureComposing_eq_ok_iff, requireEntity_eq_ok_iff,
    restoring_eq_ok_iff]
  constructor
  · rintro ⟨_, _, ⟨composing, rfl⟩, _, _, ⟨-, rfl⟩, drained⟩
    exact ⟨composing, (drain_requested_eq_ok_iff wellFormed).mp drained⟩
  · rintro ⟨composing, fitsAll, received⟩
    obtain ⟨found, known, -⟩ := fitsAll.1
    exact ⟨(), before, ⟨composing, rfl⟩, found, before, ⟨known, rfl⟩,
      (drain_requested_eq_ok_iff wellFormed).mpr ⟨fitsAll, received⟩⟩

/-! ## How far a cascade goes -/

/-- How many attachments are processed, one that fails included. -/
def processed : (steps : Nat) → List Pending → Schema → Nat
  | 0, _, _ => 0
  | _, [], _ => 0
  | steps + 1, pending :: rest, schema =>
      match process pending schema with
      | .ok implied changed => processed steps (rest ++ implied) changed + 1
      | .error _ _ => 1

/-- No more attachments are processed than wait, if they imply nothing. -/
theorem processed_le_length (last : ∀ pending ∈ queue, pending.implied = []) :
    processed steps queue before ≤ queue.length := by
  induction steps generalizing queue before with
  | zero => exact Nat.zero_le _
  | succ steps ih =>
      cases queue with
      | nil => exact Nat.zero_le _
      | cons first rest =>
          obtain ⟨firstLast, restLast⟩ := List.forall_mem_cons.mp last
          rw [processed]
          cases outcome : process first before with
          | error fault after => simp
          | ok implied after =>
              obtain rfl : implied = [] := by
                simpa [firstLast] using implied_of_process outcome
              simpa using ih restLast

/-- A property and its companions are all that an attachment ever processes. -/
theorem processed_requested_le : processed steps [pending] before ≤ 3 := by
  cases steps with
  | zero => exact Nat.zero_le _
  | succ steps =>
      rw [processed]
      cases outcome : process pending before with
      | error fault after => simp
      | ok implied after =>
          have few := implied_length_of_process outcome
          exact Nat.succ_le_succ (Nat.le_trans (processed_le_length (last_of_process outcome)) few)

/-- A loop may stop as soon as all attachments are processed. -/
theorem drain_eq_of_processed_le {limit : Nat} (enough : processed steps queue before ≤ limit)
    (fewer : limit ≤ steps) : drain limit queue before = drain steps queue before := by
  induction steps generalizing queue before limit with
  | zero =>
      obtain rfl := Nat.le_zero.mp fewer
      rfl
  | succ steps ih =>
      cases queue with
      | nil => cases limit <;> rfl
      | cons first rest =>
          rw [processed] at enough
          cases limit with
          | zero =>
              split at enough <;> contradiction
          | succ limit =>
              simp only [drain]
              cases outcome : process first before with
              | error fault after =>
                  rw [bind_of_error outcome, bind_of_error outcome]
              | ok implied after =>
                  rw [bind_of_ok outcome, bind_of_ok outcome]
                  rw [outcome] at enough
                  exact ih (Nat.le_of_succ_le_succ enough) (Nat.le_of_succ_le_succ fewer)

/-! ## Cascades come to an end -/

/-- If the step fails, then not because a cascade went on for too long. -/
def Terminates {α : Type} (step : Composer α) : Prop :=
  ∀ before fault after, step before = .error fault after → fault.isCyclic = false

namespace Terminates

variable {α β : Type}

theorem bind {step : Composer α} {next : α → Composer β} (first : Terminates step)
    (rest : ∀ value, Terminates (next value)) : Terminates (step >>= next) := by
  intro before fault after failed
  cases outcome : step before with
  | ok value middle =>
      rw [bind_of_ok outcome] at failed
      exact rest value middle fault after failed
  | error cause middle =>
      rw [bind_of_error outcome] at failed
      cases failed
      exact first before fault after outcome

theorem pure (value : α) : Terminates (pure value : Composer α) := by
  intro before fault after failed
  change EStateM.Result.ok value before = _ at failed
  contradiction

theorem throw {fault : Fault} (other : fault.isCyclic = false) :
    Terminates (throw fault : Composer α) := by
  rintro before _ _ ⟨⟩
  exact other

theorem check {fault? : Schema → Option Fault}
    (others : ∀ schema, ∀ fault ∈ fault? schema, fault.isCyclic = false) :
    Terminates (check fault?) := by
  intro before fault after failed
  unfold Composer.check at failed
  split at failed
  · rename_i found
    cases failed
    exact others before fault found
  · contradiction

theorem requireEntity (key : EntityKey) : Terminates (requireEntity key) := by
  intro before fault after failed
  unfold Composer.requireEntity at failed
  split at failed
  · contradiction
  · cases failed
    rfl

theorem requireTarget (pending : Pending) : Terminates (requireTarget pending) := by
  intro before fault after failed
  unfold Composer.requireTarget at failed
  split at failed
  · contradiction
  · cases failed
    rfl

theorem modifyEntity (key : EntityKey) {change : Entity → Except Fault Entity}
    (others : ∀ found fault, change found = .error fault → fault.isCyclic = false) :
    Terminates (modifyEntity key change) := by
  refine (requireEntity key).bind fun found => ?_
  cases outcome : change found with
  | error fault => exact throw (others found fault outcome)
  | ok changed =>
      intro before fault after failed
      change EStateM.Result.ok () (before.replace key changed) = _ at failed
      contradiction

theorem forM {item : Type} {list : List item} {action : item → Composer Unit}
    (each : ∀ value, Terminates (action value)) : Terminates (list.forM action) := by
  induction list with
  | nil => exact pure ()
  | cons first rest ih => exact (each first).bind fun _ => ih

theorem restoring {step : Composer Unit} (terminates : Terminates step) :
    Terminates (restoring step) := by
  intro before fault after failed
  unfold Composer.restoring at failed
  split at failed
  · contradiction
  · rename_i outcome
    cases failed
    exact terminates before fault _ outcome

end Terminates

theorem terminates_store (pending : Pending) : Terminates (store pending) := by
  have rules : ∀ fault ∈ rulesFault? pending.target pending.property, fault.isCyclic = false := by
    intro fault found
    unfold rulesFault? at found
    split at found
    · rename_i other first
      obtain ⟨rule, -, fits⟩ := List.exists_of_findSome?_eq_some first
      unfold ruleFault? at fits
      grind [Fault.isCyclic]
    · grind [Fault.isCyclic]
  have properties : ∀ (entity : Entity) fault,
      entity.addProperty pending.bound = .error fault → fault.isCyclic = false := by
    intro entity fault failed
    unfold Entity.addProperty Entity.checkParentLink at failed
    grind [Fault.isCyclic]
  have widgets : ∀ (entity : Entity) widget fault,
      entity.addWidget widget = .error fault → fault.isCyclic = false := by
    intro entity widget fault failed
    unfold Entity.addWidget at failed
    grind [Fault.isCyclic]
  refine .bind (.check ?_) fun _ => .bind (.check ?_) fun _ => .bind (.check ?_) fun _ =>
    .bind (.check ?_) fun _ => .bind (.modifyEntity _ properties) fun _ =>
    .bind (.forM fun widget => .modifyEntity _ fun found => widgets found widget) fun _ => .pure _
  · simp [Fault.isCyclic]
  · exact fun _ => rules
  · intro schema fault found
    unfold bindingFault? at found
    split at found
    · contradiction
    · obtain ⟨binding, -, rfl⟩ := Option.map_eq_some_iff.mp found
      rfl
  · simp [ownerFault?, Fault.isCyclic]

theorem terminates_process (pending : Pending) : Terminates (process pending) := by
  refine (Terminates.requireTarget pending).bind fun owner => ?_
  split
  · split
    · exact .pure []
    · exact .throw rfl
  · exact terminates_store pending

/-- The limit is never reached by a queue of attachments that imply nothing. -/
theorem terminates_drain_last (last : ∀ pending ∈ queue, pending.implied = [])
    (room : queue.length ≤ steps) : Terminates (drain steps queue) := by
  induction queue generalizing steps with
  | nil => cases steps <;> exact .pure ()
  | cons first rest ih =>
      obtain ⟨firstLast, restLast⟩ := List.forall_mem_cons.mp last
      cases steps with
      | zero => contradiction
      | succ steps =>
          intro before fault after failed
          rw [drain] at failed
          cases outcome : process first before with
          | error cause middle =>
              rw [bind_of_error outcome] at failed
              cases failed
              exact terminates_process first before fault after outcome
          | ok implied middle =>
              obtain rfl : implied = [] := by
                simpa [firstLast] using implied_of_process outcome
              rw [bind_of_ok outcome, List.append_nil] at failed
              exact ih restLast (Nat.le_of_succ_le_succ room) middle fault after failed

theorem terminates_attach (key : EntityKey) (property : Property) (visibility : Visibility) :
    Terminates (attach key property visibility) := by
  refine .bind (.check ?_) fun _ => (Terminates.requireEntity key).bind fun _ => .restoring ?_
  · intro schema fault found
    split at found
    · cases found
      rfl
    · contradiction
  · intro before fault after failed
    simp only [maxCascadeSteps, drain] at failed
    cases outcome : process (.requested key property visibility) before with
    | error cause middle =>
        rw [← Pending.requested, bind_of_error outcome] at failed
        cases failed
        exact terminates_process _ before fault after outcome
    | ok implied middle =>
        rw [← Pending.requested, bind_of_ok outcome] at failed
        have room := Nat.le_trans (implied_length_of_process outcome) (by decide : 2 ≤ 1023)
        exact terminates_drain_last (last_of_process outcome) room middle fault after failed

end Composer

end EntitySurface
