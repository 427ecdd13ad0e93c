import EntitySurface.Proofs.Schema.Companions

/-!
# The names of companions

A companion is named after the entity of its link and, below a parent, after the link. So its name
is valid unless it is too long. In runs that leave the beginnings of such names to companions,
whatever is named like a companion is one.
-/

namespace EntitySurface

open Composer

/-! ## Which names companions get -/

namespace Name

/-- The beginnings of the names that companions get. -/
def companionStarts : List String := ["CHILDREN_", "LEFTFOR_", "RIGHTFOR_", "AUTOLINK_"]

/-- The name begins like the name of a companion. -/
def isReserved (name : String) : Bool :=
  companionStarts.any fun start => start.toList.isPrefixOf name.toList

theorem isNameChar_toUpper {c : Char} (named : isNameChar c = true) :
    isNameChar c.toUpper = true := by
  have table : ∀ code < 128, isNameChar (Char.ofNat code) = true →
      isNameChar (Char.ofNat code).toUpper = true := by
    decide +kernel
  have upper := table c.toNat (UInt32.lt_iff_toNat_lt.mp (isNameChar_ascii named))
  rw [Char.ofNat_toNat] at upper
  exact upper named

/-- A name of the right shape can only be too long. -/
theorem identifierProblem?_of_shape {name : String} (shape : isIdentifierShape name.toList = true) :
    identifierProblem? name = if maxLength < name.utf8ByteSize then some .tooLong else none := by
  have filled : name ≠ "" := by
    rintro rfl
    contradiction
  rw [identifierProblem?, if_neg filled, if_pos shape]

end Name

namespace PropertyKind

variable {kind : PropertyKind} {owner : EntityKey} {link : String} {companion : Companion}

theorem isReserved_of_mem_companions (mem : companion ∈ kind.companions owner link) :
    Name.isReserved companion.property.name = true := by
  cases kind <;> simp only [companions, List.not_mem_nil, List.mem_cons, or_false] at mem
  all_goals rcases mem with rfl | rfl
  all_goals simp [Name.isReserved, Name.companionStarts]

/-- Between valid names, only its length may be wrong with the name of a companion. -/
theorem identifierProblem?_of_mem_companions (mem : companion ∈ kind.companions owner link)
    (ownerNamed : Name.identifierProblem? owner.name = none)
    (linkNamed : Name.identifierProblem? link = none) :
    Name.identifierProblem? companion.property.name =
      if Name.maxLength < companion.property.name.utf8ByteSize then some .tooLong else none := by
  have ascii := Name.isAscii_of_identifierProblem?_eq_none ownerNamed
  have upper : ∀ c ∈ (Text.uppercase owner.name).toList, Name.isNameChar c = true := by
    rw [Text.uppercase_of_ascii ascii, String.toList_ofList, List.forall_mem_map]
    exact fun c inName => Name.isNameChar_toUpper
      (Name.isNameChar_of_identifierProblem?_eq_none ownerNamed c inName)
  have tail := Name.isNameChar_of_identifierProblem?_eq_none linkNamed
  apply Name.identifierProblem?_of_shape
  cases kind <;> simp only [companions, List.not_mem_nil, List.mem_cons, or_false] at mem
  case linkedToParent =>
    subst mem
    simp only [String.append_assoc, String.toList_append]
    refine Name.isIdentifierShape_append (by decide) ?_
    simp only [List.mem_append]
    rintro c (inOwner | between | inLink)
    · exact upper c inOwner
    · obtain rfl := List.mem_singleton.mp between
      rfl
    · exact tail c inLink
  all_goals rcases mem with rfl | rfl
  all_goals
    simp only [String.toList_append]
    exact Name.isIdentifierShape_append (by decide) upper

theorem isCompanion_of_mem_companions (mem : companion ∈ kind.companions owner link) :
    companion.property.tag.isCompanion = true := by
  cases kind <;> simp only [companions, List.not_mem_nil, List.mem_cons, or_false] at mem
  all_goals rcases mem with rfl | rfl
  all_goals rfl

/-- The companions of one link go by different names. -/
theorem nodup_names_companions (kind : PropertyKind) (owner : EntityKey) (link : String) :
    ((kind.companions owner link).map fun companion => companion.property.name).Nodup := by
  cases kind <;> simp [companions]

/-- An entity that a link leads to is one of its parameters. -/
theorem target_mem_bindings (mem : companion ∈ kind.companions owner link) :
    ∃ binding ∈ kind.bindings, binding.target = .entity companion.target := by
  cases kind <;> simp only [companions, List.not_mem_nil, List.mem_cons, or_false] at mem
  all_goals rcases mem with rfl | rfl
  all_goals simp [bindings]

/-- A companion refers back to the entity of the link, and to what the link refers to. -/
theorem bindings_of_mem_companions (mem : companion ∈ kind.companions owner link) :
    ∀ binding ∈ companion.property.kind.bindings,
      binding.target = .entity owner ∨ ∃ given ∈ kind.bindings, given.target = binding.target := by
  cases kind <;> simp only [companions, List.not_mem_nil, List.mem_cons, or_false] at mem
  all_goals rcases mem with rfl | rfl
  all_goals simp [bindings]

end PropertyKind

/-! ## Runs that leave these names to companions -/

/-- The command attaches a property of a companion's kind or under the name of a companion. -/
def Command.attachesReserved : Command → Bool
  | .property _ attached _ => attached.tag.isCompanion || Name.isReserved attached.name
  | _ => false

namespace Schema

variable {schema : Schema} {queue : List Holding}

/-- The schemas that composition runs lead to in which nothing but cascades brings companions, or
properties that are named like them. -/
inductive ReachableUnreserved : Schema → Prop where
  | start (name : String) : ReachableUnreserved { name }
  | step {schema : Schema} (command : Command) (reached : ReachableUnreserved schema)
      (unreserved : command.attachesReserved = true → (schema.execute command).2 ≠ none) :
      ReachableUnreserved (schema.execute command).1

/-- What is named like a companion, stored or waiting to be stored, is a companion. -/
def Reserves (schema : Schema) (queue : List Holding) : Prop :=
  ∀ holding, holding ∈ schema.holdings ∨ holding ∈ queue → Name.isReserved holding.name = true →
    holding.kind.tag.isCompanion = true

end Schema

namespace Composer

variable {before after : Schema} {pending : Pending} {rest implied : List Pending} {done : Unit}

theorem reserves_process (wellFormed : before.WellFormed)
    (processed : process pending before = .ok implied after)
    (reserves : before.Reserves ((pending :: rest).map Pending.holding)) :
    after.Reserves ((rest ++ implied).map Pending.holding) := by
  intro holding place named
  rcases process_holdings wellFormed processed with ⟨rfl, rfl, -⟩ | ⟨rfl, holds⟩
  · rw [List.append_nil] at place
    exact reserves holding (place.imp_right (List.mem_cons_of_mem _)) named
  · rw [List.map_append, Pending.map_holding_implied, List.mem_append, holds] at place
    have known : (holding ∈ before.holdings ∨
        holding ∈ (pending :: rest).map Pending.holding) ∨ holding ∈ pending.holding.implied := by
      rw [List.map_cons, List.mem_cons]
      tauto
    rcases known with old | new
    · exact reserves holding old named
    · obtain ⟨companion, mem, rfl⟩ := List.mem_map.mp new
      exact PropertyKind.isCompanion_of_mem_companions mem

theorem reserves_drain {steps : Nat} {queue : List Pending} (wellFormed : before.WellFormed)
    (reserves : before.Reserves (queue.map Pending.holding))
    (drained : drain steps queue before = .ok done after) : after.Reserves [] := by
  have kept := drain_induction
    (fun schema queue => schema.WellFormed ∧ schema.Reserves (queue.map Pending.holding)) ?_
    ⟨wellFormed, reserves⟩ drained
  · exact kept.2
  · rintro middle next pending rest implied processed ⟨sound, reserves⟩
    exact ⟨(process_growth sound processed).wellFormed sound,
      reserves_process sound processed reserves⟩

end Composer

namespace Schema.ReachableUnreserved

variable {schema : Schema}

theorem byLinks (reached : schema.ReachableUnreserved) : schema.ReachableByLinks := by
  induction reached with
  | start name => exact .start name
  | step command reached unreserved ih =>
      apply ih.step command
      intro attaches
      apply unreserved
      cases command <;> simp_all [Command.attachesCompanion, Command.attachesReserved]

theorem reserves (reached : schema.ReachableUnreserved) : schema.Reserves [] := by
  induction reached with
  | start name => rintro holding (stored | waiting) <;> contradiction
  | @step schema command reached unreserved ih =>
      have wellFormed := reached.byLinks.reachable.wellFormed
      rcases command.attaches_or_keepsHoldings with ⟨key, property, visibility, rfl⟩ | keeps
      · rcases execute_property wellFormed key property visibility with same | ⟨succeeded, drained⟩
        · rwa [same]
        · apply reserves_drain wellFormed _ drained
          rintro holding (stored | waiting) named
          · exact ih holding (Or.inl stored) named
          · obtain rfl := List.mem_singleton.mp waiting
            refine absurd succeeded (unreserved ?_)
            have reserved : Name.isReserved property.name = true := named
            simp [Command.attachesReserved, reserved]
      · intro holding place named
        rw [execute_holdings command keeps] at place
        exact ih holding place named

/-- A run without commands that attach such properties, however its commands end. -/
theorem executeAll (reached : schema.ReachableUnreserved) {commands : List Command}
    (unreserved : ∀ command ∈ commands, command.attachesReserved = false) :
    (schema.executeAll commands).1.ReachableUnreserved := by
  induction commands generalizing schema with
  | nil => exact reached
  | cons command rest ih =>
      obtain ⟨first, others⟩ := List.forall_mem_cons.mp unreserved
      apply ih (reached.step command _) others
      intro attaches
      rw [first] at attaches
      contradiction

end Schema.ReachableUnreserved

end EntitySurface
