import EntitySurface.Json.Surfaces
import EntitySurface.Proofs.Json.RoundTrip

/-!
# JSON forms read back

A form is lawful when every value is read back from what it was written as, be it from a text, from
a complete value or inside of a tagged record. Lawful forms are put together from lawful forms:
lists, dictionaries, records, and enumerations in either notation.
-/

namespace EntitySurface

/-! ## Dictionaries from their entries -/

namespace Dictionary

variable {α : Type}

/-- An entry whose key is greater than all others is put at the end. -/
theorem insertEntry_of_forall_lt {key : String} {value : α} {entries : List (String × α)}
    (last : ∀ entry ∈ entries, entry.1 < key) :
    insertEntry key value entries = entries ++ [(key, value)] := by
  induction entries with
  | nil => rfl
  | cons first rest ih =>
      obtain ⟨before, others⟩ := List.forall_mem_cons.mp last
      have notAfter : ¬ key < first.1 := fun after =>
        String.lt_irrefl key (String.lt_trans after before)
      have different : key ≠ first.1 := fun same => String.lt_irrefl key (same ▸ before)
      rw [insertEntry, if_neg notAfter, if_neg different, ih others, List.cons_append]

theorem entries_foldl_insert (dictionary : Dictionary α) {entries : List (String × α)}
    (ordered : (dictionary.entries ++ entries).Pairwise fun first second => first.1 < second.1) :
    (entries.foldl (fun dictionary entry => dictionary.insert entry.1 entry.2) dictionary).entries =
      dictionary.entries ++ entries := by
  induction entries generalizing dictionary with
  | nil => simp
  | cons entry rest ih =>
      have last : ∀ other ∈ dictionary.entries, other.1 < entry.1 := fun other mem =>
        (List.pairwise_append.mp ordered).2.2 other mem entry List.mem_cons_self
      have inserted : (dictionary.insert entry.1 entry.2).entries =
          dictionary.entries ++ [entry] := insertEntry_of_forall_lt last
      rw [List.foldl_cons, ih, inserted, List.append_assoc, List.singleton_append]
      rwa [inserted, List.append_assoc, List.singleton_append]

theorem eq_of_entries_eq {first second : Dictionary α} (same : first.entries = second.entries) :
    first = second := by
  cases first
  cases second
  cases same
  rfl

/-- A dictionary is collected from its own entries. -/
theorem ofList_entries (dictionary : Dictionary α) : ofList dictionary.entries = dictionary :=
  eq_of_entries_eq (entries_foldl_insert empty dictionary.ordered)

end Dictionary

/-! ## Records field by field -/

namespace Json

/-- The only entry under a name. -/
theorem filter_name_eq_singleton {members : List (String × Json)}
    (distinct : (members.map Prod.fst).Nodup) {member : String × Json} (mem : member ∈ members) :
    (members.filter fun entry => entry.1 == member.1) = [member] := by
  induction members with
  | nil => contradiction
  | cons first rest ih =>
      obtain ⟨fresh, distinct⟩ := List.nodup_cons.mp distinct
      rcases List.mem_cons.mp mem with rfl | later
      · rw [List.filter_cons_of_pos (by simp), List.filter_eq_nil_iff.mpr]
        intro entry within same
        exact fresh (beq_iff_eq.mp same ▸ List.mem_map_of_mem within)
      · have other : ¬ (first.1 == member.1) = true := fun same =>
          fresh (beq_iff_eq.mp same ▸ List.mem_map_of_mem later)
        rw [List.filter_cons, if_neg other, ih distinct later]

/-- A record that is written field by field is read field by field. -/
theorem fields?_object {names : List String} {members : List (String × Json)}
    (listed : members.map Prod.fst = names) (distinct : names.Nodup) :
    (object members).fields? names = some (members.map fun member => some member.2) := by
  subst listed
  rw [fields?, List.mapM_map]
  refine mapM_eq_some_map fun member mem => ?_
  rw [Function.comp_apply, filter_name_eq_singleton distinct mem]

/-- A record that was written with a tag is split into the tag and the rest. -/
theorem tagged?_withTag {tag value : String} {members : List (String × Json)} {source : JsonSource}
    {variants : List String} (usable : ∀ member ∈ members, member.2.isUsable = true)
    (absent : tag ∉ members.map Prod.fst) :
    (withTag tag value members).tagged? source tag variants = some (value, object members) := by
  have kept : ∀ member ∈ members, (member.1 != tag) = true := fun member mem =>
    bne_iff_ne.mpr fun same => absent (same ▸ List.mem_map_of_mem mem)
  have dropped : (members.filter fun member => member.1 == tag) = [] :=
    List.filter_eq_nil_iff.mpr fun member mem same => bne_iff_ne.mp (kept member mem)
      (beq_iff_eq.mp same)
  simp [withTag, tagged?, isUsable, eachMemberUsable, eachMemberUsable_of_forall usable, dropped,
    variant?, List.filter_eq_self.mpr kept]

end Json

/-- A JSON form that is read back. It is nested to a fixed depth and never null, so that it can
stand for a value that is there. -/
class LawfulForm (α : Type) [JsonForm α] where
  height : Nat
  plain (value : α) : (JsonForm.toJson value).Plain height
  ne_null (value : α) : JsonForm.toJson value ≠ .null
  readJson?_toJson (source : JsonSource) (value : α) :
    JsonForm.readJson? source (JsonForm.toJson value) = some value

namespace JsonForm

open LawfulForm

variable {α : Type} [JsonForm α] [LawfulForm α]

/-! ## Fields -/

theorem plain_toJson (value : α) {bound : Nat} (shallow : height α ≤ bound) :
    (toJson value).Plain bound :=
  (plain value).mono shallow

theorem plain_toJson_option (value : Option α) {bound : Nat} (shallow : height α ≤ bound) :
    (toJson value).Plain bound := by
  cases value with
  | none => exact .null
  | some value => exact plain_toJson value shallow

@[simp]
theorem isUsable_toJson (value : α) : (toJson value).isUsable = true :=
  (plain value).isUsable

@[simp]
theorem required_toJson (source : JsonSource) (value : α) :
    required source (some (toJson value)) = some value :=
  readJson?_toJson source value

omit [LawfulForm α] in
theorem nullable_of_ne_null (source : JsonSource) {json : Json} (there : json ≠ .null) :
    (nullable source (some json) : Option (Option α)) = (readJson? source json).map some := by
  cases json with
  | null => contradiction
  | _ => rfl

@[simp]
theorem nullable_toJson (source : JsonSource) (value : Option α) :
    nullable source (some (toJson value)) = some value := by
  cases value with
  | none => rfl
  | some value =>
      show nullable source (some (toJson value)) = _
      rw [nullable_of_ne_null source (ne_null value), readJson?_toJson, Option.map_some]

omit [JsonForm α] [LawfulForm α] in
theorem plain_variant {name : String} {fields : List (String × Json)} {bound : Nat}
    (each : ∀ field ∈ fields, field.2.Plain bound) : (variant name fields).Plain (bound + 2) := by
  refine .object ?_
  rw [List.forall_mem_singleton]
  exact .object each

/-! ## Scalars, lists and dictionaries -/

instance : LawfulForm String where
  height := 0
  plain := .string
  ne_null := nofun
  readJson?_toJson _ _ := rfl

instance : LawfulForm Bool where
  height := 0
  plain := .bool
  ne_null := nofun
  readJson?_toJson _ _ := rfl

instance : LawfulForm UInt64 where
  height := 0
  plain value := .natural value.toNat_lt
  ne_null := nofun
  readJson?_toJson _ value := by
    show (Json.natural value.toNat).uint64? = _
    simp [Json.uint64?, Json.naturalBelow?, value.toNat_lt]

instance : LawfulForm UInt8 where
  height := 0
  plain value := .natural (value.toNat_lt.trans (by decide))
  ne_null := nofun
  readJson?_toJson _ value := by
    show (Json.natural value.toNat).uint8? = _
    simp [Json.uint8?, Json.naturalBelow?, value.toNat_lt]

theorem readEach_map_toJson (source : JsonSource) (values : List α) :
    readEach source (values.map toJson) = some values := by
  induction values with
  | nil => rfl
  | cons value rest ih =>
      rw [List.map_cons, readEach, readJson?_toJson, ih]
      rfl

instance : LawfulForm (List α) where
  height := height α + 1
  plain values := .array (by simpa using fun value _ => plain value)
  ne_null := nofun
  readJson?_toJson source values := readEach_map_toJson source values

theorem readMembers_map_toJson (source : JsonSource) (entries : List (String × α)) :
    readMembers source (entries.map fun (name, value) => (name, toJson value)) = some entries := by
  induction entries with
  | nil => rfl
  | cons entry rest ih =>
      rw [List.map_cons, readMembers, readJson?_toJson, ih]
      rfl

instance : LawfulForm (Dictionary α) where
  height := height α + 1
  plain dictionary := .object (by
    simp only [List.forall_mem_map]
    exact fun entry _ => plain entry.2)
  ne_null := nofun
  readJson?_toJson source dictionary := by
    show (readMembers source (dictionary.entries.map fun (name, value) =>
      (name, toJson value))).map Dictionary.ofList = _
    rw [readMembers_map_toJson, Option.map_some, Dictionary.ofList_entries]

/-! ## Records and enumerations -/

instance : LawfulForm EntityKey where
  height := 1
  plain key := .object (by simp (disch := decide) [plain_toJson])
  ne_null := nofun
  readJson?_toJson source key := by simp +instances [instJsonFormEntityKey, Json.fields?_object]

instance : LawfulForm ChoiceKey where
  height := 1
  plain key := .object (by simp (disch := decide) [plain_toJson])
  ne_null := nofun
  readJson?_toJson source key := by simp +instances [instJsonFormChoiceKey, Json.fields?_object]

instance : LawfulForm FieldType where
  height := 2
  plain type := by
    cases type <;> exact .object (by simp (disch := decide) [plain_toJson, Json.Plain.string])
  ne_null type := by cases type <;> nofun
  readJson?_toJson source type := by
    cases type <;>
      simp +instances [instJsonFormFieldType, Json.tagged?_withTag, Json.fields?_object]

instance : LawfulForm GroupKind where
  height := 0
  plain kind := .string _
  ne_null := nofun
  readJson?_toJson source kind := by
    cases kind <;> rfl

instance : LawfulForm HookPhase where
  height := 2
  plain phase := by
    cases phase with
    | pre preliminary => exact plain_variant (by simp (disch := decide) [plain_toJson])
    | post => exact .string _
  ne_null phase := by cases phase <;> nofun
  readJson?_toJson source phase := by
    cases phase <;>
      simp +instances [instJsonFormHookPhase, readVariant, variant, word, variantFields,
        Json.fields?_object]

instance : LawfulForm WidgetKind where
  height := 3
  plain kind := by
    cases kind with
    | choice category => exact plain_variant (by simp (disch := decide) [plain_toJson])
    | text | dateRange | exact => exact .string _
  ne_null kind := by cases kind <;> nofun
  readJson?_toJson source kind := by
    cases kind <;>
      simp +instances [instJsonFormWidgetKind, readVariant, variant, word, variantFields,
        Json.fields?_object]

end JsonForm

end EntitySurface
