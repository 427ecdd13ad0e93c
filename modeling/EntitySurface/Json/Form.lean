import EntitySurface.Dictionary
import EntitySurface.Json.Basic

/-!
# Types with a JSON form

A type has a JSON form when its values can be written as JSON values and read back. Records are
written as objects in declaration order, and an absent optional field is written as null. A value of
an enumeration is written as its word; a variant with fields is an object with the variant as its
only member, or a record that carries the variant as a tag.
-/

namespace EntitySurface

/-- Values that are written as JSON and read back. -/
class JsonForm (α : Type) where
  toJson : α → Json
  readJson? : JsonSource → Json → Option α

export JsonForm (toJson readJson?)

/-- Read a complete value. -/
def ofJson? {α : Type} [JsonForm α] (json : Json) : Option α :=
  readJson? .value json

namespace JsonForm

variable {α : Type} [JsonForm α]

instance : JsonForm String where
  toJson := .string
  readJson? _ := Json.string?

instance : JsonForm Bool where
  toJson := .bool
  readJson? _ := Json.bool?

instance : JsonForm UInt64 where
  toJson value := .natural value.toNat
  readJson? _ := Json.uint64?

instance : JsonForm UInt8 where
  toJson value := .natural value.toNat
  readJson? _ := Json.uint8?

/-- Read every item of a list. -/
def readEach (source : JsonSource) : List Json → Option (List α)
  | [] => some []
  | item :: rest => do
      let value ← readJson? source item
      let values ← readEach source rest
      some (value :: values)

/-- Read the value of every member of an object. -/
def readMembers (source : JsonSource) : List (String × Json) → Option (List (String × α))
  | [] => some []
  | (name, item) :: rest => do
      let value ← readJson? source item
      let values ← readMembers source rest
      some ((name, value) :: values)

instance : JsonForm (List α) where
  toJson values := .array (values.map toJson)
  readJson? source json := json.array?.bind (readEach source)

instance : JsonForm (Option α) where
  toJson
    | some value => toJson value
    | none => .null
  readJson?
    | _, .null => some none
    | source, json => (readJson? source json).map some

instance : JsonForm (Dictionary α) where
  toJson dictionary := .object (dictionary.entries.map fun (name, value) => (name, toJson value))
  readJson? source json := (json.object?.bind (readMembers source)).map Dictionary.ofList

/-- Read a field that has to be there. -/
def required (source : JsonSource) (field : Option Json) : Option α :=
  field.bind (readJson? source)

/-- Read a field that may be missing or null. -/
def nullable (source : JsonSource) (field : Option Json) : Option (Option α) :=
  match field with
  | none => some none
  | some json => readJson? source json

/-- A variant without fields, as its word. -/
def word (name : String) : Json :=
  .string name

/-- A variant with fields, as an object with one member. -/
def variant (name : String) (fields : List (String × Json)) : Json :=
  .object [(name, .object fields)]

/-- The word of a variant, with its fields if it is written with any. A variant without fields may
be written with null, and inside of a tagged record also with an empty object. -/
def readVariant (source : JsonSource) : Json → Option (String × Option Json)
  | .string name => some (name, none)
  | .object [(name, .null)] => some (name, none)
  | .object [(name, .object [])] =>
      some (name, if source = .tagged then none else some (.object []))
  | .object [(name, fields)] => some (name, some fields)
  | _ => none

/-- The word of a variant without fields. -/
def readWord (source : JsonSource) (json : Json) : Option String :=
  match readVariant source json with
  | some (name, none) => some name
  | _ => none

/-- The named fields of a variant. In a complete value they are an object, not a list. -/
def variantFields (source : JsonSource) (names : List String) (fields : Json) :
    Option (List (Option Json)) :=
  match source, fields with
  | .value, .array _ => none
  | _, fields => fields.fields? names

end JsonForm

end EntitySurface
