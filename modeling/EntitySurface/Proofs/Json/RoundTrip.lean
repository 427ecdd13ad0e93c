import EntitySurface.Proofs.Json.Literals

/-!
# JSON texts read back

The indented text of a value is read back as this value, as long as its numbers fit into 64 bits and
it is not nested too deep. The reader is told how far it may go by a number of steps: two steps for
each character of a value are enough, whatever follows the value.
-/

namespace EntitySurface.Json

/-- Values that keep what they hold in a text: numbers are below `2 ^ 64`, and there are no more
than `height` arrays and objects inside each other. -/
inductive Plain : (height : Nat) → Json → Prop where
  | null {height : Nat} : Plain height .null
  | bool {height : Nat} (value : Bool) : Plain height (.bool value)
  | natural {height value : Nat} (small : value < UInt64.size) : Plain height (.natural value)
  | string {height : Nat} (value : String) : Plain height (.string value)
  | array {height : Nat} {items : List Json} (each : ∀ item ∈ items, Plain height item) :
      Plain (height + 1) (.array items)
  | object {height : Nat} {members : List (String × Json)}
      (each : ∀ member ∈ members, Plain height member.2) : Plain (height + 1) (.object members)

/-! ## Blanks -/

theorem skipSpaces_of_visible {c : Char} (visible : isSpace c = false) (rest : List Char) :
    skipSpaces (c :: rest) = c :: rest := by
  simp [skipSpaces, visible]

@[simp]
theorem skipSpaces_newline (level : Nat) (rest : List Char) :
    skipSpaces (newline level ++ rest) = skipSpaces rest := by
  have blank : ∀ c ∈ newline level, isSpace c = true := by
    simp only [newline, List.mem_cons, List.mem_replicate]
    rintro c (rfl | ⟨-, rfl⟩) <;> rfl
  exact List.dropWhile_append_of_pos blank

/-- Blanks in front of a value do not count. -/
theorem readValue_congr {depth steps : Nat} {first second : List Char}
    (same : skipSpaces first = skipSpaces second) :
    readValue depth steps first = readValue depth steps second := by
  cases steps with
  | zero => rfl
  | succ steps => simp only [readValue, same]

theorem endsNumber_newline (level : Nat) (rest : List Char) :
    EndsNumber (newline level ++ rest) := by
  rintro c ⟨⟩
  decide

theorem endsNumber_comma (rest : List Char) : EndsNumber (',' :: rest) := by
  rintro c ⟨⟩
  decide

theorem isSpace_of_isDigit {c : Char} (digit : c.isDigit = true) : isSpace c = false := by
  have apart (other : Char) (noDigit : other.isDigit = false) : c ≠ other :=
    ne_of_isDigit digit noDigit
  simp [isSpace, apart ' ' (by decide), apart '\n' (by decide), apart '\t' (by decide),
    apart '\r' (by decide)]

/-- The first character of a written value is no blank and no closing bracket. -/
theorem exists_cons_prettyChars {height : Nat} {json : Json} (plain : Plain height json)
    (level : Nat) : ∃ c rest, prettyChars level json = c :: rest ∧ isSpace c = false ∧
      c ≠ ']' ∧ c ≠ '\x7d' := by
  cases plain with
  | null => exact ⟨_, _, rfl, by decide, by decide, by decide⟩
  | bool value => cases value <;> exact ⟨_, _, rfl, by decide, by decide, by decide⟩
  | @natural _ value small =>
      obtain ⟨c, digits, chars, digit⟩ := exists_cons_toDigits value
      exact ⟨c, digits, by rw [← chars]; rfl, isSpace_of_isDigit digit,
        ne_of_isDigit digit (by decide), ne_of_isDigit digit (by decide)⟩
  | string value => exact ⟨_, _, rfl, by decide, by decide, by decide⟩
  | @array _ items _ => cases items <;> exact ⟨_, _, rfl, by decide, by decide, by decide⟩
  | @object _ members _ => cases members <;> exact ⟨_, _, rfl, by decide, by decide, by decide⟩

/-- The items of an array do not start like the end of the array. -/
theorem exists_cons_skipSpaces_prettyItems {height : Nat} {first : Json}
    (plain : Plain height first) (level : Nat) (others : List Json) (rest : List Char) :
    ∃ c tail, skipSpaces (prettyItems level (first :: others) ++ rest) = c :: tail ∧ c ≠ ']' := by
  obtain ⟨c, tail, chars, visible, noBracket, -⟩ := exists_cons_prettyChars plain level
  cases others <;>
  · simp only [prettyItems, List.append_assoc, skipSpaces_newline, chars, List.cons_append,
      skipSpaces_of_visible visible]
    exact ⟨c, _, rfl, noBracket⟩

/-- The members of an object start with the name of the first. -/
theorem exists_cons_skipSpaces_prettyMembers (level : Nat) (first : String × Json)
    (others : List (String × Json)) (rest : List Char) :
    ∃ tail, skipSpaces (prettyMembers level (first :: others) ++ rest) = '"' :: tail := by
  cases others <;>
  · simp only [prettyMembers, List.append_assoc, skipSpaces_newline, stringLiteral,
      List.cons_append, skipSpaces_of_visible (c := '"') rfl]
    exact ⟨_, rfl⟩

/-! ## Arrays and objects -/

/-- A value is read back from its text at any level, whatever follows, in two steps for each of its
characters. -/
def ReadsBack (depth : Nat) (json : Json) : Prop :=
  ∀ level steps rest, 2 * (prettyChars level json).length ≤ steps → EndsNumber rest →
    readValue depth steps (prettyChars level json ++ rest) = some (json, rest)

theorem ReadsBack.newline {depth : Nat} {json : Json} (reads : ReadsBack depth json)
    {level steps : Nat} (room : 2 * (prettyChars level json).length ≤ steps) {rest : List Char}
    (ends : EndsNumber rest) :
    readValue depth steps (newline level ++ (prettyChars level json ++ rest)) =
      some (json, rest) := by
  rw [readValue_congr (skipSpaces_newline level _), reads level steps rest room ends]

theorem prettyItems_cons_cons (level : Nat) (first second : Json) (others : List Json) :
    prettyItems level (first :: second :: others) =
      newline level ++
        (prettyChars level first ++ ',' :: prettyItems level (second :: others)) := by
  simp [prettyItems]

theorem prettyMembers_cons_cons (level : Nat) (name : String) (value : Json)
    (second : String × Json) (others : List (String × Json)) :
    prettyMembers level ((name, value) :: second :: others) =
      newline level ++ (stringLiteral name ++ ':' :: ' ' :: (prettyChars level value ++
        ',' :: prettyMembers level (second :: others))) := by
  simp [prettyMembers]

/-- The items of an array are read up to the bracket that closes it. -/
theorem readItems_prettyItems {depth : Nat} {first : Json} {others : List Json}
    (reads : ∀ item ∈ first :: others, ReadsBack depth item) {level steps : Nat}
    (room : 2 * (prettyItems level (first :: others)).length ≤ steps) (outer : Nat)
    (rest : List Char) :
    readItems depth steps (prettyItems level (first :: others) ++ (newline outer ++ ']' :: rest)) =
      some (first :: others, rest) := by
  induction others generalizing first steps with
  | nil =>
      cases steps with
      | zero => simp [prettyItems, Json.newline] at room
      | succ steps =>
          have room : 2 * (prettyChars level first).length ≤ steps := by
            simp only [prettyItems, Json.newline, List.length_append, List.length_cons] at room
            omega
          have value := (reads first List.mem_cons_self).newline room
            (endsNumber_newline outer (']' :: rest))
          rw [readItems, prettyItems, List.append_assoc, value]
          simp [skipSpaces_of_visible (c := ']') rfl]
  | cons second others ih =>
      obtain ⟨firstReads, othersRead⟩ := List.forall_mem_cons.mp reads
      cases steps with
      | zero => simp [prettyItems, Json.newline] at room
      | succ steps =>
          have rooms : 2 * (prettyChars level first).length ≤ steps ∧
              2 * (prettyItems level (second :: others)).length ≤ steps := by
            simp only [prettyItems, Json.newline, List.length_append, List.length_cons] at room
            omega
          have value := firstReads.newline rooms.1 (endsNumber_comma
            (prettyItems level (second :: others) ++ (newline outer ++ ']' :: rest)))
          have items := ih othersRead rooms.2
          rw [readItems, prettyItems_cons_cons, List.append_assoc, List.append_assoc,
            List.cons_append, value]
          simp [skipSpaces_of_visible (c := ',') rfl, items]

theorem length_le_flatMap_escapeChar (text : List Char) :
    text.length ≤ (text.flatMap escapeChar).length := by
  have positive : ∀ c, 1 ≤ (escapeChar c).length := by
    intro c
    unfold escapeChar
    repeat' split
    all_goals simp
  induction text with
  | nil => exact Nat.le_refl 0
  | cons c rest ih =>
      have := positive c
      rw [List.flatMap_cons, List.length_append, List.length_cons]
      omega

/-- A member is read with its name, and what follows decides whether it is the last one. -/
theorem readMembers_prettyMember {depth : Nat} {value : Json} (reads : ReadsBack depth value)
    {name : String} {level steps : Nat}
    (room : 2 * (newline level ++ (stringLiteral name ++ ':' :: ' ' ::
      prettyChars level value)).length ≤ steps + 1) {rest : List Char} (ends : EndsNumber rest) :
    let read := readMembers depth (steps + 1) (newline level ++ (stringLiteral name ++
      ':' :: ' ' :: (prettyChars level value ++ rest)))
    (∀ tail, skipSpaces rest = ',' :: tail →
      read = (readMembers depth steps tail).map fun others =>
        ((some name, value) :: others.1, others.2)) ∧
    (∀ tail, skipSpaces rest = '\x7d' :: tail → read = some ([(some name, value)], tail)) := by
  have lengths := length_le_flatMap_escapeChar name.toList
  simp only [stringLiteral, Json.newline, List.length_append, List.length_cons] at room
  have nameRead : readString steps (name.toList.flatMap escapeChar ++ '"' ::
      (':' :: ' ' :: (prettyChars level value ++ rest))) =
        some (some name, ':' :: ' ' :: (prettyChars level value ++ rest)) :=
    readString_stringLiteral (by omega) _
  have valueRead : readValue depth steps (' ' :: (prettyChars level value ++ rest)) =
      some (value, rest) := by
    have blank : skipSpaces (' ' :: (prettyChars level value ++ rest)) =
        skipSpaces (prettyChars level value ++ rest) := rfl
    rw [readValue_congr blank, reads level steps rest (by omega) ends]
  rw [readMembers, skipSpaces_newline, stringLiteral, List.cons_append, List.cons_append,
    List.append_assoc, skipSpaces_of_visible (c := '"') rfl]
  constructor <;>
  · intro tail follows
    simp only [List.singleton_append, nameRead, skipSpaces_of_visible (c := ':') rfl, valueRead,
      follows]

/-- The members of an object are read up to the bracket that closes it. -/
theorem readMembers_prettyMembers {depth : Nat} {first : String × Json}
    {others : List (String × Json)}
    (reads : ∀ member ∈ first :: others, ReadsBack depth member.2) {level steps : Nat}
    (room : 2 * (prettyMembers level (first :: others)).length ≤ steps) (outer : Nat)
    (rest : List Char) :
    readMembers depth steps
        (prettyMembers level (first :: others) ++ (newline outer ++ '\x7d' :: rest)) =
      some ((first :: others).map fun member => (some member.1, member.2), rest) := by
  induction others generalizing first steps with
  | nil =>
      cases steps with
      | zero => simp [prettyMembers, Json.newline] at room
      | succ steps =>
          obtain ⟨-, last⟩ := readMembers_prettyMember (reads first List.mem_cons_self)
            (by simpa [prettyMembers] using room) (endsNumber_newline outer ('\x7d' :: rest))
          have closed : skipSpaces (newline outer ++ '\x7d' :: rest) = '\x7d' :: rest := by
            rw [skipSpaces_newline, skipSpaces_of_visible (c := '\x7d') rfl]
          simpa [prettyMembers] using last rest closed
  | cons second others ih =>
      obtain ⟨firstReads, othersRead⟩ := List.forall_mem_cons.mp reads
      obtain ⟨name, value⟩ := first
      rw [prettyMembers_cons_cons] at room ⊢
      cases steps with
      | zero => simp [Json.newline] at room
      | succ steps =>
          have rooms : 2 * (newline level ++ (stringLiteral name ++ ':' :: ' ' ::
                prettyChars level value)).length ≤ steps + 1 ∧
              2 * (prettyMembers level (second :: others)).length ≤ steps := by
            simp only [List.length_append, List.length_cons] at room ⊢
            omega
          obtain ⟨more, -⟩ := readMembers_prettyMember firstReads rooms.1 (endsNumber_comma
            (prettyMembers level (second :: others) ++ (newline outer ++ '\x7d' :: rest)))
          have members := ih othersRead rooms.2
          simpa [members] using more _ (skipSpaces_of_visible (c := ',') rfl _)

/-- What starts with a digit is read as a number. -/
theorem readValue_of_isDigit {c : Char} (digit : c.isDigit = true) (depth steps : Nat)
    (rest : List Char) : readValue depth (steps + 1) (c :: rest) = readNumber (c :: rest) := by
  have apart (other : Char) (noDigit : other.isDigit = false) : c ≠ other :=
    ne_of_isDigit digit noDigit
  rw [readValue, skipSpaces_of_visible (isSpace_of_isDigit digit)]
  simp [apart 'n' (by decide), apart 't' (by decide), apart 'f' (by decide), apart '"' (by decide),
    apart '[' (by decide), apart '\x7b' (by decide)]

theorem mapM_eq_some_map {α β : Type} {f : α → Option β} {g : α → β} {items : List α}
    (each : ∀ item ∈ items, f item = some (g item)) : items.mapM f = some (items.map g) := by
  induction items with
  | nil => rfl
  | cons item rest ih =>
      obtain ⟨first, others⟩ := List.forall_mem_cons.mp each
      rw [List.mapM_cons, first, ih others]
      rfl

theorem ofMembers_map_some (members : List (String × Json)) :
    ofMembers (members.map fun member => (some member.1, member.2)) = .object members := by
  rw [ofMembers, List.mapM_map, mapM_eq_some_map (g := id)]
  · rw [List.map_id]
  · exact fun member _ => rfl

/-! ## Values by their form -/

theorem readsBack_null (depth : Nat) : ReadsBack depth .null := by
  intro level steps rest room ends
  cases steps with
  | zero => contradiction
  | succ steps => simp [prettyChars, leafLiteral, readValue, skipSpaces, isSpace]

theorem readsBack_bool (depth : Nat) (value : Bool) : ReadsBack depth (.bool value) := by
  intro level steps rest room ends
  cases steps with
  | zero => cases value <;> contradiction
  | succ steps => cases value <;> simp [prettyChars, leafLiteral, readValue, skipSpaces, isSpace]

theorem readsBack_natural (depth : Nat) {value : Nat} (small : value < UInt64.size) :
    ReadsBack depth (.natural value) := by
  intro level steps rest room ends
  obtain ⟨c, digits, chars, digit⟩ := exists_cons_toDigits value
  have number := readNumber_toDigits small ends
  simp only [prettyChars, leafLiteral, chars, List.cons_append] at room number ⊢
  cases steps with
  | zero => simp at room
  | succ steps => rw [readValue_of_isDigit digit, number]

theorem readsBack_string (depth : Nat) (value : String) : ReadsBack depth (.string value) := by
  intro level steps rest room ends
  have lengths := length_le_flatMap_escapeChar value.toList
  simp only [prettyChars, leafLiteral, stringLiteral, List.cons_append, List.length_cons,
    List.length_append, List.append_assoc] at room ⊢
  cases steps with
  | zero => omega
  | succ steps =>
      have text := readString_stringLiteral (by omega : value.toList.length < steps) rest
      rw [readValue, skipSpaces_of_visible (c := '"') rfl]
      simp [text]

/-- An array is read back when its items are. -/
theorem readsBack_array {height depth : Nat} (within : depth < maxDepth) {items : List Json}
    (each : ∀ item ∈ items, Plain height item)
    (reads : ∀ item ∈ items, ReadsBack (depth + 1) item) : ReadsBack depth (.array items) := by
  intro level steps rest room ends
  cases steps with
  | zero => cases items <;> simp [prettyChars] at room
  | succ steps =>
      cases items with
      | nil => simp [prettyChars, readValue, skipSpaces, isSpace, within]
      | cons first others =>
          have inner : 2 * (prettyItems (level + 1) (first :: others)).length ≤ steps := by
            simp only [prettyChars, List.cons_append, List.length_cons, List.length_append] at room
            omega
          have items := readItems_prettyItems reads inner level rest
          obtain ⟨c, tail, opened, noBracket⟩ := exists_cons_skipSpaces_prettyItems
            (each first List.mem_cons_self) (level + 1) others (newline level ++ ']' :: rest)
          simp only [prettyChars, List.cons_append, List.append_assoc, List.nil_append]
          rw [readValue, skipSpaces_of_visible (c := '[') rfl]
          simp [opened, noBracket, items, within]

/-- An object is read back when the values of its members are. -/
theorem readsBack_object {depth : Nat} (within : depth < maxDepth)
    {members : List (String × Json)}
    (reads : ∀ member ∈ members, ReadsBack (depth + 1) member.2) :
    ReadsBack depth (.object members) := by
  intro level steps rest room ends
  cases steps with
  | zero => cases members <;> simp [prettyChars] at room
  | succ steps =>
      cases members with
      | nil => simp [prettyChars, readValue, skipSpaces, isSpace, within]
      | cons first others =>
          have inner : 2 * (prettyMembers (level + 1) (first :: others)).length ≤ steps := by
            simp only [prettyChars, List.cons_append, List.length_cons, List.length_append] at room
            omega
          have members := readMembers_prettyMembers reads inner level rest
          obtain ⟨tail, opened⟩ := exists_cons_skipSpaces_prettyMembers (level + 1) first others
            (newline level ++ '\x7d' :: rest)
          simp only [prettyChars, List.cons_append, List.append_assoc, List.nil_append]
          rw [readValue, skipSpaces_of_visible (c := '\x7b') rfl]
          simp only [opened, members, Option.map_some, if_pos within, ofMembers_map_some]
          rfl

/-- Every value that keeps what it holds is read back, unless it is nested too deep. -/
theorem Plain.readsBack {height depth : Nat} {json : Json} (plain : Plain height json)
    (shallow : depth + height ≤ maxDepth) : ReadsBack depth json := by
  induction plain generalizing depth with
  | null => exact readsBack_null depth
  | bool value => exact readsBack_bool depth value
  | natural small => exact readsBack_natural depth small
  | string value => exact readsBack_string depth value
  | array each ih =>
      exact readsBack_array (by omega) each fun item mem => ih item mem (by omega)
  | object _ ih => exact readsBack_object (by omega) fun member mem => ih member mem (by omega)

/-! ## Texts -/

/-- A value that is not nested too deep is read back from its text. -/
theorem Plain.parse?_pretty {height : Nat} {json : Json} (plain : Plain height json)
    (shallow : height ≤ maxDepth) : parse? json.pretty = some json := by
  have reads := plain.readsBack (by omega : 0 + height ≤ maxDepth) 0
    (2 * (prettyChars 0 json).length + 2) [] (by omega) nofun
  rw [List.append_nil] at reads
  simp [parse?, pretty, reads, skipSpaces]

theorem eachItemUsable_of_forall {items : List Json}
    (each : ∀ item ∈ items, item.isUsable = true) : eachItemUsable items = true := by
  induction items with
  | nil => rfl
  | cons first others ih =>
      obtain ⟨firstUsable, othersUsable⟩ := List.forall_mem_cons.mp each
      rw [eachItemUsable, firstUsable, ih othersUsable, Bool.and_self]

theorem eachMemberUsable_of_forall {members : List (String × Json)}
    (each : ∀ member ∈ members, member.2.isUsable = true) : eachMemberUsable members = true := by
  induction members with
  | nil => rfl
  | cons first others ih =>
      obtain ⟨firstUsable, othersUsable⟩ := List.forall_mem_cons.mp each
      rw [eachMemberUsable, firstUsable, ih othersUsable, Bool.and_self]

/-- A value that keeps what it holds can be read all through. -/
theorem Plain.isUsable {height : Nat} {json : Json} (plain : Plain height json) :
    json.isUsable = true := by
  induction plain with
  | null | bool | natural | string => rfl
  | array _ ih => exact eachItemUsable_of_forall ih
  | object _ ih => exact eachMemberUsable_of_forall ih

/-- A value may be nested less deep than it is allowed to be. -/
theorem Plain.mono {height greater : Nat} {json : Json} (plain : Plain height json)
    (le : height ≤ greater) : Plain greater json := by
  induction plain generalizing greater with
  | null => exact .null
  | bool value => exact .bool value
  | natural small => exact .natural small
  | string value => exact .string value
  | array _ ih =>
      obtain ⟨lower, rfl⟩ := Nat.exists_eq_succ_of_ne_zero (by omega : greater ≠ 0)
      exact .array fun item mem => ih item mem (by omega)
  | object _ ih =>
      obtain ⟨lower, rfl⟩ := Nat.exists_eq_succ_of_ne_zero (by omega : greater ≠ 0)
      exact .object fun member mem => ih member mem (by omega)

end EntitySurface.Json
