import EntitySurface.Digest.Uuid
import Mathlib.Data.List.TakeDrop
import Mathlib.Tactic.Ring

/-!
# Identifiers read back

The written form of an identifier is read as this identifier.
-/

namespace EntitySurface.Uuid

theorem length_hexDigits (count n : Nat) : (hexDigits count n).length = count := by
  induction count generalizing n with
  | zero => rfl
  | succ count ih => simp [hexDigits, ih]

/-- The value of hexadecimal digits that follow others. -/
theorem foldlM_hexDigits (count n value : Nat) :
    (hexDigits count n).foldlM
        (fun value c => (Text.hexDigit? c).map fun digit => value * 16 + digit) value =
      some (value * 16 ^ count + n % 16 ^ count) := by
  induction count generalizing n with
  | zero => simp [hexDigits, Nat.mod_one]
  | succ count ih =>
      have last : Text.hexDigit? (Nat.digitChar (n % 16)) = some (n % 16) :=
        Text.hexDigit?_digitChar (Nat.mod_lt _ (by decide))
      rw [hexDigits, List.foldlM_append, ih, Nat.pow_succ', Nat.mod_mul]
      simp only [Option.bind_eq_bind, Option.bind_some, List.foldlM_cons, List.foldlM_nil, last,
        Option.map_some, Option.pure_def, Option.some.injEq]
      ring

/-- Groups of digits that are joined by dashes are read as the digits in a row. -/
theorem ofHyphenated?_join {a b c d e : List Char} (first : a.length = 8) (second : b.length = 4)
    (third : c.length = 4) (fourth : d.length = 4) (fifth : e.length = 12) :
    ofHyphenated? (a ++ '-' :: b ++ '-' :: c ++ '-' :: d ++ '-' :: e) =
      ofDigits? (a ++ b ++ c ++ d ++ e) := by
  simp [ofHyphenated?, List.take_append, List.drop_append, first, second, third, fourth, fifth]
  simp (disch := omega) only [List.drop_eq_nil_of_le, List.take_nil, List.nil_append]

/-- A digit is neither the first letter of a resource name nor a brace. -/
theorem ne_of_mem_hexDigits {count n : Nat} {c : Char} (mem : c ∈ hexDigits count n) :
    c.toLower ≠ 'u' ∧ c ≠ '\x7b' := by
  have digits : ∀ digit < 16, (Nat.digitChar digit).toLower ≠ 'u' ∧
      Nat.digitChar digit ≠ '\x7b' := by decide
  induction count generalizing n with
  | zero => contradiction
  | succ count ih =>
      rcases List.mem_append.mp mem with earlier | last
      · exact ih earlier
      · rw [List.mem_singleton.mp last]
        exact digits _ (Nat.mod_lt _ (by decide))

/-- Thirty-two digits are read as the number that they stand for. -/
theorem ofDigits?_hexDigits (uuid : Uuid) :
    ofDigits? (hexDigits 32 uuid.bits.toNat) = some uuid := by
  have fits : uuid.bits.toNat < 16 ^ 32 := uuid.bits.isLt
  rw [ofDigits?, if_pos (length_hexDigits 32 _), foldlM_hexDigits, Nat.mod_eq_of_lt fits]
  simp

/-- Characters that start with a digit and are not 32 are read as a hyphenated form. -/
theorem parse?_ofList {chars : List Char} {c : Char} (first : chars.head? = some c)
    (noName : c.toLower ≠ 'u') (noBrace : c ≠ '\x7b') (long : chars.length ≠ 32) :
    parse? (String.ofList chars) = ofHyphenated? chars := by
  obtain ⟨rest, rfl⟩ : ∃ rest, chars = c :: rest := List.head?_eq_some_iff.mp first
  have noResource : ((c :: rest).take resourceName.length).map Char.toLower ≠ resourceName := by
    have name : resourceName = 'u' :: "rn:uuid:".toList := by decide
    rw [name]
    simp [noName]
  unfold parse?
  simp only [String.toList_ofList, beq_iff_eq, if_neg noResource]
  split
  · next same => exact absurd (List.cons.inj same).1 noBrace
  · rw [if_neg long]

/-- An identifier is read from its written form. -/
theorem parse?_text (uuid : Uuid) : parse? uuid.text = some uuid := by
  have length := length_hexDigits 32 uuid.bits.toNat
  have read := ofDigits?_hexDigits uuid
  have leading : ∀ c ∈ hexDigits 32 uuid.bits.toNat, c.toLower ≠ 'u' ∧ c ≠ '\x7b' :=
    fun c mem => ne_of_mem_hexDigits mem
  unfold text
  generalize hexDigits 32 uuid.bits.toNat = digits at length read leading
  have joined := ofHyphenated?_join (a := digits.take 8) (b := (digits.drop 8).take 4)
    (c := (digits.drop 12).take 4) (d := (digits.drop 16).take 4) (e := digits.drop 20)
    (by simp [length]) (by simp [length]) (by simp [length]) (by simp [length]) (by simp [length])
  have whole : digits.take 8 ++ (digits.drop 8).take 4 ++ (digits.drop 12).take 4 ++
      (digits.drop 16).take 4 ++ digits.drop 20 = digits := by
    rw [← List.take_add, ← List.take_add, ← List.take_add, List.take_append_drop]
  rw [whole, read] at joined
  cases digits with
  | nil => contradiction
  | cons c rest =>
      obtain ⟨noName, noBrace⟩ := leading c List.mem_cons_self
      refine (parse?_ofList rfl noName noBrace ?_).trans joined
      simp only [List.length_cons, List.length_append, List.length_take,
        List.length_drop] at length ⊢
      omega

end EntitySurface.Uuid
