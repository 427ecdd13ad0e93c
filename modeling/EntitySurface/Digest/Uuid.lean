import EntitySurface.Digest.Sha1
import EntitySurface.Text.Hexadecimal

/-!
# Universally unique identifiers

Identifiers of 128 bits, their written form, and identifiers of version 5, which are computed from a
name by SHA-1, so that the same name always has the same identifier.
-/

namespace EntitySurface

/-- An identifier of 128 bits. -/
structure Uuid where
  bits : BitVec 128
  deriving DecidableEq

namespace Uuid

/-- The number that a sequence of bytes stands for, most significant byte first. -/
def numberOfBytes (bytes : List UInt8) : Nat :=
  bytes.foldl (fun value byte => value * 256 + byte.toNat) 0

/-- The namespace of object identifiers, 6ba7b812-9dad-11d1-80b4-00c04fd430c8. -/
def objectNamespace : List UInt8 :=
  [0x6B, 0xA7, 0xB8, 0x12, 0x9D, 0xAD, 0x11, 0xD1, 0x80, 0xB4, 0x00, 0xC0, 0x4F, 0xD4, 0x30, 0xC8]

/-- Put version 5 and the standard variant into the bits reserved for them. -/
def withVersion5 (bits : BitVec 128) : BitVec 128 :=
  let version : BitVec 128 := 0xF <<< 76
  let variant : BitVec 128 := 0x3 <<< 62
  (bits &&& ~~~version &&& ~~~variant) ||| (0x5 <<< 76) ||| (0x2 <<< 62)

/-- The identifier of a name within the namespace of object identifiers. -/
def ofName (name : String) : Uuid :=
  let digest := Digest.sha1 (objectNamespace ++ name.toUTF8.toList)
  ⟨withVersion5 (BitVec.ofNat 128 (numberOfBytes (digest.take 16)))⟩

/-- The last `count` hexadecimal digits of a number. -/
def hexDigits : (count : Nat) → Nat → List Char
  | 0, _ => []
  | count + 1, n => hexDigits count (n / 16) ++ [Nat.digitChar (n % 16)]

/-- The written form: 32 lowercase hexadecimal digits in groups of 8, 4, 4, 4 and 12. -/
def text (uuid : Uuid) : String :=
  let digits := hexDigits 32 uuid.bits.toNat
  String.ofList <|
    digits.take 8 ++ '-' :: (digits.drop 8).take 4 ++ '-' :: (digits.drop 12).take 4
      ++ '-' :: (digits.drop 16).take 4 ++ '-' :: digits.drop 20

/-- Read 32 hexadecimal digits without separators. -/
def ofDigits? (digits : List Char) : Option Uuid :=
  if digits.length = 32 then
    (digits.foldlM (fun value c => (Text.hexDigit? c).map fun digit => value * 16 + digit) 0).map
      fun value => ⟨BitVec.ofNat 128 value⟩
  else none

/-- Read five groups of digits joined by dashes. -/
def ofHyphenated? (text : List Char) : Option Uuid :=
  let at' (position : Nat) : Option Char := text[position]?
  if text.length = 36 && at' 8 == some '-' && at' 13 == some '-' && at' 18 == some '-'
      && at' 23 == some '-' then
    ofDigits? (text.take 8 ++ (text.drop 9).take 4 ++ (text.drop 14).take 4
      ++ (text.drop 19).take 4 ++ text.drop 24)
  else none

/-- What a hyphenated identifier follows when it is written as a resource name; the case of the
letters does not count. -/
def resourceName : List Char :=
  "urn:uuid:".toList

/-- Read an identifier: hyphenated, as bare digits, in braces, or as a resource name. -/
def parse? (text : String) : Option Uuid :=
  let chars := text.toList
  if (chars.take resourceName.length).map Char.toLower == resourceName then
    ofHyphenated? (chars.drop resourceName.length)
  else
    match chars with
    | '\x7b' :: rest =>
        if rest.getLast? == some '\x7d' then ofHyphenated? rest.dropLast else none
    | _ => if chars.length = 32 then ofDigits? chars else ofHyphenated? chars

end Uuid

end EntitySurface
