/-!
# The SHA-1 digest

The digest of a sequence of bytes, as twenty bytes. It serves to derive stable identifiers from
names, not to protect anything.
-/

namespace EntitySurface.Digest

/-- The five words of the running digest. -/
structure Sha1State where
  a : UInt32
  b : UInt32
  c : UInt32
  d : UInt32
  e : UInt32

namespace Sha1State

/-- The digest of nothing. -/
def start : Sha1State :=
  ⟨0x67452301, 0xEFCDAB89, 0x98BADCFE, 0x10325476, 0xC3D2E1F0⟩

/-- Wordwise sum. -/
def add (first second : Sha1State) : Sha1State :=
  ⟨first.a + second.a, first.b + second.b, first.c + second.c, first.d + second.d,
    first.e + second.e⟩

/-- The words in the order in which the digest lists them. -/
def words (state : Sha1State) : List UInt32 :=
  [state.a, state.b, state.c, state.d, state.e]

end Sha1State

/-- Rotate a word to the left, by 1 to 31 bits. -/
def rotateLeft (word : UInt32) (amount : UInt32) : UInt32 :=
  (word <<< amount) ||| (word >>> (32 - amount))

/-- The bytes of a word, most significant first. -/
def wordBytes (word : UInt32) : List UInt8 :=
  [(word >>> 24).toUInt8, (word >>> 16).toUInt8, (word >>> 8).toUInt8, word.toUInt8]

/-- The words of a sequence of bytes, most significant byte first. -/
def wordsOfBytes : List UInt8 → List UInt32
  | a :: b :: c :: d :: rest =>
      ((a.toUInt32 <<< 24) ||| (b.toUInt32 <<< 16) ||| (c.toUInt32 <<< 8) ||| d.toUInt32)
        :: wordsOfBytes rest
  | _ => []

/-- The message followed by a one bit, zero bits up to the last eight bytes of a block, and its
length in bits. -/
def padMessage (message : List UInt8) : List UInt8 :=
  let length := message.length
  let zeros := (119 - length % 64) % 64
  let bits : UInt64 := UInt64.ofNat (8 * length)
  message ++ (0x80 : UInt8) :: List.replicate zeros (0 : UInt8)
    ++ wordBytes (bits >>> 32).toUInt32 ++ wordBytes bits.toUInt32

/-- The eighty words that a block of sixteen words is expanded to. -/
def schedule (block : List UInt32) : Array UInt32 :=
  (List.range 64).foldl (fun words i =>
    words.push (rotateLeft
      (words.getD (i + 13) 0 ^^^ words.getD (i + 8) 0 ^^^ words.getD (i + 2) 0 ^^^ words.getD i 0)
      1)) block.toArray

/-- One round with the word and number of the round. -/
def round (state : Sha1State) (word : UInt32) (i : Nat) : Sha1State :=
  let { a, b, c, d, e } := state
  let (mixed, constant) : UInt32 × UInt32 :=
    if i < 20 then ((b &&& c) ||| (~~~b &&& d), 0x5A827999)
    else if i < 40 then (b ^^^ c ^^^ d, 0x6ED9EBA1)
    else if i < 60 then ((b &&& c) ||| (b &&& d) ||| (c &&& d), 0x8F1BBCDC)
    else (b ^^^ c ^^^ d, 0xCA62C1D6)
  ⟨rotateLeft a 5 + mixed + e + constant + word, a, rotateLeft b 30, c, d⟩

/-- Take one block into the digest. -/
def absorb (state : Sha1State) (block : List UInt32) : Sha1State :=
  let words := schedule block
  state.add ((List.range 80).foldl (fun state i => round state (words.getD i 0) i) state)

/-- Take blocks of sixteen words into the digest, at most `blocks` of them. -/
def absorbAll (state : Sha1State) : (blocks : Nat) → List UInt32 → Sha1State
  | 0, _ => state
  | blocks + 1, words => absorbAll (absorb state (words.take 16)) blocks (words.drop 16)

/-- The digest of a message. -/
def sha1 (message : List UInt8) : List UInt8 :=
  let words := wordsOfBytes (padMessage message)
  (absorbAll .start (words.length / 16) words).words.flatMap wordBytes

end EntitySurface.Digest
