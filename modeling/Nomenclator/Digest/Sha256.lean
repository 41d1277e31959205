/-!
# SHA-256

The secure hash of FIPS 180-4 with 256 bits, as a total function from lists of bytes to lists of 32
bytes. The message is padded to whole blocks of 64 bytes. Each block is read as 16 words, expanded
to 64, and mixed into eight words of state, one round for each expanded word.
-/

namespace Nomenclator.Sha256

/-- The eight words of state. -/
structure State where
  a : UInt32
  b : UInt32
  c : UInt32
  d : UInt32
  e : UInt32
  f : UInt32
  g : UInt32
  h : UInt32

/-- The state before the first block: the fractional parts of the square roots of the first eight
primes. -/
def initial : State where
  a := 0x6A09E667
  b := 0xBB67AE85
  c := 0x3C6EF372
  d := 0xA54FF53A
  e := 0x510E527F
  f := 0x9B05688C
  g := 0x1F83D9AB
  h := 0x5BE0CD19

/-- The constants of the 64 rounds: the fractional parts of the cube roots of the first 64
primes. -/
def roundConstants : List UInt32 :=
  [0x428A2F98, 0x71374491, 0xB5C0FBCF, 0xE9B5DBA5, 0x3956C25B, 0x59F111F1, 0x923F82A4, 0xAB1C5ED5,
   0xD807AA98, 0x12835B01, 0x243185BE, 0x550C7DC3, 0x72BE5D74, 0x80DEB1FE, 0x9BDC06A7, 0xC19BF174,
   0xE49B69C1, 0xEFBE4786, 0x0FC19DC6, 0x240CA1CC, 0x2DE92C6F, 0x4A7484AA, 0x5CB0A9DC, 0x76F988DA,
   0x983E5152, 0xA831C66D, 0xB00327C8, 0xBF597FC7, 0xC6E00BF3, 0xD5A79147, 0x06CA6351, 0x14292967,
   0x27B70A85, 0x2E1B2138, 0x4D2C6DFC, 0x53380D13, 0x650A7354, 0x766A0ABB, 0x81C2C92E, 0x92722C85,
   0xA2BFE8A1, 0xA81A664B, 0xC24B8B70, 0xC76C51A3, 0xD192E819, 0xD6990624, 0xF40E3585, 0x106AA070,
   0x19A4C116, 0x1E376C08, 0x2748774C, 0x34B0BCB5, 0x391C0CB3, 0x4ED8AA4A, 0x5B9CCA4F, 0x682E6FF3,
   0x748F82EE, 0x78A5636F, 0x84C87814, 0x8CC70208, 0x90BEFFFA, 0xA4506CEB, 0xBEF9A3F7, 0xC67178F2]

/-- Rotates a word to the right. -/
def rotateRight (word amount : UInt32) : UInt32 :=
  (word >>> amount) ||| (word <<< (32 - amount))

/-- Four bytes as a word, the most significant byte first. -/
def wordOfBytes : List UInt8 → UInt32 :=
  List.foldl (fun word byte => (word <<< 8) ||| byte.toUInt32) 0

/-- The four bytes of a word, the most significant byte first. -/
def bytesOfWord (word : UInt32) : List UInt8 :=
  [(word >>> 24).toUInt8, (word >>> 16).toUInt8, (word >>> 8).toUInt8, word.toUInt8]

/-- The first `count` pieces of a list, each of `size` elements. -/
def pieces {α : Type} (size : Nat) : Nat → List α → List (List α)
  | 0, _ => []
  | count + 1, elements => elements.take size :: pieces size count (elements.drop size)

/-- A message followed by a one bit, by zero bits up to a block boundary less eight bytes, and by
its length in bits. -/
def pad (message : List UInt8) : List UInt8 :=
  let bits := 8 * message.length
  let zeros := (64 + 55 - message.length % 64) % 64
  let padding : List UInt8 := 0x80 :: List.replicate zeros 0
  message ++ padding ++ bytesOfWord (bits >>> 32).toUInt32 ++ bytesOfWord bits.toUInt32

/-- Adds `count` words to a schedule whose latest word comes first. -/
def extendSchedule : Nat → List UInt32 → List UInt32
  | 0, words => words
  | count + 1, words =>
    let near := words.getD 1 0
    let far := words.getD 14 0
    let mixedNear := rotateRight near 17 ^^^ rotateRight near 19 ^^^ (near >>> 10)
    let mixedFar := rotateRight far 7 ^^^ rotateRight far 18 ^^^ (far >>> 3)
    extendSchedule count ((mixedNear + words.getD 6 0 + mixedFar + words.getD 15 0) :: words)

/-- The 64 words that a block of 64 bytes expands to. -/
def schedule (block : List UInt8) : List UInt32 :=
  (extendSchedule 48 ((pieces 4 16 block).map wordOfBytes).reverse).reverse

/-- One round, with the sum of its constant and its schedule word. -/
def round (s : State) (input : UInt32) : State :=
  let mixedE := rotateRight s.e 6 ^^^ rotateRight s.e 11 ^^^ rotateRight s.e 25
  let choice := (s.e &&& s.f) ^^^ (~~~s.e &&& s.g)
  let t := s.h + mixedE + choice + input
  let mixedA := rotateRight s.a 2 ^^^ rotateRight s.a 13 ^^^ rotateRight s.a 22
  let majority := (s.a &&& s.b) ^^^ (s.a &&& s.c) ^^^ (s.b &&& s.c)
  { a := t + mixedA + majority, b := s.a, c := s.b, d := s.c
    e := s.d + t, f := s.e, g := s.f, h := s.g }

/-- Mixes a block into the state. -/
def absorb (s : State) (block : List UInt8) : State :=
  let t := (List.zipWith (· + ·) roundConstants (schedule block)).foldl round s
  { a := s.a + t.a, b := s.b + t.b, c := s.c + t.c, d := s.d + t.d
    e := s.e + t.e, f := s.f + t.f, g := s.g + t.g, h := s.h + t.h }

/-- The hash of a message. -/
def hash (message : List UInt8) : List UInt8 :=
  let padded := pad message
  let s := (pieces 64 (padded.length / 64) padded).foldl absorb initial
  [s.a, s.b, s.c, s.d, s.e, s.f, s.g, s.h].flatMap bytesOfWord

end Nomenclator.Sha256
