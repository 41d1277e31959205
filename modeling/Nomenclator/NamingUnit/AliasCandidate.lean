import Nomenclator.Digest.Sha256
import Nomenclator.Identifier

/-!
# Candidates for an alias

A name that cannot be written with its last segment is written with an alias. The first candidate
runs the whole path together. When that is taken, a short digest of the name follows it, and further
attempts number the digest.
-/

namespace Nomenclator.AliasCandidate

/-- One hexadecimal digit. -/
def hexDigit (value : Nat) : Char :=
  Char.ofNat (if value < 10 then '0'.toNat + value else 'a'.toNat + (value - 10))

/-- A byte as two hexadecimal digits. -/
def hexByte (byte : UInt8) : List Char :=
  [hexDigit (byte.toNat / 16), hexDigit (byte.toNat % 16)]

/-- What follows the name in the text that is hashed: nothing at the first attempt, and then the
number of the attempt as four bytes, the least significant first. -/
def attemptBytes (attempt : Nat) : List UInt8 :=
  if attempt = 0 then []
  else [attempt.toUInt8, (attempt >>> 8).toUInt8, (attempt >>> 16).toUInt8,
    (attempt >>> 24).toUInt8]

/-- The first eight hexadecimal digits of the hash of a name at an attempt. -/
def shortDigest (name : String) (attempt : Nat) : String :=
  String.ofList
    (((Sha256.hash (name.toUTF8.data.toList ++ attemptBytes attempt)).take 4).flatMap hexByte)

/-- The alias that runs the whole path together. -/
def ofPath (name : String) : String :=
  Identifier.sanitize (DottedName.underscored name)

/-- The alias that runs the whole path together and adds a digest. -/
def ofDigest (name : String) (attempt : Nat) : String :=
  Identifier.sanitize (DottedName.underscored name ++ "_" ++ shortDigest name attempt)

/-- Attempts are numbered by 32-bit words. -/
def attemptLimit : Nat :=
  UInt32.size

end Nomenclator.AliasCandidate
