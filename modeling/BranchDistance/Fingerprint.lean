import BranchDistance.Digest.Sha256
import BranchDistance.Text.Blank
import BranchDistance.Text.Quoted

/-!
# Fingerprints of condition texts

A fingerprint identifies a condition text up to the blanks around it.  It is the digest of a mark,
the length of the text in bytes, and the text.
-/

namespace BranchDistance

/-- The identity of a condition text. -/
structure Fingerprint where
  bytes : List UInt8
  deriving DecidableEq

namespace Fingerprint

/-- The mark that sets these digests apart from others. -/
def mark : String := "condfp:v1"

/-- The fingerprint of a text. -/
def ofText (text : String) : Fingerprint :=
  let bytes := (Text.trimmed text).toUTF8.toList
  ⟨Digest.sha256 (mark.toUTF8.toList ++ Digest.bigEndian 8 bytes.length ++ bytes)⟩

/-- The two hexadecimal digits of a byte. -/
def hexByte (b : UInt8) : List Char :=
  let digits := Text.hex b.toNat
  if digits.length < 2 then '0' :: digits else digits

/-- The hexadecimal form. -/
def hex (f : Fingerprint) : String := String.ofList (f.bytes.flatMap hexByte)

/-- The hexadecimal form of the first four bytes. -/
def short (f : Fingerprint) : String := String.ofList ((f.bytes.take 4).flatMap hexByte)

end Fingerprint

end BranchDistance
