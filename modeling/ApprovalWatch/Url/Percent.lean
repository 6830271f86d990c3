import ApprovalWatch.Text.Utf8
import ApprovalWatch.Text.Digits

/-!
# Percent encoding

A byte is written as `%` and two digits of base sixteen. Each part of a URL has its own set of
characters that are written so; what is not ASCII always is.
-/

namespace ApprovalWatch.Url

/-- A set of characters that a part of a URL does not hold as they are. -/
abbrev EncodeSet := Char → Bool

namespace EncodeSet

/-- Control characters and everything beyond ASCII. -/
def controls : EncodeSet := fun c => c < ' ' || '~' < c

/-- Characters encoded in a fragment. -/
def fragment : EncodeSet := fun c => controls c || c ∈ [' ', '"', '<', '>', '`']

/-- Characters encoded in a query. -/
def query : EncodeSet := fun c => controls c || c ∈ [' ', '"', '#', '<', '>']

/-- Characters encoded in the query of a URL with a special scheme. -/
def specialQuery : EncodeSet := fun c => query c || c = '\''

/-- Characters encoded in a path. -/
def path : EncodeSet := fun c => query c || c ∈ ['?', '`', '\x7b', '\x7d']

/-- Characters encoded in a user name or password. -/
def userinfo : EncodeSet :=
  fun c => path c || c ∈ ['/', ':', ';', '=', '@', '[', '\\', ']', '^', '|']

end EncodeSet

namespace Percent

/-- A byte as `%` and two digits. -/
def encodeByte (b : UInt8) : List Char :=
  ['%', Digits.upperHex (b.toNat / 16), Digits.upperHex (b.toNat % 16)]

/-- A character, encoded if it is in the set. -/
def encodeChar (s : EncodeSet) (c : Char) : List Char :=
  if s c then (Utf8.encodeChar c).flatMap encodeByte else [c]

/-- The text with the characters of the set encoded. -/
def encode (s : EncodeSet) (cs : List Char) : List Char :=
  cs.flatMap (encodeChar s)

/-- The bytes of a text: an escape stands for its byte, any other character for its own bytes.
A `%` without two digits after it is a character like any other. -/
def decode : List Char → List UInt8
  | '%' :: h :: l :: r =>
    match Digits.hexValue? h, Digits.hexValue? l with
    | some x, some y => (x * 16 + y).toUInt8 :: decode r
    | _, _ => Utf8.encodeChar '%' ++ decode (h :: l :: r)
  | c :: r => Utf8.encodeChar c ++ decode r
  | [] => []

end Percent

end ApprovalWatch.Url
