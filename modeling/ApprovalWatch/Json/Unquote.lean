import ApprovalWatch.Text.Digits
import ApprovalWatch.Text.Utf8

/-!
# Texts in quotes

What the inside of a quoted text spells. The bytes have to be well-formed text, and surrogates have
to come in pairs.
-/

namespace ApprovalWatch.Json

/-- The character of an escape of one letter. -/
def shortEscape? : Char → Option Char
  | '"' => some '"'
  | '\\' => some '\\'
  | '/' => some '/'
  | 'b' => some '\x08'
  | 'f' => some '\x0c'
  | 'n' => some '\n'
  | 'r' => some '\r'
  | 't' => some '\t'
  | _ => none

/-- The number that four digits of base sixteen denote. -/
def unit? (a b c d : Char) : Option Nat :=
  if Digits.isHex a && Digits.isHex b && Digits.isHex c && Digits.isHex d then
    some (Digits.ofDigits 16 [a, b, c, d])
  else none

/-- The text that the inside of quotes spells. -/
def unescape : List Char → Option (List Char)
  | [] => some []
  | '\\' :: 'u' :: a :: b :: c :: d :: r =>
    match unit? a b c d with
    | none => none
    | some n =>
      if 0xD800 ≤ n ∧ n < 0xDC00 then
        match r with
        | '\\' :: 'u' :: e :: f :: g :: h :: r =>
          match unit? e f g h with
          | none => none
          | some m =>
            if 0xDC00 ≤ m ∧ m < 0xE000 then
              (unescape r).map
                (Char.ofNat (0x10000 + (n - 0xD800) * 0x400 + (m - 0xDC00)) :: ·)
            else none
        | _ => none
      else if 0xDC00 ≤ n ∧ n < 0xE000 then none
      else (unescape r).map (Char.ofNat n :: ·)
  | '\\' :: e :: r =>
    match shortEscape? e with
    | some c => (unescape r).map (c :: ·)
    | none => none
  | c :: r => if c = '\\' then none else (unescape r).map (c :: ·)

/-- The text that the bytes between two quotes spell. -/
def unquote (raw : List UInt8) : Option String :=
  ((Utf8.decode? raw).bind unescape).map String.ofList

end ApprovalWatch.Json
