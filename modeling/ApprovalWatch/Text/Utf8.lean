/-!
# UTF-8

Characters as bytes and back. `next` reads one character; `decode?` refuses ill-formed input and
`decodeLossy` puts U+FFFD in place of each maximal ill-formed piece.

Results:

* `next_length_le`: reading a character leaves no more bytes than follow its first.
-/

namespace ApprovalWatch.Utf8

/-! ## Encoding -/

/-- The bytes of one character, one to four of them. -/
def encodeChar (c : Char) : List UInt8 :=
  let n := c.toNat
  if n < 0x80 then [n.toUInt8]
  else if n < 0x800 then [(0xC0 + n / 0x40).toUInt8, (0x80 + n % 0x40).toUInt8]
  else if n < 0x10000 then
    [(0xE0 + n / 0x1000).toUInt8, (0x80 + n / 0x40 % 0x40).toUInt8, (0x80 + n % 0x40).toUInt8]
  else
    [(0xF0 + n / 0x40000).toUInt8, (0x80 + n / 0x1000 % 0x40).toUInt8,
      (0x80 + n / 0x40 % 0x40).toUInt8, (0x80 + n % 0x40).toUInt8]

/-- The bytes of a text. -/
def encode (cs : List Char) : List UInt8 :=
  cs.flatMap encodeChar

/-! ## Decoding -/

/-- A byte that continues a character. -/
def isTail (b : UInt8) : Bool :=
  0x80 ≤ b && b ≤ 0xBF

/-- The second bytes that may follow the first byte of a longer character: they exclude the
overlong forms, the surrogates and what lies beyond U+10FFFF. -/
def isSecond (a b : UInt8) : Bool :=
  if a == 0xE0 then 0xA0 ≤ b && b ≤ 0xBF
  else if a == 0xED then 0x80 ≤ b && b ≤ 0x9F
  else if a == 0xF0 then 0x90 ≤ b && b ≤ 0xBF
  else if a == 0xF4 then 0x80 ≤ b && b ≤ 0x8F
  else isTail b

/-- Reads the character that starts with the byte `a`, the bytes `r` following: the character, or
`none` for an ill-formed piece, and the bytes after it. -/
def next (a : UInt8) (r : List UInt8) : Option Char × List UInt8 :=
  if a < 0x80 then (some (Char.ofNat a.toNat), r)
  else if a < 0xC2 || 0xF5 ≤ a then (none, r)
  else
    match r with
    | [] => (none, [])
    | b :: r₂ =>
      if !isSecond a b then (none, b :: r₂)
      else if a < 0xE0 then (some (Char.ofNat (a.toNat % 0x20 * 0x40 + b.toNat % 0x40)), r₂)
      else
        match r₂ with
        | [] => (none, [])
        | c :: r₃ =>
          if !isTail c then (none, c :: r₃)
          else if a < 0xF0 then
            (some (Char.ofNat
              (a.toNat % 0x10 * 0x1000 + b.toNat % 0x40 * 0x40 + c.toNat % 0x40)), r₃)
          else
            match r₃ with
            | [] => (none, [])
            | d :: r₄ =>
              if !isTail d then (none, d :: r₄)
              else
                (some (Char.ofNat (a.toNat % 0x08 * 0x40000 + b.toNat % 0x40 * 0x1000
                  + c.toNat % 0x40 * 0x40 + d.toNat % 0x40)), r₄)

theorem next_length_le (a : UInt8) (r : List UInt8) : (next a r).2.length ≤ r.length := by
  unfold next
  repeat' split
  all_goals simp only [List.length_cons, List.length_nil]
  all_goals omega

/-- The text that the bytes spell, if they are well formed. -/
def decode? : List UInt8 → Option (List Char)
  | [] => some []
  | a :: r =>
    match next a r with
    | (none, _) => none
    | (some c, rest) =>
      if rest.length ≤ r.length then (decode? rest).map (c :: ·) else none
termination_by s => s.length

/-- The text that the bytes spell, with U+FFFD for every ill-formed piece. -/
def decodeLossy : List UInt8 → List Char
  | [] => []
  | a :: r => (next a r).1.getD '\uFFFD' :: decodeLossy (next a r).2
termination_by s => s.length
decreasing_by
  have := next_length_le a r
  simp only [List.length_cons]
  omega

/-- The text of a string as bytes. -/
def ofString (s : String) : List UInt8 :=
  encode s.toList

/-- The string that the bytes spell, if they are well formed. -/
def toString? (bytes : List UInt8) : Option String :=
  (decode? bytes).map String.ofList

end ApprovalWatch.Utf8
