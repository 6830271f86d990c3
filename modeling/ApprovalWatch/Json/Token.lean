import ApprovalWatch.Text.Digits

/-!
# JSON tokens

Bytes are cut into tokens. A text in quotes is kept as it is written: its escapes have to be
complete, but nothing is said about what they or the other bytes spell.

Main results:

* `takeText_length`, `takeScalar_length`: a token that is taken leaves fewer bytes.
-/

namespace ApprovalWatch.Json

/-- A token. Numbers and the words `true`, `false` and `null` are not told apart. -/
inductive Token where
  | leftBrace
  | rightBrace
  | leftBracket
  | rightBracket
  | colon
  | comma
  | text (raw : List UInt8)
  | scalar
  deriving DecidableEq, Repr

/-! ## Texts -/

/-- A byte that may stand between tokens. -/
def isBlank (b : UInt8) : Bool :=
  b = 0x20 || b = 0x0A || b = 0x0D || b = 0x09

/-- A byte that is a digit of base sixteen. -/
def isHexByte (b : UInt8) : Bool :=
  Digits.isHex (Char.ofNat b.toNat)

/-- A byte that is an escape together with the backslash before it. -/
def isShortEscape (b : UInt8) : Bool :=
  -- " \ / b f n r t
  b ∈ [0x22, 0x5C, 0x2F, 0x62, 0x66, 0x6E, 0x72, 0x74]

/-- The text up to its closing quote, and what follows that. -/
def takeText : List UInt8 → Option (List UInt8 × List UInt8)
  | [] => none
  | b :: r =>
    if b = 0x22 then some ([], r)
    else if b < 0x20 then none
    else if b = 0x5C then
      match r with
      | [] => none
      | e :: r =>
        if isShortEscape e then (takeText r).map fun p => (b :: e :: p.1, p.2)
        else if e = 0x75 then
          match r with
          | d₁ :: d₂ :: d₃ :: d₄ :: r =>
            if isHexByte d₁ && isHexByte d₂ && isHexByte d₃ && isHexByte d₄ then
              (takeText r).map fun p => (b :: e :: d₁ :: d₂ :: d₃ :: d₄ :: p.1, p.2)
            else none
          | _ => none
        else none
    else (takeText r).map fun p => (b :: p.1, p.2)

theorem takeText_length {bs : List UInt8} {p : List UInt8 × List UInt8}
    (h : takeText bs = some p) : p.2.length < bs.length := by
  fun_induction takeText bs generalizing p with
  | case2 => cases h; simp
  | case5 | case6 | case10 =>
    rename_i ih
    obtain ⟨q, hq, rfl⟩ := Option.map_eq_some_iff.1 h
    have := ih hq
    simp only [List.length_cons]
    omega
  | _ => simp at h

/-! ## Numbers and words -/

/-- A byte that is a decimal digit. -/
def isDigitByte (b : UInt8) : Bool :=
  0x30 ≤ b && b ≤ 0x39

/-- What follows at least one digit. -/
def takeDigits : List UInt8 → Option (List UInt8)
  | b :: r => if isDigitByte b then some (r.dropWhile isDigitByte) else none
  | [] => none

/-- What follows an exponent, if there is one. -/
def takeExponent : List UInt8 → Option (List UInt8)
  | b :: r =>
    if b = 0x65 || b = 0x45 then
      match r with
      | s :: r => if s = 0x2B || s = 0x2D then takeDigits r else takeDigits (s :: r)
      | [] => none
    else some (b :: r)
  | [] => some []

/-- What follows a fraction and an exponent, if there are such. -/
def takeFraction : List UInt8 → Option (List UInt8)
  | b :: r => if b = 0x2E then (takeDigits r).bind takeExponent else takeExponent (b :: r)
  | [] => some []

/-- What follows a number without a sign: no digit comes after a leading zero. -/
def takeUnsigned : List UInt8 → Option (List UInt8)
  | b :: r =>
    if b = 0x30 then takeFraction r
    else if isDigitByte b then takeFraction (r.dropWhile isDigitByte)
    else none
  | [] => none

/-- What follows the word, if the bytes begin with it. -/
def takeWord (word bs : List UInt8) : Option (List UInt8) :=
  if word.isPrefixOf bs then some (bs.drop word.length) else none

/-- What follows a number or one of the words. -/
def takeScalar : List UInt8 → Option (List UInt8)
  | [] => none
  | b :: r =>
    if b = 0x2D then takeUnsigned r
    else if b = 0x74 then takeWord [0x72, 0x75, 0x65] r
    else if b = 0x66 then takeWord [0x61, 0x6C, 0x73, 0x65] r
    else if b = 0x6E then takeWord [0x75, 0x6C, 0x6C] r
    else takeUnsigned (b :: r)

theorem takeDigits_length {bs rest : List UInt8} (h : takeDigits bs = some rest) :
    rest.length < bs.length := by
  unfold takeDigits at h
  split at h
  · split at h
    · cases h
      have := (List.dropWhile_sublist isDigitByte (l := ‹List UInt8›)).length_le
      simp only [List.length_cons]
      omega
    · simp at h
  · simp at h

theorem takeExponent_length {bs rest : List UInt8} (h : takeExponent bs = some rest) :
    rest.length ≤ bs.length := by
  unfold takeExponent at h
  split at h
  · split at h
    · split at h
      · split at h
        all_goals
          have := takeDigits_length h
          simp only [List.length_cons] at *
          omega
      · simp at h
    · cases h; simp
  · cases h; simp

theorem takeFraction_length {bs rest : List UInt8} (h : takeFraction bs = some rest) :
    rest.length ≤ bs.length := by
  unfold takeFraction at h
  split at h
  · split at h
    · obtain ⟨r, hr, he⟩ := Option.bind_eq_some_iff.1 h
      have := takeDigits_length hr
      have := takeExponent_length he
      simp only [List.length_cons]
      omega
    · exact takeExponent_length h
  · cases h; simp

theorem takeUnsigned_length {bs rest : List UInt8} (h : takeUnsigned bs = some rest) :
    rest.length < bs.length := by
  unfold takeUnsigned at h
  split at h
  · rename_i b r
    split at h
    · have := takeFraction_length h
      simp only [List.length_cons]
      omega
    · split at h
      · have := takeFraction_length h
        have := (List.dropWhile_sublist isDigitByte (l := r)).length_le
        simp only [List.length_cons]
        omega
      · simp at h
  · simp at h

theorem takeWord_length {word bs rest : List UInt8} (h : takeWord word bs = some rest) :
    rest.length ≤ bs.length := by
  unfold takeWord at h
  split at h
  · cases h; simp
  · simp at h

theorem takeScalar_length {bs rest : List UInt8} (h : takeScalar bs = some rest) :
    rest.length < bs.length := by
  unfold takeScalar at h
  split at h
  · simp at h
  · split at h
    · have := takeUnsigned_length h
      simp only [List.length_cons]
      omega
    · split at h
      · exact Nat.lt_succ_of_le (takeWord_length h)
      · split at h
        · exact Nat.lt_succ_of_le (takeWord_length h)
        · split at h
          · exact Nat.lt_succ_of_le (takeWord_length h)
          · exact takeUnsigned_length h

/-! ## Tokens -/

/-- The token that is one byte. -/
def punctuation? (b : UInt8) : Option Token :=
  if b = 0x7B then some .leftBrace
  else if b = 0x7D then some .rightBrace
  else if b = 0x5B then some .leftBracket
  else if b = 0x5D then some .rightBracket
  else if b = 0x3A then some .colon
  else if b = 0x2C then some .comma
  else none

/-- The tokens of the bytes. -/
def tokens? : List UInt8 → Option (List Token)
  | [] => some []
  | b :: r =>
    if isBlank b then tokens? r
    else
      match punctuation? b with
      | some t => (tokens? r).map (t :: ·)
      | none =>
        if b = 0x22 then
          match _h : takeText r with
          | some (raw, rest) => (tokens? rest).map (.text raw :: ·)
          | none => none
        else
          match _h : takeScalar (b :: r) with
          | some rest => (tokens? rest).map (.scalar :: ·)
          | none => none
termination_by bs => bs.length
decreasing_by
  · simp
  · simp
  · have := takeText_length _h
    simp only [List.length_cons] at *
    omega
  · exact takeScalar_length _h

end ApprovalWatch.Json
