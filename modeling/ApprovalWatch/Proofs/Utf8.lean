import ApprovalWatch.Text.Utf8

/-!
# UTF-8 read back

What is written as UTF-8 is well formed, and reading it gives the text back, whether ill-formed
bytes are refused or replaced.

Main results:

* `next_encodeChar`: the bytes of a character are read as this character, whatever follows.
* `encodeChar_of_next`: what is read as a character is the bytes of this character.
* `decode?_encode`, `decodeLossy_encode`: the bytes of a text are read as this text.
* `decode?_eq_some_iff`: no other bytes are well formed.
-/

namespace ApprovalWatch.Utf8

/-! ## Bytes as numbers -/

theorem toNat_toUInt8 {n : Nat} (h : n < 0x100) : n.toUInt8.toNat = n := by
  simpa [Nat.toUInt8] using h

theorem isTail_iff {b : UInt8} : isTail b = true ↔ 0x80 ≤ b.toNat ∧ b.toNat ≤ 0xBF := by
  simp [isTail, UInt8.le_iff_toNat_le]

theorem isSecond_iff {a b : UInt8} :
    isSecond a b = true ↔
      (if a.toNat = 0xE0 then 0xA0 else if a.toNat = 0xF0 then 0x90 else 0x80) ≤ b.toNat ∧
        b.toNat ≤ if a.toNat = 0xED then 0x9F else if a.toNat = 0xF4 then 0x8F else 0xBF := by
  simp only [isSecond, beq_iff_eq, ← UInt8.toNat_inj, UInt8.reduceToNat]
  repeat' split
  all_goals simp_all [isTail, UInt8.le_iff_toNat_le]

/-! ## One character -/

section Next

variable {a b c d : UInt8}

theorem next_one (ha : a.toNat < 0x80) (rest : List UInt8) :
    next a rest = (some (Char.ofNat a.toNat), rest) := by
  unfold next
  rw [if_pos (by simpa [UInt8.lt_iff_toNat_lt] using ha)]

/-- A byte that begins a longer character. -/
theorem leads (ha : 0xC2 ≤ a.toNat) (ha' : a.toNat < 0xF5) :
    ¬ a < 0x80 ∧ (a < 0xC2 || 0xF5 ≤ a) = false := by
  simp [UInt8.lt_iff_toNat_lt, UInt8.le_iff_toNat_le]
  omega

theorem next_two (ha : 0xC2 ≤ a.toNat) (ha' : a.toNat < 0xE0) (hb : isSecond a b = true)
    (rest : List UInt8) :
    next a (b :: rest) =
      (some (Char.ofNat (a.toNat % 0x20 * 0x40 + b.toNat % 0x40)), rest) := by
  obtain ⟨hlong, hlead⟩ := leads ha (by omega)
  have hshort : a < 0xE0 := UInt8.lt_iff_toNat_lt.mpr ha'
  simp [next, hlong, hlead, hshort, hb]

theorem next_three (ha : 0xE0 ≤ a.toNat) (ha' : a.toNat < 0xF0) (hb : isSecond a b = true)
    (hc : isTail c = true) (rest : List UInt8) :
    next a (b :: c :: rest) =
      (some (Char.ofNat
        (a.toNat % 0x10 * 0x1000 + b.toNat % 0x40 * 0x40 + c.toNat % 0x40)), rest) := by
  obtain ⟨hlong, hlead⟩ := leads (a := a) (by omega) (by omega)
  have hge : ¬ a < 0xE0 := fun h => absurd (UInt8.lt_iff_toNat_lt.mp h) (Nat.not_lt.mpr ha)
  have hshort : a < 0xF0 := UInt8.lt_iff_toNat_lt.mpr ha'
  simp [next, hlong, hlead, hge, hshort, hb, hc]

theorem next_four (ha : 0xF0 ≤ a.toNat) (ha' : a.toNat < 0xF5) (hb : isSecond a b = true)
    (hc : isTail c = true) (hd : isTail d = true) (rest : List UInt8) :
    next a (b :: c :: d :: rest) =
      (some (Char.ofNat (a.toNat % 0x08 * 0x40000 + b.toNat % 0x40 * 0x1000
        + c.toNat % 0x40 * 0x40 + d.toNat % 0x40)), rest) := by
  obtain ⟨hlong, hlead⟩ := leads (a := a) (by omega) ha'
  have hge : ¬ a < 0xE0 := fun h => by
    have := UInt8.lt_iff_toNat_lt.mp h
    simp at this
    omega
  have hge' : ¬ a < 0xF0 := fun h => absurd (UInt8.lt_iff_toNat_lt.mp h) (Nat.not_lt.mpr ha)
  simp [next, hlong, hlead, hge, hge', hb, hc, hd]

end Next

/-- No character is a surrogate. -/
theorem toNat_valid (c : Char) : c.toNat < 0xD800 ∨ 0xDFFF < c.toNat ∧ c.toNat < 0x110000 :=
  c.valid

/-- The bytes of a character, whatever follows them, are read as this character. -/
theorem next_encodeChar (c : Char) :
    ∃ a r, encodeChar c = a :: r ∧ ∀ rest, next a (r ++ rest) = (some c, rest) := by
  have hvalid := toNat_valid c
  have hc : Char.ofNat c.toNat = c := Char.ofNat_toNat c
  unfold encodeChar
  generalize c.toNat = n at *
  dsimp only
  split
  · have ha := toNat_toUInt8 (n := n) (by omega)
    refine ⟨_, [], rfl, fun rest => ?_⟩
    rw [List.nil_append, next_one (by omega), ha, hc]
  split
  · have ha := toNat_toUInt8 (n := 0xC0 + n / 0x40) (by omega)
    have hb := toNat_toUInt8 (n := 0x80 + n % 0x40) (by omega)
    have hsecond : isSecond (0xC0 + n / 0x40).toUInt8 (0x80 + n % 0x40).toUInt8 = true :=
      isSecond_iff.mpr (by rw [ha, hb]; grind)
    refine ⟨_, [_], rfl, fun rest => ?_⟩
    rw [List.singleton_append, next_two (by omega) (by omega) hsecond, ha, hb]
    have hn : (0xC0 + n / 0x40) % 0x20 * 0x40 + (0x80 + n % 0x40) % 0x40 = n := by omega
    rw [hn, hc]
  split
  · have ha := toNat_toUInt8 (n := 0xE0 + n / 0x1000) (by omega)
    have hb := toNat_toUInt8 (n := 0x80 + n / 0x40 % 0x40) (by omega)
    have hd := toNat_toUInt8 (n := 0x80 + n % 0x40) (by omega)
    have hsecond : isSecond (0xE0 + n / 0x1000).toUInt8 (0x80 + n / 0x40 % 0x40).toUInt8 = true :=
      isSecond_iff.mpr (by rw [ha, hb]; grind)
    have htail := isTail_iff.mpr (by rw [hd]; omega)
    refine ⟨_, [_, _], rfl, fun rest => ?_⟩
    rw [List.cons_append, List.singleton_append,
      next_three (by omega) (by omega) hsecond htail, ha, hb, hd]
    have hn : (0xE0 + n / 0x1000) % 0x10 * 0x1000 + (0x80 + n / 0x40 % 0x40) % 0x40 * 0x40
        + (0x80 + n % 0x40) % 0x40 = n := by omega
    rw [hn, hc]
  · have ha := toNat_toUInt8 (n := 0xF0 + n / 0x40000) (by omega)
    have hb := toNat_toUInt8 (n := 0x80 + n / 0x1000 % 0x40) (by omega)
    have hd := toNat_toUInt8 (n := 0x80 + n / 0x40 % 0x40) (by omega)
    have he := toNat_toUInt8 (n := 0x80 + n % 0x40) (by omega)
    have hsecond :
        isSecond (0xF0 + n / 0x40000).toUInt8 (0x80 + n / 0x1000 % 0x40).toUInt8 = true :=
      isSecond_iff.mpr (by rw [ha, hb]; grind)
    have htail := isTail_iff.mpr (by rw [hd]; omega)
    have htail' := isTail_iff.mpr (by rw [he]; omega)
    refine ⟨_, [_, _, _], rfl, fun rest => ?_⟩
    rw [List.cons_append, List.cons_append, List.singleton_append,
      next_four (by omega) (by omega) hsecond htail htail', ha, hb, hd, he]
    have hn : (0xF0 + n / 0x40000) % 0x08 * 0x40000 + (0x80 + n / 0x1000 % 0x40) % 0x40 * 0x1000
        + (0x80 + n / 0x40 % 0x40) % 0x40 * 0x40 + (0x80 + n % 0x40) % 0x40 = n := by omega
    rw [hn, hc]

/-- A byte of a character is its number, or it is none of ASCII. -/
theorem toNat_of_mem_encodeChar {ch : Char} {b : UInt8} (h : b ∈ encodeChar ch) :
    b.toNat = ch.toNat ∨ 0x80 ≤ b.toNat := by
  have hvalid := toNat_valid ch
  unfold encodeChar at h
  generalize ch.toNat = n at *
  dsimp only at h
  split at h
  · rw [List.mem_singleton.mp h, toNat_toUInt8 (by omega)]
    exact .inl rfl
  right
  -- all bytes of a longer character are 0x80 and something
  split at h
  · simp only [List.mem_cons, List.not_mem_nil, or_false] at h
    obtain rfl | rfl := h
    all_goals
      rw [toNat_toUInt8 (by omega)]
      omega
  split at h
  all_goals simp only [List.mem_cons, List.not_mem_nil, or_false] at h
  · obtain rfl | rfl | rfl := h
    all_goals
      rw [toNat_toUInt8 (by omega)]
      omega
  · obtain rfl | rfl | rfl | rfl := h
    all_goals
      rw [toNat_toUInt8 (by omega)]
      omega

/-! ## One character back -/

section Back

variable {a b c d : UInt8} {n : Nat}

theorem toNat_ofNat (h : n < 0xD800 ∨ 0xDFFF < n ∧ n < 0x110000) : (Char.ofNat n).toNat = n :=
  (congrArg Char.toNat (dif_pos h)).trans rfl

theorem toUInt8_eq (h : n = a.toNat) : n.toUInt8 = a := by
  rw [h]
  exact UInt8.ofNat_toNat

theorem encodeChar_one (ha : a.toNat < 0x80) : encodeChar (Char.ofNat a.toNat) = [a] := by
  rw [encodeChar, toNat_ofNat (by omega), if_pos ha, toUInt8_eq rfl]

theorem encodeChar_two (ha : 0xC2 ≤ a.toNat) (ha' : a.toNat < 0xE0) (hb : isSecond a b = true) :
    encodeChar (Char.ofNat (a.toNat % 0x20 * 0x40 + b.toNat % 0x40)) = [a, b] := by
  have hb := isSecond_iff.mp hb
  have hlow : 0x80 ≤ b.toNat ∧ b.toNat ≤ 0xBF := by
    repeat' split at hb
    all_goals omega
  rw [encodeChar, toNat_ofNat (by omega)]
  rw [if_neg (by omega), if_pos (by omega), toUInt8_eq (a := a) (by omega),
    toUInt8_eq (a := b) (by omega)]

theorem encodeChar_three (ha : 0xE0 ≤ a.toNat) (ha' : a.toNat < 0xF0) (hb : isSecond a b = true)
    (hc : isTail c = true) :
    encodeChar (Char.ofNat (a.toNat % 0x10 * 0x1000 + b.toNat % 0x40 * 0x40 + c.toNat % 0x40)) =
      [a, b, c] := by
  have hb := isSecond_iff.mp hb
  have hc := isTail_iff.mp hc
  have hn : 0x800 ≤ a.toNat % 0x10 * 0x1000 + b.toNat % 0x40 * 0x40 + c.toNat % 0x40 ∧
      (a.toNat % 0x10 * 0x1000 + b.toNat % 0x40 * 0x40 + c.toNat % 0x40 < 0xD800 ∨
        0xDFFF < a.toNat % 0x10 * 0x1000 + b.toNat % 0x40 * 0x40 + c.toNat % 0x40) ∧
      0x80 ≤ b.toNat ∧ b.toNat ≤ 0xBF := by
    repeat' split at hb
    all_goals omega
  rw [encodeChar, toNat_ofNat (by omega)]
  rw [if_neg (by omega), if_neg (by omega), if_pos (by omega), toUInt8_eq (a := a) (by omega),
    toUInt8_eq (a := b) (by omega), toUInt8_eq (a := c) (by omega)]

theorem encodeChar_four (ha : 0xF0 ≤ a.toNat) (ha' : a.toNat < 0xF5) (hb : isSecond a b = true)
    (hc : isTail c = true) (hd : isTail d = true) :
    encodeChar (Char.ofNat (a.toNat % 0x08 * 0x40000 + b.toNat % 0x40 * 0x1000
      + c.toNat % 0x40 * 0x40 + d.toNat % 0x40)) = [a, b, c, d] := by
  have hb := isSecond_iff.mp hb
  have hc := isTail_iff.mp hc
  have hd := isTail_iff.mp hd
  have hn : 0x10000 ≤ a.toNat % 0x08 * 0x40000 + b.toNat % 0x40 * 0x1000 ∧
      a.toNat % 0x08 * 0x40000 + b.toNat % 0x40 * 0x1000 < 0x110000 ∧
      0x80 ≤ b.toNat ∧ b.toNat ≤ 0xBF := by
    repeat' split at hb
    all_goals omega
  rw [encodeChar, toNat_ofNat (by omega)]
  rw [if_neg (by omega), if_neg (by omega), if_neg (by omega), toUInt8_eq (a := a) (by omega),
    toUInt8_eq (a := b) (by omega), toUInt8_eq (a := c) (by omega),
    toUInt8_eq (a := d) (by omega)]

theorem leads_of_not (h : ¬ (a < 0xC2 || 0xF5 ≤ a) = true) : 0xC2 ≤ a.toNat ∧ a.toNat < 0xF5 := by
  simpa [UInt8.lt_iff_toNat_lt, UInt8.le_iff_toNat_le] using h

/-- The bytes that are read as a character are the bytes of this character. -/
theorem encodeChar_of_next {r rest : List UInt8} {ch : Char} (h : next a r = (some ch, rest)) :
    a :: r = encodeChar ch ++ rest := by
  revert ch rest
  fun_cases next a r with
  | case1 _ ha =>
    rintro _ _ ⟨⟩
    rw [encodeChar_one (UInt8.lt_iff_toNat_lt.mp ha)]
    rfl
  | case5 hlong hlead b r₂ hb hshort =>
    rintro _ _ ⟨⟩
    rw [encodeChar_two (leads_of_not hlead).1 (UInt8.lt_iff_toNat_lt.mp hshort)
      (by simpa using hb)]
    rfl
  | case8 hlong hlead b hb hge c r₃ hc hshort =>
    rintro _ _ ⟨⟩
    rw [encodeChar_three (UInt8.le_iff_toNat_le.mp (UInt8.not_lt.mp hge))
      (UInt8.lt_iff_toNat_lt.mp hshort) (by simpa using hb) (by simpa using hc)]
    rfl
  | case11 hlong hlead b hb _ c hc hge d r₄ hd =>
    rintro _ _ ⟨⟩
    rw [encodeChar_four (UInt8.le_iff_toNat_le.mp (UInt8.not_lt.mp hge)) (leads_of_not hlead).2
      (by simpa using hb) (by simpa using hc) (by simpa using hd)]
    rfl
  | _ => rintro _ _ ⟨⟩

end Back

/-! ## Texts -/

theorem decodeLossy_encodeChar (c : Char) (rest : List UInt8) :
    decodeLossy (encodeChar c ++ rest) = c :: decodeLossy rest := by
  obtain ⟨a, r, heq, hnext⟩ := next_encodeChar c
  rw [heq, List.cons_append, decodeLossy, hnext]
  rfl

theorem decode?_encodeChar (c : Char) (rest : List UInt8) :
    decode? (encodeChar c ++ rest) = (decode? rest).map (c :: ·) := by
  obtain ⟨a, r, heq, hnext⟩ := next_encodeChar c
  rw [heq, List.cons_append, decode?, hnext]
  simp

theorem decodeLossy_encode (cs : List Char) : decodeLossy (encode cs) = cs := by
  induction cs with
  | nil => rw [encode, List.flatMap_nil, decodeLossy]
  | cons c cs ih =>
    rw [encode, List.flatMap_cons, decodeLossy_encodeChar]
    exact congrArg (c :: ·) ih

theorem decode?_encode (cs : List Char) : decode? (encode cs) = some cs := by
  induction cs with
  | nil => rw [encode, List.flatMap_nil, decode?]
  | cons c cs ih =>
    rw [encode, List.flatMap_cons, decode?_encodeChar]
    exact (congrArg (Option.map (c :: ·)) ih).trans rfl

/-- Well-formed bytes are those of a text. -/
theorem decode?_eq_some_iff {bs : List UInt8} {cs : List Char} :
    decode? bs = some cs ↔ bs = encode cs := by
  constructor
  · intro h
    fun_induction decode? bs generalizing cs with
    | case1 =>
      cases h
      rfl
    | case3 a r c rest hnext hle ih =>
      obtain ⟨cs, hcs, rfl⟩ := Option.map_eq_some_iff.mp h
      rw [encodeChar_of_next hnext, ih hcs]
      rfl
    | _ => cases h
  · rintro rfl
    exact decode?_encode cs

theorem ofString_append (s t : String) : ofString (s ++ t) = ofString s ++ ofString t := by
  simp [ofString, encode]

end ApprovalWatch.Utf8
