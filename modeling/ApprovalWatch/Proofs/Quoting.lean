import ApprovalWatch.Json.Unquote
import ApprovalWatch.Json.Value
import ApprovalWatch.Proofs.Lexing
import ApprovalWatch.Proofs.Utf8

/-!
# What quotes spell

A grammar of the inside of quotes with the text that it denotes: characters that stand for
themselves, escapes of one letter, and escapes of four digits, in pairs where a character is beyond
the first plane. Texts are read from quotes as it says, and what is written between quotes denotes
the text that is written.

Main results:

* `unescape_eq_some_iff`, `unquote_eq_some_iff`: what is read is what the grammar denotes.
* `denotes_escapeAll`: every text can be written, and is read back.
* `isText_escapeAll`: what is written ends at the closing quote, and not before.
-/

namespace ApprovalWatch

/-! ## Digits of base sixteen -/

namespace Digits

theorem hexValue?_lt {c : Char} {v : Nat} (h : hexValue? c = some v) : v < 16 := by
  unfold hexValue? at h
  simp only [Char.le_def, UInt32.le_iff_toNat_le] at h
  repeat' split at h
  all_goals cases h
  all_goals
    rename_i hc
    exact Nat.lt_of_le_of_lt (Nat.sub_le_sub_right hc.2 _) (by decide)

theorem isHex_iff {c : Char} : isHex c = true ↔ ∃ v, hexValue? c = some v := by
  rw [isHex, isDigitOf]
  cases h : hexValue? c with
  | none => simp
  | some v => simpa using hexValue?_lt h

theorem hexValue?_lowerHex : ∀ v < 16, hexValue? (lowerHex v) = some v := by
  decide

end Digits

namespace Json

open Utf8 (encode encodeChar)

/-! ## The grammar -/

/-- Four digits of base sixteen and the number that they denote. -/
inductive IsCodeUnit : Char → Char → Char → Char → Nat → Prop
  | intro {a b c d : Char} {v₁ v₂ v₃ v₄ : Nat} (h₁ : Digits.hexValue? a = some v₁)
      (h₂ : Digits.hexValue? b = some v₂) (h₃ : Digits.hexValue? c = some v₃)
      (h₄ : Digits.hexValue? d = some v₄) :
      IsCodeUnit a b c d (((v₁ * 16 + v₂) * 16 + v₃) * 16 + v₄)

/-- The inside of quotes and the text that it denotes. No character is a surrogate, and so the
number of a single escape is none. -/
inductive Denotes : List Char → List Char → Prop
  | nil : Denotes [] []
  | plain {c : Char} {r cs : List Char} (h : c ≠ '\\') (rest : Denotes r cs) :
      Denotes (c :: r) (c :: cs)
  | short {e c : Char} {r cs : List Char} (h : shortEscape? e = some c) (rest : Denotes r cs) :
      Denotes ('\\' :: e :: r) (c :: cs)
  | unit {d₁ d₂ d₃ d₄ c : Char} {r cs : List Char} (h : IsCodeUnit d₁ d₂ d₃ d₄ c.toNat)
      (rest : Denotes r cs) : Denotes ('\\' :: 'u' :: d₁ :: d₂ :: d₃ :: d₄ :: r) (c :: cs)
  | pair {d₁ d₂ d₃ d₄ e₁ e₂ e₃ e₄ c : Char} {r cs : List Char} {high low : Nat}
      (h : IsCodeUnit d₁ d₂ d₃ d₄ (0xD800 + high)) (h' : IsCodeUnit e₁ e₂ e₃ e₄ (0xDC00 + low))
      (hhigh : high < 0x400) (hlow : low < 0x400)
      (hc : c.toNat = 0x10000 + high * 0x400 + low) (rest : Denotes r cs) :
      Denotes ('\\' :: 'u' :: d₁ :: d₂ :: d₃ :: d₄ :: '\\' :: 'u' :: e₁ :: e₂ :: e₃ :: e₄ :: r)
        (c :: cs)

/-- The bytes between two quotes denote the text. -/
def Quotes (raw : List UInt8) (s : String) : Prop :=
  ∃ cs, raw = encode cs ∧ Denotes cs s.toList

/-! ## Reading -/

theorem unit?_eq_some_iff {a b c d : Char} {n : Nat} :
    unit? a b c d = some n ↔ IsCodeUnit a b c d n := by
  rw [unit?]
  constructor
  · intro h
    split at h
    · rename_i hex
      simp only [Bool.and_eq_true, Digits.isHex_iff] at hex
      obtain ⟨⟨⟨⟨v₁, h₁⟩, v₂, h₂⟩, v₃, h₃⟩, v₄, h₄⟩ := hex
      rw [← Option.some.inj h]
      simp only [Digits.ofDigits, List.foldl_cons, List.foldl_nil, h₁, h₂, h₃, h₄,
        Option.getD_some, Nat.zero_mul, Nat.zero_add]
      exact .intro h₁ h₂ h₃ h₄
    · cases h
  · rintro ⟨h₁, h₂, h₃, h₄⟩
    simp [Digits.isHex_iff, Digits.ofDigits, h₁, h₂, h₃, h₄]

theorem IsCodeUnit.lt {a b c d : Char} {n : Nat} (h : IsCodeUnit a b c d n) : n < 0x10000 := by
  obtain ⟨h₁, h₂, h₃, h₄⟩ := h
  have := Digits.hexValue?_lt h₁
  have := Digits.hexValue?_lt h₂
  have := Digits.hexValue?_lt h₃
  have := Digits.hexValue?_lt h₄
  omega

theorem denotes_of_unescape {raw cs : List Char} (h : unescape raw = some cs) :
    Denotes raw cs := by
  fun_induction unescape raw generalizing cs with
  | case1 =>
    cases h
    exact .nil
  | case4 d₁ d₂ d₃ d₄ n hn hhigh e₁ e₂ e₃ e₄ r m hm hlow ih =>
    obtain ⟨cs, hcs, rfl⟩ := Option.map_eq_some_iff.mp h
    obtain ⟨high, rfl⟩ := Nat.exists_eq_add_of_le hhigh.1
    obtain ⟨low, rfl⟩ := Nat.exists_eq_add_of_le hlow.1
    rw [Nat.add_sub_cancel_left, Nat.add_sub_cancel_left]
    exact .pair (unit?_eq_some_iff.mp hn) (unit?_eq_some_iff.mp hm) (by omega) (by omega)
      (Utf8.toNat_ofNat (by omega)) (ih hcs)
  | case8 d₁ d₂ d₃ d₄ r n hn hhigh hlow ih =>
    obtain ⟨cs, hcs, rfl⟩ := Option.map_eq_some_iff.mp h
    have hunit := unit?_eq_some_iff.mp hn
    have hlt := hunit.lt
    have hvalue : (Char.ofNat n).toNat = n := Utf8.toNat_ofNat (by omega)
    rw [← hvalue] at hunit
    exact .unit hunit (ih hcs)
  | case9 e r _ c he ih =>
    obtain ⟨cs, hcs, rfl⟩ := Option.map_eq_some_iff.mp h
    exact .short he (ih hcs)
  | case12 c r _ _ hc ih =>
    obtain ⟨cs, hcs, rfl⟩ := Option.map_eq_some_iff.mp h
    exact .plain hc (ih hcs)
  | _ => cases h

theorem unescape_plain {c : Char} (h : c ≠ '\\') (r : List Char) :
    unescape (c :: r) = (unescape r).map (c :: ·) := by
  rw [unescape.eq_def]
  split
  · rename_i heq
    cases heq
  · rename_i heq
    exact absurd (List.cons.inj heq).1 h
  · rename_i heq
    exact absurd (List.cons.inj heq).1 h
  · rename_i heq
    cases heq
    exact if_neg h

theorem unescape_short {e c : Char} (h : shortEscape? e = some c) (r : List Char) :
    unescape ('\\' :: e :: r) = (unescape r).map (c :: ·) := by
  rw [unescape.eq_def]
  split
  · rename_i heq
    cases heq
  · rename_i heq
    cases heq
    cases h
  · rename_i heq
    cases heq
    rw [h]
  · rename_i hno heq
    cases heq
    exact absurd rfl (hno _ _ rfl)

theorem unescape_of_denotes {raw cs : List Char} (h : Denotes raw cs) :
    unescape raw = some cs := by
  induction h with
  | nil => rfl
  | plain h rest ih => rw [unescape_plain h, ih, Option.map_some]
  | short h rest ih => rw [unescape_short h, ih, Option.map_some]
  | @unit d₁ d₂ d₃ d₄ c r cs h rest ih =>
    -- a character is no surrogate, and so neither half of a pair is meant
    have hvalid := Utf8.toNat_valid c
    rw [unescape, unit?_eq_some_iff.mpr h]
    dsimp only
    rw [if_neg (by omega), if_neg (by omega), ih, Option.map_some, Char.ofNat_toNat]
  | @pair d₁ d₂ d₃ d₄ e₁ e₂ e₃ e₄ c r cs high low h h' hhigh hlow hc rest ih =>
    rw [unescape, unit?_eq_some_iff.mpr h]
    dsimp only
    rw [if_pos (by omega)]
    simp only [unit?_eq_some_iff.mpr h']
    rw [if_pos (by omega), ih, Option.map_some, Nat.add_sub_cancel_left, Nat.add_sub_cancel_left,
      ← hc, Char.ofNat_toNat]

/-- What is read from the inside of quotes is the text that it denotes. -/
theorem unescape_eq_some_iff {raw cs : List Char} : unescape raw = some cs ↔ Denotes raw cs :=
  ⟨denotes_of_unescape, unescape_of_denotes⟩

theorem unquote_eq_some_iff {raw : List UInt8} {s : String} :
    unquote raw = some s ↔ Quotes raw s := by
  simp only [unquote, Option.map_eq_some_iff, Option.bind_eq_some_iff, Utf8.decode?_eq_some_iff,
    unescape_eq_some_iff, Quotes]
  constructor
  · rintro ⟨ds, ⟨cs, rfl, h⟩, rfl⟩
    exact ⟨cs, rfl, by rwa [String.toList_ofList]⟩
  · rintro ⟨cs, rfl, h⟩
    exact ⟨_, ⟨cs, rfl, h⟩, String.ofList_toList⟩

/-- The inside of quotes denotes one text at most. -/
theorem Quotes.unique {raw : List UInt8} {s s' : String} (h : Quotes raw s) (h' : Quotes raw s') :
    s = s' :=
  Option.some.inj ((unquote_eq_some_iff.mpr h).symm.trans (unquote_eq_some_iff.mpr h'))

/-! ## Writing -/

theorem isCodeUnit_lowerHex {n : Nat} (h : n < 0x100) :
    IsCodeUnit '0' '0' (Digits.lowerHex (n / 16)) (Digits.lowerHex (n % 16)) n := by
  have hzero : Digits.hexValue? '0' = some 0 := by decide
  have hn : ((0 * 16 + 0) * 16 + n / 16) * 16 + n % 16 = n := by omega
  have hunit := IsCodeUnit.intro hzero hzero (Digits.hexValue?_lowerHex (n / 16) (by omega))
    (Digits.hexValue?_lowerHex (n % 16) (by omega))
  rwa [hn] at hunit

/-- A character is written as an escape of one letter, as an escape of four digits, or as it is. -/
theorem escape_cases (c : Char) :
    (∃ e, shortEscape? e = some c ∧ escape c = ['\\', e]) ∨
      (c.toNat < 0x20 ∧ escape c = '\\' :: 'u' :: '0' :: '0' ::
        [Digits.lowerHex (c.toNat / 16), Digits.lowerHex (c.toNat % 16)]) ∨
      (c ≠ '"' ∧ c ≠ '\\' ∧ ¬ c.toNat < 0x20 ∧ escape c = [c]) := by
  have hlt : c < ' ' ↔ c.toNat < 0x20 := UInt32.lt_iff_toNat_lt
  unfold escape
  split_ifs with hquote hback hb hf hn hr ht hcontrol
  · exact .inl ⟨'"', congrArg some hquote.symm, rfl⟩
  · exact .inl ⟨'\\', congrArg some hback.symm, rfl⟩
  · exact .inl ⟨'b', congrArg some hb.symm, rfl⟩
  · exact .inl ⟨'f', congrArg some hf.symm, rfl⟩
  · exact .inl ⟨'n', congrArg some hn.symm, rfl⟩
  · exact .inl ⟨'r', congrArg some hr.symm, rfl⟩
  · exact .inl ⟨'t', congrArg some ht.symm, rfl⟩
  · exact .inr (.inl ⟨hlt.mp hcontrol, rfl⟩)
  · exact .inr (.inr ⟨hquote, hback, fun h => hcontrol (hlt.mpr h), rfl⟩)

/-- A character within quotes denotes itself. -/
theorem denotes_escape (c : Char) {r cs : List Char} (h : Denotes r cs) :
    Denotes (escape c ++ r) (c :: cs) := by
  obtain ⟨e, he, heq⟩ | ⟨hcontrol, heq⟩ | ⟨-, hback, -, heq⟩ := escape_cases c
  · rw [heq]
    exact .short he h
  · rw [heq]
    exact .unit (isCodeUnit_lowerHex (by omega)) h
  · rw [heq]
    exact .plain hback h

theorem denotes_escapeAll (cs : List Char) : Denotes (escapeAll cs) cs := by
  induction cs with
  | nil => exact .nil
  | cons c cs ih => exact denotes_escape c ih

/-! ### Where it ends -/

theorem IsText.append_plain {bs r : List UInt8}
    (h : ∀ b ∈ bs, b ≠ 0x22 ∧ ¬ b < 0x20 ∧ b ≠ 0x5C) (hr : IsText r) : IsText (bs ++ r) := by
  induction bs with
  | nil => exact hr
  | cons b bs ih =>
    obtain ⟨⟨quote, control, backslash⟩, hbs⟩ := List.forall_mem_cons.mp h
    exact .plain quote control backslash (ih hbs)

theorem plain_of_mem_encodeChar {c : Char} (hquote : c ≠ '"') (hback : c ≠ '\\')
    (hcontrol : ¬ c.toNat < 0x20) : ∀ b ∈ encodeChar c, b ≠ 0x22 ∧ ¬ b < 0x20 ∧ b ≠ 0x5C := by
  intro b hb
  obtain hlow | hhigh := Utf8.toNat_of_mem_encodeChar hb
  · refine ⟨?_, fun h => hcontrol (hlow ▸ UInt8.lt_iff_toNat_lt.mp h), ?_⟩
    · rintro rfl
      exact hquote (Char.toNat_inj.mp hlow.symm)
    · rintro rfl
      exact hback (Char.toNat_inj.mp hlow.symm)
  · have hlarge : ¬ b.toNat < 0x20 := by omega
    refine ⟨?_, fun h => hlarge (UInt8.lt_iff_toNat_lt.mp h), ?_⟩
    · rintro rfl
      exact absurd hhigh (by decide)
    · rintro rfl
      exact absurd hhigh (by decide)

theorem encodeChar_of_shortEscape? {e c : Char} (h : shortEscape? e = some c) :
    ∃ b, encodeChar e = [b] ∧ isShortEscape b = true := by
  unfold shortEscape? at h
  split at h
  iterate 8 exact ⟨_, rfl, by decide⟩
  cases h

theorem encodeChar_lowerHex : ∀ v < 16,
    encodeChar (Digits.lowerHex v) = [(Digits.lowerHex v).toNat.toUInt8] ∧
      isHexByte (Digits.lowerHex v).toNat.toUInt8 = true := by
  decide

theorem isText_escape (c : Char) {r : List UInt8} (h : IsText r) :
    IsText (encode (escape c) ++ r) := by
  obtain ⟨e, he, heq⟩ | ⟨hcontrol, heq⟩ | ⟨hquote, hback, hcontrol, heq⟩ := escape_cases c
  · obtain ⟨b, hb, hshort⟩ := encodeChar_of_shortEscape? he
    rw [heq, encode, List.flatMap_cons, List.flatMap_singleton, hb]
    exact .short hshort h
  · obtain ⟨h₃, hex₃⟩ := encodeChar_lowerHex (c.toNat / 16) (by omega)
    obtain ⟨h₄, hex₄⟩ := encodeChar_lowerHex (c.toNat % 16) (by omega)
    simp only [heq, encode, List.flatMap_cons, List.flatMap_nil, h₃, h₄]
    exact .unit (by decide) (by decide) hex₃ hex₄ h
  · rw [heq, encode, List.flatMap_singleton]
    exact .append_plain (plain_of_mem_encodeChar hquote hback hcontrol) h

theorem isText_escapeAll (cs : List Char) : IsText (encode (escapeAll cs)) := by
  induction cs with
  | nil => exact .nil
  | cons c cs ih =>
    rw [escapeAll, List.flatMap_cons, encode, List.flatMap_append]
    exact isText_escape c ih

theorem lexes_quote (s : String) {bs : List UInt8} {ts : List Token} (h : Lexes bs ts) :
    Lexes (Utf8.ofString (quote s) ++ bs) (.text (encode (escapeAll s.toList)) :: ts) := by
  have hbytes : Utf8.ofString (quote s) ++ bs =
      0x22 :: (encode (escapeAll s.toList) ++ 0x22 :: bs) := by
    have hquote : encodeChar '"' = [0x22] := by decide
    simp [Utf8.ofString, quote, encode, hquote]
  rw [hbytes]
  exact .text (isText_escapeAll _) h

end Json

end ApprovalWatch
