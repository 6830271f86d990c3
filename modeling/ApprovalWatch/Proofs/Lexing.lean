import ApprovalWatch.Json.Token
import Mathlib.Data.List.Chain
import Mathlib.Data.List.TakeWhile

/-!
# The tokens that bytes spell

A grammar of the tokens of JSON, and the proof that bytes are cut into tokens as it says. A text in
quotes is given by its inside, a number or a word by nothing at all. Blanks may stand before, after
and between tokens, and not in them.

Main results:

* `takeScalar_sound`, `takeScalar_complete`: numbers and words, up to a byte that cannot go on with
  them.
* `tokens?_sound`, `tokens?_complete`: cutting bytes into tokens is the grammar read backwards.
-/

namespace ApprovalWatch.Json

/-! ## Texts -/

/-- The inside of a text in quotes. -/
inductive IsText : List UInt8 → Prop
  | nil : IsText []
  | plain {b : UInt8} {r : List UInt8} (quote : b ≠ 0x22) (control : ¬ b < 0x20)
      (backslash : b ≠ 0x5C) (rest : IsText r) : IsText (b :: r)
  | short {e : UInt8} {r : List UInt8} (letter : isShortEscape e = true) (rest : IsText r) :
      IsText (0x5C :: e :: r)
  | unit {d₁ d₂ d₃ d₄ : UInt8} {r : List UInt8} (hex₁ : isHexByte d₁ = true)
      (hex₂ : isHexByte d₂ = true) (hex₃ : isHexByte d₃ = true) (hex₄ : isHexByte d₄ = true)
      (rest : IsText r) : IsText (0x5C :: 0x75 :: d₁ :: d₂ :: d₃ :: d₄ :: r)

theorem takeText_sound {bs raw rest : List UInt8} (h : takeText bs = some (raw, rest)) :
    IsText raw ∧ bs = raw ++ 0x22 :: rest := by
  fun_induction takeText bs generalizing raw rest with
  | case2 r =>
    cases h
    exact ⟨.nil, rfl⟩
  | case5 e r letter _ _ ih =>
    obtain ⟨⟨raw', rest'⟩, hr, heq⟩ := Option.map_eq_some_iff.mp h
    cases heq
    obtain ⟨hraw, rfl⟩ := ih hr
    exact ⟨.short letter hraw, rfl⟩
  | case6 d₁ d₂ d₃ d₄ r hex _ _ _ ih =>
    obtain ⟨⟨raw', rest'⟩, hr, heq⟩ := Option.map_eq_some_iff.mp h
    cases heq
    obtain ⟨hraw, rfl⟩ := ih hr
    simp only [Bool.and_eq_true] at hex
    exact ⟨.unit hex.1.1.1 hex.1.1.2 hex.1.2 hex.2 hraw, rfl⟩
  | case10 b r quote control backslash ih =>
    obtain ⟨⟨raw', rest'⟩, hr, heq⟩ := Option.map_eq_some_iff.mp h
    cases heq
    obtain ⟨hraw, rfl⟩ := ih hr
    exact ⟨.plain quote control backslash hraw, rfl⟩
  | _ => cases h

theorem takeText_complete {raw : List UInt8} (h : IsText raw) (rest : List UInt8) :
    takeText (raw ++ 0x22 :: rest) = some (raw, rest) := by
  induction h with
  | nil => simp [takeText.eq_def]
  | plain quote control backslash _ ih =>
    rw [List.cons_append, takeText.eq_def]
    simp [quote, control, backslash, ih]
  | short letter _ ih =>
    rw [List.cons_append, List.cons_append, takeText.eq_def]
    simp [letter, ih]
  | unit hex₁ hex₂ hex₃ hex₄ _ ih =>
    have letter : isShortEscape 0x75 = false := by decide +kernel
    simp only [List.cons_append]
    rw [takeText.eq_def]
    simp [letter, hex₁, hex₂, hex₃, hex₄, ih]

/-! ## Numbers and words -/

/-- At least one digit. -/
def IsDigits (w : List UInt8) : Prop :=
  w ≠ [] ∧ ∀ b ∈ w, isDigitByte b = true

/-- An exponent, or nothing. -/
inductive IsExponent : List UInt8 → Prop
  | none : IsExponent []
  | some {mark : UInt8} {sign digits : List UInt8} (hmark : mark = 0x65 ∨ mark = 0x45)
      (hsign : sign = [] ∨ sign = [0x2B] ∨ sign = [0x2D]) (hdigits : IsDigits digits) :
      IsExponent (mark :: (sign ++ digits))

/-- A fraction, or nothing, and an exponent, or nothing. -/
inductive IsFraction : List UInt8 → Prop
  | none {e : List UInt8} (exponent : IsExponent e) : IsFraction e
  | some {digits e : List UInt8} (hdigits : IsDigits digits) (exponent : IsExponent e) :
      IsFraction (0x2E :: (digits ++ e))

/-- A number without a sign. No digit comes after a leading zero. -/
inductive IsUnsigned : List UInt8 → Prop
  | zero {f : List UInt8} (fraction : IsFraction f) : IsUnsigned (0x30 :: f)
  | digits {b : UInt8} {ds f : List UInt8} (zero : b ≠ 0x30) (digit : isDigitByte b = true)
      (digits : ∀ d ∈ ds, isDigitByte d = true) (fraction : IsFraction f) :
      IsUnsigned (b :: (ds ++ f))

/-- A number, or one of the words `true`, `false` and `null`. -/
inductive IsScalar : List UInt8 → Prop
  | unsigned {w : List UInt8} (number : IsUnsigned w) : IsScalar w
  | negative {w : List UInt8} (number : IsUnsigned w) : IsScalar (0x2D :: w)
  | wordTrue : IsScalar [0x74, 0x72, 0x75, 0x65]
  | wordFalse : IsScalar [0x66, 0x61, 0x6C, 0x73, 0x65]
  | wordNull : IsScalar [0x6E, 0x75, 0x6C, 0x6C]

section Sound

variable {bs rest : List UInt8}

theorem takeDigits_sound (h : takeDigits bs = some rest) : ∃ w, IsDigits w ∧ bs = w ++ rest := by
  unfold takeDigits at h
  split at h
  · rename_i b r
    split at h
    · rename_i digit
      cases h
      refine ⟨b :: r.takeWhile isDigitByte, ⟨nofun, ?_⟩, ?_⟩
      · exact List.forall_mem_cons.mpr ⟨digit, fun d hd => List.mem_takeWhile_imp hd⟩
      · rw [List.cons_append, List.takeWhile_append_dropWhile]
    · cases h
  · cases h

theorem takeExponent_sound (h : takeExponent bs = some rest) :
    ∃ w, IsExponent w ∧ bs = w ++ rest := by
  unfold takeExponent at h
  split at h
  · rename_i b r
    split at h
    · rename_i mark
      have hmark : b = 0x65 ∨ b = 0x45 := by simpa using mark
      split at h
      · rename_i s r
        split at h
        · rename_i sign
          obtain ⟨w, hw, rfl⟩ := takeDigits_sound h
          have hsign : s = 0x2B ∨ s = 0x2D := by simpa using sign
          refine ⟨b :: ([s] ++ w), .some hmark ?_ hw, rfl⟩
          rcases hsign with rfl | rfl
          · exact .inr (.inl rfl)
          · exact .inr (.inr rfl)
        · obtain ⟨w, hw, heq⟩ := takeDigits_sound h
          rw [heq]
          exact ⟨_, .some hmark (.inl rfl) hw, rfl⟩
      · cases h
    · cases h
      exact ⟨[], .none, rfl⟩
  · cases h
    exact ⟨[], .none, rfl⟩

theorem takeFraction_sound (h : takeFraction bs = some rest) :
    ∃ w, IsFraction w ∧ bs = w ++ rest := by
  unfold takeFraction at h
  split at h
  · rename_i b r
    split at h
    · rename_i point
      cases point
      obtain ⟨r', hr', hrest⟩ := Option.bind_eq_some_iff.mp h
      obtain ⟨digits, hdigits, rfl⟩ := takeDigits_sound hr'
      obtain ⟨e, he, rfl⟩ := takeExponent_sound hrest
      exact ⟨_, .some hdigits he, by rw [List.cons_append, List.append_assoc]⟩
    · obtain ⟨e, he, heq⟩ := takeExponent_sound h
      exact ⟨e, .none he, heq⟩
  · cases h
    exact ⟨[], .none .none, rfl⟩

theorem takeUnsigned_sound (h : takeUnsigned bs = some rest) :
    ∃ w, IsUnsigned w ∧ bs = w ++ rest := by
  unfold takeUnsigned at h
  split at h
  · rename_i b r
    split at h
    · rename_i zero
      cases zero
      obtain ⟨f, hf, rfl⟩ := takeFraction_sound h
      exact ⟨_, .zero hf, rfl⟩
    · rename_i zero
      split at h
      · rename_i digit
        obtain ⟨f, hf, heq⟩ := takeFraction_sound h
        have digits : ∀ d ∈ r.takeWhile isDigitByte, isDigitByte d = true :=
          fun d hd => List.mem_takeWhile_imp hd
        refine ⟨_, .digits zero digit digits hf, ?_⟩
        rw [List.cons_append, List.append_assoc, ← heq, List.takeWhile_append_dropWhile]
      · cases h
  · cases h

theorem takeWord_sound {word : List UInt8} (h : takeWord word bs = some rest) :
    bs = word ++ rest := by
  unfold takeWord at h
  split at h
  · rename_i starts
    obtain ⟨r, rfl⟩ := List.isPrefixOf_iff_prefix.mp starts
    cases h
    rw [List.drop_left]
  · cases h

theorem takeScalar_sound (h : takeScalar bs = some rest) : ∃ w, IsScalar w ∧ bs = w ++ rest := by
  unfold takeScalar at h
  split at h
  · cases h
  · split at h
    · rename_i minus
      obtain ⟨w, hw, rfl⟩ := takeUnsigned_sound h
      exact ⟨_, .negative hw, by rw [minus, List.cons_append]⟩
    · split at h
      · rename_i first
        exact ⟨_, .wordTrue, by rw [first, takeWord_sound h]; rfl⟩
      · split at h
        · rename_i first
          exact ⟨_, .wordFalse, by rw [first, takeWord_sound h]; rfl⟩
        · split at h
          · rename_i first
            exact ⟨_, .wordNull, by rw [first, takeWord_sound h]; rfl⟩
          · obtain ⟨w, hw, heq⟩ := takeUnsigned_sound h
            exact ⟨w, .unsigned hw, heq⟩

end Sound

/-- The bytes that no number goes on with and no word contains: blanks, punctuation marks and the
quote. -/
def delimiters : List UInt8 :=
  [0x20, 0x0A, 0x0D, 0x09, 0x7B, 0x7D, 0x5B, 0x5D, 0x3A, 0x2C, 0x22]

theorem mem_delimiters_of_isBlank {b : UInt8} (h : isBlank b = true) : b ∈ delimiters := by
  simp only [isBlank, Bool.or_eq_true, decide_eq_true_eq] at h
  rcases h with ((rfl | rfl) | rfl) | rfl <;> decide

theorem mem_delimiters_of_punctuation? {b : UInt8} {t : Token} (h : punctuation? b = some t) :
    b ∈ delimiters := by
  unfold punctuation? at h
  repeat' split at h
  all_goals simp_all [delimiters]

/-- The bytes end, or go on with a delimiter. -/
def Delimited (bs : List UInt8) : Prop :=
  ∀ b ∈ bs.head?, b ∈ delimiters

/-- The bytes do not go on with a digit. -/
def NoDigit (bs : List UInt8) : Prop :=
  ∀ b ∈ bs.head?, isDigitByte b = false

theorem Delimited.noDigit {bs : List UInt8} (h : Delimited bs) : NoDigit bs := by
  have none : ∀ b ∈ delimiters, isDigitByte b = false := by decide +kernel
  exact fun b hb => none b (h b hb)

theorem IsDigits.head_eq {w : List UInt8} (h : IsDigits w) :
    ∃ b ds, w = b :: ds ∧ isDigitByte b = true ∧ ∀ d ∈ ds, isDigitByte d = true := by
  obtain ⟨hne, hall⟩ := h
  obtain ⟨b, ds, rfl⟩ := List.exists_cons_of_ne_nil hne
  exact ⟨b, ds, rfl, List.forall_mem_cons.mp hall⟩

section Complete

variable {w ds e f rest : List UInt8}

theorem dropWhile_isDigitByte (hds : ∀ d ∈ ds, isDigitByte d = true) (hrest : NoDigit rest) :
    (ds ++ rest).dropWhile isDigitByte = rest := by
  rw [List.dropWhile_append_of_pos hds]
  cases rest with
  | nil => rfl
  | cons b r => exact List.dropWhile_cons_of_neg (by simp [hrest b rfl])

theorem takeDigits_complete (hw : IsDigits w) (hrest : NoDigit rest) :
    takeDigits (w ++ rest) = some rest := by
  obtain ⟨b, ds, rfl, digit, hds⟩ := hw.head_eq
  rw [List.cons_append, takeDigits, if_pos digit, dropWhile_isDigitByte hds hrest]

/-- An exponent begins with its letter, which is neither a digit nor a point. -/
theorem IsExponent.head_eq (he : IsExponent e) (hrest : Delimited rest) :
    ∀ b ∈ (e ++ rest).head?, isDigitByte b = false ∧ b ≠ 0x2E := by
  cases he with
  | none =>
    have other : ∀ b ∈ delimiters, isDigitByte b = false ∧ b ≠ 0x2E := by decide +kernel
    exact fun b hb => other b (hrest b hb)
  | some hmark _ _ =>
    rintro b ⟨⟩
    rcases hmark with rfl | rfl <;> decide

theorem IsFraction.noDigit (hf : IsFraction f) (hrest : Delimited rest) : NoDigit (f ++ rest) := by
  cases hf with
  | none exponent => exact fun b hb => (exponent.head_eq hrest b hb).1
  | some _ _ =>
    rintro b ⟨⟩
    decide

theorem takeExponent_complete (he : IsExponent e) (hrest : Delimited rest) :
    takeExponent (e ++ rest) = some rest := by
  cases he with
  | none =>
    cases rest with
    | nil => rfl
    | cons b r =>
      have other : ∀ b ∈ delimiters, ¬ (b = 0x65 || b = 0x45) := by decide +kernel
      rw [List.nil_append, takeExponent.eq_def]
      dsimp only
      rw [if_neg (other b (hrest b rfl))]
  | @some mark sign digits hmark hsign hdigits =>
    have hmark : (mark = 0x65 || mark = 0x45) = true := by simpa using hmark
    rw [List.cons_append, takeExponent.eq_def]
    dsimp only
    rw [if_pos hmark, List.append_assoc]
    rcases hsign with rfl | rfl | rfl
    · obtain ⟨b, ds, rfl, digit, -⟩ := hdigits.head_eq
      have nosign : ¬ (b = 0x2B || b = 0x2D) := by
        simp only [Bool.or_eq_true, decide_eq_true_eq, not_or]
        refine ⟨?_, ?_⟩ <;> rintro rfl <;> cases digit
      simp only [List.nil_append, List.cons_append]
      rw [if_neg nosign]
      exact takeDigits_complete hdigits hrest.noDigit
    · exact takeDigits_complete hdigits hrest.noDigit
    · exact takeDigits_complete hdigits hrest.noDigit

theorem takeFraction_complete (hf : IsFraction f) (hrest : Delimited rest) :
    takeFraction (f ++ rest) = some rest := by
  cases hf with
  | none exponent =>
    have htake := takeExponent_complete exponent hrest
    have hhead := exponent.head_eq hrest
    cases hbs : f ++ rest with
    | nil =>
      rw [hbs] at htake
      exact htake
    | cons b r =>
      rw [hbs] at htake hhead
      rw [takeFraction, if_neg (hhead b rfl).2, htake]
  | @some digits e hdigits exponent =>
    have hnext : NoDigit (e ++ rest) := fun b hb => (exponent.head_eq hrest b hb).1
    rw [List.cons_append, takeFraction, if_pos rfl, List.append_assoc,
      takeDigits_complete hdigits hnext]
    exact takeExponent_complete exponent hrest

theorem takeUnsigned_complete (hw : IsUnsigned w) (hrest : Delimited rest) :
    takeUnsigned (w ++ rest) = some rest := by
  cases hw with
  | zero fraction =>
    rw [List.cons_append, takeUnsigned, if_pos rfl, takeFraction_complete fraction hrest]
  | digits zero digit digits fraction =>
    rw [List.cons_append, takeUnsigned, if_neg zero, if_pos digit, List.append_assoc,
      dropWhile_isDigitByte digits (fraction.noDigit hrest), takeFraction_complete fraction hrest]

/-- What a scalar begins with tells its kind, and that it is no other token. -/
theorem IsUnsigned.head_eq (hw : IsUnsigned w) : ∃ b r, w = b :: r ∧ isDigitByte b = true := by
  cases hw with
  | zero => exact ⟨_, _, rfl, by decide +kernel⟩
  | digits _ digit => exact ⟨_, _, rfl, digit⟩

theorem takeScalar_complete (hw : IsScalar w) (hrest : Delimited rest) :
    takeScalar (w ++ rest) = some rest := by
  cases hw with
  | unsigned number =>
    have htake := takeUnsigned_complete number hrest
    obtain ⟨b, r, rfl, digit⟩ := number.head_eq
    have other : ∀ c : UInt8, isDigitByte c = false → b ≠ c := by
      rintro c hc rfl
      rw [digit] at hc
      cases hc
    rw [List.cons_append] at htake ⊢
    rw [takeScalar, if_neg (other _ (by decide)), if_neg (other _ (by decide)),
      if_neg (other _ (by decide)), if_neg (other _ (by decide)), htake]
  | negative number =>
    rw [List.cons_append, takeScalar, if_pos rfl, takeUnsigned_complete number hrest]
  | wordTrue | wordFalse | wordNull => rfl

end Complete

/-! ## Tokens -/

/-- The bytes spell the tokens. -/
inductive Lexes : List UInt8 → List Token → Prop
  | done : Lexes [] []
  | blank {b : UInt8} {bs : List UInt8} {ts : List Token} (h : isBlank b = true)
      (rest : Lexes bs ts) : Lexes (b :: bs) ts
  | mark {b : UInt8} {t : Token} {bs : List UInt8} {ts : List Token}
      (h : punctuation? b = some t) (rest : Lexes bs ts) : Lexes (b :: bs) (t :: ts)
  | text {raw bs : List UInt8} {ts : List Token} (h : IsText raw) (rest : Lexes bs ts) :
      Lexes (0x22 :: (raw ++ 0x22 :: bs)) (.text raw :: ts)
  | scalar {w bs : List UInt8} {ts : List Token} (h : IsScalar w) (rest : Lexes bs ts) :
      Lexes (w ++ bs) (.scalar :: ts)

/-- Two tokens that may stand next to each other without a blank: all but two numbers or words. -/
def MayMeet (t t' : Token) : Prop :=
  t = .scalar → t' ≠ .scalar

theorem tokens?_text {bs raw rest : List UInt8} (h : takeText bs = some (raw, rest)) :
    tokens? (0x22 :: bs) = (tokens? rest).map (.text raw :: ·) := by
  have noblank : ¬ isBlank 0x22 = true := by decide +kernel
  have nomark : punctuation? 0x22 = none := by decide +kernel
  rw [tokens?, if_neg noblank, nomark]
  dsimp only
  rw [if_pos rfl]
  split
  · rename_i heq
    rw [h] at heq
    cases heq
    rfl
  · rename_i heq
    rw [h] at heq
    cases heq

theorem tokens?_scalar {b : UInt8} {bs rest : List UInt8} (hb : b ∉ delimiters)
    (h : takeScalar (b :: bs) = some rest) :
    tokens? (b :: bs) = (tokens? rest).map (.scalar :: ·) := by
  have noblank : ¬ isBlank b = true := fun h => hb (mem_delimiters_of_isBlank h)
  have noquote : b ≠ 0x22 := by
    rintro rfl
    exact hb (by decide)
  have nomark : punctuation? b = none := by
    cases hmark : punctuation? b with
    | none => rfl
    | some t => exact absurd (mem_delimiters_of_punctuation? hmark) hb
  rw [tokens?, if_neg noblank, nomark]
  dsimp only
  rw [if_neg noquote]
  split
  · rename_i heq
    rw [h] at heq
    cases heq
    rfl
  · rename_i heq
    rw [h] at heq
    cases heq

theorem tokens?_sound {bs : List UInt8} {ts : List Token} (h : tokens? bs = some ts) :
    Lexes bs ts := by
  fun_induction tokens? bs generalizing ts with
  | case1 =>
    cases h
    exact .done
  | case2 b r blank ih => exact .blank blank (ih h)
  | case3 b r _ t mark ih =>
    obtain ⟨ts', hts', rfl⟩ := Option.map_eq_some_iff.mp h
    exact .mark mark (ih hts')
  | case4 r raw rest take _ _ ih =>
    obtain ⟨ts', hts', rfl⟩ := Option.map_eq_some_iff.mp h
    obtain ⟨hraw, rfl⟩ := takeText_sound take
    exact .text hraw (ih hts')
  | case6 b r _ _ _ rest take ih =>
    obtain ⟨ts', hts', rfl⟩ := Option.map_eq_some_iff.mp h
    obtain ⟨w, hw, heq⟩ := takeScalar_sound take
    rw [heq]
    exact .scalar hw (ih hts')
  | _ => cases h

/-- Bytes that do not spell a number or a word first are delimited. -/
theorem Lexes.delimited {bs : List UInt8} {ts : List Token} (h : Lexes bs ts)
    (hts : ts.head? ≠ some .scalar) : Delimited bs := by
  cases h with
  | done => exact nofun
  | blank h _ =>
    rintro b ⟨⟩
    exact mem_delimiters_of_isBlank h
  | mark h _ =>
    rintro b ⟨⟩
    exact mem_delimiters_of_punctuation? h
  | text =>
    rintro b ⟨⟩
    decide
  | scalar => exact absurd rfl hts

/-- No number or word begins with a byte that other tokens begin with. -/
theorem IsScalar.head_eq {w : List UInt8} (h : IsScalar w) :
    ∃ b r, w = b :: r ∧ b ∉ delimiters := by
  cases h with
  | unsigned number =>
    obtain ⟨b, r, rfl, digit⟩ := number.head_eq
    refine ⟨b, r, rfl, fun hb => ?_⟩
    have none : ∀ b ∈ delimiters, isDigitByte b = false := by decide +kernel
    rw [none b hb] at digit
    cases digit
  | negative | wordTrue | wordFalse | wordNull => exact ⟨_, _, rfl, by decide +kernel⟩

theorem tokens?_complete {bs : List UInt8} {ts : List Token} (h : Lexes bs ts)
    (apart : ts.IsChain MayMeet) : tokens? bs = some ts := by
  induction h with
  | done => rw [tokens?]
  | blank h _ ih => rw [tokens?, if_pos h, ih apart]
  | @mark b t bs ts h _ ih =>
    have noblank : ¬ isBlank b = true := by
      intro blank
      simp only [isBlank, Bool.or_eq_true, decide_eq_true_eq] at blank
      rcases blank with ((rfl | rfl) | rfl) | rfl <;> cases h
    rw [tokens?, if_neg noblank, h]
    simp [ih apart.tail]
  | @text raw bs ts h _ ih => rw [tokens?_text (takeText_complete h bs), ih apart.tail, Option.map]
  | @scalar w bs ts h rest ih =>
    have hdelimited : Delimited bs := by
      refine rest.delimited fun hts => ?_
      obtain ⟨ts', rfl⟩ := List.head?_eq_some_iff.mp hts
      exact (List.isChain_cons_cons.mp apart).1 rfl rfl
    have htake := takeScalar_complete h hdelimited
    obtain ⟨b, r, rfl, hb⟩ := h.head_eq
    rw [List.cons_append] at htake ⊢
    rw [tokens?_scalar hb htake, ih apart.tail, Option.map]

end ApprovalWatch.Json
