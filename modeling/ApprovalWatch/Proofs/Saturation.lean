import ApprovalWatch.Countdown
import Mathlib.Data.List.Induction
import Mathlib.Data.List.TakeWhile
import Mathlib.Data.Nat.Digits.Defs

/-!
# Timeouts that a page spells

The attribute of a page spells a whole number, of any size and with a sign or without, or it spells
none. A timeout is this number, cut off at zero and at the longest timeout, so that no timer runs
over, however long the numeral is.

Main results:

* `Digits.ofDigits_eq_numeral`: digits are read by their places.
* `Timeout.parse?_of_spells`, `Timeout.spells_of_parse?`: which texts spell a timeout, and which.
* `Deadline.ofPage_saturates`: the deadline of a page, and that timers can be set to it.
-/

namespace ApprovalWatch

/-! ## Numerals -/

namespace Digits

/-- The number that decimal digits denote by their places. -/
def numeral (ds : List Char) : Nat :=
  Nat.ofDigits 10 (ds.reverse.map fun d => d.toNat - '0'.toNat)

theorem isDigit_iff_le {c : Char} : c.isDigit = true ↔ '0' ≤ c ∧ c ≤ '9' := by
  rw [Char.isDigit_iff_toNat, Char.le_def, Char.le_def, UInt32.le_iff_toNat_le,
    UInt32.le_iff_toNat_le]
  exact Iff.rfl

theorem hexValue?_of_isDigit {c : Char} (h : c.isDigit = true) :
    hexValue? c = some (c.toNat - '0'.toNat) := by
  rw [hexValue?, if_pos (isDigit_iff_le.mp h)]
  rfl

/-- The other digits of base sixteen are ten or more. -/
theorem ten_le_of_hexValue? {c : Char} {v : Nat} (h : c.isDigit = false)
    (hv : hexValue? c = some v) : 10 ≤ v := by
  have hc : ¬ ('0' ≤ c ∧ c ≤ '9') := by
    rw [← isDigit_iff_le, h]
    exact Bool.false_ne_true
  rw [hexValue?, if_neg hc] at hv
  split at hv
  · rename_i hlower
    rw [Char.le_def, UInt32.le_iff_toNat_le] at hlower
    cases hv
    exact Nat.le_sub_of_add_le hlower.1
  · split at hv
    · rename_i hupper
      rw [Char.le_def, UInt32.le_iff_toNat_le] at hupper
      cases hv
      exact Nat.le_sub_of_add_le hupper.1
    · cases hv

theorem isDecimal_eq_isDigit (c : Char) : isDecimal c = c.isDigit := by
  cases h : c.isDigit with
  | true =>
    have hc := Char.isDigit_iff_toNat.mp h
    rw [isDecimal, isDigitOf, hexValue?_of_isDigit h]
    exact decide_eq_true (Nat.sub_lt_left_of_lt_add hc.1 (Nat.lt_succ_of_le hc.2))
  | false =>
    rw [isDecimal, isDigitOf]
    cases hv : hexValue? c with
    | none => rfl
    | some v => exact decide_eq_false (Nat.not_lt.mpr (ten_le_of_hexValue? h hv))

theorem ofDigits_eq_numeral {ds : List Char} (h : ∀ d ∈ ds, d.isDigit = true) :
    ofDigits 10 ds = numeral ds := by
  induction ds using List.reverseRecOn with
  | nil => rfl
  | append_singleton ds d ih =>
    obtain ⟨hds, hd⟩ := List.forall_mem_append.mp h
    have hnumeral : numeral (ds ++ [d]) = (d.toNat - '0'.toNat) + 10 * numeral ds := by
      rw [numeral, List.reverse_append, List.reverse_singleton, List.singleton_append,
        List.map_cons, Nat.ofDigits_cons, numeral]
    rw [ofDigits_append_singleton, ih hds, hexValue?_of_isDigit (hd d (List.mem_singleton_self d)),
      Option.getD_some, hnumeral]
    omega

end Digits

/-! ## Texts -/

namespace Timeout

/-- A sign, if there is one, and the factor that it stands for. -/
inductive IsSign : List Char → Int → Prop
  | none : IsSign [] 1
  | plus : IsSign ['+'] 1
  | minus : IsSign ['-'] (-1)

/-- The text begins with a whole number: white space, a sign or none, and digits, as many as there
are. Anything may follow. -/
inductive Spells (text : String) : Int → Prop
  | intro {blanks sign digits rest : List Char} {factor : Int}
      (split : text.toList = blanks ++ (sign ++ (digits ++ rest)))
      (blank : ∀ c ∈ blanks, Text.isBlank c = true)
      (hsign : IsSign sign factor)
      (nonempty : digits ≠ [])
      (digit : ∀ d ∈ digits, d.isDigit = true)
      (longest : ∀ c ∈ rest.head?, c.isDigit = false) :
      Spells text (factor * Digits.numeral digits)

/-! ### What is left after blanks and signs -/

section Reading

variable {cs digits rest sign : List Char} {factor : Int}

/-- A character that a number begins with after its sign is neither blank nor a sign. -/
theorem isDigit_ne {c : Char} (h : c.isDigit = true) :
    Text.isBlank c = false ∧ c ≠ '-' ∧ c ≠ '+' := by
  have hc := Char.isDigit_iff_toNat.mp h
  refine ⟨?_, ?_, ?_⟩
  · simp [Text.isBlank] at hc ⊢
    omega
  · rintro rfl
    cases h
  · rintro rfl
    cases h

theorem IsSign.not_blank (h : IsSign sign factor) : ∀ c ∈ sign, Text.isBlank c = false := by
  cases h with
  | none => exact nofun
  | plus | minus => exact List.forall_mem_singleton.mpr (by decide)

theorem trimStart_append {blanks : List Char} (h : ∀ c ∈ blanks, Text.isBlank c = true)
    (hcs : ∀ c ∈ cs.head?, Text.isBlank c = false) : Text.trimStart (blanks ++ cs) = cs := by
  rw [Text.trimStart, List.dropWhile_append_of_pos h]
  cases cs with
  | nil => rfl
  | cons c cs => exact List.dropWhile_cons_of_neg (by simp [hcs c rfl])

theorem splitSign_append (h : IsSign sign factor) (hcs : ∀ c ∈ cs.head?, c ≠ '-' ∧ c ≠ '+') :
    splitSign (sign ++ cs) = (decide (factor < 0), cs) := by
  cases h with
  | plus | minus => rfl
  | none =>
    rw [List.nil_append, splitSign.eq_def]
    split
    · exact absurd rfl (hcs _ rfl).1
    · exact absurd rfl (hcs _ rfl).2
    · rfl

theorem span_digits (digit : ∀ d ∈ digits, d.isDigit = true)
    (longest : ∀ c ∈ rest.head?, c.isDigit = false) :
    Digits.span (digits ++ rest) = (digits, rest) := by
  have hdigits : ∀ d ∈ digits, Digits.isDecimal d = true := by
    intro d hd
    rw [Digits.isDecimal_eq_isDigit, digit d hd]
  have hrest : rest.takeWhile Digits.isDecimal = [] ∧ rest.dropWhile Digits.isDecimal = rest := by
    cases rest with
    | nil => exact ⟨rfl, rfl⟩
    | cons c rest =>
      have hc : ¬ Digits.isDecimal c = true := by
        rw [Digits.isDecimal_eq_isDigit, longest c rfl]
        exact Bool.false_ne_true
      exact ⟨List.takeWhile_cons_of_neg hc, List.dropWhile_cons_of_neg hc⟩
  rw [Digits.span, List.takeWhile_append_of_pos hdigits, List.dropWhile_append_of_pos hdigits,
    hrest.1, hrest.2, List.append_nil]

/-- Every text has its sign before what is left of it. -/
theorem exists_sign (cs : List Char) :
    ∃ sign factor, IsSign sign factor ∧ cs = sign ++ (splitSign cs).2 := by
  unfold splitSign
  split
  · exact ⟨_, _, .minus, rfl⟩
  · exact ⟨_, _, .plus, rfl⟩
  · exact ⟨_, _, .none, rfl⟩

end Reading

/-! ### Which texts spell a timeout -/

section Spelled

variable {text : String} {v : Int} {secs : Nat}

/-- How a text with a number is taken apart: what is left after blanks and sign begins with its
digits. -/
theorem Spells.taken (h : Spells text v) :
    ∃ negative cs, splitSign (Text.trimStart text.toList) = (negative, cs) ∧
      (Digits.span cs).1 ≠ [] ∧ (∀ d ∈ (Digits.span cs).1, d.isDigit = true) ∧
      v = if negative then -(Digits.numeral (Digits.span cs).1 : Int)
        else Digits.numeral (Digits.span cs).1 := by
  obtain @⟨blanks, sign, digits, rest, factor, split, blank, hsign, nonempty, digit, longest⟩ := h
  obtain ⟨d, ds, rfl⟩ := List.exists_cons_of_ne_nil nonempty
  have hd := isDigit_ne (digit d List.mem_cons_self)
  have hhead : ∀ c ∈ (sign ++ (d :: ds ++ rest)).head?, Text.isBlank c = false := by
    cases sign with
    | nil =>
      rintro c ⟨⟩
      exact hd.1
    | cons c sign =>
      rintro _ ⟨⟩
      exact hsign.not_blank c List.mem_cons_self
  have hunsigned : ∀ c ∈ (d :: ds ++ rest).head?, c ≠ '-' ∧ c ≠ '+' := by
    rintro c ⟨⟩
    exact hd.2
  have hsplit := splitSign_append hsign hunsigned
  rw [split, trimStart_append blank hhead, hsplit]
  refine ⟨_, _, rfl, ?_⟩
  rw [span_digits digit longest]
  refine ⟨nonempty, digit, ?_⟩
  cases hsign with
  | none | plus => exact Int.one_mul _
  | minus => exact (Int.neg_one_mul _).trans rfl

/-- A text begins with one number at most. -/
theorem Spells.unique {w : Int} (h : Spells text v) (h' : Spells text w) : w = v := by
  obtain ⟨negative, cs, hsplit, -, -, rfl⟩ := h.taken
  obtain ⟨negative', cs', hsplit', -, -, rfl⟩ := h'.taken
  obtain ⟨rfl, rfl⟩ := Prod.mk.inj (hsplit.symm.trans hsplit')
  rfl

/-- The number of a text, cut off at zero and at the longest timeout. -/
theorem parse?_of_spells (h : Spells text v) :
    ∃ secs, parse? text = some secs ∧ (secs : Int) = min (max v 0) 2147483 := by
  obtain ⟨negative, cs, hsplit, hne, digit, rfl⟩ := h.taken
  have hempty : (Digits.span cs).1.isEmpty = false := by simpa using hne
  rw [parse?, hsplit]
  simp only [hempty, Digits.ofDigits_eq_numeral digit, Bool.false_eq_true, if_false]
  cases negative with
  | true =>
    refine ⟨0, rfl, ?_⟩
    rw [if_pos rfl]
    omega
  | false =>
    refine ⟨clamp (Digits.numeral (Digits.span cs).1), rfl, ?_⟩
    rw [clamp, maxSecs, if_neg Bool.false_ne_true]
    omega

/-- A timeout is read from nothing else. -/
theorem spells_of_parse? (h : parse? text = some secs) : ∃ v, Spells text v := by
  obtain ⟨sign, factor, hsign, hcs⟩ := exists_sign (Text.trimStart text.toList)
  generalize hrest : (splitSign (Text.trimStart text.toList)).2 = cs at hcs
  have hblanks : text.toList = text.toList.takeWhile Text.isBlank ++ (sign ++ cs) := by
    rw [← hcs, Text.trimStart, List.takeWhile_append_dropWhile]
  rw [← Digits.span_append cs] at hblanks
  refine ⟨_, .intro hblanks (fun c hc => List.mem_takeWhile_imp hc) hsign ?_ ?_ ?_⟩
  · intro hnil
    simp [parse?, hrest, hnil] at h
  · intro d hd
    rw [← Digits.isDecimal_eq_isDigit]
    exact List.mem_takeWhile_imp hd
  · intro c hc
    have hnot := List.head?_dropWhile_not Digits.isDecimal cs
    rw [show (cs.dropWhile Digits.isDecimal).head? = some c from hc] at hnot
    rw [← Digits.isDecimal_eq_isDigit, hnot]

theorem parse?_eq_none_iff : parse? text = none ↔ ∀ v, ¬ Spells text v := by
  constructor
  · intro h v hv
    obtain ⟨secs, hsecs, -⟩ := parse?_of_spells hv
    rw [hsecs] at h
    cases h
  · intro h
    cases hparse : parse? text with
    | none => rfl
    | some secs =>
      obtain ⟨v, hv⟩ := spells_of_parse? hparse
      exact absurd hv (h v)

end Spelled

end Timeout

/-! ## Deadlines -/

/-- A timer can be set to a span: it counts milliseconds in thirty-one bits, and the instant at
which it goes off does not wrap around on a clock of sixty-four bits that has that much time
left. -/
structure Armable (spanMs : Nat) : Prop where
  le : spanMs ≤ 0x7FFFFFFF
  add : ∀ started : UInt64, started.toNat + 0x7FFFFFFF < 2 ^ 64 →
    (started + spanMs.toUInt64).toNat = started.toNat + spanMs

theorem armable_of_le_maxSecs {secs : Nat} (h : secs ≤ Timeout.maxSecs) :
    Armable (1000 * secs) := by
  have hle : 1000 * secs ≤ 0x7FFFFFFF := by
    rw [Timeout.maxSecs] at h
    omega
  refine ⟨hle, fun started hstarted => ?_⟩
  have hspan : (1000 * secs).toUInt64.toNat = 1000 * secs :=
    Nat.mod_eq_of_lt (Nat.lt_of_le_of_lt hle (by decide))
  rw [UInt64.toNat_add, hspan, Nat.mod_eq_of_lt]
  omega

namespace Deadline

theorem armable (d : Deadline) : Armable d.ms :=
  armable_of_le_maxSecs d.secs_le

/-- **The deadline of a page.** If the attribute of the page begins with a whole number, then the
timeout is this number, cut off at zero and at the longest timeout. If not, or if there is no such
attribute, it is the timeout of the settings, cut off likewise. A timer can be set to it, whatever
the page and the settings say, and to that of a countdown from any number of seconds. -/
theorem ofPage_saturates (p : Page) (s : Settings) :
    let raw := p.attribute? s.page.countdownContainer s.page.redirectSecondsAttribute
    (∀ text v, raw = some text → Timeout.Spells text v →
      (∀ w, Timeout.Spells text w → w = v) ∧
      ∃ secs, raw.bind Timeout.parse? = some secs ∧ (secs : Int) = min (max v 0) 2147483 ∧
        (ofPage p s).secs = secs) ∧
    ((∀ text v, raw = some text → ¬ Timeout.Spells text v) →
      raw.bind Timeout.parse? = none ∧
        (ofPage p s).secs = min s.deadline.timeoutSecs 2147483) ∧
    Armable (ofPage p s).ms ∧
    ∀ secs, Armable (ofSecs secs).ms ∧ Armable (Countdown.ofSecs secs).deadlineMs ∧
      ∀ shown dueMs, Countdown.due? ⟨(Countdown.ofSecs secs).total, shown⟩ = some dueMs →
        Armable dueMs := by
  intro raw
  have hsecs : (ofPage p s).secs =
      Timeout.clamp ((raw.bind Timeout.parse?).getD s.deadline.timeoutSecs) := rfl
  refine ⟨?_, ?_, (ofPage p s).armable, fun secs => ⟨(ofSecs secs).armable, ?_, ?_⟩⟩
  · intro text v hraw hv
    obtain ⟨secs, hparse, hval⟩ := Timeout.parse?_of_spells hv
    rw [hraw, Option.bind_some, hparse] at hsecs ⊢
    refine ⟨fun w => hv.unique, secs, rfl, hval, hsecs.trans ?_⟩
    exact Nat.min_eq_left (Timeout.parse?_le hparse)
  · intro hno
    have hnone : raw.bind Timeout.parse? = none := by
      cases hraw : raw with
      | none => rfl
      | some text => exact Timeout.parse?_eq_none_iff.mpr fun v => hno text v hraw
    rw [hnone] at hsecs ⊢
    exact ⟨rfl, hsecs⟩
  · exact armable_of_le_maxSecs (Timeout.clamp_le secs)
  · intro shown dueMs hdue
    obtain ⟨left, -, rfl⟩ := Option.map_eq_some_iff.mp hdue
    exact armable_of_le_maxSecs (Nat.le_trans (Nat.sub_le _ _) (Timeout.clamp_le secs))

/-- A page with a numeral that is longer than any machine number, between a blank and a letter. -/
def overlong : Page :=
  ({} : Page).setAttribute "countdown" "redirect-seconds" "\u3000+0099999999999999999999999s"

/-- A page without a numeral: there are two signs. -/
def twoSigns : Page :=
  ({} : Page).setAttribute "countdown" "redirect-seconds" "+-5"

theorem ofPage_saturates_overlong :
    (ofPage overlong {}).secs = 2147483 ∧
      (ofPage twoSigns { deadline := { timeoutSecs := 2 ^ 64 - 1 } }).secs = 2147483 := by
  refine ⟨?_, ?_⟩
  · have hdigits : "0099999999999999999999999".toList.all Char.isDigit = true := by decide
    have hspells : Timeout.Spells "\u3000+0099999999999999999999999s" 99999999999999999999999 :=
      @Timeout.Spells.intro _ ['\u3000'] ['+'] "0099999999999999999999999".toList ['s'] 1
        (by decide) (List.forall_mem_singleton.mpr (by decide)) .plus (by decide)
        (List.all_eq_true.mp hdigits) (by rintro c ⟨⟩; decide)
    obtain ⟨-, secs, -, hval, hsecs⟩ := (ofPage_saturates overlong {}).1 _ _ rfl hspells
    rw [hsecs]
    omega
  · have hnone : Timeout.parse? "+-5" = none := by decide +kernel
    refine ((ofPage_saturates twoSigns _).2.1 ?_).2
    rintro text v ⟨⟩
    exact Timeout.parse?_eq_none_iff.mp hnone v

end Deadline

end ApprovalWatch
