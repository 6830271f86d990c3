/-!
# Digits

Numerals in a base up to sixteen, read from characters and written to them.

Results:

* `span_append`: splitting off the leading digits loses nothing.
* `ofDigits_append_singleton`: the value of a numeral grows by one place per digit.
-/

namespace ApprovalWatch.Digits

/-! ## Reading -/

/-- The value of a character as a digit of base sixteen, in either case. -/
def hexValue? (c : Char) : Option Nat :=
  if '0' ≤ c ∧ c ≤ '9' then some (c.toNat - 48)
  else if 'a' ≤ c ∧ c ≤ 'f' then some (c.toNat - 87)
  else if 'A' ≤ c ∧ c ≤ 'F' then some (c.toNat - 55)
  else none

/-- A digit of the base. -/
def isDigitOf (base : Nat) (c : Char) : Bool :=
  match hexValue? c with
  | some v => v < base
  | none => false

/-- A digit of base ten. -/
def isDecimal (c : Char) : Bool :=
  isDigitOf 10 c

/-- A digit of base sixteen. -/
def isHex (c : Char) : Bool :=
  isDigitOf 16 c

/-- The number that the digits denote; characters that are no digits count as zero. -/
def ofDigits (base : Nat) (cs : List Char) : Nat :=
  cs.foldl (fun n c => n * base + (hexValue? c).getD 0) 0

theorem ofDigits_append_singleton (base : Nat) (cs : List Char) (c : Char) :
    ofDigits base (cs ++ [c]) = ofDigits base cs * base + (hexValue? c).getD 0 := by
  simp [ofDigits]

/-- The leading decimal digits and what follows them. -/
def span (cs : List Char) : List Char × List Char :=
  (cs.takeWhile isDecimal, cs.dropWhile isDecimal)

theorem span_append (cs : List Char) : (span cs).1 ++ (span cs).2 = cs :=
  List.takeWhile_append_dropWhile

/-- The number written with nothing but decimal digits, at least one of them. -/
def nat? (cs : List Char) : Option Nat :=
  if cs.isEmpty || !cs.all isDecimal then none else some (ofDigits 10 cs)

/-! ## Writing -/

/-- The digit of value `n` in base sixteen, in lower case. -/
def lowerHex (n : Nat) : Char :=
  if n < 10 then Char.ofNat (48 + n) else Char.ofNat (87 + n)

/-- The digit of value `n` in base sixteen, in upper case. -/
def upperHex (n : Nat) : Char :=
  if n < 10 then Char.ofNat (48 + n) else Char.ofNat (55 + n)

/-- The number in the given base, which is at least two, without leading zeros. -/
def toDigits (base n : Nat) : List Char :=
  if base < 2 ∨ n < base then [lowerHex n]
  else toDigits base (n / base) ++ [lowerHex (n % base)]
termination_by n
decreasing_by exact Nat.div_lt_self (by omega) (by omega)

/-- The number in base ten. -/
def ofNat (n : Nat) : List Char :=
  toDigits 10 n

/-- The digits of `n` in base ten, filled up with zeros on the left to the given width. -/
def padded (width n : Nat) : List Char :=
  let ds := ofNat n
  List.replicate (width - ds.length) '0' ++ ds

end ApprovalWatch.Digits
