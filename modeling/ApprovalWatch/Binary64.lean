/-!
# Binary floating point

Numbers with a significand of fifty-three bits, the nearest ones to exact ratios. Only numbers from
zero on occur, and none of them comes near the ends of the range, so exponents are not bounded.
-/

namespace ApprovalWatch

/-- The number `significand * 2 ^ exponent`. -/
structure Binary64 where
  significand : Nat
  exponent : Int
  deriving DecidableEq, Repr

namespace Binary64

/-- The nearest whole number to a ratio; halfway between two, the even one. -/
def roundRatio (num den : Nat) : Nat :=
  let q := num / den
  let r := num % den
  if den < 2 * r ∨ (2 * r = den ∧ q % 2 = 1) then q + 1 else q

/-- The ratio `num / den` in units of `2 ^ exponent`, again as a ratio. -/
def scale (num den : Nat) (exponent : Int) : Nat × Nat :=
  if exponent < 0 then (num * Nat.pow 2 (-exponent).toNat, den)
  else (num, den * Nat.pow 2 exponent.toNat)

/-- The nearest number to a ratio. -/
def ofRatio (num den : Nat) : Binary64 :=
  if num = 0 then ⟨0, 0⟩
  else
    -- in these units the ratio lies between `2 ^ 52` and `2 ^ 54`
    let exponent : Int := num.log2 - den.log2 - 53
    let (n, d) := scale num den exponent
    let exponent := if n / d < 0x20000000000000 then exponent else exponent + 1
    let (n, d) := scale num den exponent
    let m := roundRatio n d
    if m = 0x20000000000000 then ⟨0x10000000000000, exponent + 1⟩ else ⟨m, exponent⟩

/-- The nearest number to a whole number. -/
def ofNat (n : Nat) : Binary64 :=
  ofRatio n 1

/-- The number as a ratio. -/
def ratio (x : Binary64) : Nat × Nat :=
  if x.exponent < 0 then (x.significand, Nat.pow 2 (-x.exponent).toNat)
  else (x.significand * Nat.pow 2 x.exponent.toNat, 1)

/-- The nearest number to a sum. -/
protected def add (x y : Binary64) : Binary64 :=
  ofRatio (x.ratio.1 * y.ratio.2 + y.ratio.1 * x.ratio.2) (x.ratio.2 * y.ratio.2)

/-- The nearest number to a product. -/
protected def mul (x y : Binary64) : Binary64 :=
  ofRatio (x.ratio.1 * y.ratio.1) (x.ratio.2 * y.ratio.2)

/-- The nearest number to a quotient by a number other than zero. -/
protected def div (x y : Binary64) : Binary64 :=
  ofRatio (x.ratio.1 * y.ratio.2) (x.ratio.2 * y.ratio.1)

instance : Add Binary64 := ⟨Binary64.add⟩
instance : Mul Binary64 := ⟨Binary64.mul⟩
instance : Div Binary64 := ⟨Binary64.div⟩

end Binary64

end ApprovalWatch
