import ApprovalWatch.Binary64
import ApprovalWatch.Text.Digits

/-!
# Shortest decimals

The fewest decimal digits that read back as a binary number, and of those the nearest to it, written
without an exponent and without a point where there is no fraction.
-/

namespace ApprovalWatch.Decimal

/-- The numbers that are read as a binary number: between two ends, in units of a quarter of its
last place, with the ends where the significand is even. -/
structure Interval where
  low : Nat
  high : Nat
  withEnds : Bool
  deriving DecidableEq, Repr

/-- The interval of a number. Below a power of two the numbers are twice as dense. -/
def Interval.of (x : Binary64) : Interval where
  low := if x.significand = 0x10000000000000 then 4 * x.significand - 1 else 4 * x.significand - 2
  high := 4 * x.significand + 2
  withEnds := x.significand % 2 = 0

/-- The ratio `num / den` lies in the interval. -/
def Interval.admits (i : Interval) (num den : Nat) : Bool :=
  if i.withEnds then i.low * den ≤ num && num ≤ i.high * den
  else i.low * den < num && num < i.high * den

/-- A grid of decimals: the multiples of `num / den`, in units of a quarter of the last place of the
number at hand. -/
structure Grid where
  num : Nat
  den : Nat
  deriving DecidableEq, Repr

/-- The multiples of `10 ^ k`, where the last place is worth `2 ^ exponent`. -/
def Grid.of (exponent k : Int) : Grid where
  num := Nat.pow 10 k.toNat * Nat.pow 2 (2 - exponent).toNat
  den := Nat.pow 10 (-k).toNat * Nat.pow 2 (exponent - 2).toNat

/-- The member of a grid that reads back as the number and is nearest to it, as a multiple. Only the
two neighbours of the number can be. -/
def pick? (x : Binary64) (g : Grid) : Option Nat :=
  let v := 4 * x.significand
  let below := v * g.den / g.num
  let fits := fun c : Nat => (Interval.of x).admits (c * g.num) g.den
  match fits below, fits (below + 1) with
  | true, true =>
    if v * g.den - below * g.num ≤ (below + 1) * g.num - v * g.den then some below
    else some (below + 1)
  | true, false => some below
  | false, true => some (below + 1)
  | false, false => none

/-- The first grid with a member that reads back as the number, from the multiples of `10 ^ k` on:
that member and its place. -/
def search (x : Binary64) : Nat → Int → Nat × Int
  | 0, k => (0, k)
  | fuel + 1, k =>
    match pick? x (Grid.of x.exponent k) with
    | some c => (c, k)
    | none => search x fuel (k - 1)

/-- The digits of a number and the place of the last one. The search begins above the number and
ends where the grid is finer than the last place. -/
def digits (x : Binary64) : Nat × Int :=
  let (num, den) := x.ratio
  let top := (Digits.ofNat (num / den)).length
  search x (top + (4 - x.exponent).toNat) top

/-- The multiple `c` of `10 ^ k`. -/
def positional (c : Nat) (k : Int) : List Char :=
  if 0 ≤ k then Digits.ofNat (c * Nat.pow 10 k.toNat)
  else
    let places := (-k).toNat
    let scale := Nat.pow 10 places
    Digits.ofNat (c / scale) ++ '.' :: Digits.padded places (c % scale)

/-- The shortest decimal. -/
def shortest (x : Binary64) : String :=
  if x.significand = 0 then "0"
  else
    let (c, k) := digits x
    String.ofList (positional c k)

end ApprovalWatch.Decimal
