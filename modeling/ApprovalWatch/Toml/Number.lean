import ApprovalWatch.Text.Digits
import ApprovalWatch.Toml.Blank

/-!
# Numbers

Whole numbers of sixty-four bits in base two, eight, ten or sixteen, and numbers with a fraction or
an exponent. Digits may be grouped by single underscores.
-/

namespace ApprovalWatch.Toml

/-- Digits of a base with an underscore between two of them here and there. What is read is given
without underscores. -/
def grouped (base : Nat) : List Char → List Char × List Char
  | c :: d :: r =>
    if c = '_' then
      if Digits.isDigitOf base d then
        let (digits, rest) := grouped base (d :: r)
        (digits, rest)
      else ([], c :: d :: r)
    else if Digits.isDigitOf base c then
      let (digits, rest) := grouped base (d :: r)
      (c :: digits, rest)
    else ([], c :: d :: r)
  | [c] => if Digits.isDigitOf base c then ([c], []) else ([], [c])
  | [] => ([], [])

/-- At least one digit of a base, the first of them without an underscore before it. -/
def digits? (base : Nat) : Reader (List Char) := fun cs =>
  if cs.head?.any (Digits.isDigitOf base) then some (grouped base cs) else none

/-- A sign, which is negative for `-`. -/
def sign : List Char → Bool × List Char
  | '-' :: r => (true, r)
  | '+' :: r => (false, r)
  | cs => (false, cs)

/-- Decimal digits without a leading zero. -/
def decimal? : Reader (List Char)
  | '0' :: r => some (['0'], r)
  | cs => digits? 10 cs

/-- The number with a sign. -/
def signed (negative : Bool) (n : Nat) : Int :=
  if negative then -n else n

/-- A whole number, if it is in the range of sixty-four bits. -/
def ranged? (i : Int) : Option Int :=
  if -0x8000000000000000 ≤ i ∧ i < 0x8000000000000000 then some i else none

/-- A whole number. Only base ten takes a sign. -/
def integer? : Reader Int := fun cs =>
  let inBase := fun (base : Nat) (r : List Char) => do
    let (digits, rest) ← digits? base r
    return (← ranged? (Digits.ofDigits base digits), rest)
  match cs with
  | '0' :: 'x' :: r => inBase 16 r
  | '0' :: 'o' :: r => inBase 8 r
  | '0' :: 'b' :: r => inBase 2 r
  | _ => do
    let (negative, r) := sign cs
    let (digits, rest) ← decimal? r
    return (← ranged? (signed negative (Digits.ofDigits 10 digits)), rest)

/-! ## Fractions -/

/-- An exponent: its sign and digits. -/
def exponent? : Reader (Bool × List Char)
  | 'e' :: r | 'E' :: r =>
    let (negative, r) := sign r
    (digits? 10 r).map fun p => ((negative, p.1), p.2)
  | _ => none

/-- A fraction: its digits. -/
def fraction? : Reader (List Char)
  | '.' :: r => digits? 10 r
  | _ => none

/-- The number `digits * 10 ^ (exponent - places)` is too large for a binary number of sixty-four
bits: it is rounded beyond the largest one. -/
def overflows (digits : List Char) (places : Nat) (exponent : Int) : Bool :=
  let n := Digits.ofDigits 10 digits
  let scale : Int := exponent - places
  if n = 0 then false
  else if scale < -(digits.length : Int) then false
  else if 400 < scale then true
  else
    let limit := Nat.pow 2 1024 - Nat.pow 2 970
    if 0 ≤ scale then limit ≤ n * Nat.pow 10 scale.toNat
    else limit * Nat.pow 10 (-scale).toNat ≤ n

/-- A number with a fraction or an exponent, as it is written. A positive number must not be too
large. -/
def float? : Reader String := fun cs => do
  let (negative, r) := sign cs
  let written := fun (rest : List Char) => String.ofList (cs.take (cs.length - rest.length))
  let (whole, r) ← decimal? r
  let (places, exponent, rest) ← match fraction? r with
    | some (places, r) =>
      match exponent? r with
      | some (e, rest) => pure (places, e, rest)
      | none => pure (places, (false, []), r)
    | none => (exponent? r).map fun p => ([], p.1, p.2)
  let e : Int := Digits.ofDigits 10 exponent.2
  if !negative && overflows (whole ++ places) places.length (if exponent.1 then -e else e) then none
  else return (written rest, rest)

/-- Infinity, or what is not a number. -/
def special? : Reader String := fun cs =>
  let (_, r) := sign cs
  match r with
  | 'i' :: 'n' :: 'f' :: rest => some (String.ofList (cs.take (cs.length - rest.length)), rest)
  | 'n' :: 'a' :: 'n' :: rest => some (String.ofList (cs.take (cs.length - rest.length)), rest)
  | _ => none

end ApprovalWatch.Toml
