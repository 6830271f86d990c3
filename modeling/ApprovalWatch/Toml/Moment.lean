import ApprovalWatch.Text.Digits
import ApprovalWatch.Toml.Blank

/-!
# Dates and times

A date, a time, or both, then also with an offset. They are read into their normal form: a capital
`T` between date and time, at most nine places of a second without zeros at the end, and an offset
that is positive if it is zero.
-/

namespace ApprovalWatch.Toml

/-- A number of exactly `count` digits between two bounds. -/
def fixed? (count low high : Nat) : Reader Nat := fun cs =>
  let digits := cs.take count
  let n := Digits.ofDigits 10 digits
  if digits.length = count && digits.all Digits.isDecimal && low ≤ n && n ≤ high then
    some (n, cs.drop count)
  else none

/-- The text after a character. -/
def expect? (c : Char) : List Char → Option (List Char)
  | d :: r => if d = c then some r else none
  | [] => none

/-! ## Dates -/

/-- A year with a leap day. -/
def isLeap (year : Nat) : Bool :=
  year % 4 = 0 && (year % 100 ≠ 0 || year % 400 = 0)

/-- The days of a month. -/
def daysIn (year month : Nat) : Nat :=
  if month = 2 then if isLeap year then 29 else 28
  else if month ∈ [4, 6, 9, 11] then 30
  else 31

/-- A date. -/
def date? : Reader (List Char) := fun cs => do
  let (year, r) ← fixed? 4 0 9999 cs
  let (month, r) ← fixed? 2 1 12 (← expect? '-' r)
  let (day, r) ← fixed? 2 1 (daysIn year month) (← expect? '-' r)
  return (Digits.padded 4 year ++ '-' :: Digits.padded 2 month ++ '-' :: Digits.padded 2 day, r)

/-! ## Times -/

/-- The places of a second in normal form. -/
def placesOf (digits : List Char) : List Char :=
  ((digits.take 9).reverse.dropWhile (· = '0')).reverse

/-- A time. The last minute of a day may have a second more. -/
def time? : Reader (List Char) := fun cs => do
  let (hour, r) ← fixed? 2 0 23 cs
  let (minute, r) ← fixed? 2 0 59 (← expect? ':' r)
  let (second, r) ← fixed? 2 0 60 (← expect? ':' r)
  let whole :=
    Digits.padded 2 hour ++ ':' :: Digits.padded 2 minute ++ ':' :: Digits.padded 2 second
  match r with
  | '.' :: d :: rest =>
    let digits := (d :: rest).takeWhile Digits.isDecimal
    if digits.isEmpty then return (whole, r)
    let places := placesOf digits
    return (if places.isEmpty then whole else whole ++ '.' :: places,
      (d :: rest).dropWhile Digits.isDecimal)
  | _ => return (whole, r)

/-- An offset. -/
def offset? : Reader (List Char)
  | 'Z' :: r | 'z' :: r => some (['Z'], r)
  | c :: r =>
    if c = '+' || c = '-' then do
      let (hours, r) ← fixed? 2 0 23 r
      let (minutes, r) ← fixed? 2 0 59 (← expect? ':' r)
      let mark := if c = '-' && hours + minutes ≠ 0 then '-' else '+'
      return (mark :: Digits.padded 2 hours ++ ':' :: Digits.padded 2 minutes, r)
    else none
  | [] => none

/-- A date with a time after it, if there is one, and the offset of that time. -/
def dateTime? : Reader (List Char) := fun cs => do
  let (date, r) ← date? cs
  let timed := match r with
    | 'T' :: r | 't' :: r | ' ' :: r => time? r
    | _ => none
  match timed with
  | none => return (date, r)
  | some (time, r) =>
    match offset? r with
    | some (offset, r) => return (date ++ 'T' :: time ++ offset, r)
    | none => return (date ++ 'T' :: time, r)

/-- A date, a time, or both, in normal form. -/
def moment? : Reader String := fun cs =>
  let result := match dateTime? cs with
    | some p => some p
    | none => time? cs
  result.map fun p => (String.ofList p.1, p.2)

end ApprovalWatch.Toml
