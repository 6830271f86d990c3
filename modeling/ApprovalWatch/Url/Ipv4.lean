import ApprovalWatch.Text.Digits
import ApprovalWatch.Url.Form

/-!
# IPv4 addresses

Up to four numbers in base eight, ten or sixteen, separated by points, the last of which fills the
places that are left. An address is written as four numbers in base ten.
-/

namespace ApprovalWatch.Url.Ipv4

/-- A number of an address: `0x` announces base sixteen, another leading zero base eight. The digits
after such a mark may be missing. -/
def number? (cs : List Char) : Option Nat :=
  let (base, digits) :=
    match cs with
    | '0' :: 'x' :: r => (16, r)
    | '0' :: 'X' :: r => (16, r)
    | '0' :: d :: r => (8, d :: r)
    | _ => (10, cs)
  if !cs.isEmpty && digits.all (Digits.isDigitOf base) then some (Digits.ofDigits base digits)
  else none

/-- The parts between the points. A point at the end closes the last part. -/
def parts (cs : List Char) : List (List Char) :=
  let ps := Form.pieces '.' cs
  if ps.getLast? = some [] then ps.dropLast else ps

/-- A host that can only be an address: its last part is a number, or consists of digits. -/
def isNumeric (cs : List Char) : Bool :=
  match (parts cs).getLast? with
  | none => false
  | some last => (!last.isEmpty && last.all Digits.isDecimal) || (number? last).isSome

/-- The address with the given numbers, the first of which is worth `256 ^ 3`. -/
def assemble? : List Nat → Nat → Option Nat
  | [], _ => none
  | [last], place => if last < Nat.pow 256 (place + 1) then some last else none
  | n :: ns, place =>
    if n < 256 then (assemble? ns (place - 1)).map (n * Nat.pow 256 place + ·) else none

/-- The address that a host spells. -/
def parse? (cs : List Char) : Option Nat :=
  let ps := parts cs
  if 4 < ps.length then none
  else (ps.mapM number?).bind fun ns => (assemble? ns 3).filter (· < 0x100000000)

/-- The address as four numbers. -/
def render (n : Nat) : List Char :=
  Digits.ofNat (n / 0x1000000) ++ '.' :: Digits.ofNat (n / 0x10000 % 256)
    ++ '.' :: Digits.ofNat (n / 0x100 % 256) ++ '.' :: Digits.ofNat (n % 256)

end ApprovalWatch.Url.Ipv4
