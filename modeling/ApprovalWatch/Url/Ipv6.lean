import ApprovalWatch.Text.Digits
import ApprovalWatch.Url.Form

/-!
# IPv6 addresses

Eight numbers of sixteen bits in base sixteen, separated by colons. One gap `::` stands for at least
one zero, and the last two numbers may be written as an IPv4 address. An address is written in lower
case with its first longest run of two or more zeros as the gap.
-/

namespace ApprovalWatch.Url.Ipv6

/-! ## Reading -/

/-- What stands between two colons. -/
inductive Group where
  | piece (value : Nat)
  | gap
  deriving DecidableEq, Repr

/-- A number of an IPv4 tail: at most 255, in base ten, without leading zeros. -/
def octet? (cs : List Char) : Option Nat :=
  if 1 < cs.length && cs.head? = some '0' then none
  else (Digits.nat? cs).filter (· ≤ 255)

/-- The two pieces of an IPv4 tail. -/
def tail? (cs : List Char) : Option (List Group) :=
  match (Form.pieces '.' cs).mapM octet? with
  | some [a, b, c, d] => some [.piece (a * 256 + b), .piece (c * 256 + d)]
  | _ => none

/-- The groups of an address, read from the start of a piece or from the second colon of a gap. -/
def groups? : List Char → Option (List Group)
  | [] => some []
  | ':' :: r => (groups? r).map (.gap :: ·)
  | c :: r =>
    let digits := (c :: r).take 4 |>.takeWhile Digits.isHex
    match (c :: r).drop digits.length with
    | [] => some [.piece (Digits.ofDigits 16 digits)]
    | ':' :: rest =>
      if rest.isEmpty then none
      else if rest.length < (c :: r).length then
        (groups? rest).map (.piece (Digits.ofDigits 16 digits) :: ·)
      else none
    | '.' :: _ => if digits.isEmpty then none else tail? (c :: r)
    | _ => none
termination_by cs => cs.length
decreasing_by
  · exact Nat.lt_succ_self _
  · assumption

/-- The eight numbers of the groups: a gap counts as at least one of them. -/
def fill? (gs : List Group) : Option (List Nat) :=
  let value : Group → Option Nat := fun
    | .piece v => some v
    | .gap => none
  let left := (gs.takeWhile (· ≠ .gap)).filterMap value
  match gs.dropWhile (· ≠ .gap) with
  | [] => if left.length = 8 then some left else none
  | _ :: rest =>
    let right := rest.filterMap value
    if Group.gap ∈ rest ∨ 8 ≤ left.length + right.length then none
    else some (left ++ List.replicate (8 - left.length - right.length) 0 ++ right)

/-- The address that a text spells. A colon in front belongs to a gap. -/
def parse? (cs : List Char) : Option (List Nat) :=
  match cs with
  | ':' :: ':' :: r => ((groups? r).map (.gap :: ·)).bind fill?
  | ':' :: _ => none
  | _ => (groups? cs).bind fill?

/-! ## Writing -/

/-- The length of the run of zeros that the numbers begin with. -/
def zeros (ns : List Nat) : Nat :=
  (ns.takeWhile (· = 0)).length

/-- The first longest run of zeros as its start and length, where `i` is the position of the first
of the numbers. -/
def longestRun (i : Nat) : List Nat → Nat × Nat
  | [] => (i, 0)
  | n :: ns =>
    let here := (i, zeros (n :: ns))
    let later := longestRun (i + 1) ns
    if here.2 < later.2 then later else here

/-- The numbers joined by colons. -/
def join (ns : List Nat) : List Char :=
  [':'].intercalate (ns.map (Digits.toDigits 16))

/-- The address in its shortest form. -/
def render (ns : List Nat) : List Char :=
  let (start, length) := longestRun 0 ns
  if length < 2 then join ns
  else join (ns.take start) ++ ':' :: ':' :: join (ns.drop (start + length))

end ApprovalWatch.Url.Ipv6
