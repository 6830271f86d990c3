import ApprovalWatch.Text.Digits
import ApprovalWatch.Url.Form
import ApprovalWatch.Url.Ipv6

/-!
# Values of options

Numbers and addresses as they are written on a command line, with nothing before or after them.
-/

namespace ApprovalWatch.CommandLine

/-- A number of at most sixty-four bits. A plus sign may stand before it. -/
def amount? (text : String) : Option Nat :=
  let digits :=
    match text.toList with
    | '+' :: cs => cs
    | cs => cs
  (Digits.nat? digits).filter (· < 0x10000000000000000)

/-- A number of at most thirty-two bits. A sign may stand before it: zero is no less negative than
positive. -/
def counter? (text : String) : Option Nat :=
  match text.toList with
  | '-' :: cs => (Digits.nat? cs).filter (· = 0)
  | '+' :: cs => (Digits.nat? cs).filter (· < 0x100000000)
  | cs => (Digits.nat? cs).filter (· < 0x100000000)

/-! ## Addresses -/

/-- A number of at most eight bits without leading zeros. -/
def isOctet (cs : List Char) : Bool :=
  (Digits.nat? cs).any (· < 256) && (cs.head? ≠ some '0' || cs.length = 1)

/-- A port after its colon. -/
def isPort (cs : List Char) : Bool :=
  match cs with
  | ':' :: digits => (Digits.nat? digits).any (· < 0x10000)
  | _ => false

/-- An address with a port: four numbers, or an address of eight groups in brackets. -/
def isAddress (text : String) : Bool :=
  match text.toList with
  | '[' :: cs =>
    (Url.Ipv6.parse? (cs.takeWhile (· ≠ ']'))).isSome && isPort ((cs.dropWhile (· ≠ ']')).drop 1)
  | cs =>
    let octets := Url.Form.pieces '.' (cs.takeWhile (· ≠ ':'))
    octets.length = 4 && octets.all isOctet && isPort (cs.dropWhile (· ≠ ':'))

end ApprovalWatch.CommandLine
