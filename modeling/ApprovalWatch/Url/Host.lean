import ApprovalWatch.Idna.Domain
import ApprovalWatch.Url.Error
import ApprovalWatch.Url.Ipv4
import ApprovalWatch.Url.Ipv6

/-!
# Hosts

A host is an address or a name. Under a special scheme a name is a domain in its ASCII form; under
any other scheme it is any text without the characters that delimit the parts of a URL.

Results:

* `parseDomain_ne_empty`: under a special scheme no host is the empty name.
-/

namespace ApprovalWatch.Url

/-- The party that a URL names. The empty name stands for no party. -/
inductive Host where
  | name (text : List Char)
  | ipv4 (address : Nat)
  | ipv6 (pieces : List Nat)
  deriving DecidableEq, Repr

namespace Host

/-- The host as it stands in a URL. -/
def render : Host → List Char
  | name text => text
  | ipv4 address => Ipv4.render address
  | ipv6 pieces => '[' :: Ipv6.render pieces ++ [']']

/-- An IPv6 address from what follows its opening bracket. -/
def parseBracketed (cs : List Char) : Except Error Host :=
  if cs.getLast? = some ']' then
    match Ipv6.parse? cs.dropLast with
    | some pieces => .ok (.ipv6 pieces)
    | none => .error .invalidIpv6
  else .error .invalidIpv6

/-- A host under a special scheme. -/
def parseDomain (cs : List Char) : Except Error Host :=
  match cs with
  | '[' :: r => parseBracketed r
  | _ =>
    match Idna.toAscii? (Percent.decode cs) with
    | none => .error .invalidDomainName
    | some domain =>
      if domain.isEmpty then .error .emptyHost
      else if Ipv4.isNumeric domain then
        match Ipv4.parse? domain with
        | some address => .ok (.ipv4 address)
        | none => .error .invalidIpv4
      else .ok (.name domain)

/-- A character that no name of a host holds. -/
def isDelimiter (c : Char) : Bool :=
  c ∈ ['\x00', '\t', '\n', '\r', ' ', '#', '/', ':', '<', '>', '?', '@', '[', '\\', ']', '^', '|']

/-- A host under a scheme that is not special. -/
def parseName (cs : List Char) : Except Error Host :=
  match cs with
  | '[' :: r => parseBracketed r
  | _ =>
    if cs.any isDelimiter then .error .invalidDomainCharacter
    else .ok (.name (Percent.encode EncodeSet.controls cs))

theorem parseBracketed_ne_name (cs text : List Char) : parseBracketed cs ≠ .ok (.name text) := by
  unfold parseBracketed
  split
  · split <;> simp
  · simp

theorem parseDomain_ne_empty (cs : List Char) : parseDomain cs ≠ .ok (.name []) := by
  unfold parseDomain
  split
  · exact parseBracketed_ne_name _ _
  · split
    · simp
    · rename_i domain _
      cases domain with
      | nil => simp
      | cons c r =>
        simp only [List.isEmpty_cons, Bool.false_eq_true, if_false]
        split
        · split <;> simp
        · simp

end Host

end ApprovalWatch.Url
