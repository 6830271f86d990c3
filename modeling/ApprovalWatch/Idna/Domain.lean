import ApprovalWatch.Idna.Label
import ApprovalWatch.Idna.Punycode
import ApprovalWatch.Text.Utf8

/-!
# Domain names in ASCII

A domain name is mapped to its normal form, cut into labels and checked; a label beyond ASCII is
written in punycode after `xn--`, and a label given that way is decoded and held to the same rules.

Results:

* `toAscii?_of_plain`: a name of ASCII letters, digits, points and the like is put into lower case.
-/

namespace ApprovalWatch.Idna

open Unicode

/-- An ASCII character that no domain name holds. -/
def isDenied (c : Char) : Bool :=
  c ≤ ' ' || c = '\x7F'
    || c ∈ ['%', '#', '/', ':', '<', '>', '?', '@', '[', '\\', ']', '^', '|']

/-- ASCII text. -/
def isAscii (cs : List Char) : Bool :=
  cs.all (·.toNat < 128)

/-- The labels between the points. -/
def labels (cs : List Char) : List (List Char) :=
  cs.foldr
    (fun c ls =>
      match ls with
      | [] => [[c]]
      | l :: rest => if c = '.' then [] :: l :: rest else (c :: l) :: rest)
    [[]]

/-- The labels with points between them. -/
def join (ls : List (List Char)) : List Char :=
  ['.'].intercalate ls

/-- The mark of a label in punycode. -/
def mark : List Char :=
  "xn--".toList

/-- A label that is given in punycode. -/
def isEncoded (label : List Char) : Bool :=
  (label.take 4).map Char.toLower = mark

/-- What a label given in punycode stands for. It has to be beyond ASCII and in the form that it
would be brought into. -/
def decodeLabel? (label : List Char) : Option (List Char) := do
  let written := label.drop 4
  guard (!written.isEmpty && written.getLast? ≠ some '-' && written.length ≤ 2000)
  let text ← Punycode.decode? written
  guard (!isAscii text)
  guard (text.all fun c => mapChar c = some [c])
  guard (normalize text = text)
  return text

/-- A label as text, and whether it was given in punycode. -/
def readLabel? (label : List Char) : Option (List Char) :=
  if isEncoded label then decodeLabel? label else some label

/-- A label in ASCII. -/
def writeLabel? (label : List Char) : Option (List Char) :=
  if isAscii label then some label
  else if label.length ≤ 1000 then some (mark ++ Punycode.encode label)
  else none

/-- The name in ASCII, if it is a domain name. -/
def processed? (cs : List Char) : Option (List Char) := do
  let mapped ← cs.mapM mapChar
  let text ← (labels (normalize mapped.flatten)).mapM readLabel?
  guard (text.all isValid)
  guard (!text.any (·.any isRightToLeft) || text.all keepsDirection)
  guard (!text.any (·.any isDenied))
  return join (← text.mapM writeLabel?)

/-- The domain name that bytes spell, in ASCII and lower case (`domain_to_ascii`). -/
def toAscii? (bytes : List UInt8) : Option (List Char) :=
  (Utf8.decode? bytes).bind fun cs =>
    if isAscii cs && !(labels cs).any isEncoded then
      if cs.any isDenied then none else some (cs.map Char.toLower)
    else processed? cs

theorem toAscii?_of_plain {bytes : List UInt8} {cs : List Char} (hc : Utf8.decode? bytes = some cs)
    (ha : isAscii cs = true) (he : (labels cs).any isEncoded = false)
    (hd : cs.any isDenied = false) : toAscii? bytes = some (cs.map Char.toLower) := by
  simp only [toAscii?, hc, Option.bind_some, ha, he, hd, Bool.not_false, Bool.and_self, if_true,
    Bool.false_eq_true, if_false]

end ApprovalWatch.Idna
