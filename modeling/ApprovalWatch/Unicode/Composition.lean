import ApprovalWatch.Unicode.CompositionData

/-!
# Normal form C

A text in which every character is composed of as much as possible. A text is decomposed, its
combining characters are put into the order of their classes, and what follows is composed again.
The decomposition knows the characters that composition yields; any other character with a
canonical decomposition never stands in a domain name.
-/

namespace ApprovalWatch.Unicode

/-! ## Syllables

The syllables of Hangul are composed by arithmetic: of a leading consonant and a vowel, and of
these and a trailing consonant. -/

/-- The first syllable. -/
def syllableBase : Nat := 0xAC00

/-- The number of syllables. -/
def syllableCount : Nat := 11172

/-- The pair that a syllable is composed of. -/
def syllablePair? (n : Nat) : Option (Nat × Nat) :=
  if n < syllableBase ∨ syllableBase + syllableCount ≤ n then none
  else
    let i := n - syllableBase
    if i % 28 = 0 then some (0x1100 + i / 588, 0x1161 + i % 588 / 28)
    else some (n - i % 28, 0x11A7 + i % 28)

/-- The syllable that a pair composes. -/
def syllable? (a b : Nat) : Option Nat :=
  if 0x1100 ≤ a ∧ a < 0x1113 ∧ 0x1161 ≤ b ∧ b < 0x1176 then
    some (syllableBase + ((a - 0x1100) * 21 + (b - 0x1161)) * 28)
  else if syllableBase ≤ a ∧ a < syllableBase + syllableCount ∧ (a - syllableBase) % 28 = 0
      ∧ 0x11A7 < b ∧ b < 0x11C3 then
    some (a + (b - 0x11A7))
  else none

/-! ## Decomposition and composition -/

/-- The combining class of a character. -/
def combiningClass (n : Nat) : Nat :=
  match combiningRanges.find? n with
  | some #[_, _, k] => k
  | _ => 0

/-- The pair that a character is composed of. -/
def pair? (n : Nat) : Option (Nat × Nat) :=
  match syllablePair? n with
  | some p => some p
  | none =>
    match composites.find? n with
    | some #[_, _, a, b] => some (a, b)
    | _ => none

/-- The character that a pair composes. -/
def compose? (a b : Nat) : Option Nat :=
  match syllable? a b with
  | some n => some n
  | none =>
    match compositionPairs.find? (a * 0x200000 + b) with
    | some #[_, _, c] => some c
    | _ => none

/-- The full decomposition of a character, up to the given depth. Only the first part of a pair is
composed in turn. -/
def decompose : Nat → Nat → List Nat
  | 0, n => [n]
  | depth + 1, n =>
    match pair? n with
    | some (a, b) => decompose depth a ++ [b]
    | none => [n]

/-- Puts a character into a run of combining characters, after those of its class or a lower one.
The run is given from its end. -/
def insertCombining (n : Nat) : List Nat → List Nat
  | [] => [n]
  | m :: r =>
    if combiningClass n ≠ 0 ∧ combiningClass n < combiningClass m then m :: insertCombining n r
    else n :: m :: r

/-- The characters with every run of combining characters in the order of their classes. -/
def reorder (ns : List Nat) : List Nat :=
  (ns.foldl (fun done n => insertCombining n done) []).reverse

/-- Composes the characters that follow a starter with it. `passed` holds those that stay between,
from the last one, and `blocked` tells the highest class among them; a starter between blocks
everything. -/
def composeFrom (starter : Nat) (passed : List Nat) (blocked : Option Nat) : List Nat → List Nat
  | [] => starter :: passed.reverse
  | n :: r =>
    let k := combiningClass n
    let free := match blocked with
      | none => true
      | some b => b < k
    match if free then compose? starter n else none with
    | some c => composeFrom c passed blocked r
    | none =>
      if k = 0 then starter :: passed.reverse ++ composeFrom n [] none r
      else composeFrom starter (n :: passed) (some k) r

/-- The characters composed. Combining characters in front have nothing to be composed with. -/
def composeAll : List Nat → List Nat
  | [] => []
  | n :: r => if combiningClass n = 0 then composeFrom n [] none r else n :: composeAll r

/-- The text in normal form C. -/
def normalize (cs : List Char) : List Char :=
  (composeAll (reorder (cs.flatMap fun c => decompose 4 c.toNat))).map Char.ofNat

end ApprovalWatch.Unicode
