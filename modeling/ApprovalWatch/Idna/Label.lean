import ApprovalWatch.Unicode.Bidi
import ApprovalWatch.Unicode.Composition
import ApprovalWatch.Unicode.Joining
import ApprovalWatch.Unicode.Mapping
import ApprovalWatch.Unicode.Mark

/-!
# Labels of domain names

What the label of a domain name may hold, once its characters are mapped and normalised: it does not
begin with a mark, holds a joiner only where it makes a difference, and, in a name with a
character that is written from right to left, keeps to one direction.
-/

namespace ApprovalWatch.Idna

open Unicode

/-! ## Joiners -/

/-- Combining class of a mark that suppresses a vowel. -/
def viramaClass : Nat := 9

/-- The nearest character that is not transparent has one of the types. -/
def joinsWith (types : List JoiningType) (cs : List Char) : Bool :=
  ((cs.dropWhile (joiningType · = .transparent)).head?).any (joiningType · ∈ types)

/-- Every joiner follows a mark that suppresses a vowel, or, for the one that separates, stands
between characters that would be joined. `before` holds what precedes, the nearest first. -/
def joinersFit (before : List Char) : List Char → Bool
  | [] => true
  | c :: r =>
    let afterVirama := before.head?.any fun b => combiningClass b.toNat = viramaClass
    let fits :=
      if c = '\u200D' then afterVirama
      else if c = '\u200C' then
        afterVirama || (joinsWith [.left, .dual] before && joinsWith [.right, .dual] r)
      else true
    fits && joinersFit (c :: before) r

/-! ## Direction -/

/-- A character that is written from right to left, or a number of a script that is. -/
def isRightToLeft (c : Char) : Bool :=
  bidiClass c ∈ [.rightToLeft, .arabicLetter, .arabicNumber]

/-- The class of the last character that is not a nonspacing mark. -/
def lastClass (cs : List Char) : Option BidiClass :=
  (cs.reverse.map bidiClass).find? (· ≠ .nonspacingMark)

/-- Classes that a label of either direction may hold. -/
def commonClasses : List BidiClass :=
  [.europeanNumber, .europeanSeparator, .commonSeparator, .europeanTerminator, .neutral,
    .boundaryNeutral, .nonspacingMark]

/-- The label keeps to the direction of its first character. -/
def keepsDirection (label : List Char) : Bool :=
  let classes := label.map bidiClass
  match classes with
  | [] => true
  | .leftToRight :: _ =>
    classes.all (fun k => k = .leftToRight || k ∈ commonClasses)
      && (lastClass label).any (fun k => k = .leftToRight || k = .europeanNumber)
  | .rightToLeft :: _ | .arabicLetter :: _ =>
    classes.all (fun k => k ∈ [.rightToLeft, .arabicLetter, .arabicNumber] || k ∈ commonClasses)
      && (lastClass label).any
        (fun k => k ∈ [.rightToLeft, .arabicLetter, .europeanNumber, .arabicNumber])
      && !(.europeanNumber ∈ classes && .arabicNumber ∈ classes)
  | _ => false

/-! ## Labels -/

/-- A label that may stand in a domain name, its direction apart. -/
def isValid (label : List Char) : Bool :=
  !label.head?.any isMark && joinersFit [] label

end ApprovalWatch.Idna
