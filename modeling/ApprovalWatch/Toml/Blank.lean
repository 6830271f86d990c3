/-!
# Blanks, comments and line ends

What stands between the parts of a settings file. A line ends with a line feed, before which a
carriage return may stand; a comment goes up to the end of its line.

Main results:

* `newline?_length`: what follows a line end is shorter.
-/

namespace ApprovalWatch.Toml

/-- A reader takes something from the front of a text and leaves the rest. -/
abbrev Reader (α : Type) := List Char → Option (α × List Char)

/-- A character that may stand in a comment: a tab, or anything printable or beyond ASCII. -/
def isCommentChar (c : Char) : Bool :=
  c = '\t' || (' ' ≤ c && c ≠ '\x7F')

/-- The text without the blanks and tabs it begins with. -/
def dropBlank (cs : List Char) : List Char :=
  cs.dropWhile fun c => c = ' ' || c = '\t'

/-- The text after a line end. -/
def newline? : List Char → Option (List Char)
  | '\n' :: r => some r
  | '\r' :: '\n' :: r => some r
  | _ => none

theorem newline?_length {cs r : List Char} (h : newline? cs = some r) : r.length < cs.length := by
  unfold newline? at h
  split at h <;> cases h <;> simp only [List.length_cons] <;> omega

/-- The text after the rest of a line that holds nothing more than a comment. -/
def endLine? (cs : List Char) : Option (List Char) :=
  let cs := dropBlank cs
  let cs := match cs with
    | '#' :: r => r.dropWhile isCommentChar
    | _ => cs
  if cs.isEmpty then some [] else newline? cs

/-- The text without blanks, line ends and comments in front. A comment that no line end follows
stays. -/
def dropFiller (cs : List Char) : List Char :=
  match cs with
  | [] => []
  | c :: r =>
    if c = ' ' ∨ c = '\t' ∨ c = '\n' then dropFiller r
    else if c = '#' then
      match _h : newline? (r.dropWhile isCommentChar) with
      | some rest => dropFiller rest
      | none => c :: r
    else
      match _h : newline? (c :: r) with
      | some rest => dropFiller rest
      | none => c :: r
termination_by cs.length
decreasing_by
  · simp
  · have := newline?_length _h
    have := (List.dropWhile_sublist isCommentChar (l := r)).length_le
    simp only [List.length_cons]
    omega
  · exact newline?_length _h

end ApprovalWatch.Toml
