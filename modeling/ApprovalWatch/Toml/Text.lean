import ApprovalWatch.Text.Digits
import ApprovalWatch.Toml.Blank

/-!
# Texts and keys

Texts in double quotes may hold escapes, texts in single quotes hold what is written. In three
quotes of either kind a text may go over several lines.

Main results:

* `escape?_length`: reading an escape makes the text shorter.
-/

namespace ApprovalWatch.Toml

/-! ## Escapes -/

/-- The character of a number of digits of base sixteen. -/
def codePoint? (digits : List Char) : Option Char :=
  let n := Digits.ofDigits 16 digits
  if digits.all Digits.isHex && n.isValidChar then some (Char.ofNat n) else none

/-- The character of an escape, from what follows its backslash. -/
def escape? : Reader Char
  | 'b' :: r => some ('\x08', r)
  | 't' :: r => some ('\t', r)
  | 'n' :: r => some ('\n', r)
  | 'f' :: r => some ('\x0c', r)
  | 'r' :: r => some ('\r', r)
  | '"' :: r => some ('"', r)
  | '\\' :: r => some ('\\', r)
  | 'u' :: r =>
    if 4 ≤ r.length then (codePoint? (r.take 4)).map (·, r.drop 4) else none
  | 'U' :: r =>
    if 8 ≤ r.length then (codePoint? (r.take 8)).map (·, r.drop 8) else none
  | _ => none

theorem escape?_length {cs : List Char} {p : Char × List Char} (h : escape? cs = some p) :
    p.2.length < cs.length := by
  unfold escape? at h
  split at h
  case h_8 | h_9 =>
    split at h
    · obtain ⟨c, -, rfl⟩ := Option.map_eq_some_iff.1 h
      simp only [List.length_drop, List.length_cons]
      omega
    · simp at h
  all_goals first
    | (cases h; simp)
    | simp at h

/-! ## Texts on one line -/

/-- A character that stands for itself in double quotes. -/
def isBasicChar (c : Char) : Bool :=
  isCommentChar c && c ≠ '"' && c ≠ '\\'

/-- A character that stands for itself in single quotes. -/
def isLiteralChar (c : Char) : Bool :=
  isCommentChar c && c ≠ '\''

/-- The rest of a text in double quotes. -/
def basic (cs : List Char) : Option (List Char × List Char) :=
  match cs with
  | [] => none
  | c :: r =>
    if c = '"' then some ([], r)
    else if c = '\\' then
      match _h : escape? r with
      | some (e, rest) => (basic rest).map fun p => (e :: p.1, p.2)
      | none => none
    else if isBasicChar c then (basic r).map fun p => (c :: p.1, p.2)
    else none
termination_by cs.length
decreasing_by
  · have := escape?_length _h
    simp only [List.length_cons] at *
    omega
  · simp

/-- The rest of a text in single quotes. -/
def literal : Reader (List Char)
  | [] => none
  | c :: r =>
    if c = '\'' then some ([], r)
    else if isLiteralChar c then (literal r).map fun p => (c :: p.1, p.2)
    else none

/-! ## Texts on several lines -/

/-- The number of quotes that a text begins with. -/
def countQuotes (quote : Char) (cs : List Char) : Nat :=
  (cs.takeWhile (· = quote)).length

/-- Three quotes end a text; up to two more before them belong to it. -/
def closing? (quote : Char) : Reader (List Char) := fun cs =>
  let n := min 5 (countQuotes quote cs)
  if 3 ≤ n then some (List.replicate (n - 3) quote, cs.drop n) else none

/-- The text without the blanks and line ends that it begins with. -/
def dropBlankLines : List Char → List Char
  | '\n' :: r | '\r' :: '\n' :: r | ' ' :: r | '\t' :: r => dropBlankLines r
  | cs => cs

/-- The text after a backslash at the end of a line: blanks and line ends are passed over up to the
next character. -/
def continued? (cs : List Char) : Option (List Char) :=
  (newline? (dropBlank cs)).map dropBlankLines

/-- The rest of a text in three quotes. `escapes` tells whether a backslash is special. A line end
is read as a line feed. -/
def multiline (quote : Char) (escapes : Bool) (cs : List Char) : Option (List Char × List Char) :=
  match cs with
  | [] => none
  | c :: r =>
    let go := fun (here rest : List Char) =>
      if rest.length < (c :: r).length then
        (multiline quote escapes rest).map fun p => (here ++ p.1, p.2)
      else none
    if c = quote then
      match closing? quote (c :: r) with
      | some done => some done
      | none => go [c] r
    else if escapes ∧ c = '\\' then
      match continued? r with
      | some rest => go [] rest
      | none =>
        match escape? r with
        | some (e, rest) => go [e] rest
        | none => none
    else
      match newline? (c :: r) with
      | some rest => go ['\n'] rest
      | none => if isCommentChar c then go [c] r else none
termination_by cs.length
decreasing_by assumption

/-- The text without a line end in front. -/
def dropNewline (cs : List Char) : List Char :=
  (newline? cs).getD cs

/-! ## Texts and keys -/

/-- A text that begins with a quote. -/
def text? : Reader String := fun cs =>
  let result := match cs with
    | '"' :: '"' :: '"' :: r => multiline '"' true (dropNewline r)
    | '"' :: r => basic r
    | '\'' :: '\'' :: '\'' :: r => multiline '\'' false (dropNewline r)
    | '\'' :: r => literal r
    | _ => none
  result.map fun p => (String.ofList p.1, p.2)

/-- A character of a key without quotes. -/
def isBareChar (c : Char) : Bool :=
  c.isAlphanum || c = '_' || c = '-'

/-- One part of a key. -/
def keyPart? : Reader String := fun cs =>
  let result := match cs with
    | '"' :: r => basic r
    | '\'' :: r => literal r
    | _ =>
      let bare := cs.takeWhile isBareChar
      if bare.isEmpty then none else some (bare, cs.dropWhile isBareChar)
  result.map fun p => (String.ofList p.1, p.2)

/-- The parts of a key, between points. Blanks around a part are passed over. -/
def keyParts? (cs : List Char) : Option (List String × List Char) :=
  match keyPart? (dropBlank cs) with
  | none => none
  | some (part, rest) =>
    match dropBlank rest with
    | '.' :: more =>
      if more.length < cs.length then (keyParts? more).map fun p => (part :: p.1, p.2) else none
    | rest => some ([part], rest)
termination_by cs.length

/-- The most parts of a key, and the most arrays and tables within each other. -/
def maxDepth : Nat := 79

/-- A key: the keys of the tables it leads through, and the key in the last of them. -/
def key? : Reader (List String × String) := fun cs =>
  match keyParts? cs with
  | some (parts, rest) =>
    if parts.length ≤ maxDepth then parts.getLast?.map fun last => ((parts.dropLast, last), rest)
    else none
  | none => none

end ApprovalWatch.Toml
