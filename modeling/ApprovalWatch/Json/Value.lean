import ApprovalWatch.Text.Digits

/-!
# JSON text

Values as they are reported, and their text: on one line, or with an entry to a line.
-/

namespace ApprovalWatch.Json

/-- A value of a report. -/
inductive Value where
  | null
  | boolean (value : Bool)
  | number (value : Nat)
  | string (value : String)
  | array (items : List Value)
  | object (members : List (String × Value))
  deriving Repr

/-- A character within quotes. -/
def escape (c : Char) : List Char :=
  if c = '"' then "\\\"".toList
  else if c = '\\' then "\\\\".toList
  else if c = '\x08' then "\\b".toList
  else if c = '\x0c' then "\\f".toList
  else if c = '\n' then "\\n".toList
  else if c = '\r' then "\\r".toList
  else if c = '\t' then "\\t".toList
  else if c < ' ' then
    "\\u00".toList ++ [Digits.lowerHex (c.toNat / 16), Digits.lowerHex (c.toNat % 16)]
  else [c]

/-- The inside of a quoted text. -/
def escapeAll (cs : List Char) : List Char :=
  cs.flatMap escape

/-- A text in quotes. -/
def quote (s : String) : String :=
  "\"" ++ String.ofList (escapeAll s.toList) ++ "\""

namespace Value

mutual

/-- The text of a value on one line. -/
def compact : Value → String
  | null => "null"
  | boolean b => if b then "true" else "false"
  | number n => toString n
  | string s => quote s
  | array vs => "[" ++ ",".intercalate (compactItems vs) ++ "]"
  | object ms => "\x7b" ++ ",".intercalate (compactMembers ms) ++ "\x7d"

/-- The texts of the items of an array. -/
def compactItems : List Value → List String
  | [] => []
  | v :: vs => compact v :: compactItems vs

/-- The texts of the members of an object. -/
def compactMembers : List (String × Value) → List String
  | [] => []
  | (k, v) :: ms => (quote k ++ ":" ++ compact v) :: compactMembers ms

end

/-- Lines between brackets, the lines further in by two blanks; `margin` is that of the brackets. -/
def block (left right margin : String) (entries : List String) : String :=
  if entries.isEmpty then left ++ right
  else
    left ++ "\n" ++ ",\n".intercalate (entries.map (margin ++ "  " ++ ·)) ++ "\n" ++ margin ++ right

mutual

/-- The text of a value with an entry to a line; `margin` stands in front of every further line. -/
def pretty (margin : String) : Value → String
  | null => "null"
  | boolean b => if b then "true" else "false"
  | number n => toString n
  | string s => quote s
  | array vs => block "[" "]" margin (prettyItems (margin ++ "  ") vs)
  | object ms => block "\x7b" "\x7d" margin (prettyMembers (margin ++ "  ") ms)

/-- The texts of the items of an array. -/
def prettyItems (margin : String) : List Value → List String
  | [] => []
  | v :: vs => pretty margin v :: prettyItems margin vs

/-- The texts of the members of an object. -/
def prettyMembers (margin : String) : List (String × Value) → List String
  | [] => []
  | (k, v) :: ms => (quote k ++ ": " ++ pretty margin v) :: prettyMembers margin ms

end

end Value

end ApprovalWatch.Json
