import ApprovalWatch.Json.Token

/-!
# Skipping JSON values

A value of any kind and depth is passed over by a machine that keeps a stack of the arrays and
objects it is in.

Main results:

* `skip_length`: skipping leaves no more tokens than there were.
-/

namespace ApprovalWatch.Json

/-- What a value that is not complete yet stands in. -/
inductive Frame where
  | array
  | object
  deriving DecidableEq, Repr

/-- What comes next. -/
inductive Goal where
  | value
  | firstItem
  | firstMember
  | member
  | colon
  | next
  deriving DecidableEq, Repr

/-- The machine after the token that a value begins with. -/
def begin? (frames : List Frame) : Token → Option (List Frame × Goal)
  | .text _ | .scalar => some (frames, .next)
  | .leftBracket => some (.array :: frames, .firstItem)
  | .leftBrace => some (.object :: frames, .firstMember)
  | _ => none

/-- The machine after a token. -/
def step? : List Frame × Goal → Token → Option (List Frame × Goal)
  | (frames, .value), t => begin? frames t
  | (.array :: frames, .firstItem), .rightBracket => some (frames, .next)
  | (frames, .firstItem), t => begin? frames t
  | (.object :: frames, .firstMember), .rightBrace => some (frames, .next)
  | (frames, .firstMember), .text _ => some (frames, .colon)
  | (frames, .member), .text _ => some (frames, .colon)
  | (frames, .colon), .colon => some (frames, .value)
  | (.array :: frames, .next), .comma => some (.array :: frames, .value)
  | (.array :: frames, .next), .rightBracket => some (frames, .next)
  | (.object :: frames, .next), .comma => some (.object :: frames, .member)
  | (.object :: frames, .next), .rightBrace => some (frames, .next)
  | _, _ => none

/-- The machine has passed over a whole value. -/
def isDone (s : List Frame × Goal) : Bool :=
  s = ([], .next)

/-- The tokens after the value that the machine is in. -/
def skipFrom (s : List Frame × Goal) : List Token → Option (List Token)
  | [] => if isDone s then some [] else none
  | t :: ts =>
    if isDone s then some (t :: ts)
    else
      match step? s t with
      | some s' => skipFrom s' ts
      | none => none

/-- The tokens after the value that they begin with. -/
def skip (ts : List Token) : Option (List Token) :=
  skipFrom ([], .value) ts

theorem skipFrom_length {s : List Frame × Goal} {ts rest : List Token}
    (h : skipFrom s ts = some rest) : rest.length ≤ ts.length := by
  induction ts generalizing s with
  | nil =>
    unfold skipFrom at h
    split at h
    · cases h; simp
    · simp at h
  | cons t ts ih =>
    unfold skipFrom at h
    split at h
    · cases h; simp
    · split at h
      · have := ih h
        simp only [List.length_cons]
        omega
      · simp at h

theorem skip_length {ts rest : List Token} (h : skip ts = some rest) : rest.length ≤ ts.length :=
  skipFrom_length h

end ApprovalWatch.Json
