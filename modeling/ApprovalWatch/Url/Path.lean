import ApprovalWatch.Url.Basic

/-!
# Paths

A path is read segment by segment. The segments `.` and `..`, also in escaped form, are resolved
while reading: the first is dropped, the second takes the segment before it away. A drive letter
is never taken away, and in a file URL it is written with a colon.
-/

namespace ApprovalWatch.Url.Path

/-- The segment `.`, which stays where it is. -/
def isHere (segment : List Char) : Bool :=
  segment.map Char.toLower ∈ [".".toList, "%2e".toList]

/-- The segment `..`, which goes one up. -/
def isUp (segment : List Char) : Bool :=
  segment.map Char.toLower ∈ ["..".toList, "%2e%2e".toList, "%2e.".toList, ".%2e".toList]

/-- A letter with a colon or a bar after it. -/
def isDrive : List Char → Bool
  | [a, b] => a.isAlpha && (b = ':' || b = '|')
  | _ => false

/-- A letter with a colon after it. -/
def isPlainDrive : List Char → Bool
  | [a, ':'] => a.isAlpha
  | _ => false

/-- A drive letter in the form in which a file URL holds it. -/
def plainDrive : List Char → List Char
  | [a, _] => [a, ':']
  | segment => segment

/-- The segments without the last one, which is nearest; a drive letter stays. -/
def up : List (List Char) → List (List Char)
  | [] => []
  | s :: ss => if isDrive s then s :: ss else ss

/-- The segments after going through further ones. `done` holds those passed, the nearest first.
A step as the last segment leaves an empty segment behind. -/
def walk (kind : SchemeKind) : List (List Char) → List (List Char) → List (List Char)
  | done, [] => done.reverse
  | done, s :: rest =>
    let land := fun (ss : List (List Char)) => if rest.isEmpty then [] :: ss else ss
    if isUp s then walk kind (land (up done)) rest
    else if isHere s then walk kind (land done) rest
    else if kind = .file ∧ done = [] ∧ isDrive s then walk kind [plainDrive s] rest
    else walk kind (s :: done) rest

/-- A character that separates segments. -/
def isSeparator (kind : SchemeKind) (c : Char) : Bool :=
  c = '/' || (c = '\\' && kind ≠ .other)

/-- The segments of a text. -/
def split (kind : SchemeKind) (cs : List Char) : List (List Char) :=
  (Form.pieces '/' (cs.map fun c => if isSeparator kind c then '/' else c)).map
    (Percent.encode EncodeSet.path)

/-- A file URL holds no empty segment in front of others. -/
def dropLeadingEmpty : List (List Char) → List (List Char)
  | [] :: s :: ss => dropLeadingEmpty (s :: ss)
  | ss => ss

/-- The path that a text after a slash spells, beneath the segments `above`, nearest first. -/
def read (kind : SchemeKind) (above : List (List Char)) (cs : List Char) : List (List Char) :=
  let ss := walk kind above (split kind cs)
  if kind = .file then dropLeadingEmpty ss else ss

/-- The text without a separator in front. -/
def dropSeparator (kind : SchemeKind) : List Char → List Char
  | c :: r => if isSeparator kind c then r else c :: r
  | [] => []

/-- The path that follows an authority. Only a scheme that is not special leaves it empty. -/
def readAfterAuthority (kind : SchemeKind) (cs : List Char) : List (List Char) :=
  if kind = .other ∧ cs = [] then [] else read kind [] (dropSeparator kind cs)

/-- The segments in which the last segment of a path is looked for, nearest first. -/
def parent (kind : SchemeKind) (segments : List (List Char)) : List (List Char) :=
  match segments.reverse with
  | [] => []
  | s :: ss => if kind = .file ∧ isPlainDrive s then s :: ss else ss

end ApprovalWatch.Url.Path
