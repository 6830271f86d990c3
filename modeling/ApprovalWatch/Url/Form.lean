import ApprovalWatch.Url.Percent

/-!
# Form encoding

Name-value pairs as a query: pairs are joined by `&`, a name and its value by `=`, a space is
written `+`, and every byte outside letters, digits and `* - . _` as an escape.

Results:

* `pieces_cons_separator`: a separator ends a piece.
-/

namespace ApprovalWatch.Url.Form

/-! ## Writing -/

/-- A byte that stands for itself. -/
def isPlain (b : UInt8) : Bool :=
  (0x30 ≤ b && b ≤ 0x39) || (0x41 ≤ b && b ≤ 0x5A) || (0x61 ≤ b && b ≤ 0x7A)
    || b == 0x2A || b == 0x2D || b == 0x2E || b == 0x5F

/-- A byte of a name or value. -/
def encodeByte (b : UInt8) : List Char :=
  if isPlain b then [Char.ofNat b.toNat]
  else if b == 0x20 then ['+']
  else Percent.encodeByte b

/-- A name or value. -/
def encode (cs : List Char) : List Char :=
  (Utf8.encode cs).flatMap encodeByte

/-- A pair. -/
def encodePair (name value : List Char) : List Char :=
  encode name ++ '=' :: encode value

/-- The query with a pair after those that it holds. -/
def appendPair (query name value : List Char) : List Char :=
  if query.isEmpty then encodePair name value
  else query ++ '&' :: encodePair name value

/-! ## Reading -/

/-- The text cut at every separator. -/
def pieces (separator : Char) : List Char → List (List Char)
  | [] => [[]]
  | c :: r =>
    if c = separator then [] :: pieces separator r
    else
      match pieces separator r with
      | [] => [[c]]
      | p :: ps => (c :: p) :: ps

theorem pieces_cons_separator (separator : Char) (r : List Char) :
    pieces separator (separator :: r) = [] :: pieces separator r := by
  simp [pieces]

/-- A name or value read back. Bytes that are not well-formed text become U+FFFD. -/
def decode (cs : List Char) : List Char :=
  Utf8.decodeLossy (Percent.decode (cs.map fun c => if c = '+' then ' ' else c))

/-- The pair that a piece of a query holds. Without `=` the value is empty. -/
def decodePair (piece : List Char) : List Char × List Char :=
  (decode (piece.takeWhile (· ≠ '=')), decode ((piece.dropWhile (· ≠ '=')).drop 1))

/-- The pairs of a query, in order. Empty pieces are skipped. -/
def pairs (query : List Char) : List (List Char × List Char) :=
  ((pieces '&' query).filter (!·.isEmpty)).map decodePair

end ApprovalWatch.Url.Form
