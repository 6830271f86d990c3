import ApprovalWatch.Text.Digits

/-!
# Punycode

Text beyond ASCII written with letters, digits and hyphens: the ASCII characters in front, then a
chain of numbers of variable length, each of which says how far to go on, through all positions and
all characters, until the next insertion.

Results:

* `takeNumber_length`: reading a number uses up at least one digit.
-/

namespace ApprovalWatch.Idna.Punycode

/-! ## The number system -/

/-- The threshold of a digit under a bias: a smaller digit ends the number. `k` counts the places by
the base. -/
def threshold (k bias : Nat) : Nat :=
  if k ≤ bias + 1 then 1 else if bias + 26 ≤ k then 26 else k - bias

/-- How often a large distance is divided before it becomes a bias, with what is left of it. -/
def shrink (delta : Nat) : Nat × Nat :=
  if 455 < delta then
    let (k, rest) := shrink (delta / 35)
    (k + 36, rest)
  else (0, delta)
termination_by delta
decreasing_by omega

/-- The bias after a distance, with the number of characters so far. -/
def adapt (delta count : Nat) (isFirst : Bool) : Nat :=
  let halved := if isFirst then delta / 700 else delta / 2
  let (k, rest) := shrink (halved + halved / count)
  k + 36 * rest / (rest + 38)

/-- The value of a digit. -/
def digitValue? (c : Char) : Option Nat :=
  if 'a' ≤ c ∧ c ≤ 'z' then some (c.toNat - 97)
  else if 'A' ≤ c ∧ c ≤ 'Z' then some (c.toNat - 65)
  else if '0' ≤ c ∧ c ≤ '9' then some (c.toNat - 22)
  else none

/-- The digit of a value. -/
def digit (n : Nat) : Char :=
  if n < 26 then Char.ofNat (97 + n) else Char.ofNat (22 + n)

/-! ## Decoding -/

/-- Reads a number: its value, the rest, and nothing if a digit is missing or wrong. -/
def takeNumber (bias k weight value : Nat) : List Char → Option (Nat × List Char)
  | [] => none
  | c :: r =>
    match digitValue? c with
    | none => none
    | some d =>
      let value := value + d * weight
      let t := threshold k bias
      if 0x100000000 ≤ value then none
      else if d < t then some (value, r)
      else takeNumber bias (k + 36) (weight * (36 - t)) value r

theorem takeNumber_length {bias k weight value : Nat} {cs rest : List Char} {n : Nat}
    (h : takeNumber bias k weight value cs = some (n, rest)) : rest.length < cs.length := by
  induction cs generalizing k weight value with
  | nil => simp [takeNumber] at h
  | cons c r ih =>
    unfold takeNumber at h
    split at h
    · simp at h
    · simp only at h
      split at h
      · simp at h
      · split at h
        · simp only [Option.some.injEq, Prod.mk.injEq] at h
          simp [← h.2]
        · have := ih h
          simp only [List.length_cons]
          omega

/-- Makes the insertions that a chain of numbers describes. `out` is the text so far, `n` the last
character inserted and `i` the place after it. -/
def insertAll (out : List Char) (n i bias : Nat) (isFirst : Bool) (cs : List Char) :
    Option (List Char) :=
  if cs.isEmpty then some out
  else
    match h : takeNumber bias 36 1 0 cs with
    | none => none
    | some (delta, rest) =>
      let count := out.length + 1
      let n' := n + (i + delta) / count
      let i' := (i + delta) % count
      if n'.isValidChar then
        insertAll (out.take i' ++ Char.ofNat n' :: out.drop i') n' (i' + 1)
          (adapt delta count isFirst) false rest
      else none
termination_by cs.length
decreasing_by exact takeNumber_length h

/-- The ASCII characters in front of the last hyphen, and what follows it. -/
def splitBasic (cs : List Char) : List Char × List Char :=
  let after := (cs.reverse.takeWhile (· ≠ '-')).reverse
  (cs.take (cs.length - after.length - 1), after)

/-- The text that a written form stands for. -/
def decode? (cs : List Char) : Option (List Char) :=
  let (basic, chain) := splitBasic cs
  if basic.all (·.toNat < 128) then insertAll basic 128 0 72 true chain else none

/-! ## Encoding -/

/-- A number under a bias. -/
def writeNumber (bias k q : Nat) : List Char :=
  let t := threshold k bias
  if h : t ≤ q ∧ 0 < t ∧ t < 35 then
    digit (t + (q - t) % (36 - t)) :: writeNumber bias (k + 36) ((q - t) / (36 - t))
  else [digit q]
termination_by q
decreasing_by
  have := Nat.div_le_self (q - threshold k bias) (36 - threshold k bias)
  omega

/-- One pass over the text for the character `n`: every smaller one makes the distance grow, and
every `n` itself is written as the distance to it. The state is the distance, the bias, how many
characters are written, and whether none beyond ASCII was before. -/
def pass (n : Nat) : List Char → Nat × Nat × Nat × Bool → List Char × (Nat × Nat × Nat × Bool)
  | [], s => ([], s)
  | c :: r, (delta, bias, count, isFirst) =>
    if c.toNat < n then pass n r (delta + 1, bias, count, isFirst)
    else if c.toNat = n then
      let (out, s) := pass n r (0, adapt delta (count + 1) isFirst, count + 1, false)
      (writeNumber bias 36 delta ++ out, s)
    else pass n r (delta, bias, count, isFirst)

/-- The passes for the given characters, which are in order and include all beyond ASCII. `n` is the
first character not yet passed. -/
def passes (text : List Char) (n : Nat) : List Nat → Nat × Nat × Nat × Bool → List Char
  | [], _ => []
  | m :: ms, (delta, bias, count, isFirst) =>
    let s := (delta + (m - n) * (count + 1), bias, count, isFirst)
    let (out, delta, rest) := pass m text s
    out ++ passes text (m + 1) ms (delta + 1, rest)

/-- The written form of a text. -/
def encode (cs : List Char) : List Char :=
  let basic := cs.filter (·.toNat < 128)
  let others := ((cs.map Char.toNat).filter (128 ≤ ·)).mergeSort.eraseDups
  let lead := if basic.isEmpty then [] else basic ++ ['-']
  lead ++ passes cs 128 others (0, 72, basic.length, true)

end ApprovalWatch.Idna.Punycode
