import ApprovalWatch.Text.Blank
import ApprovalWatch.Text.Digits

/-!
# Timeouts

How long a session may wait, in whole seconds, and how a page spells it.

Main results:

* `clamp_le`: no timeout is longer than the longest one.
* `parse?_le`: nor is one that a page spells.
-/

namespace ApprovalWatch.Timeout

/-- The longest timeout: as many whole seconds as a timer of thirty-one bits counts in milliseconds
(`MAX_TIMEOUT_SECS`). -/
def maxSecs : Nat := 0x7FFFFFFF / 1000

/-- A timeout cut down to the longest one (the bound in `DeadlineGuard.new`). -/
def clamp (secs : Nat) : Nat :=
  min secs maxSecs

theorem clamp_le (secs : Nat) : clamp secs ≤ maxSecs :=
  Nat.min_le_right _ _

/-- The sign that a text begins with, which is negative for `-`, and the text after it (the signs
that `parse_redirect_seconds` strips). -/
def splitSign : List Char → Bool × List Char
  | '-' :: r => (true, r)
  | '+' :: r => (false, r)
  | cs => (false, cs)

/-- A number of seconds as a page spells it: white space, an optional sign, digits, and anything
after them (`parse_redirect_seconds`). Nothing is read without a digit; a negative number means that
no time is left. -/
def parse? (raw : String) : Option Nat :=
  let (negative, cs) := splitSign (Text.trimStart raw.toList)
  let digits := (Digits.span cs).1
  if digits.isEmpty then none
  else if negative then some 0
  else some (clamp (Digits.ofDigits 10 digits))

theorem parse?_le {raw : String} {secs : Nat} (h : parse? raw = some secs) : secs ≤ maxSecs := by
  simp only [parse?] at h
  split at h
  · simp at h
  · split at h <;> cases h
    · exact Nat.zero_le _
    · exact clamp_le _

end ApprovalWatch.Timeout
