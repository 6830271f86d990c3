import ApprovalWatch.Decimal.Shortest
import ApprovalWatch.Deadline

/-!
# Countdowns

The seconds that are left, shown as a number and as the width of a bar. The number goes down by one
every second, and ticks that were missed are made up at once. On cancellation the display freezes,
except that zero is still shown if the time is up.
-/

namespace ApprovalWatch

/-! ## Writes -/

/-- What a countdown writes to: the text of an element or its width. -/
inductive Surface where
  | text
  | width
  deriving DecidableEq, Repr

/-- The name of a surface. -/
def Surface.name : Surface → String
  | text => "text"
  | width => "width"

/-- A write to an element of the page at an instant. -/
structure Write where
  atMs : Nat
  surface : Surface
  element : String
  value : String
  deriving DecidableEq, Repr

/-- The page after a write. -/
def Page.apply (p : Page) (w : Write) : Page :=
  match w.surface with
  | .text => p.setText w.element w.value
  | .width => p.setWidth w.element w.value

/-- The part of the total that is left, in percent (`progress_percent`). -/
def progressPercent (left total : Nat) : Binary64 :=
  if total = 0 then Binary64.ofNat 0
  else Binary64.ofNat left / Binary64.ofNat total * Binary64.ofNat 100

/-! ## Countdowns -/

/-- A countdown from a total, with the number that is shown, if one is (`Countdown`). -/
structure Countdown where
  total : Nat
  shown : Option Nat := none
  deriving DecidableEq, Repr

namespace Countdown

/-- The countdown of a total, which is cut down to the longest timeout (`Countdown.new`). -/
def ofSecs (secs : Nat) : Countdown :=
  ⟨Timeout.clamp secs, none⟩

/-- The instant at which the time is up. -/
def deadlineMs (c : Countdown) : Nat :=
  1000 * c.total

/-- The writes that show that `left` seconds are left (`Countdown.render`). -/
def render (names : PageNames) (c : Countdown) (nowMs left : Nat) : List Write :=
  [⟨nowMs, .text, names.countdownNumber, toString left⟩,
    ⟨nowMs, .width, names.countdownBar, Decimal.shortest (progressPercent left c.total) ++ "%"⟩]

/-- The number to be shown next: the total, and then one less each time, down to zero. -/
def next? (c : Countdown) : Option Nat :=
  match c.shown with
  | none => some c.total
  | some 0 => none
  | some (left + 1) => some left

/-- The instant at which it is due. -/
def due? (c : Countdown) : Option Nat :=
  c.next?.map fun left => 1000 * (c.total - left)

/-- The countdown after it showed the next number, and the writes for it (the branch of a tick in
`Countdown.run`). -/
def tick (names : PageNames) (c : Countdown) (nowMs : Nat) : Countdown × List Write :=
  match c.next? with
  | none => (c, [])
  | some left => ({ c with shown := some left }, c.render names nowMs left)

/-- The countdown after every number that is due was shown, and the writes for them. -/
def catchUp (names : PageNames) (nowMs : Nat) : Nat → Countdown → Countdown × List Write
  | 0, c => (c, [])
  | fuel + 1, c =>
    if c.due?.any (· ≤ nowMs) then
      let (c, writes) := c.tick names nowMs
      let (c, more) := catchUp names nowMs fuel c
      (c, writes ++ more)
    else (c, [])

/-- The countdown at a cancellation, and the writes that are still made: the first number, if none
was shown, and zero, if the time is up (the branch of a cancellation in `Countdown.run`). -/
def close (names : PageNames) (c : Countdown) (nowMs : Nat) : Countdown × List Write :=
  let (c, first) := if c.shown.isNone then c.tick names nowMs else (c, [])
  if c.shown.any (0 < ·) && c.deadlineMs ≤ nowMs then
    ({ c with shown := some 0 }, first ++ c.render names nowMs 0)
  else (c, first)

/-! ## A countdown on its own -/

/-- What a finished countdown wrote, and when it ended. -/
structure Run where
  writes : List Write
  endMs : Nat
  deriving DecidableEq, Repr

/-- The countdown from an instant on at which it looks at the clock, until zero is shown or the
cancellation comes (the loop of `Countdown.run`). -/
def runFrom (names : PageNames) (cancelMs : Option Nat) : Nat → Countdown → Nat → Run
  | 0, _, nowMs => ⟨[], nowMs⟩
  | fuel + 1, c, nowMs =>
    let (c, writes) := c.catchUp names nowMs (c.total + 1)
    match c.due? with
    | none => ⟨writes, nowMs⟩
    | some dueMs =>
      match cancelMs with
      | some cancelMs =>
        if max nowMs cancelMs < dueMs then
          let endMs := max nowMs cancelMs
          ⟨writes ++ (c.close names endMs).2, endMs⟩
        else
          let rest := runFrom names (some cancelMs) fuel c dueMs
          ⟨writes ++ rest.writes, rest.endMs⟩
      | none =>
        let rest := runFrom names none fuel c dueMs
        ⟨writes ++ rest.writes, rest.endMs⟩

/-- A countdown that is begun at `lateMs` (`Countdown.run`). A cancellation that came before leaves
it no tick; one that is past only by the clock comes once the ticks that were missed are made up. -/
def run (names : PageNames) (c : Countdown) (lateMs : Nat) (cancelled : Bool)
    (cancelAtMs : Option Nat) : Run :=
  if cancelled then ⟨(c.close names lateMs).2, lateMs⟩
  else runFrom names cancelAtMs (c.total + 2) c lateMs

end Countdown

end ApprovalWatch
