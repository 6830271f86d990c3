import ApprovalWatch.Page
import ApprovalWatch.Settings.Basic
import ApprovalWatch.Timeout

/-!
# Deadlines

When a session is over at the latest. The page may say so, or else the settings do.
-/

namespace ApprovalWatch

/-- A deadline, in seconds from the start of a session (`DeadlineGuard`). -/
structure Deadline where
  secs : Nat
  secs_le : secs ≤ Timeout.maxSecs
  deriving DecidableEq, Repr

namespace Deadline

/-- The deadline after a timeout, cut down to the longest one (`DeadlineGuard.new`). -/
def ofSecs (secs : Nat) : Deadline :=
  ⟨Timeout.clamp secs, Timeout.clamp_le secs⟩

/-- The deadline in milliseconds (`DeadlineGuard.timeout`). -/
def ms (d : Deadline) : Nat :=
  1000 * d.secs

/-- The deadline of a page: the timeout that the page spells, or the one of the settings
(`DeadlineGuard.from_page`). -/
def ofPage (p : Page) (s : Settings) : Deadline :=
  let raw := p.attribute? s.page.countdownContainer s.page.redirectSecondsAttribute
  ofSecs ((raw.bind Timeout.parse?).getD s.deadline.timeoutSecs)

/-- The deadline of a session, if it has one (`guard` in `PollSession.drive`). -/
def ofSession? (p : Page) (s : Settings) : Option Deadline :=
  if s.deadline.enabled then some (ofPage p s) else none

/-! ## Waiting for it -/

/-- How waiting for a deadline ends: whether it was reached, and when (what `DeadlineGuard.expire`
gives). -/
structure Expiry where
  fired : Bool
  atMs : Nat
  deriving DecidableEq, Repr

/-- Waiting for a deadline from the instant `lateMs` on (`DeadlineGuard.expire`). A cancellation
that came before the waiting did wins over the deadline; of later instants the first decides, and
one that is past when the waiting begins comes just after the deadline was looked at. -/
def wait (d : Deadline) (lateMs : Nat) (cancelled : Bool) (cancelAtMs : Option Nat) : Expiry :=
  let due := max lateMs d.ms
  if cancelled then ⟨false, lateMs⟩
  else
    match cancelAtMs with
    | some c =>
      let c := max lateMs c
      if c < due then ⟨false, c⟩ else ⟨true, due⟩
    | none => ⟨true, due⟩

end Deadline

end ApprovalWatch
