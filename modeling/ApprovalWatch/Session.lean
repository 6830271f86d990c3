import ApprovalWatch.Attempts
import ApprovalWatch.Countdown
import ApprovalWatch.Json.Value
import ApprovalWatch.Latch

/-!
# Sessions

The wait of one page for one operation: attempts to learn its status, a deadline, a countdown on the
page, and a host that may cancel. Time is counted in milliseconds from the start and goes from one
instant at which something is due to the next. The parts that are due at the same instant act one
after the other; whichever concludes the session first stops all others.

Main results:

* `conclude_of_running`: whatever is offered first is settled.
-/

namespace ApprovalWatch

/-! ## Scenarios -/

/-- A change of the page while a session runs: an input field is set, or taken away. -/
structure Change where
  atMs : Nat
  name : String
  value : Option String
  deriving DecidableEq, Repr

/-- The page after a change. -/
def Page.change (p : Page) (c : Change) : Page :=
  match c.value with
  | some value => p.setInput c.name value
  | none => p.removeInput c.name

/-- What a session is given. The first `hiddenReads` looks at the identifier field find nothing. -/
structure Scenario (σ : Type) where
  settings : Settings
  page : Page
  hiddenReads : Nat := 0
  timeline : List Change := []
  source : σ
  cancelled : Bool := false
  cancelAtMs : Option Nat := none

/-- What acts in a session, the change of the page included. -/
inductive Part where
  | inquiry
  | deadline
  | countdown
  | host
  | page
  deriving DecidableEq, Repr

/-- The parts in the order in which they act at an instant, for every instant. -/
abbrev Order := Nat → List Part

/-- The order in which the parts of the session go before what is outside of it. -/
def Order.usual : Order :=
  fun _ => [.inquiry, .deadline, .countdown, .host, .page]

/-! ## States -/

/-- A session under way (`PollSession.drive` between two of its awaits). What is written and done is
kept with the latest first. -/
structure Session (σ : Type) where
  settings : Settings
  nowMs : Nat
  page : Page
  hiddenReads : Nat
  timeline : List Change
  attempts : Attempts σ
  deadline : Option Deadline
  countdown : Option Countdown
  cancelAtMs : Option Nat
  cancelled : Bool
  latch : Latch Conclusion
  actions : List PageAction
  writes : List Write

namespace Session

variable {σ : Type}

/-- The session at its start (`PollSession.drive` up to its first await). -/
def start (c : Scenario σ) : Session σ :=
  let deadline := Deadline.ofSession? c.page c.settings
  { settings := c.settings
    nowMs := 0
    page := c.page
    hiddenReads := c.hiddenReads
    timeline := c.timeline
    attempts := { source := c.source }
    deadline
    countdown :=
      if c.settings.deadline.countdown then deadline.map fun d => Countdown.ofSecs d.secs else none
    cancelAtMs := c.cancelAtMs
    cancelled := c.cancelled
    latch := {}
    actions := []
    writes := [] }

/-! ## Concluding -/

/-- The session with a conclusion settled: the page is left accordingly, the end is counted, and
whatever still runs is cancelled (the rest of `PollSession.conclude` once the outcome has won). -/
def settle (t : Session σ) (c : Conclusion) : Session σ :=
  { t with
    latch := (t.latch.settle c).1
    actions := c.action :: t.actions
    attempts := { t.attempts with journal := t.attempts.journal.measure (.session c.kind c.code) }
    cancelled := true }

/-- Offers a conclusion (`PollSession.conclude`). The first one is settled, unless the session was
cancelled before. -/
def conclude (t : Session σ) (c : Conclusion) : Session σ :=
  if t.cancelled || !(t.latch.settle c).2 then t else t.settle c

theorem conclude_of_running {t : Session σ} (h : t.cancelled = false) (hl : t.latch.get? = none)
    (c : Conclusion) : t.conclude c = t.settle c := by
  simp_all [conclude, Latch.settle, Latch.get?]

/-! ## Parts -/

/-- The identifier that a look at the page finds now (`IdentifierResolver.resolve`). -/
def identifier? (t : Session σ) : Option String :=
  if 0 < t.hiddenReads then none else t.page.identifier? t.settings.page.identifierField

/-- The session with its attempts gone on, which used up a look at the page if one was due. -/
def proceed (t : Session σ) (attempts : Attempts σ) : Session σ :=
  { t with
    attempts
    hiddenReads := if t.attempts.isResting then t.hiddenReads - 1 else t.hiddenReads }

/-- The session after what the attempts had due was done (`poll` in `PollSession.drive`). -/
def actInquiry (ask : Source σ) (t : Session σ) : Session σ :=
  let (attempts, transition) := t.attempts.act t.settings ask t.nowMs t.identifier?
  match transition with
  | some (.resolve r) => (t.proceed attempts).conclude (t.settings.conclusion r)
  | _ => t.proceed attempts

/-- The session after its deadline was reached (`deadline` in `PollSession.drive`). -/
def actDeadline (t : Session σ) : Session σ :=
  { t with deadline := none }.conclude (t.settings.failed .deadlineExceeded)

/-- The session after the writes of its countdown. -/
def write (t : Session σ) (c : Countdown) (ws : List Write) : Session σ :=
  { t with
    countdown := some c
    page := ws.foldl Page.apply t.page
    writes := ws.reverse ++ t.writes }

/-- The session after a tick of its countdown (`display` in `PollSession.drive`). -/
def actCountdown (t : Session σ) : Session σ :=
  match t.countdown with
  | some c =>
    let (c, ws) := c.tick t.settings.page t.nowMs
    t.write c ws
  | none => t

/-- The session after its host cancelled it (`Cancellation.trigger` by the host). -/
def actHost (t : Session σ) : Session σ :=
  { t with cancelled := true, cancelAtMs := none }

/-- The session after the next change of its page. -/
def actPage (t : Session σ) : Session σ :=
  match t.timeline with
  | c :: rest => { t with page := t.page.change c, timeline := rest }
  | [] => t

/-- The instant at which a part has something to do next. -/
def due? (t : Session σ) : Part → Option Nat
  | .inquiry => t.attempts.due?
  | .deadline => t.deadline.map (·.ms)
  | .countdown => t.countdown.bind (·.due?)
  | .host => t.cancelAtMs
  | .page => t.timeline.head?.map (·.atMs)

/-- The session after a part did what it had due. -/
def perform (ask : Source σ) (t : Session σ) : Part → Session σ
  | .inquiry => t.actInquiry ask
  | .deadline => t.actDeadline
  | .countdown => t.actCountdown
  | .host => t.actHost
  | .page => t.actPage

/-- The session after it was a part's turn: nothing is done that is not due, or by a session that is
over. -/
def act (ask : Source σ) (t : Session σ) (p : Part) : Session σ :=
  if !t.cancelled && (t.due? p).any (· ≤ t.nowMs) then t.perform ask p else t

/-! ## Running -/

/-- All parts. -/
def parts : List Part :=
  [.inquiry, .deadline, .countdown, .host, .page]

/-- The next instant at which a part has something to do. -/
def next? (t : Session σ) : Option Nat :=
  (parts.filterMap t.due?).min?

/-- The session after everything that is due at its instant was done, in the given order. -/
def pass (order : Order) (ask : Source σ) (t : Session σ) : Session σ :=
  (order t.nowMs).foldl (act ask) t

/-- The session after its parts noticed that it is over: a query in flight is dropped, and the
countdown makes its last writes (what the parts of `PollSession.drive` do when they are
cancelled). -/
def close (t : Session σ) : Session σ :=
  let t := { t with attempts := t.attempts.abandon }
  match t.countdown with
  | some c =>
    let (c, ws) := c.close t.settings.page t.nowMs
    t.write c ws
  | none => t

/-- The session at its end, if it ends within a number of instants (`PollSession.run_with`). -/
def run (order : Order) (ask : Source σ) : Nat → Session σ → Option (Session σ)
  | 0, _ => none
  | fuel + 1, t =>
    if t.cancelled then some t.close
    else
      match t.next? with
      | none => none
      | some nextMs => run order ask fuel (pass order ask { t with nowMs := max t.nowMs nextMs })

/-- The session of a scenario ends as `t`. -/
def Finishes (order : Order) (ask : Source σ) (c : Scenario σ) (t : Session σ) : Prop :=
  ∃ fuel, run order ask fuel (start c) = some t

/-! ## Reports -/

/-- What is told about a finished session (`SessionReport`). -/
structure Report where
  flow : Flow
  identifier : Option String
  conclusion : Option Conclusion
  tally : Tally
  deadlineSecs : Option Nat
  elapsedMs : Nat
  deriving DecidableEq, Repr

/-- The report of a finished session of a scenario (`report` in `PollSession.drive`). -/
def report (c : Scenario σ) (t : Session σ) : Report where
  flow := t.settings.flow
  identifier := t.attempts.inquiry.lastIdentifier
  conclusion := t.latch.get?
  tally := t.attempts.inquiry.tally
  deadlineSecs := (Deadline.ofSession? c.page c.settings).map (·.secs)
  elapsedMs := t.nowMs

/-- The report as it is printed, without what differs from run to run. -/
def Report.toJson (r : Report) (elapsed : Bool) : Json.Value :=
  let orNull := fun (v : Option Json.Value) => v.getD .null
  .object
    ([("flow", .string r.flow.name),
      ("identifier", orNull (r.identifier.map .string)),
      ("conclusion", orNull (r.conclusion.map Conclusion.toJson)),
      ("stats", r.tally.toJson),
      ("deadline_secs", orNull (r.deadlineSecs.map .number))]
      ++ if elapsed then [("elapsed_ms", .number r.elapsedMs)] else [])

end Session

/-! ## Scripted sessions -/

/-- An upper bound on the instants of a session that is answered by a script of the given length and
ends: all that happens once is over after the last instant that is fixed in advance, and from then
on every attempt uses up a hidden look or an entry of the script. -/
def Scenario.instants {σ : Type} (c : Scenario σ) (entries : Nat) : Nat :=
  let fixed :=
    (c.timeline.map (·.atMs)).foldl max (max (c.cancelAtMs.getD 0)
      (((Deadline.ofSession? c.page c.settings).map (·.ms)).getD 0))
  let attempts := fixed / max 1 c.settings.retry.delayMs + entries + c.hiddenReads + 2
  2 * attempts + fixed / 1000 + c.timeline.length + 5

/-- The end of a session that is answered by a script. -/
def Session.runScript (order : Order) (fallback : String) (c : Scenario (List Answer)) :
    Option (Session (List Answer)) :=
  run order (Script.ask fallback) (c.instants c.source.length) (start c)

end ApprovalWatch
