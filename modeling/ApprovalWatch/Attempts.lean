import ApprovalWatch.Inquiry

/-!
# Attempts on the clock

When an inquiry makes its attempts: the first at once, each further one a fixed delay after the one
before was completed. An attempt is completed at once if there is no identifier, and with the reply
to its query otherwise. Time is counted in milliseconds from the start.

Main results:

* `begin_none`, `begin_some`: what a look at the identifier field leads to.
-/

namespace ApprovalWatch

/-- A look at the identifier field, and the identifier that it found. -/
structure Look where
  atMs : Nat
  found : Option String
  deriving DecidableEq, Repr

/-- What is recorded of a session, the latest first. -/
structure Journal where
  /-- Looks at the identifier field, of which every attempt makes one. -/
  looks : List Look := []
  /-- Queries with the instants at which they were issued. -/
  queries : List (Nat × String) := []
  /-- For every query issued `true`, for every one answered or dropped `false`. -/
  flights : List Bool := []
  metrics : List Metric := []
  deriving DecidableEq, Repr

namespace Journal

/-- How many queries are in flight after a number of departures and arrivals, the latest first. -/
def inFlight (flights : List Bool) : Nat :=
  flights.count true - flights.count false

/-- The most queries that were in flight at once. -/
def peak : List Bool → Nat
  | [] => 0
  | f :: rest => max (inFlight (f :: rest)) (peak rest)

/-- The journal with a look at the identifier field. -/
def look (j : Journal) (atMs : Nat) (found : Option String) : Journal :=
  { j with looks := ⟨atMs, found⟩ :: j.looks }

/-- The journal with a query that is issued. -/
def depart (j : Journal) (atMs : Nat) (identifier : String) : Journal :=
  { j with queries := (atMs, identifier) :: j.queries, flights := true :: j.flights }

/-- The journal with the query in flight answered or dropped. -/
def land (j : Journal) : Journal :=
  { j with flights := false :: j.flights }

/-- The journal with a measurement. -/
def measure (j : Journal) (m : Metric) : Journal :=
  { j with metrics := m :: j.metrics }

end Journal

/-- What the attempts are at: a rest until an instant, a query since an instant, or their end. -/
inductive Activity where
  | resting (untilMs : Nat)
  | asking (sinceMs : Nat) (answer : Answer)
  | ended

/-- An inquiry on the clock, with the state of whoever is asked and the journal (`PollCycle.run`
between two of its awaits). -/
structure Attempts (σ : Type) where
  inquiry : Inquiry := {}
  activity : Activity := .resting 0
  source : σ
  journal : Journal := {}

namespace Attempts

variable {σ : Type}

/-- The instant at which there is something to do next, if there is one. -/
def due? (a : Attempts σ) : Option Nat :=
  match a.activity with
  | .resting untilMs => some untilMs
  | .asking sinceMs answer => answer.latencyMs.map (sinceMs + ·)
  | .ended => none

/-- The next thing to do is to look for the identifier. -/
def isResting (a : Attempts σ) : Bool :=
  match a.activity with
  | .resting _ => true
  | _ => false

/-- The attempt completed by the reply to a query that was issued at `sinceMs` (the rest of
`PollCycle.step` after its query). -/
def complete (s : Settings) (a : Attempts σ) (nowMs sinceMs : Nat) (reply : Reply) :
    Attempts σ × Transition :=
  let (inquiry, transition) := a.inquiry.interpret s reply
  let journal :=
    (a.journal.land.measure (.query transition.outcome)).measure (.queryDuration (nowMs - sinceMs))
  let activity : Activity :=
    match transition with
    | .retry _ => .resting (nowMs + s.retry.delayMs)
    | .resolve _ => .ended
  ({ a with inquiry, activity, journal }, transition)

/-- The attempt completed without a query, for want of an identifier (`PollCycle.step` without an
identifier). -/
def miss (s : Settings) (a : Attempts σ) (nowMs : Nat) : Attempts σ :=
  { a with
    inquiry := a.inquiry.missIdentifier
    activity := .resting (nowMs + s.retry.delayMs)
    journal := (a.journal.look nowMs none).measure .identifierRetry }

/-- The attempts with a query under way, which will be answered as given (`PollCycle.step` at its
query). -/
def launch (a : Attempts σ) (nowMs : Nat) (identifier : String) (answer : Answer) (source : σ) :
    Attempts σ where
  inquiry := a.inquiry.ask identifier
  activity := .asking nowMs answer
  source
  journal := (a.journal.look nowMs (some identifier)).depart nowMs identifier

/-- An attempt begun, with what follows if it is completed at once (`PollCycle.step` up to its first
await). -/
def begin (s : Settings) (ask : Source σ) (a : Attempts σ) (nowMs : Nat)
    (identifier : Option String) : Attempts σ × Option Transition :=
  match identifier with
  | none => (a.miss s nowMs, some (.retry .identifierAbsent))
  | some id =>
    let (answer, source) := ask a.source id
    let asking := a.launch nowMs id answer source
    if answer.latencyMs = some 0 then
      let (a, transition) := complete s asking nowMs nowMs answer.reply
      (a, some transition)
    else (asking, none)

theorem begin_none (s : Settings) (ask : Source σ) (a : Attempts σ) (nowMs : Nat) :
    begin s ask a nowMs none = (a.miss s nowMs, some (.retry .identifierAbsent)) :=
  rfl

theorem begin_some (s : Settings) (ask : Source σ) (a : Attempts σ) (nowMs : Nat) (id : String) :
    begin s ask a nowMs (some id) =
      let asking := a.launch nowMs id (ask a.source id).1 (ask a.source id).2
      if (ask a.source id).1.latencyMs = some 0 then
        ((complete s asking nowMs nowMs (ask a.source id).1.reply).1,
          some (complete s asking nowMs nowMs (ask a.source id).1.reply).2)
      else (asking, none) :=
  rfl

/-- What is due now done (`PollCycle.run` from one await to the next). `identifier` is what the page
holds, for an attempt that begins. -/
def act (s : Settings) (ask : Source σ) (a : Attempts σ) (nowMs : Nat)
    (identifier : Option String) : Attempts σ × Option Transition :=
  match a.activity with
  | .resting _ => begin s ask a nowMs identifier
  | .asking sinceMs answer =>
    let (a, transition) := complete s a nowMs sinceMs answer.reply
    (a, some transition)
  | .ended => (a, none)

/-- The attempts given up (what `PollCycle.run` drops when it is cancelled). The reply to a query in
flight is not waited for. -/
def abandon (a : Attempts σ) : Attempts σ :=
  match a.activity with
  | .asking .. => { a with activity := .ended, journal := a.journal.land }
  | _ => { a with activity := .ended }

end Attempts

end ApprovalWatch
