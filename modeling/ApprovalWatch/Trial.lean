import ApprovalWatch.Attempts

/-!
# Trials

An inquiry driven by hand: single attempts, replies from nowhere, attempts that are given up, and
runs until a resolution or a cancellation. Time is counted in milliseconds and goes by only while a
reply or the next attempt is waited for.
-/

namespace ApprovalWatch

/-- An inquiry driven by hand, with the page it looks at (`PollCycle`). -/
structure Trial (σ : Type) where
  settings : Settings
  page : Page
  attempts : Attempts σ
  nowMs : Nat := 0

namespace Trial

variable {σ : Type}

/-- What may be done in a trial. -/
inductive Step where
  | setInput (name value : String)
  | removeInput (name : String)
  | attempt
  | interpret (reply : Reply)
  | abandon (afterMs : Nat)
  | run (cancelled : Bool) (cancelAfterMs : Option Nat)

/-- What comes of it. -/
inductive Result where
  | done
  | decided (transition : Transition)
  | dropped
  | resolved (resolution : Resolution)
  | cancelled
  deriving DecidableEq, Repr

/-- The identifier on the page. -/
def identifier? (t : Trial σ) : Option String :=
  t.page.identifier? t.settings.page.identifierField

/-- An attempt, given up after `limitMs` if there is such a limit and it comes before the reply
(`PollCycle.step`). A reply that never comes is given up at once where there is no limit. -/
def attempt (ask : Source σ) (t : Trial σ) (limitMs : Option Nat) : Trial σ × Result :=
  match t.attempts.begin t.settings ask t.nowMs t.identifier? with
  | (a, some transition) => ({ t with attempts := a }, .decided transition)
  | (a, none) =>
    match a.activity with
    | .asking sinceMs answer =>
      let inTime := fun ms => limitMs.all (ms ≤ ·)
      match answer.latencyMs.filter inTime with
      | some ms =>
        let nowMs := t.nowMs + ms
        let (a, transition) := a.complete t.settings nowMs sinceMs answer.reply
        ({ t with attempts := a, nowMs }, .decided transition)
      | none =>
        ({ t with attempts := a.abandon, nowMs := t.nowMs + limitMs.getD 0 }, .dropped)
    | _ => ({ t with attempts := a }, .dropped)

/-- Attempts until one resolves the inquiry or the instant of a cancellation comes, which is not
noticed before what is due at it was done (the loop of `PollCycle.run`). -/
def runFrom (ask : Source σ) (cancelMs : Option Nat) : Nat → Trial σ → Option (Trial σ × Result)
  | 0, _ => none
  | fuel + 1, t =>
    match t.attempts.due? with
    | some dueMs =>
      if cancelMs.any (· < dueMs) then
        some ({ t with attempts := t.attempts.abandon, nowMs := cancelMs.getD t.nowMs }, .cancelled)
      else
        let (a, transition) := t.attempts.act t.settings ask dueMs t.identifier?
        let t := { t with attempts := a, nowMs := dueMs }
        match transition with
        | some (.resolve r) => some (t, .resolved r)
        | _ => runFrom ask cancelMs fuel t
    | none =>
      match cancelMs with
      | some ms => some ({ t with attempts := t.attempts.abandon, nowMs := ms }, .cancelled)
      | none => none

/-- A run, if it ends within a number of activities (`PollCycle.run`). -/
def run (ask : Source σ) (fuel : Nat) (t : Trial σ) (cancelled : Bool)
    (cancelAfterMs : Option Nat) : Option (Trial σ × Result) :=
  if cancelled then some (t, .cancelled)
  else
    runFrom ask (cancelAfterMs.map (t.nowMs + ·)) fuel
      { t with attempts := { t.attempts with activity := .resting t.nowMs } }

/-- The trial after a step, and what comes of it, if the step ends within a number of activities. -/
def step (ask : Source σ) (fuel : Nat) (t : Trial σ) : Step → Option (Trial σ × Result)
  | .setInput name value => some ({ t with page := t.page.setInput name value }, .done)
  | .removeInput name => some ({ t with page := t.page.removeInput name }, .done)
  | .attempt => some (attempt ask t none)
  | .interpret reply =>
    let (inquiry, transition) := t.attempts.inquiry.interpret t.settings reply
    some ({ t with attempts := { t.attempts with inquiry } }, .decided transition)
  | .abandon afterMs => some (attempt ask t (some afterMs))
  | .run cancelled cancelAfterMs => run ask fuel t cancelled cancelAfterMs

/-- An upper bound on the activities of a run that is answered by the rest of a script and ends: an
attempt is begun and completed, and it either uses up an entry or lets a delay go by. -/
def activities (t : Trial (List Answer)) (cancelAfterMs : Option Nat) : Nat :=
  2 * (t.attempts.source.length + cancelAfterMs.getD 0 / max 1 t.settings.retry.delayMs + 2)

/-- A step of a trial that is answered by a script. -/
def stepScript (fallback : String) (t : Trial (List Answer)) (p : Step) :
    Option (Trial (List Answer) × Result) :=
  let cancelAfterMs := match p with
    | .run _ c => c
    | _ => none
  step (Script.ask fallback) (t.activities cancelAfterMs) t p

end Trial

end ApprovalWatch
