import ApprovalWatch.Metric
import ApprovalWatch.Outcome
import ApprovalWatch.Query

/-!
# Inquiries

One attempt after the other: look for the identifier, ask for the status, decide what follows. This
module is about the decisions; when they are made is told in `Attempts`.
-/

namespace ApprovalWatch

/-- Where an inquiry stands (`PollState`). -/
inductive InquiryState where
  | awaitingIdentifier
  | querying (identifier : String)
  | scheduledRetry
  | resolvedSuccess
  | resolvedFailure
  deriving DecidableEq, Repr

/-- Why another attempt follows (`RetryCause`). -/
inductive RetryCause where
  | identifierAbsent
  | nonTerminal (status : Status)
  | transient
  deriving DecidableEq, Repr

/-- How an inquiry ends (`Resolution`). -/
inductive Resolution where
  | success (status : Status)
  | failure (reason : FailureReason)
  deriving DecidableEq, Repr

/-- What follows an attempt (`Transition`). -/
inductive Transition where
  | retry (cause : RetryCause)
  | resolve (resolution : Resolution)
  deriving DecidableEq, Repr

/-- What a decision says about the query before it (`outcome_label`). -/
def Transition.outcome : Transition → QueryOutcome
  | resolve (.success _) => .success
  | resolve (.failure _) => .failure
  | retry .transient => .transient
  | retry _ => .pending

/-- The end of a session whose inquiry ended (the conclusion that `PollSession.drive` makes of a
resolution). -/
def Settings.conclusion (s : Settings) : Resolution → Conclusion
  | .success status => .succeeded status.name s.page.successForm
  | .failure reason => s.failed reason

/-- An inquiry (`PollCycle`). -/
structure Inquiry where
  state : InquiryState := .awaitingIdentifier
  tally : Tally := {}
  lastIdentifier : Option String := none
  deriving DecidableEq, Repr

namespace Inquiry

/-- The inquiry after an attempt that found no identifier (`PollCycle.step` without an
identifier). -/
def missIdentifier (q : Inquiry) : Inquiry :=
  { q with
    state := .scheduledRetry
    tally := { q.tally with identifierRetries := q.tally.identifierRetries + 1 } }

/-- The inquiry while it waits for the reply for an identifier (`PollCycle.step` up to its
query). -/
def ask (q : Inquiry) (identifier : String) : Inquiry :=
  { state := .querying identifier
    tally := { q.tally with queries := q.tally.queries + 1 }
    lastIdentifier := some identifier }

/-- As many failed queries in a row use up the budget (`exhausted` in `PollCycle.interpret`). -/
def exhausts (s : Settings) (streak : Nat) : Bool :=
  s.retry.maxConsecutiveFailures.any (· ≤ streak)

/-- The inquiry after a reply, and what follows (`PollCycle.interpret`). -/
def interpret (s : Settings) (q : Inquiry) : Reply → Inquiry × Transition
  | .ok status =>
    let answered := { q.tally with consecutiveFailures := 0 }
    if status = s.statuses.success then
      ({ q with state := .resolvedSuccess, tally := answered },
        .resolve (.success (Status.ofName status)))
    else if status ∈ s.statuses.terminalFailures then
      ({ q with state := .resolvedFailure, tally := answered },
        .resolve (.failure (.terminalStatus status)))
    else
      ({ q with
          state := .scheduledRetry
          tally := { answered with pendingResponses := answered.pendingResponses + 1 } },
        .retry (.nonTerminal (Status.ofName status)))
  | .error _ =>
    let streak := q.tally.consecutiveFailures + 1
    let failed :=
      { q.tally with
        transientFailures := q.tally.transientFailures + 1
        consecutiveFailures := streak }
    if exhausts s streak then
      ({ q with state := .resolvedFailure, tally := failed },
        .resolve (.failure .transportExhausted))
    else ({ q with state := .scheduledRetry, tally := failed }, .retry .transient)

end Inquiry

end ApprovalWatch
