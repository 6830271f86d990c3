import ApprovalWatch.Binary64

/-!
# Metrics

What a session counts and measures for its host.
-/

namespace ApprovalWatch

/-- What became of a query. -/
inductive QueryOutcome where
  | success
  | failure
  | transient
  | pending
  deriving DecidableEq, Repr

/-- The label of an outcome (what `outcome_label` gives). -/
def QueryOutcome.label : QueryOutcome → String
  | success => "success"
  | failure => "failure"
  | transient => "transient"
  | pending => "pending"

/-- A measurement (what `record_query`, `record_identifier_retry` and `record_session` record). -/
inductive Metric where
  | query (outcome : QueryOutcome)
  | queryDuration (ms : Nat)
  | identifierRetry
  | session (conclusion reason : String)
  deriving DecidableEq, Repr

namespace Metric

/-- The name of the series that a measurement belongs to. -/
def name : Metric → String
  | query _ => "poller_queries_total"
  | queryDuration _ => "poller_query_duration_seconds"
  | identifierRetry => "poller_identifier_retries_total"
  | session .. => "poller_sessions_total"

/-- The labels of a measurement. -/
def labels : Metric → List (String × String)
  | query outcome => [("outcome", outcome.label)]
  | queryDuration _ => []
  | identifierRetry => []
  | session conclusion reason => [("conclusion", conclusion), ("reason", reason)]

/-- A duration in seconds: the whole seconds and the fraction are rounded on their own, and then
their sum. -/
def seconds (ms : Nat) : Binary64 :=
  Binary64.ofNat (ms / 1000)
    + Binary64.ofNat (ms % 1000 * 1000000) / Binary64.ofNat 1000000000

/-- The value that is recorded; `none` where a counter goes up by one. -/
def recorded? : Metric → Option Binary64
  | queryDuration ms => some (seconds ms)
  | _ => none

end Metric

end ApprovalWatch
