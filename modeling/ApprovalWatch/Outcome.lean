import ApprovalWatch.Json.Value
import ApprovalWatch.Page
import ApprovalWatch.Settings.Basic
import ApprovalWatch.Status

/-!
# Outcomes

How a session ends, and what is counted on the way.
-/

namespace ApprovalWatch

/-- Why a session failed (`FailureReason`). -/
inductive FailureReason where
  | terminalStatus (status : String)
  | transportExhausted
  | deadlineExceeded
  deriving DecidableEq, Repr

/-- The code of a reason in reports, metrics and reason flags (`FailureReason.code`). -/
def FailureReason.code : FailureReason → String
  | terminalStatus status => status
  | transportExhausted => "UNAVAILABLE"
  | deadlineExceeded => "DEADLINE"

/-- The end of a session that was not cancelled (`Conclusion`). -/
inductive Conclusion where
  | succeeded (status form : String)
  | failed (reason : FailureReason) (destination : String)
  deriving DecidableEq, Repr

namespace Conclusion

/-- The session succeeded (`Conclusion.is_success`). -/
def isSuccess : Conclusion → Bool
  | succeeded .. => true
  | failed .. => false

/-- The name of the kind of end (`Conclusion.kind`). -/
def kind : Conclusion → String
  | succeeded .. => "succeeded"
  | failed .. => "failed"

/-- The status of a success, the code of a failure (`Conclusion.reason_code`). -/
def code : Conclusion → String
  | succeeded status _ => status
  | failed reason _ => reason.code

/-- How the session leaves its page (the action that `PollSession.conclude` performs). -/
def action : Conclusion → PageAction
  | succeeded _ form => .submit form
  | failed _ destination => .navigate destination

/-- The conclusion as it is reported. -/
def toJson : Conclusion → Json.Value
  | succeeded status form =>
    .object [("outcome", .string "succeeded"), ("status", .string status), ("form", .string form)]
  | failed reason destination =>
    .object
      [("outcome", .string "failed"), ("reason", .string reason.code),
        ("destination", .string destination)]

end Conclusion

/-- The end of a session that fails for the given reason (`PollSession.failed`). -/
def Settings.failed (s : Settings) (reason : FailureReason) : Conclusion :=
  .failed reason (s.failure.destinationFor reason.code)

/-- What a session counts (`PollStats`). -/
structure Tally where
  /-- Attempts that found no identifier. -/
  identifierRetries : Nat := 0
  /-- Queries that were issued. -/
  queries : Nat := 0
  /-- Answers with a status that ends nothing. -/
  pendingResponses : Nat := 0
  /-- Queries that failed. -/
  transientFailures : Nat := 0
  /-- Queries that failed since the last answer. -/
  consecutiveFailures : Nat := 0
  deriving DecidableEq, Repr

/-- The counts as they are reported. -/
def Tally.toJson (t : Tally) : Json.Value :=
  .object
    [("identifier_retries", .number t.identifierRetries),
      ("queries", .number t.queries),
      ("pending_responses", .number t.pendingResponses),
      ("transient_failures", .number t.transientFailures),
      ("consecutive_failures", .number t.consecutiveFailures)]

end ApprovalWatch
