import ApprovalWatch.StatusBody
import ApprovalWatch.Url.Error

/-!
# Queries

Asking the authority for the status of an operation, and what may be answered.
-/

namespace ApprovalWatch

/-- Why a query gave no status (`PollError`). -/
inductive QueryFailure where
  | transport
  | httpStatus (code : Nat)
  | malformed
  | endpoint (error : Url.Error)
  deriving DecidableEq, Repr

namespace QueryFailure

/-- The name of the kind of failure. -/
def kind : QueryFailure → String
  | transport => "Transport"
  | httpStatus _ => "HttpStatus"
  | malformed => "Malformed"
  | endpoint _ => "Endpoint"

/-- What is said about a failure whose text is not that of a lower layer. -/
def message? : QueryFailure → Option String
  | transport => none
  | httpStatus code => some ("authority returned HTTP " ++ toString code)
  | malformed => none
  | endpoint error => some ("invalid status endpoint: " ++ error.message)

end QueryFailure

/-- What a query gives: the name of a status, or the reason why there is none (`PollResult` of a
`StatusPayload`). -/
abbrev Reply := Except QueryFailure String

/-- The reply that the body of a response amounts to (`StatusPayload.from_json`). -/
def Reply.ofBody (body : List UInt8) : Reply :=
  match StatusBody.read? body with
  | some status => .ok status
  | none => .error .malformed

/-- A reply and the time until it comes, which is none where it never comes. -/
structure Answer where
  latencyMs : Option Nat
  reply : Reply

/-- Whoever answers queries: the answer for an identifier, and the state after it
(`StatusSource.query`). -/
abbrev Source (σ : Type) := σ → String → Answer × σ

namespace Script

/-- The source that gives the answers of a list one after the other. Then it answers at once, with
the same status every time. -/
def ask (fallback : String) : Source (List Answer)
  | [], _ => (⟨some 0, .ok fallback⟩, [])
  | a :: rest, _ => (a, rest)

end Script

end ApprovalWatch
