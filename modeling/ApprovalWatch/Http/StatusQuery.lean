import ApprovalWatch.Http.Fetch
import ApprovalWatch.Query
import ApprovalWatch.Settings.Basic

/-!
# Status queries over HTTP

A query has a client fetch the URL that an endpoint has for an identifier. Only content that the
client reports in a response of success is read; whatever else is reported is a failure of the
query. What becomes of a fetch is up to the client and to whoever it reaches: the client is a
parameter of the query, and `client` is one that reaches a peer.
-/

namespace ApprovalWatch.Http

/-! ## Clients -/

/-- What a client reports of a fetch: an error in place of a response, or the status of a response
with what comes of reading its content, which is nothing where that is an error. -/
inductive Report where
  | error
  | response (status : Nat) (content : Option (List UInt8))
  deriving DecidableEq, Repr

/-- A client together with all that it can reach, whose states are `σ`: how the fetch of a URL ends
on the wire, once all redirects are followed that the client follows, and what is there after it;
what the client reports of it; and the time until it does, which is none where it never does. -/
structure Client (σ : Type) where
  fetch : σ → Url → Fetched × σ
  report : σ → Url → Report
  latencyMs : σ → Url → Option Nat

/-- The client reports what happened: a response that came completely is reported with its status
and its content; of one that was cut short there is an error, at the latest when its content is
read; and there is an error if the connection was closed, or no response came in time. -/
structure Client.Faithful {σ : Type} (k : Client σ) : Prop where
  complete : ∀ {src u r}, (k.fetch src u).1 = .response r → r.complete = true →
    k.report src u = .response r.status (some r.body)
  short : ∀ {src u r}, (k.fetch src u).1 = .response r → r.complete = false →
    k.report src u = .error ∨ k.report src u = .response r.status none
  failed : ∀ {src u}, (k.fetch src u).1 = .failed → k.report src u = .error
  unanswered : ∀ {src u}, (k.fetch src u).1 = .unanswered → k.report src u = .error

/-! ## Queries -/

/-- The reply that a report amounts to (what `HttpStatusClient.query` makes of it). -/
def Report.reply : Report → Reply
  | .error => .error .transport
  | .response status content =>
    if 200 ≤ status && status ≤ 299 then
      match content with
      | some body => Reply.ofBody body
      | none => .error .transport
    else .error (.httpStatus status)

/-- A client as the source of the replies for an endpoint (`HttpStatusClient.query`). -/
def Client.ask {σ : Type} (k : Client σ) (e : Endpoint) : Source σ :=
  fun src identifier =>
    match e.statusUrl identifier with
    | .error error => (⟨some 0, .error (.endpoint error)⟩, src)
    | .ok u => (⟨k.latencyMs src u, (k.report src u).reply⟩, (k.fetch src u).2)

/-! ## The client of a peer -/

/-- What is reported of a fetch. -/
def Fetched.report : Fetched → Report
  | .response r => .response r.status (if r.complete then some r.body else none)
  | .failed | .unanswered => .error

/-- The time that a fetch takes. Exchanges are counted as one millisecond together; what is not
answered takes the time that is allowed. -/
def Fetched.latencyMs (e : Endpoint) : Fetched → Nat
  | .unanswered => 1000 * e.requestTimeoutSecs
  | _ => 1

/-- The client that an endpoint has, where nothing can be reached but a peer
(`HttpStatusClient.new`). -/
def client (e : Endpoint) : Client Peer where
  fetch := fetch
  report p u := (fetch p u).1.report
  latencyMs p u := some ((fetch p u).1.latencyMs e)

theorem report_client (e : Endpoint) (p : Peer) (u : Url) :
    (client e).report p u = ((client e).fetch p u).1.report :=
  rfl

theorem client_faithful (e : Endpoint) : (client e).Faithful where
  complete h hcomplete := by
    rw [report_client, h, Fetched.report, hcomplete]
    rfl
  short h hshort := by
    refine .inr ?_
    rw [report_client, h, Fetched.report, hshort]
    rfl
  failed h := by rw [report_client, h, Fetched.report]
  unanswered h := by rw [report_client, h, Fetched.report]

/-- A peer as the source of the replies for an endpoint. -/
def ask (e : Endpoint) : Source Peer :=
  (client e).ask e

end ApprovalWatch.Http
