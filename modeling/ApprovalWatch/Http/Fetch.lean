import ApprovalWatch.Http.Exchange
import ApprovalWatch.Text.Base64

/-!
# Fetching

A URL is fetched by a request that no cache may answer. A response that names another place is
followed there, up to ten times, whatever place that is.
-/

namespace ApprovalWatch.Http

/-! ## Requests -/

/-- The authorization that the credentials of a URL amount to, if they are text. -/
def authorization? (u : Url) : Option String := do
  let a ← u.authority
  let name ← Utf8.decode? (Url.Percent.decode a.username)
  let password := (Utf8.decode? (Url.Percent.decode a.password)).getD []
  if name.isEmpty && password.isEmpty then none
  else some ("Basic " ++ String.ofList (Base64.encode (Utf8.encode (name ++ ':' :: password))))

/-- What is sent with every request (the headers of `HttpStatusClient.new`). -/
def standardHeaders : List (String × String) :=
  [("accept", "*/*"), ("cache-control", "no-store, no-cache"), ("pragma", "no-cache"),
    ("user-agent", "status-poller/0.1.0")]

/-- The request for a URL, with an authorization and the URL that led there, if there are any. -/
def request (authorization referer : Option String) (u : Url) : Request where
  method := "GET"
  target := String.ofList u.target
  headers := standardHeaders
    ++ (authorization.map fun a => ("authorization", a)).toList
    ++ (referer.map fun v => ("referer", v)).toList

/-! ## Redirects -/

/-- A character that may stand in a URL but not in the name of a peer. -/
def isForeign (c : Char) : Bool :=
  c ∈ ['%', '"', '`', '\x7b', '\x7d']

/-- A request can name the URL: it has a host, or all of it could be the name of one. -/
def isRequestable (u : Url) : Bool :=
  match u.host?, u.path with
  | some host, _ => !host.render.any isForeign
  | none, .text cs =>
    u.query.isNone && u.fragment.isNone
      && cs.all (fun c => !isForeign c && c ∉ ['/', ':', ' ', '<', '>', '[', '\\', ']', '^', '|'])
      && cs.getLast? ≠ some '@'
  | none, .segments _ => false

/-- The statuses of the responses that are followed. -/
def redirectStatuses : List Nat :=
  [301, 302, 303, 307, 308]

/-- The URL that a response leads to. A location that makes no URL is passed over. -/
def Response.redirect? (r : Response) (u : Url) : Option Url :=
  if r.status ∈ redirectStatuses then
    (r.location.bind fun l => (u.join l).toOption).filter isRequestable
  else none

/-- An authorization is not sent on to another host, nor to another port. -/
def authorizationFor (authorization : Option String) (u next : Url) : Option String :=
  if next.host? = u.host? ∧ next.effectivePort? = u.effectivePort? then authorization else none

/-- What is told of a URL to the next one. Nothing is told if the connection was secure and is not
any longer: then what was told before is told again. -/
def refererFor (referer : Option String) (u next : Url) : Option String :=
  if u.scheme = "https".toList ∧ next.scheme = "http".toList then referer
  else some (toString u.withoutPrivate)

/-- How fetching ends: with a response that no other follows, with an error, or never. -/
inductive Fetched where
  | response (response : Response)
  | failed
  | unanswered
  deriving DecidableEq, Repr

/-- Fetches a URL and follows at most the given number of redirects. -/
def follow (authorization referer : Option String) (redirects : Nat) (p : Peer) (u : Url) :
    Fetched × Peer :=
  if !p.serves u then (.failed, p)
  else
    let met := p.meet (request authorization referer u)
    match met.1 with
    | .refuse | .close => (.failed, met.2)
    | .hang => (.unanswered, met.2)
    | .respond r =>
      if !r.isFinal then (.failed, met.2)
      else
        match r.redirect? u, redirects with
        | none, _ => (.response r.received, met.2)
        | some _, 0 => (.failed, met.2)
        | some next, redirects + 1 =>
          follow (authorizationFor authorization u next) (refererFor referer u next) redirects
            met.2 next

/-- The redirects that are followed at most. -/
def maxRedirects : Nat :=
  10

/-- Fetches a URL (`get` and `send` in `HttpStatusClient.query`). -/
def fetch (p : Peer) (u : Url) : Fetched × Peer :=
  follow (authorization? u) none maxRedirects p u

end ApprovalWatch.Http
