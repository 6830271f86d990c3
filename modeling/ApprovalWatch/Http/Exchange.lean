import ApprovalWatch.Url.Reference

/-!
# Exchanges

A request, and what becomes of it: one connection, one request, one response at most. What a peer
is going to do is known in advance, and it keeps every request that it got.
-/

namespace ApprovalWatch.Http

/-- A request without a body. -/
structure Request where
  method : String
  target : String
  headers : List (String × String)
  deriving DecidableEq, Repr

/-- A response, as far as it came: the body is complete, or it ended too early. -/
structure Response where
  status : Nat := 200
  location : Option String := none
  body : List UInt8 := []
  complete : Bool := true
  deriving DecidableEq, Repr

namespace Response

/-- The response ends an exchange. One that announces another is none that is followed by it here,
and a status of more or fewer than three digits is no status. -/
def isFinal (r : Response) : Bool :=
  r.status = 101 || (200 ≤ r.status && r.status ≤ 999)

/-- The response says that the request succeeded. -/
def isSuccess (r : Response) : Bool :=
  200 ≤ r.status && r.status ≤ 299

/-- The response as it is received. Two kinds of responses have no content, whatever follows. -/
def received (r : Response) : Response :=
  if r.status = 204 || r.status = 304 then { r with body := [], complete := true } else r

end Response

/-! ## Peers -/

/-- What a peer does with whoever turns to it. -/
inductive Conduct where
  /-- Nobody takes the connection, so that no request is made. -/
  | refuse
  /-- The connection is closed in place of a response. -/
  | close
  /-- There is never a response. -/
  | hang
  | respond (response : Response)
  deriving DecidableEq, Repr

/-- Where requests are taken: at a host and a port, over a secure connection or a plain one. -/
structure Origin where
  secure : Bool
  host : Url.Host
  port : Nat
  deriving DecidableEq, Repr

/-- Where a URL leads to, if that is a place for requests. -/
def Origin.ofUrl? (u : Url) : Option Origin := do
  let secure ←
    if u.scheme = "http".toList then some false
    else if u.scheme = "https".toList then some true
    else none
  return ⟨secure, ← u.host?, ← u.effectivePort?⟩

/-- A peer: a host and a port at which it takes requests over plain connections, other places where
it takes them, over plain connections or secure ones, what it is going to do with one request after
the other, wherever they come, and the requests that it got, the latest first. -/
structure Peer where
  host : Url.Host
  port : Nat
  conducts : List Conduct
  exchanges : List (Request × Conduct) := []
  others : List Origin := []
  deriving DecidableEq, Repr

namespace Peer

/-- Where the peer takes requests. -/
def origins (p : Peer) : List Origin :=
  ⟨false, p.host, p.port⟩ :: p.others

/-- The URL leads to the peer. -/
def serves (p : Peer) (u : Url) : Bool :=
  (Origin.ofUrl? u).any (· ∈ p.origins)

/-- What the peer does next. The last thing is repeated. -/
def conduct (p : Peer) : Conduct :=
  p.conducts.headD .refuse

/-- What the peer does with a request, and the peer after it. -/
def meet (p : Peer) (r : Request) : Conduct × Peer :=
  let conducts :=
    match p.conducts with
    | _ :: c :: rest => c :: rest
    | short => short
  let exchanges :=
    match p.conduct with
    | .refuse => p.exchanges
    | c => (r, c) :: p.exchanges
  (p.conduct, { p with conducts, exchanges })

/-- The targets of the requests, in the order in which they came. -/
def targets (p : Peer) : List String :=
  p.exchanges.reverse.map (·.1.target)

end Peer

end ApprovalWatch.Http
