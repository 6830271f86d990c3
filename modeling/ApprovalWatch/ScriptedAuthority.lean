import ApprovalWatch.Assoc
import ApprovalWatch.StatusBody
import ApprovalWatch.Url.Form

/-!
# Scripted authorities

A stand-in for an authority. Every identifier goes through the same list of statuses on its own,
one status per check, and the last one stays.
-/

namespace ApprovalWatch

/-- An authority: what it says, and how many steps each identifier has taken that was checked
(`AuthorityState`). -/
structure ScriptedAuthority where
  script : List String
  progress : List (String × Nat) := []
  deriving DecidableEq, Repr

namespace ScriptedAuthority

/-! ## Checks -/

/-- The steps that an identifier has taken: none before its first check (an entry of `progress`). -/
def steps (a : ScriptedAuthority) (identifier : String) : Nat :=
  (Assoc.get? identifier a.progress).getD 0

/-- The status of an identifier, and the authority after the identifier took a step
(`AuthorityState.next_status`). -/
def nextStatus (a : ScriptedAuthority) (identifier : String) : String × ScriptedAuthority :=
  let step := a.steps identifier
  let index := min step (a.script.length - 1)
  (a.script[index]?.getD "PENDING",
    { a with progress := Assoc.set identifier (step + 1) a.progress })

/-! ## Requests -/

/-- The answer to a request. -/
structure Answer where
  status : Nat
  contentType : Option String := none
  allow : Option String := none
  body : String := ""
  deriving DecidableEq, Repr

/-- The paths that are answered (the routes of `main`). -/
def paths : List String :=
  ["/cas/inalogy/check", "/cas/inalogy/check/login", "/cas/inalogy/check/registration"]

/-- The names under which a query may hold the identifier; an earlier one goes before a later
(`ID_PARAMS`). -/
def parameters : List String :=
  ["pushId", "keyId", "requestId"]

/-- The last value that a query has under a name. -/
def value? (query : List Char) (name : String) : Option String :=
  ((Url.Form.pairs query).reverse.find? (·.1 = name.toList)).map fun p => String.ofList p.2

/-- The identifier in a query (the first of `ID_PARAMS` that `check` finds). -/
def identifier? (query : List Char) : Option String :=
  parameters.findSome? (value? query)

/-- A character that no path holds. -/
def isForeignToPath (c : Char) : Bool :=
  c ≤ ' ' || c ∈ ['<', '>', '`', '\x7f']

/-- A character that no query holds. -/
def isForeignToQuery (c : Char) : Bool :=
  c ≤ ' ' || c ∈ ['"', '<', '>', '\x7f']

/-- The path and the query of the target of a request. It is given with or without a peer before
it, and no fragment counts. -/
def splitTarget? (target : List Char) : Option (List Char × List Char) :=
  let local? :=
    match target, target.span (· ≠ ':') with
    | '/' :: _, _ => some target
    | _, (_, ':' :: '/' :: '/' :: r) =>
      some (r.dropWhile fun c => c ≠ '/' && c ≠ '?' && c ≠ '#')
    | [], _ => none
    | _, _ => if '/' ∈ target then none else some []
  match local? with
  | none => none
  | some cs =>
    let cs := cs.takeWhile (· ≠ '#')
    let path := cs.takeWhile (· ≠ '?')
    let query := (cs.dropWhile (· ≠ '?')).drop 1
    if path.any isForeignToPath || query.any isForeignToQuery then none else some (path, query)

/-- The answer to a check of an identifier, or to the lack of one (`check`). -/
def answerQuery (a : ScriptedAuthority) (query : List Char) : Answer × ScriptedAuthority :=
  match identifier? query with
  | none =>
    ({ status := 400
       contentType := some "text/plain; charset=utf-8"
       body := "missing identifier parameter" }, a)
  | some identifier =>
    let checked := a.nextStatus identifier
    ({ status := 200
       contentType := some "application/json"
       body := StatusBody.write checked.1 }, checked.2)

/-- The answer to a request, and the authority after it. A request for nothing but the head is
answered like any other, without the body. -/
def answer (a : ScriptedAuthority) (method target : String) : Answer × ScriptedAuthority :=
  match splitTarget? target.toList with
  | none => ({ status := 400 }, a)
  | some (path, query) =>
    if String.ofList path ∉ paths then ({ status := 404 }, a)
    else if method = "GET" then a.answerQuery query
    else if method = "HEAD" then
      let answered := a.answerQuery query
      ({ answered.1 with body := "" }, answered.2)
    else ({ status := 405, allow := some "GET,HEAD" }, a)

/-- The answers to requests one after the other, each a method and a target. -/
def answers (a : ScriptedAuthority) : List (String × String) → List Answer
  | [] => []
  | (method, target) :: rest =>
    (a.answer method target).1 :: answers (a.answer method target).2 rest

end ScriptedAuthority

end ApprovalWatch
