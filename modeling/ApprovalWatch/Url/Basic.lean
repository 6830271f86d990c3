import ApprovalWatch.Url.Host

/-!
# URLs

The parts of an absolute URL and its text. Every part is held in the form in which it is written.
-/

namespace ApprovalWatch

namespace Url

/-- Who is addressed: the host, with a user name, a password and a port that is not the default one
of the scheme. -/
structure Authority where
  username : List Char
  password : List Char
  host : Host
  port : Option Nat
  deriving DecidableEq, Repr

/-- What is addressed there: segments, each after a slash, or one opaque text. -/
inductive Path where
  | segments (segments : List (List Char))
  | text (chars : List Char)
  deriving DecidableEq, Repr

end Url

/-- An absolute URL. -/
structure Url where
  scheme : List Char
  authority : Option Url.Authority
  path : Url.Path
  query : Option (List Char)
  fragment : Option (List Char)
  deriving DecidableEq, Repr

namespace Url

/-! ## Schemes -/

/-- How a scheme treats hosts and paths. -/
inductive SchemeKind where
  | file
  | special
  | other
  deriving DecidableEq, Repr

/-- The port that a special scheme stands for. -/
def defaultPort? (scheme : List Char) : Option Nat :=
  if scheme = "http".toList ∨ scheme = "ws".toList then some 80
  else if scheme = "https".toList ∨ scheme = "wss".toList then some 443
  else if scheme = "ftp".toList then some 21
  else none

/-- The kind of a scheme: the special ones are those with a default port. -/
def SchemeKind.of (scheme : List Char) : SchemeKind :=
  if scheme = "file".toList then .file
  else if (defaultPort? scheme).isSome then .special
  else .other

/-! ## Text -/

/-- The credentials before a host. -/
def Authority.credentials (a : Authority) : List Char :=
  let password := if a.password.isEmpty then [] else ':' :: a.password
  let both := a.username ++ password
  if both.isEmpty then [] else both ++ ['@']

/-- The authority without its slashes. -/
def Authority.render (a : Authority) : List Char :=
  a.credentials ++ a.host.render
    ++ match a.port with
      | some port => ':' :: Digits.ofNat port
      | none => []

/-- The path. -/
def Path.render : Path → List Char
  | .segments ss => ss.flatMap ('/' :: ·)
  | .text cs => cs

/-- The scheme and the authority. A path that begins with an empty segment is set off from a
missing authority by `/.`, since two slashes would announce one. -/
def renderOrigin (u : Url) : List Char :=
  u.scheme ++ ':' ::
    match u.authority, u.path with
    | some a, _ => '/' :: '/' :: a.render
    | none, .segments ([] :: _ :: _) => ['/', '.']
    | none, _ => []

/-- Everything before the fragment. -/
def renderBeforeFragment (u : Url) : List Char :=
  u.renderOrigin ++ u.path.render
    ++ match u.query with
      | some q => '?' :: q
      | none => []

/-- The text of the URL. -/
def render (u : Url) : List Char :=
  u.renderBeforeFragment
    ++ match u.fragment with
      | some f => '#' :: f
      | none => []

instance : ToString Url where
  toString u := String.ofList u.render

/-- The path and the query, as a request names them. -/
def target (u : Url) : List Char :=
  u.path.render
    ++ match u.query with
      | some q => '?' :: q
      | none => []

/-- The host, if the URL has one. -/
def host? (u : Url) : Option Host :=
  u.authority.bind fun a => if a.host = .name [] then none else some a.host

/-- The port that is written in the URL. -/
def port? (u : Url) : Option Nat :=
  u.authority.bind (·.port)

/-- The port that the URL leads to: the written one, or the default one of its scheme. -/
def effectivePort? (u : Url) : Option Nat :=
  u.port? <|> defaultPort? u.scheme

/-- The URL without what is not told to others: the credentials and the fragment. -/
def withoutPrivate (u : Url) : Url :=
  { u with
    authority := u.authority.map fun a => { a with username := [], password := [] }
    fragment := none }

/-- No reference but a fragment can be resolved against the URL. -/
def isOpaque (u : Url) : Bool :=
  match u.path with
  | .text _ => true
  | .segments _ => false

/-- The URL with a name-value pair after those of its query (`append_pair`). -/
def appendPair (u : Url) (name value : List Char) : Url :=
  { u with query := some (Form.appendPair (u.query.getD []) name value) }

end Url

end ApprovalWatch
