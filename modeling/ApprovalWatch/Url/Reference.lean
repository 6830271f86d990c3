import ApprovalWatch.Url.Path

/-!
# References

A text is read as an absolute URL, or as a reference relative to one. Control characters and spaces
around it and tabs and line breaks within it are left out first.
-/

namespace ApprovalWatch.Url

/-- The text without the control characters and spaces at its ends, and without tabs and line
breaks. -/
def clean (cs : List Char) : List Char :=
  let blank := fun c : Char => decide (c ≤ ' ')
  let trimmed := ((cs.dropWhile blank).reverse.dropWhile blank).reverse
  trimmed.filter fun c => c ≠ '\t' && c ≠ '\n' && c ≠ '\r'

/-- The scheme in lower case, and what follows its colon. -/
def scheme? (cs : List Char) : Option (List Char × List Char) :=
  let isSchemeChar := fun c : Char => c.isAlphanum || c = '+' || c = '-' || c = '.'
  match cs with
  | [] => none
  | c :: _ =>
    if !c.isAlpha then none
    else
      match cs.dropWhile isSchemeChar with
      | ':' :: rest => some ((cs.takeWhile isSchemeChar).map Char.toLower, rest)
      | _ => none

/-- The text before a query or fragment, and the rest. -/
def splitPath (cs : List Char) : List Char × List Char :=
  cs.span fun c => c ≠ '?' && c ≠ '#'

/-- The URL with the query and the fragment that a text begins with. -/
def withRest (kind : SchemeKind) (u : Url) (cs : List Char) : Url :=
  let set := if kind = .other then EncodeSet.query else EncodeSet.specialQuery
  let fragment := fun
    | '#' :: f => some (Percent.encode EncodeSet.fragment f)
    | _ => none
  match cs with
  | '?' :: r =>
    { u with
      query := some (Percent.encode set (r.takeWhile (· ≠ '#')))
      fragment := fragment (r.dropWhile (· ≠ '#')) }
  | _ => { u with query := none, fragment := fragment cs }

/-! ## Authorities -/

/-- A character that ends an authority. -/
def endsAuthority (kind : SchemeKind) (c : Char) : Bool :=
  c = '/' || c = '?' || c = '#' || (c = '\\' && kind ≠ .other)

/-- The text before its last `@` and the text after it. -/
def splitLastAt (cs : List Char) : Option (List Char × List Char) :=
  match cs with
  | [] => none
  | c :: r =>
    match splitLastAt r with
    | some (before, after) => some (c :: before, after)
    | none => if c = '@' then some ([], r) else none

/-- User name and password, encoded. The first colon stands between them. -/
def credentials (cs : List Char) : List Char × List Char :=
  let encode := Percent.encode EncodeSet.userinfo
  (encode (cs.takeWhile (· ≠ ':')), encode ((cs.dropWhile (· ≠ ':')).drop 1))

/-- The text of a host, up to a colon outside brackets, and what follows it. -/
def splitHost (inside : Bool) : List Char → List Char × List Char
  | [] => ([], [])
  | c :: r =>
    if c = ':' && !inside then ([], c :: r)
    else
      let (host, rest) := splitHost (if c = '[' then true else if c = ']' then false else inside) r
      (c :: host, rest)

/-- A port of at most sixteen bits. It is left out where it is the default one. -/
def readPort (scheme cs : List Char) : Except Error (Option Nat) :=
  let n := Digits.ofDigits 10 cs
  if !cs.all Digits.isDecimal || 65535 < n then .error .invalidPort
  else if cs.isEmpty || defaultPort? scheme = some n then .ok none
  else .ok (some n)

/-- The authority that a text spells, and what is left of the text: a backslash ends a port.
`followed` tells whether anything comes after the text. -/
def readAuthority (kind : SchemeKind) (scheme : List Char) (followed : Bool) (cs : List Char) :
    Except Error (Authority × List Char) := do
  let (userinfo, hostPort) := (splitLastAt cs).getD ([], cs)
  if (splitLastAt cs).isSome && userinfo.isEmpty && hostPort.isEmpty && followed then
    throw .emptyHost
  let (username, password) := credentials userinfo
  let (hostText, rest) := splitHost false hostPort
  if hostText.isEmpty && kind ≠ .other then throw .emptyHost
  let host ← if kind = .other then Host.parseName hostText else Host.parseDomain hostText
  if host = .name [] && !rest.isEmpty then throw .emptyHost
  -- the rest begins with the colon before a port
  let (portText, rest) := (rest.drop 1).span (· ≠ '\\')
  let port ← readPort scheme portText
  if host = .name [] && !(username.isEmpty && password.isEmpty) then throw .emptyHost
  return (⟨username, password, host, port⟩, rest)

/-- The URL whose authority a text begins with. -/
def readFromAuthority (kind : SchemeKind) (scheme cs : List Char) : Except Error Url := do
  let (text, rest) := cs.span fun c => !endsAuthority kind c
  let (authority, left) ← readAuthority kind scheme (!rest.isEmpty) text
  let (pathText, rest) := splitPath (left ++ rest)
  let path := Path.segments (Path.readAfterAuthority kind pathText)
  return withRest kind ⟨scheme, some authority, path, none, none⟩ rest

/-! ## Files -/

/-- The authority of a file URL. -/
def fileAuthority (host : Host) : Option Authority :=
  some ⟨[], [], host, none⟩

/-- A file URL with the given host, whose path is read beneath the segments `above`. -/
def readFilePath (host : Host) (above : List (List Char)) (cs : List Char) : Url :=
  let (pathText, rest) := splitPath cs
  let path := Path.read .file above pathText
  withRest .file ⟨"file".toList, fileAuthority host, .segments path, none, none⟩ rest

/-- The text begins with a drive letter that ends there or before a delimiter. -/
def startsWithDrive (cs : List Char) : Bool :=
  Path.isDrive (cs.take 2) && (cs.drop 2).head?.all (endsAuthority .file)

/-- A file URL from what follows its two slashes. A drive letter in the place of the host belongs to
the path, and one at the head of the path does away with the host. -/
def readFileHost (cs : List Char) : Except Error Url := do
  let (text, rest) := cs.span fun c => !endsAuthority .file c
  if Path.isDrive text then return readFilePath (.name []) [] cs
  let host ← if text.isEmpty then pure (Host.name []) else Host.parseDomain text
  let host := if host = .name "localhost".toList then .name [] else host
  let u := readFilePath host [] (Path.dropSeparator .file rest)
  match u.path with
  | .segments (s :: _) =>
    return if Path.isPlainDrive s then { u with authority := fileAuthority (.name []) } else u
  | _ => return u

/-- A file URL from what follows its scheme, relative to a file URL if there is one. -/
def readFile (base : Option Url) (cs : List Char) : Except Error Url := do
  let slash := fun c : Char => c = '/' || c = '\\'
  let baseSegments := fun (b : Url) =>
    match b.path with
    | .segments ss => ss
    | .text _ => []
  let baseHost := fun (b : Url) => (b.host?).getD (.name [])
  match cs, base with
  | c :: r, _ =>
    if slash c then
      if r.head?.any slash then readFileHost (r.drop 1)
      else
        match base with
        | none => return readFilePath (.name []) [] r
        | some b =>
          if startsWithDrive r then return readFilePath (.name []) [] r
          match (baseSegments b).head? with
          | some s =>
            if Path.isPlainDrive s then return readFilePath (.name []) [s] r
            else return readFilePath (baseHost b) [] r
          | none => return readFilePath (baseHost b) [] r
    else
      match base with
      | none => return readFilePath (.name []) [] cs
      | some b =>
        if c = '#' then
          return { b with fragment := some (Percent.encode EncodeSet.fragment r) }
        else if c = '?' then return withRest .file b cs
        else if startsWithDrive cs then return readFilePath (.name []) [] cs
        else return readFilePath (baseHost b) (Path.parent .file (baseSegments b)) cs
  | [], none => return readFilePath (.name []) [] []
  | [], some b => return { b with fragment := none }

/-! ## Relative references -/

/-- The URL that a reference without a scheme means, relative to a URL with the segments `ss`. -/
def readRelative (kind : SchemeKind) (base : Url) (ss : List (List Char)) (cs : List Char) :
    Except Error Url :=
  let slash := fun c : Char => c = '/' || c = '\\'
  match cs with
  | [] => .ok { base with fragment := none }
  | '?' :: _ => .ok (withRest kind base cs)
  | '#' :: r => .ok { base with fragment := some (Percent.encode EncodeSet.fragment r) }
  | '/' :: '/' :: r => readFromAuthority kind base.scheme r
  | c :: r =>
    if slash c && r.head?.any slash then
      readFromAuthority kind base.scheme (r.dropWhile slash)
    else
      let above := if slash c then [] else Path.parent kind ss
      let (pathText, rest) := splitPath (if slash c then r else cs)
      .ok (withRest kind { base with path := .segments (Path.read kind above pathText) } rest)

/-- The URL that a text with a scheme spells, given what follows the colon. -/
def readWithScheme (base : Option Url) (scheme cs : List Char) : Except Error Url :=
  let slash := fun c : Char => c = '/' || c = '\\'
  match SchemeKind.of scheme with
  | .file => readFile (base.filter (·.scheme = scheme)) cs
  | .special =>
    let relativeTo := if 2 ≤ (cs.takeWhile slash).length then none
      else base.filter (·.scheme = scheme)
    match relativeTo with
    | some b =>
      match b.path with
      | .segments ss => readRelative .special b ss cs
      | .text _ => .error .relativeToOpaquePath
    | none => readFromAuthority .special scheme (cs.dropWhile slash)
  | .other =>
    match cs with
    | '/' :: '/' :: r => readFromAuthority .other scheme r
    | '/' :: r =>
      let (pathText, rest) := splitPath r
      let path := Path.segments (Path.read .other [] pathText)
      .ok (withRest .other ⟨scheme, none, path, none, none⟩ rest)
    | _ =>
      let (pathText, rest) := splitPath cs
      let path := Path.text (Percent.encode EncodeSet.controls pathText)
      .ok (withRest .other ⟨scheme, none, path, none, none⟩ rest)

/-- The URL that a cleaned text means relative to a base. -/
def resolve (base : Option Url) (cs : List Char) : Except Error Url :=
  match scheme? cs, base with
  | some (scheme, rest), _ => readWithScheme base scheme rest
  | none, none => .error .relativeWithoutBase
  | none, some b =>
    match cs, b.path with
    | '#' :: r, _ => .ok { b with fragment := some (Percent.encode EncodeSet.fragment r) }
    | _, .text _ => .error .relativeToOpaquePath
    | _, .segments ss =>
      if SchemeKind.of b.scheme = .file then readFile (some b) cs
      else readRelative (SchemeKind.of b.scheme) b ss cs

/-- The URL that a text spells (`Url.parse`). -/
def parse (s : String) : Except Error Url :=
  resolve none (clean s.toList)

/-- The URL that a text means where the URL `base` is at hand (`Url.join`). -/
def join (base : Url) (s : String) : Except Error Url :=
  resolve (some base) (clean s.toList)

end ApprovalWatch.Url
