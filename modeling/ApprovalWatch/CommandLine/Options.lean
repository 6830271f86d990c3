/-!
# Options

How the arguments of a command are read. An option has a long name behind two hyphens, and maybe a
letter behind one. Its value follows an equals sign, or directly after the letter, or is the next
argument; there a word that begins with a hyphen is no value but another option.

A value that is an argument of its own is looked at no sooner than the next option is, so that a
word that is no option is complained about first.
-/

namespace ApprovalWatch.CommandLine

/-- Why a command line is not carried out. -/
inductive Refusal where
  /-- The usage is asked for. -/
  | help
  | unknownArgument
  | missingValue
  | invalidValue
  /-- A flag is given a value. -/
  | unexpectedValue
  /-- Options that exclude one another, or an option for the second time. -/
  | conflict
  deriving DecidableEq, Repr

/-- What an option does to the settings `α` of a command. -/
inductive Effect (α : Type) where
  | help
  | flag (set : α → α)
  | value (set : String → α → Except Refusal α)

/-- An option of a command. -/
structure Opt (α : Type) where
  name : String
  letter : Option Char := none
  repeatable : Bool := false
  effect : Effect α

/-- The options of a command, and the pairs of them that exclude one another. -/
structure Grammar (α : Type) where
  options : List (Opt α)
  exclusive : List (String × String) := []

/-! ## Words -/

/-- The form of an argument. -/
inductive Word where
  | separator
  | long (name : String) (value : Option String)
  | short (letters : List Char)
  | plain (text : String)
  deriving DecidableEq, Repr

/-- The form that an argument has. -/
def Word.of (arg : String) : Word :=
  match arg.toList with
  | ['-', '-'] => .separator
  | '-' :: '-' :: cs =>
    let name := String.ofList (cs.takeWhile (· ≠ '='))
    match cs.dropWhile (· ≠ '=') with
    | '=' :: v => .long name (some (String.ofList v))
    | _ => .long name none
  | '-' :: c :: cs => .short (c :: cs)
  | _ => .plain arg

/-! ## Reading -/

/-- A command line read so far: the settings, the names of the options that were given, and an
option that waits for its value, or for the next option with a value at hand. -/
structure Reading (α : Type) where
  settings : α
  given : List String := []
  pending : Option (Opt α × Option String) := none

namespace Reading

variable {α : Type}

/-- An option taken in, with its value if it has one. -/
def give (r : Reading α) (o : Opt α) (value : Option String) : Except Refusal (Reading α) :=
  let again := !o.repeatable && r.given.contains o.name
  match o.effect, value with
  | .help, _ => .error .help
  | .flag set, _ =>
    if again then .error .conflict
    else .ok { r with settings := set r.settings, given := o.name :: r.given }
  | .value _, none => .error .missingValue
  | .value set, some v =>
    if again then .error .conflict
    else
      (set v r.settings).map fun settings => { r with settings, given := o.name :: r.given }

/-- The option that waits taken in. -/
def settle (r : Reading α) : Except Refusal (Reading α) :=
  match r.pending with
  | none => .ok r
  | some (o, value) => give { r with pending := none } o value

/-- The option that waits taken in, and then another one. -/
def settleAndGive (r : Reading α) (o : Opt α) (value : Option String) :
    Except Refusal (Reading α) := do
  (← r.settle).give o value

/-- The option that waits taken in, and another one put in its place. -/
def settleAndAwait (r : Reading α) (o : Opt α) : Except Refusal (Reading α) :=
  r.settle.map fun r => { r with pending := some (o, none) }

/-- A long option. -/
def long (g : Grammar α) (r : Reading α) (name : String) (value : Option String) :
    Except Refusal (Reading α) :=
  match g.options.find? (·.name = name) with
  | none => .error .unknownArgument
  | some o =>
    match o.effect, value with
    | .value _, none => r.settleAndAwait o
    | .value _, some v => r.settleAndGive o (some v)
    | _, some _ => .error .unexpectedValue
    | _, none => r.settleAndGive o none

/-- Letters, the last of which may take the rest as its value. -/
def short (g : Grammar α) (r : Reading α) : List Char → Except Refusal (Reading α)
  | [] => .ok r
  | c :: cs =>
    match g.options.find? (·.letter = some c) with
    | none => .error .unknownArgument
    | some o =>
      match o.effect, cs with
      | .value _, [] => r.settleAndAwait o
      | .value _, '=' :: v => r.settleAndGive o (some (String.ofList v))
      | .value _, v => r.settleAndGive o (some (String.ofList v))
      | _, cs => do short g (← r.settleAndGive o none) cs

/-- A word of its own: the value of the option that waits for one. -/
def plain (r : Reading α) (text : String) : Except Refusal (Reading α) :=
  match r.pending with
  | some (o, none) => .ok { r with pending := some (o, some text) }
  | _ => .error .unknownArgument

end Reading

/-- The command line after further arguments. Nothing may follow the separator. -/
def readFrom {α : Type} (g : Grammar α) (r : Reading α) :
    List String → Except Refusal (Reading α)
  | [] => r.settle
  | arg :: rest =>
    match Word.of arg with
    | .separator => if rest.isEmpty then r.settle else .error .unknownArgument
    | .long name value => do readFrom g (← r.long g name value) rest
    | .short letters => do readFrom g (← r.short g letters) rest
    | .plain text => do readFrom g (← r.plain text) rest

/-- The settings that arguments make out of the initial ones (`Cli.parse`). -/
def read {α : Type} (g : Grammar α) (initial : α) (args : List String) : Except Refusal α := do
  let r ← readFrom g { settings := initial } args
  if g.exclusive.any fun p => r.given.contains p.1 && r.given.contains p.2 then throw .conflict
  return r.settings

end ApprovalWatch.CommandLine
