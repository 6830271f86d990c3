import ApprovalWatch.CommandLine.Options
import ApprovalWatch.CommandLine.Value
import ApprovalWatch.ScriptedAuthority
import ApprovalWatch.Url.Form

/-!
# Standing in for an authority from the command line

The command that answers status checks from a list of statuses.
-/

namespace ApprovalWatch.CommandLine

/-- What the options ask for (`Cli` of the authority). -/
structure Serve where
  address : String := "127.0.0.1:8080"
  statuses : Option (List String) := none
  logLevel : String := "info"
  deriving DecidableEq, Repr

namespace Serve

/-- The options. Statuses are separated by commas, and more of them may follow in another option. -/
def grammar : Grammar Serve where
  options :=
    [ { name := "bind"
        letter := some 'b'
        effect := .value fun v o =>
          if isAddress v then .ok { o with address := v } else .error .invalidValue },
      { name := "script"
        letter := some 's'
        repeatable := true
        effect := .value fun v o =>
          let statuses := (Url.Form.pieces ',' v.toList).map String.ofList
          .ok { o with statuses := some (o.statuses.getD [] ++ statuses) } },
      { name := "log-level"
        effect := .value fun v o => .ok { o with logLevel := v } },
      { name := "help"
        letter := some 'h'
        effect := .help } ]

/-- The statuses of an authority that is given none (the default of `script`). -/
def defaultScript : List String :=
  ["PENDING", "PENDING", "APPROVED"]

/-- The options that arguments give. -/
def ofArgs (args : List String) : Except Refusal Serve :=
  read grammar {} args

/-- The authority that the options ask for (`AuthorityState` as `main` makes it). -/
def authority (o : Serve) : ScriptedAuthority :=
  { script := o.statuses.getD defaultScript }

/-- The authority that arguments ask for. -/
def run (args : List String) : Except Refusal ScriptedAuthority :=
  (ofArgs args).map authority

end Serve

end ApprovalWatch.CommandLine
