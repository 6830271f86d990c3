import ApprovalWatch.Settings.Basic
import ApprovalWatch.Tree

/-!
# Settings as trees

The tree that spells out settings, and the settings that a tree spells out. A section that a tree
does not speak of has its general default, and so has a field of a section.

Main results:

* `Flow.ofTree?_toTree`: a flow is read back from its tree.
-/

namespace ApprovalWatch

/-! ## Writing -/

/-- The tree of a set of names. -/
def NameSet.toTree (s : NameSet) : Tree :=
  .array (s.names.map .string)

/-- The tree of a map of names. -/
def NameMap.toTree (m : NameMap) : Tree :=
  .table (m.entries.map fun p => (p.1, .string p.2))

/-- The tree of a flow. -/
def Flow.toTree (f : Flow) : Tree :=
  .string f.name

/-- The tree of the names of a page. -/
def PageNames.toTree (p : PageNames) : Tree :=
  .table
    [("identifier_field", .string p.identifierField),
      ("success_form", .string p.successForm),
      ("countdown_container", .string p.countdownContainer),
      ("redirect_seconds_attribute", .string p.redirectSecondsAttribute),
      ("countdown_number", .string p.countdownNumber),
      ("countdown_bar", .string p.countdownBar)]

/-- The tree of an endpoint. -/
def Endpoint.toTree (e : Endpoint) : Tree :=
  .table
    [("base_url", .string e.baseUrl),
      ("path", .string e.path),
      ("id_param", .string e.idParam),
      ("request_timeout_secs", .integer e.requestTimeoutSecs)]

/-- The tree of the statuses. -/
def Statuses.toTree (s : Statuses) : Tree :=
  .table [("success", .string s.success), ("terminal_failures", s.terminalFailures.toTree)]

/-- The tree of the retries. A budget that is not set is left out. -/
def Retry.toTree (r : Retry) : Tree :=
  .table
    (("delay_ms", .integer r.delayMs)
      :: match r.maxConsecutiveFailures with
        | some n => [("max_consecutive_failures", .integer n)]
        | none => [])

/-- The tree of the deadline. -/
def DeadlineSettings.toTree (d : DeadlineSettings) : Tree :=
  .table
    [("enabled", .boolean d.enabled),
      ("timeout_secs", .integer d.timeoutSecs),
      ("countdown", .boolean d.countdown)]

/-- The tree of the failure page. -/
def FailurePage.toTree (f : FailurePage) : Tree :=
  .table [("destination", .string f.destination), ("reason_flags", f.reasonFlags.toTree)]

/-- The tree of the logging. -/
def Logging.toTree (l : Logging) : Tree :=
  .table [("log_level", .string l.logLevel), ("json_logs", .boolean l.jsonLogs)]

/-- The tree of settings (`PollerConfig` as it is serialized). -/
def Settings.toTree (s : Settings) : Tree :=
  .table
    [("flow", s.flow.toTree),
      ("page", s.page.toTree),
      ("endpoint", s.endpoint.toTree),
      ("statuses", s.statuses.toTree),
      ("retry", s.retry.toTree),
      ("deadline", s.deadline.toTree),
      ("failure", s.failure.toTree),
      ("observability", s.logging.toTree)]

/-! ## Reading -/

open ApprovalWatch.Tree

/-- A set of names: an array. -/
def NameSet.ofTree? (t : Tree) : Option NameSet :=
  (asStrings? t).map NameSet.ofList

/-- A map of names: a table. -/
def NameMap.ofTree? (t : Tree) : Option NameMap :=
  (asStringPairs? t).map NameMap.ofList

/-- A flow: its name, or a table with nothing but the name as a key of an empty table or array
(`FlowVariant` as it is deserialized). -/
def Flow.ofTree? : Tree → Option Flow
  | .string s => Flow.ofName? s
  | .table [(s, .table [])] => Flow.ofName? s
  | .table [(s, .array [])] => Flow.ofName? s
  | _ => none

theorem Flow.ofTree?_toTree (f : Flow) : ofTree? f.toTree = some f :=
  ofName?_name f

/-- The names of a page (the fields of `PageConfig`). -/
def PageNames.ofTree? (t : Tree) : Option PageNames := do
  let f ← t.fields? ["identifier_field", "success_form", "countdown_container",
    "redirect_seconds_attribute", "countdown_number", "countdown_bar"]
  let d : PageNames := {}
  return {
    identifierField := ← field f "identifier_field" d.identifierField asString?
    successForm := ← field f "success_form" d.successForm asString?
    countdownContainer := ← field f "countdown_container" d.countdownContainer asString?
    redirectSecondsAttribute :=
      ← field f "redirect_seconds_attribute" d.redirectSecondsAttribute asString?
    countdownNumber := ← field f "countdown_number" d.countdownNumber asString?
    countdownBar := ← field f "countdown_bar" d.countdownBar asString? }

/-- An endpoint (the fields of `EndpointConfig`). -/
def Endpoint.ofTree? (t : Tree) : Option Endpoint := do
  let f ← t.fields? ["base_url", "path", "id_param", "request_timeout_secs"]
  let d : Endpoint := {}
  return {
    baseUrl := ← field f "base_url" d.baseUrl asString?
    path := ← field f "path" d.path asString?
    idParam := ← field f "id_param" d.idParam asString?
    requestTimeoutSecs := ← field f "request_timeout_secs" d.requestTimeoutSecs (asNat? 0x10000000000000000) }

/-- The statuses (the fields of `StatusConfig`). -/
def Statuses.ofTree? (t : Tree) : Option Statuses := do
  let f ← t.fields? ["success", "terminal_failures"]
  let d : Statuses := {}
  return {
    success := ← field f "success" d.success asString?
    terminalFailures := ← field f "terminal_failures" d.terminalFailures NameSet.ofTree? }

/-- The retries (the fields of `RetryConfig`). A budget has thirty-two bits. -/
def Retry.ofTree? (t : Tree) : Option Retry := do
  let f ← t.fields? ["delay_ms", "max_consecutive_failures"]
  let d : Retry := {}
  return {
    delayMs := ← field f "delay_ms" d.delayMs (asNat? 0x10000000000000000)
    maxConsecutiveFailures :=
      ← field f "max_consecutive_failures" d.maxConsecutiveFailures
        fun t => (asNat? 0x100000000 t).map some }

/-- The deadline (the fields of `DeadlineConfig`). -/
def DeadlineSettings.ofTree? (t : Tree) : Option DeadlineSettings := do
  let f ← t.fields? ["enabled", "timeout_secs", "countdown"]
  let d : DeadlineSettings := {}
  return {
    enabled := ← field f "enabled" d.enabled asBool?
    timeoutSecs := ← field f "timeout_secs" d.timeoutSecs (asNat? 0x10000000000000000)
    countdown := ← field f "countdown" d.countdown asBool? }

/-- The failure page (the fields of `FailureConfig`). -/
def FailurePage.ofTree? (t : Tree) : Option FailurePage := do
  let f ← t.fields? ["destination", "reason_flags"]
  let d : FailurePage := {}
  return {
    destination := ← field f "destination" d.destination asString?
    reasonFlags := ← field f "reason_flags" d.reasonFlags NameMap.ofTree? }

/-- The logging (the fields of `ObservabilityConfig`). -/
def Logging.ofTree? (t : Tree) : Option Logging := do
  let f ← t.fields? ["log_level", "json_logs"]
  let d : Logging := {}
  return {
    logLevel := ← field f "log_level" d.logLevel asString?
    jsonLogs := ← field f "json_logs" d.jsonLogs asBool? }

/-- The settings that a tree spells out, if every value has the type and range of its field
(`PollerConfig` as it is deserialized). -/
def Settings.ofTree? (t : Tree) : Option Settings := do
  let f ← t.fields? ["flow", "page", "endpoint", "statuses", "retry", "deadline", "failure",
    "observability"]
  let d : Settings := {}
  return {
    flow := ← field f "flow" d.flow Flow.ofTree?
    page := ← field f "page" d.page PageNames.ofTree?
    endpoint := ← field f "endpoint" d.endpoint Endpoint.ofTree?
    statuses := ← field f "statuses" d.statuses Statuses.ofTree?
    retry := ← field f "retry" d.retry Retry.ofTree?
    deadline := ← field f "deadline" d.deadline DeadlineSettings.ofTree?
    failure := ← field f "failure" d.failure FailurePage.ofTree?
    logging := ← field f "observability" d.logging Logging.ofTree? }

/-- Settings from a tree that is laid over the preset of its flow (`parse_config` after its text is
read). -/
def Settings.ofOverlay? (overlay : Tree) : Option Settings := do
  let flow ← match overlay.get? "flow" with
    | some t => Flow.ofTree? t
    | none => some .pushLogin
  ofTree? ((preset flow).toTree.merge overlay)

end ApprovalWatch
