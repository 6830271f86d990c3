import ApprovalWatch.Names
import ApprovalWatch.Url.Reference

/-!
# Settings of a session

What a session waits for, where it asks, how often, how long, and where it leads.

Main results:

* `Endpoint.statusUrl_query`: the identifier goes into the query of a URL that does not depend on
  it.
* `FailurePage.destinationFor_of_unmapped`: a reason without a flag leads to the plain destination.
-/

namespace ApprovalWatch

/-! ## Parts -/

/-- The kind of page that a session belongs to (`FlowVariant`). -/
inductive Flow where
  | pushLogin
  | pushKey
  | registration
  deriving DecidableEq, Repr

/-- The name of a flow in settings files and on the command line (`FlowVariant.as_str`). -/
def Flow.name : Flow → String
  | pushLogin => "push-login"
  | pushKey => "push-key"
  | registration => "registration"

/-- The flow of a name (`FlowVariant.from_str`). -/
def Flow.ofName? : String → Option Flow
  | "push-login" => some pushLogin
  | "push-key" => some pushKey
  | "registration" => some registration
  | _ => none

theorem Flow.ofName?_name (f : Flow) : ofName? f.name = some f := by
  cases f <;> rfl

/-- What is said about a name that no flow has (the error of `FlowVariant.from_str`). -/
def Flow.unknownMessage (name : String) : String :=
  "unknown flow '" ++ name ++ "'"

/-- Names of the elements of the page that a session reads and writes (`PageConfig`). -/
structure PageNames where
  identifierField : String := "pushAuthPushId"
  successForm : String := "push-approve-form"
  countdownContainer : String := "countdown"
  redirectSecondsAttribute : String := "redirect-seconds"
  countdownNumber : String := "countdown-number"
  countdownBar : String := "countdown-bar"
  deriving DecidableEq, Repr

/-- Where the status of an operation is asked for (`EndpointConfig`). -/
structure Endpoint where
  baseUrl : String := "http://localhost:8080"
  path : String := "/cas/inalogy/check/login"
  idParam : String := "pushId"
  requestTimeoutSecs : Nat := 10
  deriving DecidableEq, Repr

/-- The statuses that end a session (`StatusConfig`). -/
structure Statuses where
  success : String := "APPROVED"
  terminalFailures : NameSet := NameSet.ofList ["REJECTED", "EXPIRED"]
  deriving DecidableEq, Repr

/-- When the next attempt follows, and after how many failed ones in a row none does
(`RetryConfig`). -/
structure Retry where
  delayMs : Nat := 2200
  maxConsecutiveFailures : Option Nat := none
  deriving DecidableEq, Repr

/-- Whether a session has a deadline, the timeout where the page does not give one, and whether the
page shows the time that is left (`DeadlineConfig`). -/
structure DeadlineSettings where
  enabled : Bool := true
  timeoutSecs : Nat := 45
  countdown : Bool := true
  deriving DecidableEq, Repr

/-- Where a failure leads, and the flag that tells its reason there (`FailureConfig`). -/
structure FailurePage where
  destination : String := "/cas/login"
  reasonFlags : NameMap := NameMap.empty
  deriving DecidableEq, Repr

/-- What is logged, and how (`ObservabilityConfig`). -/
structure Logging where
  logLevel : String := "info"
  jsonLogs : Bool := false
  deriving DecidableEq, Repr

/-- The settings of a session (`PollerConfig`). -/
structure Settings where
  flow : Flow := .pushLogin
  page : PageNames := {}
  endpoint : Endpoint := {}
  statuses : Statuses := {}
  retry : Retry := {}
  deadline : DeadlineSettings := {}
  failure : FailurePage := {}
  logging : Logging := {}
  deriving DecidableEq, Repr

/-! ## Presets -/

/-- The settings that a flow starts from (`PollerConfig.for_flow`). -/
def Settings.preset : Flow → Settings
  | .pushLogin => {}
  | .pushKey =>
    { flow := .pushKey
      page := { identifierField := "pushAuthKeyId" }
      endpoint := { path := "/cas/inalogy/check", idParam := "keyId" }
      retry := { delayMs := 3000 }
      deadline := { enabled := false, countdown := false }
      failure :=
        { reasonFlags := NameMap.ofList [("REJECTED", "pushFailed"), ("EXPIRED", "pushTimeout")] } }
  | .registration =>
    { flow := .registration
      page := { identifierField := "regRequestId", successForm := "registration-form" }
      endpoint := { path := "/cas/inalogy/check/registration", idParam := "requestId" }
      statuses := { success := "REGISTERED" } }

theorem Settings.preset_flow (f : Flow) : (preset f).flow = f := by
  cases f <;> rfl

/-! ## URLs -/

/-- The URL that an endpoint has without an identifier (what `EndpointConfig.status_url` joins). -/
def Endpoint.url (e : Endpoint) : Except Url.Error Url := do
  (← Url.parse e.baseUrl).join e.path

/-- The URL that tells the status of an operation (`EndpointConfig.status_url`). -/
def Endpoint.statusUrl (e : Endpoint) (identifier : String) : Except Url.Error Url := do
  return (← e.url).appendPair e.idParam.toList identifier.toList

theorem Endpoint.statusUrl_query {e : Endpoint} {u : Url} (h : e.url = .ok u)
    (identifier : String) :
    e.statusUrl identifier = .ok (u.appendPair e.idParam.toList identifier.toList) := by
  simp [statusUrl, h, bind, Except.bind, pure, Except.pure]

/-- The location that a failure with the given reason code leads to: a flag that is set for the code
is added to the query of the destination (`FailureConfig.destination_for`). -/
def FailurePage.destinationFor (f : FailurePage) (code : String) : String :=
  match f.reasonFlags.get? code with
  | none => f.destination
  | some flag =>
    let mark := if f.destination.toList.contains '?' then "&" else "?"
    f.destination ++ mark ++ String.ofList (Url.Form.encodePair flag.toList "true".toList)

theorem FailurePage.destinationFor_of_unmapped {f : FailurePage} {code : String}
    (h : f.reasonFlags.get? code = none) : f.destinationFor code = f.destination := by
  simp [destinationFor, h]

end ApprovalWatch
