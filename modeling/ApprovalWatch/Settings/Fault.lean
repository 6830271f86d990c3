import ApprovalWatch.Settings.Basic
import ApprovalWatch.Timeout

/-!
# Faults of settings

What may be wrong with settings that are well formed. Every rule is checked, whatever the others
say.

Main results:

* `validate_eq_ok_iff`: settings are valid exactly if no rule finds a fault.
-/

namespace ApprovalWatch

/-- A rule that settings break (`ValidationError`). -/
inductive Fault where
  | baseUrl (error : Url.Error)
  | baseUrlNotHttp
  | pathNotAbsolute
  | idParamEmpty
  | requestTimeoutZero
  | identifierFieldEmpty
  | successFormEmpty
  | successStatusEmpty
  | successIsFailure (status : String)
  | retryDelayZero
  | failureBudgetZero
  | timeoutZero
  | timeoutTooLong
  | destinationEmpty
  deriving DecidableEq, Repr

namespace Fault

/-- The setting that is at fault. -/
def field : Fault → String
  | baseUrl _ | baseUrlNotHttp => "endpoint.base_url"
  | pathNotAbsolute => "endpoint.path"
  | idParamEmpty => "endpoint.id_param"
  | requestTimeoutZero => "endpoint.request_timeout_secs"
  | identifierFieldEmpty => "page.identifier_field"
  | successFormEmpty => "page.success_form"
  | successStatusEmpty => "statuses.success"
  | successIsFailure _ => "statuses.terminal_failures"
  | retryDelayZero => "retry.delay_ms"
  | failureBudgetZero => "retry.max_consecutive_failures"
  | timeoutZero | timeoutTooLong => "deadline.timeout_secs"
  | destinationEmpty => "failure.destination"

/-- What is wrong with it. -/
def message : Fault → String
  | baseUrl e => e.message
  | baseUrlNotHttp => "must be an absolute http(s) URL"
  | pathNotAbsolute => "must start with '/'"
  | idParamEmpty | identifierFieldEmpty | successFormEmpty | successStatusEmpty
  | destinationEmpty => "must not be empty"
  | requestTimeoutZero | retryDelayZero | timeoutZero => "must be greater than 0"
  | successIsFailure status => "contains the success status '" ++ status ++ "'"
  | failureBudgetZero => "must be greater than 0 when set"
  | timeoutTooLong => "must be at most " ++ toString Timeout.maxSecs

/-- The setting and what is wrong with it. -/
def describe (f : Fault) : String :=
  f.field ++ ": " ++ f.message

end Fault

/-! ## Rules -/

/-- The fault of a base URL (the checks of `base_url` in `validate_config`). -/
def Endpoint.baseUrlFault? (e : Endpoint) : Option Fault :=
  match Url.parse e.baseUrl with
  | .error error => some (.baseUrl error)
  | .ok u =>
    if u.isOpaque || !(u.scheme = "http".toList || u.scheme = "https".toList) then
      some .baseUrlNotHttp
    else none

/-- The fault of a timeout (the checks of `timeout_secs` in `validate_config`). -/
def DeadlineSettings.timeoutFault? (d : DeadlineSettings) : Option Fault :=
  if d.timeoutSecs = 0 then some .timeoutZero
  else if Timeout.maxSecs < d.timeoutSecs then some .timeoutTooLong
  else none

namespace Settings

/-- The findings of all rules, in their order (the checks of `validate_config`). -/
def findings (s : Settings) : List (Option Fault) :=
  let require := fun (ok : Bool) (f : Fault) => if ok then none else some f
  [ s.endpoint.baseUrlFault?,
    require (s.endpoint.path.toList.head? = some '/') .pathNotAbsolute,
    require (s.endpoint.idParam ≠ "") .idParamEmpty,
    require (s.endpoint.requestTimeoutSecs ≠ 0) .requestTimeoutZero,
    require (s.page.identifierField ≠ "") .identifierFieldEmpty,
    require (s.page.successForm ≠ "") .successFormEmpty,
    require (s.statuses.success ≠ "") .successStatusEmpty,
    require (s.statuses.success ∉ s.statuses.terminalFailures)
      (.successIsFailure s.statuses.success),
    require (s.retry.delayMs ≠ 0) .retryDelayZero,
    require (s.retry.maxConsecutiveFailures ≠ some 0) .failureBudgetZero,
    s.deadline.timeoutFault?,
    require (s.failure.destination ≠ "") .destinationEmpty ]

/-- The faults of the settings (`errors` of `validate_config`). -/
def faults (s : Settings) : List Fault :=
  s.findings.filterMap id

/-- Tells whether the settings are valid, with every fault if they are not (`validate_config`). -/
def validate (s : Settings) : Except (List Fault) Unit :=
  if s.faults.isEmpty then .ok () else .error s.faults

theorem faults_eq_nil_iff {s : Settings} : s.faults = [] ↔ ∀ f ∈ s.findings, f = none := by
  simp only [faults, List.filterMap_eq_nil_iff, id]

theorem validate_eq_ok_iff {s : Settings} :
    s.validate = .ok () ↔ ∀ f ∈ s.findings, f = none := by
  rw [← faults_eq_nil_iff, validate]
  cases s.faults <;> simp

end Settings

end ApprovalWatch
