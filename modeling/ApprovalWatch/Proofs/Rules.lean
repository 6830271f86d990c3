import ApprovalWatch.Settings.Fault
import Mathlib.Data.List.Forall2
import Mathlib.Data.List.Nodup

/-!
# The rules of settings

Settings are valid if they keep twelve rules, each about one setting. What breaks them is told rule
by rule: once for each rule that is broken, in the order of the rules, whatever the others say.

Main results:

* `Rule.found`: what is found is what the rules ask for.
* `Settings.holds_of_valid`: valid settings keep every rule.
* `Settings.validate_exact`: when settings are valid, and what is told about those that are not.
* `Settings.preset_valid`: the settings that a flow starts from are valid.
-/

namespace ApprovalWatch

/-- The rules that settings have to keep. -/
inductive Rule where
  | baseUrl
  | path
  | idParam
  | requestTimeout
  | identifierField
  | successForm
  | success
  | terminalFailures
  | delay
  | budget
  | timeout
  | destination
  deriving DecidableEq, Repr

namespace Rule

variable {s s' : Settings} {r : Rule} {faults : List Fault}

/-- The rules in their order. -/
def all : List Rule :=
  [baseUrl, path, idParam, requestTimeout, identifierField, successForm, success, terminalFailures,
    delay, budget, timeout, destination]

/-- The setting that is at fault where a rule is broken. -/
def field : Rule → String
  | baseUrl => "endpoint.base_url"
  | path => "endpoint.path"
  | idParam => "endpoint.id_param"
  | requestTimeout => "endpoint.request_timeout_secs"
  | identifierField => "page.identifier_field"
  | successForm => "page.success_form"
  | success => "statuses.success"
  | terminalFailures => "statuses.terminal_failures"
  | delay => "retry.delay_ms"
  | budget => "retry.max_consecutive_failures"
  | timeout => "deadline.timeout_secs"
  | destination => "failure.destination"

/-- The settings keep the rule. -/
def Holds (s : Settings) : Rule → Prop
  | baseUrl => ∃ u, Url.parse s.endpoint.baseUrl = .ok u ∧ u.isOpaque = false ∧
      (u.scheme = "http".toList ∨ u.scheme = "https".toList)
  | path => ∃ rest, s.endpoint.path.toList = '/' :: rest
  | idParam => s.endpoint.idParam ≠ ""
  | requestTimeout => 0 < s.endpoint.requestTimeoutSecs
  | identifierField => s.page.identifierField ≠ ""
  | successForm => s.page.successForm ≠ ""
  | success => s.statuses.success ≠ ""
  | terminalFailures => s.statuses.success ∉ s.statuses.terminalFailures
  | delay => 0 < s.retry.delayMs
  | budget => ∀ n, s.retry.maxConsecutiveFailures = some n → 0 < n
  | timeout => 0 < s.deadline.timeoutSecs ∧ s.deadline.timeoutSecs ≤ 2147483
  | destination => s.failure.destination ≠ ""

/-- Settings are the same in all that a rule speaks of. -/
def SameIn (s s' : Settings) : Rule → Prop
  | baseUrl => s.endpoint.baseUrl = s'.endpoint.baseUrl
  | path => s.endpoint.path = s'.endpoint.path
  | idParam => s.endpoint.idParam = s'.endpoint.idParam
  | requestTimeout => s.endpoint.requestTimeoutSecs = s'.endpoint.requestTimeoutSecs
  | identifierField => s.page.identifierField = s'.page.identifierField
  | successForm => s.page.successForm = s'.page.successForm
  | success => s.statuses.success = s'.statuses.success
  | terminalFailures => s.statuses.success = s'.statuses.success ∧
      s.statuses.terminalFailures = s'.statuses.terminalFailures
  | delay => s.retry.delayMs = s'.retry.delayMs
  | budget => s.retry.maxConsecutiveFailures = s'.retry.maxConsecutiveFailures
  | timeout => s.deadline.timeoutSecs = s'.deadline.timeoutSecs
  | destination => s.failure.destination = s'.failure.destination

theorem mem_all (r : Rule) : r ∈ all := by
  cases r <;> decide

theorem nodup_fields : (all.map field).Nodup := by
  decide

theorem field_injective : Function.Injective field :=
  fun _ _ h => List.inj_on_of_nodup_map nodup_fields (mem_all _) (mem_all _) h

theorem SameIn.holds_iff (h : r.SameIn s s') : r.Holds s ↔ r.Holds s' := by
  cases r with
  | terminalFailures =>
    obtain ⟨hsuccess, hfailures⟩ := h
    rw [Holds, Holds, hsuccess, hfailures]
  | _ =>
    rw [SameIn] at h
    rw [Holds, Holds, h]

/-! ## What is found for a rule -/

/-- What is found says whether the rule is kept, and speaks of its setting if it is not. -/
structure Tells (s : Settings) (r : Rule) (f : Option Fault) : Prop where
  eq_none_iff : f = none ↔ r.Holds s
  field_eq : ∀ x ∈ f, x.field = r.field

theorem tells_ite {p : Prop} [Decidable p] {f : Fault} (h : p ↔ r.Holds s)
    (hf : f.field = r.field) : r.Tells s (if p then none else some f) := by
  by_cases hp : p
  · rw [if_pos hp]
    exact ⟨iff_of_true rfl (h.mp hp), nofun⟩
  · rw [if_neg hp]
    refine ⟨iff_of_false nofun fun hr => hp (h.mpr hr), ?_⟩
    rintro x ⟨⟩
    exact hf

theorem tells_baseUrl (s : Settings) : baseUrl.Tells s s.endpoint.baseUrlFault? := by
  rw [Endpoint.baseUrlFault?]
  cases hparse : Url.parse s.endpoint.baseUrl with
  | error e =>
    refine ⟨iff_of_false nofun ?_, ?_⟩
    · rintro ⟨u, hu, -⟩
      rw [hparse] at hu
      cases hu
    · rintro x ⟨⟩
      rfl
  | ok u =>
    have hholds : baseUrl.Holds s ↔
        ¬ (u.isOpaque || !(u.scheme = "http".toList || u.scheme = "https".toList)) = true := by
      simp [Holds, hparse, or_iff_not_imp_left]
    dsimp only
    rw [← ite_not]
    exact tells_ite hholds.symm rfl

theorem tells_timeout (s : Settings) : timeout.Tells s s.deadline.timeoutFault? := by
  rw [DeadlineSettings.timeoutFault?]
  by_cases hzero : s.deadline.timeoutSecs = 0
  · rw [if_pos hzero]
    refine ⟨iff_of_false nofun fun h => Nat.ne_of_gt h.1 hzero, ?_⟩
    rintro x ⟨⟩
    rfl
  · rw [if_neg hzero, ← ite_not]
    refine tells_ite ⟨fun h => ⟨Nat.pos_of_ne_zero hzero, Nat.not_lt.mp h⟩, fun h => ?_⟩ rfl
    exact Nat.not_lt.mpr h.2

theorem budget_holds_iff : s.retry.maxConsecutiveFailures ≠ some 0 ↔ budget.Holds s := by
  rw [Holds]
  cases s.retry.maxConsecutiveFailures with
  | none => simp
  | some n => simp [Nat.pos_iff_ne_zero]

/-- What is found for a rule. -/
def finding (s : Settings) : Rule → Option Fault
  | baseUrl => s.endpoint.baseUrlFault?
  | path => if s.endpoint.path.toList.head? = some '/' then none else some .pathNotAbsolute
  | idParam => if s.endpoint.idParam ≠ "" then none else some .idParamEmpty
  | requestTimeout => if s.endpoint.requestTimeoutSecs ≠ 0 then none else some .requestTimeoutZero
  | identifierField => if s.page.identifierField ≠ "" then none else some .identifierFieldEmpty
  | successForm => if s.page.successForm ≠ "" then none else some .successFormEmpty
  | success => if s.statuses.success ≠ "" then none else some .successStatusEmpty
  | terminalFailures =>
    if s.statuses.success ∉ s.statuses.terminalFailures then none
    else some (.successIsFailure s.statuses.success)
  | delay => if s.retry.delayMs ≠ 0 then none else some .retryDelayZero
  | budget => if s.retry.maxConsecutiveFailures ≠ some 0 then none else some .failureBudgetZero
  | timeout => s.deadline.timeoutFault?
  | destination => if s.failure.destination ≠ "" then none else some .destinationEmpty

theorem findings_eq (s : Settings) : s.findings = all.map (finding s) := by
  simp only [Settings.findings, all, List.map_cons, List.map_nil, finding, decide_eq_true_eq]

/-- What is found for a rule is what it asks for. -/
theorem tells_finding (s : Settings) (r : Rule) : r.Tells s (finding s r) := by
  cases r with
  | baseUrl => exact tells_baseUrl s
  | path => exact tells_ite List.head?_eq_some_iff rfl
  | requestTimeout | delay => exact tells_ite Nat.pos_iff_ne_zero.symm rfl
  | idParam | identifierField | successForm | success | destination => exact tells_ite Iff.rfl rfl
  | terminalFailures => exact tells_ite Iff.rfl rfl
  | budget => exact tells_ite budget_holds_iff rfl
  | timeout => exact tells_timeout s

/-- What is found is what the rules ask for, one after the other. -/
theorem found (s : Settings) : List.Forall₂ (fun r f => r.Tells s f) all s.findings := by
  rw [findings_eq, List.forall₂_map_right_iff, List.forall₂_same]
  exact fun r _ => tells_finding s r

instance (s : Settings) (r : Rule) : Decidable (r.Holds s) :=
  match r with
  | baseUrl => decidable_of_iff _ (tells_baseUrl s).eq_none_iff
  | path => decidable_of_iff (s.endpoint.path.toList.head? = some '/') List.head?_eq_some_iff
  | idParam => inferInstanceAs (Decidable (s.endpoint.idParam ≠ ""))
  | requestTimeout => inferInstanceAs (Decidable (0 < s.endpoint.requestTimeoutSecs))
  | identifierField => inferInstanceAs (Decidable (s.page.identifierField ≠ ""))
  | successForm => inferInstanceAs (Decidable (s.page.successForm ≠ ""))
  | success => inferInstanceAs (Decidable (s.statuses.success ≠ ""))
  | terminalFailures =>
    inferInstanceAs (Decidable (s.statuses.success ∉ s.statuses.terminalFailures))
  | delay => inferInstanceAs (Decidable (0 < s.retry.delayMs))
  | budget => decidable_of_iff (s.retry.maxConsecutiveFailures ≠ some 0) budget_holds_iff
  | timeout =>
    inferInstanceAs (Decidable (0 < s.deadline.timeoutSecs ∧ s.deadline.timeoutSecs ≤ 2147483))
  | destination => inferInstanceAs (Decidable (s.failure.destination ≠ ""))

/-- What is told about broken rules, in their order. -/
theorem map_field_of_forall₂ {rules : List Rule} {fs : List (Option Fault)}
    (h : List.Forall₂ (fun r f => r.Tells s f) rules fs) :
    (fs.filterMap id).map Fault.field = (rules.filter fun r => ¬ r.Holds s).map field := by
  induction h with
  | nil => rfl
  | @cons r f rules fs hr _ ih =>
    cases f with
    | none =>
      have hholds : r.Holds s := hr.eq_none_iff.mp rfl
      rw [List.filterMap_cons_none rfl, ih, List.filter_cons_of_neg (by simpa using hholds)]
    | some x =>
      have hbroken : ¬ r.Holds s := fun h => Option.some_ne_none x (hr.eq_none_iff.mpr h)
      have hcons : (some x :: fs).filterMap id = x :: fs.filterMap id :=
        List.filterMap_cons_some rfl
      rw [hcons, List.map_cons, ih, hr.field_eq x rfl,
        List.filter_cons_of_pos (by simpa using hbroken), List.map_cons]

theorem map_field_faults (s : Settings) :
    s.faults.map Fault.field = (all.filter fun r => ¬ r.Holds s).map field :=
  map_field_of_forall₂ (found s)

end Rule

namespace Settings

variable {s : Settings}

theorem validate_eq_ok_iff_holds : s.validate = .ok () ↔ ∀ r : Rule, r.Holds s := by
  have hfields := Rule.map_field_faults s
  have hvalid : s.validate = .ok () ↔ s.faults = [] := by
    rw [validate_eq_ok_iff, faults_eq_nil_iff]
  rw [hvalid, ← List.map_eq_nil_iff, hfields, List.map_eq_nil_iff, List.filter_eq_nil_iff]
  simp [Rule.mem_all]

theorem holds_of_valid (valid : s.validate = .ok ()) (r : Rule) : r.Holds s :=
  validate_eq_ok_iff_holds.mp valid r

/-- Settings are as valid as others that are the same in all that the rules speak of. -/
theorem validate_of_sameIn {s' : Settings} (valid : s.validate = .ok ())
    (same : ∀ r : Rule, r.SameIn s s') : s'.validate = .ok () :=
  validate_eq_ok_iff_holds.mpr fun r => (same r).holds_iff.mp (holds_of_valid valid r)

theorem mem_fields_iff (s : Settings) (r : Rule) :
    r.field ∈ s.faults.map Fault.field ↔ ¬ r.Holds s := by
  rw [Rule.map_field_faults, List.mem_map_of_injective Rule.field_injective, List.mem_filter]
  simp [Rule.mem_all]

/-- **What is told about settings.** They are valid if and only if they keep all rules. If they do
not, each rule that they break is told once, in the order of the rules, and no other. Whether a rule
is told depends only on the settings that it speaks of. -/
theorem validate_exact (s : Settings) :
    (s.validate = .ok () ↔ ∀ r : Rule, r.Holds s) ∧
    ((¬ ∀ r : Rule, r.Holds s) → s.validate = .error s.faults) ∧
    s.faults.map Fault.field = (Rule.all.filter fun r => ¬ r.Holds s).map Rule.field ∧
    (∀ r, r ∈ Rule.all) ∧ (Rule.all.map Rule.field).Nodup ∧
    ∀ s' (r : Rule), r.SameIn s s' →
      (r.field ∈ s.faults.map Fault.field ↔ r.field ∈ s'.faults.map Fault.field) := by
  refine ⟨validate_eq_ok_iff_holds, fun hbroken => ?_, Rule.map_field_faults s, Rule.mem_all,
    Rule.nodup_fields, fun s' r hsame => ?_⟩
  · rw [← validate_eq_ok_iff_holds, validate] at hbroken
    rw [validate, if_neg]
    intro hempty
    exact hbroken (if_pos hempty)
  · rw [mem_fields_iff, mem_fields_iff, hsame.holds_iff]

/-- Settings that break four rules at once. -/
example :
    ({ endpoint := { baseUrl := "not a url" }
       statuses := { terminalFailures := NameSet.ofList ["REJECTED", "EXPIRED", "APPROVED"] }
       retry := { delayMs := 0 }
       deadline := { timeoutSecs := 0 } } : Settings).faults.map Fault.field =
      ["endpoint.base_url", "statuses.terminal_failures", "retry.delay_ms",
        "deadline.timeout_secs"] := by
  decide +kernel

theorem preset_valid (f : Flow) : (preset f).validate = .ok () := by
  cases f <;> exact validate_eq_ok_iff.mpr (by decide +kernel)

end Settings

end ApprovalWatch
