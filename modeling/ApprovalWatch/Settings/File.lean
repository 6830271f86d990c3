import ApprovalWatch.Settings.Fault
import ApprovalWatch.Settings.Tree
import ApprovalWatch.Text.Utf8
import ApprovalWatch.Toml.Document

/-!
# Settings from files

A settings file is laid over the preset of its flow, and what comes out has to be valid.

Main results:

* `parse_eq_ok`: settings that are read from a file are valid.
-/

namespace ApprovalWatch

/-- Why no settings are read (`ConfigError`). -/
inductive LoadError where
  /-- There is no such file, or it holds no text. -/
  | unreadable
  /-- The text is not in the format, or a value does not fit its setting. -/
  | malformed
  | invalid (faults : List Fault)
  deriving DecidableEq, Repr

namespace LoadError

/-- The name of the kind of error. -/
def kind : LoadError → String
  | unreadable => "Io"
  | malformed => "Parse"
  | invalid _ => "Validation"

/-- What is said about settings that are not valid, with `join_errors`. -/
def message (faults : List Fault) : String :=
  "Validation failed: " ++ ", ".intercalate (faults.map Fault.describe)

end LoadError

namespace Settings

/-- The settings, if they are valid (the last step of `parse_config`). -/
def checked (s : Settings) : Except LoadError Settings :=
  match s.validate with
  | .ok _ => .ok s
  | .error faults => .error (.invalid faults)

theorem checked_eq_ok_iff {s t : Settings} : s.checked = .ok t ↔ s = t ∧ s.validate = .ok () := by
  unfold checked
  split <;> simp_all

/-- The settings that the text of a file spells out (`parse_config`). -/
def parse (text : String) : Except LoadError Settings :=
  match (Toml.parse? text.toList).bind ofOverlay? with
  | none => .error .malformed
  | some s => s.checked

theorem parse_eq_ok {text : String} {s : Settings} (h : parse text = .ok s) :
    s.validate = .ok () := by
  unfold parse at h
  split at h
  · simp at h
  · obtain ⟨rfl, hv⟩ := checked_eq_ok_iff.1 h
    exact hv

/-- The settings of a file, given its bytes if it is there (`load_config`). -/
def load (file : Option (List UInt8)) : Except LoadError Settings :=
  match file.bind Utf8.toString? with
  | none => .error .unreadable
  | some text => parse text

end Settings

end ApprovalWatch
