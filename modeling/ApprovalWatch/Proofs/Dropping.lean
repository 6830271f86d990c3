import ApprovalWatch.Proofs.Accounts
import ApprovalWatch.Proofs.Moves

/-!
# Queries that are dropped

An attempt that is given up while its query is in flight leaves the state of the query, its
identifier, and one more query in the count. Whatever follows goes the same way as without it: a
trial and the one that the dropped query is missing from stay in step, move by move and step by
step. All lists have the latest entry first.

Main results:

* `Trails.move`, `Trails.step`: trials that differ by a dropped query go the same way.
* `Drops.trails`: a dropped query makes such a difference.
* `Runs.drops_or_idle`: a run that is cancelled drops the query in flight, or changes nothing.
* `Passes.dropped_of_querying`: only a dropped query is seen in flight between steps.
-/

namespace ApprovalWatch

/-- The state that a transition leaves. -/
def Transition.state : Transition → InquiryState
  | .retry _ => .scheduledRetry
  | .resolve (.success _) => .resolvedSuccess
  | .resolve (.failure _) => .resolvedFailure

theorem Transition.state_ne_querying (tr : Transition) (id : String) :
    tr.state ≠ .querying id := by
  unfold state
  split <;> simp

/-! ## Inquiries -/

namespace Inquiry

variable {s : Settings} {q q' : Inquiry} {settled : Prop}

/-- An inquiry that differs from another by a query that was dropped, and in the state unless that
is settled since. -/
structure Trails (settled : Prop) (q q' : Inquiry) : Prop where
  tally : q.tally = { q'.tally with queries := q'.tally.queries + 1 }
  state : settled → q.state = q'.state

theorem Trails.mono {settled' : Prop} (h : q.Trails settled q') (imp : settled' → settled) :
    q.Trails settled' q' :=
  ⟨h.tally, fun settles => h.state (imp settles)⟩

theorem Trails.missIdentifier (h : q.Trails settled q') :
    q.missIdentifier.Trails True q'.missIdentifier := by
  refine ⟨?_, fun _ => rfl⟩
  rw [Inquiry.missIdentifier, Inquiry.missIdentifier, h.tally]

theorem Trails.ask (h : q.Trails settled q') (id : String) :
    (q.ask id).Trails True (q'.ask id) := by
  refine ⟨?_, fun _ => rfl⟩
  rw [Inquiry.ask, Inquiry.ask, h.tally]

/-- A reply is decided on in the same way, whatever was dropped before. -/
theorem Trails.interpret (h : q.Trails settled q') (s : Settings) (reply : Reply) :
    (q.interpret s reply).1.Trails True (q'.interpret s reply).1 ∧
      (q.interpret s reply).2 = (q'.interpret s reply).2 := by
  cases reply with
  | ok status =>
    simp only [Inquiry.interpret, h.tally]
    split
    · exact ⟨⟨rfl, fun _ => rfl⟩, rfl⟩
    · split
      · exact ⟨⟨rfl, fun _ => rfl⟩, rfl⟩
      · exact ⟨⟨rfl, fun _ => rfl⟩, rfl⟩
  | error e =>
    simp only [Inquiry.interpret, h.tally]
    split
    · exact ⟨⟨rfl, fun _ => rfl⟩, rfl⟩
    · exact ⟨⟨rfl, fun _ => rfl⟩, rfl⟩

theorem interpret_state (s : Settings) (q : Inquiry) (reply : Reply) :
    (q.interpret s reply).1.state = (q.interpret s reply).2.state := by
  unfold Inquiry.interpret
  split <;> simp only <;> repeat' split
  all_goals rfl

end Inquiry

/-! ## Attempts -/

namespace Attempts

variable {σ ρ : Type} {s : Settings} {a b : Attempts σ} {settled : Prop}

/-- Attempts that differ from others by a query that was dropped: they have the same answers to
come, the same measurements, and the same query in flight, if any. -/
structure Trails (settled : Prop) (a b : Attempts σ) : Prop where
  inquiry : a.inquiry.Trails settled b.inquiry
  source : a.source = b.source
  metrics : a.journal.metrics = b.journal.metrics
  flight : a.flight? = b.flight?

theorem Trails.mono {settled' : Prop} (h : a.Trails settled b) (imp : settled' → settled) :
    a.Trails settled' b :=
  { h with inquiry := h.inquiry.mono imp }

/-- The same follows from what attempts did, which settled their state. -/
structure Matches (x y : Attempts σ × ρ) : Prop where
  trails : x.1.Trails True y.1
  activity : x.1.activity = y.1.activity
  result : x.2 = y.2

theorem Trails.miss (h : a.Trails settled b) (s : Settings) (nowMs : Nat) :
    (a.miss s nowMs).Trails True (b.miss s nowMs) where
  inquiry := h.inquiry.missIdentifier
  source := h.source
  metrics := congrArg (Metric.identifierRetry :: ·) h.metrics
  flight := rfl

theorem Trails.launch (h : a.Trails settled b) (nowMs : Nat) (id : String) (answer : Answer)
    (source : σ) :
    (a.launch nowMs id answer source).Trails True (b.launch nowMs id answer source) where
  inquiry := h.inquiry.ask id
  source := rfl
  metrics := h.metrics
  flight := rfl

theorem Trails.complete (h : a.Trails settled b) (s : Settings) (nowMs sinceMs : Nat)
    (reply : Reply) :
    Matches (Attempts.complete s a nowMs sinceMs reply)
      (Attempts.complete s b nowMs sinceMs reply) := by
  obtain ⟨hinquiry, htr⟩ := h.inquiry.interpret s reply
  refine ⟨⟨hinquiry, h.source, ?_, ?_⟩, ?_, htr⟩
  · simp only [Attempts.complete, Journal.measure, Journal.land, htr, h.metrics]
  · rw [flight?_complete, flight?_complete]
  · simp only [Attempts.complete, htr]

theorem Trails.abandon (h : a.Trails settled b) : a.abandon.Trails settled b.abandon where
  inquiry := by
    rw [abandon_inquiry, abandon_inquiry]
    exact h.inquiry
  source := by rw [abandon_source, abandon_source, h.source]
  metrics := by rw [abandon_metrics, abandon_metrics, h.metrics]
  flight := by rw [flight?_abandon, flight?_abandon]

/-- An attempt begins in the same way, whatever was dropped before. -/
theorem Trails.begin (h : a.Trails settled b) (s : Settings) (ask : Source σ) (nowMs : Nat)
    (identifier : Option String) :
    Matches (Attempts.begin s ask a nowMs identifier)
      (Attempts.begin s ask b nowMs identifier) := by
  cases identifier with
  | none => exact ⟨h.miss s nowMs, rfl, rfl⟩
  | some id =>
    rw [begin_some, begin_some, ← h.source]
    dsimp only
    have launched := h.launch nowMs id (ask a.source id).1 (ask a.source id).2
    split
    · obtain ⟨trails, hactivity, htr⟩ := launched.complete s nowMs nowMs (ask a.source id).1.reply
      exact ⟨trails, hactivity, congrArg some htr⟩
    · exact ⟨launched, rfl, rfl⟩

/-- What is due is done in the same way. -/
theorem Trails.act (h : a.Trails settled b) (same : a.activity = b.activity) {dueMs : Nat}
    (due : a.due? = some dueMs) (s : Settings) (ask : Source σ) (nowMs : Nat)
    (identifier : Option String) :
    Matches (Attempts.act s ask a nowMs identifier) (Attempts.act s ask b nowMs identifier) := by
  unfold Attempts.act
  rw [← same]
  cases hact : a.activity with
  | resting => exact h.begin s ask nowMs identifier
  | asking sinceMs answer =>
    obtain ⟨trails, hactivity, htr⟩ := h.complete s nowMs sinceMs answer.reply
    exact ⟨trails, hactivity, congrArg some htr⟩
  | ended => simp [due?, hact] at due

end Attempts

/-! ## Trials -/

namespace Trial

variable {σ ρ : Type} {ask : Source σ} {t t' u v : Trial σ} {settled : Prop}

/-- A trial that differs from another by a query that was dropped. -/
structure Trails (settled : Prop) (t t' : Trial σ) : Prop where
  settings : t.settings = t'.settings
  page : t.page = t'.page
  nowMs : t.nowMs = t'.nowMs
  attempts : t.attempts.Trails settled t'.attempts

theorem Trails.mono {settled' : Prop} (h : t.Trails settled t') (imp : settled' → settled) :
    t.Trails settled' t' :=
  { h with attempts := h.attempts.mono imp }

theorem Trails.exists_attempts (h : t.Trails settled t') :
    ∃ b, t.attempts.Trails settled b ∧ t' = { t with attempts := b } := by
  obtain ⟨hsettings, hpage, hnow, hattempts⟩ := h
  refine ⟨t'.attempts, hattempts, ?_⟩
  rw [hsettings, hpage, hnow]

/-- The same comes of trials that differ by a query that was dropped. -/
structure Matches (settled : Prop) (x y : Trial σ × ρ) : Prop where
  trails : x.1.Trails settled y.1
  result : x.2 = y.2

/-- Attempts and replies from nowhere settle the state. -/
def Move.settles : Move → Bool
  | .look | .interpret _ => true
  | _ => false

/-- Trials that differ by a dropped query go the same way, move by move. -/
theorem Trails.move (h : t.Trails settled t') (ask : Source σ) (m : Move) :
    Matches (settled ∨ m.settles = true) (t.move ask m) (t'.move ask m) := by
  obtain ⟨b, ha, rfl⟩ := h.exists_attempts
  have still : settled ∨ false = true → settled := (·.resolve_right Bool.false_ne_true)
  cases m with
  | page | wait => exact ⟨⟨rfl, rfl, rfl, ha.mono still⟩, rfl⟩
  | look =>
    cases hid : t.identifier? with
    | none =>
      rw [move_look_none hid, move_look_none (t := { t with attempts := b }) hid]
      exact ⟨⟨rfl, rfl, rfl, (ha.miss ..).mono fun _ => trivial⟩, rfl⟩
    | some id =>
      rw [move_look_some hid, move_look_some (t := { t with attempts := b }) hid, ← ha.source]
      exact ⟨⟨rfl, rfl, rfl, (ha.launch ..).mono fun _ => trivial⟩, rfl⟩
  | reply =>
    cases flight : t.attempts.flight? with
    | none =>
      rw [Trial.move, Trial.move, flight, ← ha.flight, flight]
      exact ⟨⟨rfl, rfl, rfl, ha.mono still⟩, rfl⟩
    | some query =>
      have flight' : b.flight? = some query := ha.flight.symm.trans flight
      rw [move_reply_some flight, move_reply_some (t := { t with attempts := b }) flight']
      obtain ⟨trails, -, htr⟩ := ha.complete t.settings t.nowMs query.1 query.2.reply
      exact ⟨⟨rfl, rfl, rfl, trails.mono fun _ => trivial⟩, congrArg some htr⟩
  | drop => exact ⟨⟨rfl, rfl, rfl, ha.abandon.mono still⟩, rfl⟩
  | interpret reply =>
    obtain ⟨hinquiry, htr⟩ := ha.inquiry.interpret t.settings reply
    exact ⟨⟨rfl, rfl, rfl, { ha with inquiry := hinquiry.mono fun _ => trivial }⟩,
      congrArg some htr⟩

theorem Trails.after (h : t.Trails settled t') (ask : Source σ) (ms : List Move) :
    (t.after ask ms).Trails (settled ∨ ms.any Move.settles = true) (t'.after ask ms) := by
  induction ms with
  | nil => exact h.mono (·.resolve_right Bool.false_ne_true)
  | cons m ms ih =>
    refine (ih.move ask m).trails.mono ?_
    rw [List.any_cons, Bool.or_eq_true, or_assoc]
    exact Or.imp_right Or.symm

theorem Trails.decision?_eq (h : t.Trails settled t') (ask : Source σ) (ms : List Move) :
    t.decision? ask ms = t'.decision? ask ms := by
  cases ms with
  | nil => rfl
  | cons m ms => exact ((h.after ask ms).move ask m).result

/-! ## Steps -/

theorem Trails.attempt (h : t.Trails settled t') (ask : Source σ) (limitMs : Option Nat) :
    Matches True (attempt ask t limitMs) (attempt ask t' limitMs) := by
  obtain ⟨b, ha, rfl⟩ := h.exists_attempts
  have hid : Trial.identifier? { t with attempts := b } = t.identifier? := rfl
  have hbegin := ha.begin t.settings ask t.nowMs t.identifier?
  unfold Trial.attempt
  rw [hid]
  generalize Attempts.begin t.settings ask t.attempts t.nowMs t.identifier? = x at hbegin
  generalize Attempts.begin t.settings ask b t.nowMs t.identifier? = y at hbegin
  obtain ⟨a, r⟩ := x
  obtain ⟨b, r'⟩ := y
  obtain ⟨trails, hactivity, rfl⟩ := hbegin
  cases r with
  | some tr => exact ⟨⟨rfl, rfl, rfl, trails⟩, rfl⟩
  | none =>
    dsimp only at hactivity trails ⊢
    rw [← hactivity]
    cases a.activity with
    | resting | ended => exact ⟨⟨rfl, rfl, rfl, trails⟩, rfl⟩
    | asking sinceMs answer =>
      dsimp only
      split
      · obtain ⟨trails, -, htr⟩ := trails.complete t.settings (t.nowMs + _) sinceMs answer.reply
        exact ⟨⟨rfl, rfl, rfl, trails⟩, congrArg Result.decided htr⟩
      · exact ⟨⟨rfl, rfl, rfl, trails.abandon⟩, rfl⟩

/-- Runs go the same way, and settle the state with their first attempt. -/
theorem Trails.runFrom {later : Prop} (h : t.Trails settled t')
    (same : t.attempts.activity = t'.attempts.activity) (ask : Source σ) {cancelMs : Option Nat}
    (starts : settled ∨
      ∃ dueMs, t.attempts.due? = some dueMs ∧ cancelMs.any (· < dueMs) = false)
    (fuel : Nat) :
    Option.Rel (Matches later) (runFrom ask cancelMs fuel t) (runFrom ask cancelMs fuel t') := by
  induction fuel generalizing t t' settled with
  | zero => exact .none
  | succ fuel ih =>
    obtain ⟨b, ha, rfl⟩ := h.exists_attempts
    have hdue' : b.due? = t.attempts.due? := by rw [Attempts.due?, Attempts.due?, ← same]
    have hid : Trial.identifier? { t with attempts := b } = t.identifier? := rfl
    simp only [Trial.runFrom, hdue', hid]
    have givesUp (nowMs : Nat) (before : settled) : Option.Rel (Matches later)
        (some ({ t with attempts := t.attempts.abandon, nowMs }, Result.cancelled))
        (some ({ t with attempts := b.abandon, nowMs }, Result.cancelled)) :=
      .some ⟨⟨rfl, rfl, rfl, ha.abandon.mono fun _ => before⟩, rfl⟩
    cases hdue : t.attempts.due? with
    | none =>
      have before : settled := starts.resolve_right (by simp [hdue])
      cases cancelMs with
      | none => exact .none
      | some ms => exact givesUp ms before
    | some dueMs =>
      dsimp only
      split
      · rename_i late
        exact givesUp _ (starts.resolve_right (by simp [hdue, late]))
      · have hact := ha.act same hdue t.settings ask dueMs t.identifier?
        generalize Attempts.act t.settings ask t.attempts dueMs t.identifier? = x at *
        generalize Attempts.act t.settings ask b dueMs t.identifier? = y at *
        obtain ⟨a, r⟩ := x
        obtain ⟨b, r'⟩ := y
        obtain ⟨trails, hactivity, rfl⟩ := hact
        have htrails : Trails True { t with attempts := a, nowMs := dueMs }
            { t with attempts := b, nowMs := dueMs } := ⟨rfl, rfl, rfl, trails⟩
        cases r with
        | none => exact ih htrails hactivity (.inl trivial)
        | some tr =>
          cases tr with
          | retry => exact ih htrails hactivity (.inl trivial)
          | resolve => exact .some ⟨htrails.mono fun _ => trivial, rfl⟩

/-- A step settles the state, unless it changes the page only or is a run that does not start. -/
def Step.settles : Step → Bool
  | .attempt | .abandon _ | .interpret _ | .run false _ => true
  | .setInput .. | .removeInput _ | .run true _ => false

/-- Trials that differ by a dropped query go the same way, step by step. -/
theorem Trails.step (h : t.Trails settled t') (ask : Source σ) (fuel : Nat) (p : Step) :
    Option.Rel (Matches (settled ∨ p.settles = true)) (step ask fuel t p) (step ask fuel t' p) := by
  obtain ⟨b, ha, rfl⟩ := h.exists_attempts
  have still : settled ∨ false = true → settled := (·.resolve_right Bool.false_ne_true)
  have attempts (limitMs : Option Nat) : Option.Rel (Matches (settled ∨ true = true))
      (some (Trial.attempt ask t limitMs))
      (some (Trial.attempt ask { t with attempts := b } limitMs)) := by
    obtain ⟨trails, hresult⟩ := h.attempt ask limitMs
    exact .some ⟨trails.mono fun _ => trivial, hresult⟩
  cases p with
  | setInput | removeInput => exact .some ⟨⟨rfl, rfl, rfl, ha.mono still⟩, rfl⟩
  | attempt => exact attempts none
  | abandon afterMs => exact attempts (some afterMs)
  | interpret reply =>
    obtain ⟨hinquiry, htr⟩ := ha.inquiry.interpret t.settings reply
    exact .some ⟨⟨rfl, rfl, rfl, { ha with inquiry := hinquiry.mono fun _ => trivial }⟩,
      congrArg Result.decided htr⟩
  | run cancelled cancelAfterMs =>
    cases cancelled with
    | true => exact .some ⟨h.mono still, rfl⟩
    | false =>
      have rested : Trails settled
          { t with attempts := { t.attempts with activity := .resting t.nowMs } }
          { t with attempts := { b with activity := .resting t.nowMs } } :=
        ⟨rfl, rfl, rfl, { ha with flight := rfl }⟩
      exact rested.runFrom rfl ask (.inr ⟨t.nowMs, rfl, cancel_not_past ..⟩) fuel

/-! ## Dropped queries -/

/-- Time goes by, or the page changes. -/
def Move.isQuiet : Move → Bool
  | .page _ | .wait _ => true
  | _ => false

/-- An attempt that is given up while its query for an identifier is in flight. -/
structure Drops (ask : Source σ) (id : String) (t u : Trial σ) : Prop where
  idle : t.attempts.flight? = none
  found : t.identifier? = some id
  moves : ∃ between, (∀ m ∈ between, m.isQuiet = true) ∧
    t.after ask (.drop :: (between ++ [.look])) = u

/-- The trial as it would be at the instant, on the page and with the answers to come of another. -/
def facing (t u : Trial σ) : Trial σ :=
  { t with
    page := u.page
    nowMs := u.nowMs
    attempts := { t.attempts with source := u.attempts.source } }

theorem after_quiet {ms : List Move} (quiet : ∀ m ∈ ms, m.isQuiet = true) (ask : Source σ)
    (t : Trial σ) : (t.after ask ms).attempts = t.attempts := by
  induction ms with
  | nil => rfl
  | cons m ms ih =>
    rw [List.forall_mem_cons] at quiet
    rw [← ih quiet.2, after]
    cases m with
    | page | wait => rfl
    | look | reply | drop | interpret => cases quiet.1

theorem Drops.attempts_eq {id : String} (h : Drops ask id t u) :
    u.attempts = (t.attempts.launch t.nowMs id (ask t.attempts.source id).1
      (ask t.attempts.source id).2).abandon := by
  obtain ⟨-, found, between, quiet, rfl⟩ := h
  rw [after, move, after_append, after_quiet quiet, after, after, move_look_some found]

theorem Drops.inquiry_eq {id : String} (h : Drops ask id t u) :
    u.attempts.inquiry = {
      state := .querying id
      tally := { t.attempts.inquiry.tally with queries := t.attempts.inquiry.tally.queries + 1 }
      lastIdentifier := some id } := by
  rw [h.attempts_eq, Attempts.abandon_inquiry]
  rfl

theorem Drops.metrics_eq {id : String} (h : Drops ask id t u) :
    u.attempts.journal.metrics = t.attempts.journal.metrics := by
  rw [h.attempts_eq, Attempts.abandon_metrics]
  rfl

theorem Drops.settings_eq {id : String} (h : Drops ask id t u) : u.settings = t.settings := by
  obtain ⟨-, -, between, -, rfl⟩ := h
  exact after_settings ask t _

/-- A dropped query leaves nothing but its count, its identifier and the state. -/
theorem Drops.trails {id : String} (h : Drops ask id t u) : u.Trails False (t.facing u) := by
  refine ⟨h.settings_eq, rfl, rfl, ⟨?_, False.elim⟩, rfl, h.metrics_eq, ?_⟩
  · rw [h.inquiry_eq]
    rfl
  · rw [h.attempts_eq, Attempts.flight?_abandon]
    exact h.idle.symm

/-- An attempt that is dropped drops a query. -/
theorem Makes.drops {p : Step} {ms : List Move} (h : Makes ask t p ms .dropped)
    (idle : t.attempts.flight? = none) : ∃ id, Drops ask id t (t.after ask ms) := by
  cases h with
  | @dropped _ id waitMs _ found =>
    exact ⟨id, idle, found, [.wait waitMs], by simp [Move.isQuiet], rfl⟩

/-- The query in flight in a run is that of its latest attempt. -/
theorem Runs.look_of_flight {ms : List Move} (h : Runs ask t ms)
    (idle : t.attempts.flight? = none) (asks : (t.after ask ms).attempts.flight? ≠ none) :
    ∃ between before id, ms = between ++ .look :: before ∧ (∀ m ∈ between, m.isQuiet = true) ∧
      (t.after ask before).attempts.flight? = none ∧
      (t.after ask before).identifier? = some id := by
  induction h with
  | start => exact absurd idle asks
  | @move m ms earlier _ inRun ih =>
    cases m with
    | page | wait =>
      obtain ⟨between, before, id, rfl, quiet, rests⟩ := ih asks
      exact ⟨_ :: between, before, id, rfl, List.forall_mem_cons.mpr ⟨rfl, quiet⟩, rests⟩
    | look =>
      cases hid : (t.after ask ms).identifier? with
      | none =>
        rw [after, move_look_none hid] at asks
        exact absurd rfl asks
      | some id => exact ⟨[], ms, id, rfl, List.forall_mem_nil _, inRun, hid⟩
    | reply =>
      obtain ⟨query, flight⟩ := Option.ne_none_iff_exists'.mp inRun
      rw [after, move_reply_some flight, Attempts.flight?_complete] at asks
      exact absurd rfl asks
    | drop | interpret => exact inRun.elim

/-- A run that is given up drops the query in flight, or changes nothing if there is none. -/
theorem Runs.drops_or_idle {ms : List Move} (h : Runs ask t ms)
    (idle : t.attempts.flight? = none) :
    (∃ later before id, ms = later ++ before ∧
      Drops ask id (t.after ask before) (t.after ask (.drop :: ms))) ∨
    (t.after ask ms).attempts.flight? = none ∧
      (t.after ask (.drop :: ms)).attempts.inquiry = (t.after ask ms).attempts.inquiry ∧
      (t.after ask (.drop :: ms)).attempts.journal.metrics =
        (t.after ask ms).attempts.journal.metrics := by
  cases flight : (t.after ask ms).attempts.flight? with
  | none => exact .inr ⟨rfl, Attempts.abandon_inquiry _, Attempts.abandon_metrics _⟩
  | some query =>
    obtain ⟨between, before, id, rfl, quiet, rests, found⟩ :=
      h.look_of_flight idle (flight ▸ Option.some_ne_none query)
    refine .inl ⟨between ++ [.look], before, id, by simp, rests, found, between, quiet, ?_⟩
    rw [← after_append]
    simp

/-! ## States -/

theorem move_state {m : Move} {tr : Transition} (h : (t.move ask m).2 = some tr) :
    (t.move ask m).1.attempts.inquiry.state = tr.state := by
  cases m with
  | page | wait | drop => cases h
  | look =>
    cases hid : t.identifier? with
    | none =>
      rw [move_look_none hid] at h ⊢
      cases h
      rfl
    | some id =>
      rw [move_look_some hid] at h
      cases h
  | reply =>
    cases flight : t.attempts.flight? with
    | none =>
      rw [move, flight] at h
      cases h
    | some query =>
      rw [move_reply_some flight] at h ⊢
      cases h
      exact Inquiry.interpret_state ..
  | interpret reply =>
    cases h
    exact Inquiry.interpret_state ..

/-- A decision tells the state, and the state its kind. -/
theorem state_of_decision? {ms : List Move} {tr : Transition}
    (h : t.decision? ask ms = some tr) : (t.after ask ms).attempts.inquiry.state = tr.state := by
  cases ms with
  | nil => cases h
  | cons m ms => exact move_state h

/-- What is decided in the end. -/
def Result.decision? : Result → Option Transition
  | .decided tr => some tr
  | .resolved x => some (.resolve x)
  | .done | .dropped | .cancelled => none

theorem Makes.decision?_eq {p : Step} {ms : List Move} {r : Result} {tr : Transition}
    (h : Makes ask t p ms r) (decides : r.decision? = some tr) :
    t.decision? ask ms = some tr := by
  cases h with
  | setInput | removeInput | dropped | unstarted | cancelled => cases decides
  | interpret h | answered _ h =>
    cases decides
    exact h
  | missed _ found =>
    cases decides
    rw [decision?, after, move_look_none found]
  | resolved _ resolves =>
    cases decides
    obtain ⟨tr, htr, hx⟩ := Option.bind_eq_some_iff.mp resolves
    cases tr with
    | retry => cases hx
    | resolve => cases hx; exact htr

/-- Once a run has begun its first attempt, the state is told by a transition whenever no query is
in flight. -/
theorem Runs.state_of_idle {ms : List Move} (h : Runs ask t ms)
    (active : 0 < ms.countP Move.isActivity) (rests : (t.after ask ms).attempts.flight? = none) :
    ∃ tr : Transition, (t.after ask ms).attempts.inquiry.state = tr.state := by
  induction h with
  | start => exact absurd active (Nat.lt_irrefl 0)
  | @move m ms _ _ inRun ih =>
    cases m with
    | page | wait => exact ih active rests
    | look =>
      cases hid : (t.after ask ms).identifier? with
      | none => exact ⟨.retry .identifierAbsent, by rw [after, move_look_none hid]; rfl⟩
      | some id =>
        rw [after, move_look_some hid] at rests
        cases rests
    | reply =>
      obtain ⟨query, flight⟩ := Option.ne_none_iff_exists'.mp inRun
      exact ⟨_, move_state (congrArg (·.2) (move_reply_some flight))⟩
    | drop | interpret => exact inRun.elim

/-- A step that attempts something and leaves the state of a query has dropped that query. -/
theorem Makes.drops_of_querying {p : Step} {ms : List Move} {r : Result} {id : String}
    (h : Makes ask t p ms r) (idle : t.attempts.flight? = none) (settles : p.settles = true)
    (querying : (t.after ask ms).attempts.inquiry.state = .querying id) :
    (r = .dropped ∨ r = .cancelled) ∧
      ∃ later before, ms = later ++ before ∧
        Drops ask id (t.after ask before) (t.after ask ms) := by
  have same {id' : String} {t' : Trial σ} (h : Drops ask id' t' (t.after ask ms)) : id' = id := by
    rw [h.inquiry_eq] at querying
    exact InquiryState.querying.inj querying
  cases hr : r.decision? with
  | some tr =>
    rw [state_of_decision? (h.decision?_eq hr)] at querying
    exact absurd querying (tr.state_ne_querying id)
  | none =>
    cases h with
    | setInput | removeInput | unstarted => cases settles
    | interpret | missed | answered | resolved => cases hr
    | dropped attempts found =>
      obtain ⟨id', hdrops⟩ := Makes.drops (.dropped attempts found) idle
      obtain rfl := same hdrops
      exact ⟨.inl rfl, _, [], (List.append_nil _).symm, hdrops⟩
    | @cancelled _ ms runs _ active =>
      refine ⟨.inr rfl, ?_⟩
      obtain ⟨later, before, id', rfl, hdrops⟩ | ⟨rests, hinquiry, -⟩ := runs.drops_or_idle idle
      · obtain rfl := same hdrops
        exact ⟨.drop :: later, before, rfl, hdrops⟩
      · obtain ⟨tr, htr⟩ := runs.state_of_idle active rests
        rw [hinquiry, htr] at querying
        exact absurd querying (tr.state_ne_querying id)

theorem attempts_of_step {fuel : Nat} {p : Step} {r : Result}
    (h : step ask fuel t p = some (u, r)) (still : p.settles = false) :
    u.attempts = t.attempts := by
  cases p with
  | setInput | removeInput =>
    cases h
    rfl
  | attempt | interpret | abandon => cases still
  | run cancelled =>
    cases cancelled with
    | false => cases still
    | true =>
      cases h
      rfl

/-- Some step settles the state. -/
def settledBy (ps : List (Step × Result)) : Prop :=
  ∃ x ∈ ps, x.1.settles = true

theorem not_settledBy_nil : ¬ settledBy [] := by
  rintro ⟨x, hx, -⟩
  exact List.not_mem_nil hx

theorem settledBy.of_cons {p : Step} {r : Result} {ps : List (Step × Result)}
    (h : settledBy ((p, r) :: ps)) : settledBy ps ∨ p.settles = true := by
  obtain ⟨x, hx, settles⟩ := h
  obtain rfl | hx := List.mem_cons.mp hx
  · exact .inr settles
  · exact .inl ⟨x, hx, settles⟩

/-- Only a dropped query is seen in flight between steps, and only until the next attempt. -/
theorem Passes.dropped_of_querying {ps : List (Step × Result)} {id : String}
    (h : Passes ask t ps u) (idle : t.attempts.flight? = none)
    (outside : t.attempts.inquiry.state ≠ .querying id)
    (querying : u.attempts.inquiry.state = .querying id) :
    ∃ later p r earlier, ps = later ++ (p, r) :: earlier ∧ ¬ settledBy later ∧
      (r = .dropped ∨ r = .cancelled) ∧
      ∃ fuel v w before, Passes ask t earlier v ∧ Trial.step ask fuel v p = some (w, r) ∧
        Drops ask id (v.after ask before) w := by
  induction h with
  | start => exact absurd querying outside
  | @step p r fuel ps u v earlier does ih =>
    cases settles : p.settles with
    | false =>
      rw [attempts_of_step does settles] at querying
      obtain ⟨later, p', r', earlier', rfl, still, rest⟩ := ih querying
      refine ⟨(p, r) :: later, p', r', earlier', rfl, fun h => ?_, rest⟩
      obtain h | h := h.of_cons
      · exact still h
      · exact absurd h (by simp [settles])
    | true =>
      have idle' := earlier.idle idle
      obtain ⟨ms, makes, rfl⟩ := step_makes idle' does
      obtain ⟨hr, -, before, -, hdrops⟩ := makes.drops_of_querying idle' settles querying
      exact ⟨[], p, r, ps, rfl, not_settledBy_nil, hr, fuel, u, _, before, earlier, does, hdrops⟩

/-! ## Continuations -/

/-- A trial that another one imitates step by step goes through the same steps. -/
theorem Passes.imitated {ps : List (Step × Result)} (passes : Passes ask t ps u)
    (Like : List (Step × Result) → Trial σ → Trial σ → Prop) (start : Like [] t t')
    (imitates : ∀ {ps u u' fuel p v r}, Like ps u u' → Trial.step ask fuel u p = some (v, r) →
      ∃ v', Trial.step ask fuel u' p = some (v', r) ∧ Like ((p, r) :: ps) v v') :
    ∃ u', Passes ask t' ps u' ∧ Like ps u u' := by
  induction passes with
  | start => exact ⟨t', .start, start⟩
  | step _ does ih =>
    obtain ⟨u', earlier, alike⟩ := ih
    obtain ⟨v', does', alike'⟩ := imitates alike does
    exact ⟨v', .step earlier does', alike'⟩

theorem Trails.passes_iff (h : t.Trails False t') (ask : Source σ) (ps : List (Step × Result)) :
    (∀ u, Passes ask t ps u → ∃ u', Passes ask t' ps u' ∧ u.Trails (settledBy ps) u') ∧
      ∀ u', Passes ask t' ps u' → ∃ u, Passes ask t ps u ∧ u.Trails (settledBy ps) u' := by
  have start : t.Trails (settledBy []) t' := h.mono not_settledBy_nil
  refine ⟨fun u passes => passes.imitated (fun ps u u' => u.Trails (settledBy ps) u') start ?_,
    fun u' passes => passes.imitated (fun ps u' u => u.Trails (settledBy ps) u') start ?_⟩
  · intro ps u u' fuel p v r trails does
    have hrel := trails.step ask fuel p
    rw [does] at hrel
    generalize Trial.step ask fuel u' p = end? at hrel
    cases hrel with
    | some hmatches =>
      obtain ⟨trails, rfl⟩ := hmatches
      exact ⟨_, rfl, trails.mono settledBy.of_cons⟩
  · intro ps u' u fuel p v r trails does
    have hrel := trails.step ask fuel p
    rw [does] at hrel
    generalize Trial.step ask fuel u p = end? at hrel
    cases hrel with
    | some hmatches =>
      obtain ⟨trails, rfl⟩ := hmatches
      exact ⟨_, rfl, trails.mono settledBy.of_cons⟩

/-- What remains of a query that is dropped: one more query in the count, its identifier, and a
state that is settled by the next attempt. Whatever moves or steps follow, nothing else tells the
trial from the one without that query. -/
structure LeavesNoTrace (ask : Source σ) (id : String) (t u : Trial σ) : Prop where
  inquiry : u.attempts.inquiry = {
    state := .querying id
    tally := { t.attempts.inquiry.tally with queries := t.attempts.inquiry.tally.queries + 1 }
    lastIdentifier := some id }
  metrics : u.attempts.journal.metrics = t.attempts.journal.metrics
  settings : u.settings = t.settings
  moves : ∀ ms, u.decision? ask ms = (t.facing u).decision? ask ms ∧
    (u.after ask ms).Trails (ms.any Move.settles = true) ((t.facing u).after ask ms)
  steps : ∀ ps,
    (∀ w, Passes ask u ps w →
      ∃ w', Passes ask (t.facing u) ps w' ∧ w.Trails (settledBy ps) w') ∧
    ∀ w', Passes ask (t.facing u) ps w' →
      ∃ w, Passes ask u ps w ∧ w.Trails (settledBy ps) w'

theorem Drops.leavesNoTrace {id : String} (h : Drops ask id t u) : LeavesNoTrace ask id t u where
  inquiry := h.inquiry_eq
  metrics := h.metrics_eq
  settings := h.settings_eq
  moves ms := ⟨h.trails.decision?_eq ask ms, (h.trails.after ask ms).mono .inr⟩
  steps ps := h.trails.passes_iff ask ps

/-- **A dropped query leaves no trace.** An attempt that is given up while its query is in flight,
by itself or with its run, leaves the state of the query, its identifier and one more query in the
count, and whatever follows is as if there had been no such attempt. That goes for every state that
steps lead to, in which no query is in flight. After any other attempt, and after any reply, the
state tells what was decided. So the state of a query is seen between steps only if the latest
attempt was given up. A run that is cancelled before it starts changes nothing. -/
theorem dropped_query_leaves_no_trace (ask : Source σ) :
    (∀ ps t u, t.attempts.flight? = none → Passes ask t ps u → u.attempts.flight? = none) ∧
    (∀ id t u, Drops ask id t u → LeavesNoTrace ask id t u) ∧
    (∀ fuel p t u, t.attempts.flight? = none → step ask fuel t p = some (u, .dropped) →
      ∃ id, Drops ask id t u) ∧
    (∀ fuel cancelAfterMs t u, t.attempts.flight? = none →
      step ask fuel t (.run false cancelAfterMs) = some (u, .cancelled) →
      ∃ ms, Runs ask t ms ∧
        ((∃ later before id, ms = later ++ before ∧ Drops ask id (t.after ask before) u) ∨
          (t.after ask ms).attempts.flight? = none ∧
          u.attempts.inquiry = (t.after ask ms).attempts.inquiry ∧
          u.attempts.journal.metrics = (t.after ask ms).attempts.journal.metrics)) ∧
    (∀ (t : Trial σ) ms tr, t.decision? ask ms = some tr →
      (t.after ask ms).attempts.inquiry.state = tr.state) ∧
    (∀ fuel p t u r tr, t.attempts.flight? = none → step ask fuel t p = some (u, r) →
      r.decision? = some tr → u.attempts.inquiry.state = tr.state) ∧
    (∀ id t ps u, t.attempts.flight? = none → t.attempts.inquiry.state ≠ .querying id →
      Passes ask t ps u → u.attempts.inquiry.state = .querying id →
      ∃ later p r earlier, ps = later ++ (p, r) :: earlier ∧ ¬ settledBy later ∧
        (r = .dropped ∨ r = .cancelled) ∧
        ∃ fuel v w before, Passes ask t earlier v ∧ step ask fuel v p = some (w, r) ∧
          Drops ask id (v.after ask before) w) ∧
    ∀ fuel cancelAfterMs t, step ask fuel t (.run true cancelAfterMs) = some (t, .cancelled) := by
  refine ⟨fun ps t u idle passes => passes.idle idle, fun id t u h => h.leavesNoTrace, ?_, ?_,
    fun t ms tr => state_of_decision?, ?_, ?_, fun _ _ _ => rfl⟩
  · intro fuel p t u idle does
    obtain ⟨ms, makes, rfl⟩ := step_makes idle does
    exact makes.drops idle
  · intro fuel cancelAfterMs t u idle does
    obtain ⟨ms, makes, rfl⟩ := step_makes idle does
    cases makes with
    | @cancelled _ ms runs => exact ⟨ms, runs, runs.drops_or_idle idle⟩
  · intro fuel p t u r tr idle does decides
    obtain ⟨ms, makes, rfl⟩ := step_makes idle does
    exact state_of_decision? (makes.decision?_eq decides)
  · intro id t ps u idle outside passes querying
    exact passes.dropped_of_querying idle outside querying

/-- A trial whose first query is never answered. -/
def unanswered : Trial (List Answer) where
  page := { inputs := [("pushAuthPushId", "op-1")] }
  settings := {}
  attempts := { source := [⟨none, .ok "PENDING"⟩, ⟨some 5, .error .transport⟩] }

theorem dropped_query_leaves_no_trace_unanswered :
    ∃ u w w' ps, step (Script.ask "PENDING") 1 unanswered (.abandon 30) = some (u, .dropped) ∧
      u.attempts.inquiry.state = .querying "op-1" ∧
      ps = [(.attempt, .decided (.retry .transient))] ∧
      Passes (Script.ask "PENDING") u ps w ∧
      Passes (Script.ask "PENDING") (unanswered.facing u) ps w' ∧
      w.attempts.inquiry.tally.queries = w'.attempts.inquiry.tally.queries + 1 ∧
      w.attempts.inquiry.state = w'.attempts.inquiry.state := by
  obtain ⟨-, htrace, hdropped, -⟩ := dropped_query_leaves_no_trace (Script.ask "PENDING")
  have dropped : (attempt (Script.ask "PENDING") unanswered (some 30)).2 = .dropped := by
    decide +kernel
  generalize hu : (attempt (Script.ask "PENDING") unanswered (some 30)).1 = u
  have does : step (Script.ask "PENDING") 1 unanswered (.abandon 30) = some (u, .dropped) :=
    congrArg some (Prod.ext hu dropped)
  have fails : (attempt (Script.ask "PENDING") u none).2 = .decided (.retry .transient) := by
    subst hu
    decide +kernel
  have again : step (Script.ask "PENDING") 1 u .attempt =
      some ((attempt (Script.ask "PENDING") u none).1, .decided (.retry .transient)) :=
    congrArg some (Prod.ext rfl fails)
  have passes : Passes (Script.ask "PENDING") u [(.attempt, .decided (.retry .transient))] _ :=
    .step .start again
  obtain ⟨id, hdrops⟩ := hdropped 1 (.abandon 30) unanswered u rfl does
  have trace := htrace id unanswered u hdrops
  obtain ⟨w', passes', trails⟩ := (trace.steps _).1 _ passes
  have hid : unanswered.identifier? = some "op-1" := by decide +kernel
  have same : id = "op-1" := Option.some.inj (hdrops.found.symm.trans hid)
  refine ⟨u, _, w', _, does, ?_, rfl, passes, passes', ?_, ?_⟩
  · rw [trace.inquiry, same]
  · rw [trails.attempts.inquiry.tally]
  · exact trails.attempts.inquiry.state ⟨_, List.mem_singleton_self _, rfl⟩

end Trial

end ApprovalWatch
