import ApprovalWatch.Trial
import ApprovalWatch.Proofs.Activity

/-!
# Trials, move by move

A step of a trial is made of moves: time goes by, an attempt looks at the page, the reply to its
query comes or the attempt is given up. Between any two moves the page may change, and an attempt
may be given up after any of them. All lists have the latest entry first.

Main results:

* `run_comes`: what a run comes to within a number of activities, move by move.
* `step_makes`: a step is made of moves that lead to what comes of it.
* `Passes.made`: so are the steps that a trial goes through.
-/

namespace ApprovalWatch

namespace Attempts

variable {σ : Type} {a : Attempts σ}

/-- The query in flight: when it was issued, and its answer. -/
def flight? (a : Attempts σ) : Option (Nat × Answer) :=
  match a.activity with
  | .asking sinceMs answer => some (sinceMs, answer)
  | _ => none

theorem flight?_eq_some_iff {sinceMs : Nat} {answer : Answer} :
    a.flight? = some (sinceMs, answer) ↔ a.activity = .asking sinceMs answer := by
  unfold flight?
  split <;> simp_all

@[simp] theorem flight?_abandon (a : Attempts σ) : a.abandon.flight? = none := by
  unfold abandon
  split <;> rfl

@[simp] theorem flight?_miss (s : Settings) (a : Attempts σ) (nowMs : Nat) :
    (a.miss s nowMs).flight? = none :=
  rfl

@[simp] theorem flight?_launch (a : Attempts σ) (nowMs : Nat) (id : String) (answer : Answer)
    (source : σ) : (a.launch nowMs id answer source).flight? = some (nowMs, answer) :=
  rfl

@[simp] theorem flight?_complete (s : Settings) (a : Attempts σ) (nowMs sinceMs : Nat)
    (reply : Reply) : (complete s a nowMs sinceMs reply).1.flight? = none := by
  simp only [complete, flight?]
  cases (a.inquiry.interpret s reply).2 <;> rfl

end Attempts

/-- The resolution that a transition amounts to, if it does. -/
def Transition.resolution? : Transition → Option Resolution
  | .retry _ => none
  | .resolve x => some x

namespace Trial

variable {σ : Type} {ask : Source σ} {t u v : Trial σ}

/-! ## Moves -/

/-- What happens in a trial, one thing at a time. -/
inductive Move where
  | page (page : Page)
  | wait (ms : Nat)
  | look
  | reply
  | drop
  | interpret (reply : Reply)

/-- The trial after a move, and what follows from the move. -/
def move (ask : Source σ) (t : Trial σ) : Move → Trial σ × Option Transition
  | .page page => ({ t with page }, none)
  | .wait ms => ({ t with nowMs := t.nowMs + ms }, none)
  | .look =>
    match t.identifier? with
    | none =>
      ({ t with attempts := t.attempts.miss t.settings t.nowMs }, some (.retry .identifierAbsent))
    | some id =>
      let (answer, source) := ask t.attempts.source id
      ({ t with attempts := t.attempts.launch t.nowMs id answer source }, none)
  | .reply =>
    match t.attempts.flight? with
    | none => (t, none)
    | some (sinceMs, answer) =>
      let (attempts, transition) := t.attempts.complete t.settings t.nowMs sinceMs answer.reply
      ({ t with attempts }, some transition)
  | .drop => ({ t with attempts := t.attempts.abandon }, none)
  | .interpret reply =>
    let (inquiry, transition) := t.attempts.inquiry.interpret t.settings reply
    ({ t with attempts := { t.attempts with inquiry } }, some transition)

/-- The trial after moves. -/
def after (ask : Source σ) (t : Trial σ) : List Move → Trial σ
  | [] => t
  | m :: ms => ((after ask t ms).move ask m).1

/-- What follows from the latest move. -/
def decision? (ask : Source σ) (t : Trial σ) : List Move → Option Transition
  | [] => none
  | m :: ms => ((t.after ask ms).move ask m).2

/-- How the latest move resolves the inquiry, if it does. -/
def resolution? (ask : Source σ) (t : Trial σ) (ms : List Move) : Option Resolution :=
  (t.decision? ask ms).bind Transition.resolution?

theorem after_append (ask : Source σ) (t : Trial σ) (ms earlier : List Move) :
    t.after ask (ms ++ earlier) = (t.after ask earlier).after ask ms := by
  induction ms with
  | nil => rfl
  | cons m ms ih => rw [List.cons_append, after, after, ih]

theorem decision?_append {ms : List Move} (h : ms ≠ []) (ask : Source σ) (t : Trial σ)
    (earlier : List Move) :
    t.decision? ask (ms ++ earlier) = (t.after ask earlier).decision? ask ms := by
  cases ms with
  | nil => exact absurd rfl h
  | cons m ms => rw [List.cons_append, decision?, decision?, after_append]

theorem resolution?_append {earlier : List Move} (goes : t.resolution? ask earlier = none)
    (ms : List Move) :
    t.resolution? ask (ms ++ earlier) = (t.after ask earlier).resolution? ask ms := by
  cases ms with
  | nil => exact goes
  | cons m ms => rw [resolution?, resolution?, decision?_append (List.cons_ne_nil m ms)]

theorem move_look_none (h : t.identifier? = none) :
    t.move ask .look =
      ({ t with attempts := t.attempts.miss t.settings t.nowMs },
        some (.retry .identifierAbsent)) := by
  rw [move, h]

theorem move_look_some {id : String} (h : t.identifier? = some id) :
    t.move ask .look =
      ({ t with
        attempts := t.attempts.launch t.nowMs id (ask t.attempts.source id).1
          (ask t.attempts.source id).2 }, none) := by
  rw [move, h]

theorem move_reply_some {sinceMs : Nat} {answer : Answer}
    (h : t.attempts.flight? = some (sinceMs, answer)) :
    t.move ask .reply =
      ({ t with
        attempts := (t.attempts.complete t.settings t.nowMs sinceMs answer.reply).1 },
        some (t.attempts.complete t.settings t.nowMs sinceMs answer.reply).2) := by
  rw [move, h]

/-- No move changes the settings. -/
theorem after_settings (ask : Source σ) (t : Trial σ) (ms : List Move) :
    (t.after ask ms).settings = t.settings := by
  induction ms with
  | nil => rfl
  | cons m ms ih =>
    rw [← ih, after]
    unfold move
    split <;> (try split) <;> rfl

/-! ## Runs -/

/-- What may happen in a run: a look is made when no query is in flight, a reply comes to the one in
flight, and nothing is given up. -/
def InRun (t : Trial σ) : Move → Prop
  | .page _ | .wait _ => True
  | .look => t.attempts.flight? = none
  | .reply => t.attempts.flight? ≠ none
  | .drop | .interpret _ => False

/-- The moves of a run that is not cancelled, of which none comes after a resolution. -/
inductive Runs (ask : Source σ) (t : Trial σ) : List Move → Prop
  | start : Runs ask t []
  | move {m : Move} {ms : List Move} (earlier : Runs ask t ms)
      (goes : t.resolution? ask ms = none) (inRun : (t.after ask ms).InRun m) :
      Runs ask t (m :: ms)

theorem Runs.append {ms earlier : List Move} (h : Runs ask (t.after ask earlier) ms)
    (hearlier : Runs ask t earlier) (goes : t.resolution? ask earlier = none) :
    Runs ask t (ms ++ earlier) := by
  induction h with
  | start => exact hearlier
  | @move m ms _ goes' inRun ih =>
    rw [← after_append] at inRun
    exact .move ih ((resolution?_append goes ms).trans goes') inRun

/-- An attempt itself makes these moves. The others happen to it. -/
def Move.isActivity : Move → Bool
  | .look | .reply => true
  | _ => false

/-- The moves of a run from one trial to another, and what follows from the latest of them. -/
structure Leads (ask : Source σ) (t : Trial σ) (ms : List Move) (u : Trial σ)
    (r : Option Transition) : Prop where
  runs : Runs ask t ms
  after_eq : t.after ask ms = u
  decision?_eq : t.decision? ask ms = r
  active : 0 < ms.countP Move.isActivity

/-- An attempt that begins looks at the page, and may be answered at once. -/
theorem begin_leads {a : Attempts σ} {r : Option Transition} (idle : t.attempts.flight? = none)
    (eq : t.attempts.begin t.settings ask t.nowMs t.identifier? = (a, r)) :
    ∃ ms, Leads ask t ms { t with attempts := a } r := by
  have looks : Runs ask t [.look] := .move .start rfl idle
  cases hid : t.identifier? with
  | none =>
    rw [hid, Attempts.begin_none] at eq
    cases eq
    exact ⟨[.look], looks, by rw [after, after, move_look_none hid],
      by rw [decision?, after, move_look_none hid], by decide⟩
  | some id =>
    rw [hid, Attempts.begin_some] at eq
    dsimp only at eq
    split at eq
    · cases eq
      have goes : t.resolution? ask [.look] = none := by
        rw [resolution?, decision?, after, move_look_some hid]
        rfl
      have asks : (t.after ask [.look]).attempts.flight? ≠ none := by
        rw [after, after, move_look_some hid, Attempts.flight?_launch]
        exact Option.some_ne_none _
      refine ⟨[.reply, .look], .move looks goes asks, ?_, ?_, by decide⟩
      · rw [after, after, after, move_look_some hid, move_reply_some (Attempts.flight?_launch ..)]
      · rw [decision?, after, after, move_look_some hid,
          move_reply_some (Attempts.flight?_launch ..)]
    · cases eq
      exact ⟨[.look], looks, by rw [after, after, move_look_some hid],
        by rw [decision?, after, move_look_some hid], by decide⟩

theorem Leads.of_wait {ms : List Move} {r : Option Transition} {untilMs : Nat}
    (h : Leads ask { t with nowMs := untilMs } ms u r) (hle : t.nowMs ≤ untilMs) :
    Leads ask t (ms ++ [.wait (untilMs - t.nowMs)]) u r := by
  obtain ⟨runs, after_eq, decision?_eq, active⟩ := h
  have hwait : t.after ask [.wait (untilMs - t.nowMs)] = { t with nowMs := untilMs } := by
    rw [after, after, move, Nat.add_sub_of_le hle]
  have hne : ms ≠ [] := by
    rintro rfl
    exact absurd active (by decide)
  rw [← hwait] at runs after_eq decision?_eq
  refine ⟨runs.append (.move .start rfl trivial) rfl, ?_, ?_, ?_⟩
  · rw [after_append, after_eq]
  · rw [decision?_append hne, decision?_eq]
  · rw [List.countP_append]
    exact Nat.lt_add_right _ active

/-- What is due is done by waiting for it and one move or two. -/
theorem act_leads {a : Attempts σ} {r : Option Transition} {dueMs : Nat}
    (due : t.attempts.due? = some dueMs) (hle : t.nowMs ≤ dueMs)
    (eq : t.attempts.act t.settings ask dueMs t.identifier? = (a, r)) :
    ∃ ms, Leads ask t ms { t with attempts := a, nowMs := dueMs } r := by
  suffices h : ∃ ms, Leads ask { t with nowMs := dueMs } ms
      { t with attempts := a, nowMs := dueMs } r by
    obtain ⟨ms, hms⟩ := h
    exact ⟨_, hms.of_wait hle⟩
  unfold Attempts.act at eq
  cases hact : t.attempts.activity with
  | resting untilMs =>
    simp only [hact] at eq
    have idle : t.attempts.flight? = none := by simp [Attempts.flight?, hact]
    exact begin_leads (t := { t with nowMs := dueMs }) idle eq
  | asking sinceMs answer =>
    simp only [hact] at eq
    cases eq
    have flight := Attempts.flight?_eq_some_iff.mpr hact
    have asks : t.attempts.flight? ≠ none := flight ▸ Option.some_ne_none _
    refine ⟨[.reply], .move .start rfl asks, ?_, ?_, by decide⟩
    · rw [after, after, move_reply_some (t := { t with nowMs := dueMs }) flight]
    · rw [decision?, after, move_reply_some (t := { t with nowMs := dueMs }) flight]
  | ended => simp [Attempts.due?, hact] at due

/-- What a run comes to that makes these moves within a number of activities. -/
inductive Comes (ask : Source σ) (t : Trial σ) (cancelMs : Option Nat) (fuel : Nat)
    (ms : List Move) : Option (Trial σ × Result) → Prop
  | resolved {x : Resolution} (resolves : t.resolution? ask ms = some x) :
      Comes ask t cancelMs fuel ms (some (t.after ask ms, .resolved x))
  | cancelled (goes : t.resolution? ask ms = none)
      (cancels : cancelMs = some (t.after ask ms).nowMs) :
      Comes ask t cancelMs fuel ms (some (t.after ask (.drop :: ms), .cancelled))
  /-- Either the activities are used up or a reply is waited for that never comes. -/
  | unfinished (goes : t.resolution? ask ms = none)
      (used : fuel ≤ ms.countP Move.isActivity ∨ (t.after ask ms).attempts.due? = none) :
      Comes ask t cancelMs fuel ms none

/-- A run goes on from where its moves lead. -/
theorem Leads.comes {ms : List Move} {r : Option Transition} {cancelMs : Option Nat} {fuel : Nat}
    {end? : Option (Trial σ × Result)} (h : Leads ask t ms u r)
    (goes : r.bind Transition.resolution? = none)
    (rest : ∃ later, Runs ask u later ∧ Comes ask u cancelMs fuel later end?) :
    ∃ ms, 0 < ms.countP Move.isActivity ∧ Runs ask t ms ∧
      Comes ask t cancelMs (fuel + 1) ms end? := by
  obtain ⟨runs, rfl, rfl, active⟩ := h
  obtain ⟨later, hruns, hcomes⟩ := rest
  have hcount : (later ++ ms).countP Move.isActivity =
      later.countP Move.isActivity + ms.countP Move.isActivity :=
    List.countP_append
  refine ⟨later ++ ms, by omega, hruns.append runs goes, ?_⟩
  have hafter := after_append ask t later ms
  have hresolution := resolution?_append goes later
  cases hcomes with
  | resolved resolves =>
    rw [← hafter]
    exact .resolved (hresolution.trans resolves)
  | cancelled goes' cancels =>
    rw [after, ← hafter]
    exact .cancelled (hresolution.trans goes') (by rw [hafter, cancels])
  | unfinished goes' used =>
    refine .unfinished (hresolution.trans goes') ?_
    rw [hcount, hafter]
    exact used.imp (fun used => by omega) id

/-- A run that does what is due is resolved by it, or goes on. -/
theorem Leads.comes_of_due {ms : List Move} {a : Attempts σ} {r : Option Transition}
    {cancelMs : Option Nat} {dueMs fuel : Nat}
    (h : Leads ask t ms { u with attempts := a, nowMs := dueMs } r)
    (due : u.attempts.due? = some dueMs) (inTime : cancelMs.any (· < dueMs) = false)
    (eq : u.attempts.act u.settings ask dueMs u.identifier? = (a, r))
    (rest : ∃ later, Runs ask { u with attempts := a, nowMs := dueMs } later ∧
      Comes ask { u with attempts := a, nowMs := dueMs } cancelMs fuel later
        (runFrom ask cancelMs fuel { u with attempts := a, nowMs := dueMs })) :
    ∃ ms, 0 < ms.countP Move.isActivity ∧ Runs ask t ms ∧
      Comes ask t cancelMs (fuel + 1) ms (runFrom ask cancelMs (fuel + 1) u) := by
  unfold runFrom
  simp only [due, inTime, eq]
  match r, h with
  | none, h | some (.retry _), h => exact h.comes rfl rest
  | some (.resolve x), h =>
    obtain ⟨runs, after_eq, decision?_eq, active⟩ := h
    simp only [← after_eq]
    exact ⟨ms, active, runs, .resolved (by rw [resolution?, decision?_eq]; rfl)⟩

/-- What a run comes to, move by move. Nothing is due in the past, and the instant of a cancellation
is not over. -/
theorem runFrom_comes (ask : Source σ) {cancelMs : Option Nat} (fuel : Nat)
    (due : ∀ dueMs, t.attempts.due? = some dueMs → t.nowMs ≤ dueMs)
    (cancels : ∀ ms, cancelMs = some ms → t.nowMs ≤ ms) :
    ∃ ms, Runs ask t ms ∧ Comes ask t cancelMs fuel ms (runFrom ask cancelMs fuel t) := by
  -- Both hypotheses hold again after what is due is done, since it is done at its instant.
  induction fuel generalizing t with
  | zero => exact ⟨[], .start, .unfinished rfl (.inl (Nat.le_refl 0))⟩
  | succ fuel ih =>
    have givesUp : ∀ ms, cancelMs = some ms → ∃ moves, Runs ask t moves ∧
        Comes ask t cancelMs (fuel + 1) moves
          (some ({ t with attempts := t.attempts.abandon, nowMs := ms }, .cancelled)) := by
      intro ms hms
      have hwait : t.nowMs + (ms - t.nowMs) = ms := by
        have := cancels ms hms
        omega
      have waits : Runs ask t [.wait (ms - t.nowMs)] := .move .start rfl trivial
      have h : Comes ask t cancelMs (fuel + 1) [.wait (ms - t.nowMs)] _ :=
        .cancelled rfl (by simp [after, move, hwait, hms])
      simp only [after, move, hwait] at h
      exact ⟨_, waits, h⟩
    cases hdue : t.attempts.due? with
    | none =>
      cases cancelMs with
      | none =>
        simp only [runFrom, hdue]
        exact ⟨[], .start, .unfinished rfl (.inr hdue)⟩
      | some ms =>
        simp only [runFrom, hdue]
        exact givesUp ms rfl
    | some dueMs =>
      cases inTime : cancelMs.any (· < dueMs) with
      | true =>
        cases cancelMs with
        | none => cases inTime
        | some ms =>
          simp only [runFrom, hdue, inTime]
          exact givesUp ms rfl
      | false =>
        obtain ⟨a, r, eq⟩ : ∃ a r, t.attempts.act t.settings ask dueMs t.identifier? = (a, r) :=
          ⟨_, _, rfl⟩
        obtain ⟨ms, hleads⟩ := act_leads hdue (due dueMs hdue) eq
        have notOver : ∀ ms, cancelMs = some ms → dueMs ≤ ms := by
          intro ms hms
          rw [hms, Option.any_some, decide_eq_false_iff_not] at inTime
          exact Nat.not_lt.mp inTime
        have rest := ih (t := { t with attempts := a, nowMs := dueMs })
          (fun dueMs' hdue' => Nat.le_of_add_right_le (Attempts.act_due?_ge eq hdue')) notOver
        obtain ⟨later, -, runs⟩ := hleads.comes_of_due hdue inTime eq rest
        exact ⟨later, runs⟩

/-- A run is not cancelled before it starts to wait. -/
theorem cancel_not_past (nowMs : Nat) (cancelAfterMs : Option Nat) :
    (cancelAfterMs.map (nowMs + ·)).any (· < nowMs) = false := by
  cases cancelAfterMs <;> simp

/-- What a run comes to, move by move, if no query is in flight before it. It begins an attempt if
it does anything at all. -/
theorem run_comes (ask : Source σ) (idle : t.attempts.flight? = none) (fuel : Nat)
    (cancelAfterMs : Option Nat) :
    ∃ ms, (fuel ≠ 0 → 0 < ms.countP Move.isActivity) ∧ Runs ask t ms ∧
      Comes ask t (cancelAfterMs.map (t.nowMs + ·)) fuel ms
        (run ask fuel t false cancelAfterMs) := by
  cases fuel with
  | zero =>
    exact ⟨[], fun h => absurd rfl h, .start, .unfinished rfl (.inl (Nat.le_refl 0))⟩
  | succ fuel =>
    have cancels : ∀ ms, cancelAfterMs.map (t.nowMs + ·) = some ms → t.nowMs ≤ ms := by
      intro ms hms
      obtain ⟨afterMs, -, rfl⟩ := Option.map_eq_some_iff.mp hms
      exact Nat.le_add_right ..
    -- A run rests until now, and begins an attempt whatever was done before.
    have hact : Attempts.act t.settings ask { t.attempts with activity := .resting t.nowMs } t.nowMs
        t.identifier? = Attempts.begin t.settings ask t.attempts t.nowMs t.identifier? := by
      cases t.identifier? <;> rfl
    obtain ⟨a, r, eq⟩ : ∃ a r, Attempts.begin t.settings ask t.attempts t.nowMs t.identifier? =
        (a, r) := ⟨_, _, rfl⟩
    rw [eq] at hact
    obtain ⟨ms, hleads⟩ := begin_leads idle eq
    have rest := runFrom_comes (t := { t with attempts := a }) ask fuel
      (fun dueMs hdue => Nat.le_of_add_right_le (Attempts.act_due?_ge hact hdue)) cancels
    obtain ⟨later, active, comes⟩ := hleads.comes_of_due
      (u := { t with attempts := { t.attempts with activity := .resting t.nowMs } }) rfl
      (cancel_not_past t.nowMs cancelAfterMs) hact rest
    exact ⟨later, fun _ => active, comes⟩

/-! ## Steps -/

/-- A step that is one attempt, if it is not given up. -/
def Step.isAttempt : Step → Bool
  | .attempt | .abandon _ => true
  | _ => false

/-- The moves that a step is made of, by what comes of it. -/
inductive Makes (ask : Source σ) (t : Trial σ) : Step → List Move → Result → Prop
  | setInput {name value : String} :
      Makes ask t (.setInput name value) [.page (t.page.setInput name value)] .done
  | removeInput {name : String} :
      Makes ask t (.removeInput name) [.page (t.page.removeInput name)] .done
  | interpret {reply : Reply} {tr : Transition}
      (decides : t.decision? ask [.interpret reply] = some tr) :
      Makes ask t (.interpret reply) [.interpret reply] (.decided tr)
  | missed {p : Step} (attempts : p.isAttempt = true) (found : t.identifier? = none) :
      Makes ask t p [.look] (.decided (.retry .identifierAbsent))
  | answered {p : Step} {waitMs : Nat} {tr : Transition} (attempts : p.isAttempt = true)
      (decides : t.decision? ask [.reply, .wait waitMs, .look] = some tr) :
      Makes ask t p [.reply, .wait waitMs, .look] (.decided tr)
  | dropped {p : Step} {id : String} {waitMs : Nat} (attempts : p.isAttempt = true)
      (found : t.identifier? = some id) :
      Makes ask t p [.drop, .wait waitMs, .look] .dropped
  | resolved {cancelAfterMs : Option Nat} {ms : List Move} {x : Resolution}
      (runs : Runs ask t ms) (resolves : t.resolution? ask ms = some x) :
      Makes ask t (.run false cancelAfterMs) ms (.resolved x)
  | unstarted {cancelAfterMs : Option Nat} : Makes ask t (.run true cancelAfterMs) [] .cancelled
  | cancelled {cancelAfterMs : Option Nat} {ms : List Move} (runs : Runs ask t ms)
      (goes : t.resolution? ask ms = none) (active : 0 < ms.countP Move.isActivity) :
      Makes ask t (.run false cancelAfterMs) (.drop :: ms) .cancelled

/-- A query that is answered after a while. -/
theorem reply_wait_look {id : String} (found : t.identifier? = some id) (waitMs : Nat) :
    (t.after ask [.wait waitMs, .look]).move ask .reply =
      ({ t with
        attempts := (Attempts.complete t.settings
          (t.attempts.launch t.nowMs id (ask t.attempts.source id).1 (ask t.attempts.source id).2)
          (t.nowMs + waitMs) t.nowMs (ask t.attempts.source id).1.reply).1
        nowMs := t.nowMs + waitMs },
      some (Attempts.complete t.settings
        (t.attempts.launch t.nowMs id (ask t.attempts.source id).1 (ask t.attempts.source id).2)
        (t.nowMs + waitMs) t.nowMs (ask t.attempts.source id).1.reply).2) := by
  have hwait : t.after ask [.wait waitMs, .look] = { t with
      attempts := t.attempts.launch t.nowMs id (ask t.attempts.source id).1
        (ask t.attempts.source id).2
      nowMs := t.nowMs + waitMs } := by
    rw [after, after, after, move_look_some found, move]
  rw [move_reply_some (congrArg (·.attempts.flight?) hwait), hwait]

theorem attempt_makes {p : Step} (attempts : p.isAttempt = true) (ask : Source σ) (t : Trial σ)
    (limitMs : Option Nat) :
    ∃ ms, Makes ask t p ms (attempt ask t limitMs).2 ∧
      t.after ask ms = (attempt ask t limitMs).1 := by
  unfold attempt
  cases hid : t.identifier? with
  | none => exact ⟨_, .missed attempts hid, by rw [after, after, move_look_none hid]; rfl⟩
  | some id =>
    rw [Attempts.begin_some]
    dsimp only
    by_cases atOnce : (ask t.attempts.source id).1.latencyMs = some 0
    · rw [if_pos atOnce]
      exact ⟨_, .answered attempts (congrArg (·.2) (reply_wait_look hid 0)),
        congrArg (·.1) (reply_wait_look hid 0)⟩
    · rw [if_neg atOnce]
      dsimp only [Attempts.launch]
      split
      · exact ⟨_, .answered attempts (congrArg (·.2) (reply_wait_look hid _)),
          congrArg (·.1) (reply_wait_look hid _)⟩
      · exact ⟨[.drop, .wait (limitMs.getD 0), .look], .dropped attempts hid,
          by rw [after, after, after, after, move_look_some hid, move, move]; rfl⟩

/-- A step is made of moves that lead to what comes of it. -/
theorem step_makes (idle : t.attempts.flight? = none) {fuel : Nat} {p : Step} {r : Result}
    (h : step ask fuel t p = some (u, r)) : ∃ ms, Makes ask t p ms r ∧ t.after ask ms = u := by
  cases p with
  | setInput =>
    cases h
    exact ⟨_, .setInput, rfl⟩
  | removeInput =>
    cases h
    exact ⟨_, .removeInput, rfl⟩
  | attempt =>
    have eq : attempt ask t none = (u, r) := Option.some.inj h
    have makes := attempt_makes (p := .attempt) rfl ask t none
    rwa [eq] at makes
  | interpret reply =>
    cases h
    exact ⟨_, .interpret rfl, rfl⟩
  | abandon afterMs =>
    have eq : attempt ask t (some afterMs) = (u, r) := Option.some.inj h
    have makes := attempt_makes (p := .abandon afterMs) rfl ask t (some afterMs)
    rwa [eq] at makes
  | run cancelled cancelAfterMs =>
    rw [step] at h
    cases cancelled with
    | true =>
      cases h
      exact ⟨_, .unstarted, rfl⟩
    | false =>
      obtain ⟨ms, active, runs, comes⟩ := run_comes ask idle fuel cancelAfterMs
      have begun : fuel ≠ 0 := by
        rintro rfl
        cases h
      rw [h] at comes
      cases comes with
      | resolved resolves => exact ⟨_, .resolved runs resolves, rfl⟩
      | cancelled goes => exact ⟨_, .cancelled runs goes (active begun), rfl⟩

/-- The decision of an attempt leaves no query in flight. -/
theorem flight?_of_decision {m : Move} {tr : Transition} (h : ∀ reply, m ≠ .interpret reply)
    (decides : (t.move ask m).2 = some tr) : (t.move ask m).1.attempts.flight? = none := by
  cases m with
  | page | wait | drop => cases decides
  | look =>
    cases hid : t.identifier? with
    | none => rw [move_look_none hid, Attempts.flight?_miss]
    | some id =>
      rw [move_look_some hid] at decides
      cases decides
  | reply =>
    cases flight : t.attempts.flight? with
    | none =>
      rw [move, flight] at decides
      cases decides
    | some answer => rw [move_reply_some flight, Attempts.flight?_complete]
  | interpret reply => exact absurd rfl (h reply)

/-- A step leaves no query in flight. -/
theorem Makes.idle {p : Step} {ms : List Move} {r : Result} (h : Makes ask t p ms r)
    (idle : t.attempts.flight? = none) : (t.after ask ms).attempts.flight? = none := by
  cases h with
  | setInput | removeInput | interpret | unstarted => exact idle
  | missed _ found => exact flight?_of_decision nofun (by rw [after, move_look_none found])
  | answered _ decides => exact flight?_of_decision nofun decides
  | dropped | cancelled => exact Attempts.flight?_abandon _
  | resolved runs resolves =>
    obtain ⟨tr, decides, -⟩ := Option.bind_eq_some_iff.mp resolves
    cases runs with
    | start => cases decides
    | move _ _ inRun =>
      refine flight?_of_decision ?_ decides
      rintro reply rfl
      exact inRun

/-- The trial goes through steps, of which this comes. -/
inductive Passes (ask : Source σ) (t : Trial σ) : List (Step × Result) → Trial σ → Prop
  | start : Passes ask t [] t
  | step {p : Step} {r : Result} {fuel : Nat} {ps : List (Step × Result)} {u v : Trial σ}
      (earlier : Passes ask t ps u) (does : step ask fuel u p = some (v, r)) :
      Passes ask t ((p, r) :: ps) v

/-- The moves that steps are made of. -/
inductive Made (ask : Source σ) (t : Trial σ) : List (Step × Result) → List Move → Prop
  | start : Made ask t [] []
  | step {p : Step} {r : Result} {ps : List (Step × Result)} {ms later : List Move}
      (earlier : Made ask t ps ms) (makes : Makes ask (t.after ask ms) p later r) :
      Made ask t ((p, r) :: ps) (later ++ ms)

theorem Passes.idle {ps : List (Step × Result)} (h : Passes ask t ps u)
    (idle : t.attempts.flight? = none) : u.attempts.flight? = none := by
  induction h with
  | start => exact idle
  | step _ does ih =>
    obtain ⟨ms, makes, rfl⟩ := step_makes ih does
    exact makes.idle ih

/-- The steps that a trial goes through are made of moves. -/
theorem Passes.made {ps : List (Step × Result)} (h : Passes ask t ps u)
    (idle : t.attempts.flight? = none) : ∃ ms, Made ask t ps ms ∧ t.after ask ms = u := by
  induction h with
  | start => exact ⟨[], .start, rfl⟩
  | step earlier does ih =>
    obtain ⟨ms, hmade, rfl⟩ := ih
    obtain ⟨later, makes, rfl⟩ := step_makes (earlier.idle idle) does
    exact ⟨later ++ ms, .step hmade makes, after_append ask t later ms⟩

end Trial

end ApprovalWatch
