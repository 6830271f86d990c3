import ApprovalWatch.Proofs.Schedule

/-!
# Sessions that look alike

A query that fails is followed by another attempt, just as an answer that is pending. So a session
goes the same way whichever of the two it gets, at every query on its own, as long as failures in a
row do not conclude it. All lists have the latest entry first.

Main results:

* `Inquiry.Decides.of_spared`: what follows a reply is told by the status in it, if that is final.
* `Attempts.Alike.act`: attempts that are alike stay so, and are resolved alike.
* `Session.Alike.advance`: sessions that are alike stay so from instant to instant.
* `finishes_alike`: nobody can tell the sessions apart.
-/

namespace ApprovalWatch

/-! ## Answers -/

namespace Settings

/-- The status in a reply, if it concludes a session. -/
def final? (s : Settings) : Reply → Option String
  | .ok status =>
    if status = s.statuses.success ∨ status ∈ s.statuses.terminalFailures then some status else none
  | .error _ => none

/-- The conclusion that a final status leads to. -/
def verdict (s : Settings) (status : String) : Conclusion :=
  s.conclusion
    (if status = s.statuses.success then .success (Status.ofName status)
    else .failure (.terminalStatus status))

/-- What a session goes by in an answer: when it comes, and a final status. -/
def outline (s : Settings) (a : Answer) : Option Nat × Option String :=
  (a.latencyMs, s.final? a.reply)

theorem outline_eq_iff {s : Settings} {a b : Answer} :
    s.outline a = s.outline b ↔
      a.latencyMs = b.latencyMs ∧ s.final? a.reply = s.final? b.reply := by
  rw [outline, outline, Prod.mk.injEq]

end Settings

/-- Scripts with the same outlines answer with the same outlines. -/
theorem Script.ask_outline {s : Settings} {xs ys : List Answer}
    (h : xs.map s.outline = ys.map s.outline) (fallback id : String) :
    s.outline (ask fallback xs id).1 = s.outline (ask fallback ys id).1 ∧
      (ask fallback xs id).2.map s.outline = (ask fallback ys id).2.map s.outline := by
  match xs, ys, h with
  | [], [], _ => exact ⟨rfl, rfl⟩
  | x :: xs, y :: ys, h => exact List.cons.inj h

/-! ## Counts -/

/-- The queries that were answered and left the inquiry as it was. -/
def Tally.unresolved (t : Tally) : Nat :=
  t.pendingResponses + t.transientFailures

/-- Counts that differ in what was pending and what failed only. -/
structure Tally.Alike (a b : Tally) : Prop where
  identifierRetries : a.identifierRetries = b.identifierRetries
  queries : a.queries = b.queries
  unresolved : a.unresolved = b.unresolved

namespace Inquiry

variable {s : Settings} {q q' : Inquiry} {tally tally₁ tally₂ : Tally} {r r' : Reply}
  {tr tr' : Transition}

/-- What follows a reply is told by its final status, unless it is one failure too many. Without
one, the query is counted as unresolved. -/
theorem Decides.of_spared (h : Decides s tally r tally₁ tr)
    (spared : tr ≠ .resolve (.failure .transportExhausted)) :
    s.concluded? tr = (s.final? r).map s.verdict ∧
      tally₁.identifierRetries = tally.identifierRetries ∧ tally₁.queries = tally.queries ∧
      tally₁.unresolved = tally.unresolved + (s.final? r).isNone.toNat := by
  cases h with
  | success => simp [Settings.final?, Settings.verdict, Settings.concluded?, Tally.unresolved]
  | terminal other ends =>
    simp [Settings.final?, Settings.verdict, Settings.concluded?, Tally.unresolved, other, ends]
  | pending other goes =>
    simp [Settings.final?, Settings.concluded?, Tally.unresolved, other, goes]
    omega
  | exhausted => exact absurd rfl spared
  | transient =>
    simp [Settings.final?, Settings.concluded?, Tally.unresolved]
    omega

/-- Replies with the same final status are decided alike. -/
theorem Decides.alike (h : Decides s tally r tally₁ tr) (h' : Decides s tally' r' tally₂ tr')
    (same : s.final? r = s.final? r') (halike : tally.Alike tally')
    (spared : tr ≠ .resolve (.failure .transportExhausted))
    (spared' : tr' ≠ .resolve (.failure .transportExhausted)) :
    tally₁.Alike tally₂ ∧ s.concluded? tr = s.concluded? tr' := by
  obtain ⟨hconcluded, hretries, hqueries, hunresolved⟩ := h.of_spared spared
  obtain ⟨hconcluded', hretries', hqueries', hunresolved'⟩ := h'.of_spared spared'
  refine ⟨⟨?_, ?_, ?_⟩, ?_⟩
  · rw [hretries, hretries', halike.identifierRetries]
  · rw [hqueries, hqueries', halike.queries]
  · rw [hunresolved, hunresolved', halike.unresolved, same]
  · rw [hconcluded, hconcluded', same]

end Inquiry

/-! ## Attempts -/

/-- Attempts that are at the same, and wait for answers with the same outline. -/
inductive Activity.Alike (s : Settings) (x y : Activity) : Prop
  | resting {untilMs : Nat} (left : x = .resting untilMs) (right : y = .resting untilMs)
  | asking {sinceMs : Nat} {answer answer' : Answer} (left : x = .asking sinceMs answer)
      (right : y = .asking sinceMs answer') (same : s.outline answer = s.outline answer')
  | ended (left : x = .ended) (right : y = .ended)

namespace Attempts

variable {s : Settings} {fallback : String} {a b : Attempts (List Answer)} {nowMs : Nat}

/-- Attempts that did the same, and differ in the answers to come by nothing but their outlines. -/
structure Alike (s : Settings) (a b : Attempts (List Answer)) : Prop where
  tally : a.inquiry.tally.Alike b.inquiry.tally
  activity : a.activity.Alike s b.activity
  source : a.source.map s.outline = b.source.map s.outline
  looks : a.journal.looks = b.journal.looks
  queries : a.journal.queries = b.journal.queries

theorem Alike.due?_eq (h : a.Alike s b) : a.due? = b.due? := by
  unfold due?
  cases h.activity with
  | resting left right | ended left right => rw [left, right]
  | asking left right same =>
    rw [left, right]
    dsimp only
    rw [(Settings.outline_eq_iff.mp same).1]

theorem Alike.isResting_eq (h : a.Alike s b) : a.isResting = b.isResting := by
  unfold isResting
  cases h.activity with
  | resting left right | asking left right | ended left right => rw [left, right]

theorem Alike.miss (h : a.Alike s b) (nowMs : Nat) : (a.miss s nowMs).Alike s (b.miss s nowMs) where
  tally := ⟨congrArg (· + 1) h.tally.identifierRetries, h.tally.queries, h.tally.unresolved⟩
  activity := .resting rfl rfl
  source := h.source
  looks := congrArg (_ :: ·) h.looks
  queries := h.queries

theorem Alike.launch (h : a.Alike s b) (fallback : String) (nowMs : Nat) (id : String) :
    Alike s
      (a.launch nowMs id (Script.ask fallback a.source id).1 (Script.ask fallback a.source id).2)
      (b.launch nowMs id (Script.ask fallback b.source id).1
        (Script.ask fallback b.source id).2) where
  tally := ⟨h.tally.identifierRetries, congrArg (· + 1) h.tally.queries, h.tally.unresolved⟩
  activity := .asking rfl rfl (Script.ask_outline h.source fallback id).1
  source := (Script.ask_outline h.source fallback id).2
  looks := congrArg (_ :: ·) h.looks
  queries := congrArg (_ :: ·) h.queries

/-- A completed attempt is followed by a rest, or by nothing if it concludes the session. -/
theorem complete_activity (s : Settings) (a : Attempts (List Answer)) (nowMs sinceMs : Nat)
    (reply : Reply) :
    (complete s a nowMs sinceMs reply).1.activity =
      if (s.concluded? (complete s a nowMs sinceMs reply).2).isSome then .ended
      else .resting (nowMs + s.retry.delayMs) := by
  unfold complete
  dsimp only
  cases (a.inquiry.interpret s reply).2 <;> rfl

theorem Alike.complete {r r' : Reply} (h : a.Alike s b) (same : s.final? r = s.final? r')
    (nowMs sinceMs : Nat)
    (spared : (complete s a nowMs sinceMs r).2 ≠ .resolve (.failure .transportExhausted))
    (spared' : (complete s b nowMs sinceMs r').2 ≠ .resolve (.failure .transportExhausted)) :
    (Attempts.complete s a nowMs sinceMs r).1.Alike s (Attempts.complete s b nowMs sinceMs r').1 ∧
      s.concluded? (Attempts.complete s a nowMs sinceMs r).2 =
        s.concluded? (Attempts.complete s b nowMs sinceMs r').2 := by
  obtain ⟨htally, hconcluded⟩ :=
    (Inquiry.interpret_decides s a.inquiry r).alike (Inquiry.interpret_decides s b.inquiry r') same
      h.tally spared spared'
  refine ⟨⟨htally, ?_, h.source, h.looks, h.queries⟩, hconcluded⟩
  have hleft := complete_activity s a nowMs sinceMs r
  have hright := complete_activity s b nowMs sinceMs r'
  rw [show s.concluded? (Attempts.complete s a nowMs sinceMs r).2 = _ from hconcluded] at hleft
  split at hright
  · rename_i hsome
    exact .ended (hleft.trans (if_pos hsome)) hright
  · rename_i hnone
    exact .resting (hleft.trans (if_neg hnone)) hright

/-- **Attempts that are alike** stay so whatever they have due, and conclude the session alike. -/
theorem Alike.act (h : a.Alike s b) (nowMs : Nat) (identifier : Option String)
    (spared : (act s (Script.ask fallback) a nowMs identifier).2 ≠
      some (.resolve (.failure .transportExhausted)))
    (spared' : (act s (Script.ask fallback) b nowMs identifier).2 ≠
      some (.resolve (.failure .transportExhausted))) :
    (Attempts.act s (Script.ask fallback) a nowMs identifier).1.Alike s
        (Attempts.act s (Script.ask fallback) b nowMs identifier).1 ∧
      (Attempts.act s (Script.ask fallback) a nowMs identifier).2.bind s.concluded? =
        (Attempts.act s (Script.ask fallback) b nowMs identifier).2.bind s.concluded? := by
  unfold Attempts.act at *
  cases h.activity with
  | resting left right =>
    rw [left] at spared ⊢
    rw [right] at spared' ⊢
    dsimp only at *
    cases identifier with
    | none => exact ⟨h.miss nowMs, rfl⟩
    | some id =>
      have hlaunch := h.launch fallback nowMs id
      obtain ⟨hlatency, hfinal⟩ :=
        Settings.outline_eq_iff.mp (Script.ask_outline h.source fallback id).1
      simp only [begin_some, hlatency] at spared spared' ⊢
      split
      · rename_i atOnce
        rw [if_pos atOnce] at spared spared'
        exact hlaunch.complete hfinal nowMs nowMs (fun h => spared (congrArg some h))
          fun h => spared' (congrArg some h)
      · exact ⟨hlaunch, rfl⟩
  | asking left right same =>
    rw [left] at spared ⊢
    rw [right] at spared' ⊢
    exact h.complete (Settings.outline_eq_iff.mp same).2 _ _ (fun h => spared (congrArg some h))
      fun h => spared' (congrArg some h)
  | ended left right =>
    rw [left, right]
    exact ⟨h, rfl⟩

theorem Alike.abandon (h : a.Alike s b) : a.abandon.Alike s b.abandon := by
  unfold Attempts.abandon
  cases h.activity with
  | resting left right | asking left right | ended left right =>
    rw [left, right]
    exact ⟨h.tally, .ended rfl rfl, h.source, h.looks, h.queries⟩

section Replied

variable {σ : Type} {a : Attempts σ}

/-- The replies so far to the queries of attempts that were not given up. -/
def replied (ask : Source σ) (src : σ) (a : Attempts σ) : List Reply :=
  match a.activity with
  | .asking .. => ask.replies src (Look.identifiers a.journal.looks).tail
  | _ => ask.replies src (Look.identifiers a.journal.looks)

theorem replied_of_ended (ended : a.activity = .ended) (ask : Source σ) (src : σ) :
    a.replied ask src = ask.replies src (Look.identifiers a.journal.looks) := by
  rw [replied, ended]

end Replied

end Attempts

/-! ## Sessions -/

namespace Session

section Turns

variable {σ : Type} {ask : Source σ} {c : Scenario σ} {t : Session σ}

/-- Failures in a row concluded the session. -/
def Exhausted (t : Session σ) : Prop :=
  t.latch.get? = some (t.settings.failed .transportExhausted)

theorem actInquiry_eq (ask : Source σ) (t : Session σ) :
    t.actInquiry ask =
      let (attempts, transition) := t.attempts.act t.settings ask t.nowMs t.identifier?
      (transition.bind t.settings.concluded?).elim (t.proceed attempts)
        (t.proceed attempts).conclude := by
  unfold actInquiry
  rcases t.attempts.act t.settings ask t.nowMs t.identifier? with ⟨a, _ | _ | _⟩ <;> rfl

theorem Reaches.exhausted_actInquiry (h : Reaches ask c t) (runs : t.cancelled = false)
    (exhausts : (t.attempts.act t.settings ask t.nowMs t.identifier?).2 =
      some (.resolve (.failure .transportExhausted))) : (t.actInquiry ask).Exhausted := by
  rw [actInquiry_eq]
  dsimp only
  rw [exhausts]
  show ((t.proceed _).conclude _).Exhausted
  rw [conclude_of_running (t := t.proceed _) runs (h.latch_eq_none runs)]
  exact get?_settle (t.proceed _) (h.latch_eq_none runs) _

/-- A session that failures in a row concluded stays so. -/
theorem Reaches.exhausted_foldl (h : Reaches ask c t) (exhausted : t.Exhausted)
    (ps : List Part) : (ps.foldl (Session.act ask) t).Exhausted := by
  have ended : t.cancelled = true := by
    cases runs : t.cancelled with
    | true => rfl
    | false => exact absurd (exhausted.symm.trans (h.latch_eq_none runs)) nofun
  rw [foldl_act_of_cancelled ended]
  exact exhausted

end Turns

variable {order : Order} {fallback : String} {c c' : Scenario (List Answer)}
  {t u : Session (List Answer)}

/-- Sessions that differ in their attempts only, which are alike. -/
def Alike (t u : Session (List Answer)) : Prop :=
  ∃ b, t.attempts.Alike t.settings b ∧ u = { t with attempts := b }

theorem alike_start {script : List Answer}
    (same : c.source.map c.settings.outline = script.map c.settings.outline) :
    Alike (start c) (start { c with source := script }) :=
  ⟨{ source := script }, ⟨⟨rfl, rfl, rfl⟩, .resting rfl rfl, same, rfl, rfl⟩, rfl⟩

namespace Alike

theorem attempts (h : Alike t u) : t.attempts.Alike t.settings u.attempts := by
  obtain ⟨b, hb, rfl⟩ := h
  exact hb

theorem settings_eq (h : Alike t u) : t.settings = u.settings := by
  obtain ⟨b, -, rfl⟩ := h
  rfl

theorem identifier?_eq (h : Alike t u) : t.identifier? = u.identifier? := by
  obtain ⟨b, -, rfl⟩ := h
  rfl

theorem cancelled_eq (h : Alike t u) : t.cancelled = u.cancelled := by
  obtain ⟨b, -, rfl⟩ := h
  rfl

theorem nowMs_eq (h : Alike t u) : t.nowMs = u.nowMs := by
  obtain ⟨b, -, rfl⟩ := h
  rfl

theorem due?_eq (h : Alike t u) (p : Part) : t.due? p = u.due? p := by
  obtain ⟨b, hb, rfl⟩ := h
  cases p with
  | inquiry => exact hb.due?_eq
  | deadline | countdown | host | page => rfl

theorem next?_eq (h : Alike t u) : t.next? = u.next? := by
  have hdue : t.due? = u.due? := funext h.due?_eq
  rw [next?, next?, hdue]

theorem clock (h : Alike t u) (nextMs : Nat) :
    Alike { t with nowMs := max t.nowMs nextMs } { u with nowMs := max u.nowMs nextMs } := by
  obtain ⟨b, hb, rfl⟩ := h
  exact ⟨b, hb, rfl⟩

theorem conclude (h : Alike t u) (k : Conclusion) : Alike (t.conclude k) (u.conclude k) := by
  obtain ⟨b, hb, rfl⟩ := h
  unfold Session.conclude
  dsimp only
  split
  · exact ⟨b, hb, rfl⟩
  · exact ⟨{ b with journal := b.journal.measure (.session k.kind k.code) },
      ⟨hb.tally, hb.activity, hb.source, hb.looks, hb.queries⟩, rfl⟩

theorem proceed (h : Alike t u) {a b : Attempts (List Answer)} (hab : a.Alike t.settings b) :
    Alike (t.proceed a) (u.proceed b) := by
  obtain ⟨b', hb, rfl⟩ := h
  refine ⟨b, hab, ?_⟩
  rw [Session.proceed, Session.proceed, hb.isResting_eq]

theorem actInquiry (h : Alike t u)
    (spared : (t.attempts.act t.settings (Script.ask fallback) t.nowMs t.identifier?).2 ≠
      some (.resolve (.failure .transportExhausted)))
    (spared' : (u.attempts.act u.settings (Script.ask fallback) u.nowMs u.identifier?).2 ≠
      some (.resolve (.failure .transportExhausted))) :
    Alike (t.actInquiry (Script.ask fallback)) (u.actInquiry (Script.ask fallback)) := by
  rw [← h.settings_eq, ← h.nowMs_eq, ← h.identifier?_eq] at spared'
  obtain ⟨hact, hconcluded⟩ := h.attempts.act t.nowMs t.identifier? spared spared'
  rw [actInquiry_eq, actInquiry_eq, ← h.settings_eq, ← h.nowMs_eq, ← h.identifier?_eq]
  dsimp only
  rw [← hconcluded]
  cases Option.bind _ t.settings.concluded? with
  | none => exact h.proceed hact
  | some k => exact (h.proceed hact).conclude k

theorem actDeadline (h : Alike t u) : Alike t.actDeadline u.actDeadline := by
  obtain ⟨b, hb, rfl⟩ := h
  exact conclude (t := { t with deadline := none }) ⟨b, hb, rfl⟩ _

theorem actCountdown (h : Alike t u) : Alike t.actCountdown u.actCountdown := by
  obtain ⟨b, hb, rfl⟩ := h
  unfold Session.actCountdown
  dsimp only
  split <;> exact ⟨b, hb, rfl⟩

theorem actHost (h : Alike t u) : Alike t.actHost u.actHost := by
  obtain ⟨b, hb, rfl⟩ := h
  exact ⟨b, hb, rfl⟩

theorem actPage (h : Alike t u) : Alike t.actPage u.actPage := by
  obtain ⟨b, hb, rfl⟩ := h
  unfold Session.actPage
  dsimp only
  split <;> exact ⟨b, hb, rfl⟩

/-- A part's turn keeps sessions alike, unless it is one failure too many for one of them. -/
theorem act (h : Alike t u) (ht : Reaches (Script.ask fallback) c t)
    (hu : Reaches (Script.ask fallback) c' u) (p : Part)
    (spared : ¬ (t.act (Script.ask fallback) p).Exhausted)
    (spared' : ¬ (u.act (Script.ask fallback) p).Exhausted) :
    Alike (t.act (Script.ask fallback) p) (u.act (Script.ask fallback) p) := by
  unfold Session.act at spared spared' ⊢
  rw [← h.cancelled_eq, ← h.due?_eq, ← h.nowMs_eq] at spared' ⊢
  split
  · rename_i acts
    rw [if_pos acts] at spared spared'
    cases p with
    | inquiry =>
      have runs : t.cancelled = false := by simpa using (Bool.and_eq_true_iff.mp acts).1
      exact h.actInquiry (fun exhausts => spared (ht.exhausted_actInquiry runs exhausts))
        fun exhausts => spared' (hu.exhausted_actInquiry (h.cancelled_eq ▸ runs) exhausts)
    | deadline => exact h.actDeadline
    | countdown => exact h.actCountdown
    | host => exact h.actHost
    | page => exact h.actPage
  · exact h

theorem foldl (h : Alike t u) (ht : Reaches (Script.ask fallback) c t)
    (hu : Reaches (Script.ask fallback) c' u) (ps : List Part)
    (spared : ¬ (ps.foldl (Session.act (Script.ask fallback)) t).Exhausted)
    (spared' : ¬ (ps.foldl (Session.act (Script.ask fallback)) u).Exhausted) :
    Alike (ps.foldl (Session.act (Script.ask fallback)) t)
      (ps.foldl (Session.act (Script.ask fallback)) u) := by
  induction ps generalizing t u with
  | nil => exact h
  | cons p ps ih =>
    -- one failure too many at this turn would still be there after the others
    have hact := h.act ht hu p (fun exhausted => spared ((ht.act p).exhausted_foldl exhausted ps))
      fun exhausted => spared' ((hu.act p).exhausted_foldl exhausted ps)
    exact ih hact (ht.act p) (hu.act p) spared spared'

theorem pass (h : Alike t u) (ht : Reaches (Script.ask fallback) c t)
    (hu : Reaches (Script.ask fallback) c' u)
    (spared : ¬ (Session.pass order (Script.ask fallback) t).Exhausted)
    (spared' : ¬ (Session.pass order (Script.ask fallback) u).Exhausted) :
    Alike (Session.pass order (Script.ask fallback) t)
      (Session.pass order (Script.ask fallback) u) := by
  unfold Session.pass at *
  rw [← h.nowMs_eq] at spared' ⊢
  exact h.foldl ht hu _ spared spared'

/-- **Sessions that are alike** stay so from instant to instant, unless failures in a row conclude
one of them. -/
theorem advance (h : Alike t u) (ht : Reaches (Script.ask fallback) c t)
    (hu : Reaches (Script.ask fallback) c' u)
    (spared : ∀ n v, Session.advance order (Script.ask fallback) n t = some v → ¬ v.Exhausted)
    (spared' : ∀ n v, Session.advance order (Script.ask fallback) n u = some v → ¬ v.Exhausted)
    (n : Nat) :
    Option.Rel Alike (Session.advance order (Script.ask fallback) n t)
      (Session.advance order (Script.ask fallback) n u) := by
  induction n generalizing t u with
  | zero => exact .some h
  | succ n ih =>
    rw [Session.advance, Session.advance]
    by_cases ended : t.cancelled = true
    · rw [if_pos ended, if_pos (h.cancelled_eq ▸ ended)]
      exact .none
    · have ended' : ¬ u.cancelled = true := h.cancelled_eq ▸ ended
      have hnext := h.next?_eq
      rw [if_neg ended, if_neg ended', ← hnext]
      cases next : t.next? with
      | none => exact .none
      | some nextMs =>
        rw [next] at hnext
        have runs : t.cancelled = false := by simpa using ended
        have runs' : u.cancelled = false := by simpa using ended'
        have hlater := fun n v hv =>
          spared (n + 1) v (advance_succ_eq_some.mpr ⟨runs, nextMs, next, hv⟩)
        have hlater' := fun n v hv =>
          spared' (n + 1) v (advance_succ_eq_some.mpr ⟨runs', nextMs, hnext.symm, hv⟩)
        have ht' := ht.step runs (.clock next)
        have hu' := hu.step runs' (.clock hnext.symm)
        have hpass := (h.clock nextMs).pass ht' hu' (hlater 0 _ rfl) (hlater' 0 _ rfl)
        exact ih hpass (ht'.foldl _) (hu'.foldl _) hlater hlater'

theorem close (h : Alike t u) : Alike t.close u.close := by
  obtain ⟨b, hb, rfl⟩ := h
  unfold Session.close
  dsimp only
  split <;> exact ⟨b.abandon, hb.abandon, rfl⟩

end Alike

/-! ## Spared sessions -/

section Spared

variable {σ : Type} {ask : Source σ} {c : Scenario σ} {v : Session σ} {n : Nat}

/-- Of the replies that a session gets, never so many in a row are failures that they use up what
its settings allow. -/
def Spared (order : Order) (ask : Source σ) (c : Scenario σ) : Prop :=
  ∀ m, c.settings.retry.maxConsecutiveFailures = some m →
    ∀ n v, advance order ask n (start c) = some v →
      Reply.streak (v.attempts.replied ask c.source) < m

theorem Spared.not_exhausted (h : Spared order ask c)
    (hv : Session.advance order ask n (Session.start c) = some v) : ¬ v.Exhausted := by
  intro exhausted
  have hr : Reaches ask c v := Reaches.start.advance hv
  rcases hr.concluded exhausted with heq | ⟨r, heq, ended, resolved⟩
  · cases heq
  · obtain rfl : r = .failure .transportExhausted := by
      cases r with
      | success => cases heq
      | failure reason => rw [← (Conclusion.failed.inj heq).1]
    obtain ⟨m, hm, hle⟩ := Settings.resolution?_transportExhausted resolved
    have hlt := h m hm n v hv
    rw [Attempts.replied_of_ended ended] at hlt
    exact Nat.not_lt.mpr hle hlt

/-- Whether a session that ends is spared can be told from its instants. -/
theorem spared_of_run {m : Nat} (fuel : Nat) (hm : c.settings.retry.maxConsecutiveFailures = some m)
    (ends : (Session.run order ask fuel (Session.start c)).isSome)
    (spared : ∀ n < fuel, (Session.advance order ask n (Session.start c)).all
      fun v => Reply.streak (v.attempts.replied ask c.source) < m) : Spared order ask c := by
  intro m' hm' n v hv
  rw [hm] at hm'
  cases hm'
  simpa using advance_all ends spared hv

end Spared

/-! ## What is seen -/

/-- What is seen of two sessions is the same, be they under way or at their end. -/
structure SeenAlike {σ : Type} (c c' : Scenario σ) (t u : Session σ) : Prop where
  /-- They come at the same instants, and for the same identifiers. -/
  queries : t.attempts.journal.queries = u.attempts.journal.queries
  actions : t.actions = u.actions
  conclusion : (report c t).conclusion = (report c' u).conclusion
  deadlineSecs : (report c t).deadlineSecs = (report c' u).deadlineSecs
  elapsedMs : (report c t).elapsedMs = (report c' u).elapsedMs
  writes : t.writes = u.writes
  identifierRetries :
    (report c t).tally.identifierRetries = (report c' u).tally.identifierRetries
  queried : (report c t).tally.queries = (report c' u).tally.queries
  unresolved : (report c t).tally.unresolved = (report c' u).tally.unresolved

theorem Alike.seen (h : Alike t u) (script : List Answer) :
    SeenAlike c { c with source := script } t u := by
  obtain ⟨b, hb, rfl⟩ := h
  exact
    { queries := hb.queries
      actions := rfl
      conclusion := rfl
      deadlineSecs := rfl
      elapsedMs := rfl
      writes := rfl
      identifierRetries := hb.tally.identifierRetries
      queried := hb.tally.queries
      unresolved := hb.tally.unresolved }

theorem rel_seen {o o' : Option (Session (List Answer))} (h : Option.Rel Alike o o')
    (script : List Answer) : Option.Rel (SeenAlike c { c with source := script }) o o' := by
  cases h with
  | none => exact .none
  | some halike => exact .some (halike.seen script)

section Ends

variable {v w : Session (List Answer)}
  (rel : ∀ n, Option.Rel Alike (advance order (Script.ask fallback) n (start c))
    (advance order (Script.ask fallback) n (start c')))

include rel

theorem EndsIn.exists_right (h : EndsIn order (Script.ask fallback) c v) :
    ∃ w, EndsIn order (Script.ask fallback) c' w ∧ Alike v w := by
  obtain ⟨ended, n, hv⟩ := h
  have hrel := rel n
  rw [hv] at hrel
  generalize hw : advance order (Script.ask fallback) n (start c') = o at hrel
  cases hrel with
  | some halike => exact ⟨_, ⟨halike.cancelled_eq ▸ ended, n, hw⟩, halike⟩

theorem EndsIn.exists_left (h : EndsIn order (Script.ask fallback) c' w) :
    ∃ v, EndsIn order (Script.ask fallback) c v ∧ Alike v w := by
  obtain ⟨ended, n, hw⟩ := h
  have hrel := rel n
  rw [hw] at hrel
  generalize hv : advance order (Script.ask fallback) n (start c) = o at hrel
  cases hrel with
  | some halike => exact ⟨_, ⟨halike.cancelled_eq ▸ ended, n, hv⟩, halike⟩

end Ends

/-- **Failed queries look like pending answers.** Take two scripts whose answers come at the same
times and hold the same final statuses, and whatever they like where there is none. As long as
failures in a row do not use up what the settings allow, the sessions that they answer look the same
from instant to instant, and at their ends: either both have one or neither. -/
theorem finishes_alike {script : List Answer}
    (same : c.source.map c.settings.outline = script.map c.settings.outline)
    (spared : Spared order (Script.ask fallback) c)
    (spared' : Spared order (Script.ask fallback) { c with source := script }) :
    (∀ n, Option.Rel (SeenAlike c { c with source := script })
      (advance order (Script.ask fallback) n (start c))
      (advance order (Script.ask fallback) n (start { c with source := script }))) ∧
    ((∃ t, Finishes order (Script.ask fallback) c t) ↔
      ∃ u, Finishes order (Script.ask fallback) { c with source := script } u) ∧
    ∀ t u, Finishes order (Script.ask fallback) c t →
      Finishes order (Script.ask fallback) { c with source := script } u →
        SeenAlike c { c with source := script } t u := by
  have rel := (alike_start same).advance .start .start (fun _ _ => spared.not_exhausted)
    (fun _ _ => spared'.not_exhausted)
  refine ⟨fun n => rel_seen (rel n) script, ⟨?_, ?_⟩, ?_⟩
  · rintro ⟨t, ht⟩
    obtain ⟨v, hv, -⟩ := finishes_iff.mp ht
    obtain ⟨w, hw, -⟩ := hv.exists_right rel
    exact ⟨w.close, finishes_iff.mpr ⟨w, hw, rfl⟩⟩
  · rintro ⟨u, hu⟩
    obtain ⟨w, hw, -⟩ := finishes_iff.mp hu
    obtain ⟨v, hv, -⟩ := hw.exists_left rel
    exact ⟨v.close, finishes_iff.mpr ⟨v, hv, rfl⟩⟩
  · rintro t u ht ⟨fuel, hu⟩
    obtain ⟨v, hv, rfl⟩ := finishes_iff.mp ht
    obtain ⟨w, hw, halike⟩ := hv.exists_right rel
    obtain ⟨fuel', hw⟩ := finishes_iff.mpr ⟨w, hw, rfl⟩
    rw [run_unique hu hw]
    exact halike.close.seen script

/-- A session that is pending, fails, and is approved. -/
def patchy : Scenario (List Answer) where
  settings := { retry := { delayMs := 500, maxConsecutiveFailures := some 2 } }
  page := { inputs := [("pushAuthPushId", "p-1")] }
  hiddenReads := 1
  source := [⟨some 300, .ok "PENDING"⟩, ⟨some 200, .error .transport⟩, ⟨some 0, .ok "APPROVED"⟩]

/-- Answers of the same outlines. -/
def mended : List Answer :=
  [⟨some 300, .error .malformed⟩, ⟨some 200, .ok "SCANNED"⟩, ⟨some 0, .ok "APPROVED"⟩]

theorem finishes_alike_patchy :
    ∃ t u, Finishes Order.usual (Script.ask "PENDING") patchy t ∧
      Finishes Order.usual (Script.ask "PENDING") { patchy with source := mended } u ∧
      SeenAlike patchy { patchy with source := mended } t u ∧
      (report patchy t).tally = ⟨1, 3, 1, 1, 0⟩ ∧
      (report { patchy with source := mended } u).elapsedMs = 2000 := by
  have hends : (run Order.usual (Script.ask "PENDING") 12 (start patchy)).map
      (fun t => (t.attempts.inquiry.tally, t.nowMs)) = some (⟨1, 3, 1, 1, 0⟩, 2000) := by
    decide +kernel
  obtain ⟨t, ht, hends⟩ := Option.map_eq_some_iff.mp hends
  obtain ⟨htally, helapsed⟩ := Prod.mk.inj hends
  have helapsed : (report patchy t).elapsedMs = 2000 := helapsed
  have spared : Spared Order.usual (Script.ask "PENDING") patchy :=
    spared_of_run 12 rfl (by decide +kernel) (by decide +kernel)
  have spared' : Spared Order.usual (Script.ask "PENDING") { patchy with source := mended } :=
    spared_of_run 12 rfl (by decide +kernel) (by decide +kernel)
  obtain ⟨-, hfinishes, hseen⟩ := finishes_alike (by decide +kernel) spared spared'
  obtain ⟨u, hu⟩ := hfinishes.mp ⟨t, 12, ht⟩
  have hseen := hseen t u ⟨12, ht⟩ hu
  exact ⟨t, u, ⟨12, ht⟩, hu, hseen, htally, hseen.elapsedMs.symm.trans helapsed⟩

end Session

end ApprovalWatch
