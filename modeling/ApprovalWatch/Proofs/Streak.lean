import ApprovalWatch.Proofs.Likeness
import ApprovalWatch.Proofs.Moves

/-!
# Failures in a row

An inquiry counts the queries that failed since the last status. The replies that were heard tell
the count, whatever else happened between them: attempts without an identifier and attempts that
were given up neither prolong a row of failures nor end it. As many failures in a row as there may
be end the inquiry, and nothing else does so for this reason. All lists have the latest entry first.

Main results:

* `Fresh.after_streak`: the count, after any moves.
* `Fresh.decision?_of_error`: what follows from a failure.
* `Runs.transportExhausted_iff`: when a run ends for too many failures in a row.
-/

namespace ApprovalWatch

/-! ## Rows of failures -/

theorem Reply.length_le_streak {row : List Reply} (fails : ∀ r ∈ row, r.isFailure = true)
    (earlier : List Reply) : row.length ≤ streak (row ++ earlier) := by
  rw [streak, List.takeWhile_append_of_pos fails, List.length_append]
  exact Nat.le_add_right ..

theorem Reply.isFailure_of_mem_take {replies : List Reply} {m : Nat} (h : m ≤ streak replies)
    {r : Reply} (hr : r ∈ replies.take m) : r.isFailure = true := by
  have hinitial : replies.take m <+: replies.takeWhile isFailure :=
    List.prefix_of_prefix_length_le (List.take_prefix ..) (List.takeWhile_prefix ..)
      ((List.length_take_le ..).trans h)
  exact List.mem_takeWhile_imp (hinitial.subset hr)

namespace Settings

variable {s : Settings} {m : Nat} {r : Reply} {replies : List Reply}

/-- There are so many failures in a row before any final status. -/
def Overrun (s : Settings) (m : Nat) (replies : List Reply) : Prop :=
  ∃ later row earlier, replies = later ++ (row ++ earlier) ∧ row.length = m ∧
    (∀ r ∈ row, r.isFailure = true) ∧ ∀ r ∈ earlier, s.final? r = none

theorem overrun_of_le_streak (h : m ≤ Reply.streak replies)
    (goes : ∀ r ∈ replies.drop m, s.final? r = none) : s.Overrun m replies := by
  have hle : m ≤ replies.length := h.trans (List.takeWhile_prefix ..).length_le
  refine ⟨[], replies.take m, replies.drop m, ?_, ?_, ?_, goes⟩
  · rw [List.nil_append, List.take_append_drop]
  · exact List.length_take_of_le hle
  · exact fun r hr => Reply.isFailure_of_mem_take h hr

/-- A row of failures is either there already or ends with the latest reply. -/
theorem Overrun.of_cons (h : s.Overrun m (r :: replies)) :
    s.Overrun m replies ∨ m ≤ Reply.streak (r :: replies) := by
  obtain ⟨later, row, earlier, heq, rfl, fails, goes⟩ := h
  cases later with
  | nil =>
    rw [heq]
    exact .inr (Reply.length_le_streak fails earlier)
  | cons l later => exact .inl ⟨later, row, earlier, (List.cons.inj heq).2, rfl, fails, goes⟩

/-- What follows from a failure that makes the row so long. -/
def onFailure (s : Settings) (streak : Nat) : Transition :=
  match s.retry.maxConsecutiveFailures with
  | some m => if m ≤ streak then .resolve (.failure .transportExhausted) else .retry .transient
  | none => .retry .transient

theorem onFailure_eq (s : Settings) (streak : Nat) :
    s.onFailure streak =
      if Inquiry.exhausts s streak then .resolve (.failure .transportExhausted)
      else .retry .transient := by
  unfold onFailure Inquiry.exhausts
  cases s.retry.maxConsecutiveFailures with
  | none => rfl
  | some m => simp

end Settings

theorem Inquiry.Decides.streak {s : Settings} {tally tally' : Tally} {reply : Reply}
    {tr : Transition} {replies : List Reply} (h : Decides s tally reply tally' tr)
    (hstreak : tally.consecutiveFailures = Reply.streak replies) :
    tally'.consecutiveFailures = Reply.streak (reply :: replies) := by
  cases h with
  | success | terminal | pending => rfl
  | exhausted | transient => rw [Reply.streak_error, ← hstreak]

theorem Inquiry.Decides.final?_of_retry {s : Settings} {tally tally' : Tally} {reply : Reply}
    {cause : RetryCause} (h : Decides s tally reply tally' (.retry cause)) :
    s.final? reply = none :=
  Option.map_eq_none_iff.mp (h.of_spared (by simp)).1.symm

namespace Trial

variable {σ : Type} {ask : Source σ} {t : Trial σ} {m : Move} {ms : List Move} {reply : Reply}

/-! ## What is heard -/

/-- The reply that a move brings. -/
def hears? (t : Trial σ) : Move → Option Reply
  | .reply => t.attempts.flight?.map (·.2.reply)
  | .interpret reply => some reply
  | .page _ | .wait _ | .look | .drop => none

/-- The replies that moves bring. -/
def heard (ask : Source σ) (t : Trial σ) : List Move → List Reply
  | [] => []
  | m :: ms => ((t.after ask ms).hears? m).toList ++ t.heard ask ms

theorem heard_of_none (h : (t.after ask ms).hears? m = none) :
    t.heard ask (m :: ms) = t.heard ask ms := by
  rw [heard, h]
  rfl

theorem heard_of_some (h : (t.after ask ms).hears? m = some reply) :
    t.heard ask (m :: ms) = reply :: t.heard ask ms := by
  rw [heard, h]
  rfl

/-- A reply is decided on, wherever it comes from. -/
theorem move_of_hears (ask : Source σ) (h : t.hears? m = some reply) :
    ∃ tally tr, Inquiry.Decides t.settings t.attempts.inquiry.tally reply tally tr ∧
      (t.move ask m).1.attempts.inquiry.tally = tally ∧ (t.move ask m).2 = some tr := by
  cases m with
  | page | wait | look | drop => cases h
  | interpret =>
    cases h
    exact ⟨_, _, Inquiry.interpret_decides .., rfl, rfl⟩
  | reply =>
    obtain ⟨answer, flight, rfl⟩ := Option.map_eq_some_iff.mp h
    rw [move_reply_some flight]
    exact ⟨_, _, Inquiry.interpret_decides .., rfl, rfl⟩

/-- Without a reply, failures are neither counted nor forgotten, and nothing is resolved. -/
theorem move_of_hears_none (h : t.hears? m = none) :
    (t.move ask m).1.attempts.inquiry.tally.consecutiveFailures =
      t.attempts.inquiry.tally.consecutiveFailures ∧
    (t.move ask m).2.bind Transition.resolution? = none := by
  cases m with
  | page | wait => exact ⟨rfl, rfl⟩
  | look =>
    cases hid : t.identifier? with
    | none =>
      rw [move_look_none hid]
      exact ⟨rfl, rfl⟩
    | some id =>
      rw [move_look_some hid]
      exact ⟨rfl, rfl⟩
  | reply =>
    rw [move, Option.map_eq_none_iff.mp h]
    exact ⟨rfl, rfl⟩
  | drop =>
    rw [move, Attempts.abandon_inquiry]
    exact ⟨rfl, rfl⟩
  | interpret => cases h

/-- A trial that nothing was done in. -/
structure Fresh (t : Trial σ) : Prop where
  inquiry : t.attempts.inquiry = {}
  idle : t.attempts.flight? = none

/-- The count of failures in a row is told by the replies that were heard. -/
theorem Fresh.after_streak (h : t.Fresh) (ask : Source σ) (ms : List Move) :
    (t.after ask ms).attempts.inquiry.tally.consecutiveFailures =
      Reply.streak (t.heard ask ms) := by
  induction ms with
  | nil => rw [after, h.inquiry]; rfl
  | cons m ms ih =>
    cases hears : (t.after ask ms).hears? m with
    | none => rw [after, (move_of_hears_none hears).1, ih, heard_of_none hears]
    | some reply =>
      obtain ⟨tally, tr, decides, htally, -⟩ := move_of_hears ask hears
      rw [heard_of_some hears, after, htally]
      exact decides.streak ih

/-- What follows from a failure. -/
theorem Fresh.decision?_of_error (h : t.Fresh) {e : QueryFailure}
    (hears : (t.after ask ms).hears? m = some (.error e)) :
    t.decision? ask (m :: ms) =
      some (t.settings.onFailure (Reply.streak (t.heard ask (m :: ms)))) := by
  obtain ⟨tally, tr, decides, -, htr⟩ := move_of_hears ask hears
  rw [decision?, htr, heard_of_some hears, Reply.streak_error, ← h.after_streak,
    ← after_settings ask t ms, Settings.onFailure_eq]
  cases decides with
  | exhausted enough => rw [if_pos enough]
  | transient spared => rw [spared, if_neg Bool.false_ne_true]

/-! ## Runs -/

section Runs

variable {n : Nat}

/-- A run ends with a reply for too many failures in a row just if there are that many. -/
theorem Fresh.exhausted_iff (h : t.Fresh) (pos : 0 < n)
    (budget : t.settings.retry.maxConsecutiveFailures = some n)
    (hears : (t.after ask ms).hears? m = some reply) :
    t.resolution? ask (m :: ms) = some (.failure .transportExhausted) ↔
      n ≤ Reply.streak (reply :: t.heard ask ms) := by
  cases reply with
  | ok status =>
    rw [Reply.streak_ok, iff_false_right (Nat.not_le.mpr pos)]
    intro exhausted
    obtain ⟨tally, tr, decides, -, htr⟩ := move_of_hears ask hears
    rw [resolution?, decision?, htr] at exhausted
    cases decides <;> cases exhausted
  | error e =>
    rw [resolution?, h.decision?_of_error hears, heard_of_some hears, Option.bind_some,
      Settings.onFailure, budget]
    dsimp only
    split
    · rename_i enough
      exact iff_of_true rfl enough
    · rename_i spared
      exact iff_of_false (by simp [Transition.resolution?]) spared

/-- A run goes on as long as no status is final and there are not too many failures in a row. -/
theorem Runs.spared (h : Runs ask t ms) (fresh : t.Fresh) (pos : 0 < n)
    (budget : t.settings.retry.maxConsecutiveFailures = some n)
    (goes : t.resolution? ask ms = none) :
    (∀ r ∈ t.heard ask ms, t.settings.final? r = none) ∧
      ¬ t.settings.Overrun n (t.heard ask ms) := by
  induction h with
  | start =>
    refine ⟨fun r hr => absurd hr List.not_mem_nil, ?_⟩
    rintro ⟨later, row, earlier, heq, rfl, -, -⟩
    simp only [heard, List.nil_eq, List.append_eq_nil_iff] at heq
    rw [heq.2.1] at pos
    exact Nat.lt_irrefl 0 pos
  | @move m ms _ goes' _ ih =>
    obtain ⟨unresolved, within⟩ := ih goes'
    cases hears : (t.after ask ms).hears? m with
    | none =>
      rw [heard_of_none hears]
      exact ⟨unresolved, within⟩
    | some reply =>
      rw [heard_of_some hears]
      refine ⟨?_, ?_⟩
      · intro r hr
        obtain rfl | hr := List.mem_cons.mp hr
        · obtain ⟨tally, tr, decides, -, htr⟩ := move_of_hears ask hears
          rw [resolution?, decision?, htr] at goes
          rw [after_settings] at decides
          cases tr with
          | retry => exact decides.final?_of_retry
          | resolve => cases goes
        · exact unresolved r hr
      · intro overrun
        obtain overrun | enough := overrun.of_cons
        · exact within overrun
        · rw [← fresh.exhausted_iff pos budget hears, goes] at enough
          cases enough

/-- A run ends for too many failures in a row just if there are so many of them, before any status
that is final. -/
theorem Runs.transportExhausted_iff (h : Runs ask t ms) (fresh : t.Fresh) (pos : 0 < n)
    (budget : t.settings.retry.maxConsecutiveFailures = some n) :
    t.resolution? ask ms = some (.failure .transportExhausted) ↔
      t.settings.Overrun n (t.heard ask ms) := by
  cases hres : t.resolution? ask ms with
  | none => simp [(h.spared fresh pos budget hres).2]
  | some x =>
    cases h with
    | start => cases hres
    | @move m ms earlier goes _ =>
      obtain ⟨unresolved, within⟩ := earlier.spared fresh pos budget goes
      cases hears : (t.after ask ms).hears? m with
      | none =>
        rw [resolution?, decision?, (move_of_hears_none hears).2] at hres
        cases hres
      | some reply =>
        rw [← hres, fresh.exhausted_iff pos budget hears, heard_of_some hears]
        refine ⟨fun enough => Settings.overrun_of_le_streak enough ?_,
          fun overrun => overrun.of_cons.resolve_left within⟩
        intro r hr
        obtain ⟨k, rfl⟩ : ∃ k, n = k + 1 := ⟨n - 1, by omega⟩
        exact unresolved r (List.mem_of_mem_drop hr)

/-- It ends with the last one of the first failures that are too many. -/
theorem Runs.streak_eq (h : Runs ask t ms) (fresh : t.Fresh) (pos : 0 < n)
    (budget : t.settings.retry.maxConsecutiveFailures = some n)
    (ends : t.resolution? ask ms = some (.failure .transportExhausted)) :
    Reply.streak (t.heard ask ms) = n ∧ ¬ t.settings.Overrun n (t.heard ask ms).tail := by
  cases h with
  | start => cases ends
  | @move m ms earlier goes _ =>
    obtain ⟨unresolved, within⟩ := earlier.spared fresh pos budget goes
    cases hears : (t.after ask ms).hears? m with
    | none =>
      rw [resolution?, decision?, (move_of_hears_none hears).2] at ends
      cases ends
    | some reply =>
      have enough := (fresh.exhausted_iff pos budget hears).mp ends
      have before : Reply.streak (t.heard ask ms) < n := Nat.lt_of_not_le fun enough =>
        within (Settings.overrun_of_le_streak enough fun r hr =>
          unresolved r (List.mem_of_mem_drop hr))
      rw [heard_of_some hears]
      refine ⟨?_, within⟩
      cases reply with
      | ok => exact absurd enough (Nat.not_le.mpr pos)
      | error =>
        rw [Reply.streak_error] at enough ⊢
        omega

end Runs

/-- **Failures in a row.** Whatever steps a fresh trial goes through, with whatever changes of its
page between their moves, its count of failures in a row is the number of failures heard since the
last status, and nothing but a reply changes it. A failure resolves the inquiry just if there may
not be that many. So a run that is not cancelled ends for too many failures in a row just if it
hears that many of them before any status that is final, and ends with the last of the first that
are too many. -/
theorem failures_told (ask : Source σ) (t : Trial σ) (fresh : t.Fresh) :
    (∀ ps u, Passes ask t ps u → ∃ ms, Made ask t ps ms ∧ t.after ask ms = u) ∧
    (∀ ms, (t.after ask ms).attempts.inquiry.tally.consecutiveFailures =
      Reply.streak (t.heard ask ms)) ∧
    (∀ m ms, (t.after ask ms).hears? m = none →
      (t.after ask (m :: ms)).attempts.inquiry.tally.consecutiveFailures =
        (t.after ask ms).attempts.inquiry.tally.consecutiveFailures) ∧
    (∀ m ms e, (t.after ask ms).hears? m = some (.error e) →
      t.decision? ask (m :: ms) =
        some (t.settings.onFailure (Reply.streak (t.heard ask (m :: ms))))) ∧
    (∀ fuel, ∃ ms, Runs ask t ms ∧ Comes ask t none fuel ms (run ask fuel t false none)) ∧
    ∀ n, 0 < n → t.settings.retry.maxConsecutiveFailures = some n → ∀ ms, Runs ask t ms →
      (t.resolution? ask ms = some (.failure .transportExhausted) ↔
        t.settings.Overrun n (t.heard ask ms)) ∧
      (t.resolution? ask ms = some (.failure .transportExhausted) →
        Reply.streak (t.heard ask ms) = n ∧ ¬ t.settings.Overrun n (t.heard ask ms).tail) := by
  refine ⟨?_, fresh.after_streak ask, ?_, ?_, ?_, ?_⟩
  · exact fun ps u passes => passes.made fresh.idle
  · exact fun m ms hears => (move_of_hears_none hears).1
  · exact fun m ms e hears => fresh.decision?_of_error hears
  · intro fuel
    obtain ⟨ms, -, comes⟩ := run_comes ask fresh.idle fuel none
    exact ⟨ms, comes⟩
  · intro n pos budget ms runs
    exact ⟨runs.transportExhausted_iff fresh pos budget, runs.streak_eq fresh pos budget⟩

/-- A trial of two failures in a row after one that a status forgets. -/
def troubled : Trial (List Answer) where
  settings := { retry := { maxConsecutiveFailures := some 2 } }
  page := { inputs := [("pushAuthPushId", "op-1")] }
  attempts :=
    { source :=
        [⟨some 5, .error .transport⟩, ⟨some 5, .ok "PENDING"⟩, ⟨some 5, .error .malformed⟩,
          ⟨some 5, .error .transport⟩] }

theorem failures_told_troubled :
    troubled.Fresh ∧ troubled.settings.retry.maxConsecutiveFailures = some 2 ∧
    ∃ ms, Runs (Script.ask "PENDING") troubled ms ∧
      run (Script.ask "PENDING") 8 troubled false none =
        some (troubled.after (Script.ask "PENDING") ms,
          .resolved (.failure .transportExhausted)) ∧
      troubled.settings.Overrun 2 (troubled.heard (Script.ask "PENDING") ms) ∧
      Reply.streak (troubled.heard (Script.ask "PENDING") ms) = 2 := by
  have fresh : troubled.Fresh := ⟨rfl, rfl⟩
  obtain ⟨-, -, -, -, hrun, hruns⟩ := failures_told (Script.ask "PENDING") troubled fresh
  obtain ⟨ms, runs, comes⟩ := hrun 8
  have hends : (run (Script.ask "PENDING") 8 troubled false none).map (·.2) =
      some (.resolved (.failure .transportExhausted)) := by
    decide +kernel
  generalize run (Script.ask "PENDING") 8 troubled false none = end? at comes hends
  cases comes with
  | @resolved x resolves =>
    cases hends
    obtain ⟨overrun, streak⟩ := hruns 2 Nat.two_pos rfl ms runs
    exact ⟨fresh, rfl, ms, runs, rfl, overrun.mp resolves, (streak resolves).1⟩
  | cancelled | unfinished => cases hends

end Trial

end ApprovalWatch
