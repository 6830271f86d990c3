import ApprovalWatch.Proofs.Activity
import ApprovalWatch.Proofs.Reach
import Mathlib.Data.List.TakeWhile

/-!
# Time in a session

Nothing that is due is ever past, as long as a session runs: its clock stops at every instant at
which something is due. In particular the page that is read at an instant is the one that all
changes before it have made.

Main results:

* `Reaches.le_due`: no attempt is late.
* `Reaches.deadline_eq`, `Reaches.cancelAtMs_eq`: a session that runs was ended by neither.
* `Reaches.identifier?_eq`: what a look at the page finds, told from the changes of the page.
-/

namespace ApprovalWatch

/-! ## Changes of the page -/

theorem Page.inputs_change {p q : Page} (h : p.inputs = q.inputs) (e : Change) :
    (p.change e).inputs = (q.change e).inputs := by
  unfold change
  cases e.value <;> simp [setInput, removeInput, h]

theorem Page.inputs_foldl_apply (ws : List Write) (p : Page) :
    (ws.foldl Page.apply p).inputs = p.inputs := by
  induction ws generalizing p with
  | nil => rfl
  | cons w ws ih =>
    rw [List.foldl_cons, ih]
    unfold Page.apply
    split <;> rfl

theorem Page.identifier?_congr {p q : Page} (h : p.inputs = q.inputs) (field : String) :
    p.identifier? field = q.identifier? field := by
  rw [Page.identifier?, Page.identifier?, Page.input?, Page.input?, h]

theorem takeWhile_append_prefix {α : Type} {p : α → Bool} {done rest : List α}
    (h : ∀ x ∈ rest.head?, p x = false) : (done ++ rest).takeWhile p <+: done := by
  induction done with
  | nil =>
    cases rest with
    | nil => exact List.prefix_rfl
    | cons x rest => simp [h x rfl]
  | cons x done ih =>
    rw [List.cons_append, List.takeWhile_cons]
    split
    · exact List.cons_prefix_cons.mpr ⟨rfl, ih⟩
    · exact List.nil_prefix

theorem takeWhile_prefix_takeWhile {α : Type} {p q : α → Bool} {l : List α}
    (h : ∀ x ∈ l, p x = true → q x = true) : l.takeWhile p <+: l.takeWhile q := by
  induction l with
  | nil => exact List.prefix_rfl
  | cons x l ih =>
    obtain ⟨hx, hl⟩ := List.forall_mem_cons.mp h
    rw [List.takeWhile_cons, List.takeWhile_cons]
    by_cases hp : p x = true
    · rw [if_pos hp, if_pos (hx hp)]
      exact List.cons_prefix_cons.mpr ⟨rfl, ih hl⟩
    · rw [if_neg hp]
      exact List.nil_prefix

namespace Scenario

variable {σ : Type}

/-- Such changes of the page may be over at an instant: all that are due before it, and of those
that are due at it the first few. -/
def Changed (c : Scenario σ) (nowMs : Nat) (done : List Change) : Prop :=
  c.timeline.takeWhile (·.atMs < nowMs) <+: done ∧ done <+: c.timeline.takeWhile (·.atMs ≤ nowMs)

/-- No choice is left where no change is due at the very instant. -/
theorem Changed.eq_of_still {c : Scenario σ} {nowMs : Nat} {done : List Change}
    (h : c.Changed nowMs done) (still : ∀ e ∈ c.timeline, e.atMs ≠ nowMs) :
    done = c.timeline.takeWhile (·.atMs < nowMs) := by
  have hle : c.timeline.takeWhile (·.atMs ≤ nowMs) <+: c.timeline.takeWhile (·.atMs < nowMs) := by
    apply takeWhile_prefix_takeWhile
    intro e he hnow
    rw [decide_eq_true_eq] at hnow ⊢
    exact Nat.lt_of_le_of_ne hnow (still e he)
  exact (h.1.eq_of_length_le (h.2.length_le.trans hle.length_le)).symm

/-- What a look at the identifier field finds after a number of other looks and changes. -/
def seen? (c : Scenario σ) (looks : Nat) (done : List Change) : Option String :=
  if looks < c.hiddenReads then none
  else (done.foldl Page.change c.page).identifier? c.settings.page.identifierField

end Scenario

namespace Session

variable {σ : Type} {ask : Source σ} {c : Scenario σ} {t u : Session σ}

/-! ## Due times -/

theorem next?_le {nextMs dueMs : Nat} {p : Part} (h : t.next? = some nextMs)
    (due : t.due? p = some dueMs) : nextMs ≤ dueMs := by
  have hmem : dueMs ∈ parts.filterMap t.due? :=
    List.mem_filterMap.mpr ⟨p, by cases p <;> decide, due⟩
  exact (List.min?_eq_some_iff.mp h).2 dueMs hmem

theorem exists_next?_le {dueMs : Nat} {p : Part} (due : t.due? p = some dueMs) :
    ∃ nextMs, t.next? = some nextMs ∧ nextMs ≤ dueMs := by
  cases h : t.next? with
  | some nextMs => exact ⟨nextMs, rfl, next?_le h due⟩
  | none =>
    have hmem : dueMs ∈ parts.filterMap t.due? :=
      List.mem_filterMap.mpr ⟨p, by cases p <;> decide, due⟩
    rw [List.min?_eq_none_iff.mp h] at hmem
    cases hmem

/-- The clock goes on to an instant at which a part has something to do. -/
theorem exists_due?_of_next? {nextMs : Nat} (h : t.next? = some nextMs) :
    ∃ p, t.due? p = some nextMs := by
  obtain ⟨p, -, hp⟩ := List.mem_filterMap.mp (List.min?_eq_some_iff.mp h).1
  exact ⟨p, hp⟩

/-- The next thing that the attempts have to do is not in the past. -/
theorem Reaches.le_due {dueMs : Nat} (h : Reaches ask c t) (due : t.attempts.due? = some dueMs) :
    t.nowMs ≤ dueMs := by
  induction h generalizing dueMs with
  | start => exact Nat.zero_le _
  | step _ _ hs ih =>
    cases hs with
    | clock next => exact Nat.max_le.mpr ⟨ih due, next?_le (p := .inquiry) next due⟩
    | attempt _ _ eq | resolve _ _ eq =>
      exact (Nat.le_add_right _ _).trans (Attempts.act_due?_ge eq due)
    | deadline | countdown | host | page => exact ih due

/-- The deadline of a session that runs is still ahead. -/
theorem Reaches.deadline_eq (h : Reaches ask c t) (runs : t.cancelled = false) :
    t.deadline = Deadline.ofSession? c.page c.settings := by
  induction h with
  | start => rfl
  | step _ runs' hs ih =>
    cases hs with
    | clock | attempt | countdown | page => exact ih runs'
    | resolve | deadline | host => cases runs

theorem Reaches.le_deadline {d : Deadline} (h : Reaches ask c t) (due : t.deadline = some d) :
    t.nowMs ≤ d.ms := by
  induction h with
  | start => exact Nat.zero_le _
  | step _ _ hs ih =>
    cases hs with
    | clock next =>
      refine Nat.max_le.mpr ⟨ih due, next?_le (p := .deadline) next ?_⟩
      exact congrArg (Option.map Deadline.ms) due
    | deadline => cases due
    | attempt | resolve | countdown | host | page => exact ih due

/-- The host of a session that runs has not cancelled it yet. -/
theorem Reaches.cancelAtMs_eq (h : Reaches ask c t) (runs : t.cancelled = false) :
    t.cancelAtMs = c.cancelAtMs := by
  induction h with
  | start => rfl
  | step _ runs' hs ih =>
    cases hs with
    | clock | attempt | countdown | page => exact ih runs'
    | resolve | deadline | host => cases runs

theorem Reaches.le_cancelAtMs {atMs : Nat} (h : Reaches ask c t) (due : t.cancelAtMs = some atMs) :
    t.nowMs ≤ atMs := by
  induction h with
  | start => exact Nat.zero_le _
  | step _ _ hs ih =>
    cases hs with
    | clock next => exact Nat.max_le.mpr ⟨ih due, next?_le (p := .host) next due⟩
    | host => cases due
    | attempt | resolve | deadline | countdown | page => exact ih due

/-! ## The page -/

/-- The input fields are what the changes that are over made of them. -/
theorem Reaches.changes (h : Reaches ask c t) :
    ∃ done, done ++ t.timeline = c.timeline ∧ c.Changed t.nowMs done ∧
      t.page.inputs = (done.foldl Page.change c.page).inputs := by
  induction h with
  | start =>
    refine ⟨[], rfl, ⟨?_, List.nil_prefix⟩, rfl⟩
    have : c.timeline.takeWhile (·.atMs < 0) = [] := by cases c.timeline <;> simp
    exact this ▸ List.prefix_rfl
  | @step t u _ _ _ hs ih =>
    obtain ⟨done, htl, ⟨hbefore, hafter⟩, hin⟩ := ih
    cases hs with
    | @clock nextMs next =>
      refine ⟨done, htl, ⟨?_, ?_⟩, hin⟩
      · -- either the clock stands still, or whatever is left of the changes is not due before
        rcases Nat.lt_or_ge t.nowMs nextMs with hlt | hge
        · rw [← htl]
          apply takeWhile_append_prefix
          intro e he
          have hle := next?_le (p := .page) next
            (show t.due? .page = some e.atMs by simp [due?, Option.mem_def.mp he])
          simp only [decide_eq_false_iff_not]
          omega
        · rw [Nat.max_eq_left hge]
          exact hbefore
      · refine hafter.trans (takeWhile_prefix_takeWhile fun e _ he => ?_)
        simp only [decide_eq_true_eq] at he ⊢
        omega
    | @page e rest due le =>
      refine ⟨done ++ [e], by rw [← htl, due]; simp, ⟨?_, ?_⟩, ?_⟩
      · exact hbefore.trans (List.prefix_append _ _)
      · have hdone : ∀ x ∈ done, decide (x.atMs ≤ t.nowMs) = true := by
          intro x hx
          have := List.mem_takeWhile_imp (hafter.subset hx)
          exact this
        show done ++ [e] <+: c.timeline.takeWhile (·.atMs ≤ t.nowMs)
        rw [← htl, due, List.takeWhile_append_of_pos hdone, List.takeWhile_cons,
          if_pos (by simpa using le)]
        exact (List.prefix_append_right_inj done).mpr ⟨_, rfl⟩
      · rw [List.foldl_append]
        exact Page.inputs_change hin e
    | countdown =>
      refine ⟨done, htl, ⟨hbefore, hafter⟩, ?_⟩
      simp only [write]
      rw [Page.inputs_foldl_apply]
      exact hin
    | attempt | resolve | deadline | host => exact ⟨done, htl, ⟨hbefore, hafter⟩, hin⟩

theorem Reaches.hiddenReads_eq (h : Reaches ask c t) :
    t.hiddenReads = c.hiddenReads - t.attempts.journal.looks.length := by
  induction h with
  | start => rfl
  | @step t u _ _ _ hs ih =>
    cases hs with
    | attempt _ _ eq | resolve _ _ eq =>
      simp only [proceed, settle, Journal.measure]
      rw [Attempts.act_looks eq, ih]
      split
      · rw [List.length_cons, Nat.sub_add_eq]
      · rfl
    | clock | deadline | countdown | host | page => exact ih

/-- What a look at the identifier field finds is what changes that may be over made of it. -/
theorem Reaches.identifier?_eq (h : Reaches ask c t) :
    ∃ done, c.Changed t.nowMs done ∧
      t.identifier? = c.seen? t.attempts.journal.looks.length done := by
  obtain ⟨done, -, hdone, hin⟩ := h.changes
  refine ⟨done, hdone, ?_⟩
  rw [identifier?, Scenario.seen?, h.settings_eq, h.hiddenReads_eq, Page.identifier?_congr hin]
  by_cases hlt : t.attempts.journal.looks.length < c.hiddenReads
  · rw [if_pos hlt, if_pos (by omega)]
  · rw [if_neg hlt, if_neg (by omega)]

end Session

end ApprovalWatch
