import ApprovalWatch.Proofs.Reach
import ApprovalWatch.Proofs.Signalling

/-!
# How the parts of a session learn that it is over

The parts of a session listen to one signal, which is raised when the session is over. A session
keeps of it only whether it is raised. Every history of a session is a history of the signal: time
passes for both, whatever concludes or cancels the session raises the signal, and nothing else does.
So `Session.cancelled` is what every listener hears, and a listener that waits, whenever it came and
whatever it did before, is resumed at the instant at which the session is over.

Results:

* `Attends.step`: what a step of a session is to the signal that goes with it.
* `Signalled.attends`: what a signal and its listeners know of the session that it goes with.
* `Signalled.isCancelled_eq`: what listeners hear is whether the session is over.
* `Signalled.resumedMs?_eq`: when the wait of a listener ends.
* `finishes_heard`: the parts of a session are resumed at the instant of its end.
-/

namespace ApprovalWatch

namespace Signal

variable {s : Signal} {l : Listener} {e : Event} {es : List Event} {i : Nat}

/-! ## Listeners -/

/-- What only listeners do. -/
def Event.IsListener : Event → Prop
  | .listen | .copy _ | .ask _ | .wait _ | .leave _ => True
  | .raise | .drop | .pass _ => False

theorem mem_or_idle {ls : List Listener} {n : Nat} (h : l ∈ ls ++ [{ seen := n }]) :
    l ∈ ls ∨ l.stance = .idle := by
  rcases List.mem_append.mp h with hold | hnew
  · exact .inl hold
  · rw [List.mem_singleton.mp hnew]
    exact .inr rfl

/-- A listener comes, comes to rest or looks at the signal, and changes nothing but that. -/
theorem apply_of_isListener (s : Signal) (h : e.IsListener) :
    ∃ ls, s.apply e = { s with listeners := ls } ∧
      ∀ l ∈ ls, l ∈ s.listeners ∨ l.stance = .idle ∨ ∃ l' : Listener, l = l'.look s := by
  cases e with
  | raise | drop | pass => cases h
  | ask i => exact ⟨s.listeners, rfl, fun l hl => .inl hl⟩
  | listen =>
    rw [apply, listen]
    split
    · exact ⟨_, rfl, fun l hl => (mem_or_idle hl).imp_right .inl⟩
    · exact ⟨s.listeners, rfl, fun l hl => .inl hl⟩
  | copy i =>
    rw [apply, copy]
    split
    · exact ⟨_, rfl, fun l hl => (mem_or_idle hl).imp_right .inl⟩
    · exact ⟨s.listeners, rfl, fun l hl => .inl hl⟩
  | wait i =>
    refine ⟨_, rfl, fun l hl => ?_⟩
    rcases mem_modify hl with hold | ⟨l', -, rfl⟩
    · exact .inl hold
    · exact .inr (.inr ⟨l', rfl⟩)
  | leave i =>
    refine ⟨_, rfl, fun l hl => ?_⟩
    rcases mem_modify hl with hold | ⟨l', -, rfl⟩
    · exact .inl hold
    · exact .inr (.inl rfl)

theorem look_stance_ne_idle (s : Signal) (l : Listener) : (l.look s).stance ≠ .idle := by
  rw [Listener.look]
  cases s.raised <;> cases s.present <;> simp

/-- A listener that is left to its wait does not come to rest. -/
theorem after_of_not_idle (hs : s.Sound) (h : s.listeners[i]? = some l) (hl : l.stance ≠ .idle)
    (hes : Undisturbed i es) :
    ∃ l', (s.after es).listeners[i]? = some l' ∧ l'.stance ≠ .idle := by
  induction es generalizing s l with
  | nil => exact ⟨l, h, hl⟩
  | cons e es ih =>
    obtain ⟨⟨hwait, hleave⟩, hrest⟩ := List.forall_mem_cons.mp hes
    refine ih (hs.apply e) (apply_listener hs h hwait hleave) ?_ hrest
    by_cases hwaiting : l.stance = .waiting
    · rw [if_pos hwaiting]
      cases e <;> simp [hl]
    · rw [if_neg hwaiting]
      exact hl

end Signal

namespace Session

variable {σ : Type} {ask : Source σ} {c : Scenario σ} {t u : Session σ} {s : Signal}
  {es : List Signal.Event}

/-! ## Signals of a session -/

/-- The events of the signal of a session that goes from one state to another: time passes, and the
signal is raised if the session is over. -/
def events (t u : Session σ) : List Signal.Event :=
  .pass (u.nowMs - t.nowMs) :: if u.cancelled then [.raise] else []

/-- A history of the signal that goes with a session. The signal was raised if the session was
cancelled before it began, listeners may do anything at any time, and each step of the session comes
with its events. -/
inductive Signalled (ask : Source σ) (c : Scenario σ) : Session σ → List Signal.Event → Prop
  | start : Signalled ask c (start c) (if c.cancelled then [.raise] else [])
  | listener {t : Session σ} {es : List Signal.Event} (h : Signalled ask c t es)
      {e : Signal.Event} (listens : e.IsListener) : Signalled ask c t (es ++ [e])
  | step {t u : Session σ} {es : List Signal.Event} {p : Option Part} (h : Signalled ask c t es)
      (runs : t.cancelled = false) (step : Step ask t p u) :
      Signalled ask c u (es ++ events t u)

/-- What a listener of the signal of a session is doing, unless it is at rest. -/
def stance (t : Session σ) : Signal.Stance :=
  if t.cancelled then .resumed t.nowMs else .waiting

/-- A signal tells of a session whether it is over. Its listeners wait for that, or were resumed at
the instant at which it came. -/
structure Attends (t : Session σ) (s : Signal) : Prop where
  sound : s.Sound
  raised : s.raised = t.cancelled
  present : s.present = true
  nowMs : s.nowMs = t.nowMs
  stances : ∀ l ∈ s.listeners, l.stance = .idle ∨ l.stance = t.stance

theorem attends_start (c : Scenario σ) :
    Attends (start c) (Signal.after {} (if c.cancelled then [.raise] else [])) := by
  refine ⟨Signal.sound_start.after _, ?_, ?_, ?_, ?_⟩ <;>
    cases hc : c.cancelled <;>
      simp [start, hc, Signal.after, Signal.apply, Signal.raise, Signal.notify]

theorem Attends.listener {e : Signal.Event} (h : Attends t s) (listens : e.IsListener) :
    Attends t (s.apply e) := by
  have hsound : (s.apply e).Sound := h.sound.apply e
  obtain ⟨ls, heq, hls⟩ := Signal.apply_of_isListener s listens
  rw [heq] at hsound ⊢
  refine ⟨hsound, h.raised, h.present, h.nowMs, fun l hl => ?_⟩
  rcases hls l hl with hold | hidle | ⟨l', rfl⟩
  · exact h.stances l hold
  · exact .inl hidle
  · right
    rw [Signal.Listener.look, h.raised, h.present, h.nowMs, if_pos rfl]
    rfl

/-- Time passes for a session that is not over, and for its signal. -/
theorem Attends.pass (h : Attends t s) (runs : t.cancelled = false) (le : t.nowMs ≤ u.nowMs)
    (goes : u.cancelled = false) : Attends u (s.apply (.pass (u.nowMs - t.nowMs))) where
  sound := h.sound.apply _
  raised := h.raised.trans (runs.trans goes.symm)
  present := h.present
  nowMs := by
    change s.nowMs + (u.nowMs - t.nowMs) = u.nowMs
    rw [h.nowMs, Nat.add_sub_cancel' le]
  stances l hl := by
    rw [stance, goes]
    have hstance := h.stances l hl
    rwa [stance, runs] at hstance

/-- Whatever ends a session raises its signal. -/
theorem Attends.raise (h : Attends t s) (runs : t.cancelled = false) :
    Attends { t with cancelled := true } (s.apply .raise) := by
  have heq : s.apply .raise = Signal.notify { s with raised := true, version := s.version + 1 } :=
    if_pos h.present
  have hsound : (s.apply .raise).Sound := h.sound.apply .raise
  rw [heq] at hsound ⊢
  refine ⟨hsound, rfl, h.present, h.nowMs, fun l' hl' => ?_⟩
  obtain ⟨l, hl, rfl⟩ := List.mem_map.mp hl'
  rw [(h.sound l hl).wake_raise]
  rcases h.stances l hl with hidle | hstance
  · rw [if_neg (by rw [hidle]; exact nofun)]
    exact .inl hidle
  · have hwaiting : l.stance = .waiting := by
      rw [hstance, stance, runs]
      rfl
    rw [if_pos hwaiting, h.nowMs]
    exact .inr rfl

/-- A step of a session is told by its signal. -/
theorem Attends.step {p : Option Part} (h : Attends t s) (runs : t.cancelled = false)
    (hs : Step ask t p u) : Attends u (s.after (events t u)) := by
  have hle : t.nowMs ≤ u.nowMs := hs.nowMs_le
  unfold events
  cases hu : u.cancelled with
  | false => exact h.pass runs hle hu
  | true =>
    have hpass := h.pass (u := { u with cancelled := false }) runs hle rfl
    have hraise := hpass.raise rfl
    have heq : u = { u with cancelled := true } := by rw [← hu]
    rw [heq]
    exact hraise

theorem Signalled.attends (h : Signalled ask c t es) : Attends t (Signal.after {} es) := by
  induction h with
  | start => exact attends_start c
  | listener _ listens ih =>
    rw [Signal.after_append]
    exact ih.listener listens
  | step _ runs hs ih =>
    rw [Signal.after_append]
    exact ih.step runs hs

/-! ## What is heard of a session -/

/-- What a session keeps of its signal is what every listener hears. -/
theorem Signalled.isCancelled_eq (h : Signalled ask c t es) (i : Nat) :
    (Signal.after {} es).isCancelled i = t.cancelled :=
  h.attends.raised

/-- **When a listener is resumed.** A listener that waits and is left to its wait is resumed at the
instant at which the session is over, and not before. -/
theorem Signalled.resumedMs?_eq {before rest : List Signal.Event} {i : Nat}
    (h : Signalled ask c t (before ++ .wait i :: rest))
    (hi : i < (Signal.after {} before).listeners.length) (hrest : Signal.Undisturbed i rest) :
    (Signal.after {} (before ++ .wait i :: rest)).resumedMs? i =
      if t.cancelled then some t.nowMs else none := by
  have hattends := h.attends
  obtain ⟨l, hl⟩ : ∃ l, (Signal.after {} before).listeners[i]? = some l :=
    ⟨_, List.getElem?_eq_getElem hi⟩
  have hsound : (Signal.after {} before).Sound := Signal.sound_start.after before
  rw [Signal.after_append, Signal.after_cons] at hattends ⊢
  obtain ⟨l', hl', hidle⟩ := Signal.after_of_not_idle (hsound.apply _)
    (Signal.apply_wait_listener hl) (Signal.look_stance_ne_idle _ l) hrest
  have hstance := (hattends.stances l' (List.mem_of_getElem? hl')).resolve_left hidle
  rw [Signal.resumedMs?_eq hl', hstance, stance]
  cases t.cancelled <;> rfl

/-- The poll loop, the deadline and the countdown of a session listen to its signal from its start
on, and wait. -/
def subscribed (c : Scenario σ) : List Signal.Event :=
  (if c.cancelled then [.raise] else []) ++
    [.listen, .listen, .listen, .wait 0, .wait 1, .wait 2]

theorem Signalled.listeners {more : List Signal.Event} (h : Signalled ask c t es)
    (listen : ∀ e ∈ more, e.IsListener) : Signalled ask c t (es ++ more) := by
  induction more generalizing es with
  | nil => rwa [List.append_nil]
  | cons e more ih =>
    obtain ⟨listens, hrest⟩ := List.forall_mem_cons.mp listen
    rw [← List.singleton_append, ← List.append_assoc]
    exact ih (h.listener listens) hrest

theorem undisturbed_events (i : Nat) (t u : Session σ) : Signal.Undisturbed i (events t u) := by
  unfold events
  refine List.forall_mem_cons.mpr ⟨⟨nofun, nofun⟩, ?_⟩
  split
  · exact List.forall_mem_singleton.mpr ⟨nofun, nofun⟩
  · exact fun e he => absurd he List.not_mem_nil

/-- Every state that a session comes to goes with a history of its signal. -/
theorem Reaches.exists_signalled (h : Reaches ask c t) :
    ∃ es, Signalled ask c t (subscribed c ++ es) ∧ ∀ i, Signal.Undisturbed i es := by
  induction h with
  | start =>
    refine ⟨[], ?_, fun i e he => absurd he List.not_mem_nil⟩
    rw [List.append_nil]
    exact Signalled.start.listeners (by simp [Signal.Event.IsListener])
  | @step t u p _ runs hs ih =>
    obtain ⟨es, hes, hundisturbed⟩ := ih
    refine ⟨es ++ events t u, ?_, fun i => List.forall_mem_append.mpr ?_⟩
    · rw [← List.append_assoc]
      exact hes.step runs hs
    · exact ⟨hundisturbed i, undisturbed_events i t u⟩

/-- Each of the three begins to wait after it came, and goes on waiting. -/
theorem exists_wait_of_subscribed (c : Scenario σ) {i : Nat} (hi : i < 3) :
    ∃ before rest, subscribed c = before ++ .wait i :: rest ∧
      i < (Signal.after {} before).listeners.length ∧ Signal.Undisturbed i rest := by
  unfold subscribed
  generalize c.cancelled = cancelled
  let before : List Signal.Event :=
    (if cancelled then [.raise] else []) ++ [.listen, .listen, .listen]
  have hi : i = 0 ∨ i = 1 ∨ i = 2 := by omega
  rcases hi with rfl | rfl | rfl
  · refine ⟨before, [.wait 1, .wait 2], by simp [before], ?_, by simp [Signal.Undisturbed]⟩
    cases cancelled <;> decide
  · refine ⟨before ++ [.wait 0], [.wait 2], by simp [before], ?_, by simp [Signal.Undisturbed]⟩
    cases cancelled <;> decide
  · refine ⟨before ++ [.wait 0, .wait 1], [], by simp [before], ?_, by simp [Signal.Undisturbed]⟩
    cases cancelled <;> decide

/-- **How a session ends for its parts.** When a session ends, the poll loop, the deadline and the
countdown, which listened from the start on, were resumed at the instant of its end. -/
theorem finishes_heard {order : Order} (h : Finishes order ask c t) :
    ∃ v es, EndsIn order ask c v ∧ t = v.close ∧ Signalled ask c v (subscribed c ++ es) ∧
      ∀ i < 3, (Signal.after {} (subscribed c ++ es)).resumedMs? i = some t.nowMs := by
  obtain ⟨v, hends, rfl⟩ := finishes_iff.mp h
  obtain ⟨n, hn⟩ := hends.2
  obtain ⟨es, hes, hundisturbed⟩ := (Reaches.start.advance hn).exists_signalled
  refine ⟨v, es, hends, rfl, hes, fun i hi => ?_⟩
  obtain ⟨before, rest, heq, hcame, hrest⟩ := exists_wait_of_subscribed c hi
  have hwait : subscribed c ++ es = before ++ .wait i :: (rest ++ es) := by
    rw [heq, List.append_assoc, List.cons_append]
  rw [hwait] at hes ⊢
  rw [hes.resumedMs?_eq hcame (List.forall_mem_append.mpr ⟨hrest, hundisturbed i⟩), hends.1,
    close_nowMs, if_pos rfl]

end Session

end ApprovalWatch
