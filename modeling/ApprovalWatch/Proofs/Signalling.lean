import ApprovalWatch.Signal
import Mathlib.Data.List.Induction

/-!
# Whom a signal reaches

A signal that was raised is heard by every listener, and it ends every wait: at once where the wait
begins after it, and at its own instant where it comes during the wait. It does not matter when a
listener came, of which other it is a copy, what it waited for before, or whether the one who raised
the signal is still there. A signal that nobody raised, and that nobody can raise any more, ends no
wait.

Main results:

* `raised_after_iff`: when a signal is raised.
* `Sound.apply`: what a listener knows of the signal, whatever happens.
* `waits_after`: how a wait goes that begins after any history.
* `reaches_all`: what the listeners hear after any history, and when their waits end.
* `run_reaches`: what is answered to steps, which come down to a history.
-/

namespace ApprovalWatch.Signal

variable {s : Signal} {l : Listener} {e : Event} {es es' : List Event} {i j : Nat}

/-! ## Whether a signal is raised -/

/-- The signal is raised in a history, by one who did not go away before. -/
def RaisedIn (es : List Event) : Prop :=
  ∃ before rest, es = before ++ .raise :: rest ∧ .drop ∉ before

theorem raisedIn_cons : RaisedIn (e :: es) ↔ e = .raise ∨ e ≠ .drop ∧ RaisedIn es := by
  constructor
  · rintro ⟨before, rest, heq, hdrop⟩
    cases before with
    | nil => exact .inl (List.cons.inj heq).1
    | cons b before =>
      obtain ⟨rfl, rfl⟩ := List.cons.inj heq
      rw [List.mem_cons, not_or] at hdrop
      exact .inr ⟨Ne.symm hdrop.1, before, rest, rfl, hdrop.2⟩
  · rintro (rfl | ⟨hne, before, rest, rfl, hdrop⟩)
    · exact ⟨[], es, rfl, List.not_mem_nil⟩
    · refine ⟨e :: before, rest, rfl, ?_⟩
      rw [List.mem_cons, not_or]
      exact ⟨hne.symm, hdrop⟩

theorem not_raisedIn_nil : ¬ RaisedIn [] := by
  rintro ⟨before, rest, heq, -⟩
  exact List.append_ne_nil_of_right_ne_nil before (List.cons_ne_nil _ rest) heq.symm

theorem raisedIn_singleton : RaisedIn [e] ↔ e = .raise := by
  rw [raisedIn_cons]
  simp [not_raisedIn_nil]

theorem raisedIn_of_mem (h : .raise ∈ es) (hdrop : .drop ∉ es) : RaisedIn es := by
  obtain ⟨before, rest, rfl⟩ := List.append_of_mem h
  exact ⟨before, rest, rfl, fun hmem => hdrop (List.mem_append_left _ hmem)⟩

theorem raisedIn_append :
    RaisedIn (es ++ es') ↔ RaisedIn es ∨ .drop ∉ es ∧ RaisedIn es' := by
  induction es with
  | nil => simp [not_raisedIn_nil]
  | cons e es ih =>
    rw [List.cons_append, raisedIn_cons, raisedIn_cons, ih, List.mem_cons, not_or, ne_comm]
    by_cases he : e = .raise
    · simp [he]
    · tauto

theorem apply_raised (s : Signal) (e : Event) :
    (s.apply e).raised = true ↔ s.raised = true ∨ e = .raise ∧ s.present = true := by
  cases e with
  | listen =>
    rw [apply, listen]
    split <;> simp
  | copy i =>
    rw [apply, copy]
    split <;> simp
  | raise =>
    rw [apply, raise]
    split <;> simp_all [notify]
  | drop | ask | wait | leave | pass => simp [apply, drop, notify]

theorem apply_present (s : Signal) (e : Event) :
    (s.apply e).present = true ↔ s.present = true ∧ e ≠ .drop := by
  cases e with
  | listen =>
    rw [apply, listen]
    split <;> simp
  | copy i =>
    rw [apply, copy]
    split <;> simp
  | raise =>
    rw [apply, raise]
    split <;> simp [notify]
  | drop | ask | wait | leave | pass => simp [apply, drop, notify]

theorem after_cons (s : Signal) (e : Event) (es : List Event) :
    s.after (e :: es) = (s.apply e).after es :=
  rfl

/-- Who may raise a signal is there until it goes away. -/
theorem present_after_iff : (s.after es).present = true ↔ s.present = true ∧ .drop ∉ es := by
  induction es generalizing s with
  | nil => simp [after]
  | cons e es ih =>
    rw [after_cons, ih, apply_present, List.mem_cons, not_or, and_assoc, ne_comm]

/-- A signal is raised if it was raised before, or if it is raised by one who is there. -/
theorem raised_after_iff :
    (s.after es).raised = true ↔ s.raised = true ∨ s.present = true ∧ RaisedIn es := by
  induction es generalizing s with
  | nil => simp [after, not_raisedIn_nil]
  | cons e es ih =>
    rw [after_cons, ih, apply_raised, apply_present, raisedIn_cons]
    tauto

/-! ## What listeners know -/

/-- A listener knows no version that is still to come; while it waits, the signal was not raised and
still may be, and if its waiting came to an end, then the signal was raised. -/
structure Listener.Sound (s : Signal) (l : Listener) : Prop where
  seen : l.seen ≤ s.version
  waiting : l.stance = .waiting → s.raised = false ∧ s.present = true
  resumed : l.stance.resumedMs? ≠ none → s.raised = true

/-- All listeners of a signal are sound. -/
def Sound (s : Signal) : Prop :=
  ∀ l ∈ s.listeners, l.Sound s

/-- A listener that waits is woken by the signal, at its instant. -/
theorem Listener.Sound.wake_raise (h : l.Sound s) :
    l.wake { s with raised := true, version := s.version + 1 } =
      if l.stance = .waiting then ⟨s.version + 1, .resumed s.nowMs⟩ else l := by
  have hne : l.seen ≠ s.version + 1 := Nat.ne_of_lt (Nat.lt_succ_of_le h.seen)
  obtain ⟨seen, stance⟩ := l
  cases stance with
  | waiting => exact if_pos hne
  | idle | stranded | resumed => rfl

/-- A listener that waits learns that it waits in vain. -/
theorem Listener.Sound.wake_drop (h : l.Sound s) :
    l.wake { s with present := false } =
      if l.stance = .waiting then ⟨s.version, .stranded⟩ else l := by
  obtain ⟨seen, stance⟩ := l
  cases stance with
  | waiting =>
    have hraised : s.raised = false := (h.waiting rfl).1
    by_cases hseen : seen = s.version
    · rw [hseen, if_pos rfl]
      exact if_neg (fun hne => hne rfl)
    · rw [if_pos rfl]
      refine (if_pos hseen).trans ?_
      simp [Listener.look, hraised]
  | idle | stranded | resumed => rfl

theorem Listener.Sound.of_idle {n : Nat} (h : n ≤ s.version) :
    Listener.Sound s { seen := n } :=
  ⟨h, nofun, fun hne => absurd rfl hne⟩

theorem Listener.sound_look (s : Signal) (l : Listener) : (l.look s).Sound s := by
  cases hraised : s.raised with
  | true =>
    refine ⟨Nat.le_refl _, fun h => ?_, fun _ => hraised⟩
    rw [look, hraised, if_pos rfl] at h
    cases h
  | false =>
    cases hpresent : s.present with
    | true =>
      refine ⟨Nat.le_refl _, fun _ => ⟨hraised, hpresent⟩, fun h => ?_⟩
      exact absurd (by rw [look, hraised, hpresent]; rfl) h
    | false =>
      refine ⟨Nat.le_refl _, fun h => ?_, fun h => ?_⟩
      · rw [look, hraised, hpresent] at h
        cases h
      · exact absurd (by rw [look, hraised, hpresent]; rfl) h

theorem mem_modify {α : Type} {a : α} {xs : List α} {f : α → α} (h : a ∈ xs.modify i f) :
    a ∈ xs ∨ ∃ b ∈ xs, a = f b := by
  obtain ⟨j, hj⟩ := List.mem_iff_getElem?.mp h
  rw [List.getElem?_modify] at hj
  obtain ⟨b, hb, heq⟩ := Option.map_eq_some_iff.mp hj
  have hmem : b ∈ xs := List.mem_of_getElem? hb
  split at heq
  · exact .inr ⟨b, hmem, heq.symm⟩
  · exact .inl (heq ▸ hmem)

theorem Listener.Sound.congr {s' : Signal} (h : l.Sound s) (version : s.version ≤ s'.version)
    (raised : s.raised = s'.raised) (present : s.present = s'.present) : l.Sound s' := by
  obtain ⟨seen, waiting, resumed⟩ := h
  rw [raised, present] at waiting
  rw [raised] at resumed
  exact ⟨Nat.le_trans seen version, waiting, resumed⟩

/-- What every event preserves. -/
theorem Sound.apply (h : s.Sound) (e : Event) : (s.apply e).Sound := by
  intro l' hl'
  cases e with
  | listen =>
    rw [Signal.apply, listen] at hl' ⊢
    split at hl'
    · rename_i hpresent
      rw [if_pos hpresent]
      rcases List.mem_append.mp hl' with hold | hnew
      · exact (h l' hold).congr (Nat.le_refl _) rfl rfl
      · rw [List.mem_singleton.mp hnew]
        exact .of_idle (Nat.le_refl _)
    · rename_i hpresent
      rw [if_neg hpresent]
      exact h l' hl'
  | copy i =>
    rw [Signal.apply, copy] at hl' ⊢
    split at hl'
    · rename_i l hl
      rcases List.mem_append.mp hl' with hold | hnew
      · exact (h l' hold).congr (Nat.le_refl _) rfl rfl
      · rw [List.mem_singleton.mp hnew]
        exact .of_idle (h l (List.mem_of_getElem? hl)).seen
    · exact h l' hl'
  | raise =>
    rw [Signal.apply, raise] at hl' ⊢
    split at hl'
    · rename_i hpresent
      rw [if_pos hpresent]
      obtain ⟨l, hl, rfl⟩ := List.mem_map.mp hl'
      rw [(h l hl).wake_raise]
      split
      · exact ⟨Nat.le_refl _, nofun, fun _ => rfl⟩
      · rename_i hwaiting
        exact ⟨Nat.le_succ_of_le (h l hl).seen, fun hw => absurd hw hwaiting, fun _ => rfl⟩
    · rename_i hpresent
      rw [if_neg hpresent]
      exact h l' hl'
  | drop =>
    obtain ⟨l, hl, rfl⟩ := List.mem_map.mp hl'
    rw [(h l hl).wake_drop]
    split
    · exact ⟨Nat.le_refl _, nofun, fun hne => absurd rfl hne⟩
    · rename_i hwaiting
      exact ⟨(h l hl).seen, fun hw => absurd hw hwaiting, (h l hl).resumed⟩
  | ask i => exact h l' hl'
  | wait i =>
    rcases mem_modify hl' with hold | ⟨l, -, rfl⟩
    · exact (h l' hold).congr (Nat.le_refl _) rfl rfl
    · exact (l.sound_look s).congr (Nat.le_refl _) rfl rfl
  | leave i =>
    rcases mem_modify hl' with hold | ⟨l, hl, rfl⟩
    · exact (h l' hold).congr (Nat.le_refl _) rfl rfl
    · exact .of_idle (h l hl).seen
  | pass ms => exact (h l' hl').congr (Nat.le_refl _) rfl rfl

theorem Sound.after (h : s.Sound) (es : List Event) : (s.after es).Sound := by
  induction es generalizing s with
  | nil => exact h
  | cons e es ih => exact ih (h.apply e)

theorem sound_start : Sound {} :=
  fun _ hl => absurd hl List.not_mem_nil

/-! ## How a wait goes on -/

/-- A listener is left to its wait. -/
def Undisturbed (i : Nat) (es : List Event) : Prop :=
  ∀ e ∈ es, e ≠ .wait i ∧ e ≠ .leave i

/-- What an event does to a listener that is left to itself: only one that waits is affected, by the
signal or by the news that it waits in vain. -/
theorem apply_listener (hs : s.Sound) (h : s.listeners[j]? = some l) (hwait : e ≠ .wait j)
    (hleave : e ≠ .leave j) :
    (s.apply e).listeners[j]? = some
      (if l.stance = .waiting then
        match e with
        | .raise => ⟨s.version + 1, .resumed s.nowMs⟩
        | .drop => ⟨s.version, .stranded⟩
        | _ => l
      else l) := by
  have hlt : j < s.listeners.length := (List.getElem?_eq_some_iff.mp h).1
  have hl : l.Sound s := hs l (List.mem_of_getElem? h)
  cases e with
  | listen =>
    rw [Signal.apply, listen, ite_self]
    split
    · exact (List.getElem?_append_left hlt).trans h
    · exact h
  | copy i =>
    rw [Signal.apply, copy, ite_self]
    split
    · exact (List.getElem?_append_left hlt).trans h
    · exact h
  | raise =>
    rw [Signal.apply, raise]
    split
    · rw [notify, List.getElem?_map, h, Option.map_some, hl.wake_raise]
    · rename_i hpresent
      rw [h, if_neg]
      exact fun hw => hpresent (hl.waiting hw).2
  | drop => rw [Signal.apply, drop, notify, List.getElem?_map, h, Option.map_some, hl.wake_drop]
  | ask i => rw [Signal.apply, h, ite_self]
  | wait i =>
    have hne : i ≠ j := fun heq => hwait (heq ▸ rfl)
    rw [Signal.apply, List.getElem?_modify, h, ite_self]
    simp [hne]
  | leave i =>
    have hne : i ≠ j := fun heq => hleave (heq ▸ rfl)
    rw [Signal.apply, List.getElem?_modify, h, ite_self]
    simp [hne]
  | pass ms => rw [Signal.apply, h, ite_self]

/-- A listener that does not wait, or not any longer, is not affected. -/
theorem after_of_not_waiting (hs : s.Sound) (h : s.listeners[i]? = some l)
    (hl : l.stance ≠ .waiting) (hes : Undisturbed i es) : (s.after es).listeners[i]? = some l := by
  induction es generalizing s with
  | nil => exact h
  | cons e es ih =>
    obtain ⟨⟨hwait, hleave⟩, hrest⟩ := List.forall_mem_cons.mp hes
    have hmet := apply_listener hs h hwait hleave
    rw [if_neg hl] at hmet
    exact ih (hs.apply e) hmet hrest

/-- A listener that waits goes on waiting until something is to be told. -/
theorem after_of_waiting (hs : s.Sound) (h : s.listeners[i]? = some l) (hl : l.stance = .waiting)
    (hes : Undisturbed i es) (hraise : .raise ∉ es) (hdrop : .drop ∉ es) :
    (s.after es).listeners[i]? = some l := by
  induction es generalizing s with
  | nil => exact h
  | cons e es ih =>
    obtain ⟨⟨hwait, hleave⟩, hrest⟩ := List.forall_mem_cons.mp hes
    rw [List.mem_cons, not_or] at hraise hdrop
    have hmet := apply_listener hs h hwait hleave
    rw [if_pos hl] at hmet
    refine ih (hs.apply e) ?_ hrest hraise.2 hdrop.2
    rw [hmet]
    cases e with
    | raise => exact absurd rfl hraise.1
    | drop => exact absurd rfl hdrop.1
    | listen | copy | ask | wait | leave | pass => rfl

/-- A listener that waits is resumed at the instant at which the signal is raised. -/
theorem resumedMs?_of_waiting {before rest : List Event} (hs : s.Sound)
    (h : s.listeners[i]? = some l) (hl : l.stance = .waiting) (hraise : .raise ∉ before)
    (hdrop : .drop ∉ before) (hbefore : Undisturbed i before) (hrest : Undisturbed i rest) :
    (s.after (before ++ .raise :: rest)).resumedMs? i = some (s.after before).nowMs := by
  have hsound : (s.after before).Sound := hs.after before
  have hwaiting := after_of_waiting hs h hl hbefore hraise hdrop
  have hwoken := apply_listener (e := .raise) hsound hwaiting nofun nofun
  rw [if_pos hl] at hwoken
  have hsettled := after_of_not_waiting (hsound.apply .raise) hwoken nofun hrest
  rw [after_append, after_cons, resumedMs?, hsettled]
  rfl

theorem apply_wait_listener (h : s.listeners[i]? = some l) :
    (s.apply (.wait i)).listeners[i]? = some (l.look s) := by
  rw [apply, List.getElem?_modify, h]
  simp

theorem resumedMs?_eq (h : s.listeners[i]? = some l) :
    s.resumedMs? i = l.stance.resumedMs? := by
  rw [resumedMs?, h, Option.bind_some]

/-- While nothing is raised, no wait comes to an end. -/
theorem Sound.resumedMs?_eq_none (hs : s.Sound) (h : s.raised = false) (i : Nat) :
    s.resumedMs? i = none := by
  cases hl : s.listeners[i]? with
  | none => rw [resumedMs?, hl, Option.bind_none]
  | some l =>
    rw [resumedMs?_eq hl]
    by_contra hne
    rw [(hs l (List.mem_of_getElem? hl)).resumed hne] at h
    cases h

/-! ## What is heard after a history -/

/-- How the wait of a listener goes that begins after a history of the signal. -/
structure Waits (es : List Event) (i : Nat) : Prop where
  /-- If the signal was raised, the wait ends at once. -/
  atOnce : RaisedIn es → ∀ es', Undisturbed i es' →
    (after {} (es ++ .wait i :: es')).resumedMs? i = some (after {} es).nowMs
  /-- If it is raised during the wait, the wait ends at that instant. -/
  during : ∀ before rest, ¬ RaisedIn (es ++ before) → .drop ∉ es ++ before →
    Undisturbed i before → Undisturbed i rest →
      (after {} (es ++ .wait i :: (before ++ .raise :: rest))).resumedMs? i =
        some (after {} (es ++ .wait i :: before)).nowMs
  /-- The wait does not end before that. -/
  notBefore : ∀ es', ¬ RaisedIn (es ++ es') →
    (after {} (es ++ .wait i :: es')).resumedMs? i = none
  /-- If whoever may raise the signal went away without having done so, the wait never ends. -/
  never : ∀ before rest, ¬ RaisedIn (es ++ before) → .drop ∈ es ++ before →
    (after {} (es ++ .wait i :: (before ++ rest))).resumedMs? i = none
  /-- Likewise for a wait that is given up after a while, or the signal raised before that. -/
  timed : ∀ timeoutMs raiseAfterMs,
    (RaisedIn es → ((after {} es).wait i timeoutMs raiseAfterMs).2 = ⟨true, 0⟩) ∧
    (¬ RaisedIn es → .drop ∉ es → ∀ a, raiseAfterMs = some a → a < timeoutMs →
      ((after {} es).wait i timeoutMs raiseAfterMs).2 = ⟨true, a⟩) ∧
    (¬ RaisedIn es → (.drop ∈ es ∨ ∀ a, raiseAfterMs = some a → timeoutMs ≤ a) →
      ((after {} es).wait i timeoutMs raiseAfterMs).2 = ⟨false, timeoutMs⟩)

theorem raised_after_start : (after {} es).raised = true ↔ RaisedIn es := by
  rw [raised_after_iff]
  simp

theorem present_after_start : (after {} es).present = true ↔ .drop ∉ es := by
  rw [present_after_iff]
  simp

theorem raised_after_start_eq_false (h : ¬ RaisedIn es) : (after {} es).raised = false := by
  rw [Bool.eq_false_iff, ne_eq, raised_after_start]
  exact h

/-- A wait is nothing that raises a signal. -/
theorem raisedIn_wait : RaisedIn (es ++ .wait i :: es') ↔ RaisedIn (es ++ es') := by
  rw [raisedIn_append, raisedIn_append, raisedIn_cons]
  simp

/-- A wait that lasts for a while, at the end of which the signal is to be raised. -/
theorem resumedMs?_after_pass (hs : s.Sound) (h : s.listeners[i]? = some l)
    (hraised : s.raised = false) (a : Nat) :
    ((s.apply (.wait i)).after [.pass a, .raise]).resumedMs? i =
      if s.present then some (s.nowMs + a) else none := by
  have hlook := apply_wait_listener h
  have hpass : Undisturbed i [.pass a] := List.forall_mem_singleton.mpr ⟨nofun, nofun⟩
  cases hpresent : s.present with
  | true =>
    have hstance : (l.look s).stance = .waiting := by
      rw [Listener.look, hraised, hpresent]
      rfl
    exact resumedMs?_of_waiting (hs.apply _) hlook hstance (by simp) (by simp) hpass
      (fun e he => absurd he List.not_mem_nil)
  | false =>
    have hstance : (l.look s).stance = .stranded := by
      rw [Listener.look, hraised, hpresent]
      rfl
    have hsettled : (l.look s).stance ≠ .waiting := by
      rw [hstance]
      exact nofun
    have hboth : Undisturbed i [.pass a, .raise] :=
      List.forall_mem_cons.mpr ⟨⟨nofun, nofun⟩, List.forall_mem_singleton.mpr ⟨nofun, nofun⟩⟩
    rw [resumedMs?_eq (after_of_not_waiting (hs.apply _) hlook hsettled hboth), hstance]
    rfl

/-- Waiting for at most a while. -/
theorem wait_eq (hs : s.Sound) (h : s.listeners[i]? = some l) (timeoutMs : Nat)
    (raiseAfterMs : Option Nat) :
    (s.wait i timeoutMs raiseAfterMs).2 =
      if s.raised then ⟨true, 0⟩
      else if s.present ∧ raiseAfterMs.any (· < timeoutMs) then ⟨true, raiseAfterMs.getD 0⟩
      else ⟨false, timeoutMs⟩ := by
  have hbegun : (s.apply (.wait i)).resumedMs? i = if s.raised then some s.nowMs else none := by
    rw [resumedMs?_eq (apply_wait_listener h), Listener.look]
    cases s.raised <;> cases s.present <;> rfl
  unfold wait
  dsimp only
  rw [hbegun]
  cases hraised : s.raised with
  | true => simp
  | false =>
    cases raiseAfterMs with
    | none => simp [hbegun, hraised]
    | some a =>
      by_cases ha : a < timeoutMs
      · cases hpresent : s.present <;>
          simp [ha, hpresent, resumedMs?_after_pass hs h hraised]
      · simp [ha, hbegun, hraised]

/-- How a wait goes that begins after any history. -/
theorem waits_after (hi : i < (after {} es).listeners.length) : Waits es i := by
  obtain ⟨l, hl⟩ : ∃ l, (after {} es).listeners[i]? = some l := ⟨_, List.getElem?_eq_getElem hi⟩
  have hs : (after {} es).Sound := sound_start.after es
  have hlook := apply_wait_listener hl
  have hnotBefore : ∀ es', ¬ RaisedIn (es ++ es') →
      (after {} (es ++ .wait i :: es')).resumedMs? i = none := by
    intro es' hraised
    rw [← raisedIn_wait (i := i)] at hraised
    exact (sound_start.after _).resumedMs?_eq_none (raised_after_start_eq_false hraised) i
  refine ⟨fun hraised es' hes' => ?_, ?_, hnotBefore, ?_, fun timeoutMs raiseAfterMs => ?_⟩
  · have hstance : (l.look (after {} es)).stance = .resumed (after {} es).nowMs :=
      if_pos (raised_after_start.mpr hraised)
    have hsettled : (l.look (after {} es)).stance ≠ .waiting := by
      rw [hstance]
      exact nofun
    rw [after_append, after_cons,
      resumedMs?_eq (after_of_not_waiting (hs.apply _) hlook hsettled hes'), hstance]
    rfl
  · intro before rest hraised hdrop hbefore hrest
    rw [raisedIn_append, not_or] at hraised
    rw [List.mem_append, not_or] at hdrop
    have hstance : (l.look (after {} es)).stance = .waiting := by
      rw [Listener.look, raised_after_start_eq_false hraised.1, present_after_start.mpr hdrop.1]
      rfl
    have hraise : .raise ∉ before := fun hmem =>
      hraised.2 ⟨hdrop.1, raisedIn_of_mem hmem hdrop.2⟩
    rw [after_append, after_cons,
      resumedMs?_of_waiting (hs.apply _) hlook hstance hraise hdrop.2 hbefore hrest,
      after_append, after_cons]
  · intro before rest hraised hdrop
    refine hnotBefore _ ?_
    rw [← List.append_assoc, raisedIn_append, not_or]
    exact ⟨hraised, fun h => h.1 hdrop⟩
  · rw [wait_eq hs hl]
    refine ⟨fun hraised => ?_, fun hraised hdrop a ha hlt => ?_, fun hraised hvain => ?_⟩
    · rw [if_pos (raised_after_start.mpr hraised)]
    · rw [raised_after_start_eq_false hraised, if_neg Bool.false_ne_true, ha,
        if_pos ⟨present_after_start.mpr hdrop, decide_eq_true hlt⟩]
      rfl
    · rw [raised_after_start_eq_false hraised, if_neg Bool.false_ne_true, if_neg]
      rintro ⟨hpresent, hany⟩
      rcases hvain with hdrop | hlate
      · exact present_after_start.mp hpresent hdrop
      · cases raiseAfterMs with
        | none => cases hany
        | some a => exact absurd (of_decide_eq_true hany) (Nat.not_lt.mpr (hlate a rfl))

/-- **Whom a signal reaches.** After any history, every listener hears that the signal is raised if
and only if it was raised in it, by one who had not gone away; it never ceases to be heard. A wait
that begins then, of a listener of any origin and past, ends at once if the signal was raised, at
the instant at which it is raised if that happens during the wait, and never if the one who may
raise it goes away before doing so. -/
theorem reaches_all (es : List Event) :
    (∀ i, (after {} es).isCancelled i = true ↔ RaisedIn es) ∧
    (∀ i es', (after {} es).isCancelled i = true → (after {} (es ++ es')).isCancelled i = true) ∧
    ∀ i < (after {} es).listeners.length, Waits es i := by
  refine ⟨fun i => raised_after_start, fun i es' h => ?_, fun i hi => waits_after hi⟩
  rw [isCancelled, after_append, raised_after_iff]
  exact .inl h

/-- A listener waits, is copied twice while it is at rest again, and the signal is raised by one who
then goes away. -/
def copied : List Event :=
  [.listen, .wait 0, .pass 5, .leave 0, .copy 0, .copy 1, .raise, .drop]

theorem reaches_all_copied :
    (after {} copied).listeners.length = 3 ∧ (after {} copied).isCancelled 2 = true ∧
      ((after {} copied).wait 2 100 none).2 = ⟨true, 0⟩ ∧
      ((after {} [.listen, .copy 0]).wait 1 100 (some 40)).2 = ⟨true, 40⟩ ∧
      ((after {} [.listen, .drop]).wait 0 100 (some 40)).2 = ⟨false, 100⟩ := by
  have hraised : RaisedIn copied := ⟨copied.take 6, [.drop], rfl, by decide⟩
  have hquiet : ∀ es : List Event, .raise ∉ es → ¬ RaisedIn es := by
    rintro es hes ⟨before, rest, rfl, -⟩
    exact hes (List.mem_append_right _ List.mem_cons_self)
  obtain ⟨hheard, -, hwaits⟩ := reaches_all copied
  refine ⟨rfl, (hheard 2).mpr hraised, ((hwaits 2 (by decide)).timed 100 none).1 hraised, ?_, ?_⟩
  · obtain ⟨-, -, hwaits⟩ := reaches_all [.listen, .copy 0]
    exact ((hwaits 1 (by decide)).timed 100 (some 40)).2.1 (hquiet _ (by decide)) (by decide) 40 rfl
      (by decide)
  · obtain ⟨-, -, hwaits⟩ := reaches_all [.listen, .drop]
    exact ((hwaits 0 (by decide)).timed 100 (some 40)).2.2 (hquiet _ (by decide)) (.inl (by decide))

/-! ## What is answered to steps -/

/-- A step that raises the signal, if it was not raised before and still may be. -/
def Step.raises : Step → Bool
  | .raise => true
  | .wait _ timeoutMs raiseAfterMs => raiseAfterMs.any (· < timeoutMs)
  | _ => false

/-- The signal is raised by one of the steps, which comes before it is given up. -/
def RaisedBy (ps : List Step) : Prop :=
  ∃ before p rest, ps = before ++ p :: rest ∧ p.raises = true ∧ .drop ∉ before

theorem not_raisedBy_nil : ¬ RaisedBy [] := by
  rintro ⟨before, p, rest, heq, -⟩
  exact List.append_ne_nil_of_right_ne_nil before (List.cons_ne_nil p rest) heq.symm

theorem raisedBy_append_singleton {ps : List Step} {p : Step} :
    RaisedBy (ps ++ [p]) ↔ RaisedBy ps ∨ .drop ∉ ps ∧ p.raises = true := by
  constructor
  · rintro ⟨before, q, rest, heq, hraises, hdrop⟩
    rcases rest.eq_nil_or_concat with rfl | ⟨rest, r, rfl⟩
    · obtain ⟨rfl, hlast⟩ := List.append_inj' heq rfl
      obtain ⟨rfl, -⟩ := List.cons.inj hlast
      exact .inr ⟨hdrop, hraises⟩
    · rw [List.concat_eq_append, ← List.cons_append, ← List.append_assoc] at heq
      exact .inl ⟨before, q, rest, (List.append_inj' heq rfl).1, hraises, hdrop⟩
  · rintro (⟨before, q, rest, rfl, hraises, hdrop⟩ | ⟨hdrop, hraises⟩)
    · exact ⟨before, q, rest ++ [p], by simp, hraises, hdrop⟩
    · exact ⟨ps, p, [], rfl, hraises, hdrop⟩

/-- Waiting comes down to events, among which the signal is raised if that was to come in time. -/
theorem exists_after_wait (hs : s.Sound) (i timeoutMs : Nat) (raiseAfterMs : Option Nat) :
    ∃ es, (s.wait i timeoutMs raiseAfterMs).1 = s.after es ∧ .drop ∉ es ∧
      (s.raised = true ∨ (RaisedIn es ↔ raiseAfterMs.any (· < timeoutMs) = true)) := by
  let leftMs (waited : Signal) : Nat := s.nowMs + timeoutMs - waited.nowMs
  cases hbegun : (s.apply (.wait i)).resumedMs? i with
  | some atMs =>
    refine ⟨[.wait i], by simp only [wait, hbegun]; rfl, by simp, .inl ?_⟩
    by_contra hraised
    have hnone := (hs.apply (.wait i)).resumedMs?_eq_none (Bool.eq_false_iff.mpr hraised) i
    rw [hbegun] at hnone
    cases hnone
  | none =>
    by_cases hin : raiseAfterMs.any (· < timeoutMs) = true
    · obtain ⟨a, rfl, ha⟩ := (Option.any_eq_true _ _).mp hin
      have ha : a < timeoutMs := of_decide_eq_true ha
      let waited := (s.apply (.wait i)).after [.pass a, .raise]
      cases hwaited : waited.resumedMs? i with
      | some atMs =>
        refine ⟨[.wait i, .pass a, .raise], ?_, by simp, .inr ?_⟩
        · simp only [wait, hbegun, if_pos ha, waited, hwaited]
          rfl
        · simp [raisedIn_cons, ha]
      | none =>
        refine ⟨[.wait i, .pass a, .raise, .pass (leftMs waited), .leave i], ?_, by simp, .inr ?_⟩
        · simp only [wait, hbegun, if_pos ha, waited, hwaited]
          rfl
        · simp [raisedIn_cons, ha]
    · refine ⟨[.wait i, .pass (leftMs (s.apply (.wait i))), .leave i], ?_, by simp, .inr ?_⟩
      · cases raiseAfterMs with
        | none =>
          simp only [wait, hbegun]
          rfl
        | some a =>
          have ha : ¬ a < timeoutMs := fun ha => hin (decide_eq_true ha)
          simp only [wait, hbegun, if_neg ha]
          rfl
      · simp [raisedIn_cons, not_raisedIn_nil, hin]

/-- Every step comes down to events. -/
theorem exists_after_step (hs : s.Sound) (p : Step) :
    ∃ es, (s.step p).1 = s.after es ∧ (.drop ∈ es ↔ p = .drop) ∧
      (s.raised = true ∨ (RaisedIn es ↔ p.raises = true)) := by
  cases p with
  | wait i timeoutMs raiseAfterMs =>
    obtain ⟨es, heq, hdrop, hraised⟩ := exists_after_wait hs i timeoutMs raiseAfterMs
    exact ⟨es, heq, by simp [hdrop], hraised⟩
  | isRaised => exact ⟨[], rfl, by simp, .inr (by simp [not_raisedIn_nil, Step.raises])⟩
  | listen => exact ⟨[.listen], rfl, by simp, .inr (by simp [raisedIn_singleton, Step.raises])⟩
  | copy i => exact ⟨[.copy i], rfl, by simp, .inr (by simp [raisedIn_singleton, Step.raises])⟩
  | raise => exact ⟨[.raise], rfl, by simp, .inr (by simp [raisedIn_singleton, Step.raises])⟩
  | drop => exact ⟨[.drop], rfl, by simp, .inr (by simp [raisedIn_singleton, Step.raises])⟩
  | isCancelled i =>
    exact ⟨[.ask i], rfl, by simp, .inr (by simp [raisedIn_singleton, Step.raises])⟩

theorem afterSteps_append_singleton (s : Signal) (ps : List Step) (p : Step) :
    s.afterSteps (ps ++ [p]) = ((s.afterSteps ps).step p).1 :=
  List.foldl_append

/-- Whatever is done with a signal comes down to a history of it. -/
theorem exists_history (ps : List Step) :
    ∃ es, afterSteps {} ps = after {} es ∧ (.drop ∈ es ↔ .drop ∈ ps) ∧
      (RaisedIn es ↔ RaisedBy ps) := by
  induction ps using List.reverseRecOn with
  | nil => exact ⟨[], rfl, by simp, iff_of_false not_raisedIn_nil not_raisedBy_nil⟩
  | append_singleton ps p ih =>
    obtain ⟨es, heq, hdrop, hraised⟩ := ih
    obtain ⟨es', heq', hdrop', hraised'⟩ := exists_after_step (sound_start.after es) p
    refine ⟨es ++ es', ?_, ?_, ?_⟩
    · rw [afterSteps_append_singleton, heq, heq', after_append]
    · rw [List.mem_append, List.mem_append, List.mem_singleton, hdrop, hdrop', eq_comm]
    · rw [raisedIn_append, raisedBy_append_singleton]
      rcases hraised' with hbefore | hnow
      · have hes := raised_after_start.mp hbefore
        exact iff_of_true (.inl hes) (.inl (hraised.mp hes))
      · rw [hraised, hdrop, hnow]

theorem run_getElem? {ps : List Step} {p : Step} {k : Nat} (h : ps[k]? = some p) :
    (s.run ps)[k]? = some ((s.afterSteps (ps.take k)).step p).2 := by
  induction ps generalizing s k with
  | nil => cases h
  | cons q ps ih =>
    cases k with
    | zero =>
      cases h
      rfl
    | succ k => exact ih h

/-- **What is answered to steps.** A listener that is asked says that the signal is raised if and
only if one of the steps before raised it, while there was one who may. If so, its wait ends at
once; if not, it ends when the signal is raised during it, and is given up otherwise. -/
theorem run_reaches (ps : List Step) (k i : Nat) :
    (ps[k]? = some (.isCancelled i) →
      ∃ b, (run {} ps)[k]? = some (.holds b) ∧ (b = true ↔ RaisedBy (ps.take k))) ∧
    ∀ timeoutMs raiseAfterMs, ps[k]? = some (.wait i timeoutMs raiseAfterMs) →
      i < (afterSteps {} (ps.take k)).listeners.length →
      ∃ w, (run {} ps)[k]? = some (.waited w) ∧
        (RaisedBy (ps.take k) → w = ⟨true, 0⟩) ∧
        (¬ RaisedBy (ps.take k) → .drop ∉ ps.take k → ∀ a, raiseAfterMs = some a → a < timeoutMs →
          w = ⟨true, a⟩) ∧
        (¬ RaisedBy (ps.take k) →
          (.drop ∈ ps.take k ∨ ∀ a, raiseAfterMs = some a → timeoutMs ≤ a) →
            w = ⟨false, timeoutMs⟩) := by
  obtain ⟨es, heq, hdrop, hraised⟩ := exists_history (ps.take k)
  rw [← hraised, ← hdrop, heq]
  refine ⟨fun h => ⟨_, run_getElem? h, ?_⟩,
    fun timeoutMs raiseAfterMs h hi => ⟨_, run_getElem? h, ?_⟩⟩
  · rw [heq]
    exact raised_after_start
  · rw [heq]
    exact (waits_after hi).timed timeoutMs raiseAfterMs

end ApprovalWatch.Signal
