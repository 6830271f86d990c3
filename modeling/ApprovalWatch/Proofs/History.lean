import ApprovalWatch.Proofs.Activity

/-!
# The history of an inquiry

What an inquiry did is told by its looks at the identifier field and by whoever is asked: which
queries were made, what was replied, what the counts are, whether the inquiry is resolved, and when
the next look is due. All lists have the latest entry first.

Main results:

* `interpret_tally`, `interpret_cases`: a reply counts, and resolves an inquiry, as the history
  tells.
* `History.act`: what is due keeps the history of the attempts, and resolves them as it tells.
* `History.abandon_aloft`: attempts that are given up leave no query in flight.
-/

namespace ApprovalWatch

/-! ## Sources -/

namespace Source

variable {σ : Type}

/-- The source after the queries for the given identifiers. -/
def after (ask : Source σ) (s : σ) : List String → σ
  | [] => s
  | id :: earlier => (ask (after ask s earlier) id).2

/-- The answer to a query that comes after others. -/
def answer (ask : Source σ) (s : σ) (id : String) (earlier : List String) : Answer :=
  (ask (after ask s earlier) id).1

/-- The replies to the queries for the given identifiers. -/
def replies (ask : Source σ) (s : σ) : List String → List Reply
  | [] => []
  | id :: earlier => (answer ask s id earlier).reply :: replies ask s earlier

end Source

/-! ## Decisions -/

/-- There is no status in a reply. -/
def Reply.isFailure : Reply → Bool
  | .ok _ => false
  | .error _ => true

/-- The failed queries since the last status. -/
def Reply.streak (replies : List Reply) : Nat :=
  (replies.takeWhile isFailure).length

theorem Reply.streak_ok (status : String) (earlier : List Reply) :
    streak (.ok status :: earlier) = 0 :=
  rfl

theorem Reply.streak_error (e : QueryFailure) (earlier : List Reply) :
    streak (.error e :: earlier) = streak earlier + 1 :=
  rfl

namespace Settings

/-- A reply with a status that ends nothing. -/
def isPending (s : Settings) : Reply → Bool
  | .ok status => status ≠ s.statuses.success ∧ status ∉ s.statuses.terminalFailures
  | .error _ => false

/-- How the latest reply resolves an inquiry, if it does. -/
def resolution? (s : Settings) : List Reply → Option Resolution
  | [] => none
  | .ok status :: _ =>
    if status = s.statuses.success then some (.success (Status.ofName status))
    else if status ∈ s.statuses.terminalFailures then some (.failure (.terminalStatus status))
    else none
  | .error _ :: earlier =>
    if Inquiry.exhausts s (Reply.streak earlier + 1) then some (.failure .transportExhausted)
    else none

theorem resolution?_success {s : Settings} {replies : List Reply} {status : Status}
    (h : s.resolution? replies = some (.success status)) :
    ∃ earlier, replies = .ok s.statuses.success :: earlier := by
  match replies with
  | [] => cases h
  | .ok name :: earlier =>
    simp only [resolution?] at h
    split at h
    · rename_i hs
      exact ⟨earlier, by rw [hs]⟩
    · split at h <;> cases h
  | .error _ :: _ =>
    simp only [resolution?] at h
    split at h <;> cases h

theorem resolution?_terminalStatus {s : Settings} {replies : List Reply} {name : String}
    (h : s.resolution? replies = some (.failure (.terminalStatus name))) :
    ∃ earlier, replies = .ok name :: earlier ∧ name ∈ s.statuses.terminalFailures ∧
      name ≠ s.statuses.success := by
  match replies with
  | [] => cases h
  | .ok name' :: earlier =>
    simp only [resolution?] at h
    split at h
    · cases h
    · rename_i hs
      split at h
      · rename_i ht
        cases h
        exact ⟨earlier, rfl, ht, hs⟩
      · cases h
  | .error _ :: _ =>
    simp only [resolution?] at h
    split at h <;> cases h

theorem resolution?_transportExhausted {s : Settings} {replies : List Reply}
    (h : s.resolution? replies = some (.failure .transportExhausted)) :
    ∃ m, s.retry.maxConsecutiveFailures = some m ∧ m ≤ Reply.streak replies := by
  match replies with
  | [] => cases h
  | .ok name :: earlier =>
    simp only [resolution?] at h
    split at h
    · cases h
    · split at h <;> cases h
  | .error e :: earlier =>
    simp only [resolution?] at h
    split at h
    · rename_i enough
      simpa [Inquiry.exhausts, Option.any_eq_true, Reply.streak_error] using enough
    · cases h

/-- No reply makes a deadline come. -/
theorem resolution?_ne_deadlineExceeded (s : Settings) (replies : List Reply) :
    s.resolution? replies ≠ some (.failure .deadlineExceeded) := by
  intro h
  match replies with
  | [] => cases h
  | .ok _ :: _ =>
    simp only [resolution?] at h
    split at h
    · cases h
    · split at h <;> cases h
  | .error _ :: _ =>
    simp only [resolution?] at h
    split at h <;> cases h

end Settings

/-! ## Counts -/

/-- The identifiers that were found. -/
def Look.identifiers (looks : List Look) : List String :=
  looks.filterMap (·.found)

/-- The query that a look leads to: at once, and for the identifier that was found. -/
def Look.query? (l : Look) : Option (Nat × String) :=
  l.found.map fun id => (l.atMs, id)

theorem Look.query?_none (atMs : Nat) : query? ⟨atMs, none⟩ = none :=
  rfl

theorem Look.query?_some (atMs : Nat) (id : String) : query? ⟨atMs, some id⟩ = some (atMs, id) :=
  rfl

theorem Look.query?_eq_none {l : Look} : l.query? = none ↔ l.found = none :=
  Option.map_eq_none_iff

theorem Look.identifiers_none (atMs : Nat) (looks : List Look) :
    identifiers (⟨atMs, none⟩ :: looks) = identifiers looks :=
  rfl

theorem Look.identifiers_some (atMs : Nat) (id : String) (looks : List Look) :
    identifiers (⟨atMs, some id⟩ :: looks) = id :: identifiers looks :=
  rfl

/-- The counts after looks, of whose queries those were answered that the replies belong to. -/
def Settings.tally (s : Settings) (looks : List Look) (replies : List Reply) : Tally where
  identifierRetries := looks.countP (·.found.isNone)
  queries := (Look.identifiers looks).length
  pendingResponses := replies.countP s.isPending
  transientFailures := replies.countP Reply.isFailure
  consecutiveFailures := Reply.streak replies

namespace Inquiry

variable {s : Settings} {q : Inquiry} {looks : List Look} {replies : List Reply}

theorem missIdentifier_tally (h : q.tally = s.tally looks replies) (atMs : Nat) :
    q.missIdentifier.tally = s.tally (⟨atMs, none⟩ :: looks) replies := by
  simp [missIdentifier, h, Settings.tally, Look.identifiers_none]

theorem ask_tally (h : q.tally = s.tally looks replies) (atMs : Nat) (id : String) :
    (q.ask id).tally = s.tally (⟨atMs, some id⟩ :: looks) replies := by
  simp [ask, h, Settings.tally, Look.identifiers_some]

/-- A reply is counted once: as pending, as a failure, or not at all if it resolves. -/
theorem interpret_tally (h : q.tally = s.tally looks replies) (reply : Reply) :
    (interpret s q reply).1.tally = s.tally looks (reply :: replies) := by
  cases reply with
  | ok status =>
    simp only [interpret]
    split
    · rename_i hs
      simp [h, Settings.tally, Reply.isFailure, Settings.isPending, Reply.streak_ok, hs]
    · rename_i hs
      split
      · rename_i ht
        simp [h, Settings.tally, Reply.isFailure, Settings.isPending, Reply.streak_ok, ht]
      · rename_i ht
        simp [h, Settings.tally, Reply.isFailure, Settings.isPending, Reply.streak_ok, hs, ht]
  | error e =>
    simp only [interpret]
    split <;>
      simp [h, Settings.tally, List.countP_cons, Reply.isFailure, Settings.isPending,
        Reply.streak_error]

/-- A reply resolves an inquiry as the history tells, or leads to another attempt. -/
theorem interpret_cases (h : q.tally.consecutiveFailures = Reply.streak replies) (reply : Reply) :
    (∃ cause, (interpret s q reply).2 = .retry cause ∧
      s.resolution? (reply :: replies) = none) ∨
    ∃ r, (interpret s q reply).2 = .resolve r ∧ s.resolution? (reply :: replies) = some r := by
  cases reply with
  | ok status =>
    simp only [interpret, Settings.resolution?]
    split
    · exact Or.inr ⟨_, rfl, rfl⟩
    · split
      · exact Or.inr ⟨_, rfl, rfl⟩
      · exact Or.inl ⟨_, rfl, rfl⟩
  | error e =>
    simp only [interpret, Settings.resolution?, h]
    split
    · exact Or.inr ⟨_, rfl, rfl⟩
    · exact Or.inl ⟨_, rfl, rfl⟩

end Inquiry

/-! ## Queries in flight -/

/-- So many queries are in flight, and there was never more than one. -/
structure Journal.Aloft (j : Journal) (n : Nat) : Prop where
  balance : j.flights.count true = j.flights.count false + n
  peak : Journal.peak j.flights ≤ 1

namespace Journal.Aloft

variable {j : Journal}

theorem depart (h : j.Aloft 0) (atMs : Nat) (id : String) : (j.depart atMs id).Aloft 1 := by
  obtain ⟨hb, hp⟩ := h
  refine ⟨?_, ?_⟩
  · simp [Journal.depart, hb]
  · have : Journal.inFlight (true :: j.flights) = 1 := by simp [Journal.inFlight, hb]
    simp [Journal.depart, Journal.peak, this, hp]

theorem land (h : j.Aloft 1) : j.land.Aloft 0 := by
  obtain ⟨hb, hp⟩ := h
  refine ⟨?_, ?_⟩
  · simp [Journal.land, hb]
  · have : Journal.inFlight (false :: j.flights) = 0 := by simp [Journal.inFlight, hb]
    simp [Journal.land, Journal.peak, this, hp]

theorem inFlight_eq {n : Nat} (h : j.Aloft n) : Journal.inFlight j.flights = n := by
  rw [Journal.inFlight, h.balance, Nat.add_sub_cancel_left]

end Journal.Aloft

/-! ## Histories -/

section History

variable {σ : Type}

/-- The instant at which the next look is due: a delay after the attempt before was completed,
which a look without an identifier does at once, and the answer to its query otherwise. There is
none after a reply that resolves. -/
def Settings.nextLook? (s : Settings) (ask : Source σ) (src : σ) : List Look → Option Nat
  | [] => some 0
  | ⟨atMs, none⟩ :: _ => some (atMs + s.retry.delayMs)
  | ⟨atMs, some id⟩ :: earlier =>
    if (s.resolution? (ask.replies src (id :: Look.identifiers earlier))).isSome then none
    else (ask.answer src id (Look.identifiers earlier)).latencyMs.map (atMs + · + s.retry.delayMs)

section Next

variable {s : Settings} {ask : Source σ} {src : σ} {atMs : Nat} {id : String} {earlier : List Look}

theorem Settings.nextLook?_of_unresolved {latencyMs : Nat}
    (hres : s.resolution? (ask.replies src (id :: Look.identifiers earlier)) = none)
    (hl : (ask.answer src id (Look.identifiers earlier)).latencyMs = some latencyMs) :
    s.nextLook? ask src (⟨atMs, some id⟩ :: earlier) =
      some (atMs + latencyMs + s.retry.delayMs) := by
  simp [nextLook?, hres, hl]

theorem Settings.nextLook?_of_resolved {r : Resolution}
    (hres : s.resolution? (ask.replies src (id :: Look.identifiers earlier)) = some r) :
    s.nextLook? ask src (⟨atMs, some id⟩ :: earlier) = none := by
  simp [nextLook?, hres]

end Next

namespace Attempts

/-- What attempts are at, told by their history. -/
inductive Stage (s : Settings) (ask : Source σ) (src : σ) (a : Attempts σ) : Prop
  | resting {untilMs : Nat} (activity : a.activity = .resting untilMs)
      (next : s.nextLook? ask src a.journal.looks = some untilMs)
      (tally : a.inquiry.tally =
        s.tally a.journal.looks (ask.replies src (Look.identifiers a.journal.looks)))
      (aloft : a.journal.Aloft 0)
  | asking {sinceMs : Nat} {id : String} {earlier : List Look}
      (looks : a.journal.looks = ⟨sinceMs, some id⟩ :: earlier)
      (activity : a.activity = .asking sinceMs (ask.answer src id (Look.identifiers earlier)))
      (tally : a.inquiry.tally =
        s.tally a.journal.looks (ask.replies src (Look.identifiers earlier)))
      (aloft : a.journal.Aloft 1)
  | ended {r : Resolution} (activity : a.activity = .ended)
      (next : s.nextLook? ask src a.journal.looks = none)
      (resolved :
        s.resolution? (ask.replies src (Look.identifiers a.journal.looks)) = some r)
      (tally : a.inquiry.tally =
        s.tally a.journal.looks (ask.replies src (Look.identifiers a.journal.looks)))
      (aloft : a.journal.Aloft 0)

/-- The attempts are what their looks made of them: one query for every identifier that was found,
at the same instant, to a source that was asked nothing else. -/
structure History (s : Settings) (ask : Source σ) (src : σ) (a : Attempts σ) : Prop where
  queries : a.journal.queries = a.journal.looks.filterMap Look.query?
  source : a.source = ask.after src (Look.identifiers a.journal.looks)
  stage : Stage s ask src a

variable {s : Settings} {ask : Source σ} {src : σ} {a b : Attempts σ} {nowMs : Nat}

theorem history_start (s : Settings) (ask : Source σ) (src : σ) :
    History s ask src { source := src } :=
  ⟨rfl, rfl, .resting rfl rfl rfl ⟨rfl, Nat.zero_le 1⟩⟩

theorem History.miss (h : History s ask src a) (hr : a.isResting = true) (nowMs : Nat) :
    History s ask src (a.miss s nowMs) := by
  obtain ⟨hq, hs, hst⟩ := h
  refine ⟨?_, hs, ?_⟩
  · show _ = List.filterMap Look.query? (⟨nowMs, none⟩ :: a.journal.looks)
    rw [List.filterMap_cons_none (Look.query?_none nowMs)]
    exact hq
  · cases hst with
    | resting _ _ tally aloft =>
      exact .resting rfl rfl (Inquiry.missIdentifier_tally tally nowMs) ⟨aloft.balance, aloft.peak⟩
    | asking _ activity => simp [isResting, activity] at hr
    | ended activity => simp [isResting, activity] at hr

theorem History.launch (h : History s ask src a) (hr : a.isResting = true) (nowMs : Nat)
    (id : String) :
    History s ask src (a.launch nowMs id (ask a.source id).1 (ask a.source id).2) := by
  obtain ⟨hq, hs, hst⟩ := h
  refine ⟨?_, ?_, ?_⟩
  · show (nowMs, id) :: a.journal.queries =
      List.filterMap Look.query? (⟨nowMs, some id⟩ :: a.journal.looks)
    rw [List.filterMap_cons_some (Look.query?_some nowMs id), hq]
  · simp only [Attempts.launch, Journal.look, Journal.depart, Look.identifiers_some, Source.after]
    rw [hs]
  · cases hst with
    | resting _ _ tally aloft =>
      have hdepart := Journal.Aloft.depart (j := a.journal.look nowMs (some id))
        ⟨aloft.balance, aloft.peak⟩ nowMs id
      refine .asking rfl ?_ (Inquiry.ask_tally tally nowMs id) hdepart
      rw [Source.answer, ← hs]
      rfl
    | asking _ activity => simp [isResting, activity] at hr
    | ended activity => simp [isResting, activity] at hr

/-- A reply completes an attempt, and resolves the attempts or leads to the next look. -/
theorem History.complete {sinceMs latencyMs : Nat} {answer : Answer} (h : History s ask src a)
    (ha : a.activity = .asking sinceMs answer) (hl : answer.latencyMs = some latencyMs) :
    History s ask src (complete s a (sinceMs + latencyMs) sinceMs answer.reply).1 ∧
      ∀ r, (complete s a (sinceMs + latencyMs) sinceMs answer.reply).2 = .resolve r ↔
        (complete s a (sinceMs + latencyMs) sinceMs answer.reply).1.activity = .ended ∧
          s.resolution? (ask.replies src (Look.identifiers a.journal.looks)) = some r := by
  obtain ⟨hq, hs, hst⟩ := h
  cases hst with
  | resting activity => simp [activity] at ha
  | ended activity => simp [activity] at ha
  | @asking since id earlier looks activity tally aloft =>
    rw [activity] at ha
    cases ha
    have hids : Look.identifiers a.journal.looks = id :: Look.identifiers earlier := by
      rw [looks, Look.identifiers_some]
    have hstreak : a.inquiry.tally.consecutiveFailures =
        Reply.streak (ask.replies src (Look.identifiers earlier)) := by
      rw [tally, Settings.tally]
    have htally : (a.inquiry.interpret s
        (ask.answer src id (Look.identifiers earlier)).reply).1.tally =
          s.tally a.journal.looks (ask.replies src (Look.identifiers a.journal.looks)) := by
      rw [hids, Source.replies, Inquiry.interpret_tally tally]
    have haloft := aloft.land
    unfold Attempts.complete
    dsimp only
    rcases Inquiry.interpret_cases hstreak (ask.answer src id (Look.identifiers earlier)).reply with
      ⟨cause, htr, hres⟩ | ⟨r, htr, hres⟩
    · rw [← Source.replies, ← hids] at hres
      rw [htr]
      refine ⟨⟨hq, hs, .resting rfl ?_ htally ⟨haloft.balance, haloft.peak⟩⟩, fun r => ?_⟩
      · show s.nextLook? ask src a.journal.looks = _
        rw [looks, Settings.nextLook?_of_unresolved (hids ▸ hres) hl]
      · simp [hres]
    · rw [← Source.replies, ← hids] at hres
      rw [htr]
      refine ⟨⟨hq, hs, .ended rfl ?_ hres htally ⟨haloft.balance, haloft.peak⟩⟩, fun r' => ?_⟩
      · show s.nextLook? ask src a.journal.looks = _
        rw [looks, Settings.nextLook?_of_resolved (hids ▸ hres)]
      · simp [hres]

theorem History.measure (h : History s ask src a) (m : Metric) :
    History s ask src { a with journal := a.journal.measure m } := by
  obtain ⟨hq, hs, hst⟩ := h
  refine ⟨hq, hs, ?_⟩
  cases hst with
  | resting activity next tally aloft =>
    exact .resting activity next tally ⟨aloft.balance, aloft.peak⟩
  | asking looks activity tally aloft =>
    exact .asking looks activity tally ⟨aloft.balance, aloft.peak⟩
  | ended activity next resolved tally aloft =>
    exact .ended activity next resolved tally ⟨aloft.balance, aloft.peak⟩

section Counts

variable {a : Attempts σ}

theorem History.identifierRetries_eq (h : History s ask src a) :
    a.inquiry.tally.identifierRetries = a.journal.looks.countP (·.found.isNone) := by
  cases h.stage with
  | resting _ _ tally | asking _ _ tally | ended _ _ _ tally => rw [tally, Settings.tally]

theorem History.identifiers_eq (h : History s ask src a) :
    a.journal.queries.map (·.2) = Look.identifiers a.journal.looks := by
  rw [h.queries, List.map_filterMap, Look.identifiers]
  congr 1
  funext l
  rw [Look.query?]
  cases l.found <;> rfl

theorem History.queries_eq (h : History s ask src a) :
    a.inquiry.tally.queries = a.journal.queries.length := by
  have hlength := congrArg List.length h.identifiers_eq
  rw [List.length_map] at hlength
  cases h.stage with
  | resting _ _ tally | asking _ _ tally | ended _ _ _ tally => rw [tally, hlength, Settings.tally]

/-- A look that attempts have due is the next one. -/
theorem History.nextLook?_of_resting (h : History s ask src a) (hr : a.isResting = true)
    {nowMs : Nat} (due : a.due? = some nowMs) :
    s.nextLook? ask src a.journal.looks = some nowMs := by
  cases h.stage with
  | resting activity next =>
    rw [next]
    simpa [due?, activity] using due
  | asking _ activity | ended activity => simp [isResting, activity] at hr

/-- Attempts are over where their latest reply resolved them. -/
theorem History.resolved (h : History s ask src a) (hover : a.activity = .ended) :
    ∃ r, s.resolution? (ask.replies src (Look.identifiers a.journal.looks)) = some r := by
  cases h.stage with
  | resting activity | asking _ activity => rw [hover] at activity; cases activity
  | ended _ _ resolved => exact ⟨_, resolved⟩

theorem History.peak (h : History s ask src a) : Journal.peak a.journal.flights ≤ 1 := by
  cases h.stage with
  | resting _ _ _ aloft | asking _ _ _ aloft | ended _ _ _ _ aloft => exact aloft.peak

end Counts

/-- What is due keeps the history, and resolves the attempts exactly where the history is resolved
and they are over. -/
theorem History.act {identifier : Option String} {r : Option Transition}
    (h : History s ask src a) (due : a.due? = some nowMs)
    (eq : act s ask a nowMs identifier = (b, r)) :
    History s ask src b ∧ ∀ x, r = some (.resolve x) ↔
      b.activity = .ended ∧
        s.resolution? (ask.replies src (Look.identifiers b.journal.looks)) = some x := by
  cases act_acts eq with
  | miss rests => exact ⟨h.miss rests nowMs, fun x => by simp [Attempts.miss]⟩
  | @launch id rests => exact ⟨h.launch rests nowMs id, fun x => by simp [Attempts.launch]⟩
  | @answer id _ _ rests atOnce launched replied =>
    subst launched replied
    have := (h.launch rests nowMs id).complete rfl atOnce
    exact ⟨this.1, fun x => by simpa using this.2 x⟩
  | @complete _ sinceMs answer asks =>
    obtain ⟨l, hl, rfl⟩ : ∃ l, answer.latencyMs = some l ∧ sinceMs + l = nowMs := by
      simpa [due?, asks] using due
    have := h.complete asks hl
    exact ⟨this.1, fun x => by simpa using this.2 x⟩
  | ended ended => simp [due?, ended] at due

/-! ## Attempts that are given up -/

theorem abandon_inquiry (a : Attempts σ) : a.abandon.inquiry = a.inquiry := by
  unfold abandon; split <;> rfl

theorem abandon_source (a : Attempts σ) : a.abandon.source = a.source := by
  unfold abandon; split <;> rfl

theorem abandon_looks (a : Attempts σ) : a.abandon.journal.looks = a.journal.looks := by
  unfold abandon; split <;> rfl

theorem abandon_queries (a : Attempts σ) : a.abandon.journal.queries = a.journal.queries := by
  unfold abandon; split <;> rfl

/-- A query that is in flight when the attempts are given up is dropped. -/
theorem History.abandon_aloft (h : History s ask src a) : a.abandon.journal.Aloft 0 := by
  cases h.stage with
  | resting activity _ _ aloft => simpa [abandon, activity] using aloft
  | asking _ activity _ aloft => simpa [abandon, activity] using aloft.land
  | ended activity _ _ _ aloft => simpa [abandon, activity] using aloft

end Attempts

end History

end ApprovalWatch
