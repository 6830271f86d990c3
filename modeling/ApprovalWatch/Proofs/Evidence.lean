import ApprovalWatch.Http.StatusQuery
import ApprovalWatch.Proofs.Effect
import ApprovalWatch.Proofs.Schedule

/-!
# The evidence for a conclusion

A session that asks over HTTP concludes with a status only if that very status was given to it, in a
complete response of success. Whatever else becomes of a query is one failure of it. The client and
all that it reaches are arbitrary, as long as the client reports errors as such.

Main results:

* `Client.Faithful.toOption_reply`: the status in a reply is the one that was given.
* `finishes_told`: a finished session was told what it concludes with.
-/

namespace ApprovalWatch

/-! ## Statuses on the wire -/

namespace Http

/-- The status that a fetch gives: the one in the body of a response of success, if all of it
came. -/
def Fetched.status? : Fetched → Option String
  | .response r => if r.isSuccess && r.complete then StatusBody.read? r.body else none
  | .failed | .unanswered => none

theorem toOption_ofBody (body : List UInt8) :
    (Reply.ofBody body).toOption = StatusBody.read? body := by
  unfold Reply.ofBody
  split
  · rename_i h
    rw [h]
    rfl
  · rename_i h
    rw [h]
    rfl

theorem Fetched.status?_eq_some {f : Fetched} {status : String} (h : f.status? = some status) :
    ∃ r, f = .response r ∧ r.isSuccess = true ∧ r.complete = true ∧
      StatusBody.read? r.body = some status := by
  cases f with
  | failed | unanswered => cases h
  | response r =>
    simp only [status?] at h
    split at h
    · rename_i hr
      rw [Bool.and_eq_true] at hr
      exact ⟨r, rfl, hr.1, hr.2, h⟩
    · cases h

/-- What is reported of a response that is none of success, or has no content that can be read, is a
failure. -/
theorem Report.toOption_reply (status : Nat) (content : Option (List UInt8)) :
    (Report.response status content).reply.toOption =
      if 200 ≤ status && status ≤ 299 then content.bind StatusBody.read? else none := by
  simp only [reply]
  split
  · cases content with
    | none => rfl
    | some body => exact toOption_ofBody body
  · rfl

namespace Client

variable {σ : Type} {k : Client σ} {e : Endpoint} {src : σ} {u : Url}

/-- The status that is given to a query about an identifier. -/
def status? (k : Client σ) (e : Endpoint) (src : σ) (identifier : String) : Option String :=
  (e.statusUrl identifier).toOption.bind fun u => (k.fetch src u).1.status?

/-- What is given to queries about one identifier after the other, the latest first. -/
def told (k : Client σ) (e : Endpoint) (src : σ) : List String → List (Option String)
  | [] => []
  | id :: earlier => k.status? e ((k.ask e).after src earlier) id :: told k e src earlier

/-- What is reported has the status that was given. -/
theorem Faithful.toOption_reply (faithful : k.Faithful) :
    (k.report src u).reply.toOption = (k.fetch src u).1.status? := by
  cases hfetch : (k.fetch src u).1 with
  | failed =>
    rw [faithful.failed hfetch]
    rfl
  | unanswered =>
    rw [faithful.unanswered hfetch]
    rfl
  | response r =>
    cases hcomplete : r.complete with
    | true =>
      rw [faithful.complete hfetch hcomplete, Report.toOption_reply, Fetched.status?, hcomplete,
        Bool.and_true, Response.isSuccess]
      rfl
    | false =>
      have hnone : (Fetched.response r).status? = none := by
        rw [Fetched.status?, hcomplete, Bool.and_false, if_neg Bool.false_ne_true]
      rw [hnone]
      rcases faithful.short hfetch hcomplete with hreport | hreport
      · rw [hreport]
        rfl
      · rw [hreport, Report.toOption_reply]
        exact ite_self _

theorem Faithful.toOption_ask (faithful : k.Faithful) (identifier : String) :
    (k.ask e src identifier).1.reply.toOption = k.status? e src identifier := by
  unfold ask status?
  cases e.statusUrl identifier with
  | error => rfl
  | ok u => exact faithful.toOption_reply

/-- Replies have the statuses that were told, and no others. -/
theorem Faithful.map_toOption_replies (faithful : k.Faithful) (ids : List String) :
    ((k.ask e).replies src ids).map Except.toOption = k.told e src ids := by
  induction ids with
  | nil => rfl
  | cons id ids ih =>
    rw [Source.replies, List.map_cons, ih, Source.answer, faithful.toOption_ask, told]

/-- A status that is told is in a complete response of success. -/
theorem exists_response {identifier status : String}
    (h : k.status? e src identifier = some status) :
    ∃ u r, e.statusUrl identifier = .ok u ∧
      k.fetch src u = (.response r, (k.ask e src identifier).2) ∧
      r.isSuccess = true ∧ r.complete = true ∧ StatusBody.read? r.body = some status := by
  unfold status? at h
  unfold ask
  cases hu : e.statusUrl identifier with
  | error =>
    rw [hu] at h
    cases h
  | ok u =>
    rw [hu] at h
    obtain ⟨r, hr, hsuccess, hcomplete, hbody⟩ := Fetched.status?_eq_some h
    exact ⟨u, r, rfl, Prod.ext hr rfl, hsuccess, hcomplete, hbody⟩

end Client

end Http

/-! ## What is counted -/

theorem Reply.isFailure_eq (r : Reply) : r.isFailure = r.toOption.isNone := by
  cases r <;> rfl

theorem Settings.isPending_eq (s : Settings) (r : Reply) :
    s.isPending r = r.toOption.any fun status =>
      status ≠ s.statuses.success ∧ status ∉ s.statuses.terminalFailures := by
  cases r <;> rfl

/-- All queries but the latest are answered, and the latest is if the attempts do not wait for it.
What is counted are the replies to those that are answered. -/
theorem Attempts.History.answered {σ : Type} {s : Settings} {ask : Source σ} {src : σ}
    {a : Attempts σ} (h : History s ask src a) :
    ∃ dropped answered, Look.identifiers a.journal.looks = dropped ++ answered ∧
      a.inquiry.tally = s.tally a.journal.looks (ask.replies src answered) ∧
      (dropped = [] ∨ ∃ sinceMs id earlier, dropped = [id] ∧
        a.journal.looks = ⟨sinceMs, some id⟩ :: earlier ∧
        a.activity = .asking sinceMs (ask.answer src id answered)) := by
  cases h.stage with
  | resting _ _ tally | ended _ _ _ tally => exact ⟨[], _, rfl, tally, .inl rfl⟩
  | @asking sinceMs id earlier looks activity tally =>
    exact ⟨[id], Look.identifiers earlier, by rw [looks]; rfl, tally,
      .inr ⟨sinceMs, id, earlier, rfl, looks, activity⟩⟩

namespace Session

/-! ## Sessions over HTTP -/

section Http

variable {σ : Type} {client : Http.Client σ} {c : Scenario σ} {t : Session σ}

/-- This status was given to the last query of a session, after all others: what was fetched for it
ended in a response of success whose body, which came completely, has it. -/
def Told (client : Http.Client σ) (c : Scenario σ) (t : Session σ) (status : String) : Prop :=
  ∃ atMs id earlier u r,
    t.attempts.journal.queries = (atMs, id) :: earlier ∧
    c.settings.endpoint.statusUrl id = .ok u ∧
    client.fetch ((client.ask c.settings.endpoint).after c.source (earlier.map (·.2))) u =
      (.response r, t.attempts.source) ∧
    200 ≤ r.status ∧ r.status ≤ 299 ∧ r.complete = true ∧
    StatusBody.read? r.body = some status

/-- The latest reply tells what was told. -/
theorem Reaches.told (faithful : client.Faithful)
    (h : Reaches (client.ask c.settings.endpoint) c t) {status : String} {earlier : List Reply}
    (replies : (client.ask c.settings.endpoint).replies c.source
      (Look.identifiers t.attempts.journal.looks) = .ok status :: earlier) :
    Told client c t status := by
  have hids := h.history.identifiers_eq
  have hsource := h.history.source
  cases hqueries : t.attempts.journal.queries with
  | nil =>
    rw [← hids, hqueries] at replies
    cases replies
  | cons query queries =>
    obtain ⟨atMs, id⟩ := query
    rw [← hids, hqueries, List.map_cons] at replies hsource
    have hstatus : client.status? c.settings.endpoint
        ((client.ask c.settings.endpoint).after c.source (queries.map (·.2))) id = some status := by
      rw [← faithful.toOption_ask, ← Source.answer, (List.cons.inj replies).1]
      rfl
    obtain ⟨u, r, hu, hfetch, hsuccess, hcomplete, hbody⟩ := Http.Client.exists_response hstatus
    rw [Source.after] at hsource
    rw [← hsource] at hfetch
    simp only [Http.Response.isSuccess, Bool.and_eq_true, decide_eq_true_eq] at hsuccess
    exact ⟨atMs, id, queries, u, r, hqueries, hu, hfetch, hsuccess.1, hsuccess.2, hcomplete, hbody⟩

theorem Told.close {status : String} (h : Told client c t status) :
    Told client c t.close status := by
  unfold Told at h ⊢
  rw [close_attempts, Attempts.abandon_queries, Attempts.abandon_source]
  exact h

/-- **No spurious outcome.** Whatever is reached by a client that reports errors as such, the form
is submitted only if the status that means success was given to the last query, and the session
fails because of a status only if that one was given, which means failure. Of the queries that were
answered, those to which no status was given, whatever else became of them, are counted as failures,
once each, and are never counted as responses. All queries were answered, unless the session ended
by the time of the last answer. -/
theorem finishes_told {order : Order} (faithful : client.Faithful)
    (h : Finishes order (client.ask c.settings.endpoint) c t) :
    (∀ form, .submit form ∈ t.actions → Told client c t c.settings.statuses.success) ∧
    (∀ status location,
      (report c t).conclusion = some (.failed (.terminalStatus status) location) →
        status ∈ c.settings.statuses.terminalFailures ∧ status ≠ c.settings.statuses.success ∧
          Told client c t status) ∧
    ∃ dropped answered,
      t.attempts.journal.queries.map (·.2) = dropped ++ answered ∧
      (report c t).tally.transientFailures =
        (client.told c.settings.endpoint c.source answered).countP (·.isNone) ∧
      (report c t).tally.pendingResponses =
        (client.told c.settings.endpoint c.source answered).countP (·.any fun status =>
          status ≠ c.settings.statuses.success ∧
            status ∉ c.settings.statuses.terminalFailures) ∧
      (dropped = [] ∨ ∃ atMs id, dropped = [id] ∧
        t.attempts.journal.queries.head? = some (atMs, id) ∧
        ∀ answerMs, ((client.ask c.settings.endpoint).answer c.source id
          answered).latencyMs = some answerMs → (report c t).elapsedMs ≤ atMs + answerMs) := by
  obtain ⟨v, hv, -, rfl⟩ := h.reaches
  refine ⟨?_, ?_, ?_⟩
  · intro form hsubmit
    rw [close_actions, hv.agrees.actions] at hsubmit
    obtain ⟨k, hk, haction⟩ := Option.map_eq_some_iff.mp (Option.mem_toList.mp hsubmit)
    rcases hv.concluded hk with rfl | ⟨r, rfl, -, hresolution⟩
    · cases haction
    · cases r with
      | failure reason => cases haction
      | success status =>
        obtain ⟨earlier, hreplies⟩ := Settings.resolution?_success hresolution
        exact (hv.told faithful hreplies).close
  · intro status location hconclusion
    rw [report, close_latch] at hconclusion
    rcases hv.concluded hconclusion with hk | ⟨r, hk, -, hresolution⟩
    · cases hk
    · cases r with
      | success _ => cases hk
      | failure reason =>
        cases hk
        obtain ⟨earlier, hreplies, hterminal, hne⟩ :=
          Settings.resolution?_terminalStatus hresolution
        exact ⟨hterminal, hne, (hv.told faithful hreplies).close⟩
  · obtain ⟨dropped, answered, hids, htally, hdropped⟩ := hv.history.answered
    refine ⟨dropped, answered, ?_, ?_, ?_, ?_⟩
    · rw [close_attempts, Attempts.abandon_queries, hv.history.identifiers_eq, hids]
    · rw [report, close_attempts, Attempts.abandon_inquiry, htally, Settings.tally,
        ← faithful.map_toOption_replies, List.countP_map]
      exact List.countP_congr fun r _ => by rw [Reply.isFailure_eq]; rfl
    · rw [report, close_attempts, Attempts.abandon_inquiry, htally, Settings.tally,
        ← faithful.map_toOption_replies, List.countP_map]
      exact List.countP_congr fun r _ => by rw [Settings.isPending_eq]; rfl
    · rcases hdropped with hnil | ⟨sinceMs, id, earlier, rfl, hlooks, hactivity⟩
      · exact .inl hnil
      · refine .inr ⟨sinceMs, id, rfl, ?_, ?_⟩
        · rw [close_attempts, Attempts.abandon_queries, hv.history.queries, hlooks,
            List.filterMap_cons_some (Look.query?_some sinceMs id)]
          rfl
        · intro answerMs hanswer
          rw [report, close_nowMs]
          exact hv.le_due (by simp [Attempts.due?, hactivity, hanswer])

/-- A session whose peer sends an approval with a status of failure, then closes the connection, and
then sends on to another host over a secure connection, where it approves. -/
def doubtful : Scenario Http.Peer where
  settings :=
    { endpoint := { baseUrl := "http://127.0.0.1:8080" }
      deadline := { enabled := false } }
  page := { inputs := [("pushAuthPushId", "p-1")] }
  source :=
    { host := .ipv4 0x7f000001
      port := 8080
      others := [⟨true, .ipv4 0x7f000002, 443⟩]
      conducts :=
        [.respond { status := 500, body := Utf8.encode "[\"APPROVED\"]".toList }, .close,
          .respond { status := 302, location := some "https://127.0.0.2/" },
          .respond { body := Utf8.encode "[\"APPROVED\"]".toList }] }

theorem finishes_told_doubtful :
    ∃ t, Finishes Order.usual (Http.ask doubtful.settings.endpoint) doubtful t ∧
      Told (Http.client doubtful.settings.endpoint) doubtful t "APPROVED" := by
  have hactions : (run Order.usual (Http.ask doubtful.settings.endpoint) 8
      (start doubtful)).map (·.actions) = some [.submit "push-approve-form"] := by
    decide +kernel
  obtain ⟨t, ht, hactions⟩ := Option.map_eq_some_iff.mp hactions
  have finishes : Finishes Order.usual (Http.ask doubtful.settings.endpoint) doubtful t := ⟨8, ht⟩
  obtain ⟨htold, -⟩ := finishes_told (Http.client_faithful doubtful.settings.endpoint) finishes
  exact ⟨t, finishes, htold "push-approve-form" (by rw [hactions]; decide)⟩

end Http

end Session

end ApprovalWatch
