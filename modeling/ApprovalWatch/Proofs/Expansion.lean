import ApprovalWatch.Proofs.Authority
import ApprovalWatch.Proofs.Evidence
import ApprovalWatch.Proofs.Likeness

/-!
# Whether there is a URL to ask

Valid settings have a base URL that can be read. Whether the queries of a session have a URL as well
is left to the path, which is read as a reference: it fails if it announces an authority and spells
one that cannot be read. The identifier has no say in it.

Main results:

* `Settings.url_eq_error_iff`: what is wrong with the URL of valid settings.
* `Http.Client.ask_eq_endpoint_iff`: a reply says that there is no URL only if there is none.
* `Session.expands`: either every query of a session has a URL, or none has.
* `Session.not_expands`: valid settings may have no URL for any query.
-/

namespace ApprovalWatch

/-! ## Paths that lead nowhere -/

/-- The path announces an authority that cannot be read with the scheme of the base URL. -/
def Endpoint.Misdirected (e : Endpoint) (error : Url.Error) : Prop :=
  ∃ b text, Url.parse e.baseUrl = .ok b ∧
    Url.announced? (Url.clean e.path.toList) = some text ∧
    Url.readFromAuthority .special b.scheme text = .error error

section Endpoint

variable {e : Endpoint} {identifier : String} {error : Url.Error}

theorem Endpoint.statusUrl_eq_error_iff :
    e.statusUrl identifier = .error error ↔ e.url = .error error := by
  rw [statusUrl]
  cases e.url with
  | error error' => exact Iff.rfl
  | ok u =>
    constructor
    · rintro ⟨⟩
    · rintro ⟨⟩

end Endpoint

namespace Settings

variable {s : Settings}

/-- The path of valid settings is read relative to their base URL. -/
theorem url_eq_readRelative (valid : s.validate = .ok ()) :
    ∃ b ss r, Url.parse s.endpoint.baseUrl = .ok b ∧
      Url.clean s.endpoint.path.toList = '/' :: r ∧
      s.endpoint.url = Url.readRelative .special b ss ('/' :: r) := by
  obtain ⟨b, ss, hb, hpath, special⟩ := Endpoint.parse_baseUrl (baseUrlFault?_of_valid valid)
  obtain ⟨cs, hcs⟩ := path_of_valid valid
  obtain ⟨r, hr⟩ := Url.clean_cons_slash cs
  refine ⟨b, ss, r, hb, hcs ▸ hr, ?_⟩
  rw [Endpoint.url, hb, ← hr, ← hcs]
  exact Url.join_cons_slash hcs hpath special

/-- All that can be wrong with the URL of valid settings is the authority that their path spells. -/
theorem url_eq_error_iff (valid : s.validate = .ok ()) {error : Url.Error} :
    s.endpoint.url = .error error ↔ s.endpoint.Misdirected error := by
  obtain ⟨b, ss, r, hb, hr, hurl⟩ := url_eq_readRelative valid
  rw [hurl]
  constructor
  · intro herror
    cases hannounced : Url.announced? ('/' :: r) with
    | none =>
      obtain ⟨u, hu, -, -⟩ := Url.readRelative_of_path b ss hannounced
      rw [hu] at herror
      cases herror
    | some text =>
      rw [Url.readRelative_of_announced hannounced] at herror
      exact ⟨b, text, hb, by rw [hr, hannounced], herror⟩
  · rintro ⟨b', text, hb', hannounced, hread⟩
    obtain rfl : b = b' := Except.ok.inj (hb.symm.trans hb')
    rw [hr] at hannounced
    rw [Url.readRelative_of_announced hannounced, hread]

end Settings

/-! ## Replies without a query -/

/-- What is replied to queries is replied to one of them. -/
theorem Source.mem_replies {σ : Type} {ask : Source σ} {src : σ} {ids : List String} {r : Reply}
    (h : r ∈ ask.replies src ids) : ∃ p id, r = (ask p id).1.reply := by
  induction ids with
  | nil => cases h
  | cons id ids ih =>
    rw [Source.replies] at h
    rcases List.mem_cons.mp h with rfl | h
    · exact ⟨_, id, rfl⟩
    · exact ih h

theorem Attempts.mem_replied {σ : Type} {ask : Source σ} {src : σ} {a : Attempts σ} {r : Reply}
    (h : r ∈ a.replied ask src) : ∃ p id, r = (ask p id).1.reply := by
  unfold replied at h
  split at h
  · exact Source.mem_replies h
  · exact Source.mem_replies h

namespace Http

/-- Whatever is reported of a fetch, there was a URL to fetch. -/
theorem Report.reply_ne_endpoint (report : Report) (error : Url.Error) :
    report.reply ≠ .error (.endpoint error) := by
  cases report with
  | error => rintro ⟨⟩
  | response status content =>
    simp only [reply, Reply.ofBody]
    repeat' split
    all_goals rintro ⟨⟩

namespace Client

variable {σ : Type} {client : Client σ} {e : Endpoint} {src : σ} {error : Url.Error}

theorem ask_eq_endpoint_iff {identifier : String} :
    (client.ask e src identifier).1.reply = .error (.endpoint error) ↔ e.url = .error error := by
  have hurl : e.statusUrl identifier = .error error ↔ e.url = .error error :=
    Endpoint.statusUrl_eq_error_iff
  rw [← hurl, ask]
  cases e.statusUrl identifier with
  | error error' => simp
  | ok u => simpa using Report.reply_ne_endpoint _ error

/-- Nothing is fetched for want of a URL. -/
theorem after_ask_of_error (h : e.url = .error error) (ids : List String) :
    (client.ask e).after src ids = src := by
  induction ids with
  | nil => rfl
  | cons id ids ih =>
    have hid : e.statusUrl id = .error error := Endpoint.statusUrl_eq_error_iff.mpr h
    rw [Source.after, ih, ask, hid]

end Client

end Http

/-! ## Sessions of valid settings -/

namespace Session

variable {σ : Type} {client : Http.Client σ} {c : Scenario σ} {t : Session σ} {error : Url.Error}

/-- Without a URL, a session can only run out of time or of attempts. -/
theorem Reaches.concluded_of_error
    (h : Reaches (client.ask c.settings.endpoint) c t)
    (herror : c.settings.endpoint.url = .error error) {k : Conclusion}
    (hk : t.latch.get? = some k) :
    k = c.settings.failed .deadlineExceeded ∨ k = c.settings.failed .transportExhausted := by
  -- every reply tells of the error, and so none of a status
  have hreplies : ∀ status, .ok status ∉ (client.ask c.settings.endpoint).replies
      c.source (Look.identifiers t.attempts.journal.looks) := by
    intro status hmem
    obtain ⟨p, id, hreply⟩ := Source.mem_replies hmem
    rw [Http.Client.ask_eq_endpoint_iff.mpr herror] at hreply
    cases hreply
  rcases h.concluded hk with hdeadline | ⟨r, rfl, -, hresolution⟩
  · exact .inl hdeadline
  · cases r with
    | success status =>
      obtain ⟨earlier, heq⟩ := Settings.resolution?_success hresolution
      rw [heq] at hreplies
      exact absurd List.mem_cons_self (hreplies _)
    | failure reason =>
      cases reason with
      | terminalStatus status =>
        obtain ⟨earlier, heq, -, -⟩ := Settings.resolution?_terminalStatus hresolution
        rw [heq] at hreplies
        exact absurd List.mem_cons_self (hreplies _)
      | deadlineExceeded => exact .inl rfl
      | transportExhausted => exact .inr rfl

/-- **Whether there is a URL to ask.** Valid settings have a URL for every identifier, unless their
path announces an authority that cannot be read. Then there is none for any identifier: this is all
that a session gets for replies, its client never fetches anything, and the session can only run
out of time or of attempts. No session gets such a reply otherwise. -/
theorem expands (valid : c.settings.validate = .ok ()) :
    ((∀ error, ¬ c.settings.endpoint.Misdirected error) →
      ∀ identifier, ∃ u, c.settings.endpoint.statusUrl identifier = .ok u) ∧
    (∀ error, c.settings.endpoint.Misdirected error →
      ∀ identifier, c.settings.endpoint.statusUrl identifier = .error error) ∧
    ∀ t, Reaches (client.ask c.settings.endpoint) c t → ∀ error,
      (∀ r ∈ t.attempts.replied (client.ask c.settings.endpoint) c.source,
        r = .error (.endpoint error) ↔ c.settings.endpoint.Misdirected error) ∧
      (c.settings.endpoint.Misdirected error → t.attempts.source = c.source ∧
        ∀ k, t.latch.get? = some k →
          k = c.settings.failed .deadlineExceeded ∨
            k = c.settings.failed .transportExhausted) := by
  refine ⟨?_, ?_, ?_⟩
  · intro readable identifier
    cases hu : c.settings.endpoint.statusUrl identifier with
    | ok u => exact ⟨u, rfl⟩
    | error error =>
      have herror := Endpoint.statusUrl_eq_error_iff.mp hu
      exact absurd ((Settings.url_eq_error_iff valid).mp herror) (readable error)
  · intro error h identifier
    exact Endpoint.statusUrl_eq_error_iff.mpr ((Settings.url_eq_error_iff valid).mpr h)
  · intro t ht error
    refine ⟨?_, ?_⟩
    · intro r hr
      obtain ⟨p, id, rfl⟩ := Attempts.mem_replied hr
      rw [Http.Client.ask_eq_endpoint_iff, Settings.url_eq_error_iff valid]
    · intro h
      have herror := (Settings.url_eq_error_iff valid).mpr h
      refine ⟨?_, fun k hk => ht.concluded_of_error herror hk⟩
      rw [ht.history.source, Http.Client.after_ask_of_error herror]

/-- A session whose path is two slashes, with nothing between or after them. -/
def lost : Scenario Http.Peer where
  settings :=
    { endpoint := { path := "//" }
      retry := { delayMs := 500, maxConsecutiveFailures := some 2 } }
  page := { inputs := [("pushAuthPushId", "p-1")] }
  source := { host := .name "localhost".toList, port := 8080, conducts := [.close] }

theorem lost_valid : lost.settings.validate = .ok () :=
  Settings.validate_eq_ok_iff.mpr (by decide +kernel)

theorem lost_url : lost.settings.endpoint.url = .error .emptyHost := by
  decide +kernel

theorem expands_lost :
    (∀ identifier, lost.settings.endpoint.statusUrl identifier = .error .emptyHost) ∧
    ∃ t, advance Order.usual (Http.ask lost.settings.endpoint) 2 (start lost) =
        some t ∧
      t.latch.get? = some (lost.settings.failed .transportExhausted) ∧
      t.attempts.source = lost.source := by
  have hend : (advance Order.usual (Http.ask lost.settings.endpoint) 2
      (start lost)).map (·.latch.get?) =
        some (some (lost.settings.failed .transportExhausted)) := by
    decide +kernel
  obtain ⟨t, ht, hlatch⟩ := Option.map_eq_some_iff.mp hend
  obtain ⟨-, hurls, hsessions⟩ :=
    @expands Http.Peer (Http.client lost.settings.endpoint) lost lost_valid
  have misdirected := (Settings.url_eq_error_iff lost_valid).mp lost_url
  obtain ⟨-, hunasked⟩ := hsessions t (Reaches.start.advance ht) .emptyHost
  exact ⟨hurls .emptyHost misdirected, t, ht, hlatch, (hunasked misdirected).1⟩

/-- Valid settings may have no URL for any query. -/
theorem not_expands :
    ¬ ∀ (s : Settings) (identifier : String), s.validate = .ok () →
      ∃ u, s.endpoint.statusUrl identifier = .ok u := by
  intro h
  obtain ⟨u, hu⟩ := h lost.settings "p-1" lost_valid
  rw [Endpoint.statusUrl_eq_error_iff.mpr lost_url] at hu
  cases hu

end Session

end ApprovalWatch
