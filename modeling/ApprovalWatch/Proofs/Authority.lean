import ApprovalWatch.Proofs.Rules

/-!
# Whom queries are sent to

The URL of a query is read relative to the base URL of the settings. The path of the settings is
appended to its authority, unless the path begins with two slashes: then it is a reference that
names an authority of its own, and queries go there. Tabs and line breaks do not keep the slashes
apart, and a backslash is as good as a slash.

Main results:

* `readRelative_of_path`, `readRelative_of_announced`: the two meanings of a reference that begins
  with a slash.
* `Settings.statusUrl_sameOrigin`: the scheme, the host and the port of a query.
* `Settings.not_statusUrl_sameOrigin`: valid settings may send queries to a foreign host.
-/

namespace ApprovalWatch

theorem exists_ok_of_bind {ε α β : Type} {x : Except ε α} {f : α → Except ε β} {b : β}
    (h : x >>= f = .ok b) : ∃ a, x = .ok a ∧ f a = .ok b := by
  cases x with
  | error => cases h
  | ok a => exact ⟨a, rfl, h⟩

namespace Url

/-! ## References that announce an authority -/

/-- A character that is read as a slash in a URL with a special scheme. -/
def isSlash (c : Char) : Bool :=
  c = '/' || c = '\\'

/-- What follows the two slashes with which a reference announces an authority. -/
def announced? : List Char → Option (List Char)
  | '/' :: '/' :: r => some r
  | '/' :: '\\' :: r => some (r.dropWhile isSlash)
  | _ => none

/-- A slash in front is neither blank nor left out. -/
theorem clean_cons_slash (cs : List Char) : ∃ r, clean ('/' :: cs) = '/' :: r := by
  unfold clean
  dsimp only
  rw [List.dropWhile_cons_of_neg (by decide), List.reverse_cons, List.dropWhile_append]
  split
  · exact ⟨[], by decide⟩
  · rw [List.reverse_append, List.reverse_singleton, List.singleton_append,
      List.filter_cons_of_pos (by decide)]
    exact ⟨_, rfl⟩

theorem scheme?_cons_slash (cs : List Char) : scheme? ('/' :: cs) = none :=
  rfl

/-! ## Origins -/

/-- Two URLs have the scheme, the host and the port in common. -/
def SameOrigin (u v : Url) : Prop :=
  u.scheme = v.scheme ∧ u.host? = v.host? ∧ u.port? = v.port?

theorem SameOrigin.of_authority {u v : Url} (hscheme : u.scheme = v.scheme)
    (hauthority : u.authority = v.authority) : u.SameOrigin v :=
  ⟨hscheme, by rw [host?, host?, hauthority], by rw [port?, port?, hauthority]⟩

/-! ## Reading an authority -/

section WithRest

variable (kind : SchemeKind) (u : Url) (cs : List Char)

@[simp] theorem withRest_scheme : (withRest kind u cs).scheme = u.scheme := by
  unfold withRest; dsimp only; split <;> rfl

@[simp] theorem withRest_authority : (withRest kind u cs).authority = u.authority := by
  unfold withRest; dsimp only; split <;> rfl

end WithRest

theorem readFromAuthority_scheme {kind : SchemeKind} {scheme cs : List Char} {u : Url}
    (h : readFromAuthority kind scheme cs = .ok u) : u.scheme = scheme := by
  unfold readFromAuthority at h
  obtain ⟨⟨authority, left⟩, -, h⟩ := exists_ok_of_bind h
  cases h
  exact withRest_scheme _ _ _

/-! ## The two meanings of a reference -/

section Reference

variable {b u : Url} {ss : List (List Char)} {r text : List Char}

/-- An authority that is announced is read with the scheme of the base, and nothing else of it. -/
theorem readRelative_of_announced (h : announced? ('/' :: r) = some text) :
    readRelative .special b ss ('/' :: r) = readFromAuthority .special b.scheme text := by
  unfold announced? at h
  split at h
  · rename_i heq
    cases h
    cases heq
    rfl
  · rename_i heq
    cases h
    cases heq
    rfl
  · cases h

theorem not_isSlash_of_announced?_eq_none (h : announced? ('/' :: r) = none) :
    r.head?.any isSlash = false := by
  cases r with
  | nil => rfl
  | cons c r =>
    have hslash : c ≠ '/' := by
      rintro rfl
      cases h
    have hback : c ≠ '\\' := by
      rintro rfl
      cases h
    simp [isSlash, hslash, hback]

/-- Any other reference is a path beneath the authority of the base. -/
theorem readRelative_of_path (b : Url) (ss : List (List Char)) (h : announced? ('/' :: r) = none) :
    ∃ u, readRelative .special b ss ('/' :: r) = .ok u ∧ u.scheme = b.scheme ∧
      u.authority = b.authority := by
  have hnot := not_isSlash_of_announced?_eq_none h
  unfold isSlash at hnot
  unfold readRelative
  split
  · rename_i heq; cases heq
  · rename_i heq; cases heq
  · rename_i heq; cases heq
  · rename_i heq
    cases heq
    cases h
  · rename_i heq
    cases heq
    simp [hnot]

/-- A reference that begins with a slash is no absolute URL. -/
theorem join_cons_slash {s : String} {cs : List Char} (hs : s.toList = '/' :: cs)
    (hpath : b.path = .segments ss) (special : SchemeKind.of b.scheme = .special) :
    b.join s = readRelative .special b ss (clean s.toList) := by
  obtain ⟨r, hr⟩ := clean_cons_slash cs
  rw [join, hs, hr]
  simp [resolve, scheme?_cons_slash, hpath, special]

end Reference

end Url

/-! ## Valid settings -/

/-- A base URL without a fault has a special scheme, and a path of segments. -/
theorem Endpoint.parse_baseUrl {e : Endpoint} (h : e.baseUrlFault? = none) :
    ∃ b ss, Url.parse e.baseUrl = .ok b ∧ b.path = .segments ss ∧
      Url.SchemeKind.of b.scheme = .special := by
  unfold baseUrlFault? at h
  split at h
  · cases h
  · rename_i b hb
    split at h
    · cases h
    · rename_i hok
      simp only [Bool.or_eq_true, Bool.not_eq_true', not_or, Bool.not_eq_true,
        Bool.not_eq_false, decide_eq_true_eq] at hok
      obtain ⟨hsegments, hscheme⟩ := hok
      cases hpath : b.path with
      | text => simp [Url.isOpaque, hpath] at hsegments
      | segments ss =>
        refine ⟨b, ss, hb, hpath, ?_⟩
        rcases hscheme with h' | h' <;> rw [h'] <;> decide

namespace Settings

theorem baseUrlFault?_of_valid {s : Settings} (valid : s.validate = .ok ()) :
    s.endpoint.baseUrlFault? = none :=
  validate_eq_ok_iff.mp valid _ (by simp [findings])

theorem path_of_valid {s : Settings} (valid : s.validate = .ok ()) :
    ∃ cs, s.endpoint.path.toList = '/' :: cs :=
  holds_of_valid valid .path

/-! ## The URL of a query -/

/-- **Whom queries are sent to.** A query of valid settings has the scheme, the host and the port of
the base URL, for every identifier, unless the path of the settings announces an authority. Then it
has the scheme of the base URL, and the host and the port that the path spells. -/
theorem statusUrl_sameOrigin {s : Settings} (valid : s.validate = .ok ()) :
    ∃ b, Url.parse s.endpoint.baseUrl = .ok b ∧
      ∀ identifier u, s.endpoint.statusUrl identifier = .ok u →
        u.scheme = b.scheme ∧
        (Url.announced? (Url.clean s.endpoint.path.toList) = none → u.SameOrigin b) ∧
        ∀ text, Url.announced? (Url.clean s.endpoint.path.toList) = some text →
          ∃ v, Url.readFromAuthority .special b.scheme text = .ok v ∧ u.SameOrigin v := by
  obtain ⟨b, ss, hb, hpath, special⟩ := Endpoint.parse_baseUrl (baseUrlFault?_of_valid valid)
  obtain ⟨cs, hcs⟩ := path_of_valid valid
  obtain ⟨r, hr⟩ := Url.clean_cons_slash cs
  have hurl : s.endpoint.url = Url.readRelative .special b ss ('/' :: r) := by
    rw [Endpoint.url, hb, ← hr, ← hcs]
    exact Url.join_cons_slash hcs hpath special
  refine ⟨b, hb, fun identifier u hu => ?_⟩
  -- the identifier goes into the query, which has no part in the origin
  obtain ⟨v, hv, heq⟩ := exists_ok_of_bind hu
  cases heq
  rw [hcs, hr]
  cases hannounced : Url.announced? ('/' :: r) with
  | none =>
    obtain ⟨w, hw, hscheme, hauthority⟩ := Url.readRelative_of_path b ss hannounced
    obtain rfl : w = v := Except.ok.inj (hw.symm.trans (hurl.symm.trans hv))
    refine ⟨hscheme, fun _ => Url.SameOrigin.of_authority hscheme hauthority, ?_⟩
    intro _ h
    cases h
  | some text =>
    have hread : Url.readFromAuthority .special b.scheme text = .ok v := by
      rw [← hv, hurl, Url.readRelative_of_announced hannounced]
    have hscheme := Url.readFromAuthority_scheme hread
    refine ⟨hscheme, fun h => ?_, fun text' h => ?_⟩
    · cases h
    · cases h
      exact ⟨v, hread, Url.SameOrigin.of_authority rfl rfl⟩

/-- Valid settings whose base URL has a path and a query of its own. -/
def nested : Settings where
  endpoint := { baseUrl := "http://127.0.0.1:8080/cas?x", path := "/cas//check", idParam := "id" }

theorem statusUrl_sameOrigin_nested :
    ∃ b u, Url.parse nested.endpoint.baseUrl = .ok b ∧
      nested.endpoint.statusUrl "p-1" = .ok u ∧ u.SameOrigin b := by
  obtain ⟨b, hb, horigin⟩ := statusUrl_sameOrigin (s := nested)
    (validate_eq_ok_iff.mpr (by decide +kernel))
  have hok : (nested.endpoint.statusUrl "p-1").isOk = true := by decide +kernel
  cases hu : nested.endpoint.statusUrl "p-1" with
  | error => simp [hu, Except.isOk, Except.toBool] at hok
  | ok u => exact ⟨b, u, hb, rfl, (horigin "p-1" u hu).2.1 (by decide +kernel)⟩

/-- Valid settings whose path begins with two slashes. -/
def elsewhere : Settings where
  endpoint := { baseUrl := "http://127.0.0.1:8080", path := "//127.0.0.2:8080/check" }

/-- Valid settings may send queries to another host than the one of their base URL. -/
theorem not_statusUrl_sameOrigin :
    ¬ ∀ (s : Settings) (b u : Url) (identifier : String), s.validate = .ok () →
      Url.parse s.endpoint.baseUrl = .ok b → s.endpoint.statusUrl identifier = .ok u →
        u.SameOrigin b := by
  intro h
  have valid : elsewhere.validate = .ok () := validate_eq_ok_iff.mpr (by decide +kernel)
  have hhosts : ((elsewhere.endpoint.statusUrl "p-1").toOption.bind Url.host?,
      (Url.parse elsewhere.endpoint.baseUrl).toOption.bind Url.host?) =
        (some (.ipv4 0x7f000002), some (.ipv4 0x7f000001)) := by
    decide +kernel
  cases hb : Url.parse elsewhere.endpoint.baseUrl with
  | error => simp [hb, Except.toOption] at hhosts
  | ok b =>
    cases hu : elsewhere.endpoint.statusUrl "p-1" with
    | error => simp [hu, Except.toOption] at hhosts
    | ok u =>
      obtain ⟨-, hhost, -⟩ := h elsewhere b u "p-1" valid hb hu
      simp only [hb, hu, Except.toOption, Option.bind_some, hhost, Prod.mk.injEq] at hhosts
      exact absurd (hhosts.1.symm.trans hhosts.2) (by decide)

end Settings

end ApprovalWatch
