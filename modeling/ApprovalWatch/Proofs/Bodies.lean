import ApprovalWatch.Proofs.Phrases
import ApprovalWatch.Query

/-!
# Which bodies give a status

A body gives a status if it is one JSON object with one member under `status`, whose value is a
text; the keys of the other members have to be texts that can be read, and their values may be any.
It also gives one if it is an array of one text. No other body does.

Main results:

* `read?_eq_some_iff`: the bodies that give a status.
* `Reply.ofBody_exact`: which bodies are replies, and that all others are malformed.
* `Reply.not_ofBody_object`: a body that is not an object may be a reply.
-/

namespace ApprovalWatch

namespace StatusBody

open Json

/-! ## Members -/

/-- The values of the members whose key spells `status`. -/
def statusValues (ms : List Member) : List (List Token) :=
  (ms.filter fun m => unquote m.key = some "status").map (·.value)

/-- The keys can be read, and there is a value for each of them. -/
structure Readable (ms : List Member) : Prop where
  keys : ∀ m ∈ ms, (unquote m.key).isSome
  values : ∀ m ∈ ms, IsValue m.value

/-- Where a status was found before or not, the members add up to this one. -/
def Yields (found : Option String) (ms : List Member) (s : String) : Prop :=
  (found = some s ∧ statusValues ms = []) ∨
    (found = none ∧ ∃ raw, statusValues ms = [[.text raw]] ∧ unquote raw = some s)

theorem Readable.cons {m : Member} {ms : List Member} (key : (unquote m.key).isSome)
    (value : IsValue m.value) (h : Readable ms) : Readable (m :: ms) :=
  ⟨List.forall_mem_cons.mpr ⟨key, h.keys⟩, List.forall_mem_cons.mpr ⟨value, h.values⟩⟩

theorem readable_nil : Readable [] :=
  ⟨nofun, nofun⟩

theorem statusValues_cons_status {m : Member} (h : unquote m.key = some "status")
    (ms : List Member) : statusValues (m :: ms) = m.value :: statusValues ms := by
  rw [statusValues, List.filter_cons_of_pos (by simpa using h), List.map_cons, statusValues]

theorem statusValues_cons_other {m : Member} (h : unquote m.key ≠ some "status")
    (ms : List Member) : statusValues (m :: ms) = statusValues ms := by
  rw [statusValues, List.filter_cons_of_neg (by simpa using h), statusValues]

theorem commaList_map_cons {m : Member} {ms : List Member} (hne : ms ≠ []) :
    commaList ((m :: ms).map Member.tokens) =
      m.tokens ++ .comma :: commaList (ms.map Member.tokens) := by
  obtain ⟨m', ms, rfl⟩ := List.exists_cons_of_ne_nil hne
  rfl

/-! ## Reading members -/

section Read

variable {found : Option String} {ts : List Token} {s : String}

theorem exists_members (h : readMembers found ts = some s) :
    ∃ ms, ms ≠ [] ∧ Readable ms ∧ Yields found ms s ∧
      ts = commaList (ms.map Member.tokens) ++ [.rightBrace] := by
  fun_induction readMembers found ts with
  | case2 key hkey raw ts ih =>
    obtain ⟨s', hs', h⟩ := Option.bind_eq_some_iff.mp h
    obtain ⟨ms, hne, hms, hyields, rfl⟩ := ih s' h
    obtain ⟨hs, hnone⟩ | ⟨hs, -⟩ := hyields
    · cases hs
      refine ⟨⟨key, [.text raw]⟩ :: ms, List.cons_ne_nil _ _, hms.cons (by simp [hkey]) (.text raw),
        .inr ⟨rfl, raw, ?_, hs'⟩, ?_⟩
      · rw [statusValues_cons_status hkey, hnone]
      · rw [commaList_map_cons hne]
        rfl
    · cases hs
  | case3 key hkey raw =>
    refine ⟨[⟨key, [.text raw]⟩], List.cons_ne_nil _ _,
      readable_nil.cons (by simp [hkey]) (.text raw), .inr ⟨rfl, raw, ?_, h⟩, rfl⟩
    rw [statusValues_cons_status hkey]
    rfl
  | case5 found key ts k hk hkey ts' hskip ih =>
    obtain ⟨ms, hne, hms, hyields, rfl⟩ := ih h
    obtain ⟨v, hv, rfl⟩ := skip_eq_some_iff.mp hskip
    have hother : unquote key ≠ some "status" := by
      rw [hkey]
      exact fun heq => hk (Option.some.inj heq)
    refine ⟨⟨key, v⟩ :: ms, List.cons_ne_nil _ _, hms.cons (by simp [hkey]) hv, ?_, ?_⟩
    · rw [Yields, statusValues_cons_other hother]
      exact hyields
    · rw [commaList_map_cons hne]
      simp [Member.tokens]
  | case6 found key ts k hk hkey hskip =>
    obtain ⟨v, hv, rfl⟩ := skip_eq_some_iff.mp hskip
    have hother : unquote key ≠ some "status" := by
      rw [hkey]
      exact fun heq => hk (Option.some.inj heq)
    refine ⟨[⟨key, v⟩], List.cons_ne_nil _ _, readable_nil.cons (by simp [hkey]) hv,
      .inl ⟨h, ?_⟩, rfl⟩
    rw [statusValues_cons_other hother]
    rfl
  | _ => cases h

theorem readMembers_status {key raw : List UInt8} (hkey : unquote key = some "status") :
    readMembers none (.text key :: .colon :: .text raw :: .comma :: ts) =
      (unquote raw).bind fun s => readMembers (some s) ts := by
  rw [readMembers.eq_def]
  simp only [hkey]

theorem readMembers_lastStatus {key raw : List UInt8} (hkey : unquote key = some "status") :
    readMembers none [.text key, .colon, .text raw, .rightBrace] = unquote raw := by
  rw [readMembers.eq_def]
  simp only [hkey]

theorem readMembers_other {key : List UInt8} {k : String} {v : List Token}
    (hkey : unquote key = some k) (hk : k ≠ "status") (hv : IsValue v) :
    readMembers found (.text key :: .colon :: (v ++ .comma :: ts)) = readMembers found ts := by
  have hskip : skip (v ++ .comma :: ts) = some (.comma :: ts) := skip_eq_some_iff.mpr ⟨v, hv, rfl⟩
  rw [readMembers.eq_def]
  simp only [hkey]
  split
  · rename_i heq
    rw [hskip] at heq
    cases heq
    rfl
  · rename_i heq
    rw [hskip] at heq
    cases heq
  · rename_i hno _
    exact absurd hskip (hno ts)

theorem readMembers_lastOther {key : List UInt8} {k : String} {v : List Token}
    (hkey : unquote key = some k) (hk : k ≠ "status") (hv : IsValue v) :
    readMembers found (.text key :: .colon :: (v ++ [.rightBrace])) = found := by
  have hskip : skip (v ++ [.rightBrace]) = some [.rightBrace] := skip_eq_some_iff.mpr ⟨v, hv, rfl⟩
  rw [readMembers.eq_def]
  simp only [hkey]
  split
  · rename_i heq
    rw [hskip] at heq
    cases heq
  · rfl
  · rename_i hno
    exact absurd hskip hno

/-- Members that can be read give the status that they yield. -/
theorem readMembers_eq_some {ms : List Member} (hne : ms ≠ []) (hms : Readable ms)
    (h : Yields found ms s) :
    readMembers found (commaList (ms.map Member.tokens) ++ [.rightBrace]) = some s := by
  induction ms generalizing found with
  | nil => exact absurd rfl hne
  | cons m ms ih =>
    obtain ⟨key, v⟩ := m
    obtain ⟨hkey, hkeys⟩ := List.forall_mem_cons.mp hms.keys
    obtain ⟨hv, hvalues⟩ := List.forall_mem_cons.mp hms.values
    obtain ⟨k, hkey⟩ := Option.isSome_iff_exists.mp hkey
    by_cases hk : k = "status"
    · subst hk
      -- the status is here: there was none before, and none follows
      rw [Yields, statusValues_cons_status hkey] at h
      obtain ⟨-, hnil⟩ | ⟨rfl, raw, hcons, hs⟩ := h
      · cases hnil
      · obtain ⟨rfl, hnil⟩ := List.cons.inj hcons
        cases ms with
        | nil => exact (readMembers_lastStatus hkey).trans hs
        | cons m ms =>
          rw [commaList_map_cons (List.cons_ne_nil _ _), List.append_assoc]
          refine (readMembers_status hkey).trans ?_
          rw [hs]
          exact ih (List.cons_ne_nil _ _) ⟨hkeys, hvalues⟩ (.inl ⟨rfl, hnil⟩)
    · have hother : unquote key ≠ some "status" := by
        rw [hkey]
        exact fun heq => hk (Option.some.inj heq)
      rw [Yields, statusValues_cons_other hother] at h
      cases ms with
      | nil =>
        obtain ⟨rfl, -⟩ | ⟨-, raw, hcons, -⟩ := h
        · exact readMembers_lastOther hkey hk hv
        · cases hcons
      | cons m ms =>
        rw [commaList_map_cons (List.cons_ne_nil _ _), List.append_assoc]
        refine Eq.trans ?_ (ih (List.cons_ne_nil _ _) ⟨hkeys, hvalues⟩ h)
        exact readMembers_other hkey hk hv

end Read

/-! ## Bodies -/

/-- The bytes are one object: its members can be read, one of them is the status, and its value is
a text that spells this one. -/
def IsObjectWith (body : List UInt8) (s : String) : Prop :=
  ∃ ms raw, Lexes body (objectTokens ms) ∧ Readable ms ∧ statusValues ms = [[.text raw]] ∧
    unquote raw = some s

/-- The bytes are an array of one text, which spells this one. -/
def IsArrayOf (body : List UInt8) (s : String) : Prop :=
  ∃ raw, Lexes body (arrayTokens [[.text raw]]) ∧ unquote raw = some s

theorem readTokens_eq_some_iff {ts : List Token} {s : String} :
    readTokens ts = some s ↔
      (∃ ms raw, ts = objectTokens ms ∧ Readable ms ∧ statusValues ms = [[.text raw]] ∧
        unquote raw = some s) ∨
      ∃ raw, ts = arrayTokens [[.text raw]] ∧ unquote raw = some s := by
  constructor
  · intro h
    unfold readTokens at h
    split at h
    · exact .inr ⟨_, rfl, h⟩
    · obtain ⟨ms, -, hms, hyields, rfl⟩ := exists_members h
      obtain ⟨hnone, -⟩ | ⟨-, raw, hraw, hs⟩ := hyields
      · cases hnone
      · exact .inl ⟨ms, raw, rfl, hms, hraw, hs⟩
    · cases h
  · rintro (⟨ms, raw, rfl, hms, hraw, hs⟩ | ⟨raw, rfl, hs⟩)
    · have hne : ms ≠ [] := by
        rintro rfl
        cases hraw
      exact readMembers_eq_some hne hms (.inr ⟨rfl, raw, hraw, hs⟩)
    · exact hs

/-- **The bodies that give a status** are objects with this status, and arrays of it alone. -/
theorem read?_eq_some_iff {body : List UInt8} {s : String} :
    read? body = some s ↔ IsObjectWith body s ∨ IsArrayOf body s := by
  rw [read?, Option.bind_eq_some_iff]
  constructor
  · rintro ⟨ts, hts, h⟩
    have hlexes := tokens?_sound hts
    obtain ⟨ms, raw, rfl, hms, hraw, hs⟩ | ⟨raw, rfl, hs⟩ := readTokens_eq_some_iff.mp h
    · exact .inl ⟨ms, raw, hlexes, hms, hraw, hs⟩
    · exact .inr ⟨raw, hlexes, hs⟩
  · rintro (⟨ms, raw, hlexes, hms, hraw, hs⟩ | ⟨raw, hlexes, hs⟩)
    · have hvalue : IsValue (objectTokens ms) := .object hms.values
      exact ⟨_, tokens?_complete hlexes hvalue.apart,
        readTokens_eq_some_iff.mpr (.inl ⟨ms, raw, rfl, hms, hraw, hs⟩)⟩
    · have hvalue : IsValue (arrayTokens [[.text raw]]) :=
        .array (List.forall_mem_singleton.mpr (.text raw))
      exact ⟨_, tokens?_complete hlexes hvalue.apart,
        readTokens_eq_some_iff.mpr (.inr ⟨raw, rfl, hs⟩)⟩

end StatusBody

namespace Reply

open Json StatusBody

theorem ofBody_eq_ok_iff {body : List UInt8} {s : String} :
    ofBody body = .ok s ↔ StatusBody.read? body = some s := by
  unfold ofBody
  cases StatusBody.read? body with
  | none => exact ⟨nofun, nofun⟩
  | some s' =>
    rw [Except.ok.injEq, Option.some.injEq]

/-- **Which bodies are replies.** A body is the reply `s` exactly if it is an object whose one
member under `status` is the text `s`, or an array of this text alone. A body that is neither, for
whatever text, is malformed. -/
theorem ofBody_exact (body : List UInt8) :
    (∀ s, ofBody body = .ok s ↔ IsObjectWith body s ∨ IsArrayOf body s) ∧
      (ofBody body = .error .malformed ↔ ∀ s, ¬ IsObjectWith body s ∧ ¬ IsArrayOf body s) := by
  have hok : ∀ s, ofBody body = .ok s ↔ IsObjectWith body s ∨ IsArrayOf body s :=
    fun s => ofBody_eq_ok_iff.trans read?_eq_some_iff
  refine ⟨hok, ?_⟩
  constructor
  · intro herror s
    rw [← not_or, ← hok, herror]
    exact nofun
  · intro hnone
    cases hread : StatusBody.read? body with
    | none => rw [ofBody, hread]
    | some s =>
      have hbody := (hok s).mp (ofBody_eq_ok_iff.mpr hread)
      exact absurd hbody (not_or.mpr (hnone s))

/-- An array of one text. -/
def bracketed : List UInt8 :=
  Utf8.encode "[\"APPROVED\"]".toList

/-- A body that is a reply need not be an object. -/
theorem not_ofBody_object : ¬ ∀ body s, ofBody body = .ok s → IsObjectWith body s := by
  intro h
  have hread : StatusBody.read? bracketed = some "APPROVED" := by decide +kernel
  obtain ⟨ms, raw, hlexes, hms, -⟩ := h bracketed "APPROVED" (ofBody_eq_ok_iff.mpr hread)
  have hvalue : IsValue (objectTokens ms) := .object hms.values
  have htokens : tokens? bracketed = some (objectTokens ms) :=
    tokens?_complete hlexes hvalue.apart
  -- the first token is a bracket, and that of an object is a brace
  have hhead : (tokens? bracketed).bind List.head? = some .leftBracket := by decide +kernel
  rw [htokens] at hhead
  cases hhead

end Reply

end ApprovalWatch
