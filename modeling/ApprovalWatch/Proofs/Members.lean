import ApprovalWatch.Proofs.Bodies
import ApprovalWatch.Proofs.Quoting

/-!
# Bodies that are objects

The reply to an object hangs on the member under `status` alone, wherever it stands and however its
key is spelled. The tokens of an object tell its members apart, so that one object has one reply.

Main results:

* `members_unique`: the tokens of an object are those of one list of members only.
* `read?_object`: the status of an object, by its members.
* `read?_write`: a status that is written is read back.
* `Reply.ofBody_members`: the replies to objects, by what their keys denote.
-/

namespace ApprovalWatch

namespace Json

/-! ## One reading -/

/-- Where tokens begin with a value, they begin with no other. -/
theorem IsValue.prefix_unique {v w ts us : List Token} (hv : IsValue v) (hw : IsValue w)
    (h : v ++ ts = w ++ us) : v = w ∧ ts = us := by
  have hskip : skip (v ++ ts) = some ts := skip_eq_some_iff.mpr ⟨v, hv, rfl⟩
  have hskip' : skip (v ++ ts) = some us := skip_eq_some_iff.mpr ⟨w, hw, h⟩
  obtain rfl : ts = us := Option.some.inj (hskip.symm.trans hskip')
  exact ⟨List.append_cancel_right h, rfl⟩

/-- What follows a member of an object, where these members are left. -/
def afterMember (ms : List Member) : List Token :=
  if ms.isEmpty then [.rightBrace]
  else .comma :: (commaList (ms.map Member.tokens) ++ [.rightBrace])

theorem commaList_cons_afterMember (m : Member) (ms : List Member) :
    commaList ((m :: ms).map Member.tokens) ++ [.rightBrace] =
      .text m.key :: .colon :: (m.value ++ afterMember ms) := by
  cases ms with
  | nil => rfl
  | cons m' ms => simp [commaList, Member.tokens, afterMember]

/-- The tokens of an object are those of one list of members only. -/
theorem members_unique {ms ms' : List Member} (h : ∀ m ∈ ms, IsValue m.value)
    (h' : ∀ m ∈ ms', IsValue m.value)
    (heq : commaList (ms.map Member.tokens) ++ [.rightBrace] =
      commaList (ms'.map Member.tokens) ++ [.rightBrace]) : ms = ms' := by
  induction ms generalizing ms' with
  | nil =>
    cases ms' with
    | nil => rfl
    | cons m' ms' =>
      rw [commaList_cons_afterMember] at heq
      cases heq
  | cons m ms ih =>
    cases ms' with
    | nil =>
      rw [commaList_cons_afterMember] at heq
      cases heq
    | cons m' ms' =>
      obtain ⟨hv, hms⟩ := List.forall_mem_cons.mp h
      obtain ⟨hv', hms'⟩ := List.forall_mem_cons.mp h'
      rw [commaList_cons_afterMember, commaList_cons_afterMember] at heq
      obtain ⟨hkey, heq⟩ := List.cons.inj heq
      obtain ⟨hvalue, hafter⟩ := hv.prefix_unique hv' (List.cons.inj heq).2
      have hm : m = m' := by
        cases m
        cases m'
        cases hkey
        cases hvalue
        rfl
      have hrest : ms = ms' := by
        cases ms with
        | nil =>
          cases ms' with
          | nil => rfl
          | cons => cases hafter
        | cons =>
          cases ms' with
          | nil => cases hafter
          | cons => exact ih hms hms' (List.cons.inj hafter).2
      rw [hm, hrest]

end Json

namespace StatusBody

open Json

/-! ## Objects -/

/-- The bytes are one object with these members: blanks may stand between tokens, every key denotes
a text, and the values are any. -/
structure IsObject (body : List UInt8) (ms : List Member) : Prop where
  lexes : Lexes body (objectTokens ms)
  keys : ∀ m ∈ ms, ∃ key, Quotes m.key key
  values : ∀ m ∈ ms, IsValue m.value

section Object

variable {body : List UInt8} {ms : List Member} {s : String}

theorem IsObject.readable (h : IsObject body ms) : Readable ms := by
  refine ⟨fun m hm => ?_, h.values⟩
  obtain ⟨key, hkey⟩ := h.keys m hm
  rw [unquote_eq_some_iff.mpr hkey]
  rfl

theorem readMembers_eq_some_iff_yields {found : Option String} (h : Readable ms) (hne : ms ≠ []) :
    readMembers found (commaList (ms.map Member.tokens) ++ [.rightBrace]) = some s ↔
      Yields found ms s := by
  constructor
  · intro hread
    obtain ⟨ms', -, hms', hyields, heq⟩ := exists_members hread
    rwa [members_unique h.values hms'.values heq]
  · exact readMembers_eq_some hne h

/-- The status of an object is the text of its one member under `status`. -/
theorem read?_object (h : IsObject body ms) :
    read? body = some s ↔ ∃ raw, statusValues ms = [[.text raw]] ∧ Quotes raw s := by
  have htokens : tokens? body = some (objectTokens ms) :=
    tokens?_complete h.lexes (IsValue.object h.values).apart
  rw [read?, htokens, Option.bind_some, objectTokens, readTokens]
  by_cases hne : ms = []
  · subst hne
    have hempty : readMembers none [.rightBrace] = none := by rw [readMembers.eq_def]
    rw [List.map_nil, commaList, List.nil_append, hempty]
    constructor
    · intro h
      cases h
    · rintro ⟨raw, hraw, -⟩
      cases hraw
  · rw [readMembers_eq_some_iff_yields h.readable hne, Yields]
    simp [unquote_eq_some_iff]

/-! ### The members under `status` -/

theorem statusValues_append (ms ms' : List Member) :
    statusValues (ms ++ ms') = statusValues ms ++ statusValues ms' := by
  simp [statusValues]

theorem statusValues_eq_nil (h : ∀ m ∈ ms, ¬ Quotes m.key "status") : statusValues ms = [] := by
  rw [statusValues, List.map_eq_nil_iff, List.filter_eq_nil_iff]
  intro m hm
  rw [decide_eq_true_iff, unquote_eq_some_iff]
  exact h m hm

theorem statusValues_split {m : Member} (hkey : Quotes m.key "status")
    (before after : List Member) :
    statusValues (before ++ m :: after) =
      statusValues before ++ m.value :: statusValues after := by
  rw [statusValues_append, statusValues_cons_status (unquote_eq_some_iff.mpr hkey)]

/-- Of an object with one member under `status`, wherever it stands, only this member counts. -/
theorem read?_object_of_one {m : Member} {before after : List Member}
    (h : IsObject body (before ++ m :: after)) (hkey : Quotes m.key "status")
    (hother : ∀ other ∈ before ++ after, ¬ Quotes other.key "status") :
    read? body = some s ↔ ∃ raw, m.value = [.text raw] ∧ Quotes raw s := by
  obtain ⟨hbefore, hafter⟩ := List.forall_mem_append.mp hother
  rw [read?_object h, statusValues_split hkey, statusValues_eq_nil hbefore,
    statusValues_eq_nil hafter, List.nil_append]
  simp only [List.cons.injEq, and_true]

end Object

/-! ## Statuses written -/

theorem write_eq (s : String) :
    write s = "\x7b" ++ (quote "status" ++ ":" ++ quote s) ++ "\x7d" := by
  simp only [write, Value.compact, Value.compactMembers]
  rfl

theorem ofString_write (s : String) :
    Utf8.ofString (write s) =
      0x7B :: (Utf8.ofString (quote "status") ++ 0x3A :: (Utf8.ofString (quote s) ++ [0x7D])) := by
  have hleft : Utf8.ofString "\x7b" = [0x7B] := by decide
  have hcolon : Utf8.ofString ":" = [0x3A] := by decide
  have hright : Utf8.ofString "\x7d" = [0x7D] := by decide
  simp only [write_eq, Utf8.ofString_append, hleft, hcolon, hright, List.append_assoc,
    List.cons_append, List.nil_append]

/-- The member that is written for a status. -/
def written (s : String) : Member where
  key := Utf8.encode (escapeAll "status".toList)
  value := [.text (Utf8.encode (escapeAll s.toList))]

theorem quotes_written (s : String) : Quotes (Utf8.encode (escapeAll s.toList)) s :=
  ⟨_, rfl, denotes_escapeAll _⟩

theorem isObject_write (s : String) : IsObject (Utf8.ofString (write s)) [written s] where
  lexes := by
    rw [ofString_write]
    exact .mark rfl (lexes_quote _ (.mark rfl (lexes_quote _ (.mark rfl .done))))
  keys := List.forall_mem_singleton.mpr ⟨"status", quotes_written _⟩
  values := List.forall_mem_singleton.mpr (.text _)

/-- A status that is written is read back. -/
theorem read?_write (s : String) : read? (Utf8.ofString (write s)) = some s := by
  refine (read?_object (isObject_write s)).mpr ⟨_, ?_, quotes_written s⟩
  exact statusValues_cons_status (unquote_eq_some_iff.mpr (quotes_written "status")) []

end StatusBody

namespace Reply

open Json StatusBody

theorem ofBody_eq_malformed_iff {body : List UInt8} :
    ofBody body = .error .malformed ↔ ∀ s, StatusBody.read? body ≠ some s := by
  unfold ofBody
  cases StatusBody.read? body with
  | none => simp
  | some s => simp

/-- **Other members do not count.** An object with one member whose key denotes `status` is the
reply that the value of this member denotes, if this is a text, and malformed if it is not, whatever
the members before and after it are. An object with two such members is malformed, and so is one
without. A body that is written for a status is the reply of this status. -/
theorem ofBody_members :
    (∀ body before m after, IsObject body (before ++ m :: after) → Quotes m.key "status" →
      (∀ other ∈ before ++ after, ¬ Quotes other.key "status") →
      (∀ raw s, m.value = [.text raw] → Quotes raw s → ofBody body = .ok s) ∧
        ((∀ raw s, m.value = [.text raw] → ¬ Quotes raw s) → ofBody body = .error .malformed)) ∧
    (∀ body before m between m' after, IsObject body (before ++ m :: (between ++ m' :: after)) →
      Quotes m.key "status" → Quotes m'.key "status" → ofBody body = .error .malformed) ∧
    (∀ body ms, IsObject body ms → (∀ m ∈ ms, ¬ Quotes m.key "status") →
      ofBody body = .error .malformed) ∧
    ∀ s, ofBody (Utf8.ofString (StatusBody.write s)) = .ok s := by
  refine ⟨?one, ?two, ?none, fun s => ofBody_eq_ok_iff.mpr (read?_write s)⟩
  case one =>
    intro body before m after h hkey hother
    refine ⟨fun raw s hvalue hs => ?_, fun hno => ?_⟩
    · exact ofBody_eq_ok_iff.mpr ((read?_object_of_one h hkey hother).mpr ⟨raw, hvalue, hs⟩)
    · refine ofBody_eq_malformed_iff.mpr fun s hread => ?_
      obtain ⟨raw, hvalue, hs⟩ := (read?_object_of_one h hkey hother).mp hread
      exact hno raw s hvalue hs
  case two =>
    intro body before m between m' after h hkey hkey'
    refine ofBody_eq_malformed_iff.mpr fun s hread => ?_
    obtain ⟨raw, hraw, -⟩ := (read?_object h).mp hread
    -- there are two values, and one of them would have to be all
    rw [statusValues_split hkey, statusValues_split hkey'] at hraw
    have hlength := congrArg List.length hraw
    simp only [List.length_append, List.length_cons, List.length_nil] at hlength
    omega
  case none =>
    intro body ms h hno
    refine ofBody_eq_malformed_iff.mpr fun s hread => ?_
    obtain ⟨raw, hraw, -⟩ := (read?_object h).mp hread
    rw [statusValues_eq_nil hno] at hraw
    cases hraw

/-- A member with values within values: an object with a status of its own, a number, and a text
that cannot be read. -/
def foreign : Member where
  key := Utf8.ofString "data"
  value := arrayTokens
    [objectTokens [⟨Utf8.ofString "status", [.text (Utf8.ofString "X")]⟩], [.scalar],
      [.text (Utf8.ofString "\\ud800")]]

/-- A status whose key and value are spelled with escapes, the latter with a pair of them. -/
def escaped : Member where
  key := Utf8.ofString "st\\u0061tus"
  value := [.text (Utf8.ofString "\\ud83d\\ude00")]

/-- An object with both of them. -/
def nested : List UInt8 :=
  Utf8.ofString <| "\x7b\"data\":[\x7b\"status\":\"X\"\x7d,-1.5e3,\"\\ud800\"]," ++
    " \"st\\u0061tus\" : \"\\ud83d\\ude00\"\x7d"

theorem ofBody_members_nested :
    IsObject nested [foreign, escaped] ∧ ofBody nested = .ok "😀" := by
  have hforeign : IsValue foreign.value := by
    refine .array (List.forall_mem_cons.mpr ⟨.object ?_, List.forall_mem_cons.mpr ⟨.scalar, ?_⟩⟩)
    · exact List.forall_mem_singleton.mpr (.text _)
    · exact List.forall_mem_singleton.mpr (.text _)
  have hdata : Quotes foreign.key "data" := unquote_eq_some_iff.mp (by decide +kernel)
  have hstatus : Quotes escaped.key "status" := unquote_eq_some_iff.mp (by decide +kernel)
  have hobject : IsObject nested [foreign, escaped] :=
    ⟨tokens?_sound (by decide +kernel),
      List.forall_mem_cons.mpr ⟨⟨_, hdata⟩, List.forall_mem_singleton.mpr ⟨_, hstatus⟩⟩,
      List.forall_mem_cons.mpr ⟨hforeign, List.forall_mem_singleton.mpr (.text _)⟩⟩
  have hother : ∀ other ∈ [foreign] ++ [], ¬ Quotes other.key "status" := by
    rw [List.append_nil]
    exact List.forall_mem_singleton.mpr fun h => absurd (h.unique hdata) (by decide)
  refine ⟨hobject, ?_⟩
  refine (ofBody_members.1 nested [foreign] escaped [] hobject hstatus hother).1 _ _ rfl ?_
  exact unquote_eq_some_iff.mp (by decide +kernel)

end Reply

end ApprovalWatch
