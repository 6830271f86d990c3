import ApprovalWatch.Http.Fetch
import ApprovalWatch.Proofs.Addresses
import ApprovalWatch.Proofs.Members
import ApprovalWatch.Proofs.QueryUrl
import ApprovalWatch.ScriptedAuthority

/-!
# Serving a script

An authority that goes through a script, and whoever asks it about an identifier with the URL of a
preset: the identifier is read as it was written, every identifier goes through the script on its
own, and the answer is read as the status that the script has next.

Main results:

* `splitTarget?_append`: path and query of the target of a request.
* `exists_statusUrl`: there is a URL for every identifier, and it is for one of the paths.
* `getElem?_answers`: an answer depends on the identifiers that were asked about before.
* `own_answers`: requests about other identifiers leave no trace.
* `serves_script`: what every request of a sequence is answered.
-/

namespace ApprovalWatch

/-! ## Targets -/

namespace Url.Form

/-- What is written into a query may stand there. -/
theorem not_foreign_of_mem_encode {cs : List Char} {c : Char} (h : c ∈ encode cs) :
    ScriptedAuthority.isForeignToQuery c = false := by
  obtain ⟨b, -, hb⟩ := List.mem_flatMap.mp h
  have hbytes : ∀ n < 256, (encodeByte (UInt8.ofNat n)).any
      ScriptedAuthority.isForeignToQuery = false := by
    decide +kernel
  simpa using List.any_eq_false.mp (hbytes b.toNat b.toNat_lt) c (by simpa using hb)

theorem not_foreign_of_mem_encodePair {name value : List Char} {c : Char}
    (h : c ∈ encodePair name value) : c ≠ '#' ∧ ScriptedAuthority.isForeignToQuery c = false := by
  have hencoded : ∀ {cs : List Char}, c ∈ encode cs →
      c ≠ '#' ∧ ScriptedAuthority.isForeignToQuery c = false := by
    intro cs hc
    have := ne_of_mem_encode hc
    exact ⟨by simp_all, not_foreign_of_mem_encode hc⟩
  rw [encodePair, List.mem_append, List.mem_cons] at h
  rcases h with h | rfl | h
  · exact hencoded h
  · decide
  · exact hencoded h

end Url.Form

namespace ScriptedAuthority

/-- A target without a peer is a path and a query. -/
theorem splitTarget?_cons_slash (cs : List Char) :
    splitTarget? ('/' :: cs) =
      let whole := ('/' :: cs).takeWhile (· ≠ '#')
      let path := whole.takeWhile (· ≠ '?')
      let query := (whole.dropWhile (· ≠ '?')).drop 1
      if path.any isForeignToPath || query.any isForeignToQuery then none
      else some (path, query) :=
  rfl

/-- It is split at its first question mark. -/
theorem splitTarget?_append {path query : List Char}
    (hpath : ∀ c ∈ '/' :: path, c ≠ '?' ∧ c ≠ '#' ∧ isForeignToPath c = false)
    (hquery : ∀ c ∈ query, c ≠ '#' ∧ isForeignToQuery c = false) :
    splitTarget? ('/' :: (path ++ '?' :: query)) = some ('/' :: path, query) := by
  have hfragment : ('/' :: (path ++ '?' :: query)).takeWhile (· ≠ '#') =
      '/' :: path ++ '?' :: query := by
    refine List.takeWhile_eq_self_iff.mpr fun c hc => ?_
    rw [← List.cons_append, List.mem_append, List.mem_cons (b := '?')] at hc
    rcases hc with hc | hc | hc
    · simpa using (hpath c hc).2.1
    · simp [hc]
    · simpa using (hquery c hc).1
  have hmark : ∀ c ∈ '/' :: path, decide (c ≠ '?') = true :=
    fun c hc => by simpa using (hpath c hc).1
  have htaken : ('/' :: path ++ '?' :: query).takeWhile (· ≠ '?') = '/' :: path := by
    rw [List.takeWhile_append_of_pos hmark, List.takeWhile_cons_of_neg (by decide), List.append_nil]
  have hleft : ('/' :: path ++ '?' :: query).dropWhile (· ≠ '?') = '?' :: query := by
    rw [List.dropWhile_append_of_pos hmark, List.dropWhile_cons_of_neg (by decide)]
  have hforeign : (('/' :: path).any isForeignToPath || query.any isForeignToQuery) = false := by
    rw [Bool.or_eq_false_iff, List.any_eq_false, List.any_eq_false]
    exact ⟨fun c hc => by simp [(hpath c hc).2.2], fun c hc => by simp [(hquery c hc).2]⟩
  rw [splitTarget?_cons_slash, hfragment]
  dsimp only
  rw [htaken, hleft, List.drop_one, List.tail_cons, hforeign, if_neg Bool.false_ne_true]

/-! ## Requests -/

/-- The identifier that a request has checked. -/
def asked? (method target : String) : Option String :=
  match splitTarget? target.toList with
  | none => none
  | some (path, query) =>
    if String.ofList path ∈ paths ∧ (method = "GET" ∨ method = "HEAD") then identifier? query
    else none

variable {a : ScriptedAuthority} {method target identifier : String}

theorem answerQuery_snd (a : ScriptedAuthority) (query : List Char) :
    (a.answerQuery query).2 = (identifier? query).elim a fun id => (a.nextStatus id).2 := by
  unfold answerQuery
  split <;> rename_i h <;> rw [h] <;> rfl

/-- A request changes nothing but the progress of the identifier that it asks about. -/
theorem answer_snd (a : ScriptedAuthority) (method target : String) :
    (a.answer method target).2 = (asked? method target).elim a fun id => (a.nextStatus id).2 := by
  unfold answer asked?
  cases splitTarget? target.toList with
  | none => rfl
  | some split =>
    obtain ⟨path, query⟩ := split
    by_cases hpath : String.ofList path ∈ paths
    · by_cases hget : method = "GET"
      · simp [hpath, hget, answerQuery_snd]
      · by_cases hhead : method = "HEAD"
        · simp [hpath, hhead, answerQuery_snd]
        · simp [hpath, hget, hhead]
    · simp [hpath]

/-- The authority after requests. -/
def after (a : ScriptedAuthority) : List (String × String) → ScriptedAuthority
  | [] => a
  | (method, target) :: rest => after (a.answer method target).2 rest

theorem after_script (a : ScriptedAuthority) (requests : List (String × String)) :
    (a.after requests).script = a.script := by
  induction requests generalizing a with
  | nil => rfl
  | cons r rest ih =>
    rw [after, ih, answer_snd]
    cases asked? r.1 r.2 <;> rfl

theorem steps_nextStatus_self (a : ScriptedAuthority) (identifier : String) :
    (a.nextStatus identifier).2.steps identifier = a.steps identifier + 1 := by
  rw [nextStatus, steps, Assoc.get?_set_self, Option.getD_some]

theorem steps_nextStatus_ne {other : String} (hne : identifier ≠ other) (a : ScriptedAuthority) :
    (a.nextStatus identifier).2.steps other = a.steps other := by
  rw [nextStatus, steps, Assoc.get?_set_ne hne, ← steps]

/-- The steps that an identifier takes are as many as there are requests about it. -/
theorem steps_after (a : ScriptedAuthority) (requests : List (String × String)) :
    (a.after requests).steps identifier =
      (requests.map fun r => asked? r.1 r.2).count (some identifier) + a.steps identifier := by
  induction requests generalizing a with
  | nil => simp [after]
  | cons r rest ih =>
    rw [after, ih, answer_snd, List.map_cons, List.count_cons]
    cases asked? r.1 r.2 with
    | none => simp
    | some id =>
      by_cases hid : id = identifier
      · subst hid
        rw [Option.elim_some, steps_nextStatus_self, beq_self_eq_true, if_pos rfl]
        omega
      · rw [Option.elim_some, steps_nextStatus_ne hid, if_neg (by simpa using hid), Nat.add_zero]

theorem getElem?_answers (a : ScriptedAuthority) (requests : List (String × String)) (i : Nat) :
    (a.answers requests)[i]? =
      requests[i]?.map fun r => ((a.after (requests.take i)).answer r.1 r.2).1 := by
  induction requests generalizing a i with
  | nil => rfl
  | cons r rest ih =>
    cases i with
    | zero => rfl
    | succ i => exact ih _ i

/-- An answer depends on the script, and on the progress of the identifier that is asked about. -/
theorem answer_fst_congr {b : ScriptedAuthority} (hscript : a.script = b.script)
    (hsteps : ∀ id, asked? method target = some id → a.steps id = b.steps id) :
    (a.answer method target).1 = (b.answer method target).1 := by
  have hquery : ∀ query, (∀ id, identifier? query = some id →
      a.steps id = b.steps id) →
        (a.answerQuery query).1 = (b.answerQuery query).1 := by
    intro query h
    unfold answerQuery
    cases hid : identifier? query with
    | none => rfl
    | some id => simp [nextStatus, hscript, h id hid]
  unfold asked? at hsteps
  unfold answer
  cases hsplit : splitTarget? target.toList with
  | none => rfl
  | some split =>
    obtain ⟨path, query⟩ := split
    rw [hsplit] at hsteps
    by_cases hpath : String.ofList path ∈ paths
    · by_cases hget : method = "GET"
      · simp [hpath, hget, hquery query (by simpa [hpath, hget] using hsteps)]
      · by_cases hhead : method = "HEAD"
        · simp [hpath, hhead, hquery query (by simpa [hpath, hhead] using hsteps)]
        · simp [hpath, hget, hhead]
    · simp [hpath]

/-! ## Identifiers -/

/-- Those of a list that belong to an identifier, where `identifiers` tells whose each is. -/
def own {α : Type} (identifier : String) (identifiers : List (Option String)) (l : List α) :
    List α :=
  ((identifiers.zip l).filter (·.1 = some identifier)).map (·.2)

theorem own_cons_self {α : Type} (identifiers : List (Option String)) (x : α) (l : List α) :
    own identifier (some identifier :: identifiers) (x :: l) =
      x :: own identifier identifiers l := by
  simp [own]

theorem own_cons_ne {α : Type} {id : Option String} (hne : id ≠ some identifier)
    (identifiers : List (Option String)) (x : α) (l : List α) :
    own identifier (id :: identifiers) (x :: l) = own identifier identifiers l := by
  simp [own, hne]

theorem map_asked? {identifiers : List (Option String)} {requests : List (String × String)}
    (h : List.Forall₂ (fun id r => asked? r.1 r.2 = id) identifiers requests) :
    requests.map (fun r => asked? r.1 r.2) = identifiers := by
  induction h with
  | nil => rfl
  | cons heq _ ih => rw [List.map_cons, heq, ih]

/-- Requests about an identifier are answered as if there were no others. -/
theorem own_answers {b : ScriptedAuthority} {identifiers : List (Option String)}
    {requests : List (String × String)}
    (h : List.Forall₂ (fun id r => asked? r.1 r.2 = id) identifiers requests)
    (hscript : a.script = b.script)
    (hsteps : a.steps identifier = b.steps identifier) :
    own identifier identifiers (a.answers requests) =
      b.answers (own identifier identifiers requests) := by
  induction h generalizing a b with
  | nil => rfl
  | @cons id r identifiers requests hid _ ih =>
    have hscript' : (a.answer r.1 r.2).2.script = a.script := after_script a [r]
    rw [answers]
    by_cases hown : id = some identifier
    · subst hown
      have hscript'' : (b.answer r.1 r.2).2.script = b.script := after_script b [r]
      have hhead : (a.answer r.1 r.2).1 = (b.answer r.1 r.2).1 := by
        apply answer_fst_congr hscript
        intro id hid'
        cases hid.symm.trans hid'
        exact hsteps
      rw [own_cons_self, own_cons_self, answers, hhead, ih]
      · rw [hscript', hscript'', hscript]
      · rw [answer_snd, answer_snd, hid]
        rw [Option.elim_some, Option.elim_some, steps_nextStatus_self, steps_nextStatus_self, hsteps]
    · rw [own_cons_ne hown, own_cons_ne hown, ih]
      · rw [hscript', hscript]
      · rw [answer_snd, hid, ← hsteps]
        cases id with
        | none => rfl
        | some id =>
          have hne : id ≠ identifier := fun heq => hown (congrArg some heq)
          exact steps_nextStatus_ne hne a

theorem value?_encodePair (name value other : String) :
    value? (Url.Form.encodePair name.toList value.toList) other =
      if name = other then some value else none := by
  rw [value?, Url.Form.pairs_encodePair, List.reverse_singleton]
  by_cases heq : name = other
  · simp [heq]
  · simp [heq, String.toList_inj]

/-- The identifier in a query that was built for one of the parameters. -/
theorem identifier?_encodePair {name : String} (h : name ∈ parameters) (value : String) :
    identifier? (Url.Form.encodePair name.toList value.toList) = some value := by
  simp only [identifier?, parameters, List.mem_cons, List.not_mem_nil, or_false,
    List.findSome?_cons, value?_encodePair] at h ⊢
  rcases h with rfl | rfl | rfl <;> rfl

theorem identifier?_eq_none_iff {query : List Char} :
    identifier? query = none ↔
      ∀ name ∈ parameters, ∀ p ∈ Url.Form.pairs query, p.1 ≠ name.toList := by
  simp [identifier?, List.findSome?_eq_none_iff, value?]

end ScriptedAuthority

/-! ## URLs of the presets -/

/-- A text that settings may have as their base URL. -/
def Endpoint.IsBaseUrl (base : String) : Prop :=
  ({ baseUrl := base } : Endpoint).baseUrlFault? = none

/-- The endpoint of a flow's preset beneath another base URL. -/
def Flow.endpointAt (flow : Flow) (base : String) : Endpoint :=
  { (Settings.preset flow).endpoint with baseUrl := base }

namespace Flow

variable {base : String} {flow : Flow}

theorem idParam_mem (flow : Flow) :
    (Settings.preset flow).endpoint.idParam ∈ ScriptedAuthority.parameters := by
  cases flow <;> decide

theorem path_mem (flow : Flow) :
    (Settings.preset flow).endpoint.path ∈ ScriptedAuthority.paths := by
  cases flow <;> decide

/-- Beneath a base URL without a fault, the path of an endpoint replaces everything but the
authority. -/
theorem exists_url (faultless : Endpoint.IsBaseUrl base)
    (flow : Flow) :
    ∃ v, (flow.endpointAt base).url = .ok v ∧
      v.path.render = (flow.endpointAt base).path.toList ∧ v.query = none := by
  obtain ⟨b, ss, hb, hpath, special⟩ := Endpoint.parse_baseUrl faultless
  obtain ⟨cs, hcs⟩ := Settings.path_of_valid (Settings.preset_valid flow)
  have hurl : (flow.endpointAt base).url =
      Url.readRelative .special b ss (Url.clean (flow.endpointAt base).path.toList) := by
    rw [← Url.join_cons_slash (s := (flow.endpointAt base).path) hcs hpath special]
    exact congrArg (· >>= fun u => u.join (flow.endpointAt base).path) hb
  have hread : ∃ segments,
      Url.readRelative .special b ss (Url.clean (Settings.preset flow).endpoint.path.toList) =
        .ok { b with path := .segments segments, query := none, fragment := none } ∧
      (Url.Path.segments segments).render = (Settings.preset flow).endpoint.path.toList := by
    cases flow with
    | pushLogin =>
      exact ⟨["cas".toList, "inalogy".toList, "check".toList, "login".toList], rfl,
        by decide⟩
    | pushKey => exact ⟨["cas".toList, "inalogy".toList, "check".toList], rfl, by decide⟩
    | registration =>
      exact ⟨["cas".toList, "inalogy".toList, "check".toList, "registration".toList], rfl,
        by decide⟩
  obtain ⟨segments, hread, hrender⟩ := hread
  exact ⟨_, hurl.trans hread, hrender, rfl⟩

/-- There is a URL for every identifier, and its target is the path of the endpoint with one pair as
the query. -/
theorem exists_statusUrl (faultless : Endpoint.IsBaseUrl base)
    (flow : Flow) (identifier : String) :
    ∃ u, (flow.endpointAt base).statusUrl identifier = .ok u ∧
      u.target = (flow.endpointAt base).path.toList ++
        '?' :: Url.Form.encodePair (flow.endpointAt base).idParam.toList identifier.toList := by
  obtain ⟨v, hv, hrender, hquery⟩ := exists_url faultless flow
  refine ⟨_, Endpoint.statusUrl_query hv identifier, ?_⟩
  rw [← hrender, Url.target, Url.appendPair, hquery]
  rfl

end Flow

namespace ScriptedAuthority

/-! ## Visits -/

/-- A request to an authority that is found at a base URL, and the identifier that it is about: it
was made for the URL of a flow's preset, or it goes to one of the paths with none of the parameters
in its query. -/
inductive Visit (base : String) : Option String → String × String → Prop
  | status {flow : Flow} {identifier : String} {u : Url} (authorization : Option String)
      (referer : Option String) (built : (flow.endpointAt base).statusUrl identifier = .ok u) :
      Visit base (some identifier)
        ((Http.request authorization referer u).method,
          (Http.request authorization referer u).target)
  | bare {method target : String} {path query : List Char} (reads : method = "GET" ∨ method = "HEAD")
      (split : splitTarget? target.toList = some (path, query)) (known : String.ofList path ∈ paths)
      (lacks : ∀ name ∈ parameters, ∀ p ∈ Url.Form.pairs query, p.1 ≠ name.toList) :
      Visit base none (method, target)

variable {a : ScriptedAuthority} {base : String} {id : Option String} {r : String × String}
  {script : List String}

/-- What the target of a URL is split into. -/
theorem splitTarget?_statusUrl {flow : Flow} {identifier : String} {u : Url}
    (faultless : Endpoint.IsBaseUrl base)
    (built : (flow.endpointAt base).statusUrl identifier = .ok u) :
    splitTarget? u.target = some ((Settings.preset flow).endpoint.path.toList,
      Url.Form.encodePair (Settings.preset flow).endpoint.idParam.toList identifier.toList) := by
  obtain ⟨v, hv, htarget⟩ := flow.exists_statusUrl faultless identifier
  obtain rfl : v = u := Except.ok.inj (hv.symm.trans built)
  have hpath : ∀ path ∈ paths, path.toList.head? = some '/' ∧
      path.toList.all (fun c => c ≠ '?' ∧ c ≠ '#' ∧ isForeignToPath c = false) = true := by
    decide
  obtain ⟨hhead, hplain⟩ := hpath _ flow.path_mem
  simp only [List.all_eq_true, decide_eq_true_eq] at hplain
  obtain ⟨cs, hcs⟩ := List.head?_eq_some_iff.mp hhead
  rw [hcs] at hplain
  rw [htarget]
  change splitTarget? ((Settings.preset flow).endpoint.path.toList ++ _) = _
  rw [hcs]
  exact splitTarget?_append hplain fun c hc => Url.Form.not_foreign_of_mem_encodePair hc

theorem Visit.asked?_eq (faultless : Endpoint.IsBaseUrl base)
    (h : Visit base id r) : asked? r.1 r.2 = id := by
  cases h with
  | @status flow identifier u _ _ built =>
    simp [asked?, Http.request, splitTarget?_statusUrl faultless built, flow.path_mem,
      identifier?_encodePair flow.idParam_mem]
  | bare reads split known lacks =>
    simp [asked?, split, known, reads, identifier?_eq_none_iff.mpr lacks]

/-- What a request gets that is about an identifier, if the script has gone on for so many steps
with it: the next status; and what it gets that is about none. -/
inductive Serves (script : List String) (step : Nat) : Option String → Answer → Prop
  | status {identifier status : String} {answer : Answer} (accepted : answer.status = 200)
      (next : script[min step (script.length - 1)]? = some status)
      (told : Reply.ofBody (Utf8.ofString answer.body) = .ok status) :
      Serves script step (some identifier) answer
  | refused {answer : Answer} (refused : answer.status = 400) : Serves script step none answer

/-- The status that a check gets is the one of the script that comes next. -/
theorem nextStatus_fst (scripted : a.script ≠ []) (identifier : String) :
    a.script[min (a.steps identifier) (a.script.length - 1)]? = some (a.nextStatus identifier).1 := by
  have hlength := List.length_pos_iff.mpr scripted
  have hlt : min (a.steps identifier) (a.script.length - 1) < a.script.length := by omega
  simp only [nextStatus]
  rw [List.getElem?_eq_getElem hlt, Option.getD_some]

theorem Visit.serves (faultless : Endpoint.IsBaseUrl base)
    (scripted : a.script ≠ []) (h : Visit base id r) {step : Nat}
    (hstep : ∀ identifier, id = some identifier → a.steps identifier = step) :
    Serves a.script step id (a.answer r.1 r.2).1 := by
  cases h with
  | @status flow identifier u _ _ built =>
    have hnext := nextStatus_fst scripted identifier
    rw [hstep identifier rfl] at hnext
    simp only [answer, Http.request, String.toList_ofList, splitTarget?_statusUrl faultless built,
      String.ofList_toList, flow.path_mem, not_true, if_false, if_true, answerQuery,
      identifier?_encodePair flow.idParam_mem]
    exact .status rfl hnext (Reply.ofBody_eq_ok_iff.mpr (StatusBody.read?_write _))
  | bare reads split known lacks =>
    have hnone := identifier?_eq_none_iff.mpr lacks
    rcases reads with rfl | rfl <;> exact .refused (by simp [answer, split, known, answerQuery, hnone])

/-! ## Sequences of requests -/

/-- What the requests of a sequence get, where `identifiers` tells what each of them is about: the
next step of the script, if those about other identifiers are left out of account, and so what
requests about an identifier would get alone. The step that is kept of an identifier is the number
of its requests, so that no counter runs over before there were as many requests as it can count. -/
structure ServedInTurn (script : List String) (identifiers : List (Option String))
    (requests : List (String × String)) : Prop where
  answered : ∀ i identifier, identifiers[i]? = some identifier →
    ∃ answer, (answers { script } requests)[i]? = some answer ∧
      Serves script ((identifiers.take i).count identifier) identifier answer
  alone : ∀ identifier, own identifier identifiers (answers { script } requests) =
    answers { script } (own identifier identifiers requests)
  counted : ∀ identifier,
    (after { script } requests).steps identifier = identifiers.count (some identifier)

theorem servedInTurn_of_visits {identifiers : List (Option String)}
    {requests : List (String × String)} (faultless : Endpoint.IsBaseUrl base)
    (scripted : script ≠ []) (h : List.Forall₂ (Visit base) identifiers requests) :
    ServedInTurn script identifiers requests := by
  have asks := h.imp fun _ _ hvisit => hvisit.asked?_eq faultless
  have hsteps (identifier : String) (i : Nat) :
      (after { script } (requests.take i)).steps identifier =
        (identifiers.take i).count (some identifier) := by
    rw [steps_after, List.map_take, map_asked? asks]
    rfl
  refine ⟨fun i id hi => ?_, fun identifier => own_answers asks rfl rfl, fun identifier => ?_⟩
  · obtain ⟨hlt, hid⟩ := List.getElem?_eq_some_iff.mp hi
    have hlt' : i < requests.length := h.length_eq ▸ hlt
    have hvisit : Visit base id requests[i] := hid ▸ h.get hlt hlt'
    have hanswer : (answers { script } requests)[i]? =
        some ((after { script } (requests.take i)).answer requests[i].1 requests[i].2).1 := by
      rw [getElem?_answers, List.getElem?_eq_getElem hlt', Option.map_some]
    have hscript : (after { script } (requests.take i)).script = script := after_script _ _
    have hserves := hvisit.serves faultless (hscript ▸ scripted) fun identifier hidentifier => by
      rw [hsteps, ← hidentifier]
    rw [hscript] at hserves
    exact ⟨_, hanswer, hserves⟩
  · have hall := hsteps identifier requests.length
    rwa [List.take_length, ← h.length_eq, List.take_length] at hall

/-- **Every identifier goes through the script on its own, and reads what comes next.** The address
of an authority makes a base URL, and beneath every base URL there is a URL for each flow and each
identifier. In a sequence of requests, one about an identifier is answered with the status that the
script has after as many steps as there were requests about the same identifier before, and with
the last one from there on; the body is read as that status. A request about no identifier is
refused, and leaves the authority as it is. -/
theorem serves_script (scripted : script ≠ []) :
    (∀ address, CommandLine.isAddress address = true →
      Endpoint.IsBaseUrl ("http://" ++ address)) ∧
    ∀ base, Endpoint.IsBaseUrl base →
      (∀ (flow : Flow) identifier, ∃ u, (flow.endpointAt base).statusUrl identifier = .ok u) ∧
      (∀ identifiers requests, List.Forall₂ (Visit base) identifiers requests →
        ServedInTurn script identifiers requests) ∧
      ∀ (a : ScriptedAuthority) r, Visit base none r → (a.answer r.1 r.2).2 = a := by
  refine ⟨fun _ h => Endpoint.baseUrlFault?_of_isAddress h, fun base faultless => ⟨?_, ?_, ?_⟩⟩
  · intro flow identifier
    obtain ⟨u, hu, -⟩ := flow.exists_statusUrl faultless identifier
    exact ⟨u, hu⟩
  · exact fun _ _ h => servedInTurn_of_visits faultless scripted h
  · intro a r hvisit
    rw [answer_snd, hvisit.asked?_eq faultless]
    rfl

/-- A second request about an identifier, for another flow, after requests about none and about
another identifier. -/
theorem serves_script_interleaved :
    ∃ u v w : Url,
      (Flow.pushLogin.endpointAt "http://127.0.0.1:8080").statusUrl "a+b &keyId=é" = .ok u ∧
      (Flow.pushLogin.endpointAt "http://127.0.0.1:8080").statusUrl "a+b " = .ok v ∧
      (Flow.registration.endpointAt "http://127.0.0.1:8080").statusUrl "a+b &keyId=é" = .ok w ∧
      ∃ answer,
        (answers { script := ["PENDING", "APPROVED"] }
          [("GET", String.ofList u.target), ("GET", "/cas/inalogy/check?id=a"),
            ("GET", String.ofList v.target), ("GET", String.ofList w.target)])[3]? = some answer ∧
        answer.status = 200 ∧ Reply.ofBody (Utf8.ofString answer.body) = .ok "APPROVED" := by
  obtain ⟨haddress, hserves⟩ := serves_script (List.cons_ne_nil "PENDING" ["APPROVED"])
  obtain ⟨hurls, hrequests, -⟩ := hserves _ (haddress "127.0.0.1:8080" (by decide))
  obtain ⟨u, hu⟩ := hurls .pushLogin "a+b &keyId=é"
  obtain ⟨v, hv⟩ := hurls .pushLogin "a+b "
  obtain ⟨w, hw⟩ := hurls .registration "a+b &keyId=é"
  have split : splitTarget? "/cas/inalogy/check?id=a".toList =
      some ("/cas/inalogy/check".toList, "id=a".toList) := by decide
  have bare : Visit ("http://" ++ "127.0.0.1:8080") none ("GET", "/cas/inalogy/check?id=a") :=
    .bare (.inl rfl) split (by decide) (by decide +kernel)
  obtain ⟨answer, hanswer, hserved⟩ := (hrequests _ _
    (.cons (.status none none hu) (.cons bare (.cons (.status none none hv)
      (.cons (.status none none hw) .nil))))).answered 3 _ rfl
  refine ⟨u, v, w, hu, hv, hw, answer, hanswer, ?_⟩
  cases hserved with
  | status accepted next told =>
    refine ⟨accepted, told.trans ?_⟩
    cases next
    rfl

end ScriptedAuthority

end ApprovalWatch
