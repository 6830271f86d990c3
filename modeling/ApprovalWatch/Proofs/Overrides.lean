import ApprovalWatch.Proofs.Merging
import ApprovalWatch.Proofs.Spelling
import ApprovalWatch.Settings.File

/-!
# What a settings file changes

A file is laid over the preset of its flow. What it speaks of has the value that it gives, and the
rest has the value of the preset, setting by setting; the flags of reasons are settings of their
own. A section that is written as an array is another matter: it takes the place of the whole
section, and what it does not reach has the general default, whichever the flow.

Main results:

* `Group.stands`: a section of the settings of a file, as it stands in the file.
* `Settings.parse_overrides`: what the settings of a file are.
* `Settings.not_kept`: a file may change a setting that it does not speak of.
-/

namespace ApprovalWatch

/-! ## Files over presets -/

/-- What a file gives for a field of a section. -/
def Group.given? (overlay : Tree) (g : Group) (field : String) : Option Tree :=
  (overlay.get? g.name).bind fun t => (t.fields? g.names).bind (Assoc.get? field)

/-- What a file gives for the flag of a reason code. -/
def Tree.givenFlag? (overlay : Tree) (code : String) : Option Tree :=
  (Group.failure.given? overlay "reason_flags").bind (Tree.get? code)

/-- A file writes a section as an array. -/
def Group.IsArray (overlay : Tree) (g : Group) : Prop :=
  ∃ ts, overlay.get? g.name = some (.array ts)

/-- The flow that a file names, if it is a flow. -/
def Tree.flow? (overlay : Tree) : Option Flow :=
  match overlay.get? "flow" with
  | some t => Flow.ofTree? t
  | none => some .pushLogin

/-- What the settings of a file are, given the flow that it names. -/
structure Overrides (overlay : Tree) (f : Flow) (s : Settings) : Prop where
  flow : s.flow = f
  /-- A setting that the file gives has this value. -/
  given : ∀ g : Group, ∀ x ∈ g.settings, ∀ t, g.given? overlay x.name = some t →
    x.read t = some (x.get s)
  /-- A setting that the file does not give is that of the preset, -/
  kept : ∀ g : Group, ∀ x ∈ g.settings, g.given? overlay x.name = none → ¬ g.IsArray overlay →
    x.get s = x.get (Settings.preset f)
  /-- or the general default, where the section is an array. -/
  dropped : ∀ g : Group, ∀ x ∈ g.settings, g.given? overlay x.name = none → g.IsArray overlay →
    x.get s = x.get {}
  flagGiven : ∀ code t, overlay.givenFlag? code = some t →
    ∃ flag, t.asString? = some flag ∧ s.failure.reasonFlags.get? code = some flag
  flagKept : ∀ code, overlay.givenFlag? code = none → ¬ Group.failure.IsArray overlay →
    s.failure.reasonFlags.get? code = (Settings.preset f).failure.reasonFlags.get? code
  flagDropped : ∀ code, overlay.givenFlag? code = none → Group.failure.IsArray overlay →
    s.failure.reasonFlags.get? code = none

section Overlay

variable {es : List (String × Tree)} {f : Flow} {s : Settings} {g : Group}

/-- How a section stands in a file: not at all, as a table, or as an array. -/
inductive Group.Stands (es : List (String × Tree)) (f : Flow) (s : Settings) (g : Group) : Prop
  | absent (file : Assoc.get? g.name es = none)
      (spells : g.Spells (.table (g.entries (Settings.preset f))) s)
  | table {ts : List (String × Tree)} (file : Assoc.get? g.name es = some (.table ts))
      (distinct : (Tree.table ts).Distinct)
      (spells : g.Spells (.table (Tree.mergeEntries (g.entries (Settings.preset f)) ts)) s)
  | array {ts : List Tree} (file : Assoc.get? g.name es = some (.array ts))
      (distinct : (Tree.array ts).Distinct) (spells : g.Spells (.array ts) s)

/-- A section of a file, over the one of settings. -/
theorem Group.get?_merge_toTree (keys : (es.map Prod.fst).Nodup) (s : Settings) (g : Group) :
    (s.toTree.merge (.table es)).get? g.name =
      some ((Assoc.get? g.name es).elim (.table (g.entries s))
        fun t => Tree.merge (.table (g.entries s)) t) := by
  obtain ⟨base, hbase⟩ : ∃ base, s.toTree = .table base := ⟨_, rfl⟩
  have hsection : Assoc.get? g.name base = some (.table (g.entries s)) := by
    have hget := Group.get?_toTree s g
    rw [hbase, Group.tree_eq] at hget
    exact hget
  rw [hbase, Tree.merge, Tree.get?]
  cases hfile : Assoc.get? g.name es with
  | none => rw [Tree.get?_mergeEntries_of_none hfile, hsection, Option.elim_none]
  | some t =>
    rw [Tree.get?_mergeEntries_of_some keys hfile, hsection, Option.elim_some, Option.elim_some]

theorem Settings.exists_merge_toTree (s : Settings) (es : List (String × Tree)) :
    ∃ rs, s.toTree.merge (.table es) = .table rs := by
  obtain ⟨base, hbase⟩ : ∃ base, s.toTree = .table base := ⟨_, rfl⟩
  rw [hbase, Tree.merge]
  exact ⟨_, rfl⟩

theorem Group.stands (distinct : (Tree.table es).Distinct)
    (hs : Settings.ofTree? ((Settings.preset f).toTree.merge (.table es)) = some s) (g : Group) :
    g.Stands es f s := by
  have hget := Group.get?_merge_toTree distinct.keys (Settings.preset f) g
  obtain ⟨rs, hmerge⟩ := Settings.exists_merge_toTree (Settings.preset f) es
  rw [hmerge] at hs hget
  have hspells := Group.spells_of_ofTree? hs hget
  cases hfile : Assoc.get? g.name es with
  | none =>
    rw [hfile] at hspells
    exact .absent hfile hspells
  | some t =>
    rw [hfile, Option.elim_some] at hspells
    have hdistinct := distinct.get? hfile
    cases t with
    | table ts =>
      rw [Tree.merge] at hspells
      exact .table hfile hdistinct hspells
    | array ts =>
      rw [Tree.merge] at hspells
      exact .array hfile hdistinct hspells
    | _ =>
      -- nothing else has fields
      rw [Tree.merge] at hspells
      obtain ⟨fs, hfs, -⟩ := hspells.reads
      cases hfs

/-- What a table gives for a setting that is spelled out in the table below it is there as it is. -/
theorem Setting.Spelled.get?_mergeEntries {x : Setting} {base ts : List (String × Tree)}
    {s' : Settings} (hs' : x.Spelled base s') (keys : (ts.map Prod.fst).Nodup) {t : Tree}
    (ht : Assoc.get? x.name ts = some t) :
    Assoc.get? x.name (Tree.mergeEntries base ts) = some t := by
  rw [Tree.get?_mergeEntries_of_some keys ht]
  unfold Spelled at hs'
  cases hbase : Assoc.get? x.name base with
  | none => rfl
  | some old =>
    rw [hbase] at hs'
    rw [Option.elim_some, Tree.merge_of_base_not_table hs'.1]

/-- What is read from a table over another is what the upper one gives, and else as it was spelled
out in the lower one. -/
theorem Setting.Reads.mergeEntries {x : Setting} {base ts : List (String × Tree)} {s' : Settings}
    (h : x.Reads (Tree.mergeEntries base ts) s) (keys : (ts.map Prod.fst).Nodup)
    (hs' : x.Spelled base s') :
    (∀ t, Assoc.get? x.name ts = some t → x.read t = some (x.get s)) ∧
      (Assoc.get? x.name ts = none → x.get s = x.get s') := by
  refine ⟨fun t ht => ?_, fun hnone => ?_⟩
  · rw [Reads, Tree.field_of_some (hs'.get?_mergeEntries keys ht)] at h
    exact h
  · have hbase : x.Reads base s := by
      rw [Reads, Tree.field, Tree.get?_mergeEntries_of_none hnone] at h
      rw [Reads, Tree.field]
      exact h
    exact hbase.get_eq hs'

/-- A setting of a section that stands in a file in one of these ways. -/
theorem Group.Stands.settings (h : g.Stands es f s) {x : Setting} (hx : x ∈ g.settings) :
    (∀ t, g.given? (.table es) x.name = some t → x.read t = some (x.get s)) ∧
    (g.given? (.table es) x.name = none → ¬ g.IsArray (.table es) →
      x.get s = x.get (Settings.preset f)) ∧
    (g.given? (.table es) x.name = none → g.IsArray (.table es) → x.get s = x.get {}) := by
  have hpreset := (Settings.preset_fits f).spelled g x hx
  rw [Group.given?, Group.IsArray, Tree.get?]
  cases h with
  | absent file spells =>
    obtain ⟨fs, ⟨⟩, hreads⟩ := spells.reads
    rw [file]
    refine ⟨?_, fun _ _ => (hreads x hx).get_eq hpreset, ?_⟩
    · rintro t ⟨⟩
    · rintro - ⟨_, ⟨⟩⟩
  | table file distinct spells =>
    obtain ⟨fs, ⟨⟩, hreads⟩ := spells.reads
    obtain ⟨hgiven, hkept⟩ := (hreads x hx).mergeEntries distinct.keys hpreset
    rw [file]
    refine ⟨hgiven, fun hnone _ => hkept hnone, ?_⟩
    rintro - ⟨_, ⟨⟩⟩
  | @array ts file _ spells =>
    obtain ⟨fs, hfs, hreads⟩ := spells.reads
    have hread := hreads x hx
    rw [file, Option.bind_some, hfs, Option.bind_some]
    refine ⟨fun t ht => ?_, fun _ hnot => absurd ⟨ts, rfl⟩ hnot, fun hnone _ => ?_⟩
    · rw [Setting.Reads, Tree.field_of_some ht] at hread
      exact hread
    · rw [Setting.Reads, Tree.field_of_none hnone] at hread
      exact (Option.some.inj hread).symm

/-- The trees of an array that are read as the fields of a section have distinct keys. -/
theorem Tree.Distinct.field {t u : Tree} {names : List String} {fs : List (String × Tree)}
    {k : String} (h : t.Distinct) (hfs : t.fields? names = some fs)
    (hu : Assoc.get? k fs = some u) : u.Distinct := by
  have hmem := Assoc.mem_of_get? hu
  cases h with
  | table _ values =>
    cases hfs
    exact values _ hmem
  | array values =>
    rw [Tree.fields?] at hfs
    split at hfs
    · cases hfs
      exact values _ (List.of_mem_zip hmem).2
    · cases hfs
  | _ => cases hfs

/-- What is read from a table over a map is what the upper one gives, and else what the map has. -/
theorem NameMap.get?_of_merge {m m' : NameMap} {t : Tree}
    (h : ofTree? (m.toTree.merge t) = some m') (distinct : t.Distinct) (code : String) :
    (∀ u, t.get? code = some u → ∃ flag, u.asString? = some flag ∧ m'.get? code = some flag) ∧
      (t.get? code = none → m'.get? code = m.get? code) := by
  cases t with
  | table ts =>
    have hbase : Assoc.get? code (m.entries.map fun p => (p.1, Tree.string p.2)) =
        (m.get? code).map .string := m.get?_toTree code
    have hkeys : ((m.entries.map fun p => (p.1, Tree.string p.2)).map Prod.fst).Nodup := by
      rw [List.map_map]
      exact m.nodup_entries
    rw [toTree, Tree.merge] at h
    obtain ⟨hnone, hsome⟩ := get?_of_ofTree? h (Tree.nodup_mergeEntries hkeys ts) code
    refine ⟨fun u hu => hsome u ?_, fun hfree => ?_⟩
    · rw [Tree.get?_mergeEntries_of_some distinct.keys hu, hbase]
      cases m.get? code with
      | none => rfl
      | some text =>
        have htext : (Tree.string text).isTable = false := rfl
        rw [Option.map_some, Option.elim_some, Tree.merge_of_base_not_table htext]
    · rw [Tree.get?_mergeEntries_of_none hfree, hbase] at hnone hsome
      cases hm : m.get? code with
      | none =>
        rw [hm] at hnone
        exact hnone rfl
      | some text =>
        rw [hm] at hsome
        obtain ⟨_, ⟨⟩, hget⟩ := hsome (.string text) rfl
        exact hget
  | _ =>
    rw [Tree.merge] at h
    cases h

/-- A flag, where the failure page stands in a file in one of these ways. -/
theorem Group.Stands.flags (h : Group.failure.Stands es f s) (code : String) :
    (∀ t, (Tree.table es).givenFlag? code = some t →
      ∃ flag, t.asString? = some flag ∧ s.failure.reasonFlags.get? code = some flag) ∧
    ((Tree.table es).givenFlag? code = none → ¬ Group.failure.IsArray (.table es) →
      s.failure.reasonFlags.get? code = (Settings.preset f).failure.reasonFlags.get? code) ∧
    ((Tree.table es).givenFlag? code = none → Group.failure.IsArray (.table es) →
      s.failure.reasonFlags.get? code = none) := by
  have hpreset : Assoc.get? "reason_flags" (Group.failure.entries (Settings.preset f)) =
      some (Settings.preset f).failure.reasonFlags.toTree := rfl
  rw [Tree.givenFlag?, Group.given?, Group.IsArray, Tree.get?]
  cases h with
  | absent file spells =>
    obtain ⟨fs, ⟨⟩, hflags⟩ := Group.spells_reasonFlags spells
    rw [Tree.field_of_some hpreset, NameMap.ofTree?_toTree] at hflags
    rw [file, ← Option.some.inj hflags]
    refine ⟨?_, fun _ _ => rfl, ?_⟩
    · rintro t ⟨⟩
    · rintro - ⟨_, ⟨⟩⟩
  | @table ts file distinct spells =>
    obtain ⟨fs, ⟨⟩, hflags⟩ := Group.spells_reasonFlags spells
    rw [file]
    have hno : ¬ ∃ ts', some (Tree.table ts) = some (Tree.array ts') := by
      rintro ⟨_, ⟨⟩⟩
    simp only [Option.bind_some, Tree.fields?]
    cases hgiven : Assoc.get? "reason_flags" ts with
    | none =>
      have hmerged : Assoc.get? "reason_flags"
          (Tree.mergeEntries (Group.failure.entries (Settings.preset f)) ts) =
            some (Settings.preset f).failure.reasonFlags.toTree := by
        rw [Tree.get?_mergeEntries_of_none hgiven, hpreset]
      rw [Tree.field_of_some hmerged, NameMap.ofTree?_toTree] at hflags
      rw [← Option.some.inj hflags]
      refine ⟨?_, fun _ _ => rfl, fun _ h => absurd h hno⟩
      rintro t ⟨⟩
    | some t =>
      have hmerged : Assoc.get? "reason_flags"
          (Tree.mergeEntries (Group.failure.entries (Settings.preset f)) ts) =
            some ((Settings.preset f).failure.reasonFlags.toTree.merge t) := by
        rw [Tree.get?_mergeEntries_of_some distinct.keys hgiven, hpreset, Option.elim_some]
      rw [Tree.field_of_some hmerged] at hflags
      obtain ⟨hsome, hnone⟩ := NameMap.get?_of_merge hflags (distinct.get? hgiven) code
      exact ⟨hsome, fun h _ => hnone h, fun _ h => absurd h hno⟩
  | @array ts file distinct spells =>
    obtain ⟨fs, hfs, hflags⟩ := Group.spells_reasonFlags spells
    rw [file, Option.bind_some, hfs, Option.bind_some]
    cases hgiven : Assoc.get? "reason_flags" fs with
    | none =>
      rw [Tree.field_of_none hgiven] at hflags
      rw [← Option.some.inj hflags]
      refine ⟨?_, fun _ h => absurd ⟨ts, rfl⟩ h, fun _ _ => rfl⟩
      rintro t ⟨⟩
    | some t =>
      rw [Tree.field_of_some hgiven] at hflags
      obtain ⟨l, rfl⟩ := NameMap.exists_table_of_ofTree? hflags
      obtain ⟨hnone, hsome⟩ :=
        NameMap.get?_of_ofTree? hflags (distinct.field hfs hgiven).keys code
      exact ⟨hsome, fun _ h => absurd ⟨ts, rfl⟩ h, fun h _ => hnone h⟩

end Overlay

namespace Settings

variable {es : List (String × Tree)} {f : Flow} {s : Settings}

theorem flow_of_ofTree? (h : ofTree? (.table es) = some s) :
    Tree.field es "flow" .pushLogin Flow.ofTree? = some s.flow := by
  cases s
  simp only [ofTree?, Tree.fields?, Option.bind_eq_bind, Option.bind_eq_some_iff,
    Option.some.injEq] at h
  obtain ⟨fs, rfl, _, hflow, _, -, _, -, _, -, _, -, _, -, _, -, _, -, heq⟩ := h
  cases heq
  exact hflow

/-- The flow that a file names is what is read as the flow of a preset with the file over it. -/
theorem field_flow_of_merge (keys : (es.map Prod.fst).Nodup) (hf : (Tree.table es).flow? = some f)
    {rs : List (String × Tree)} (hmerge : (preset f).toTree.merge (.table es) = .table rs) :
    Tree.field rs "flow" .pushLogin Flow.ofTree? = some f := by
  obtain ⟨base, hbase, hflow⟩ : ∃ base, (preset f).toTree = .table base ∧
      Assoc.get? "flow" base = some (Tree.string (preset f).flow.name) := ⟨_, rfl, rfl⟩
  rw [hbase, Tree.merge] at hmerge
  cases hmerge
  rw [Tree.flow?, Tree.get?] at hf
  cases hfile : Assoc.get? "flow" es with
  | none =>
    rw [Tree.field_of_some ((Tree.get?_mergeEntries_of_none hfile).trans hflow), preset_flow]
    exact Flow.ofName?_name f
  | some t =>
    rw [hfile] at hf
    have hmerged : Assoc.get? "flow" (Tree.mergeEntries base es) = some t := by
      rw [Tree.get?_mergeEntries_of_some keys hfile, hflow, Option.elim_some,
        Tree.merge_of_base_not_table (rfl : (Tree.string _).isTable = false)]
    rw [Tree.field_of_some hmerged]
    exact hf

/-- The flow that a file names is that of the settings. -/
theorem flow_eq_of_merge (keys : (es.map Prod.fst).Nodup) (hf : (Tree.table es).flow? = some f)
    (h : ofTree? ((preset f).toTree.merge (.table es)) = some s) : s.flow = f := by
  obtain ⟨rs, hmerge⟩ := exists_merge_toTree (preset f) es
  rw [hmerge] at h
  exact Option.some.inj ((flow_of_ofTree? h).symm.trans (field_flow_of_merge keys hf hmerge))

theorem ofOverlay?_eq_some_iff {overlay : Tree} :
    ofOverlay? overlay = some s ↔
      ∃ f, overlay.flow? = some f ∧ ofTree? ((preset f).toTree.merge overlay) = some s := by
  have heq : ofOverlay? overlay =
      overlay.flow?.bind fun f => ofTree? ((preset f).toTree.merge overlay) := by
    rw [ofOverlay?, Tree.flow?]
    cases overlay.get? "flow" <;> rfl
  rw [heq, Option.bind_eq_some_iff]

/-- **What a settings file changes.** The settings of a file that is accepted are those of the
preset of its flow, except for the settings that it gives, and for those of a section that it writes
as an array: what the array does not reach is the general default. -/
theorem parse_overrides {text : String} (h : parse text = .ok s) :
    ∃ overlay f, Toml.parse? text.toList = some overlay ∧ overlay.flow? = some f ∧
      Overrides overlay f s := by
  unfold parse at h
  split at h
  · cases h
  · rename_i s' hread
    obtain ⟨rfl, -⟩ := checked_eq_ok_iff.mp h
    obtain ⟨overlay, hparse, hoverlay⟩ := Option.bind_eq_some_iff.mp hread
    obtain ⟨f, hf, hs⟩ := ofOverlay?_eq_some_iff.mp hoverlay
    obtain ⟨distinct, es, rfl⟩ := Toml.parse?_distinct hparse
    have stands := Group.stands distinct hs
    refine ⟨_, f, hparse, hf, ?_⟩
    exact
      { flow := flow_eq_of_merge distinct.keys hf hs
        given := fun g x hx => ((stands g).settings hx).1
        kept := fun g x hx => ((stands g).settings hx).2.1
        dropped := fun g x hx => ((stands g).settings hx).2.2
        flagGiven := fun code => ((stands .failure).flags code).1
        flagKept := fun code => ((stands .failure).flags code).2.1
        flagDropped := fun code => ((stands .failure).flags code).2.2 }

/-- A file that gives a base URL, in a table, and a budget. -/
def partly : String :=
  "flow = \"registration\"\n[endpoint]\nbase_url = \"http://127.0.0.1:8080\"\n" ++
    "[retry]\nmax_consecutive_failures = 5\n"

theorem parse_overrides_partly :
    ∃ s, parse partly = .ok s ∧ s.flow = .registration ∧
      s.endpoint.baseUrl = "http://127.0.0.1:8080" ∧ s.endpoint.idParam = "requestId" := by
  have hok : (parse partly).isOk = true := by decide +kernel
  have hfile : (Toml.parse? partly.toList).map (fun overlay =>
      (overlay.flow?, (Group.endpoint.given? overlay "base_url").bind Tree.asString?,
        (Group.endpoint.given? overlay "id_param").isNone,
        (overlay.get? "endpoint").any Tree.isTable)) =
      some (some .registration, some "http://127.0.0.1:8080", true, true) := by
    decide +kernel
  cases hs : parse partly with
  | error => simp [hs, Except.isOk, Except.toBool] at hok
  | ok s =>
    obtain ⟨overlay, f, hparse, hf, h⟩ := parse_overrides hs
    simp only [hparse, hf, Option.map_some, Option.some.injEq, Prod.mk.injEq] at hfile
    obtain ⟨rfl, hbase, hfree, htable⟩ := hfile
    obtain ⟨t, ht, hbase⟩ := Option.bind_eq_some_iff.mp hbase
    have hgiven := h.given .endpoint _ (.head _) t ht
    have hnot : ¬ Group.endpoint.IsArray overlay := by
      rintro ⟨ts, hts⟩
      rw [show overlay.get? "endpoint" = some (.array ts) from hts] at htable
      cases htable
    have hkept := h.kept .endpoint _ (.tail _ (.tail _ (.head _)))
      (Option.isNone_iff_eq_none.mp hfree) hnot
    exact ⟨s, rfl, h.flow, Option.some.inj (hgiven.symm.trans hbase), hkept⟩

/-- A file that gives a base URL, in an array. -/
def listed : String :=
  "flow = \"push-key\"\nendpoint = [\"http://127.0.0.1:8080\"]\n"

/-- A setting that a file does not give may differ from that of the preset of its flow. -/
theorem not_kept :
    ¬ ∀ text s overlay f, parse text = .ok s → Toml.parse? text.toList = some overlay →
      overlay.flow? = some f → ∀ g : Group, ∀ x ∈ g.settings,
        g.given? overlay x.name = none → x.get s = x.get (preset f) := by
  intro h
  have hpath : (parse listed).toOption.map (·.endpoint.path) =
      some "/cas/inalogy/check/login" := by
    decide +kernel
  have hfile : (Toml.parse? listed.toList).map (fun overlay =>
      (overlay.flow?, (Group.endpoint.given? overlay "path").isNone)) =
      some (some .pushKey, true) := by
    decide +kernel
  obtain ⟨overlay, hparse, hfile⟩ := Option.map_eq_some_iff.mp hfile
  obtain ⟨hf, hfree⟩ := Prod.mk.inj hfile
  cases hs : parse listed with
  | error => simp [hs, Except.toOption] at hpath
  | ok s =>
    rw [hs] at hpath
    have hkept := h listed s overlay .pushKey hs hparse hf .endpoint _ (.tail _ (.head _))
      (Option.isNone_iff_eq_none.mp hfree)
    have hpath : s.endpoint.path = "/cas/inalogy/check/login" := Option.some.inj hpath
    rw [show s.endpoint.path = "/cas/inalogy/check" from hkept] at hpath
    exact absurd hpath (by decide)

end Settings

end ApprovalWatch
