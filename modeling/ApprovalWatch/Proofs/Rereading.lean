import ApprovalWatch.Proofs.Overrides
import ApprovalWatch.Proofs.Rules
import ApprovalWatch.Proofs.Writing

/-!
# Settings written to a file and read back

Settings can be spelled out in a file, every one of them. Such a file is laid over the preset of its
flow like any other, and so the settings come back, but for one thing: the flags of reasons are laid
over those of the preset one by one. A code that the preset flags keeps its flag if the settings
have none for it, unless the section with the flags is written as an array.

Main results:

* `Settings.ofTree?_of_spells`: a table is read if its sections are.
* `Tree.SpellsOut.ofTree?_merge_of_table`, `Tree.SpellsOut.ofTree?_merge_of_array`: what is read
  from a file that spells out settings.
* `Settings.Fits.spellsOut_toTree`: the tree of settings spells them out.
* `Settings.reread`: what becomes of settings that are written and read back.
* `Settings.not_reread`: settings may not come back as they were.
-/

namespace ApprovalWatch

/-! ## Sections and settings from what is read -/

section Forward

variable {t : Tree} {s : Settings} {g : Group} {fs : List (String × Tree)}

/-- A section whose settings are read from its fields is spelled out by them. -/
theorem Group.spells_of_reads (hfs : t.fields? g.names = some fs)
    (reads : ∀ x ∈ g.settings, x.Reads fs s)
    (flags : g = .failure →
      Tree.field fs "reason_flags" ({} : FailurePage).reasonFlags NameMap.ofTree? =
        some s.failure.reasonFlags) :
    g.Spells t s := by
  cases g with
  | page =>
    simp only [settings, List.forall_mem_cons, Setting.Reads] at reads
    obtain ⟨h₁, h₂, h₃, h₄, h₅, h₆, -⟩ := reads
    rw [names] at hfs
    simp [Spells, PageNames.ofTree?, hfs, h₁, h₂, h₃, h₄, h₅, h₆]
  | endpoint =>
    simp only [settings, List.forall_mem_cons, Setting.Reads] at reads
    obtain ⟨h₁, h₂, h₃, h₄, -⟩ := reads
    rw [names] at hfs
    simp [Spells, Endpoint.ofTree?, hfs, h₁, h₂, h₃, h₄]
  | statuses =>
    simp only [settings, List.forall_mem_cons, Setting.Reads] at reads
    obtain ⟨h₁, h₂, -⟩ := reads
    rw [names] at hfs
    simp [Spells, Statuses.ofTree?, hfs, h₁, h₂]
  | retry =>
    simp only [settings, List.forall_mem_cons, Setting.Reads] at reads
    obtain ⟨h₁, h₂, -⟩ := reads
    rw [names] at hfs
    simp [Spells, Retry.ofTree?, hfs, h₁, h₂]
  | deadline =>
    simp only [settings, List.forall_mem_cons, Setting.Reads] at reads
    obtain ⟨h₁, h₂, h₃, -⟩ := reads
    rw [names] at hfs
    simp [Spells, DeadlineSettings.ofTree?, hfs, h₁, h₂, h₃]
  | failure =>
    simp only [settings, List.forall_mem_cons, Setting.Reads] at reads
    obtain ⟨h₁, -⟩ := reads
    rw [names] at hfs
    simp [Spells, FailurePage.ofTree?, hfs, h₁, flags rfl]
  | logging =>
    simp only [settings, List.forall_mem_cons, Setting.Reads] at reads
    obtain ⟨h₁, h₂, -⟩ := reads
    rw [names] at hfs
    simp [Spells, Logging.ofTree?, hfs, h₁, h₂]

/-- A table that spells out the flow and every section is read as the settings. -/
theorem Settings.ofTree?_of_spells {es : List (String × Tree)}
    (flow : Tree.field es "flow" .pushLogin Flow.ofTree? = some s.flow)
    (sections : ∀ g : Group, ∃ t, Assoc.get? g.name es = some t ∧ g.Spells t s) :
    ofTree? (.table es) = some s := by
  have hsection : ∀ {α : Type} {read : Tree → Option α} {a : α} (default : α) (g : Group),
      (∀ t, g.Spells t s → read t = some a) → Tree.field es g.name default read = some a := by
    intro α read a default g hread
    obtain ⟨t, ht, hspells⟩ := sections g
    rw [Tree.field_of_some ht]
    exact hread t hspells
  have hpage := hsection ({} : PageNames) .page fun _ h => h
  have hendpoint := hsection ({} : Endpoint) .endpoint fun _ h => h
  have hstatuses := hsection ({} : Statuses) .statuses fun _ h => h
  have hretry := hsection ({} : Retry) .retry fun _ h => h
  have hdeadline := hsection ({} : DeadlineSettings) .deadline fun _ h => h
  have hfailure := hsection ({} : FailurePage) .failure fun _ h => h
  have hlogging := hsection ({} : Logging) .logging fun _ h => h
  simp only [Group.name] at hpage hendpoint hstatuses hretry hdeadline hfailure hlogging
  simp [ofTree?, Tree.fields?, flow, hpage, hendpoint, hstatuses, hretry, hdeadline, hfailure,
    hlogging]

end Forward

/-! ## Files that spell out settings -/

/-- A map of names laid over another. -/
def NameMap.over (m base : NameMap) : NameMap :=
  m.entries.foldl (fun b p => b.insert p.1 p.2) base

theorem NameMap.get?_over (m base : NameMap) (code : String) :
    (m.over base).get? code = (m.get? code).or (base.get? code) :=
  get?_foldl_insert m.nodup_entries base code

/-- A table of texts over the tree of a map is read as the map of the texts over the other. -/
theorem NameMap.ofTree?_merge_toTree {m base : NameMap} {l : List (String × Tree)}
    (keys : (l.map Prod.fst).Nodup) (h : ∀ code, Assoc.get? code l = (m.get? code).map .string) :
    ofTree? (base.toTree.merge (.table l)) = some (m.over base) := by
  have hbase : ∀ code, Assoc.get? code (base.entries.map fun p => (p.1, Tree.string p.2)) =
      (base.get? code).map .string := base.get?_toTree
  rw [toTree, Tree.merge]
  refine ofTree?_of_get? (Tree.nodup_mergeEntries ?_ l) fun code => ?_
  · rw [List.map_map]
    exact base.nodup_entries
  rw [get?_over]
  cases hm : m.get? code with
  | none =>
    have hl : Assoc.get? code l = none := by rw [h, hm, Option.map_none]
    rw [Tree.get?_mergeEntries_of_none hl, hbase, Option.none_or]
  | some text =>
    have hl : Assoc.get? code l = some (.string text) := by rw [h, hm, Option.map_some]
    rw [Tree.get?_mergeEntries_of_some keys hl, hbase, Option.some_or, Option.map_some]
    cases base.get? code with
    | none => rfl
    | some old => rw [Option.map_some, Option.elim_some, Tree.merge_of_isTable_eq_false rfl]

/-- A file spells out settings: it gives every setting and every flag of a reason as they have it.
What it may leave out is a setting that the settings have from the presets, and that is the same in
all of them. -/
structure Tree.SpellsOut (overlay : Tree) (s : Settings) : Prop where
  flow : overlay.flow? = some s.flow
  sections : ∀ g : Group, ∃ t fs, overlay.get? g.name = some t ∧ t.fields? g.names = some fs
  settings : ∀ g : Group, ∀ x ∈ g.settings,
    (g.given? overlay x.name).elim (∀ f, x.get s = x.get (Settings.preset f))
      fun t => x.read t = some (x.get s)
  flags : ∀ t, Group.failure.given? overlay "reason_flags" = some t → t.isTable = true
  flag : ∀ code, overlay.givenFlag? code = (s.failure.reasonFlags.get? code).map .string

namespace Settings

/-- The settings with other flags of reasons. -/
def withFlags (s : Settings) (flags : NameMap) : Settings :=
  { s with failure := { s.failure with reasonFlags := flags } }

/-- The settings with the flags of the preset for reasons that have no flag. -/
def withPresetFlags (s : Settings) : Settings :=
  s.withFlags (s.failure.reasonFlags.over (preset s.flow).failure.reasonFlags)

theorem get_withFlags (s : Settings) (flags : NameMap) {g : Group} :
    ∀ x ∈ g.settings, x.get (s.withFlags flags) = x.get s := by
  cases g <;> simp [Group.settings, withFlags]

theorem sameIn_withFlags (s : Settings) (flags : NameMap) (r : Rule) :
    r.SameIn s (s.withFlags flags) := by
  cases r with
  | terminalFailures => exact ⟨rfl, rfl⟩
  | _ => exact rfl

end Settings

section Reading

variable {x : Setting} {es base ts : List (String × Tree)} {s s' : Settings} {g : Group}
  {overlay : Tree}

theorem Setting.Spelled.reads (h : x.Spelled base s) : x.Reads base s := by
  unfold Spelled at h
  rw [Reads]
  cases hget : Assoc.get? x.name base with
  | none =>
    rw [hget] at h
    rw [Tree.field_of_none hget, h]
  | some t =>
    rw [hget] at h
    rw [Tree.field_of_some hget]
    exact h.2

/-- A setting is read from a table over another where others are spelled out, if the table gives it,
or if it is the same in those. -/
theorem Setting.Spelled.reads_mergeEntries (h : x.Spelled base s')
    (keys : (ts.map Prod.fst).Nodup)
    (given : (Assoc.get? x.name ts).elim (x.get s = x.get s') fun t => x.read t = some (x.get s)) :
    x.Reads (Tree.mergeEntries base ts) s := by
  rw [Reads]
  cases hts : Assoc.get? x.name ts with
  | none =>
    rw [hts, Option.elim_none] at given
    rw [Tree.field, Tree.get?_mergeEntries_of_none hts, given]
    exact h.reads
  | some t =>
    rw [hts, Option.elim_some] at given
    rw [Tree.field_of_some (h.get?_mergeEntries keys hts)]
    exact given

namespace Tree.SpellsOut

/-- The settings of a section of a file are read from it, over the section of the preset. -/
theorem reads (h : (Tree.table es).SpellsOut s) (distinct : (Tree.table es).Distinct) (g : Group) :
    ∃ t fs, Assoc.get? g.name es = some t ∧
      (Tree.merge (.table (g.entries (Settings.preset s.flow))) t).fields? g.names = some fs ∧
      ∀ x ∈ g.settings, x.Reads fs s := by
  obtain ⟨t, fs, ht, hfs⟩ := h.sections g
  have hgiven : ∀ x ∈ g.settings, (Assoc.get? x.name fs).elim
      (∀ f, x.get s = x.get (Settings.preset f)) fun t => x.read t = some (x.get s) := by
    intro x hx
    have hx := h.settings g x hx
    rw [Group.given?, ht, Option.bind_some, hfs, Option.bind_some] at hx
    exact hx
  cases t with
  | table ts =>
    cases hfs
    refine ⟨_, _, ht, by rw [Tree.merge, Tree.fields?], fun x hx => ?_⟩
    refine ((Settings.preset_fits s.flow).spelled g x hx).reads_mergeEntries
      (distinct.get? ht).keys ?_
    have hx := hgiven x hx
    cases hts : Assoc.get? x.name fs with
    | none =>
      rw [hts] at hx
      exact hx s.flow
    | some t =>
      rw [hts] at hx
      exact hx
  | array ts =>
    refine ⟨_, fs, ht, by rw [Tree.merge, hfs], fun x hx => ?_⟩
    have hx := hgiven x hx
    rw [Setting.Reads, Tree.field]
    cases hts : Assoc.get? x.name fs with
    | none =>
      rw [hts] at hx
      exact congrArg some (hx .pushLogin).symm
    | some t =>
      rw [hts] at hx
      exact hx
  | _ => cases hfs

/-- The flags that a file gives, if it gives any. -/
theorem flags_cases (h : (Tree.table es).SpellsOut s) {t : Tree} {fs : List (String × Tree)}
    (ht : Assoc.get? Group.failure.name es = some t)
    (hfs : t.fields? Group.failure.names = some fs) :
    (Assoc.get? "reason_flags" fs = none ∧ ∀ code, s.failure.reasonFlags.get? code = none) ∨
      ∃ l, Assoc.get? "reason_flags" fs = some (.table l) ∧
        ∀ code, Assoc.get? code l = (s.failure.reasonFlags.get? code).map .string := by
  have hgiven : Group.failure.given? (.table es) "reason_flags" =
      Assoc.get? "reason_flags" fs := by
    rw [Group.given?, Tree.get?, ht, Option.bind_some, hfs, Option.bind_some]
  have hflag := h.flag
  have hflags := h.flags
  simp only [Tree.givenFlag?, hgiven] at hflag hflags
  cases hreason : Assoc.get? "reason_flags" fs with
  | none =>
    rw [hreason] at hflag
    exact .inl ⟨rfl, fun code => Option.map_eq_none_iff.mp (hflag code).symm⟩
  | some u =>
    obtain ⟨l, rfl⟩ := Tree.exists_of_isTable (hflags u hreason)
    rw [hreason] at hflag
    exact .inr ⟨l, rfl, hflag⟩

/-- In a table, flags are laid over those of the preset. -/
theorem flags_of_table (h : (Tree.table es).SpellsOut s) (distinct : (Tree.table es).Distinct)
    (ht : Assoc.get? Group.failure.name es = some (.table ts)) (p : Settings) :
    Tree.field (Tree.mergeEntries (Group.failure.entries p) ts) "reason_flags"
        ({} : FailurePage).reasonFlags NameMap.ofTree? =
      some (s.failure.reasonFlags.over p.failure.reasonFlags) := by
  have hbase : Assoc.get? "reason_flags" (Group.failure.entries p) =
      some p.failure.reasonFlags.toTree := rfl
  obtain ⟨hnone, hfree⟩ | ⟨l, hl, hflag⟩ := h.flags_cases ht rfl
  · rw [Tree.field_of_some ((Tree.get?_mergeEntries_of_none hnone).trans hbase),
      NameMap.ofTree?_toTree]
    refine congrArg some (NameMap.eq_of_get? fun code => ?_)
    rw [NameMap.get?_over, hfree, Option.none_or]
  · have hmerged : Assoc.get? "reason_flags" (Tree.mergeEntries (Group.failure.entries p) ts) =
        some (p.failure.reasonFlags.toTree.merge (.table l)) := by
      rw [Tree.get?_mergeEntries_of_some (distinct.get? ht).keys hl, hbase, Option.elim_some]
    rw [Tree.field_of_some hmerged]
    exact NameMap.ofTree?_merge_toTree ((distinct.get? ht).get? hl).keys hflag

/-- In an array, flags are as they are given. -/
theorem flags_of_array (h : (Tree.table es).SpellsOut s) (distinct : (Tree.table es).Distinct)
    {items : List Tree} {fs : List (String × Tree)}
    (ht : Assoc.get? Group.failure.name es = some (.array items))
    (hfs : (Tree.array items).fields? Group.failure.names = some fs) :
    Tree.field fs "reason_flags" ({} : FailurePage).reasonFlags NameMap.ofTree? =
      some s.failure.reasonFlags := by
  obtain ⟨hnone, hfree⟩ | ⟨l, hl, hflag⟩ := h.flags_cases ht hfs
  · rw [Tree.field_of_none hnone]
    refine congrArg some (NameMap.eq_of_get? fun code => ?_)
    rw [hfree]
    rfl
  · rw [Tree.field_of_some hl]
    exact NameMap.ofTree?_of_get? ((distinct.get? ht).field hfs hl).keys hflag

/-- What is read from a file that spells out settings, given the flags that are read. -/
theorem ofTree?_merge (h : (Tree.table es).SpellsOut s) (distinct : (Tree.table es).Distinct)
    {flags : NameMap} (hflags : ∀ t fs, Assoc.get? Group.failure.name es = some t →
      (Tree.merge (.table (Group.failure.entries (Settings.preset s.flow))) t).fields?
        Group.failure.names = some fs →
      Tree.field fs "reason_flags" ({} : FailurePage).reasonFlags NameMap.ofTree? = some flags) :
    Settings.ofTree? ((Settings.preset s.flow).toTree.merge (.table es)) =
      some (s.withFlags flags) := by
  obtain ⟨rs, hmerge⟩ := Settings.exists_merge_toTree (Settings.preset s.flow) es
  rw [hmerge]
  refine Settings.ofTree?_of_spells (Settings.field_flow_of_merge distinct.keys h.flow hmerge)
    fun g => ?_
  obtain ⟨t, fs, ht, hfs, hreads⟩ := h.reads distinct g
  have hget := Group.get?_merge_toTree distinct.keys (Settings.preset s.flow) g
  rw [hmerge, ht, Option.elim_some] at hget
  refine ⟨_, hget, Group.spells_of_reads hfs (fun x hx => ?_) ?_⟩
  · rw [Setting.Reads, Settings.get_withFlags s flags x hx]
    exact hreads x hx
  · rintro rfl
    exact hflags t fs ht hfs

/-- With flags in a table, the settings come back with flags of the preset. -/
theorem ofTree?_merge_of_table (h : (Tree.table es).SpellsOut s)
    (distinct : (Tree.table es).Distinct) (hnot : ¬ Group.failure.IsArray (.table es)) :
    Settings.ofTree? ((Settings.preset s.flow).toTree.merge (.table es)) =
      some s.withPresetFlags := by
  refine h.ofTree?_merge distinct fun t fs ht hfs => ?_
  cases t with
  | table ts =>
    rw [Tree.merge] at hfs
    cases hfs
    exact h.flags_of_table distinct ht _
  | array items => exact absurd ⟨items, ht⟩ hnot
  | _ =>
    rw [Tree.merge] at hfs
    cases hfs

/-- With flags in an array, the settings come back as they were. -/
theorem ofTree?_merge_of_array (h : (Tree.table es).SpellsOut s)
    (distinct : (Tree.table es).Distinct) (harray : Group.failure.IsArray (.table es)) :
    Settings.ofTree? ((Settings.preset s.flow).toTree.merge (.table es)) = some s := by
  obtain ⟨items, hitems⟩ := harray
  have hsame : s = s.withFlags s.failure.reasonFlags := rfl
  refine (h.ofTree?_merge distinct fun t fs ht hfs => ?_).trans (congrArg some hsame.symm)
  obtain rfl : Tree.array items = t := Option.some.inj (hitems.symm.trans ht)
  rw [Tree.merge] at hfs
  exact h.flags_of_array distinct ht hfs

end Tree.SpellsOut

end Reading

/-! ## Trees of settings -/

namespace Settings

variable {s : Settings}

/-- A setting that is not written is one that no preset has. -/
theorem get_eq_preset_of_unwritten {g : Group} : ∀ x ∈ g.settings,
    Assoc.get? x.name (g.entries s) = none → ∀ f, x.get s = x.get (preset f) := by
  have written : ∀ {t : Tree} {p : Prop}, some t = none → p :=
    fun h => absurd h (Option.some_ne_none _)
  cases g with
  | retry =>
    simp only [Group.settings, List.forall_mem_cons]
    refine ⟨written, fun hnone f => ?_, List.forall_mem_nil _⟩
    cases hbudget : s.retry.maxConsecutiveFailures with
    | none => cases f <;> rfl
    | some n => simp [Group.entries, Group.tree, Retry.toTree, hbudget, Assoc.get?] at hnone
  | page =>
    simp only [Group.settings, List.forall_mem_cons]
    exact ⟨written, written, written, written, written, written, List.forall_mem_nil _⟩
  | endpoint =>
    simp only [Group.settings, List.forall_mem_cons]
    exact ⟨written, written, written, written, List.forall_mem_nil _⟩
  | deadline =>
    simp only [Group.settings, List.forall_mem_cons]
    exact ⟨written, written, written, List.forall_mem_nil _⟩
  | statuses =>
    simp only [Group.settings, List.forall_mem_cons]
    exact ⟨written, written, List.forall_mem_nil _⟩
  | failure =>
    simp only [Group.settings, List.forall_mem_cons]
    exact ⟨written, List.forall_mem_nil _⟩
  | logging =>
    simp only [Group.settings, List.forall_mem_cons]
    exact ⟨written, written, List.forall_mem_nil _⟩

/-- A tree with the fields of all sections spells the settings out. -/
theorem Fits.spellsOut_of_fields (h : s.Fits) {overlay : Tree} (flow : overlay.flow? = some s.flow)
    (sections : ∀ g : Group, ∃ t, overlay.get? g.name = some t ∧
      t.fields? g.names = some (g.entries s)) : overlay.SpellsOut s := by
  have hgiven : ∀ (g : Group) (field : String),
      g.given? overlay field = Assoc.get? field (g.entries s) := by
    intro g field
    obtain ⟨t, ht, hfields⟩ := sections g
    rw [Group.given?, ht, Option.bind_some, hfields, Option.bind_some]
  have hflags : Group.failure.given? overlay "reason_flags" =
      some s.failure.reasonFlags.toTree := hgiven .failure "reason_flags"
  refine ⟨flow, fun g => ?_, fun g x hx => ?_, fun t ht => ?_, fun code => ?_⟩
  · obtain ⟨t, ht, hfields⟩ := sections g
    exact ⟨t, _, ht, hfields⟩
  · have hspelled := h.spelled g x hx
    unfold Setting.Spelled at hspelled
    rw [hgiven]
    cases hget : Assoc.get? x.name (g.entries s) with
    | none => exact get_eq_preset_of_unwritten x hx hget
    | some t =>
      rw [hget] at hspelled
      exact hspelled.2
  · rw [hflags] at ht
    cases ht
    rfl
  · rw [Tree.givenFlag?, hflags, Option.bind_some, NameMap.get?_toTree]

/-- The tree of settings spells them out. -/
theorem Fits.spellsOut_toTree (h : s.Fits) : s.toTree.SpellsOut s := by
  refine h.spellsOut_of_fields (Flow.ofTree?_toTree s.flow) fun g => ?_
  refine ⟨_, Group.get?_toTree s g, ?_⟩
  rw [Group.tree_eq]
  rfl

/-- The entries of the tree of settings. -/
def entries (s : Settings) : List (String × Tree) :=
  match s.toTree with
  | .table es => es
  | _ => []

/-- The entries of the tree of settings, with the section of the failure page as an array. -/
def listedEntries (s : Settings) : List (String × Tree) :=
  Assoc.set "failure" (.array [.string s.failure.destination, s.failure.reasonFlags.toTree])
    s.entries

/-- The tree of settings with the failure page as an array spells them out, too. -/
theorem Fits.spellsOut_listed (h : s.Fits) : (Tree.table s.listedEntries).SpellsOut s := by
  refine h.spellsOut_of_fields (Flow.ofTree?_toTree s.flow) fun g => ?_
  by_cases hg : g = .failure
  · rw [hg]
    exact ⟨_, Assoc.get?_set_self "failure" _ s.entries, rfl⟩
  · have hne : "failure" ≠ g.name := by
      cases g with
      | failure => exact absurd rfl hg
      | _ => decide
    refine ⟨_, (Assoc.get?_set_ne hne _ s.entries).trans (Group.get?_toTree s g), ?_⟩
    rw [Group.tree_eq]
    rfl

/-! ### Files -/

/-- The numbers of settings can be written in a file: they are in its range for whole numbers and in
those of the settings. -/
structure Storable (s : Settings) : Prop where
  requestTimeoutSecs : s.endpoint.requestTimeoutSecs ≤ 0x7FFFFFFFFFFFFFFF
  delayMs : s.retry.delayMs ≤ 0x7FFFFFFFFFFFFFFF
  budget : ∀ n, s.retry.maxConsecutiveFailures = some n → n ≤ 0xFFFFFFFF

theorem Storable.fits (h : s.Storable) (valid : s.validate = .ok ()) : s.Fits := by
  have htimeout := (holds_of_valid valid .timeout).2
  have hrequest := h.requestTimeoutSecs
  have hdelay := h.delayMs
  refine ⟨by omega, by omega, by omega, fun n hn => ?_⟩
  have := h.budget n hn
  omega

/-- What a section holds can be written. -/
theorem Storable.plain_section (h : s.Storable) (valid : s.validate = .ok ()) (g : Group)
    (depth : Nat) : ∀ e ∈ g.entries s, e.2.Plain (depth + 2) := by
  have htimeout := (holds_of_valid valid .timeout).2
  have hrequest := h.requestTimeoutSecs
  have hdelay := h.delayMs
  have hstrings : ∀ l : List String, ∀ t ∈ l.map Tree.string, t.Plain (depth + 1) := by
    intro l t ht
    obtain ⟨n, -, rfl⟩ := List.mem_map.mp ht
    exact .string n
  cases g with
  | page =>
    simp only [Group.entries, Group.tree, PageNames.toTree, List.forall_mem_cons]
    exact ⟨.string _, .string _, .string _, .string _, .string _, .string _,
      List.forall_mem_nil _⟩
  | endpoint =>
    simp only [Group.entries, Group.tree, Endpoint.toTree, List.forall_mem_cons]
    exact ⟨.string _, .string _, .string _, .integer (by omega), List.forall_mem_nil _⟩
  | statuses =>
    simp only [Group.entries, Group.tree, Statuses.toTree, List.forall_mem_cons]
    exact ⟨.string _, .array (hstrings _), List.forall_mem_nil _⟩
  | retry =>
    simp only [Group.entries, Group.tree, Retry.toTree, List.forall_mem_cons]
    refine ⟨.integer (by omega), ?_⟩
    cases hbudget : s.retry.maxConsecutiveFailures with
    | none => exact List.forall_mem_nil _
    | some n =>
      have := h.budget n hbudget
      exact List.forall_mem_singleton.mpr (.integer (by omega))
  | deadline =>
    simp only [Group.entries, Group.tree, DeadlineSettings.toTree, List.forall_mem_cons]
    exact ⟨.boolean _, .integer (by omega), .boolean _, List.forall_mem_nil _⟩
  | failure =>
    simp only [Group.entries, Group.tree, FailurePage.toTree, List.forall_mem_cons]
    refine ⟨.string _, .table ?_ fun e he => ?_, List.forall_mem_nil _⟩
    · rw [List.map_map]
      exact s.failure.reasonFlags.nodup_entries
    · obtain ⟨p, -, rfl⟩ := List.mem_map.mp he
      exact .string p.2
  | logging =>
    simp only [Group.entries, Group.tree, Logging.toTree, List.forall_mem_cons]
    exact ⟨.string _, .boolean _, List.forall_mem_nil _⟩

/-- What the tree of settings holds can be written. -/
theorem Storable.plain (h : s.Storable) (valid : s.validate = .ok ()) (depth : Nat) :
    ∀ e ∈ s.entries, e.2.Plain (depth + 3) := by
  have hsection : ∀ g : Group, (g.tree s).Plain (depth + 3) := by
    intro g
    rw [Group.tree_eq]
    exact .table (Group.nodup_entries s g) (h.plain_section valid g depth)
  simp only [entries, toTree, List.forall_mem_cons]
  exact ⟨.string _, hsection .page, hsection .endpoint, hsection .statuses, hsection .retry,
    hsection .deadline, hsection .failure, hsection .logging, List.forall_mem_nil _⟩

/-- So can the failure page as an array. -/
theorem Storable.plain_listed (h : s.Storable) (valid : s.validate = .ok ()) (depth : Nat) :
    ∀ e ∈ s.listedEntries, e.2.Plain (depth + 3) := by
  intro e he
  obtain rfl | he := Assoc.mem_set he
  · refine .array fun t ht => ?_
    have hfields : t ∈ (Group.failure.entries s).map Prod.snd := ht
    obtain ⟨e, he, rfl⟩ := List.mem_map.mp hfields
    exact h.plain_section valid .failure depth e he
  · exact h.plain valid depth e he

theorem nodup_keys (s : Settings) : (s.entries.map Prod.fst).Nodup := by
  simp [entries, toTree]

theorem nodup_listedKeys (s : Settings) : (s.listedEntries.map Prod.fst).Nodup :=
  Assoc.nodup_set s.nodup_keys _ _

/-- The settings of the text of a file, if they are valid. -/
theorem parse_of_overlay {text : String} {overlay : Tree} {f : Flow}
    (hparse : Toml.parse? text.toList = some overlay) (hflow : overlay.flow? = some f)
    (hs : ofTree? ((preset f).toTree.merge overlay) = some s) (valid : s.validate = .ok ()) :
    parse text = .ok s := by
  have hread : (Toml.parse? text.toList).bind ofOverlay? = some s := by
    rw [hparse, Option.bind_some, ofOverlay?_eq_some_iff]
    exact ⟨f, hflow, hs⟩
  rw [parse, hread]
  exact checked_eq_ok_iff.mpr ⟨rfl, valid⟩

theorem withPresetFlags_valid (valid : s.validate = .ok ()) :
    s.withPresetFlags.validate = .ok () :=
  validate_of_sameIn valid (s.sameIn_withFlags _)

theorem withPresetFlags_eq_iff : s.withPresetFlags = s ↔
    ∀ code, s.failure.reasonFlags.get? code = none →
      (preset s.flow).failure.reasonFlags.get? code = none := by
  constructor
  · intro hsame code hfree
    have hget := NameMap.get?_over s.failure.reasonFlags (preset s.flow).failure.reasonFlags code
    have hflags := congrArg (·.failure.reasonFlags.get? code) hsame
    dsimp only [withPresetFlags, withFlags] at hflags
    rw [hflags, hfree, Option.none_or] at hget
    exact hget.symm
  · intro hnone
    have hflags : s.failure.reasonFlags.over (preset s.flow).failure.reasonFlags =
        s.failure.reasonFlags := by
      refine NameMap.eq_of_get? fun code => ?_
      rw [NameMap.get?_over]
      cases hcode : s.failure.reasonFlags.get? code with
      | none => rw [hnone code hcode, Option.none_or]
      | some flag => rw [Option.some_or]
    rw [withPresetFlags, hflags]
    rfl

theorem withPresetFlags_of_flow (h : s.flow ≠ .pushKey) : s.withPresetFlags = s := by
  refine withPresetFlags_eq_iff.mpr fun code _ => ?_
  cases hflow : s.flow with
  | pushKey => exact absurd hflow h
  | _ => rfl

/-- What becomes of settings that are written to a file and read back. -/
structure ComesBack (s : Settings) : Prop where
  /-- The tree of the settings over their preset is read as the settings with its flags, -/
  read : ofTree? ((preset s.flow).toTree.merge s.toTree) = some s.withPresetFlags
  /-- which are valid, -/
  valid : s.withPresetFlags.validate = .ok ()
  /-- where the preset only adds to the flags -/
  flag : ∀ code, s.withPresetFlags.failure.reasonFlags.get? code =
    (s.failure.reasonFlags.get? code).or ((preset s.flow).failure.reasonFlags.get? code)
  /-- and adds nothing if the settings have a flag for each code that it flags, -/
  same_iff : s.withPresetFlags = s ↔ ∀ code, s.failure.reasonFlags.get? code = none →
    (preset s.flow).failure.reasonFlags.get? code = none
  /-- as for all flows but one. -/
  same_of_flow : s.flow ≠ .pushKey → s.withPresetFlags = s
  /-- A file that spells out the settings, with flags in a table, is read as the same. -/
  table : ∀ text overlay, Toml.parse? text.toList = some overlay → overlay.SpellsOut s →
    ¬ Group.failure.IsArray overlay → parse text = .ok s.withPresetFlags
  /-- With flags in an array, it is read as the settings themselves. -/
  array : ∀ text overlay, Toml.parse? text.toList = some overlay → overlay.SpellsOut s →
    Group.failure.IsArray overlay → parse text = .ok s
  /-- The tree of the settings spells them out, -/
  spellsOut : s.toTree.SpellsOut s
  /-- there is a file that holds this tree, -/
  exists_file : ∃ text : String, Toml.parse? text.toList = some s.toTree
  /-- and one that is read as the settings themselves. -/
  exists_same : ∃ text, parse text = .ok s

/-- **Settings written to a file and read back.** Valid settings whose numbers a file can hold come
back as they were, but with the flags that their preset has for codes for which they have none; they
come back without these from a file that has the section of the flags as an array. -/
theorem reread (valid : s.validate = .ok ()) (storable : s.Storable) : s.ComesBack := by
  have hfits := storable.fits valid
  -- the trees of settings are three deep, and those of files may have eighty levels
  have hfile : Toml.parse? (String.ofList (Toml.writeFile s.entries)).toList = some s.toTree := by
    rw [String.toList_ofList]
    exact Toml.parse?_writeFile (storable.plain valid 77) s.nodup_keys
  have hlisted : Toml.parse? (String.ofList (Toml.writeFile s.listedEntries)).toList =
      some (.table s.listedEntries) := by
    rw [String.toList_ofList]
    exact Toml.parse?_writeFile (storable.plain_listed valid 77) s.nodup_listedKeys
  have hnot : ¬ Group.failure.IsArray s.toTree := by
    rintro ⟨_, ⟨⟩⟩
  have harray : ∀ text overlay, Toml.parse? text.toList = some overlay → overlay.SpellsOut s →
      Group.failure.IsArray overlay → parse text = .ok s := by
    intro text overlay hparse hspells harray
    obtain ⟨distinct, es, rfl⟩ := Toml.parse?_distinct hparse
    exact parse_of_overlay hparse hspells.flow (hspells.ofTree?_merge_of_array distinct harray)
      valid
  exact
    { read := hfits.spellsOut_toTree.ofTree?_merge_of_table (Toml.parse?_distinct hfile).1 hnot
      valid := withPresetFlags_valid valid
      flag := NameMap.get?_over _ _
      same_iff := withPresetFlags_eq_iff
      same_of_flow := withPresetFlags_of_flow
      table := by
        intro text overlay hparse hspells hnot
        obtain ⟨distinct, es, rfl⟩ := Toml.parse?_distinct hparse
        exact parse_of_overlay hparse hspells.flow
          (hspells.ofTree?_merge_of_table distinct hnot) (withPresetFlags_valid valid)
      array := harray
      spellsOut := hfits.spellsOut_toTree
      exists_file := ⟨_, hfile⟩
      exists_same :=
        ⟨_, harray _ _ hlisted hfits.spellsOut_listed ⟨_, Assoc.get?_set_self _ _ _⟩⟩ }

/-- The settings of a preset without its flags. -/
def unflagged : Settings :=
  (preset .pushKey).withFlags .empty

theorem unflagged_valid : unflagged.validate = .ok () :=
  validate_of_sameIn (preset_valid .pushKey) (sameIn_withFlags _ _)

theorem unflagged_storable : unflagged.Storable :=
  ⟨by decide, by decide, nofun⟩

theorem reread_unflagged :
    ofTree? ((preset .pushKey).toTree.merge unflagged.toTree) = some (preset .pushKey) ∧
      ∃ text, parse text = .ok unflagged := by
  have hback := reread unflagged_valid unflagged_storable
  have hpreset : unflagged.withPresetFlags = preset .pushKey := by decide
  have hread := hback.read
  rw [hpreset] at hread
  exact ⟨hread, hback.exists_same⟩

/-- Settings may come back with flags that they did not have. -/
theorem not_reread : ¬ ∀ s : Settings, s.validate = .ok () → s.Storable →
    ofTree? ((preset s.flow).toTree.merge s.toTree) = some s := by
  intro h
  have hflag : (ofTree? ((preset unflagged.flow).toTree.merge unflagged.toTree)).bind
      (·.failure.reasonFlags.get? "REJECTED") = some "pushFailed" := by
    decide +kernel
  rw [h unflagged unflagged_valid unflagged_storable] at hflag
  cases hflag

end Settings

end ApprovalWatch
