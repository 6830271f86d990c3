import ApprovalWatch.Proofs.Merging
import ApprovalWatch.Settings.Tree
import Mathlib.Data.List.Basic

/-!
# Settings one by one

Every setting has a name in a section, a way in which it is read, and a place in the settings. What
is read from a section is told setting by setting, and so is how settings are spelled out. The flags
of reasons are settings of their own, one for each code.

Main results:

* `Group.Spells.reads`: a section that is read takes its settings from its fields.
* `Settings.Fits.spelled`: settings are spelled out by the trees of their sections.
* `Settings.eq_of_agree`: settings that agree in every one of them are the same.
-/

namespace ApprovalWatch

namespace Tree

section Field

variable {α : Type} {fields : List (String × Tree)} {name : String} {read : Tree → Option α}

theorem field_of_some {t : Tree} (h : Assoc.get? name fields = some t) (default : α) :
    field fields name default read = read t := by
  rw [field, h]

theorem field_of_none (h : Assoc.get? name fields = none) (default : α) :
    field fields name default read = some default := by
  rw [field, h]

end Field

end Tree

/-! ## Settings by name -/

/-- A setting: its name in its section, how it is read, and where settings hold it. -/
structure Setting where
  {Value : Type}
  name : String
  read : Tree → Option Value
  get : Settings → Value

/-- The setting is read from the fields of its section, or has its general default. -/
def Setting.Reads (x : Setting) (fields : List (String × Tree)) (s : Settings) : Prop :=
  Tree.field fields x.name (x.get {}) x.read = some (x.get s)

/-- The sections of settings. -/
inductive Group where
  | page
  | endpoint
  | statuses
  | retry
  | deadline
  | failure
  | logging
  deriving DecidableEq, Repr

namespace Group

/-- The name of a section in files. -/
def name : Group → String
  | page => "page"
  | endpoint => "endpoint"
  | statuses => "statuses"
  | retry => "retry"
  | deadline => "deadline"
  | failure => "failure"
  | logging => "observability"

/-- The names of the fields of a section, in their order. -/
def names : Group → List String
  | page => ["identifier_field", "success_form", "countdown_container",
      "redirect_seconds_attribute", "countdown_number", "countdown_bar"]
  | endpoint => ["base_url", "path", "id_param", "request_timeout_secs"]
  | statuses => ["success", "terminal_failures"]
  | retry => ["delay_ms", "max_consecutive_failures"]
  | deadline => ["enabled", "timeout_secs", "countdown"]
  | failure => ["destination", "reason_flags"]
  | logging => ["log_level", "json_logs"]

open ApprovalWatch.Tree in
/-- The settings of a section. The flags of reasons are settings of their own, one for each code. -/
def settings : Group → List Setting
  | page =>
    [⟨"identifier_field", asString?, (·.page.identifierField)⟩,
      ⟨"success_form", asString?, (·.page.successForm)⟩,
      ⟨"countdown_container", asString?, (·.page.countdownContainer)⟩,
      ⟨"redirect_seconds_attribute", asString?, (·.page.redirectSecondsAttribute)⟩,
      ⟨"countdown_number", asString?, (·.page.countdownNumber)⟩,
      ⟨"countdown_bar", asString?, (·.page.countdownBar)⟩]
  | endpoint =>
    [⟨"base_url", asString?, (·.endpoint.baseUrl)⟩,
      ⟨"path", asString?, (·.endpoint.path)⟩,
      ⟨"id_param", asString?, (·.endpoint.idParam)⟩,
      ⟨"request_timeout_secs", asNat? 0x10000000000000000, (·.endpoint.requestTimeoutSecs)⟩]
  | statuses =>
    [⟨"success", asString?, (·.statuses.success)⟩,
      ⟨"terminal_failures", NameSet.ofTree?, (·.statuses.terminalFailures)⟩]
  | retry =>
    [⟨"delay_ms", asNat? 0x10000000000000000, (·.retry.delayMs)⟩,
      ⟨"max_consecutive_failures", fun t => (asNat? 0x100000000 t).map some,
        (·.retry.maxConsecutiveFailures)⟩]
  | deadline =>
    [⟨"enabled", asBool?, (·.deadline.enabled)⟩,
      ⟨"timeout_secs", asNat? 0x10000000000000000, (·.deadline.timeoutSecs)⟩,
      ⟨"countdown", asBool?, (·.deadline.countdown)⟩]
  | failure => [⟨"destination", asString?, (·.failure.destination)⟩]
  | logging =>
    [⟨"log_level", asString?, (·.logging.logLevel)⟩,
      ⟨"json_logs", asBool?, (·.logging.jsonLogs)⟩]

/-- The tree of a section. -/
def tree (s : Settings) : Group → Tree
  | page => s.page.toTree
  | endpoint => s.endpoint.toTree
  | statuses => s.statuses.toTree
  | retry => s.retry.toTree
  | deadline => s.deadline.toTree
  | failure => s.failure.toTree
  | logging => s.logging.toTree

/-- The tree spells out the section of the settings. -/
def Spells (t : Tree) (s : Settings) : Group → Prop
  | page => PageNames.ofTree? t = some s.page
  | endpoint => Endpoint.ofTree? t = some s.endpoint
  | statuses => Statuses.ofTree? t = some s.statuses
  | retry => Retry.ofTree? t = some s.retry
  | deadline => DeadlineSettings.ofTree? t = some s.deadline
  | failure => FailurePage.ofTree? t = some s.failure
  | logging => Logging.ofTree? t = some s.logging

variable {t : Tree} {s : Settings} {g : Group}

/-- A section that is read takes its settings from its fields. -/
theorem Spells.reads (h : g.Spells t s) :
    ∃ fs, t.fields? g.names = some fs ∧ ∀ x ∈ g.settings, x.Reads fs s := by
  cases s
  cases g with
  | page =>
    simp only [Spells, PageNames.ofTree?, Option.bind_eq_bind, Option.bind_eq_some_iff] at h
    obtain ⟨fs, hfs, _, h₁, _, h₂, _, h₃, _, h₄, _, h₅, _, h₆, ⟨⟩⟩ := h
    refine ⟨fs, hfs, ?_⟩
    simp only [settings, List.forall_mem_cons]
    exact ⟨h₁, h₂, h₃, h₄, h₅, h₆, List.forall_mem_nil _⟩
  | endpoint =>
    simp only [Spells, Endpoint.ofTree?, Option.bind_eq_bind, Option.bind_eq_some_iff] at h
    obtain ⟨fs, hfs, _, h₁, _, h₂, _, h₃, _, h₄, ⟨⟩⟩ := h
    refine ⟨fs, hfs, ?_⟩
    simp only [settings, List.forall_mem_cons]
    exact ⟨h₁, h₂, h₃, h₄, List.forall_mem_nil _⟩
  | statuses =>
    simp only [Spells, Statuses.ofTree?, Option.bind_eq_bind, Option.bind_eq_some_iff] at h
    obtain ⟨fs, hfs, _, h₁, _, h₂, ⟨⟩⟩ := h
    refine ⟨fs, hfs, ?_⟩
    simp only [settings, List.forall_mem_cons]
    exact ⟨h₁, h₂, List.forall_mem_nil _⟩
  | retry =>
    simp only [Spells, Retry.ofTree?, Option.bind_eq_bind, Option.bind_eq_some_iff] at h
    obtain ⟨fs, hfs, _, h₁, _, h₂, ⟨⟩⟩ := h
    refine ⟨fs, hfs, ?_⟩
    simp only [settings, List.forall_mem_cons]
    exact ⟨h₁, h₂, List.forall_mem_nil _⟩
  | deadline =>
    simp only [Spells, DeadlineSettings.ofTree?, Option.bind_eq_bind, Option.bind_eq_some_iff] at h
    obtain ⟨fs, hfs, _, h₁, _, h₂, _, h₃, ⟨⟩⟩ := h
    refine ⟨fs, hfs, ?_⟩
    simp only [settings, List.forall_mem_cons]
    exact ⟨h₁, h₂, h₃, List.forall_mem_nil _⟩
  | failure =>
    simp only [Spells, FailurePage.ofTree?, Option.bind_eq_bind, Option.bind_eq_some_iff] at h
    obtain ⟨fs, hfs, _, h₁, _, -, ⟨⟩⟩ := h
    refine ⟨fs, hfs, ?_⟩
    simp only [settings, List.forall_mem_cons]
    exact ⟨h₁, List.forall_mem_nil _⟩
  | logging =>
    simp only [Spells, Logging.ofTree?, Option.bind_eq_bind, Option.bind_eq_some_iff] at h
    obtain ⟨fs, hfs, _, h₁, _, h₂, ⟨⟩⟩ := h
    refine ⟨fs, hfs, ?_⟩
    simp only [settings, List.forall_mem_cons]
    exact ⟨h₁, h₂, List.forall_mem_nil _⟩

/-- The flags of reasons are read as a whole. -/
theorem spells_reasonFlags (h : failure.Spells t s) :
    ∃ fs, t.fields? failure.names = some fs ∧
      Tree.field fs "reason_flags" ({} : FailurePage).reasonFlags NameMap.ofTree? =
        some s.failure.reasonFlags := by
  cases s
  simp only [Spells, FailurePage.ofTree?, Option.bind_eq_bind, Option.bind_eq_some_iff] at h
  obtain ⟨fs, hfs, _, -, _, h, ⟨⟩⟩ := h
  exact ⟨fs, hfs, h⟩

/-- Settings that are read from a table take each section from its tree. -/
theorem spells_of_ofTree? {es : List (String × Tree)} (h : Settings.ofTree? (.table es) = some s)
    (ht : Assoc.get? g.name es = some t) : g.Spells t s := by
  cases s
  simp only [Settings.ofTree?, Tree.fields?, Option.bind_eq_bind, Option.bind_eq_some_iff,
    Option.some.injEq] at h
  obtain ⟨fs, rfl, _, -, _, h₁, _, h₂, _, h₃, _, h₄, _, h₅, _, h₆, _, h₇, heq⟩ := h
  cases heq
  cases g with
  | page => exact (Tree.field_of_some ht _).symm.trans h₁
  | endpoint => exact (Tree.field_of_some ht _).symm.trans h₂
  | statuses => exact (Tree.field_of_some ht _).symm.trans h₃
  | retry => exact (Tree.field_of_some ht _).symm.trans h₄
  | deadline => exact (Tree.field_of_some ht _).symm.trans h₅
  | failure => exact (Tree.field_of_some ht _).symm.trans h₆
  | logging => exact (Tree.field_of_some ht _).symm.trans h₇

end Group

/-! ## Settings as they are spelled out -/

/-- Numbers of the settings fit the types in which they are read. -/
structure Settings.Fits (s : Settings) : Prop where
  requestTimeoutSecs : s.endpoint.requestTimeoutSecs < 0x10000000000000000
  delayMs : s.retry.delayMs < 0x10000000000000000
  timeoutSecs : s.deadline.timeoutSecs < 0x10000000000000000
  budget : ∀ n, s.retry.maxConsecutiveFailures = some n → n < 0x100000000

theorem Settings.preset_fits (f : Flow) : (preset f).Fits := by
  cases f <;> exact ⟨by decide, by decide, by decide, nofun⟩

namespace NameSet

theorem insertName_of_forall_lt {n : String} {l : List String} (h : ∀ m ∈ l, m < n) :
    insertName n l = l ++ [n] := by
  induction l with
  | nil => rfl
  | cons m l ih =>
    obtain ⟨hm, hl⟩ := List.forall_mem_cons.mp h
    have hne : n ≠ m := fun heq => String.lt_irrefl n (heq ▸ hm)
    rw [insertName, if_neg (String.lt_asymm hm), if_neg hne, ih hl, List.cons_append]

theorem names_foldl_insert {s : NameSet} {l : List String}
    (h : (s.names ++ l).Pairwise (· < ·)) : (l.foldl insert s).names = s.names ++ l := by
  induction l generalizing s with
  | nil => exact (List.append_nil s.names).symm
  | cons n l ih =>
    have hlt : ∀ m ∈ s.names, m < n := fun m hm =>
      (List.pairwise_append.mp h).2.2 m hm n List.mem_cons_self
    have hinsert : (s.insert n).names = s.names ++ [n] := insertName_of_forall_lt hlt
    rw [List.foldl_cons, ih, hinsert, List.append_assoc, List.singleton_append]
    rw [hinsert, List.append_assoc, List.singleton_append]
    exact h

theorem eq_of_names {s s' : NameSet} (h : s.names = s'.names) : s = s' := by
  cases s
  cases s'
  cases h
  rfl

/-- A set is the set of its names. -/
theorem ofList_names (s : NameSet) : ofList s.names = s :=
  eq_of_names (names_foldl_insert (s := empty) s.sorted)

theorem ofTree?_toTree (s : NameSet) : ofTree? s.toTree = some s := by
  have hnames : ∀ l : List String, (l.map Tree.string).mapM Tree.asString? = some l := by
    intro l
    induction l with
    | nil => rfl
    | cons n l ih => simp [Tree.asString?, ih]
  rw [ofTree?, toTree, Tree.asStrings?, hnames, Option.map_some, ofList_names]

end NameSet

namespace Group

variable {s : Settings} {g : Group}

/-- The fields of a section as they are spelled out. -/
def entries (s : Settings) (g : Group) : List (String × Tree) :=
  match g.tree s with
  | .table es => es
  | _ => []

theorem tree_eq (s : Settings) (g : Group) : g.tree s = .table (g.entries s) := by
  cases g <;> rfl

theorem get?_toTree (s : Settings) (g : Group) : s.toTree.get? g.name = some (g.tree s) := by
  cases g <;> simp [Settings.toTree, Tree.get?, Assoc.get?, name, tree]

theorem nodup_entries (s : Settings) (g : Group) : ((g.entries s).map Prod.fst).Nodup := by
  cases g with
  | retry =>
    cases h : s.retry.maxConsecutiveFailures <;> simp [entries, tree, Retry.toTree, h]
  | page => simp [entries, tree, PageNames.toTree]
  | endpoint => simp [entries, tree, Endpoint.toTree]
  | statuses => simp [entries, tree, Statuses.toTree]
  | deadline => simp [entries, tree, DeadlineSettings.toTree]
  | failure => simp [entries, tree, FailurePage.toTree]
  | logging => simp [entries, tree, Logging.toTree]

end Group

/-- The field that spells out a setting is no table, and is read as the setting. Where there is no
field, the setting is the general default. -/
def Setting.Spelled (x : Setting) (fields : List (String × Tree)) (s : Settings) : Prop :=
  match Assoc.get? x.name fields with
  | some t => t.isTable = false ∧ x.read t = some (x.get s)
  | none => x.get s = x.get {}

theorem Tree.asNat?_integer {bound n : Nat} (h : n < bound) :
    Tree.asNat? bound (.integer n) = some n := by
  have hle : 0 ≤ (n : Int) ∧ (n : Int) < bound := ⟨Int.natCast_nonneg n, by exact_mod_cast h⟩
  rw [asNat?, if_pos hle, Int.toNat_natCast]

section Spelled

variable {x : Setting} {fields : List (String × Tree)} {s : Settings}

theorem Setting.Spelled.of_some {t : Tree} (h : Assoc.get? x.name fields = some t)
    (hne : t.isTable = false) (hread : x.read t = some (x.get s)) : x.Spelled fields s := by
  rw [Spelled, h]
  exact ⟨hne, hread⟩

theorem Setting.Spelled.of_none (h : Assoc.get? x.name fields = none)
    (hget : x.get s = x.get {}) : x.Spelled fields s := by
  rw [Spelled, h]
  exact hget

end Spelled

/-- Settings are spelled out by the trees of their sections. -/
theorem Settings.Fits.spelled {s : Settings} (h : s.Fits) (g : Group) :
    ∀ x ∈ g.settings, x.Spelled (g.entries s) s := by
  cases g with
  | page =>
    simp only [Group.settings, List.forall_mem_cons]
    exact ⟨.of_some rfl rfl rfl, .of_some rfl rfl rfl, .of_some rfl rfl rfl,
      .of_some rfl rfl rfl, .of_some rfl rfl rfl, .of_some rfl rfl rfl, List.forall_mem_nil _⟩
  | endpoint =>
    simp only [Group.settings, List.forall_mem_cons]
    refine ⟨.of_some rfl rfl rfl, .of_some rfl rfl rfl, .of_some rfl rfl rfl,
      .of_some rfl rfl ?_, List.forall_mem_nil _⟩
    dsimp only
    exact Tree.asNat?_integer h.requestTimeoutSecs
  | statuses =>
    simp only [Group.settings, List.forall_mem_cons]
    exact ⟨.of_some rfl rfl rfl,
      .of_some rfl rfl (NameSet.ofTree?_toTree s.statuses.terminalFailures), List.forall_mem_nil _⟩
  | retry =>
    simp only [Group.settings, List.forall_mem_cons]
    refine ⟨.of_some rfl rfl ?_, ?_, List.forall_mem_nil _⟩
    · dsimp only
      exact Tree.asNat?_integer h.delayMs
    · cases hbudget : s.retry.maxConsecutiveFailures with
      | none =>
        refine .of_none ?_ hbudget
        simp [Group.entries, Group.tree, Retry.toTree, hbudget, Assoc.get?]
      | some n =>
        refine .of_some (t := .integer n) ?_ rfl ?_
        · simp [Group.entries, Group.tree, Retry.toTree, hbudget, Assoc.get?]
        · dsimp only
          rw [Tree.asNat?_integer (h.budget n hbudget), hbudget, Option.map_some]
  | deadline =>
    simp only [Group.settings, List.forall_mem_cons]
    refine ⟨.of_some rfl rfl rfl, .of_some rfl rfl ?_, .of_some rfl rfl rfl, List.forall_mem_nil _⟩
    dsimp only
    exact Tree.asNat?_integer h.timeoutSecs
  | failure =>
    simp only [Group.settings, List.forall_mem_cons]
    exact ⟨.of_some rfl rfl rfl, List.forall_mem_nil _⟩
  | logging =>
    simp only [Group.settings, List.forall_mem_cons]
    exact ⟨.of_some rfl rfl rfl, .of_some rfl rfl rfl, List.forall_mem_nil _⟩

/-- Settings that are read from fields where others are spelled out agree with these. -/
theorem Setting.Reads.get_eq {x : Setting} {fields : List (String × Tree)} {s s' : Settings}
    (h : x.Reads fields s) (hs' : x.Spelled fields s') : x.get s = x.get s' := by
  unfold Reads at h
  unfold Spelled at hs'
  cases hget : Assoc.get? x.name fields with
  | none =>
    rw [Tree.field_of_none hget] at h
    rw [hget] at hs'
    exact (Option.some.inj h).symm.trans hs'.symm
  | some t =>
    rw [Tree.field_of_some hget] at h
    rw [hget] at hs'
    exact Option.some.inj (h.symm.trans hs'.2)

/-! ## Flags of reasons -/

namespace NameMap

/-- Texts that are read from a table are those under its keys. -/
theorem get?_of_asStringPairs? {l : List (String × Tree)} {ps : List (String × String)}
    (h : Tree.asStringPairs? (.table l) = some ps) (code : String) :
    (Assoc.get? code l = none → Assoc.get? code ps = none) ∧
      ∀ t, Assoc.get? code l = some t →
        ∃ text, t.asString? = some text ∧ Assoc.get? code ps = some text := by
  rw [Tree.asStringPairs?] at h
  induction l generalizing ps with
  | nil =>
    cases h
    refine ⟨fun _ => rfl, ?_⟩
    rintro t ⟨⟩
  | cons e l ih =>
    rw [List.mapM_cons] at h
    simp only [Option.bind_eq_bind, Option.bind_eq_some_iff] at h
    obtain ⟨p, hp, ps, hps, ⟨⟩⟩ := h
    obtain ⟨text, htext, rfl⟩ := Option.map_eq_some_iff.mp hp
    rw [Assoc.get?, Assoc.get?]
    by_cases hk : e.1 = code
    · rw [if_pos hk, if_pos hk]
      constructor
      · rintro ⟨⟩
      · rintro t ⟨⟩
        exact ⟨text, htext, rfl⟩
    · rw [if_neg hk, if_neg hk]
      exact ih hps

theorem map_fst_of_asStringPairs? {l : List (String × Tree)} {ps : List (String × String)}
    (h : Tree.asStringPairs? (.table l) = some ps) : ps.map Prod.fst = l.map Prod.fst := by
  rw [Tree.asStringPairs?] at h
  induction l generalizing ps with
  | nil =>
    cases h
    rfl
  | cons e l ih =>
    rw [List.mapM_cons] at h
    simp only [Option.bind_eq_bind, Option.bind_eq_some_iff] at h
    obtain ⟨p, hp, ps, hps, ⟨⟩⟩ := h
    obtain ⟨text, htext, rfl⟩ := Option.map_eq_some_iff.mp hp
    rw [List.map_cons, List.map_cons, ih hps]

/-- Pairs with distinct names leave in a map what they hold. -/
theorem get?_foldl_insert {ps : List (String × String)} (keys : (ps.map Prod.fst).Nodup)
    (m : NameMap) (code : String) :
    (ps.foldl (fun m p => m.insert p.1 p.2) m).get? code =
      (Assoc.get? code ps).or (m.get? code) := by
  induction ps generalizing m with
  | nil => rfl
  | cons p ps ih =>
    obtain ⟨hnot, hkeys⟩ := List.nodup_cons.mp keys
    rw [List.foldl_cons, ih hkeys, Assoc.get?]
    by_cases hk : p.1 = code
    · have hnone : Assoc.get? code ps = none := Assoc.get?_eq_none_iff.mpr (hk ▸ hnot)
      rw [if_pos hk, hnone, Option.none_or, ← hk, get?_insert_self, Option.some_or]
    · rw [if_neg hk, get?_insert_ne (Ne.symm hk)]

/-- A map that is read from a table has the texts under its keys, and no others. -/
theorem get?_of_ofTree? {l : List (String × Tree)} {m : NameMap} (h : ofTree? (.table l) = some m)
    (keys : (l.map Prod.fst).Nodup) (code : String) :
    (Assoc.get? code l = none → m.get? code = none) ∧
      ∀ t, Assoc.get? code l = some t →
        ∃ text, t.asString? = some text ∧ m.get? code = some text := by
  obtain ⟨ps, hps, rfl⟩ := Option.map_eq_some_iff.mp h
  have hget : (ofList ps).get? code = Assoc.get? code ps := by
    have hfold := get?_foldl_insert (map_fst_of_asStringPairs? hps ▸ keys) empty code
    rw [ofList, hfold]
    exact Option.or_none
  rw [hget]
  exact get?_of_asStringPairs? hps code

/-- Only a table is read as a map. -/
theorem exists_table_of_ofTree? {t : Tree} {m : NameMap} (h : ofTree? t = some m) :
    ∃ l, t = .table l := by
  cases t with
  | table l => exact ⟨l, rfl⟩
  | _ => cases h

theorem get?_toTree (m : NameMap) (code : String) :
    m.toTree.get? code = (m.get? code).map .string := by
  rw [toTree, Tree.get?, get?]
  induction m.entries with
  | nil => rfl
  | cons p l ih =>
    rw [List.map_cons, Assoc.get?, Assoc.get?]
    by_cases hk : p.1 = code
    · rw [if_pos hk, if_pos hk, Option.map_some]
    · rw [if_neg hk, if_neg hk, ih]

/-- Maps with the same texts under all names are the same. -/
theorem entries_eq_of_get? {l l' : List (String × String)} (hl : l.Pairwise (·.1 < ·.1))
    (hl' : l'.Pairwise (·.1 < ·.1)) (h : ∀ code, Assoc.get? code l = Assoc.get? code l') :
    l = l' := by
  induction l generalizing l' with
  | nil =>
    cases l' with
    | nil => rfl
    | cons p' r' =>
      have hp := h p'.1
      rw [Assoc.get?, Assoc.get?, if_pos rfl] at hp
      cases hp
  | cons p r ih =>
    cases l' with
    | nil =>
      have hp := h p.1
      rw [Assoc.get?, Assoc.get?, if_pos rfl] at hp
      cases hp
    | cons p' r' =>
      obtain ⟨hlt, hr⟩ := List.pairwise_cons.mp hl
      obtain ⟨hlt', hr'⟩ := List.pairwise_cons.mp hl'
      simp only [Assoc.get?] at h
      have hkey : p.1 = p'.1 := by
        by_contra hne
        have hp := h p.1
        have hp' := h p'.1
        rw [if_pos rfl, if_neg (Ne.symm hne)] at hp
        rw [if_neg hne, if_pos rfl] at hp'
        -- each name would come after the other
        have hafter := hlt' _ (Assoc.mem_of_get? hp.symm)
        exact String.lt_asymm hafter (hlt _ (Assoc.mem_of_get? hp'))
      have hvalue := h p.1
      rw [if_pos rfl, if_pos hkey.symm] at hvalue
      have heq : p = p' := Prod.ext hkey (Option.some.inj hvalue)
      subst heq
      refine congrArg (p :: ·) (ih hr hr' fun code => ?_)
      by_cases hcode : p.1 = code
      · have hnone : ∀ {r : List (String × String)}, (∀ q ∈ r, p.1 < q.1) →
            Assoc.get? code r = none := by
          intro r hr
          rw [Assoc.get?_eq_none_iff, ← hcode]
          intro hmem
          obtain ⟨q, hq, heq⟩ := List.mem_map.mp hmem
          exact String.lt_irrefl p.1 (heq ▸ hr q hq)
        rw [hnone hlt, hnone hlt']
      · have htails := h code
        rw [if_neg hcode, if_neg hcode] at htails
        exact htails

theorem eq_of_get? {m m' : NameMap} (h : ∀ code, m.get? code = m'.get? code) : m = m' := by
  have hentries := entries_eq_of_get? m.sorted m'.sorted h
  cases m
  cases m'
  cases hentries
  rfl

theorem nodup_entries (m : NameMap) : (m.entries.map Prod.fst).Nodup := by
  rw [List.Nodup, List.pairwise_map]
  refine m.sorted.imp fun {p q} hlt heq => ?_
  rw [heq] at hlt
  exact String.lt_irrefl q.1 hlt

/-- A table of texts can be read. -/
theorem exists_asStringPairs? {l : List (String × Tree)}
    (h : ∀ e ∈ l, ∃ text, e.2.asString? = some text) :
    ∃ ps, Tree.asStringPairs? (.table l) = some ps := by
  rw [Tree.asStringPairs?]
  induction l with
  | nil => exact ⟨[], rfl⟩
  | cons e l ih =>
    obtain ⟨⟨text, htext⟩, hl⟩ := List.forall_mem_cons.mp h
    obtain ⟨ps, hps⟩ := ih hl
    refine ⟨(e.1, text) :: ps, ?_⟩
    rw [List.mapM_cons, hps]
    dsimp only
    rw [htext]
    rfl

/-- A table that has the texts of a map under its names, and no others, is read as the map. -/
theorem ofTree?_of_get? {l : List (String × Tree)} {m : NameMap} (keys : (l.map Prod.fst).Nodup)
    (h : ∀ code, Assoc.get? code l = (m.get? code).map .string) :
    ofTree? (.table l) = some m := by
  have htexts : ∀ e ∈ l, ∃ text, e.2.asString? = some text := by
    intro e he
    have hget := h e.1
    rw [Assoc.get?_of_mem keys he] at hget
    obtain ⟨text, -, heq⟩ := Option.map_eq_some_iff.mp hget.symm
    exact ⟨text, congrArg Tree.asString? heq.symm⟩
  obtain ⟨ps, hps⟩ := exists_asStringPairs? htexts
  have hread : ofTree? (.table l) = some (ofList ps) := by
    rw [ofTree?, hps, Option.map_some]
  rw [hread]
  refine congrArg some (eq_of_get? fun code => ?_)
  obtain ⟨hnone, hsome⟩ := get?_of_ofTree? hread keys code
  cases hm : m.get? code with
  | none => exact hnone (by rw [h, hm, Option.map_none])
  | some text =>
    obtain ⟨_, ⟨⟩, hget⟩ := hsome (.string text) (by rw [h, hm, Option.map_some])
    exact hget

theorem ofTree?_toTree (m : NameMap) : ofTree? m.toTree = some m := by
  refine ofTree?_of_get? ?_ m.get?_toTree
  rw [List.map_map]
  exact m.nodup_entries

end NameMap

/-! ## All settings -/

/-- Settings that agree in every single one are the same. -/
theorem Settings.eq_of_agree {s s' : Settings} (flow : s.flow = s'.flow)
    (agree : ∀ g : Group, ∀ x ∈ g.settings, x.get s = x.get s')
    (flags : ∀ code, s.failure.reasonFlags.get? code = s'.failure.reasonFlags.get? code) :
    s = s' := by
  have hflags := NameMap.eq_of_get? flags
  have hpage := agree .page
  have hendpoint := agree .endpoint
  have hstatuses := agree .statuses
  have hretry := agree .retry
  have hdeadline := agree .deadline
  have hfailure := agree .failure
  have hlogging := agree .logging
  simp only [Group.settings, List.forall_mem_cons] at hpage hendpoint hstatuses hretry
  simp only [Group.settings, List.forall_mem_cons] at hdeadline hfailure hlogging
  obtain ⟨_, ⟨⟩, ⟨⟩, ⟨⟩, ⟨⟩, ⟨⟩, ⟨⟩, ⟨⟩⟩ := s
  obtain ⟨_, ⟨⟩, ⟨⟩, ⟨⟩, ⟨⟩, ⟨⟩, ⟨⟩, ⟨⟩⟩ := s'
  simp_all

end ApprovalWatch
