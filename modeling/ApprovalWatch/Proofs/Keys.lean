import ApprovalWatch.Toml.Document
import Mathlib.Data.List.Nodup

/-!
# The keys of a settings file

The keys of every table that is read from a settings file are distinct, however the table was put
together: in braces, by pairs with paths, or under headers. So a key of the tree of a file has one
value, which does not depend on where it stands.

Main results:

* `Node.descend_distinct`: a change that keeps keys distinct does so wherever a path leads.
* `value?_distinct`: a value that is read has distinct keys.
* `parse?_distinct`: so has the table of a file.
-/

namespace ApprovalWatch

/-! ## Distinct keys -/

/-- The keys of every table in the tree are distinct. -/
inductive Tree.Distinct : Tree → Prop
  | string (value : String) : Distinct (.string value)
  | integer (value : Int) : Distinct (.integer value)
  | float (literal : String) : Distinct (.float literal)
  | boolean (value : Bool) : Distinct (.boolean value)
  | datetime (text : String) : Distinct (.datetime text)
  | array {items : List Tree} (values : ∀ t ∈ items, Distinct t) : Distinct (.array items)
  | table {entries : List (String × Tree)} (keys : (entries.map Prod.fst).Nodup)
      (values : ∀ e ∈ entries, Distinct e.2) : Distinct (.table entries)

namespace Toml

/-- The keys of every table of a node are distinct. -/
inductive Node.Distinct : Node → Prop
  | value {tree : Tree} (h : tree.Distinct) : Distinct (.value tree)
  | table {origin : Origin} {es : List (String × Node)} (keys : (es.map Prod.fst).Nodup)
      (nodes : ∀ e ∈ es, Distinct e.2) : Distinct (.table origin es)
  | tables {items : List (List (String × Node))}
      (keys : ∀ es ∈ items, (es.map Prod.fst).Nodup)
      (nodes : ∀ es ∈ items, ∀ e ∈ es, Distinct e.2) : Distinct (.tables items)

namespace Node

/-- The keys of the entries are distinct, and so are those of the tables in them. -/
structure DistinctEntries (es : Entries) : Prop where
  keys : (es.map Prod.fst).Nodup
  nodes : ∀ e ∈ es, Node.Distinct e.2

namespace DistinctEntries

variable {es : Entries} {k : String} {n : Node}

theorem nil : DistinctEntries [] :=
  ⟨List.nodup_nil, nofun⟩

theorem get? (h : DistinctEntries es) (hk : Assoc.get? k es = some n) : n.Distinct :=
  h.nodes _ (Assoc.mem_of_get? hk)

theorem set (h : DistinctEntries es) (k : String) (hn : n.Distinct) :
    DistinctEntries (Assoc.set k n es) := by
  refine ⟨Assoc.nodup_set h.keys k n, fun e he => ?_⟩
  rcases Assoc.mem_set he with rfl | he
  · exact hn
  · exact h.nodes e he

theorem table (h : DistinctEntries es) (origin : Origin) : (Node.table origin es).Distinct :=
  .table h.keys h.nodes

end DistinctEntries

section Descend

variable {es es' : Entries} {k : String} {n : Node}

theorem Distinct.entries {origin : Origin} (h : (Node.table origin es).Distinct) :
    DistinctEntries es := by
  cases h with
  | table keys nodes => exact ⟨keys, nodes⟩

theorem distinct_tables_iff {items : List Entries} :
    (Node.tables items).Distinct ↔ ∀ es ∈ items, DistinctEntries es := by
  constructor
  · rintro ⟨⟩ es hes
    rename_i keys nodes
    exact ⟨keys es hes, nodes es hes⟩
  · exact fun h => .tables (fun es hes => (h es hes).keys) fun es hes => (h es hes).nodes

/-- A change that keeps keys distinct does so wherever a path leads. -/
theorem descend_distinct {made : Origin} {change : Origin → Entries → Option Entries}
    (keeps : ∀ origin es es', change origin es = some es' → DistinctEntries es →
      DistinctEntries es') {path : List String} {origin : Origin}
    (h : descend made change path origin es = some es') (hes : DistinctEntries es) :
    DistinctEntries es' := by
  fun_induction descend made change path origin es generalizing es' with
  | case1 origin es => exact keeps origin es es' h hes
  | case2 k path _ es hk ih =>
    obtain ⟨inner, hinner, rfl⟩ := Option.map_eq_some_iff.mp h
    exact hes.set k ((ih hinner .nil).table made)
  | case3 => cases h
  | case4 k path _ es origin inner hk _ ih =>
    obtain ⟨inner', hinner, rfl⟩ := Option.map_eq_some_iff.mp h
    exact hes.set k ((ih hinner (hes.get? hk).entries).table origin)
  | case5 k path _ es last rest hk ih =>
    obtain ⟨last', hlast, rfl⟩ := Option.map_eq_some_iff.mp h
    obtain ⟨hfirst, hrest⟩ := List.forall_mem_cons.mp (distinct_tables_iff.mp (hes.get? hk))
    refine hes.set k (distinct_tables_iff.mpr ?_)
    exact List.forall_mem_cons.mpr ⟨ih hlast hfirst, hrest⟩
  | case6 => cases h

theorem assign_distinct {path : List String} (h : assign path k n es = some es')
    (hes : DistinctEntries es) (hn : n.Distinct) : DistinctEntries es' := by
  refine descend_distinct (fun origin inner inner' hchange hinner => ?_) h hes
  split at hchange
  · cases hchange
    exact hinner.set k hn
  · cases hchange

end Descend

/-! ## Trees of nodes -/

theorem entriesToTree_eq_map (es : Entries) :
    entriesToTree es = es.map fun e => (e.1, e.2.toTree) := by
  induction es with
  | nil => rfl
  | cons e es ih => rw [entriesToTree, ih, List.map_cons]

theorem itemsToTrees_eq_map (items : List Entries) :
    itemsToTrees items = items.map fun es => .table (entriesToTree es) := by
  induction items with
  | nil => rfl
  | cons es items ih => rw [itemsToTrees, ih, List.map_cons]

theorem distinct_entriesToTree {es : Entries} (keys : (es.map Prod.fst).Nodup)
    (trees : ∀ e ∈ es, e.2.toTree.Distinct) : (Tree.table (entriesToTree es)).Distinct := by
  rw [entriesToTree_eq_map]
  refine .table ?_ ?_
  · rw [List.map_map]
    exact keys
  · intro e he
    obtain ⟨e', he', rfl⟩ := List.mem_map.mp he
    exact trees e' he'

theorem Distinct.toTree {n : Node} (h : n.Distinct) : n.toTree.Distinct := by
  induction h with
  | value h =>
    rw [Node.toTree]
    exact h
  | table keys _ ih =>
    rw [Node.toTree]
    exact distinct_entriesToTree keys ih
  | tables keys _ ih =>
    rw [Node.toTree, itemsToTrees_eq_map]
    refine .array fun t ht => ?_
    obtain ⟨es, hes, rfl⟩ := List.mem_map.mp (List.mem_reverse.mp ht)
    exact distinct_entriesToTree (keys es hes) (ih es hes)

theorem DistinctEntries.toTree {es : Entries} (h : DistinctEntries es) :
    (Tree.table (entriesToTree es)).Distinct := by
  have htable := (h.table .explicit).toTree
  rw [Node.toTree] at htable
  exact htable

end Node

/-! ## Values -/

section Values

variable {cs r : List Char} {t : Tree}

/-- Every tree that the reader reads has distinct keys. -/
def ReadsDistinct (read : Reader Tree) : Prop :=
  ∀ cs t r, read cs = some (t, r) → t.Distinct

theorem items?_distinct {item : Reader Tree} (hitem : ReadsDistinct item) {ts : List Tree}
    (h : items? item cs = some (ts, r)) : ∀ t ∈ ts, t.Distinct := by
  fun_induction items? item cs generalizing ts r with
  | case1 cs r' _ =>
    cases h
    exact nofun
  | case2 => cases h
  | case3 _ t _ _ _ _ hread =>
    cases h
    exact List.forall_mem_singleton.mpr (hitem _ _ _ hread)
  | case4 _ t _ _ _ _ _ hread ih =>
    obtain ⟨⟨ts', r'⟩, hrest, heq⟩ := Option.map_eq_some_iff.mp h
    cases heq
    exact List.forall_mem_cons.mpr ⟨hitem _ _ _ hread, ih hrest⟩
  | _ => cases h

theorem pair?_distinct {value : Reader Tree} (hvalue : ReadsDistinct value)
    {p : (List String × String) × Tree} (h : pair? value cs = some (p, r)) : p.2.Distinct := by
  unfold pair? at h
  split at h
  · obtain ⟨⟨t, r'⟩, hread, heq⟩ := Option.map_eq_some_iff.mp h
    cases heq
    exact hvalue _ _ _ hread
  · cases h

theorem pairs?_distinct {value : Reader Tree} (hvalue : ReadsDistinct value)
    {ps : List ((List String × String) × Tree)} (h : pairs? value cs = some (ps, r)) :
    ∀ p ∈ ps, p.2.Distinct := by
  fun_induction pairs? value cs generalizing ps r with
  | case1 => cases h
  | case2 cs p _ hread _ _ =>
    cases h
    exact List.forall_mem_singleton.mpr (pair?_distinct hvalue hread)
  | case3 cs p _ hread _ _ _ ih =>
    obtain ⟨⟨ps', r'⟩, hrest, heq⟩ := Option.map_eq_some_iff.mp h
    cases heq
    exact List.forall_mem_cons.mpr ⟨pair?_distinct hvalue hread, ih hrest⟩
  | _ => cases h

theorem assemble?_distinct {ps : List ((List String × String) × Tree)}
    (hps : ∀ p ∈ ps, p.2.Distinct) (h : assemble? ps = some t) : t.Distinct := by
  obtain ⟨es, hes, rfl⟩ := Option.map_eq_some_iff.mp h
  have hdistinct : ∀ es₀, Node.DistinctEntries es₀ →
      ps.foldlM (fun es p => Node.assign p.1.1 p.1.2 (.value p.2) es) es₀ = some es →
      Node.DistinctEntries es := by
    clear hes h
    induction ps with
    | nil =>
      rintro es₀ h₀ ⟨⟩
      exact h₀
    | cons p ps ih =>
      intro es₀ h₀ hfold
      obtain ⟨hp, hps⟩ := List.forall_mem_cons.mp hps
      rw [List.foldlM_cons] at hfold
      obtain ⟨es₁, h₁, hfold⟩ := Option.bind_eq_some_iff.mp hfold
      exact ih hps es₁ (Node.assign_distinct h₁ h₀ (.value hp)) hfold
  exact ((hdistinct [] .nil hes).table .explicit).toTree

theorem numeric?_distinct (h : numeric? cs = some (t, r)) : t.Distinct := by
  unfold numeric? at h
  split at h
  · cases h
    exact .datetime _
  · split at h
    · cases h
      exact .float _
    · obtain ⟨p, -, heq⟩ := Option.map_eq_some_iff.mp h
      cases heq
      exact .integer _

theorem boolean?_distinct (h : boolean? cs = some (t, r)) : t.Distinct := by
  unfold boolean? at h
  split at h
  · cases h
    exact .boolean _
  · cases h
    exact .boolean _
  · cases h

/-- A value that is read has distinct keys, at every depth. -/
theorem value?_distinct (depth : Nat) : ReadsDistinct (value? depth) := by
  induction depth with
  | zero => exact fun _ _ _ h => by cases h
  | succ depth ih =>
    intro cs t r h
    unfold value? at h
    split at h
    · cases h
    · split at h
      · obtain ⟨p, -, heq⟩ := Option.map_eq_some_iff.mp h
        cases heq
        exact .string _
      · split at h
        · obtain ⟨⟨ts, r'⟩, hread, heq⟩ := Option.map_eq_some_iff.mp h
          cases heq
          exact .array (items?_distinct ih hread)
        · split at h
          · split at h
            · cases h
              exact .table List.nodup_nil nofun
            · obtain ⟨⟨ps, r'⟩, hread, h⟩ := Option.bind_eq_some_iff.mp h
              obtain ⟨t', htable, heq⟩ := Option.map_eq_some_iff.mp h
              cases heq
              exact assemble?_distinct (pairs?_distinct ih hread) htable
          · split at h
            · exact boolean?_distinct h
            · exact numeric?_distinct h

end Values

/-! ## Files -/

namespace Draft

open Node

/-- The keys of the complete tables are distinct, and so are those of the table at hand. -/
structure Distinct (d : Draft) : Prop where
  root : DistinctEntries d.root
  entries : DistinctEntries d.entries

variable {d d' : Draft} {path : List String} {k : String}

theorem Distinct.finish (h : d.Distinct) {es : Entries} (hes : d.finish = some es) :
    DistinctEntries es := by
  unfold Draft.finish at hes
  split at hes
  · cases hes
    exact h.entries
  · refine descend_distinct (fun origin inner inner' hchange hinner => ?_) hes h.root
    split at hchange
    · split at hchange
      · cases hchange
        exact hinner.set _ (distinct_tables_iff.mpr (List.forall_mem_singleton.mpr h.entries))
      · rename_i hk
        cases hchange
        have hitems := distinct_tables_iff.mp (hinner.get? hk)
        exact hinner.set _
          (distinct_tables_iff.mpr (List.forall_mem_cons.mpr ⟨h.entries, hitems⟩))
      · cases hchange
    · cases hchange
      exact hinner.set _ (h.entries.table .explicit)

theorem find_distinct {es : Entries} {n : Node} (hes : DistinctEntries es)
    (h : find path k es = some n) : n.Distinct := by
  fun_induction find path k es with
  | case1 => exact hes.get? h
  | case2 _ _ _ _ _ hk ih => exact ih (hes.get? hk).entries h
  | case3 _ _ _ _ _ hk ih =>
    exact ih (distinct_tables_iff.mp (hes.get? hk) _ List.mem_cons_self) h
  | case4 => cases h

theorem Distinct.openTable (h : d.Distinct) (hd : d.openTable path k = some d') :
    d'.Distinct := by
  unfold Draft.openTable at hd
  obtain ⟨root, hroot, hd⟩ := Option.bind_eq_some_iff.mp hd
  obtain ⟨-, -, hd⟩ := Option.bind_eq_some_iff.mp hd
  have hdistinct := h.finish hroot
  split at hd
  · cases hd
    exact ⟨hdistinct, .nil⟩
  · rename_i hfind
    cases hd
    exact ⟨hdistinct, (find_distinct hdistinct hfind).entries⟩
  · cases hd

theorem Distinct.openItem (h : d.Distinct) (hd : d.openItem path k = some d') :
    d'.Distinct := by
  unfold Draft.openItem at hd
  obtain ⟨root, hroot, hd⟩ := Option.bind_eq_some_iff.mp hd
  obtain ⟨-, -, hd⟩ := Option.bind_eq_some_iff.mp hd
  split at hd
  · cases hd
    exact ⟨h.finish hroot, .nil⟩
  · cases hd
    exact ⟨h.finish hroot, .nil⟩
  · cases hd

theorem Distinct.addPair (h : d.Distinct) {t : Tree} (ht : t.Distinct)
    (hd : d.addPair path k t = some d') : d'.Distinct := by
  unfold Draft.addPair at hd
  obtain ⟨es, hes, hd⟩ := Option.bind_eq_some_iff.mp hd
  cases hd
  exact ⟨h.root, assign_distinct hes h.entries (.value ht)⟩

end Draft

theorem line?_distinct {d d' : Draft} {cs r : List Char} (hd : d.Distinct)
    (h : line? d cs = some (d', r)) : d'.Distinct := by
  unfold line? at h
  split at h
  · split at h
    · obtain ⟨d₁, hopen, h⟩ := Option.bind_eq_some_iff.mp h
      obtain ⟨rest, -, h⟩ := Option.bind_eq_some_iff.mp h
      cases h
      exact hd.openItem hopen
    · cases h
  · split at h
    · obtain ⟨d₁, hopen, h⟩ := Option.bind_eq_some_iff.mp h
      obtain ⟨rest, -, h⟩ := Option.bind_eq_some_iff.mp h
      cases h
      exact hd.openTable hopen
    · cases h
  · split at h
    · cases h
      exact hd
    · obtain ⟨⟨⟨⟨path, k⟩, t⟩, r'⟩, hpair, h⟩ := Option.bind_eq_some_iff.mp h
      obtain ⟨d₁, hadd, h⟩ := Option.bind_eq_some_iff.mp h
      obtain ⟨rest, -, h⟩ := Option.bind_eq_some_iff.mp h
      cases h
      exact hd.addPair (pair?_distinct (value?_distinct _) hpair) hadd

theorem lines?_distinct {d d' : Draft} {cs : List Char} (hd : d.Distinct)
    (h : lines? d cs = some d') : d'.Distinct := by
  fun_induction lines? d cs with
  | case1 =>
    cases h
    exact hd
  | case3 _ _ _ _ _ hline _ ih => exact ih (line?_distinct hd hline) h
  | _ => cases h

/-- A file spells out a table, and the keys of its tables are distinct. -/
theorem parse?_distinct {cs : List Char} {t : Tree} (h : parse? cs = some t) :
    t.Distinct ∧ ∃ es, t = .table es := by
  unfold parse? at h
  obtain ⟨d, hd, h⟩ := Option.bind_eq_some_iff.mp h
  obtain ⟨es, hes, h⟩ := Option.bind_eq_some_iff.mp h
  cases h
  have hdistinct : d.Distinct := lines?_distinct ⟨.nil, .nil⟩ hd
  exact ⟨(hdistinct.finish hes).toTree, _, rfl⟩

end Toml

end ApprovalWatch
