import ApprovalWatch.Proofs.Keys

/-!
# Trees laid over trees

What a tree holds at a path of keys after another was laid over it. What the upper tree holds is
there, laid over what the lower one holds at the same path; where the upper tree says nothing, the
lower one shows through, unless something that is not a table, or that stands where the lower one
has no table, covers it.

Main results:

* `Tree.get?_mergeEntries_of_none`, `Tree.get?_mergeEntries_of_some`: what a table holds after
  another was laid over it.
* `Tree.at?_merge_of_some`, `Tree.at?_merge_of_none`: what a tree holds at a path.
* `Tree.Distinct.merge_self`, `Tree.Distinct.merge_merge`: laying over what is there already changes
  nothing.
* `Tree.merge_rightBiased`: what a merge does, at every path and for trees of any depth.
* `Tree.not_merge_empty`: an empty table may change what it is laid over.
-/

namespace ApprovalWatch

/-! ## Keys of association lists -/

namespace Assoc

variable {κ α : Type} [DecidableEq κ] {k : κ} {a : α} {l : List (κ × α)}

/-- Setting a key to what it holds changes nothing. -/
theorem set_of_get? (h : get? k l = some a) : set k a l = l := by
  induction l with
  | nil => cases h
  | cons p r ih =>
    rw [get?] at h
    rw [set]
    split
    · rename_i hk
      rw [if_pos hk] at h
      cases h
      rw [← hk]
    · rename_i hk
      rw [if_neg hk] at h
      rw [ih h]

theorem get?_of_mem (keys : (l.map Prod.fst).Nodup) (h : (k, a) ∈ l) : get? k l = some a := by
  induction l with
  | nil => cases h
  | cons p r ih =>
    obtain ⟨hp, hr⟩ := List.nodup_cons.mp keys
    rw [get?]
    rcases List.mem_cons.mp h with rfl | h
    · exact if_pos rfl
    · rw [if_neg, ih hr h]
      intro hk
      exact hp (List.mem_map.mpr ⟨_, h, hk.symm⟩)

theorem mem_keys_iff : k ∈ l.map Prod.fst ↔ ∃ a, get? k l = some a := by
  rw [← Option.ne_none_iff_exists', ne_eq, get?_eq_none_iff, Decidable.not_not]

end Assoc

namespace Tree

/-! ## Tables over tables -/

/-- The tree is a table. -/
def isTable : Tree → Bool
  | table _ => true
  | _ => false

theorem exists_of_isTable {t : Tree} (h : t.isTable = true) : ∃ es, t = table es := by
  cases t with
  | table es => exact ⟨es, rfl⟩
  | _ => cases h

theorem merge_of_isTable_eq_false {overlay : Tree} (h : overlay.isTable = false) (base : Tree) :
    merge base overlay = overlay := by
  refine merge_of_not_table ?_
  rintro es rfl
  cases h

theorem merge_of_base_not_table {base : Tree} (h : base.isTable = false) (t : Tree) :
    merge base t = t := by
  cases t with
  | table es =>
    rw [merge]
    rintro bs rfl
    cases h
  | _ => rw [merge]

section Entries

variable {base overlay : List (String × Tree)} {k : String}

theorem nodup_mergeEntries (h : (base.map Prod.fst).Nodup) (overlay : List (String × Tree)) :
    ((mergeEntries base overlay).map Prod.fst).Nodup := by
  induction overlay generalizing base with
  | nil =>
    rw [mergeEntries]
    exact h
  | cons e overlay ih =>
    rw [mergeEntries]
    exact ih (Assoc.nodup_set h _ _)

/-- A key that the overlay does not have keeps its value. -/
theorem get?_mergeEntries_of_none (h : Assoc.get? k overlay = none) :
    Assoc.get? k (mergeEntries base overlay) = Assoc.get? k base := by
  induction overlay generalizing base with
  | nil => rw [mergeEntries]
  | cons e overlay ih =>
    rw [Assoc.get?] at h
    split at h
    · cases h
    · rename_i hk
      rw [mergeEntries, ih h, Assoc.get?_set_ne hk]

/-- A key that the overlay has holds its value, laid over the one from before. -/
theorem get?_mergeEntries_of_some (keys : (overlay.map Prod.fst).Nodup) {t : Tree}
    (h : Assoc.get? k overlay = some t) :
    Assoc.get? k (mergeEntries base overlay) =
      some ((Assoc.get? k base).elim t fun old => merge old t) := by
  induction overlay generalizing base with
  | nil => cases h
  | cons e overlay ih =>
    obtain ⟨hnot, hkeys⟩ := List.nodup_cons.mp keys
    rw [Assoc.get?] at h
    rw [mergeEntries]
    split at h
    · rename_i hk
      cases h
      subst hk
      have hnone : Assoc.get? e.1 overlay = none := Assoc.get?_eq_none_iff.mpr hnot
      rw [get?_mergeEntries_of_none hnone, Assoc.get?_set_self]
      cases Assoc.get? e.1 base <;> rfl
    · rename_i hk
      rw [ih hkeys h, Assoc.get?_set_ne hk]

/-- The keys of two tables are all there, and no others. -/
theorem mem_keys_mergeEntries (keys : (overlay.map Prod.fst).Nodup) :
    k ∈ (mergeEntries base overlay).map Prod.fst ↔
      k ∈ base.map Prod.fst ∨ k ∈ overlay.map Prod.fst := by
  simp only [Assoc.mem_keys_iff]
  cases h : Assoc.get? k overlay with
  | none => simp [get?_mergeEntries_of_none h]
  | some t => simp [get?_mergeEntries_of_some keys h]

/-- Entries that change none of those that they are laid over. -/
theorem mergeEntries_eq_self
    (h : ∀ e ∈ overlay, ∃ old, Assoc.get? e.1 base = some old ∧ merge old e.2 = old) :
    mergeEntries base overlay = base := by
  induction overlay with
  | nil => rw [mergeEntries]
  | cons e overlay ih =>
    obtain ⟨⟨old, hold, hmerge⟩, hrest⟩ := List.forall_mem_cons.mp h
    rw [mergeEntries, hold]
    dsimp only
    rw [hmerge, Assoc.set_of_get? hold, ih hrest]

end Entries

/-! ## Distinct keys -/

section Distinct

variable {es : List (String × Tree)} {k : String} {t base overlay : Tree}

theorem Distinct.get? (h : (Tree.table es).Distinct) (hk : Assoc.get? k es = some t) :
    t.Distinct := by
  cases h with
  | table keys values => exact values _ (Assoc.mem_of_get? hk)

theorem Distinct.keys (h : (Tree.table es).Distinct) : (es.map Prod.fst).Nodup := by
  cases h with
  | table keys _ => exact keys

theorem distinct_table_iff :
    (table es).Distinct ↔
      (es.map Prod.fst).Nodup ∧ ∀ k t, Assoc.get? k es = some t → t.Distinct := by
  constructor
  · exact fun h => ⟨h.keys, fun k t => h.get?⟩
  · rintro ⟨keys, values⟩
    exact .table keys fun e he => values e.1 e.2 (Assoc.get?_of_mem keys he)

/-- Laying a tree over another keeps the keys of all tables distinct. -/
theorem Distinct.merge (ho : overlay.Distinct) (hb : base.Distinct) :
    (merge base overlay).Distinct := by
  induction ho generalizing base with
  | @table os keys values ih =>
    cases hbase : base.isTable with
    | true =>
      obtain ⟨bs, rfl⟩ := exists_of_isTable hbase
      rw [Tree.merge, distinct_table_iff]
      refine ⟨nodup_mergeEntries hb.keys os, fun k t ht => ?_⟩
      cases hk : Assoc.get? k os with
      | none =>
        rw [get?_mergeEntries_of_none hk] at ht
        exact hb.get? ht
      | some o =>
        have hmem := Assoc.mem_of_get? hk
        rw [get?_mergeEntries_of_some keys hk] at ht
        cases ht
        cases hold : Assoc.get? k bs with
        | none => exact values _ hmem
        | some old => exact ih _ hmem (hb.get? hold)
    | false =>
      rw [merge_of_base_not_table hbase]
      exact .table keys values
  | array values _ =>
    rw [merge_of_isTable_eq_false rfl]
    exact .array values
  | _ =>
    rw [merge_of_isTable_eq_false rfl]
    constructor

/-- Laying a tree over itself changes nothing. -/
theorem Distinct.merge_self (h : t.Distinct) : Tree.merge t t = t := by
  induction h with
  | table keys values ih =>
    rw [Tree.merge]
    exact congrArg _ (mergeEntries_eq_self fun e he => ⟨_, Assoc.get?_of_mem keys he, ih e he⟩)
  | _ => rw [merge_of_isTable_eq_false rfl]

/-- Laying the same tree over another a second time changes nothing. -/
theorem Distinct.merge_merge (h : overlay.Distinct) (base : Tree) :
    Tree.merge (Tree.merge base overlay) overlay = Tree.merge base overlay := by
  induction h generalizing base with
  | @table os keys values ih =>
    cases hbase : base.isTable with
    | true =>
      obtain ⟨bs, rfl⟩ := exists_of_isTable hbase
      rw [Tree.merge, Tree.merge]
      refine congrArg _ (mergeEntries_eq_self fun e he => ?_)
      refine ⟨_, get?_mergeEntries_of_some keys (Assoc.get?_of_mem keys he), ?_⟩
      cases Assoc.get? e.1 bs with
      | none => exact (values e he).merge_self
      | some old => exact ih e he old
    | false =>
      rw [merge_of_base_not_table hbase]
      exact (Distinct.table keys values).merge_self
  | _ => rw [merge_of_isTable_eq_false rfl, merge_of_isTable_eq_false rfl]

end Distinct

/-! ## Paths -/

/-- What a tree holds at a path of keys. -/
def at? : List String → Tree → Option Tree
  | [], t => some t
  | k :: p, t => (t.get? k).bind (at? p)

section Paths

variable {base overlay : Tree} {p : List String} {t : Tree}

theorem Distinct.at? (h : overlay.Distinct) (hp : overlay.at? p = some t) : t.Distinct := by
  induction p generalizing overlay with
  | nil =>
    cases hp
    exact h
  | cons k p ih =>
    obtain ⟨o, hk, ho⟩ := Option.bind_eq_some_iff.mp hp
    cases overlay with
    | table os => exact ih (h.get? hk) ho
    | _ => cases hk

/-- What the overlay holds at a path is there, laid over what the base holds at the path. -/
theorem at?_merge_of_some (distinct : overlay.Distinct) (h : overlay.at? p = some t) :
    (merge base overlay).at? p = some ((base.at? p).elim t fun old => merge old t) := by
  induction p generalizing base overlay with
  | nil =>
    cases h
    rfl
  | cons k p ih =>
    obtain ⟨o, hk, ho⟩ := Option.bind_eq_some_iff.mp h
    cases overlay with
    | table os =>
      rw [get?] at hk
      cases base with
      | table bs =>
        rw [merge, at?, at?, get?, get?, get?_mergeEntries_of_some distinct.keys hk,
          Option.bind_some]
        cases Assoc.get? k bs with
        | none => exact ho
        | some old => exact ih (distinct.get? hk) ho
      | _ =>
        -- the base holds nothing under any key
        rw [merge_of_base_not_table rfl]
        exact h
    | _ => cases hk

/-- Where the overlay holds nothing, the base shows through, if both have tables all the way there,
or the overlay has nothing at all. -/
theorem at?_merge_of_none (distinct : overlay.Distinct) (h : overlay.at? p = none)
    (tables : ∀ q, q <+: p → q ≠ p → ∀ o, overlay.at? q = some o →
      o.isTable = true ∧ ∃ b, base.at? q = some b ∧ b.isTable = true) :
    (merge base overlay).at? p = base.at? p := by
  induction p generalizing base overlay with
  | nil => cases h
  | cons k p ih =>
    obtain ⟨ho, b, hb, hbase⟩ := tables [] List.nil_prefix nofun overlay rfl
    cases hb
    obtain ⟨os, rfl⟩ := exists_of_isTable ho
    obtain ⟨bs, rfl⟩ := exists_of_isTable hbase
    rw [merge, at?, at?, get?, get?]
    rw [at?, get?] at h
    cases hk : Assoc.get? k os with
    | none => rw [get?_mergeEntries_of_none hk]
    | some o =>
      rw [hk, Option.bind_some] at h
      rw [get?_mergeEntries_of_some distinct.keys hk, Option.bind_some]
      cases hold : Assoc.get? k bs with
      | none => exact h
      | some old =>
        refine ih (distinct.get? hk) h fun q hq hne o' ho' => ?_
        have htables := tables (k :: q) (List.cons_prefix_cons.mpr ⟨rfl, hq⟩)
          (fun heq => hne (List.cons.inj heq).2) o'
        simp only [at?, get?, hk, hold, Option.bind_some] at htables
        exact htables ho'

end Paths

/-! ## Laws -/

/-- What a tree holds that one tree was laid over another to make. -/
structure LaidOver (base overlay result : Tree) : Prop where
  /-- What is not a table in the overlay is there. -/
  leaf : ∀ p t, overlay.at? p = some t → t.isTable = false → result.at? p = some t
  /-- A table of the overlay is there as it is, where the base has no table. -/
  fresh : ∀ p es, overlay.at? p = some (table es) →
    (∀ b, base.at? p = some b → b.isTable = false) → result.at? p = some (table es)
  /-- What the overlay does not speak of is what the base holds. -/
  kept : ∀ p, overlay.at? p = none →
    (∀ q, q <+: p → q ≠ p → ∀ o, overlay.at? q = some o →
      o.isTable = true ∧ ∃ b, base.at? q = some b ∧ b.isTable = true) →
    result.at? p = base.at? p
  /-- Two tables give one with the keys of both. -/
  union : ∀ p bs os, base.at? p = some (table bs) → overlay.at? p = some (table os) →
    ∃ rs, result.at? p = some (table rs) ∧
      ∀ k, k ∈ rs.map Prod.fst ↔ k ∈ bs.map Prod.fst ∨ k ∈ os.map Prod.fst

section Laws

variable {base overlay : Tree}

theorem laidOver_merge (distinct : overlay.Distinct) :
    LaidOver base overlay (merge base overlay) where
  leaf p t h leaf := by
    rw [at?_merge_of_some distinct h]
    cases base.at? p with
    | none => rfl
    | some old => rw [Option.elim_some, merge_of_isTable_eq_false leaf]
  fresh p es h free := by
    rw [at?_merge_of_some distinct h]
    cases hb : base.at? p with
    | none => rfl
    | some old => rw [Option.elim_some, merge_of_base_not_table (free old hb)]
  kept p h tables := at?_merge_of_none distinct h tables
  union p bs os hb ho := by
    refine ⟨mergeEntries bs os, ?_, fun k => mem_keys_mergeEntries (distinct.at? ho).keys⟩
    rw [at?_merge_of_some distinct ho, hb, Option.elim_some, merge]

theorem merge_empty_eq_self_iff : merge base (table []) = base ↔ base.isTable = true := by
  constructor
  · intro h
    rw [← h]
    cases hbase : base.isTable with
    | true =>
      obtain ⟨bs, rfl⟩ := exists_of_isTable hbase
      rw [merge]
      rfl
    | false =>
      rw [merge_of_base_not_table hbase]
      rfl
  · intro h
    obtain ⟨bs, rfl⟩ := exists_of_isTable h
    rw [merge, mergeEntries]

/-- **What a tree holds after another was laid over it**, at every path and whatever stands where.
What is laid over a tree that holds it already changes nothing: neither the tree itself nor one
that was laid over it before. An empty table changes nothing if it is laid over a table, and only
then. -/
theorem merge_rightBiased (hb : base.Distinct) (ho : overlay.Distinct) :
    LaidOver base overlay (merge base overlay) ∧
      (merge base overlay).Distinct ∧
      (merge base (table []) = base ↔ base.isTable = true) ∧
      merge base base = base ∧
      merge (merge base overlay) overlay = merge base overlay :=
  ⟨laidOver_merge ho, ho.merge hb, merge_empty_eq_self_iff, hb.merge_self, ho.merge_merge base⟩

end Laws

/-- A table with a table, an array and a number in it. -/
def lower : Tree :=
  table [("failure", table [("EXPIRED", string "late"), ("REJECTED", string "no")]),
    ("statuses", array [string "EXPIRED"]), ("delay", integer 3000)]

/-- A table that speaks of all of these but the number, and puts an array where a table was. -/
def upper : Tree :=
  table [("statuses", table [("success", string "OK")]),
    ("failure", table [("REJECTED", array [])])]

theorem lower_distinct : lower.Distinct := by
  refine .table (by decide) ?_
  simp only [List.forall_mem_cons]
  refine ⟨.table (by decide) ?_, .array ?_, .integer _, List.forall_mem_nil _⟩
  · simp only [List.forall_mem_cons]
    exact ⟨.string _, .string _, List.forall_mem_nil _⟩
  · exact List.forall_mem_singleton.mpr (.string _)

theorem upper_distinct : upper.Distinct := by
  refine .table (by decide) ?_
  simp only [List.forall_mem_cons]
  exact ⟨.table (by decide) (List.forall_mem_singleton.mpr (.string _)),
    .table (by decide) (List.forall_mem_singleton.mpr (.array nofun)), List.forall_mem_nil _⟩

theorem merge_rightBiased_upper :
    (merge lower upper).at? ["failure", "REJECTED"] = some (array []) ∧
      (merge lower upper).at? ["statuses"] = some (table [("success", string "OK")]) ∧
      (merge lower upper).at? ["delay"] = some (integer 3000) ∧
      merge (merge lower upper) upper = merge lower upper := by
  obtain ⟨laid, -, -, -, twice⟩ := merge_rightBiased lower_distinct upper_distinct
  refine ⟨laid.leaf ["failure", "REJECTED"] (array []) rfl rfl, laid.fresh ["statuses"] _ rfl ?_,
    laid.kept ["delay"] rfl ?_, twice⟩
  · rintro b ⟨⟩
    rfl
  · intro q hq hne o ho
    obtain rfl | ⟨q', rfl, hq'⟩ := List.prefix_cons_iff.mp hq
    · cases ho
      exact ⟨rfl, lower, rfl, rfl⟩
    · rw [List.prefix_nil.mp hq'] at hne
      exact absurd rfl hne

/-- An empty table may change what it is laid over. -/
theorem not_merge_empty : ¬ ∀ base : Tree, base.Distinct → merge base (table []) = base := by
  intro h
  have htext := h (string "http://localhost:8080") (.string _)
  rw [merge_of_base_not_table rfl] at htext
  cases htext

end Tree

end ApprovalWatch
