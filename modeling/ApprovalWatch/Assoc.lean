/-!
# Association lists

Keys with their values, in the order in which the keys came.

Main results:

* `get?_set_self`, `get?_set_ne`: setting a key changes what it holds and nothing else.
* `nodup_set`: setting a key keeps keys distinct.
-/

namespace ApprovalWatch.Assoc

variable {κ α : Type} [DecidableEq κ]

/-- The value of a key. -/
def get? (k : κ) : List (κ × α) → Option α
  | [] => none
  | (k', a) :: r => if k' = k then some a else get? k r

/-- Gives a key a value. A key that is there keeps its place. -/
def set (k : κ) (a : α) : List (κ × α) → List (κ × α)
  | [] => [(k, a)]
  | (k', a') :: r => if k' = k then (k, a) :: r else (k', a') :: set k a r

/-- Takes a key away. -/
def erase (k : κ) : List (κ × α) → List (κ × α)
  | [] => []
  | (k', a) :: r => if k' = k then erase k r else (k', a) :: erase k r

@[simp] theorem get?_set_self (k : κ) (a : α) (l : List (κ × α)) :
    get? k (set k a l) = some a := by
  induction l with
  | nil => simp [set, get?]
  | cons p r ih => unfold set; split <;> simp_all [get?]

theorem get?_set_ne {k k' : κ} (h : k ≠ k') (a : α) (l : List (κ × α)) :
    get? k' (set k a l) = get? k' l := by
  induction l with
  | nil => simp [set, get?, h]
  | cons p r ih => unfold set; split <;> simp_all [get?]

/-! ## Keys -/

section Keys

variable {k : κ} {a : α} {l : List (κ × α)}

theorem mem_of_get? (h : get? k l = some a) : (k, a) ∈ l := by
  induction l with
  | nil => cases h
  | cons p r ih =>
    rw [get?] at h
    split at h
    · rename_i hk
      cases h
      rw [← hk]
      exact List.mem_cons_self
    · exact List.mem_cons_of_mem _ (ih h)

theorem get?_eq_none_iff : get? k l = none ↔ k ∉ l.map Prod.fst := by
  induction l with
  | nil => simp [get?]
  | cons p r ih =>
    rw [get?, List.map_cons, List.mem_cons, not_or, ← ih]
    by_cases hk : p.1 = k
    · rw [if_pos hk]
      exact ⟨nofun, fun h => absurd hk.symm h.1⟩
    · rw [if_neg hk]
      exact ⟨fun h => ⟨fun h' => hk h'.symm, h⟩, fun h => h.2⟩

theorem mem_set {p : κ × α} (h : p ∈ set k a l) : p = (k, a) ∨ p ∈ l := by
  induction l with
  | nil => exact .inl (List.mem_singleton.mp h)
  | cons q r ih =>
    rw [set] at h
    split at h
    · rcases List.mem_cons.mp h with rfl | h
      · exact .inl rfl
      · exact .inr (List.mem_cons_of_mem _ h)
    · rcases List.mem_cons.mp h with rfl | h
      · exact .inr List.mem_cons_self
      · exact (ih h).imp_right (List.mem_cons_of_mem _)

/-- Setting a key keeps keys distinct. -/
theorem nodup_set (h : (l.map Prod.fst).Nodup) (k : κ) (a : α) :
    ((set k a l).map Prod.fst).Nodup := by
  induction l with
  | nil => exact List.nodup_cons.mpr ⟨List.not_mem_nil, List.nodup_nil⟩
  | cons p r ih =>
    obtain ⟨hp, hr⟩ := List.nodup_cons.mp h
    rw [set]
    split
    · rename_i hk
      exact List.nodup_cons.mpr ⟨hk ▸ hp, hr⟩
    · rename_i hk
      refine List.nodup_cons.mpr ⟨fun hmem => ?_, ih hr⟩
      obtain ⟨q, hq, heq⟩ := List.mem_map.mp hmem
      rcases mem_set hq with rfl | hq
      · exact hk heq.symm
      · exact hp (heq ▸ List.mem_map_of_mem hq)

end Keys

end ApprovalWatch.Assoc
