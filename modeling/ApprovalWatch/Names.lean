import ApprovalWatch.Assoc

/-!
# Sets and maps of names

Names in the order of their characters, each at most once.

Main results:

* `NameMap.get?_insert_self`, `NameMap.get?_insert_ne`: inserting a pair changes what its name maps
  to and nothing else.
-/

namespace ApprovalWatch

/-! ## Sets -/

/-- A set of names. -/
structure NameSet where
  names : List String
  sorted : names.Pairwise (· < ·)
  deriving DecidableEq, Repr

namespace NameSet

/-- Puts a name into its place. -/
def insertName (n : String) : List String → List String
  | [] => [n]
  | m :: r => if n < m then n :: m :: r else if n = m then m :: r else m :: insertName n r

theorem mem_insertName {n m : String} {l : List String} :
    m ∈ insertName n l ↔ m = n ∨ m ∈ l := by
  induction l with
  | nil => simp [insertName]
  | cons k r ih =>
    unfold insertName
    repeat' split
    all_goals grind

theorem insertName_sorted (n : String) {l : List String} (h : l.Pairwise (· < ·)) :
    (insertName n l).Pairwise (· < ·) := by
  induction l with
  | nil => simp [insertName]
  | cons k r ih =>
    have := @mem_insertName n
    unfold insertName
    repeat' split
    all_goals grind [List.pairwise_cons, String.lt_trans, String.not_lt, String.le_antisymm]

/-- The set without names. -/
def empty : NameSet := ⟨[], List.Pairwise.nil⟩

/-- The set with one more name. -/
def insert (s : NameSet) (n : String) : NameSet :=
  ⟨insertName n s.names, insertName_sorted n s.sorted⟩

/-- The set of the names of a list. -/
def ofList (l : List String) : NameSet :=
  l.foldl insert empty

instance : Membership String NameSet where
  mem s n := n ∈ s.names

instance (n : String) (s : NameSet) : Decidable (n ∈ s) :=
  inferInstanceAs (Decidable (n ∈ s.names))

end NameSet

/-! ## Maps -/

/-- A map from names to texts. -/
structure NameMap where
  entries : List (String × String)
  sorted : entries.Pairwise (·.1 < ·.1)
  deriving DecidableEq, Repr

namespace NameMap

/-- Puts a pair into its place, instead of one with the same name. -/
def insertEntry (n v : String) : List (String × String) → List (String × String)
  | [] => [(n, v)]
  | (m, w) :: r =>
    if n < m then (n, v) :: (m, w) :: r
    else if n = m then (n, v) :: r
    else (m, w) :: insertEntry n v r

theorem fst_of_mem_insertEntry {n v : String} {p : String × String} {l : List (String × String)}
    (h : p ∈ insertEntry n v l) : p.1 = n ∨ p ∈ l := by
  induction l with
  | nil => simp_all [insertEntry]
  | cons q r ih =>
    unfold insertEntry at h
    repeat' split at h
    all_goals grind

theorem insertEntry_sorted (n v : String) {l : List (String × String)}
    (h : l.Pairwise (·.1 < ·.1)) : (insertEntry n v l).Pairwise (·.1 < ·.1) := by
  induction l with
  | nil => simp [insertEntry]
  | cons q r ih =>
    have := @fst_of_mem_insertEntry n v
    unfold insertEntry
    repeat' split
    all_goals grind [List.pairwise_cons, String.lt_trans, String.not_lt, String.le_antisymm]

/-- The map without pairs. -/
def empty : NameMap := ⟨[], List.Pairwise.nil⟩

/-- The map with a name mapped to a text. -/
def insert (s : NameMap) (n v : String) : NameMap :=
  ⟨insertEntry n v s.entries, insertEntry_sorted n v s.sorted⟩

/-- The map of a list of pairs, of which later ones win. -/
def ofList (l : List (String × String)) : NameMap :=
  l.foldl (fun s p => s.insert p.1 p.2) empty

/-- The text that a name is mapped to. -/
def get? (s : NameMap) (n : String) : Option String :=
  Assoc.get? n s.entries

theorem get?_insertEntry_self (n v : String) (l : List (String × String)) :
    Assoc.get? n (insertEntry n v l) = some v := by
  induction l with
  | nil => simp [insertEntry, Assoc.get?]
  | cons q r ih =>
    unfold insertEntry
    repeat' split
    all_goals grind [Assoc.get?]

theorem get?_insertEntry_ne {n m : String} (h : m ≠ n) (v : String)
    (l : List (String × String)) :
    Assoc.get? m (insertEntry n v l) = Assoc.get? m l := by
  induction l with
  | nil => simp [insertEntry, Assoc.get?, h.symm]
  | cons q r ih =>
    unfold insertEntry
    repeat' split
    all_goals simp only [Assoc.get?, h.symm, ↓reduceIte, ih]
    rename_i hq
    simp [← hq, h.symm]

@[simp] theorem get?_insert_self (s : NameMap) (n v : String) :
    (s.insert n v).get? n = some v :=
  get?_insertEntry_self n v s.entries

theorem get?_insert_ne {n m : String} (h : m ≠ n) (s : NameMap) (v : String) :
    (s.insert n v).get? m = s.get? m :=
  get?_insertEntry_ne h v s.entries

end NameMap

end ApprovalWatch
