import ApprovalWatch.Json.Skip
import ApprovalWatch.Proofs.Lexing

/-!
# The values that tokens make up

A grammar of JSON values of any kind and depth, over their tokens, and the proof that the machine
that passes over a value passes over exactly one such value. The units of an array are its items,
and those of an object its members; both are separated by commas, and so both are dealt with at
once.

Main results:

* `skipFrom_units`, `exists_units`: the units that an array or an object is left with.
* `skip_eq_some_iff`: what is skipped is one value.
* `IsValue.apart`: the tokens of a value can be told apart in the bytes that spell them.
-/

namespace ApprovalWatch.Json

/-! ## Values -/

/-- The tokens of units with commas between them. -/
def commaList : List (List Token) → List Token
  | [] => []
  | [x] => x
  | x :: y :: rest => x ++ .comma :: commaList (y :: rest)

/-- A member of an object: the inside of its key, and the tokens of its value. -/
structure Member where
  key : List UInt8
  value : List Token

/-- The tokens of a member. -/
def Member.tokens (m : Member) : List Token :=
  .text m.key :: .colon :: m.value

/-- The tokens of an array. -/
def arrayTokens (items : List (List Token)) : List Token :=
  .leftBracket :: (commaList items ++ [.rightBracket])

/-- The tokens of an object. -/
def objectTokens (members : List Member) : List Token :=
  .leftBrace :: (commaList (members.map Member.tokens) ++ [.rightBrace])

/-- The tokens make up one value. -/
inductive IsValue : List Token → Prop
  | scalar : IsValue [.scalar]
  | text (raw : List UInt8) : IsValue [.text raw]
  | array {items : List (List Token)} (values : ∀ i ∈ items, IsValue i) :
      IsValue (arrayTokens items)
  | object {members : List Member} (values : ∀ m ∈ members, IsValue m.value) :
      IsValue (objectTokens members)

/-! ## Tokens apart -/

theorem isChain_cons_of_ne_scalar {t : Token} {ts : List Token} (ht : t ≠ .scalar)
    (h : ts.IsChain MayMeet) : (t :: ts).IsChain MayMeet :=
  List.isChain_cons.mpr ⟨fun _ _ heq => absurd heq ht, h⟩

theorem isChain_append_cons {t : Token} {ts ts' : List Token} (ht : t ≠ .scalar)
    (h : ts.IsChain MayMeet) (h' : ts'.IsChain MayMeet) : (ts ++ t :: ts').IsChain MayMeet := by
  refine h.append (isChain_cons_of_ne_scalar ht h') ?_
  rintro x - y hy -
  cases hy
  exact ht

theorem isChain_commaList {xs : List (List Token)} (h : ∀ x ∈ xs, x.IsChain MayMeet) :
    (commaList xs).IsChain MayMeet := by
  fun_induction commaList xs with
  | case1 => exact .nil
  | case2 x => exact h x List.mem_cons_self
  | case3 x y rest ih =>
    obtain ⟨hx, hrest⟩ := List.forall_mem_cons.mp h
    exact isChain_append_cons nofun hx (ih hrest)

/-- No two numbers or words stand next to each other in a value. -/
theorem IsValue.apart {v : List Token} (h : IsValue v) : v.IsChain MayMeet := by
  induction h with
  | scalar | text => exact .singleton _
  | array _ ih =>
    have hitems := isChain_commaList ih
    exact isChain_cons_of_ne_scalar nofun (isChain_append_cons nofun hitems .nil)
  | @object members _ ih =>
    have hmembers : ∀ x ∈ members.map Member.tokens, x.IsChain MayMeet := by
      intro x hx
      obtain ⟨m, hm, rfl⟩ := List.mem_map.mp hx
      exact isChain_cons_of_ne_scalar nofun (isChain_cons_of_ne_scalar nofun (ih m hm))
    exact isChain_cons_of_ne_scalar nofun
      (isChain_append_cons nofun (isChain_commaList hmembers) .nil)

/-! ## The machine -/

/-- What a unit of an array or an object begins with. -/
def Frame.goal : Frame → Goal
  | .array => .value
  | .object => .member

/-- The token that ends an array or an object. -/
def Frame.close : Frame → Token
  | .array => .rightBracket
  | .object => .rightBrace

section Machine

variable {s s' : List Frame × Goal} {f : Frame} {frames : List Frame} {t : Token}
  {ts rest : List Token}

theorem isDone_of_step? (h : step? s t = some s') : isDone s = false := by
  by_contra hdone
  simp only [isDone, Bool.not_eq_false, decide_eq_true_eq] at hdone
  rw [hdone] at h
  cases t <;> cases h

theorem skipFrom_step (h : step? s t = some s') : skipFrom s (t :: ts) = skipFrom s' ts := by
  rw [skipFrom, isDone_of_step? h, h]
  rfl

/-- The machine goes on by a token, unless it has passed over a whole value. -/
theorem exists_step (hs : isDone s = false) (h : skipFrom s ts = some rest) :
    ∃ t ts' s', ts = t :: ts' ∧ step? s t = some s' ∧ skipFrom s' ts' = some rest := by
  cases ts with
  | nil =>
    rw [skipFrom, hs] at h
    cases h
  | cons t ts =>
    rw [skipFrom, hs] at h
    cases hstep : step? s t with
    | none =>
      rw [hstep] at h
      cases h
    | some s' =>
      rw [hstep] at h
      exact ⟨t, ts, s', rfl, hstep, h⟩

theorem skipFrom_done (ts : List Token) : skipFrom ([], .next) ts = some ts := by
  cases ts <;> rfl

theorem step?_comma : step? (f :: frames, .next) .comma = some (f :: frames, f.goal) := by
  cases f <;> rfl

theorem step?_close : step? (f :: frames, .next) f.close = some (frames, .next) := by
  cases f <;> rfl

/-- After a unit, an array or an object goes on with a comma or ends. -/
theorem step?_next (h : step? (f :: frames, .next) t = some s') :
    (t = .comma ∧ s' = (f :: frames, f.goal)) ∨ (t = f.close ∧ s' = (frames, .next)) := by
  cases f <;> cases t <;> cases h <;> simp [Frame.goal, Frame.close]

end Machine

/-! ## Passing over units -/

section Units

variable {f : Frame} {frames : List Frame}

/-- Units are passed over if each of them is. -/
theorem skipFrom_units {xs : List (List Token)} (hne : xs ≠ [])
    (h : ∀ x ∈ xs, ∀ ts,
      skipFrom (f :: frames, f.goal) (x ++ ts) = skipFrom (f :: frames, .next) ts)
    (ts : List Token) :
    skipFrom (f :: frames, f.goal) (commaList xs ++ f.close :: ts) =
      skipFrom (frames, .next) ts := by
  fun_induction commaList xs with
  | case1 => exact absurd rfl hne
  | case2 x => rw [h x List.mem_cons_self, skipFrom_step step?_close]
  | case3 x y rest ih =>
    obtain ⟨hx, hrest⟩ := List.forall_mem_cons.mp h
    rw [List.append_assoc, List.cons_append, hx, skipFrom_step step?_comma]
    exact ih (List.cons_ne_nil y rest) hrest

/-- What is passed over up to the end of an array or an object are units, if one unit at a time
is. -/
theorem exists_units {α : Type} {tokens : α → List Token} {P : α → Prop} {n : Nat}
    (hunit : ∀ ts rest, ts.length ≤ n → skipFrom (f :: frames, f.goal) ts = some rest →
      ∃ a ts', P a ∧ ts = tokens a ++ ts' ∧ skipFrom (f :: frames, .next) ts' = some rest)
    {ts rest : List Token} (hle : ts.length ≤ n)
    (h : skipFrom (f :: frames, f.goal) ts = some rest) :
    ∃ as ts', as ≠ [] ∧ (∀ a ∈ as, P a) ∧
      ts = commaList (as.map tokens) ++ f.close :: ts' ∧
      skipFrom (frames, .next) ts' = some rest := by
  induction hlen : ts.length using Nat.strong_induction_on generalizing ts with
  | _ len ih =>
    obtain ⟨a, ts', ha, rfl, hnext⟩ := hunit ts rest hle h
    obtain ⟨t, ts'', s', rfl, hstep, hrest⟩ := exists_step rfl hnext
    rcases step?_next hstep with ⟨rfl, rfl⟩ | ⟨rfl, rfl⟩
    · have hlt : ts''.length < len := by
        rw [← hlen, List.length_append, List.length_cons]
        omega
      obtain ⟨as, ts', hne, hall, rfl, hdone⟩ := ih ts''.length hlt (by omega) hrest rfl
      obtain ⟨b, bs, rfl⟩ := List.exists_cons_of_ne_nil hne
      refine ⟨a :: b :: bs, ts', List.cons_ne_nil _ _, List.forall_mem_cons.mpr ⟨ha, hall⟩, ?_,
        hdone⟩
      simp only [List.map_cons, commaList, List.append_assoc, List.cons_append]
    · exact ⟨[a], ts'', List.cons_ne_nil _ _, List.forall_mem_singleton.mpr ha, rfl, hrest⟩

end Units

/-! ## Passing over values -/

/-- The first token of a value does not end an array. -/
theorem IsValue.head_eq {v : List Token} (h : IsValue v) :
    ∃ t v', v = t :: v' ∧ t ≠ .rightBracket := by
  cases h with
  | scalar | text | array | object => exact ⟨_, _, rfl, nofun⟩

theorem commaList_cons (x : List Token) (xs : List (List Token)) :
    ∃ r, commaList (x :: xs) = x ++ r := by
  cases xs with
  | nil => exact ⟨[], (List.append_nil x).symm⟩
  | cons y xs => exact ⟨_, rfl⟩

/-- An array that does not end at once begins with an item. -/
theorem skipFrom_firstItem {frames : List Frame} {t : Token} (ht : t ≠ .rightBracket)
    (ts : List Token) :
    skipFrom (.array :: frames, .firstItem) (t :: ts) =
      skipFrom (.array :: frames, .value) (t :: ts) := by
  have hstep : step? (.array :: frames, .firstItem) t = step? (.array :: frames, .value) t := by
    cases t <;> first | rfl | exact absurd rfl ht
  rw [skipFrom, skipFrom, hstep]
  rfl

/-- The machine passes over the members of an object if it does over their values. -/
theorem skipFrom_member {frames : List Frame} {m : Member}
    (h : ∀ frames ts, skipFrom (frames, .value) (m.value ++ ts) = skipFrom (frames, .next) ts)
    (ts : List Token) :
    skipFrom (frames, .member) (m.tokens ++ ts) = skipFrom (frames, .next) ts := by
  rw [Member.tokens, List.cons_append, List.cons_append, skipFrom_step rfl, skipFrom_step rfl, h]

/-- The machine passes over a value, whatever the value stands in. -/
theorem skipFrom_value {v : List Token} (h : IsValue v) (frames : List Frame) (ts : List Token) :
    skipFrom (frames, .value) (v ++ ts) = skipFrom (frames, .next) ts := by
  induction h generalizing frames ts with
  | scalar | text => exact skipFrom_step rfl
  | @array items values ih =>
    rw [arrayTokens, List.cons_append, List.append_assoc, List.singleton_append]
    cases items with
    | nil => rw [skipFrom_step rfl]; exact skipFrom_step rfl
    | cons i items =>
      have hitems := skipFrom_units (f := .array) (List.cons_ne_nil i items)
        (fun x hx => ih x hx (.array :: frames)) ts
      obtain ⟨t, i', rfl, ht⟩ := (values i List.mem_cons_self).head_eq
      obtain ⟨r, hr⟩ := commaList_cons (t :: i') items
      rw [← hitems, hr]
      exact (skipFrom_step rfl).trans (skipFrom_firstItem ht _)
  | @object members values ih =>
    rw [objectTokens, List.cons_append, List.append_assoc, List.singleton_append]
    cases members with
    | nil => rw [skipFrom_step rfl]; exact skipFrom_step rfl
    | cons m members =>
      have hunit : ∀ x ∈ (m :: members).map Member.tokens, ∀ ts,
          skipFrom (.object :: frames, .member) (x ++ ts) =
            skipFrom (.object :: frames, .next) ts := by
        intro x hx
        obtain ⟨m', hm', rfl⟩ := List.mem_map.mp hx
        exact skipFrom_member (ih m' hm')
      have hmembers := skipFrom_units (f := .object) (List.cons_ne_nil _ _) hunit ts
      obtain ⟨r, hr⟩ := commaList_cons m.tokens (members.map Member.tokens)
      rw [← hmembers, List.map_cons, hr]
      -- the key of the first member leads to the same state as that of a further one
      exact (skipFrom_step rfl).trans ((skipFrom_step rfl).trans (skipFrom_step rfl).symm)

section Sound

variable {n : Nat} {frames : List Frame} {ts rest : List Token}

/-- Among so many tokens, what the machine passes over where a value is due is one value. -/
def PassesValues (n : Nat) : Prop :=
  ∀ ⦃ts rest : List Token⦄ ⦃frames : List Frame⦄, ts.length ≤ n →
    skipFrom (frames, .value) ts = some rest →
    ∃ v ts', IsValue v ∧ ts = v ++ ts' ∧ skipFrom (frames, .next) ts' = some rest

theorem PassesValues.array (hvalue : PassesValues n) (hle : ts.length ≤ n)
    (h : skipFrom (.array :: frames, .firstItem) ts = some rest) :
    ∃ v ts', IsValue v ∧ .leftBracket :: ts = v ++ ts' ∧
      skipFrom (frames, .next) ts' = some rest := by
  obtain ⟨t, ts', s', rfl, hstep, h'⟩ := exists_step rfl h
  by_cases ht : t = .rightBracket
  · subst ht
    cases hstep
    exact ⟨arrayTokens [], ts', .array nofun, rfl, h'⟩
  · rw [skipFrom_firstItem ht] at h
    have hunit : ∀ ts rest, ts.length ≤ n →
        skipFrom (.array :: frames, Frame.array.goal) ts = some rest →
        ∃ v ts', IsValue v ∧ ts = id v ++ ts' ∧
          skipFrom (.array :: frames, .next) ts' = some rest :=
      fun _ _ hle h => hvalue hle h
    obtain ⟨items, ts', -, hitems, heq, hdone⟩ := exists_units hunit hle h
    refine ⟨arrayTokens items, ts', .array hitems, ?_, hdone⟩
    rw [heq, List.map_id, arrayTokens]
    simp [Frame.close]

theorem PassesValues.member (hvalue : PassesValues n) (hle : ts.length ≤ n)
    (h : skipFrom (.object :: frames, .member) ts = some rest) :
    ∃ (m : Member) (ts' : List Token), IsValue m.value ∧ ts = m.tokens ++ ts' ∧
      skipFrom (.object :: frames, .next) ts' = some rest := by
  obtain ⟨t, ts₁, s₁, rfl, hkey, h₁⟩ := exists_step rfl h
  cases t with
  | text key =>
    cases hkey
    obtain ⟨t, ts₂, s₂, rfl, hcolon, h₂⟩ := exists_step rfl h₁
    cases t with
    | colon =>
      cases hcolon
      simp only [List.length_cons] at hle
      obtain ⟨v, ts', hv, rfl, hnext⟩ := hvalue (by omega) h₂
      exact ⟨⟨key, v⟩, ts', hv, rfl, hnext⟩
    | _ => cases hcolon
  | _ => cases hkey

theorem PassesValues.object (hvalue : PassesValues n) (hle : ts.length ≤ n)
    (h : skipFrom (.object :: frames, .firstMember) ts = some rest) :
    ∃ v ts', IsValue v ∧ .leftBrace :: ts = v ++ ts' ∧
      skipFrom (frames, .next) ts' = some rest := by
  obtain ⟨t, ts', s', rfl, hstep, h'⟩ := exists_step rfl h
  cases t with
  | rightBrace =>
    cases hstep
    exact ⟨objectTokens [], ts', .object nofun, rfl, h'⟩
  | text key =>
    -- a first member is read like any other
    have hmember : skipFrom (.object :: frames, .member) (.text key :: ts') = some rest := by
      cases hstep
      rw [skipFrom_step rfl]
      exact h'
    obtain ⟨members, ts', -, hmembers, heq, hdone⟩ :=
      exists_units (f := .object) (fun _ _ hle h => PassesValues.member hvalue hle h) hle hmember
    refine ⟨objectTokens members, ts', .object hmembers, ?_, hdone⟩
    rw [heq, objectTokens]
    simp [Frame.close]
  | _ => cases hstep

theorem passesValues (n : Nat) : PassesValues n := by
  induction n with
  | zero =>
    intro ts rest frames hle h
    obtain ⟨t, ts', s', rfl, -⟩ := exists_step (by simp [isDone]) h
    exact absurd hle (Nat.not_succ_le_zero _)
  | succ n ih =>
    intro ts rest frames hle h
    obtain ⟨t, ts', s', rfl, hstep, h'⟩ := exists_step (by simp [isDone]) h
    have hle' : ts'.length ≤ n := Nat.le_of_succ_le_succ hle
    cases t with
    | text raw =>
      cases hstep
      exact ⟨[.text raw], ts', .text raw, rfl, h'⟩
    | scalar =>
      cases hstep
      exact ⟨[.scalar], ts', .scalar, rfl, h'⟩
    | leftBracket =>
      cases hstep
      exact ih.array hle' h'
    | leftBrace =>
      cases hstep
      exact ih.object hle' h'
    | rightBrace | rightBracket | colon | comma => cases hstep

end Sound

/-- What is skipped is one value, and all of it. -/
theorem skip_eq_some_iff {ts rest : List Token} :
    skip ts = some rest ↔ ∃ v, IsValue v ∧ ts = v ++ rest := by
  constructor
  · intro h
    obtain ⟨v, ts', hv, rfl, hdone⟩ := passesValues ts.length (Nat.le_refl _) h
    rw [skipFrom_done] at hdone
    cases hdone
    exact ⟨v, hv, rfl⟩
  · rintro ⟨v, hv, rfl⟩
    rw [skip, skipFrom_value hv, skipFrom_done]

end ApprovalWatch.Json
