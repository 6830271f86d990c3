import ApprovalWatch.Proofs.Keys
import ApprovalWatch.Proofs.Quoting

/-!
# Trees written as files

Every tree that holds nothing but texts, whole numbers and truth values, in arrays and tables, can
be written in the format of settings files, so that it is read back as it was. Texts are written in
double quotes, with escapes for what must not stand there, and numbers in base sixteen, where
nothing can be taken for a date or a fraction. Tables are written in braces, but for the outermost,
which has a line for each of its keys.

Main results:

* `basic_quoted`: a text in double quotes is read back.
* `value?_write`: a value that is written is read back, whatever follows.
* `parse?_writeFile`: so is the table of a file.
-/

namespace ApprovalWatch

/-- Setting a new key puts it last. -/
theorem Assoc.set_of_free {κ α : Type} [DecidableEq κ] {k : κ} {a : α} {l : List (κ × α)}
    (h : k ∉ l.map Prod.fst) : set k a l = l ++ [(k, a)] := by
  induction l with
  | nil => rfl
  | cons p r ih =>
    rw [List.map_cons, List.mem_cons, not_or] at h
    obtain ⟨hne, hr⟩ := h
    rw [set, if_neg (Ne.symm hne), ih hr, List.cons_append]

/-! ## Digits -/

namespace Digits

/-- So many digits of a number in base sixteen, from the last one on. -/
def hex : Nat → Nat → List Char
  | 0, _ => []
  | width + 1, n => hex width (n / 16) ++ [lowerHex (n % 16)]

theorem length_hex (width n : Nat) : (hex width n).length = width := by
  induction width generalizing n with
  | zero => rfl
  | succ width ih => rw [hex, List.length_append, ih, List.length_singleton]

theorem isHex_of_mem_hex {width n : Nat} : ∀ c ∈ hex width n, isHex c = true := by
  induction width generalizing n with
  | zero => exact nofun
  | succ width ih =>
    rw [hex, List.forall_mem_append]
    refine ⟨ih, List.forall_mem_singleton.mpr ?_⟩
    exact isHex_iff.mpr ⟨_, hexValue?_lowerHex _ (Nat.mod_lt n (by decide))⟩

theorem ofDigits_hex {width n : Nat} (h : n < Nat.pow 16 width) :
    ofDigits 16 (hex width n) = n := by
  induction width generalizing n with
  | zero =>
    obtain rfl : n = 0 := Nat.lt_one_iff.mp h
    rfl
  | succ width ih =>
    have hdiv : n / 16 < Nat.pow 16 width :=
      Nat.div_lt_of_lt_mul (Nat.lt_of_lt_of_eq h (Nat.mul_comm _ _))
    rw [hex, ofDigits_append_singleton, ih hdiv,
      hexValue?_lowerHex _ (Nat.mod_lt n (by decide)), Option.getD_some]
    omega

end Digits

namespace Toml

/-! ## Texts -/

/-- A character in double quotes: as it is, if it may stand there, and else as an escape. -/
def quoteChar (c : Char) : List Char :=
  if isBasicChar c then [c] else '\\' :: 'U' :: Digits.hex 8 c.toNat

/-- A text in double quotes. -/
def quoted (s : String) : List Char :=
  '"' :: (s.toList.flatMap quoteChar ++ ['"'])

theorem codePoint?_hex (c : Char) : codePoint? (Digits.hex 8 c.toNat) = some c := by
  have hlt : c.toNat < Nat.pow 16 8 := by
    have := Utf8.toNat_valid c
    have hpow : Nat.pow 16 8 = 0x100000000 := rfl
    omega
  have hall : (Digits.hex 8 c.toNat).all Digits.isHex = true :=
    List.all_eq_true.mpr Digits.isHex_of_mem_hex
  rw [codePoint?, Digits.ofDigits_hex hlt, hall]
  have hvalid : c.toNat.isValidChar := c.valid
  simp [hvalid]

theorem escape?_hex (c : Char) (r : List Char) :
    escape? ('U' :: (Digits.hex 8 c.toNat ++ r)) = some (c, r) := by
  have hlength := Digits.length_hex 8 c.toNat
  have hle : 8 ≤ (Digits.hex 8 c.toNat ++ r).length := by
    rw [List.length_append, hlength]
    omega
  rw [escape?, if_pos hle, List.take_left' hlength, List.drop_left' hlength, codePoint?_hex]
  rfl

theorem basic_quoteChar (c : Char) (r : List Char) :
    basic (quoteChar c ++ r) = (basic r).map fun p => (c :: p.1, p.2) := by
  rw [quoteChar]
  by_cases hc : isBasicChar c = true
  · have hne : c ≠ '"' ∧ c ≠ '\\' := by
      simp only [isBasicChar, Bool.and_eq_true, decide_eq_true_eq] at hc
      exact ⟨hc.1.2, hc.2⟩
    rw [if_pos hc, List.singleton_append, basic, if_neg hne.1, if_neg hne.2, if_pos hc]
  · rw [if_neg hc, List.cons_append, List.cons_append, basic, if_neg (by decide), if_pos rfl]
    split
    · rename_i e rest he
      rw [escape?_hex] at he
      cases he
      rfl
    · rename_i he
      rw [escape?_hex] at he
      cases he

/-- A text in double quotes is read back. -/
theorem basic_quoted (cs r : List Char) :
    basic (cs.flatMap quoteChar ++ '"' :: r) = some (cs, r) := by
  induction cs with
  | nil => rw [List.flatMap_nil, List.nil_append, basic, if_pos rfl]
  | cons c cs ih =>
    rw [List.flatMap_cons, List.append_assoc, basic_quoteChar, ih]
    rfl

theorem keyPart?_quoted (k : String) (r : List Char) :
    keyPart? (quoted k ++ r) = some (k, r) := by
  rw [quoted, List.cons_append, List.append_assoc, keyPart?]
  dsimp only [List.singleton_append]
  rw [basic_quoted]
  simp

theorem dropBlank_of_head {c : Char} (hc : c ≠ ' ' ∧ c ≠ '\t') (r : List Char) :
    dropBlank (c :: r) = c :: r :=
  List.dropWhile_cons_of_neg (by simp [hc.1, hc.2])

theorem key?_quoted (k : String) (r : List Char) :
    key? (quoted k ++ '=' :: r) = some (([], k), '=' :: r) := by
  have hblank : dropBlank (quoted k ++ '=' :: r) = quoted k ++ '=' :: r :=
    dropBlank_of_head (by decide) _
  have hparts : keyParts? (quoted k ++ '=' :: r) = some ([k], '=' :: r) := by
    rw [keyParts?, hblank, keyPart?_quoted]
    dsimp only
    rw [dropBlank_of_head (by decide)]
    rfl
  rw [key?, hparts]
  rfl

/-- What follows a value does not go on with it: it begins with no quote, underscore or digit. -/
def Ends (r : List Char) : Prop :=
  ∀ c ∈ r.head?, c ≠ '"' ∧ c ≠ '_' ∧ Digits.isDigitOf 16 c = false

theorem ends_cons {c : Char} (hc : c ≠ '"' ∧ c ≠ '_' ∧ Digits.isDigitOf 16 c = false)
    (r : List Char) : Ends (c :: r) := by
  rintro _ ⟨⟩
  exact hc

theorem head?_quoteChar (c : Char) : ∃ d r, quoteChar c = d :: r ∧ d ≠ '"' := by
  rw [quoteChar]
  by_cases hc : isBasicChar c = true
  · rw [if_pos hc]
    refine ⟨c, [], rfl, ?_⟩
    rintro rfl
    exact absurd hc (by decide)
  · rw [if_neg hc]
    exact ⟨_, _, rfl, by decide⟩

theorem text?_quoted (s : String) {r : List Char} (hr : Ends r) :
    text? (quoted s ++ r) = some (s, r) := by
  -- an empty text is no start of one that goes over several lines
  have hbody : ∀ r', s.toList.flatMap quoteChar ++ '"' :: r ≠ '"' :: '"' :: r' := by
    intro r' heq
    cases hs : s.toList with
    | nil =>
      rw [hs, List.flatMap_nil, List.nil_append] at heq
      rw [(List.cons.inj heq).2] at hr
      exact (hr '"' rfl).1 rfl
    | cons c cs =>
      obtain ⟨d, r'', hd, hne⟩ := head?_quoteChar c
      rw [hs, List.flatMap_cons, hd] at heq
      exact hne (List.cons.inj heq).1
  rw [quoted, List.cons_append, List.append_assoc, List.singleton_append, text?,
    basic_quoted s.toList r]
  · simp
  · exact hbody

/-! ## Numbers -/

theorem grouped_append {base : Nat} {ds r : List Char}
    (hds : ∀ d ∈ ds, Digits.isDigitOf base d = true)
    (hr : ∀ c ∈ r.head?, c ≠ '_' ∧ Digits.isDigitOf base c = false) :
    grouped base (ds ++ r) = (ds, r) := by
  induction ds with
  | nil =>
    cases r with
    | nil => rfl
    | cons c r =>
      obtain ⟨hne, hdigit⟩ := hr c rfl
      cases r with
      | nil => simp [grouped, hdigit]
      | cons d r => simp [grouped, hne, hdigit]
  | cons d ds ih =>
    obtain ⟨hd, hds⟩ := List.forall_mem_cons.mp hds
    have hne : d ≠ '_' := by
      rintro rfl
      cases hd
    have ih := ih hds
    rw [List.cons_append]
    cases hrest : ds ++ r with
    | nil =>
      rw [hrest] at ih
      cases ih
      simp [grouped, hd]
    | cons c rest =>
      rw [hrest] at ih
      simp [grouped, hne, hd, ih]

theorem digits?_append {base : Nat} {ds r : List Char} (hne : ds ≠ [])
    (hds : ∀ d ∈ ds, Digits.isDigitOf base d = true)
    (hr : ∀ c ∈ r.head?, c ≠ '_' ∧ Digits.isDigitOf base c = false) :
    digits? base (ds ++ r) = some (ds, r) := by
  have hhead : (ds ++ r).head?.any (Digits.isDigitOf base) = true := by
    cases ds with
    | nil => exact absurd rfl hne
    | cons d ds => exact hds d List.mem_cons_self
  rw [digits?, if_pos hhead, grouped_append hds hr]

/-- Nothing that begins like a number in base sixteen is a date, a time or a fraction. -/
theorem fixed?_hex (count low high : Nat) (r : List Char) :
    fixed? (count + 2) low high ('0' :: 'x' :: r) = none := by
  have hx : Digits.isDecimal 'x' = false := by decide
  simp [fixed?, hx]

theorem integer?_hex {ds r : List Char} {i : Int}
    (hds : digits? 16 (ds ++ r) = some (ds, r)) (hi : ranged? (Digits.ofDigits 16 ds) = some i) :
    integer? ('0' :: 'x' :: (ds ++ r)) = some (i, r) := by
  rw [integer?]
  refine Option.bind_eq_some_iff.mpr ⟨_, hds, ?_⟩
  exact Option.bind_eq_some_iff.mpr ⟨_, hi, rfl⟩

theorem numeric?_hex {n : Nat} (hn : n < 0x8000000000000000) {r : List Char} (hr : Ends r) :
    numeric? ('0' :: 'x' :: (Digits.hex 16 n ++ r)) = some (.integer n, r) := by
  have hmoment : moment? ('0' :: 'x' :: (Digits.hex 16 n ++ r)) = none := by
    simp [moment?, dateTime?, date?, time?, fixed?_hex]
  have hfloat : float? ('0' :: 'x' :: (Digits.hex 16 n ++ r)) = none := by
    simp [float?, sign, decimal?, fraction?, exponent?]
  have hspecial : special? ('0' :: 'x' :: (Digits.hex 16 n ++ r)) = none := by
    simp [special?, sign]
  have hne : Digits.hex 16 n ≠ [] :=
    List.ne_nil_of_length_pos (by rw [Digits.length_hex]; decide)
  have hdigits : digits? 16 (Digits.hex 16 n ++ r) = some (Digits.hex 16 n, r) :=
    digits?_append hne Digits.isHex_of_mem_hex fun c hc => (hr c hc).2
  have hvalue : Digits.ofDigits 16 (Digits.hex 16 n) = n :=
    Digits.ofDigits_hex (hn.trans (by decide))
  have hranged : ranged? (Digits.ofDigits 16 (Digits.hex 16 n)) = some (n : Int) := by
    rw [hvalue, ranged?, if_pos (by omega)]
  rw [numeric?, hmoment, hfloat, integer?_hex hdigits hranged]
  dsimp only [Option.orElse]
  rw [hspecial]
  rfl

end Toml

/-! ## Trees -/

/-- A tree that can be written, with so many arrays and tables within each other at most. -/
inductive Tree.Plain : Nat → Tree → Prop
  | string {depth : Nat} (s : String) : Plain (depth + 1) (.string s)
  | integer {depth n : Nat} (h : n < 0x8000000000000000) : Plain (depth + 1) (.integer n)
  | boolean {depth : Nat} (b : Bool) : Plain (depth + 1) (.boolean b)
  | array {depth : Nat} {ts : List Tree} (items : ∀ t ∈ ts, Plain depth t) :
      Plain (depth + 1) (.array ts)
  | table {depth : Nat} {es : List (String × Tree)} (keys : (es.map Prod.fst).Nodup)
      (values : ∀ e ∈ es, Plain depth e.2) : Plain (depth + 1) (.table es)

namespace Toml

mutual

/-- A tree as it is written in a file. -/
def write : Tree → List Char
  | .string s => quoted s
  | .integer n => '0' :: 'x' :: Digits.hex 16 n.toNat
  | .float l => l.toList
  | .boolean b => if b then "true".toList else "false".toList
  | .datetime d => d.toList
  | .array ts => '[' :: (writeItems ts ++ [']'])
  | .table es => '\x7b' :: (writePairs es ++ ['\x7d'])

/-- The items of an array, with a comma after each. -/
def writeItems : List Tree → List Char
  | [] => []
  | t :: ts => write t ++ ',' :: writeItems ts

/-- The pairs of a table in braces, with a comma between two. -/
def writePairs : List (String × Tree) → List Char
  | [] => []
  | [(k, t)] => quoted k ++ '=' :: write t
  | (k, t) :: e :: es => quoted k ++ '=' :: (write t ++ ',' :: writePairs (e :: es))

end

/-- A file with a line for each key of a table. -/
def writeFile : List (String × Tree) → List Char
  | [] => []
  | (k, t) :: es => quoted k ++ '=' :: (write t ++ '\n' :: writeFile es)

section Values

variable {t : Tree} {depth : Nat}

/-- The first characters of values as they are written. -/
theorem head_write (h : t.Plain depth) :
    ∃ c r, write t = c :: r ∧ c ∉ [' ', '\t', '\n', '\r', '#'] ∧ c ≠ ']' := by
  cases h with
  | string s => exact ⟨_, _, by rw [write, quoted], by decide⟩
  | integer => exact ⟨_, _, by rw [write], by decide⟩
  | boolean b => cases b <;> exact ⟨_, _, by rw [write]; rfl, by decide⟩
  | array => exact ⟨_, _, by rw [write], by decide⟩
  | table => exact ⟨_, _, by rw [write], by decide⟩

theorem dropFiller_of_head {c : Char} (hc : c ∉ [' ', '\t', '\n', '\r', '#']) (r : List Char) :
    dropFiller (c :: r) = c :: r := by
  simp only [List.mem_cons, List.not_mem_nil, or_false, not_or] at hc
  obtain ⟨hspace, htab, hline, hreturn, hmark⟩ := hc
  have hnewline : newline? (c :: r) = none := by
    simp [newline?, hline, hreturn]
  rw [dropFiller, if_neg (by simp [hspace, htab, hline]), if_neg hmark]
  split
  · rename_i heq
    rw [hnewline] at heq
    cases heq
  · rfl

theorem items?_next {item : Reader Tree} {cs w r : List Char} {c : Char}
    (hdrop : dropFiller cs = c :: w) (hc : c ≠ ']') (hread : item (c :: w) = some (t, ',' :: r))
    (hlt : r.length < cs.length) :
    items? item cs = (items? item r).map fun p => (t :: p.1, p.2) := by
  rw [items?, hdrop]
  split
  · rename_i heq
    exact absurd (List.cons.inj heq).1 hc
  · rw [hread]
    dsimp only
    rw [dropFiller_of_head (by decide)]
    exact if_pos hlt

/-- The items of an array are read back if each of them is. -/
theorem items?_write {item : Reader Tree} {ts : List Tree} (plain : ∀ t ∈ ts, t.Plain depth)
    (hitem : ∀ t ∈ ts, ∀ r, Ends r → item (write t ++ r) = some (t, r)) (r : List Char) :
    items? item (writeItems ts ++ ']' :: r) = some (ts, r) := by
  induction ts with
  | nil =>
    rw [writeItems, List.nil_append, items?, dropFiller_of_head (by decide)]
    rfl
  | cons t ts ih =>
    obtain ⟨hplain, hplains⟩ := List.forall_mem_cons.mp plain
    obtain ⟨ht, hts⟩ := List.forall_mem_cons.mp hitem
    obtain ⟨c, w, hw, hstart, hclose⟩ := head_write hplain
    have hread := ht _ (ends_cons (c := ',') (by decide) (writeItems ts ++ ']' :: r))
    rw [writeItems, List.append_assoc, List.cons_append]
    rw [hw, List.cons_append] at hread ⊢
    rw [items?_next (dropFiller_of_head hstart _) hclose hread, ih hplains hts]
    · rfl
    · simp only [List.length_cons, List.length_append]
      omega

/-! ### Tables -/

theorem pair?_write {value : Reader Tree} (hplain : t.Plain depth) {k : String} {r : List Char}
    (hvalue : value (write t ++ r) = some (t, r)) :
    pair? value (quoted k ++ '=' :: (write t ++ r)) = some ((([], k), t), r) := by
  obtain ⟨c, w, hw, hstart, -⟩ := head_write hplain
  have hblank : dropBlank (write t ++ r) = write t ++ r := by
    rw [hw, List.cons_append, dropBlank_of_head ⟨?_, ?_⟩]
    · exact List.ne_of_not_mem_cons hstart
    · exact List.ne_of_not_mem_cons (List.not_mem_of_not_mem_cons hstart)
  rw [pair?, key?_quoted]
  change (value (dropBlank (write t ++ r))).map (fun p => ((([], k), p.1), p.2)) = _
  rw [hblank, hvalue]
  rfl

/-- The pairs of a table in braces are read back if each of their values is. -/
theorem pairs?_write {value : Reader Tree} {e : String × Tree} {es : List (String × Tree)}
    (plain : ∀ e' ∈ e :: es, e'.2.Plain depth)
    (hvalue : ∀ e' ∈ e :: es, ∀ r, Ends r → value (write e'.2 ++ r) = some (e'.2, r))
    (r : List Char) :
    pairs? value (writePairs (e :: es) ++ '\x7d' :: r) =
      some ((e :: es).map fun e => (([], e.1), e.2), r) := by
  induction es generalizing e with
  | nil =>
    have hplain := List.forall_mem_singleton.mp plain
    have hread := List.forall_mem_singleton.mp hvalue _ (ends_cons (c := '\x7d') (by decide) r)
    rw [writePairs, List.append_assoc, List.cons_append, pairs?, pair?_write hplain hread]
    dsimp only
    rw [dropBlank_of_head (by decide)]
    rfl
  | cons e' es ih =>
    obtain ⟨hplain, hplains⟩ := List.forall_mem_cons.mp plain
    obtain ⟨he, hes⟩ := List.forall_mem_cons.mp hvalue
    have hread := he _ (ends_cons (c := ',') (by decide) (writePairs (e' :: es) ++ '\x7d' :: r))
    rw [writePairs, List.append_assoc, List.cons_append, List.append_assoc, List.cons_append,
      pairs?, pair?_write hplain hread]
    dsimp only
    rw [dropBlank_of_head (by decide)]
    refine (if_pos ?_).trans ?_
    · simp only [List.length_cons, List.length_append]
      omega
    · rw [ih hplains hes]
      rfl

/-- A pair with a new key comes last. -/
theorem assign_of_free {k : String} {n : Node} {es : Node.Entries}
    (h : k ∉ es.map Prod.fst) : Node.assign [] k n es = some (es ++ [(k, n)]) := by
  have hfree := Assoc.get?_eq_none_iff.mpr h
  rw [Node.assign, Node.descend, if_pos ⟨.inl rfl, by rw [hfree]; rfl⟩, Assoc.set_of_free h]

/-- Pairs with distinct keys come one after the other. -/
theorem foldlM_assign {es : List (String × Tree)} (acc : Node.Entries)
    (keys : (acc.map Prod.fst ++ es.map Prod.fst).Nodup) :
    (es.map fun e => (([], e.1), e.2)).foldlM
        (fun acc (p : (List String × String) × Tree) =>
          Node.assign p.1.1 p.1.2 (.value p.2) acc) acc =
      some (acc ++ es.map fun e => (e.1, Node.value e.2)) := by
  induction es generalizing acc with
  | nil => simp
  | cons e es ih =>
    have hfree : e.1 ∉ acc.map Prod.fst := fun hmem =>
      (List.nodup_append.mp keys).2.2 _ hmem _ List.mem_cons_self rfl
    rw [List.map_cons, List.foldlM_cons, assign_of_free hfree]
    refine (ih _ ?_).trans ?_
    · rw [List.map_append, List.append_assoc]
      exact keys
    · rw [List.append_assoc]
      rfl

theorem entriesToTree_values (es : List (String × Tree)) :
    Node.entriesToTree (es.map fun e => (e.1, Node.value e.2)) = es := by
  rw [Node.entriesToTree_eq_map, List.map_map]
  refine (List.map_congr_left fun e _ => ?_).trans es.map_id
  simp [Node.toTree]

theorem assemble?_pairs {es : List (String × Tree)} (keys : (es.map Prod.fst).Nodup) :
    assemble? (es.map fun e => (([], e.1), e.2)) = some (.table es) := by
  rw [assemble?, foldlM_assign [] keys, Option.map_some, Node.toTree, List.nil_append,
    entriesToTree_values]

/-! ### All values -/

/-- A value that is written is read back, whatever follows. -/
theorem value?_write (h : t.Plain depth) {r : List Char} (hr : Ends r) :
    value? depth (write t ++ r) = some (t, r) := by
  induction h generalizing r with
  | string s =>
    have hread := text?_quoted s hr
    rw [quoted, List.cons_append] at hread
    rw [write, quoted, List.cons_append, value?, if_pos (.inl rfl), hread]
    rfl
  | integer hn =>
    rw [write, List.cons_append, List.cons_append, value?, if_neg (by decide), if_neg (by decide),
      if_neg (by decide), if_neg (by decide), Int.toNat_natCast, numeric?_hex hn hr]
  | boolean b =>
    cases b <;> rfl
  | array items ih =>
    rw [write, List.cons_append, List.append_assoc, value?, if_neg (by decide), if_pos rfl,
      List.singleton_append, items?_write items fun t ht r hr => ih t ht hr]
    rfl
  | @table depth es keys values ih =>
    rw [write, List.cons_append, List.append_assoc, value?, if_neg (by decide),
      if_neg (by decide), if_pos rfl, List.singleton_append]
    cases es with
    | nil => rfl
    | cons e es =>
      have hread := pairs?_write values (fun e he r hr => ih e he hr) r
      have hstart : ∃ w, writePairs (e :: es) ++ '\x7d' :: r = '"' :: w := by
        cases es <;> exact ⟨_, by rw [writePairs, quoted]; rfl⟩
      obtain ⟨w, hw⟩ := hstart
      rw [hw] at hread ⊢
      rw [dropBlank_of_head (by decide)]
      change (pairs? (value? depth) ('"' :: w)).bind _ = _
      rw [hread, Option.bind_some, assemble?_pairs keys]
      rfl

end Values

/-! ## Files -/

section Files

variable {es : List (String × Tree)}

theorem line?_write {t : Tree} (h : t.Plain (maxDepth + 1)) {k : String} {d : Draft}
    (hfree : k ∉ d.entries.map Prod.fst) (r : List Char) :
    line? d (quoted k ++ '=' :: (write t ++ '\n' :: r)) =
      some ({ d with entries := d.entries ++ [(k, .value t)] }, r) := by
  have hpair := pair?_write h (value?_write h (ends_cons (c := '\n') (by decide) r)) (k := k)
  obtain ⟨w, hw⟩ : ∃ w, quoted k ++ '=' :: (write t ++ '\n' :: r) = '"' :: w := ⟨_, rfl⟩
  have hblank : dropBlank ('"' :: w) = '"' :: w := dropBlank_of_head (by decide) w
  have hend : endLine? ('"' :: w) = none := by
    rw [endLine?, hblank]
    rfl
  rw [hw] at hpair ⊢
  rw [line?, hblank]
  split
  · rename_i heq
    exact absurd (List.cons.inj heq).1 (by decide)
  · rename_i heq
    exact absurd (List.cons.inj heq).1 (by decide)
  · rw [hend]
    dsimp only
    rw [hpair]
    simp [Draft.addPair, assign_of_free hfree, endLine?, dropBlank, newline?]

theorem lines?_write {d : Draft} (plain : ∀ e ∈ es, e.2.Plain (maxDepth + 1))
    (keys : (d.entries.map Prod.fst ++ es.map Prod.fst).Nodup) :
    lines? d (writeFile es) =
      some { d with entries := d.entries ++ es.map fun e => (e.1, .value e.2) } := by
  induction es generalizing d with
  | nil =>
    rw [writeFile, lines?, List.map_nil, List.append_nil]
  | cons e es ih =>
    obtain ⟨hplain, hplains⟩ := List.forall_mem_cons.mp plain
    have hfree : e.1 ∉ d.entries.map Prod.fst := fun hmem =>
      (List.nodup_append.mp keys).2.2 _ hmem _ List.mem_cons_self rfl
    have hline := line?_write hplain hfree (writeFile es)
    obtain ⟨w, hw⟩ : ∃ w, quoted e.1 ++ '=' :: (write e.2 ++ '\n' :: writeFile es) = '"' :: w :=
      ⟨_, rfl⟩
    have hlength := congrArg List.length hw
    simp only [List.length_append, List.length_cons] at hlength
    rw [hw] at hline
    rw [writeFile, hw, lines?, hline]
    dsimp only
    rw [if_pos (by simp only [List.length_cons]; omega), ih hplains ?_]
    · simp
    · rw [List.map_append, List.append_assoc]
      exact keys

/-- The table of a file that is written is read back. -/
theorem parse?_writeFile (plain : ∀ e ∈ es, e.2.Plain (maxDepth + 1))
    (keys : (es.map Prod.fst).Nodup) : parse? (writeFile es) = some (.table es) := by
  have hmark : ∀ r, writeFile es ≠ '\uFEFF' :: r := by
    intro r heq
    cases es with
    | nil => cases heq
    | cons e es =>
      rw [writeFile] at heq
      exact absurd (List.cons.inj heq).1 (by decide)
  have hlines : lines? {} (writeFile es) =
      some { entries := es.map fun e => (e.1, Node.value e.2) } := lines?_write plain keys
  have hfinish : Draft.finish { entries := es.map fun e => (e.1, Node.value e.2) } =
      some (es.map fun e => (e.1, Node.value e.2)) := rfl
  rw [parse?]
  · rw [hlines]
    simp [hfinish, entriesToTree_values]
  · exact hmark

end Files

end Toml

end ApprovalWatch
