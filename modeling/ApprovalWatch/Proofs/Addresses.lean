import ApprovalWatch.CommandLine.Value
import ApprovalWatch.Proofs.Authority
import ApprovalWatch.Proofs.Forms
import ApprovalWatch.Proofs.Quoting
import ApprovalWatch.Proofs.Saturation
import Mathlib.Data.List.TakeDrop

/-!
# Addresses in base URLs

An address with a port, as it is given on a command line, names an authority: it becomes a base URL
by the scheme that is put in front.

Main results:

* `Ipv6.isAddressChar_of_parse?`: what an address of eight groups is written with.
* `Ipv4.exists_parse?`: four numbers are an address.
* `readAuthority_of_host`: a host and a port are an authority.
* `Endpoint.baseUrlFault?_of_isAddress`: the base URL of an address has no fault.
-/

namespace ApprovalWatch

namespace Url

/-! ## Characters of addresses -/

/-- A character that addresses are written with. -/
def isAddressChar (c : Char) : Bool :=
  c ∈ "0123456789abcdefABCDEF.:[]".toList

variable {c : Char} {cs : List Char}

/-- None of them is blank, or ends an authority or a part of one. -/
theorem ne_of_isAddressChar (h : isAddressChar c = true) :
    ¬ c ≤ ' ' ∧ c ∉ ['@', '\\', '/', '%', '?', '#'] := by
  have hall : "0123456789abcdefABCDEF.:[]".toList.all
      (fun c => ¬ c ≤ ' ' ∧ c ∉ ['@', '\\', '/', '%', '?', '#']) = true := by
    decide
  exact of_decide_eq_true (List.all_eq_true.mp hall c (of_decide_eq_true h))

theorem isAddressChar_of_isHex (h : Digits.isHex c = true) : isAddressChar c = true := by
  have hlt : c.toNat < 128 := by
    obtain ⟨v, hv⟩ := Digits.isHex_iff.mp h
    unfold Digits.hexValue? at hv
    simp only [Char.le_def, UInt32.le_iff_toNat_le] at hv
    have hnat : c.val.toNat = c.toNat := rfl
    have hbounds : '9'.val.toNat = 57 ∧ 'f'.val.toNat = 102 ∧ 'F'.val.toNat = 70 := by decide
    repeat' split at hv
    all_goals first | omega | cases hv
  have hall : ∀ n < 128, Digits.isHex (Char.ofNat n) = true →
      isAddressChar (Char.ofNat n) = true := by
    decide
  rw [← Char.ofNat_toNat c] at h ⊢
  exact hall c.toNat hlt h

theorem isHex_of_isDecimal (h : Digits.isDecimal c = true) : Digits.isHex c = true := by
  rw [Digits.isDecimal_eq_isDigit] at h
  exact Digits.isHex_iff.mpr ⟨_, Digits.hexValue?_of_isDigit h⟩

/-! ## The scheme in front -/

theorem clean_eq_self (h : ∀ c ∈ cs, ¬ c ≤ ' ') : clean cs = cs := by
  have hblank : ∀ {ds : List Char}, (∀ c ∈ ds, ¬ c ≤ ' ') →
      ds.dropWhile (fun c => decide (c ≤ ' ')) = ds := by
    intro ds hds
    rw [List.dropWhile_eq_self_iff]
    intro hlt
    simpa using hds _ (List.getElem_mem hlt)
  unfold clean
  dsimp only
  rw [hblank h, hblank fun c hc => h c (List.mem_reverse.mp hc), List.reverse_reverse,
    List.filter_eq_self]
  intro c hc
  have hne : ∀ d : Char, d ≤ ' ' → c ≠ d := by
    rintro d hd rfl
    exact h _ hc hd
  simp [hne '\t' (by decide), hne '\n' (by decide), hne '\r' (by decide)]

/-- A text that follows the scheme is read as an authority. -/
theorem parse_http {text : String} (h : ∀ c ∈ text.toList, isAddressChar c = true) :
    parse ("http://" ++ text) = readFromAuthority .special "http".toList text.toList := by
  have hclean : clean ("http://" ++ text).toList = "http://".toList ++ text.toList := by
    rw [String.toList_append]
    have hhttp : "http://".toList.all (fun c => ¬ c ≤ ' ') = true := by decide
    apply clean_eq_self
    intro c hc
    rcases List.mem_append.mp hc with hc | hc
    · exact of_decide_eq_true (List.all_eq_true.mp hhttp c hc)
    · exact (ne_of_isAddressChar (h c hc)).1
  have hslash : text.toList.dropWhile (fun c => decide (c = '/') || decide (c = '\\')) =
      text.toList := by
    rw [List.dropWhile_eq_self_iff]
    intro hlt
    have := (ne_of_isAddressChar (h _ (List.getElem_mem hlt))).2
    simp_all
  have hscheme : parse ("http://" ++ text) =
      readWithScheme none "http".toList ('/' :: '/' :: text.toList) := by
    rw [parse, hclean]
    rfl
  have hkind : SchemeKind.of "http".toList = .special := by decide
  rw [hscheme, readWithScheme, hkind]
  simp [hslash]

/-! ## Hosts and ports -/

theorem withRest_path (kind : SchemeKind) (u : Url) (cs : List Char) :
    (withRest kind u cs).path = u.path := by
  unfold withRest; dsimp only; split <;> rfl

theorem splitLastAt_eq_none (h : '@' ∉ cs) : splitLastAt cs = none := by
  induction cs with
  | nil => rfl
  | cons c cs ih =>
    rw [List.mem_cons, not_or] at h
    rw [splitLastAt, ih h.2]
    exact if_neg (Ne.symm h.1)

theorem exists_readPort {digits : List Char} (scheme : List Char)
    (h : CommandLine.isPort (':' :: digits) = true) :
    ∃ port, readPort scheme digits = .ok port := by
  change (Digits.nat? digits).any (· < 0x10000) = true at h
  unfold Digits.nat? at h
  split at h
  · cases h
  · rename_i hdigits
    rw [Bool.or_eq_true, not_or] at hdigits
    have hlt : ¬ 65535 < Digits.ofDigits 10 digits := by
      have := of_decide_eq_true h
      omega
    have hall : digits.all Digits.isDecimal = true := by simpa using hdigits.2
    unfold readPort
    dsimp only
    rw [hall, decide_eq_false hlt]
    simp only [Bool.not_true, Bool.or_self, Bool.false_eq_true, if_false]
    split <;> exact ⟨_, rfl⟩

/-- A host and a port are an authority. -/
theorem readAuthority_of_host {scheme text digits : List Char} {host : Host}
    (hchars : ∀ c ∈ text ++ ':' :: digits, isAddressChar c = true)
    (hsplit : splitHost false (text ++ ':' :: digits) = (text, ':' :: digits)) (hne : text ≠ [])
    (hhost : Host.parseDomain text = .ok host)
    (hport : CommandLine.isPort (':' :: digits) = true) :
    ∃ authority,
      readAuthority .special scheme false (text ++ ':' :: digits) = .ok (authority, []) := by
  have hat : splitLastAt (text ++ ':' :: digits) = none :=
    splitLastAt_eq_none fun hmem => (ne_of_isAddressChar (hchars _ hmem)).2 (by decide)
  have hnamed : host ≠ .name [] := by
    rintro rfl
    exact Host.parseDomain_ne_empty text hhost
  have hback : ∀ c ∈ digits, (!decide (c = '\\')) = true := by
    intro c hc
    have := (ne_of_isAddressChar (hchars c (by simp [hc]))).2
    simp_all
  have htaken := List.takeWhile_eq_self_iff.mpr hback
  have hleft := List.dropWhile_eq_nil_iff.mpr hback
  obtain ⟨port, hport⟩ := exists_readPort scheme hport
  refine ⟨⟨[], [], host, port⟩, ?_⟩
  unfold readAuthority
  simp [hat, hsplit, hne, hhost, hnamed, htaken, hleft, hport, credentials, Percent.encode, bind,
    Except.bind, pure, Except.pure]

/-- A text that is an authority as a whole is a URL with a path of segments. -/
theorem exists_readFromAuthority {scheme : List Char} {authority : Authority}
    (hchars : ∀ c ∈ cs, isAddressChar c = true)
    (h : readAuthority .special scheme false cs = .ok (authority, [])) :
    ∃ u, readFromAuthority .special scheme cs = .ok u ∧ u.isOpaque = false := by
  have hends : ∀ c ∈ cs, (!endsAuthority .special c) = true := by
    intro c hc
    have := (ne_of_isAddressChar (hchars c hc)).2
    simp_all [endsAuthority]
  have hspan : cs.span (fun c => !endsAuthority .special c) = (cs, []) := by
    rw [List.span_eq_takeWhile_dropWhile, List.takeWhile_eq_self_iff.mpr hends,
      List.dropWhile_eq_nil_iff.mpr hends]
  unfold readFromAuthority
  simp only [hspan, List.isEmpty_nil, Bool.not_true, h, bind, Except.bind, pure, Except.pure]
  exact ⟨_, rfl, by rw [isOpaque, withRest_path]⟩

/-! ## Digits and points -/

theorem isDecimal_of_nat? {n : Nat} (h : Digits.nat? cs = some n) :
    ∀ c ∈ cs, Digits.isDecimal c = true := by
  unfold Digits.nat? at h
  split at h
  · cases h
  · rename_i hdigits
    rw [Bool.or_eq_true, not_or] at hdigits
    simpa using hdigits.2

theorem Form.eq_or_mem_of_mem (separator : Char) (h : c ∈ cs) :
    c = separator ∨ ∃ p ∈ pieces separator cs, c ∈ p := by
  induction cs with
  | nil => cases h
  | cons d r ih =>
    unfold pieces
    split
    · rename_i heq
      rcases List.mem_cons.mp h with rfl | hr
      · exact .inl heq
      · rcases ih hr with heq | ⟨p, hp, hc⟩
        · exact .inl heq
        · exact .inr ⟨p, List.mem_cons_of_mem _ hp, hc⟩
    · cases hpieces : pieces separator r with
      | nil => exact absurd hpieces (pieces_ne_nil separator r)
      | cons p ps =>
        rw [hpieces] at ih
        rcases List.mem_cons.mp h with rfl | hr
        · exact .inr ⟨_, List.mem_cons_self, List.mem_cons_self⟩
        · rcases ih hr with heq | ⟨q, hq, hc⟩
          · exact .inl heq
          · rcases List.mem_cons.mp hq with rfl | hq
            · exact .inr ⟨_, List.mem_cons_self, List.mem_cons_of_mem _ hc⟩
            · exact .inr ⟨q, List.mem_cons_of_mem _ hq, hc⟩

theorem exists_of_mapM_eq_some {α β : Type} {f : α → Option β} {l : List α} {bs : List β}
    (h : l.mapM f = some bs) : ∀ x ∈ l, ∃ b, f x = some b := by
  induction l generalizing bs with
  | nil => exact fun _ hx => absurd hx List.not_mem_nil
  | cons y l ih =>
    rw [List.mapM_cons] at h
    simp only [Option.bind_eq_bind, Option.bind_eq_some_iff] at h
    obtain ⟨b, hb, bs, hbs, -⟩ := h
    exact List.forall_mem_cons.mpr ⟨⟨b, hb⟩, ih hbs⟩

/-! ## Four numbers -/

namespace Ipv4

/-- A number without leading zeros is in base ten. -/
theorem number?_of_isOctet {o : List Char} (h : CommandLine.isOctet o = true) :
    o ≠ [] ∧ o.all Digits.isDecimal = true ∧ ∃ n < 256, number? o = some n := by
  rw [CommandLine.isOctet, Bool.and_eq_true, Option.any_eq_true] at h
  obtain ⟨⟨n, hn, hlt⟩, hzero⟩ := h
  unfold Digits.nat? at hn
  split at hn
  · cases hn
  · rename_i hdigits
    cases hn
    rw [Bool.or_eq_true, not_or, List.isEmpty_iff] at hdigits
    have hall : o.all Digits.isDecimal = true := by simpa using hdigits.2
    refine ⟨hdigits.1, hall, _, of_decide_eq_true hlt, ?_⟩
    cases o with
    | nil => exact absurd rfl hdigits.1
    | cons d r =>
      by_cases hd : d = '0'
      · obtain rfl : r = [] := by simpa [hd] using hzero
        subst hd
        decide
      · have hten : (d :: r).all (Digits.isDigitOf 10) = true := hall
        simp [number?, hd, hten]

/-- Four numbers below 256 are an address. -/
theorem exists_assemble? {a b c d : Nat} (ha : a < 256) (hb : b < 256) (hc : c < 256)
    (hd : d < 256) : ∃ n < 0x100000000, assemble? [a, b, c, d] 3 = some n := by
  refine ⟨a * 256 ^ 3 + (b * 256 ^ 2 + (c * 256 ^ 1 + d)), by omega, ?_⟩
  simp [assemble?, ha, hb, hc, hd]

/-- Four numbers with points between them are an address. -/
theorem exists_parse? (hlength : (Form.pieces '.' cs).length = 4)
    (hoctets : ∀ o ∈ Form.pieces '.' cs, CommandLine.isOctet o = true) :
    isNumeric cs = true ∧ ∃ n, parse? cs = some n := by
  match hpieces : Form.pieces '.' cs, hlength with
  | [a, b, c, d], _ =>
    rw [hpieces] at hoctets
    simp only [List.forall_mem_cons] at hoctets
    obtain ⟨ha, hb, hc, hd, -⟩ := hoctets
    obtain ⟨-, -, na, hna, ha⟩ := number?_of_isOctet ha
    obtain ⟨-, -, nb, hnb, hb⟩ := number?_of_isOctet hb
    obtain ⟨-, -, nc, hnc, hc⟩ := number?_of_isOctet hc
    obtain ⟨hne, hall, nd, hnd, hd⟩ := number?_of_isOctet hd
    have hparts : parts cs = [a, b, c, d] := by simp [parts, hpieces, hne]
    obtain ⟨n, hn, hassemble⟩ := exists_assemble? hna hnb hnc hnd
    refine ⟨by simp [isNumeric, hparts, hne, hall], n, ?_⟩
    simp [parse?, hparts, ha, hb, hc, hd, hassemble, hn]

end Ipv4

/-! ## Eight groups -/

namespace Ipv6

theorem isAddressChar_of_tail? {gs : List Group} (h : tail? cs = some gs) :
    ∀ c ∈ cs, isAddressChar c = true := by
  unfold tail? at h
  split at h
  · rename_i hoctets
    intro c hc
    rcases Form.eq_or_mem_of_mem '.' hc with rfl | ⟨p, hp, hc⟩
    · decide
    · obtain ⟨n, hn⟩ := exists_of_mapM_eq_some hoctets p hp
      unfold octet? at hn
      split at hn
      · cases hn
      · obtain ⟨hn, -⟩ := Option.filter_eq_some_iff.mp hn
        exact isAddressChar_of_isHex (isHex_of_isDecimal (isDecimal_of_nat? hn c hc))
  · cases h

/-- A group of digits, with what follows it. -/
theorem isAddressChar_of_digits {rest : List Char}
    (left : cs.drop ((cs.take 4).takeWhile Digits.isHex).length = rest)
    (hrest : ∀ c ∈ rest, isAddressChar c = true) : ∀ c ∈ cs, isAddressChar c = true := by
  have hprefix : (cs.take 4).takeWhile Digits.isHex <+: cs :=
    (List.takeWhile_prefix _).trans (List.take_prefix 4 cs)
  have hcs : (cs.take 4).takeWhile Digits.isHex ++ rest = cs := by
    rw [← left]
    exact (List.prefix_iff_eq_append.mp hprefix)
  intro c hc
  rw [← hcs, List.mem_append] at hc
  rcases hc with hc | hc
  · exact isAddressChar_of_isHex (List.mem_takeWhile_imp hc)
  · exact hrest c hc

theorem isAddressChar_of_groups? {gs : List Group} (h : groups? cs = some gs) :
    ∀ c ∈ cs, isAddressChar c = true := by
  fun_induction groups? cs generalizing gs with
  | case1 => exact fun _ hc => absurd hc List.not_mem_nil
  | case2 r ih =>
    obtain ⟨gs, hgs, -⟩ := Option.map_eq_some_iff.mp h
    exact List.forall_mem_cons.mpr ⟨by decide, ih hgs⟩
  | case3 =>
    rename_i left
    exact isAddressChar_of_digits left fun _ hc => absurd hc List.not_mem_nil
  | case5 =>
    rename_i left _ _ ih
    obtain ⟨gs, hgs, -⟩ := Option.map_eq_some_iff.mp h
    exact isAddressChar_of_digits left (List.forall_mem_cons.mpr ⟨by decide, ih hgs⟩)
  | case8 => exact isAddressChar_of_tail? h
  | case4 | case6 | case7 | case9 => cases h

theorem isAddressChar_of_parse? {ns : List Nat} (h : parse? cs = some ns) :
    ∀ c ∈ cs, isAddressChar c = true := by
  unfold parse? at h
  split at h
  · obtain ⟨gs, hgs, -⟩ := Option.bind_eq_some_iff.mp h
    obtain ⟨gs, hgs, -⟩ := Option.map_eq_some_iff.mp hgs
    simp only [List.forall_mem_cons]
    exact ⟨by decide, by decide, isAddressChar_of_groups? hgs⟩
  · cases h
  · obtain ⟨gs, hgs, -⟩ := Option.bind_eq_some_iff.mp h
    exact isAddressChar_of_groups? hgs

end Ipv6

/-! ## Hosts of addresses -/

/-- A character of an address of four numbers. -/
def isOctetChar (c : Char) : Bool :=
  c ∈ "0123456789.".toList

theorem ne_of_isOctetChar (h : isOctetChar c = true) :
    isAddressChar c = true ∧ c ∉ [':', '[', ']', '%'] ∧ c.toNat < 128 ∧ c.toLower = c ∧ c ≠ 'x' ∧
      Idna.isDenied c = false := by
  have hall : "0123456789.".toList.all
      (fun c => isAddressChar c = true ∧ c ∉ [':', '[', ']', '%'] ∧ c.toNat < 128 ∧
        c.toLower = c ∧ c ≠ 'x' ∧ Idna.isDenied c = false) = true := by
    decide
  exact of_decide_eq_true (List.all_eq_true.mp hall c (of_decide_eq_true h))

theorem isOctetChar_of_isDecimal (h : Digits.isDecimal c = true) : isOctetChar c = true := by
  have hall : "0123456789abcdefABCDEF.:[]".toList.all
      (fun c => Digits.isDecimal c = true → isOctetChar c = true) = true := by
    decide
  have hmem := of_decide_eq_true (isAddressChar_of_isHex (isHex_of_isDecimal h))
  exact of_decide_eq_true (List.all_eq_true.mp hall c hmem) h

theorem Percent.decode_of_not_mem (h : '%' ∉ cs) : Percent.decode cs = Utf8.encode cs := by
  induction cs with
  | nil => rfl
  | cons c cs ih =>
    rw [List.mem_cons, not_or] at h
    rw [Percent.decode_cons_of_ne (Ne.symm h.1), ih h.2]
    rfl

theorem mem_of_mem_labels {label : List Char} (h : label ∈ Idna.labels cs) (hc : c ∈ label) :
    c ∈ cs := by
  induction cs generalizing label with
  | nil =>
    obtain rfl := List.mem_singleton.mp h
    cases hc
  | cons d cs ih =>
    rw [Idna.labels, List.foldr_cons, ← Idna.labels] at h
    split at h
    · obtain rfl := List.mem_singleton.mp h
      rw [List.mem_singleton.mp hc]
      exact List.mem_cons_self
    · rename_i l rest heq
      rw [heq] at ih
      split at h
      · rcases List.mem_cons.mp h with rfl | h
        · cases hc
        · exact List.mem_cons_of_mem _ (ih h hc)
      · rcases List.mem_cons.mp h with rfl | h
        · rcases List.mem_cons.mp hc with rfl | hc
          · exact List.mem_cons_self
          · exact List.mem_cons_of_mem _ (ih List.mem_cons_self hc)
        · exact List.mem_cons_of_mem _ (ih (List.mem_cons_of_mem _ h) hc)

/-- A text of digits and points is a domain name as it is. -/
theorem toAscii?_of_isOctetChar (h : ∀ c ∈ cs, isOctetChar c = true) :
    Idna.toAscii? (Percent.decode cs) = some cs := by
  have hbytes : Utf8.decode? (Percent.decode cs) = some cs := by
    rw [Percent.decode_of_not_mem, Utf8.decode?_encode]
    exact fun hmem => (ne_of_isOctetChar (h _ hmem)).2.1 (by decide)
  have hascii : Idna.isAscii cs = true :=
    List.all_eq_true.mpr fun c hc => decide_eq_true (ne_of_isOctetChar (h c hc)).2.2.1
  have hencoded : (Idna.labels cs).any Idna.isEncoded = false := by
    rw [List.any_eq_false]
    intro label hlabel hmark
    cases label with
    | nil => cases hmark
    | cons c label =>
      obtain ⟨-, -, -, hlower, hne, -⟩ :=
        ne_of_isOctetChar (h c (mem_of_mem_labels hlabel List.mem_cons_self))
      have hmark := of_decide_eq_true hmark
      rw [List.take_succ_cons, List.map_cons, hlower] at hmark
      exact hne (List.cons.inj hmark).1
  have hdenied : cs.any Idna.isDenied = false :=
    List.any_eq_false.mpr fun c hc => by simp [(ne_of_isOctetChar (h c hc)).2.2.2.2.2]
  rw [Idna.toAscii?_of_plain hbytes hascii hencoded hdenied]
  have hlower : cs.map Char.toLower = cs.map id :=
    List.map_congr_left fun c hc => (ne_of_isOctetChar (h c hc)).2.2.2.1
  rw [hlower, List.map_id]

theorem exists_parseDomain (hlength : (Form.pieces '.' cs).length = 4)
    (hoctets : ∀ o ∈ Form.pieces '.' cs, CommandLine.isOctet o = true) :
    (∀ c ∈ cs, isOctetChar c = true) ∧ ∃ host, Host.parseDomain cs = .ok host := by
  have hchars : ∀ c ∈ cs, isOctetChar c = true := by
    intro c hc
    rcases Form.eq_or_mem_of_mem '.' hc with rfl | ⟨o, ho, hc⟩
    · decide
    · obtain ⟨-, hall, -⟩ := Ipv4.number?_of_isOctet (hoctets o ho)
      exact isOctetChar_of_isDecimal (List.all_eq_true.mp hall c hc)
  obtain ⟨hnumeric, n, hn⟩ := Ipv4.exists_parse? hlength hoctets
  refine ⟨hchars, .ipv4 n, ?_⟩
  unfold Host.parseDomain
  split
  · exact absurd (hchars '[' List.mem_cons_self) (by decide)
  · have hne : cs.isEmpty = false := by
      cases cs with
      | nil => cases hlength
      | cons => rfl
    rw [toAscii?_of_isOctetChar hchars]
    simp [hne, hnumeric, hn]

theorem splitHost_of_isOctetChar {rest : List Char} (h : ∀ c ∈ cs, isOctetChar c = true) :
    splitHost false (cs ++ ':' :: rest) = (cs, ':' :: rest) := by
  induction cs with
  | nil => rfl
  | cons c cs ih =>
    obtain ⟨hc, hcs⟩ := List.forall_mem_cons.mp h
    have := (ne_of_isOctetChar hc).2.1
    simp_all [splitHost]

/-- Colons within brackets belong to the host. -/
theorem splitHost_inside {rest : List Char} (h : ']' ∉ cs) :
    splitHost true (cs ++ ']' :: ':' :: rest) = (cs ++ [']'], ':' :: rest) := by
  induction cs with
  | nil => rfl
  | cons c cs ih =>
    rw [List.mem_cons, not_or] at h
    have := ih h.2
    simp_all [splitHost, Ne.symm h.1]

theorem splitHost_bracketed {rest : List Char} (h : ']' ∉ cs) :
    splitHost false ('[' :: (cs ++ [']']) ++ ':' :: rest) = ('[' :: (cs ++ [']']), ':' :: rest) := by
  rw [List.cons_append, List.append_assoc, List.singleton_append]
  simp [splitHost, splitHost_inside h]

theorem parseDomain_bracketed {pieces : List Nat} (h : Ipv6.parse? cs = some pieces) :
    Host.parseDomain ('[' :: (cs ++ [']'])) = .ok (.ipv6 pieces) := by
  simp [Host.parseDomain, Host.parseBracketed, h]

end Url

/-! ## Base URLs -/

open Url CommandLine

theorem exists_digits_of_isPort {cs : List Char} (h : isPort cs = true) :
    ∃ digits, cs = ':' :: digits ∧ ∀ c ∈ digits, isAddressChar c = true := by
  unfold isPort at h
  split at h
  · rename_i digits
    obtain ⟨n, hn, -⟩ := (Option.any_eq_true _ _).mp h
    exact ⟨digits, rfl, fun c hc =>
      isAddressChar_of_isHex (isHex_of_isDecimal (isDecimal_of_nat? hn c hc))⟩
  · cases h

/-- What goes on after the bracket that closes. -/
theorem eq_bracket_of_drop {cs rest : List Char}
    (h : (cs.dropWhile (· ≠ ']')).drop 1 = ':' :: rest) :
    cs.dropWhile (· ≠ ']') = ']' :: ':' :: rest := by
  cases hclose : cs.dropWhile (· ≠ ']') with
  | nil =>
    rw [hclose] at h
    cases h
  | cons d r =>
    have hne : cs.dropWhile (· ≠ ']') ≠ [] := hclose ▸ List.cons_ne_nil d r
    have hhead := List.head_dropWhile_not (· ≠ ']') hne
    simp only [hclose, List.head_cons] at hhead
    rw [hclose] at h
    obtain rfl : d = ']' := by simpa using hhead
    exact congrArg _ h

/-- An address is a host and a port. -/
theorem exists_readAuthority_of_isAddress {text : String} (h : isAddress text = true) :
    (∀ c ∈ text.toList, isAddressChar c = true) ∧
      ∃ authority,
        readAuthority .special "http".toList false text.toList = .ok (authority, []) := by
  suffices hparts : ∃ name host digits, text.toList = name ++ ':' :: digits ∧
      (∀ c ∈ name, isAddressChar c = true) ∧ (∀ c ∈ digits, isAddressChar c = true) ∧
      splitHost false (name ++ ':' :: digits) = (name, ':' :: digits) ∧ name ≠ [] ∧
      Host.parseDomain name = .ok host ∧ isPort (':' :: digits) = true by
    obtain ⟨name, host, digits, htext, hname, hdigits, hsplit, hne, hhost, hport⟩ := hparts
    have hchars : ∀ c ∈ name ++ ':' :: digits, isAddressChar c = true :=
      List.forall_mem_append.mpr ⟨hname, List.forall_mem_cons.mpr ⟨by decide, hdigits⟩⟩
    rw [htext]
    exact ⟨hchars, readAuthority_of_host hchars hsplit hne hhost hport⟩
  unfold isAddress at h
  split at h
  · rename_i cs htext
    rw [Bool.and_eq_true, Option.isSome_iff_exists] at h
    obtain ⟨⟨pieces, hpieces⟩, hport⟩ := h
    obtain ⟨digits, hdigits, hchars⟩ := exists_digits_of_isPort hport
    have hinner : ']' ∉ cs.takeWhile (· ≠ ']') := fun hmem =>
      absurd (List.mem_takeWhile_imp hmem) (by decide)
    have hclose := eq_bracket_of_drop hdigits
    refine ⟨'[' :: (cs.takeWhile (· ≠ ']') ++ [']']), .ipv6 pieces, digits, ?_, ?_, hchars,
      splitHost_bracketed hinner, List.cons_ne_nil _ _, parseDomain_bracketed hpieces,
      hdigits ▸ hport⟩
    · rw [htext, List.cons_append, List.append_assoc, List.singleton_append, ← hclose,
        List.takeWhile_append_dropWhile]
    · exact List.forall_mem_cons.mpr ⟨by decide, List.forall_mem_append.mpr
        ⟨Ipv6.isAddressChar_of_parse? hpieces, List.forall_mem_singleton.mpr (by decide)⟩⟩
  · simp only [Bool.and_eq_true, decide_eq_true_eq, List.all_eq_true] at h
    obtain ⟨⟨hlength, hoctets⟩, hport⟩ := h
    obtain ⟨hname, host, hhost⟩ := exists_parseDomain hlength hoctets
    obtain ⟨digits, hdigits, hchars⟩ := exists_digits_of_isPort hport
    refine ⟨text.toList.takeWhile (· ≠ ':'), host, digits, ?_,
      fun c hc => (ne_of_isOctetChar (hname c hc)).1, hchars, splitHost_of_isOctetChar hname, ?_,
      hhost, hdigits ▸ hport⟩
    · rw [← hdigits, List.takeWhile_append_dropWhile]
    · intro hnil
      rw [hnil] at hlength
      cases hlength

/-- The base URL of an address has no fault. -/
theorem Endpoint.baseUrlFault?_of_isAddress {text : String} (h : isAddress text = true) :
    ({ baseUrl := "http://" ++ text } : Endpoint).baseUrlFault? = none := by
  obtain ⟨hchars, authority, hauthority⟩ := exists_readAuthority_of_isAddress h
  obtain ⟨u, hu, hopaque⟩ := exists_readFromAuthority hchars hauthority
  have hparse : Url.parse ("http://" ++ text) = .ok u := by rw [parse_http hchars, hu]
  have hscheme := readFromAuthority_scheme hu
  simp [baseUrlFault?, hparse, hopaque, hscheme]

end ApprovalWatch
