import ApprovalWatch.Url.Form
import ApprovalWatch.Proofs.Utf8

/-!
# Form encoding read back

What is written into a query as a name and a value is read from it as that name and that value,
whatever characters they hold, and the pairs before it stay what they were.

Main results:

* `decode_encode`: a name or value is read as it was written.
* `ne_of_mem_encode`: what is written holds no character that ends a name or a value.
* `pairs_appendPair`: the pairs of a query that another pair was appended to.
-/

namespace ApprovalWatch.Url

/-! ## Escapes -/

namespace Percent

theorem hexValue?_upperHex : ∀ n < 16, Digits.hexValue? (Digits.upperHex n) = some n := by
  decide

theorem decode_encodeByte (b : UInt8) (r : List Char) :
    decode (encodeByte b ++ r) = b :: decode r := by
  have hb := b.toNat_lt
  rw [encodeByte, List.cons_append, List.cons_append, List.singleton_append, decode,
    hexValue?_upperHex _ (by omega), hexValue?_upperHex _ (by omega)]
  have hn : b.toNat / 16 * 16 + b.toNat % 16 = b.toNat := Nat.div_add_mod' _ _
  simp [hn, Nat.toUInt8]

theorem decode_cons_of_ne {c : Char} (h : c ≠ '%') (r : List Char) :
    decode (c :: r) = Utf8.encodeChar c ++ decode r := by
  rw [decode]
  rintro _ _ _ rfl
  exact absurd rfl h

end Percent

namespace Form

/-! ## Names and values -/

/-- A plain byte is a character of its own, and none that means something in a query. -/
theorem isPlain_char {b : UInt8} (h : isPlain b = true) :
    Utf8.encodeChar (Char.ofNat b.toNat) = [b] ∧
      Char.ofNat b.toNat ∉ ['%', '+', '&', '=', '#'] := by
  have hn : ∀ n < 256, isPlain (UInt8.ofNat n) = true →
      Utf8.encodeChar (Char.ofNat n) = [UInt8.ofNat n] ∧
        Char.ofNat n ∉ ['%', '+', '&', '=', '#'] := by
    decide +kernel
  simpa using hn b.toNat b.toNat_lt (by simpa using h)

/-- A plus sign stands for a space. -/
def spaced (cs : List Char) : List Char :=
  cs.map fun c => if c = '+' then ' ' else c

theorem decode_eq (cs : List Char) : decode cs = Utf8.decodeLossy (Percent.decode (spaced cs)) :=
  rfl

theorem spaced_append (cs ds : List Char) : spaced (cs ++ ds) = spaced cs ++ spaced ds :=
  List.map_append

theorem upperHex_ne : ∀ n < 16, Digits.upperHex n ∉ ['+', '&', '=', '#'] := by
  decide

theorem spaced_percent (b : UInt8) : spaced (Percent.encodeByte b) = Percent.encodeByte b := by
  have hb := b.toNat_lt
  have h1 := upperHex_ne (b.toNat / 16) (by omega)
  have h2 := upperHex_ne (b.toNat % 16) (by omega)
  simp_all [spaced, Percent.encodeByte]

theorem decode_spaced_encodeByte (b : UInt8) (r : List Char) :
    Percent.decode (spaced (encodeByte b) ++ r) = b :: Percent.decode r := by
  unfold encodeByte
  split
  · rename_i plain
    obtain ⟨hbytes, hchar⟩ := isPlain_char plain
    simp only [List.mem_cons, not_or] at hchar
    rw [spaced, List.map_singleton, if_neg hchar.2.1, List.singleton_append,
      Percent.decode_cons_of_ne hchar.1, hbytes, List.singleton_append]
  · split
    · rename_i hspace
      rw [beq_iff_eq] at hspace
      subst hspace
      exact Percent.decode_cons_of_ne (by decide) r
    · rw [spaced_percent, Percent.decode_encodeByte]

theorem decode_spaced_bytes (bs : List UInt8) :
    Percent.decode (spaced (bs.flatMap encodeByte)) = bs := by
  induction bs with
  | nil => rfl
  | cons b bs ih => rw [List.flatMap_cons, spaced_append, decode_spaced_encodeByte, ih]

/-- **A name or a value is read as it was written.** -/
theorem decode_encode (cs : List Char) : decode (encode cs) = cs := by
  rw [decode_eq, encode, decode_spaced_bytes, Utf8.decodeLossy_encode]

theorem encode_injective {cs ds : List Char} (h : encode cs = encode ds) : cs = ds := by
  rw [← decode_encode cs, h, decode_encode]

theorem ne_of_mem_encodeByte {b : UInt8} {c : Char} (h : c ∈ encodeByte b) :
    c ∉ ['&', '=', '#'] := by
  have hb := b.toNat_lt
  unfold encodeByte at h
  split at h
  · rename_i plain
    have hchar := (isPlain_char plain).2
    rw [List.mem_singleton.mp h]
    simp_all
  · split at h
    · rw [List.mem_singleton.mp h]
      decide
    · have h1 := upperHex_ne (b.toNat / 16) (by omega)
      have h2 := upperHex_ne (b.toNat % 16) (by omega)
      simp only [Percent.encodeByte, List.mem_cons, List.not_mem_nil, or_false] at h
      rcases h with rfl | rfl | rfl
      · decide
      · simp_all
      · simp_all

/-- A name or a value that is written holds nothing that could end it. -/
theorem ne_of_mem_encode {cs : List Char} {c : Char} (h : c ∈ encode cs) :
    c ∉ ['&', '=', '#'] := by
  obtain ⟨b, -, hb⟩ := List.mem_flatMap.mp h
  exact ne_of_mem_encodeByte hb

/-! ## Pairs -/

theorem pieces_ne_nil (separator : Char) (cs : List Char) : pieces separator cs ≠ [] := by
  cases cs with
  | nil => exact List.cons_ne_nil _ _
  | cons c cs =>
    unfold pieces
    split
    · exact List.cons_ne_nil _ _
    · split <;> exact List.cons_ne_nil _ _

theorem pieces_append_separator (separator : Char) (cs ds : List Char) :
    pieces separator (cs ++ separator :: ds) = pieces separator cs ++ pieces separator ds := by
  induction cs with
  | nil => exact pieces_cons_separator separator ds
  | cons c cs ih =>
    rw [List.cons_append, pieces, pieces, ih]
    split
    · rfl
    · cases hcs : pieces separator cs with
      | nil => exact absurd hcs (pieces_ne_nil separator cs)
      | cons p ps => rfl

theorem pieces_of_not_mem {separator : Char} {cs : List Char} (h : separator ∉ cs) :
    pieces separator cs = [cs] := by
  induction cs with
  | nil => rfl
  | cons c cs ih =>
    rw [List.mem_cons, not_or] at h
    rw [pieces, if_neg (Ne.symm h.1), ih h.2]

theorem decodePair_encodePair (name value : List Char) :
    decodePair (encodePair name value) = (name, value) := by
  have hname : ∀ c ∈ encode name, decide (c ≠ '=') = true := by
    intro c hc
    have := ne_of_mem_encode hc
    simp_all
  rw [decodePair, encodePair, List.takeWhile_append_of_pos hname,
    List.dropWhile_append_of_pos hname, List.takeWhile_cons_of_neg (by simp),
    List.dropWhile_cons_of_neg (by simp), List.append_nil, List.drop_one, List.tail_cons,
    decode_encode, decode_encode]

theorem pairs_encodePair (name value : List Char) :
    pairs (encodePair name value) = [(name, value)] := by
  have hseparator : '&' ∉ encodePair name value := by
    rw [encodePair, List.mem_append, List.mem_cons]
    rintro (h | h | h)
    · exact ne_of_mem_encode h (by decide)
    · exact absurd h (by decide)
    · exact ne_of_mem_encode h (by decide)
  have hne : (encodePair name value).isEmpty = false := by simp [encodePair]
  rw [pairs, pieces_of_not_mem hseparator, List.filter_cons_of_pos (by simp [hne]), List.filter_nil,
    List.map_singleton, decodePair_encodePair]

theorem pairs_append_separator (cs ds : List Char) :
    pairs (cs ++ '&' :: ds) = pairs cs ++ pairs ds := by
  rw [pairs, pieces_append_separator, List.filter_append, List.map_append]
  rfl

/-- **A pair that is appended to a query comes after its pairs**, also where the query is empty or
ends with a separator. -/
theorem pairs_appendPair (query name value : List Char) :
    pairs (appendPair query name value) = pairs query ++ [(name, value)] := by
  rw [appendPair]
  split
  · rename_i hempty
    rw [List.isEmpty_iff.mp hempty, pairs_encodePair]
    rfl
  · rw [pairs_append_separator, pairs_encodePair]

end Form

end ApprovalWatch.Url
