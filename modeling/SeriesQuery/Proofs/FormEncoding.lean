import SeriesQuery.Proofs.ByteDecoding
import SeriesQuery.Proofs.Splitting
import SeriesQuery.Url.Basic

/-! Reading form data back. Every text stands in it without any character that could part names from
values or end the query, so that the pairs that are read are those that were written. -/

namespace SeriesQuery.Url

/-- The text that form encoding stands for. -/
def formDecode (cs : List Char) : String :=
  Text.decodeUtf8 (percentDecode (cs.map fun c => if c = '+' then ' ' else c))

/-- The pairs of a query, if each part has a name and a value and nothing else. -/
def formPairs? (query : List Char) : Option (List (String × String)) :=
  (Text.splitAt '&' query).mapM fun part =>
    match Text.splitAt '=' part with
    | [name, value] => some (formDecode name, formDecode value)
    | _ => none

/-- Characters that form encoding writes, and that mean the same wherever in a query they stand. -/
def isFormChar (c : Char) : Bool := c.isAlphanum || ['*', '-', '.', '_', '+', '%'].contains c

/-! ## Bytes -/

theorem isFormChar_hexDigit {n : Nat} (h : n < 16) : isFormChar (Nat.digitChar n).toUpper := by
  revert h
  revert n
  decide

/-- Two capital digits are read as the number that they were written for. -/
theorem hexNumber_hexDigits {m n : Nat} (hm : m < 16) (hn : n < 16) :
    Text.hexNumber? [(Nat.digitChar m).toUpper, (Nat.digitChar n).toUpper] = some (16 * m + n) := by
  have hvalue {n : Nat} (h : n < 16) : Text.hexValue? (Nat.digitChar n).toUpper = some n := by
    revert h
    revert n
    decide
  simp [Text.hexNumber?, hvalue hm, hvalue hn]

theorem isFormChar_of_mem_formEncodeByte (b : UInt8) : ∀ c ∈ formEncodeByte b, isFormChar c := by
  have hb := b.toNat_lt
  intro c hc
  rw [formEncodeByte] at hc
  split_ifs at hc with hspace hkeep
  · obtain rfl := List.mem_singleton.mp hc
    rfl
  · obtain rfl := List.mem_singleton.mp hc
    simp only [Bool.and_eq_true, Bool.or_eq_true, List.contains_iff_mem, List.mem_cons] at hkeep
    simp only [isFormChar, Bool.or_eq_true, List.contains_iff_mem, List.mem_cons]
    grind
  · rw [percentByte] at hc
    simp only [List.mem_cons, List.not_mem_nil, or_false] at hc
    rcases hc with rfl | rfl | rfl
    · rfl
    · exact isFormChar_hexDigit (by omega)
    · exact isFormChar_hexDigit (by omega)

/-- What is not escaped stands for itself. -/
theorem percentDecode_cons_of_ne {c : Char} (hc : c ≠ '%') (cs : List Char) :
    percentDecode (c :: cs) = String.utf8EncodeChar c ++ percentDecode cs := by
  rw [percentDecode]
  rintro _ _ _ rfl
  exact absurd rfl hc

theorem percentDecode_percent {m n : Nat} (hm : m < 16) (hn : n < 16) (cs : List Char) :
    percentDecode ('%' :: (Nat.digitChar m).toUpper :: (Nat.digitChar n).toUpper :: cs) =
      .ofNat (16 * m + n) :: percentDecode cs := by
  rw [percentDecode, hexNumber_hexDigits hm hn]

/-- A byte that is a character by itself is the encoding of that character. -/
theorem utf8EncodeChar_of_ascii {b : UInt8} (hb : b.toNat < 0x80) :
    String.utf8EncodeChar (Char.ofNat b.toNat) = [b] := by
  have htoNat := Text.toNat_ofNat_of_isValidChar (v := b.toNat) (.inl (by omega))
  simp only [String.utf8EncodeChar, Char.toNat_val, htoNat]
  rw [if_pos (Nat.le_of_lt_succ hb), UInt8.ofNat_toNat]

theorem plus_ne_hexDigit {n : Nat} (h : n < 16) : (Nat.digitChar n).toUpper ≠ '+' := by
  revert h
  revert n
  decide

/-- A byte is read back, whatever follows it. -/
theorem percentDecode_formEncodeByte (b : UInt8) (cs : List Char) :
    percentDecode ((formEncodeByte b).map (fun c => if c = '+' then ' ' else c) ++ cs) =
      b :: percentDecode cs := by
  have hb := b.toNat_lt
  rw [formEncodeByte]
  split_ifs with hspace hkeep
  · have htoNat := Text.toNat_ofNat_of_isValidChar (v := b.toNat) (.inl (by omega))
    have hb : b.toNat = 0x20 := by
      rw [← htoNat, hspace]
      rfl
    obtain rfl : b = 0x20 := UInt8.toNat_inj.mp hb
    exact percentDecode_cons_of_ne (by decide) cs
  · simp only [Bool.and_eq_true, decide_eq_true_eq] at hkeep
    obtain ⟨hascii, hkeep⟩ := hkeep
    have hplus : Char.ofNat b.toNat ≠ '+' := by
      intro heq
      rw [heq] at hkeep
      revert hkeep
      decide
    have hpercent : Char.ofNat b.toNat ≠ '%' := by
      intro heq
      rw [heq] at hkeep
      revert hkeep
      decide
    rw [List.map_singleton, if_neg hplus, List.singleton_append, percentDecode_cons_of_ne hpercent,
      utf8EncodeChar_of_ascii (UInt8.lt_iff_toNat_lt.mp hascii), List.singleton_append]
  · simp only [percentByte, List.map_cons, List.map_nil, List.cons_append, List.nil_append]
    rw [if_neg (by decide), if_neg (plus_ne_hexDigit (by omega)),
      if_neg (plus_ne_hexDigit (by omega)), percentDecode_percent (by omega) (by omega),
      Nat.div_add_mod, UInt8.ofNat_toNat]

/-! ## Texts and pairs -/

theorem isFormChar_of_mem_formEncode (s : String) : ∀ c ∈ formEncode s, isFormChar c := by
  intro c hc
  obtain ⟨b, -, hc⟩ := List.mem_flatMap.mp hc
  exact isFormChar_of_mem_formEncodeByte b c hc

/-- Every text can be had back from its form encoding. -/
theorem formDecode_formEncode (s : String) : formDecode (formEncode s) = s := by
  have hbytes (bs : List UInt8) : percentDecode
      ((bs.flatMap formEncodeByte).map fun c => if c = '+' then ' ' else c) = bs := by
    induction bs with
    | nil => rfl
    | cons b bs ih =>
      rw [List.flatMap_cons, List.map_append, percentDecode_formEncodeByte, ih]
  rw [formDecode, formEncode, hbytes, Text.decodeUtf8_encodeUtf8]

theorem not_mem_formEncode {c : Char} (h : isFormChar c = false) (s : String) :
    c ∉ formEncode s := by
  intro hc
  exact absurd (isFormChar_of_mem_formEncode s c hc) (by simp [h])

/-- The sign between a name and its value is the only one of its kind, as encoded texts have
none. -/
theorem splitAt_formPair (pair : String × String) :
    Text.splitAt '=' (formPair pair) = [formEncode pair.1, formEncode pair.2] := by
  rw [formPair, Text.splitAt_append_cons (not_mem_formEncode (by decide) _),
    Text.splitAt_of_not_mem (not_mem_formEncode (by decide) _)]

theorem ampersand_not_mem_formPair (pair : String × String) : '&' ∉ formPair pair := by
  have hnot := not_mem_formEncode (c := '&') (by decide)
  simp [formPair, hnot]

/-- The pairs of a query are read back, if there are any. -/
theorem formPairs_intercalate {pairs : List (String × String)} (hne : pairs ≠ []) :
    formPairs? (['&'].intercalate (pairs.map formPair)) = some pairs := by
  have hparts : ∀ part ∈ pairs.map formPair, '&' ∉ part := by
    intro part hpart
    obtain ⟨pair, -, rfl⟩ := List.mem_map.mp hpart
    exact ampersand_not_mem_formPair pair
  rw [formPairs?, Text.splitAt_eq_splitOn, List.splitOn_intercalate '&' hparts (by simpa using hne)]
  clear hparts hne
  induction pairs with
  | nil => rfl
  | cons pair pairs ih =>
    rw [List.map_cons, List.mapM_cons, ih, splitAt_formPair]
    simp [formDecode_formEncode]

end SeriesQuery.Url
