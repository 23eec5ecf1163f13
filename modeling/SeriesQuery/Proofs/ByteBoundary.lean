import Mathlib.Tactic.SplitIfs
import SeriesQuery.Proofs.Truncation

/-! Cutting a text by its bytes. From the limit it is gone back, byte by byte, to where a character
begins, and what stands before is as much of the text as fits. -/

namespace SeriesQuery.Text

variable {limit pos : Nat} {s t : String} {c : Char} {cs ds : List Char} {bs : List UInt8}

/-- Whether a byte begins a character. The others go on with one. -/
def beginsChar (b : UInt8) : Bool := b < 0x80 || 0xc0 ≤ b

/-- Whether no character lies across a position in bytes. -/
def isBoundary (bs : List UInt8) (pos : Nat) : Bool :=
  pos = 0 ∨ pos = bs.length ∨ bs[pos]?.any beginsChar

/-- The last boundary up to a position, looked for backwards from there. -/
def lastBoundary (bs : List UInt8) : Nat → Nat
  | 0 => 0
  | pos + 1 => if isBoundary bs (pos + 1) then pos + 1 else lastBoundary bs pos

/-- The bytes before the last boundary within a limit. -/
def cutBytes (limit : Nat) (bs : List UInt8) : List UInt8 :=
  if bs.length ≤ limit then bs else bs.take (lastBoundary bs limit)

/-! ## The search for a boundary -/

theorem isBoundary_zero (bs : List UInt8) : isBoundary bs 0 := rfl

theorem lastBoundary_le (bs : List UInt8) (pos : Nat) : lastBoundary bs pos ≤ pos := by
  induction pos with
  | zero => exact Nat.le_refl 0
  | succ pos ih =>
    rw [lastBoundary]
    split
    · exact Nat.le_refl _
    · exact Nat.le_succ_of_le ih

/-- The search ends at a boundary, if only at the beginning. -/
theorem isBoundary_lastBoundary (bs : List UInt8) (pos : Nat) :
    isBoundary bs (lastBoundary bs pos) := by
  induction pos with
  | zero => exact isBoundary_zero bs
  | succ pos ih =>
    rw [lastBoundary]
    split
    · assumption
    · exact ih

/-- No boundary up to the position is passed over. -/
theorem le_lastBoundary {p : Nat} (hp : isBoundary bs p) (hle : p ≤ pos) :
    p ≤ lastBoundary bs pos := by
  induction pos with
  | zero => exact hle
  | succ pos ih =>
    rw [lastBoundary]
    split
    · exact hle
    · rename_i hnot
      have hne : p ≠ pos + 1 := fun h => hnot (h ▸ hp)
      exact ih (by omega)

/-! ## Boundaries of what was written -/

theorem beginsChar_ofNat_iff {n : Nat} (h : n < 0x100) :
    beginsChar (.ofNat n) ↔ n < 0x80 ∨ 0xc0 ≤ n := by
  have hn : (UInt8.ofNat n).toNat = n := UInt8.toNat_ofNat_of_lt h
  rw [beginsChar, Bool.or_eq_true, decide_eq_true_iff, decide_eq_true_iff, UInt8.lt_iff_toNat_lt,
    UInt8.le_iff_toNat_le, hn]
  rfl

/-- Of the bytes of a character only the first begins one. -/
theorem exists_utf8EncodeChar (c : Char) : ∃ b tail, String.utf8EncodeChar c = b :: tail ∧
    beginsChar b ∧ ∀ b' ∈ tail, beginsChar b' = false := by
  have hvalid : c.toNat < 0xd800 ∨ 0xdfff < c.toNat ∧ c.toNat < 0x110000 := c.valid
  have hmore (n : Nat) : beginsChar (.ofNat (n % 64 + 0x80)) = false := by
    rw [Bool.eq_false_iff, Ne, beginsChar_ofNat_iff (by omega)]
    omega
  simp only [String.utf8EncodeChar, Char.toNat_val]
  generalize c.toNat = v at hvalid
  split_ifs
  · exact ⟨_, _, rfl, (beginsChar_ofNat_iff (by omega)).mpr (by omega), List.forall_mem_nil _⟩
  all_goals
    refine ⟨_, _, rfl, (beginsChar_ofNat_iff (by omega)).mpr (by omega), ?_⟩
    simp only [List.mem_cons, List.not_mem_nil, or_false, forall_eq_or_imp, forall_eq, hmore,
      and_self]

/-- The length of a text in bytes is that of its encoding. -/
theorem length_encodeUtf8 (s : String) : (encodeUtf8 s).length = s.utf8ByteSize := by
  rw [← byteLength_toList, encodeUtf8]
  induction s.toList with
  | nil => rfl
  | cons c cs ih =>
    rw [List.flatMap_cons, List.length_append, String.length_utf8EncodeChar, ih, byteLength_cons]

/-- Inside of a character there is no boundary. -/
theorem isBoundary_inside (c : Char) (bs : List UInt8) (h : 0 < pos) (h' : pos < c.utf8Size) :
    isBoundary (String.utf8EncodeChar c ++ bs) pos = false := by
  obtain ⟨b, tail, hc, -, htail⟩ := exists_utf8EncodeChar c
  have hsize : tail.length + 1 = c.utf8Size := by
    rw [← String.length_utf8EncodeChar, hc, List.length_cons]
  obtain ⟨pos, rfl⟩ := Nat.exists_eq_succ_of_ne_zero (Nat.pos_iff_ne_zero.mp h)
  have hpos : pos < tail.length := by omega
  have hne : pos ≠ tail.length + bs.length := by omega
  rw [hc, isBoundary, List.cons_append, List.getElem?_cons_succ, List.getElem?_append_left hpos,
    List.getElem?_eq_getElem hpos, Option.any_some, htail _ (List.getElem_mem hpos)]
  simp [hne]

/-- Past a character the boundaries are those of what follows it. -/
theorem isBoundary_beyond (c : Char) (hbs : ∀ b ∈ bs.head?, beginsChar b) (h : c.utf8Size ≤ pos) :
    isBoundary (String.utf8EncodeChar c ++ bs) pos = isBoundary bs (pos - c.utf8Size) := by
  rw [← String.length_utf8EncodeChar] at h ⊢
  obtain ⟨pos, rfl⟩ := Nat.exists_eq_add_of_le h
  rw [Nat.add_sub_cancel_left]
  cases pos with
  | zero =>
    cases bs with
    | nil => simp [isBoundary]
    | cons b bs => simp [isBoundary, hbs b rfl]
  | succ pos =>
    rw [isBoundary, isBoundary, List.getElem?_append_right (Nat.le_add_right _ _),
      Nat.add_sub_cancel_left]
    simp

theorem beginsChar_head? (cs : List Char) :
    ∀ b ∈ (cs.flatMap String.utf8EncodeChar).head?, beginsChar b := by
  cases cs with
  | nil => simp
  | cons c cs =>
    obtain ⟨b, tail, hc, hb, -⟩ := exists_utf8EncodeChar c
    intro b' hb'
    rw [List.flatMap_cons, hc] at hb'
    cases hb'
    exact hb

/-- The boundaries are where a number of characters ends. -/
theorem isBoundary_flatMap_iff : isBoundary (cs.flatMap String.utf8EncodeChar) pos ↔
    ∃ ds, ds <+: cs ∧ byteLength ds = pos := by
  induction cs generalizing pos with
  | nil => simp [isBoundary, eq_comm]
  | cons c cs ih =>
    rw [List.flatMap_cons]
    constructor
    · intro h
      by_cases hpos : pos = 0
      · exact ⟨[], List.nil_prefix, hpos.symm⟩
      · have hsize : c.utf8Size ≤ pos := by
          refine Nat.not_lt.mp fun hlt => ?_
          have hnot := isBoundary_inside c (cs.flatMap String.utf8EncodeChar)
            (Nat.pos_of_ne_zero hpos) hlt
          cases hnot.symm.trans h
        rw [isBoundary_beyond c (beginsChar_head? cs) hsize] at h
        obtain ⟨ds, hds, hlength⟩ := ih.mp h
        exact ⟨c :: ds, (List.prefix_cons_inj c).mpr hds, by rw [byteLength_cons]; omega⟩
    · rintro ⟨ds, hprefix, rfl⟩
      cases ds with
      | nil => exact isBoundary_zero _
      | cons d ds =>
        obtain ⟨rfl, hds⟩ := List.cons_prefix_cons.mp hprefix
        rw [byteLength_cons, isBoundary_beyond d (beginsChar_head? cs) (Nat.le_add_right _ _),
          Nat.add_sub_cancel_left]
        exact ih.mpr ⟨ds, hds, rfl⟩

/-- The boundaries are the sizes of the beginnings of the text. -/
theorem isBoundary_encodeUtf8_iff : isBoundary (encodeUtf8 s) pos ↔
    ∃ t rest, s = t ++ rest ∧ t.utf8ByteSize = pos := by
  rw [encodeUtf8, isBoundary_flatMap_iff]
  constructor
  · rintro ⟨ds, ⟨rest, hrest⟩, rfl⟩
    refine ⟨.ofList ds, .ofList rest, String.toList_inj.mp ?_, ?_⟩
    · rw [String.toList_append, String.toList_ofList, String.toList_ofList, hrest]
    · rw [← byteLength_toList, String.toList_ofList]
  · rintro ⟨t, rest, rfl, rfl⟩
    exact ⟨t.toList, ⟨rest.toList, String.toList_append.symm⟩, byteLength_toList t⟩

theorem encodeUtf8_append (s t : String) : encodeUtf8 (s ++ t) = encodeUtf8 s ++ encodeUtf8 t := by
  rw [encodeUtf8, String.toList_append, List.flatMap_append]
  rfl

namespace IsLongestFitting

theorem eq_of_fits (h : IsLongestFitting limit s t) (hs : s.utf8ByteSize ≤ limit) : t = s := by
  obtain ⟨rest, hrest⟩ := h.beginning
  have hall := h.longest s "" String.append_empty.symm hs
  have hsize : rest.utf8ByteSize = 0 := by
    have hsum := congrArg String.utf8ByteSize hrest
    rw [String.utf8ByteSize_append] at hsum
    omega
  rw [hrest, String.utf8ByteSize_eq_zero_iff.mp hsize, String.append_empty]

/-- What a text is cut before is a character that does not fit any more. -/
theorem exists_next (h : IsLongestFitting limit s t) (hs : limit < s.utf8ByteSize) :
    ∃ c rest, s.toList = t.toList ++ c :: rest ∧ limit < t.utf8ByteSize + c.utf8Size := by
  obtain ⟨rest, rfl⟩ := h.beginning
  have hfits := h.fits
  rw [String.utf8ByteSize_append] at hs
  cases hrest : rest.toList with
  | nil =>
    have hempty : rest.utf8ByteSize = 0 := by rw [← byteLength_toList, hrest, byteLength_nil]
    omega
  | cons c cs =>
    refine ⟨c, cs, by rw [String.toList_append, hrest], Nat.not_le.mp fun hle => ?_⟩
    have hmore : t ++ rest = (t ++ String.singleton c) ++ .ofList cs := by
      rw [← String.toList_inj]
      simp [hrest]
    have hlonger := h.longest _ _ hmore
    rw [String.utf8ByteSize_append, String.utf8ByteSize_singleton] at hlonger
    have hpos := c.utf8Size_pos
    have := hlonger hle
    omega

/-- Going back from the limit stops where the text does. -/
theorem utf8ByteSize_eq (h : IsLongestFitting limit s t) :
    t.utf8ByteSize = lastBoundary (encodeUtf8 s) limit := by
  obtain ⟨rest, hrest⟩ := h.beginning
  apply Nat.le_antisymm
  · exact le_lastBoundary (isBoundary_encodeUtf8_iff.mpr ⟨t, rest, hrest, rfl⟩) h.fits
  · obtain ⟨t', rest', hcut, hsize⟩ :=
      isBoundary_encodeUtf8_iff.mp (isBoundary_lastBoundary (encodeUtf8 s) limit)
    rw [← hsize]
    exact h.longest t' rest' hcut (hsize ▸ lastBoundary_le _ _)

/-- What is left of the bytes is the encoding of the longest text that fits. -/
theorem encodeUtf8_eq (h : IsLongestFitting limit s t) :
    encodeUtf8 t = cutBytes limit (encodeUtf8 s) := by
  rw [cutBytes, length_encodeUtf8]
  split
  · rename_i hs
    rw [h.eq_of_fits hs]
  · obtain ⟨rest, hrest⟩ := h.beginning
    rw [← h.utf8ByteSize_eq, hrest, encodeUtf8_append, ← length_encodeUtf8, List.take_left]

end IsLongestFitting

/-- A text is cut by going back from the limit to the last boundary of its bytes. What is left is
the longest beginning of it that fits: all of it, or at most three bytes less than the limit, where
the next character does not fit. -/
theorem truncate_by_bytes (limit : Nat) (s : String) :
    encodeUtf8 (truncate limit s) = cutBytes limit (encodeUtf8 s) ∧
    IsLongestFitting limit s (truncate limit s) ∧
    isBoundary (encodeUtf8 s) (truncate limit s).utf8ByteSize ∧
    (s.utf8ByteSize ≤ limit → truncate limit s = s) ∧
    (limit < s.utf8ByteSize →
      limit ≤ (truncate limit s).utf8ByteSize + 3 ∧
      ∃ c rest, s.toList = (truncate limit s).toList ++ c :: rest ∧
        limit < (truncate limit s).utf8ByteSize + c.utf8Size) := by
  have h := isLongestFitting_truncate limit s
  refine ⟨h.encodeUtf8_eq, h, ?_, h.eq_of_fits, fun hs => ?_⟩
  · rw [h.utf8ByteSize_eq]
    exact isBoundary_lastBoundary _ _
  · obtain ⟨c, rest, hnext, hlarge⟩ := h.exists_next hs
    have hfour := c.utf8Size_le_four
    exact ⟨by omega, c, rest, hnext, hlarge⟩

/-- Of the euro sign two bytes would fit. -/
example : truncate 4 "ab€c" = "ab" ∧ cutBytes 4 (encodeUtf8 "ab€c") = [0x61, 0x62] := by
  decide +kernel

end SeriesQuery.Text
