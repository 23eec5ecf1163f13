import SeriesQuery.Proofs.Result
import SeriesQuery.Render.Expr

/-! Reading bytes as text. What was written as UTF-8 is read as it was, whatever follows it, and the
ASCII characters of a text are the ASCII bytes: none of them is lost in a sequence that is cut
short, and none comes out of one. -/

namespace SeriesQuery

namespace Text

/-- The code point of a character, but of none that ASCII has. -/
def IsBeyondAscii (v : Nat) : Prop := 0x80 ≤ v ∧ v.isValidChar

theorem toNat_ofNat_of_isValidChar {v : Nat} (h : v.isValidChar) : (Char.ofNat v).toNat = v := by
  rw [Char.ofNat, dif_pos h]
  rfl

def asciiChars (cs : List Char) : List Char := cs.filter (·.toNat < 0x80)

/-- The bytes that are characters by themselves. -/
def asciiBytes (bs : List UInt8) : List Char :=
  (bs.filter (· < 0x80)).map fun b => Char.ofNat b.toNat

theorem asciiChars_append (cs ds : List Char) :
    asciiChars (cs ++ ds) = asciiChars cs ++ asciiChars ds :=
  List.filter_append ..

theorem asciiBytes_append (as bs : List UInt8) :
    asciiBytes (as ++ bs) = asciiBytes as ++ asciiBytes bs := by
  simp [asciiBytes]

/-- What is read from several bytes has no ASCII characters in it. -/
theorem asciiChars_beyond {v : Nat} (h : IsBeyondAscii v) : asciiChars [Char.ofNat v] = [] := by
  have htoNat := toNat_ofNat_of_isValidChar h.2
  simp [asciiChars, htoNat, h.1]

namespace Pending

/-- The character with one more byte. -/
def goOn (p : Pending) (b : UInt8) : Pending :=
  ⟨p.value * 0x40 + b.toNat % 0x40, p.owed - 1, 0x80, 0xbf⟩

/-- Whatever bytes go on with the character, they are beyond ASCII, and so is what it comes to. -/
inductive IsSound : Pending → Prop
  | last {p : Pending} (hlow : 0x80 ≤ p.low) (howed : p.owed ≤ 1)
      (h : ∀ b, p.low ≤ b → b ≤ p.high → IsBeyondAscii (p.goOn b).value) : IsSound p
  | more {p : Pending} (hlow : 0x80 ≤ p.low) (howed : 1 < p.owed)
      (h : ∀ b, p.low ≤ b → b ≤ p.high → (p.goOn b).IsSound) : IsSound p

variable {p : Pending} {v : Nat}

/-- No ASCII byte goes on with a character. -/
theorem IsSound.low_le (hp : p.IsSound) : 0x80 ≤ p.low := by
  cases hp with
  | last hlow => exact hlow
  | more hlow => exact hlow

/-- It is enough to look at the six bits that are missing. -/
theorem isSound_of_owed_one (h : ∀ n < 0x40, IsBeyondAscii (v * 0x40 + n)) :
    IsSound ⟨v, 1, 0x80, 0xbf⟩ :=
  .last (UInt8.le_refl _) (Nat.le_refl _) fun b _ _ => h (b.toNat % 0x40) (Nat.mod_lt _ (by decide))

theorem isSound_of_owed_two (h : ∀ n < 0x1000, IsBeyondAscii (v * 0x1000 + n)) :
    IsSound ⟨v, 2, 0x80, 0xbf⟩ := by
  refine .more (UInt8.le_refl _) (Nat.lt_succ_self _) fun b _ _ => ?_
  refine isSound_of_owed_one fun n hn => ?_
  have hwide := h (b.toNat % 0x40 * 0x40 + n) (by omega)
  rwa [show (v * 0x40 + b.toNat % 0x40) * 0x40 + n = v * 0x1000 + (b.toNat % 0x40 * 0x40 + n) by
    omega]

end Pending

variable {p : Option Pending}

/-- The bounds of the second byte keep out what is written in more bytes than it needs, surrogates,
and what is past the last code point. -/
theorem isSound_startChar (b : UInt8) : ∀ p ∈ (startChar b).2, p.IsSound := by
  intro p hp
  have hb := b.toNat_lt
  simp only [startChar, UInt8.lt_iff_toNat_lt, ← UInt8.toNat_inj, UInt8.reduceToNat] at hp
  split at hp
  · cases hp
  split at hp
  · cases hp
  split at hp
  · cases hp
    refine Pending.isSound_of_owed_one fun n hn => ?_
    simp only [IsBeyondAscii, Nat.isValidChar]
    omega
  split at hp
  · cases hp
    refine .more ?_ (Nat.lt_succ_self _) fun b₁ hlow hhigh => ?_
    · dsimp only
      split <;> decide
    refine Pending.isSound_of_owed_one fun n hn => ?_
    simp only [UInt8.le_iff_toNat_le, apply_ite UInt8.toNat, UInt8.reduceToNat] at hlow hhigh
    simp only [IsBeyondAscii, Nat.isValidChar]
    split at hlow <;> split at hhigh <;> omega
  split at hp
  · cases hp
    refine .more ?_ (Nat.lt_of_sub_eq_succ rfl) fun b₁ hlow hhigh => ?_
    · dsimp only
      split <;> decide
    refine Pending.isSound_of_owed_two fun n hn => ?_
    simp only [UInt8.le_iff_toNat_le, apply_ite UInt8.toNat, UInt8.reduceToNat] at hlow hhigh
    simp only [IsBeyondAscii, Nat.isValidChar]
    split at hlow <;> split at hhigh <;> omega
  · cases hp

theorem asciiChars_startChar (b : UInt8) : asciiChars (startChar b).1 = asciiBytes [b] := by
  by_cases hb : b < 0x80
  · have hlt : b.toNat < 0x80 := UInt8.lt_iff_toNat_lt.mp hb
    have htoNat := toNat_ofNat_of_isValidChar (v := b.toNat) (.inl (by omega))
    simp [startChar, asciiChars, asciiBytes, hb, htoNat, hlt]
  · have hempty : asciiBytes [b] = [] := by simp [asciiBytes, hb]
    rw [hempty, startChar, if_neg hb]
    split_ifs <;> rfl

/-- A byte goes on with the pending character or begins another one, and what is pending then is
sound either way. -/
theorem isSound_nextByte (hp : ∀ q ∈ p, q.IsSound) (b : UInt8) :
    ∀ q ∈ (nextByte p b).2, q.IsSound := by
  cases p with
  | none => exact isSound_startChar b
  | some p =>
    rw [nextByte]
    split_ifs with hb howed
    · simp
    · intro q hq
      cases hq
      cases hp p rfl with
      | last _ howed' => exact absurd howed' howed
      | more _ _ h => exact h b hb.1 hb.2
    · exact isSound_startChar b

/-- A byte adds itself to the ASCII characters if it is one of them, and nothing otherwise. -/
theorem asciiChars_nextByte (hp : ∀ q ∈ p, q.IsSound) (b : UInt8) :
    asciiChars (nextByte p b).1 = asciiBytes [b] := by
  cases p with
  | none => exact asciiChars_startChar b
  | some p =>
    have hp := hp p rfl
    have htail (hb : p.low ≤ b) : asciiBytes [b] = [] := by
      have hb : ¬ b < 0x80 := UInt8.not_lt.mpr (UInt8.le_trans hp.low_le hb)
      simp [asciiBytes, hb]
    rw [nextByte]
    split_ifs with hb howed
    · rw [htail hb.1]
      cases hp with
      | last _ _ h => exact asciiChars_beyond (h b hb.1 hb.2)
      | more _ howed' => omega
    · exact (htail hb.1).symm
    · exact asciiChars_startChar b

theorem asciiChars_decodeFrom (hp : ∀ q ∈ p, q.IsSound) (bs : List UInt8) :
    asciiChars (decodeFrom p bs) = asciiBytes bs := by
  induction bs generalizing p with
  | nil => cases p <;> rfl
  | cons b bs ih =>
    rw [decodeFrom, asciiChars_append, asciiChars_nextByte hp b, ih (isSound_nextByte hp b),
      ← asciiBytes_append, List.singleton_append]

/-! ## Reading what was written -/

theorem startChar_of_one {n : Nat} (h : n < 0x80) :
    startChar (.ofNat n) = ([.ofNat n], none) := by
  have hn : n % 2 ^ 8 = n := Nat.mod_eq_of_lt (by omega)
  simp only [startChar, UInt8.lt_iff_toNat_lt, UInt8.toNat_ofNat', UInt8.reduceToNat, hn, if_pos h]

theorem startChar_of_two {n : Nat} (h : 2 ≤ n) (h' : n < 0x20) :
    startChar (.ofNat (n + 0xc0)) = ([], some ⟨n, 1, 0x80, 0xbf⟩) := by
  have hn : (n + 0xc0) % 2 ^ 8 = n + 0xc0 := Nat.mod_eq_of_lt (by omega)
  simp only [startChar, UInt8.lt_iff_toNat_lt, UInt8.toNat_ofNat', UInt8.reduceToNat, hn]
  rw [if_neg (by omega), if_neg (by omega), if_pos (by omega), show (n + 0xc0) % 0x20 = n by omega]

/-- The second byte is bounded where the form is too long for its character, and at the
surrogates. -/
theorem startChar_of_three {n : Nat} (h : n < 0x10) :
    startChar (.ofNat (n + 0xe0)) =
      ([], some ⟨n, 2, if n = 0 then 0xa0 else 0x80, if n = 0xd then 0x9f else 0xbf⟩) := by
  have hn : (n + 0xe0) % 2 ^ 8 = n + 0xe0 := Nat.mod_eq_of_lt (by omega)
  simp only [startChar, UInt8.lt_iff_toNat_lt, ← UInt8.toNat_inj, UInt8.toNat_ofNat',
    UInt8.reduceToNat, hn]
  rw [if_neg (by omega), if_neg (by omega), if_neg (by omega), if_pos (by omega),
    show (n + 0xe0) % 0x10 = n by omega]
  simp

theorem startChar_of_four {n : Nat} (h : n < 5) :
    startChar (.ofNat (n + 0xf0)) =
      ([], some ⟨n, 3, if n = 0 then 0x90 else 0x80, if n = 4 then 0x8f else 0xbf⟩) := by
  have hn : (n + 0xf0) % 2 ^ 8 = n + 0xf0 := Nat.mod_eq_of_lt (by omega)
  simp only [startChar, UInt8.lt_iff_toNat_lt, ← UInt8.toNat_inj, UInt8.toNat_ofNat',
    UInt8.reduceToNat, hn]
  rw [if_neg (by omega), if_neg (by omega), if_neg (by omega), if_neg (by omega),
    if_pos (by omega), show (n + 0xf0) % 0x08 = n by omega]
  simp

/-- A byte that begins a character of several. -/
theorem decodeFrom_of_startChar {b : UInt8} {q : Pending} (h : startChar b = ([], some q))
    (bs : List UInt8) : decodeFrom none (b :: bs) = decodeFrom (some q) bs := by
  rw [decodeFrom, nextByte, h]
  rfl

/-- A byte that goes on with a character. -/
theorem decodeFrom_of_within {v owed n : Nat} {low high : UInt8} (hn : n < 0x40)
    (hlow : low.toNat ≤ n + 0x80) (hhigh : n + 0x80 ≤ high.toNat) (bs : List UInt8) :
    decodeFrom (some ⟨v, owed, low, high⟩) (.ofNat (n + 0x80) :: bs) =
      if owed ≤ 1 then Char.ofNat (v * 0x40 + n) :: decodeFrom none bs
      else decodeFrom (some ⟨v * 0x40 + n, owed - 1, 0x80, 0xbf⟩) bs := by
  have htoNat : (UInt8.ofNat (n + 0x80)).toNat = n + 0x80 := by
    rw [UInt8.toNat_ofNat', Nat.mod_eq_of_lt (by omega)]
  have hmod : (n + 0x80) % 0x40 = n := by omega
  have hwithin : low ≤ .ofNat (n + 0x80) ∧ UInt8.ofNat (n + 0x80) ≤ high := by
    simp only [UInt8.le_iff_toNat_le, htoNat]
    exact ⟨hlow, hhigh⟩
  rw [decodeFrom, nextByte, if_pos hwithin, htoNat, hmod]
  by_cases howed : owed ≤ 1 <;> simp [howed]

theorem decodeFrom_of_last {v n : Nat} (hn : n < 0x40) (bs : List UInt8) :
    decodeFrom (some ⟨v, 1, 0x80, 0xbf⟩) (.ofNat (n + 0x80) :: bs) =
      Char.ofNat (v * 0x40 + n) :: decodeFrom none bs :=
  decodeFrom_of_within hn (by simp) (by simp only [UInt8.reduceToNat]; omega) bs

theorem decodeFrom_of_more {v owed n : Nat} {low high : UInt8} (hn : n < 0x40)
    (hlow : low.toNat ≤ n + 0x80) (hhigh : n + 0x80 ≤ high.toNat) (bs : List UInt8) :
    decodeFrom (some ⟨v, owed + 2, low, high⟩) (.ofNat (n + 0x80) :: bs) =
      decodeFrom (some ⟨v * 0x40 + n, owed + 1, 0x80, 0xbf⟩) bs := by
  rw [decodeFrom_of_within hn hlow hhigh, if_neg (by omega)]
  rfl

/-- A character is read from its bytes, whatever follows them. -/
theorem decodeFrom_utf8EncodeChar (c : Char) (bs : List UInt8) :
    decodeFrom none (String.utf8EncodeChar c ++ bs) = c :: decodeFrom none bs := by
  have hvalid : c.toNat < 0xd800 ∨ 0xdfff < c.toNat ∧ c.toNat < 0x110000 := c.valid
  have hc : Char.ofNat c.toNat = c := Char.ofNat_toNat c
  simp only [String.utf8EncodeChar, Char.toNat_val]
  generalize c.toNat = v at hvalid hc
  split_ifs with h₁ h₂ h₃ <;> simp only [List.cons_append, List.nil_append]
  · rw [decodeFrom, nextByte, startChar_of_one (by omega), hc]
    rfl
  · rw [decodeFrom_of_startChar (startChar_of_two (by omega) (by omega)),
      decodeFrom_of_last (by omega), show v / 64 % 32 * 0x40 + v % 64 = v by omega, hc]
  · rw [decodeFrom_of_startChar (startChar_of_three (by omega)), decodeFrom_of_more (by omega),
      decodeFrom_of_last (by omega),
      show (v / 4096 % 16 * 0x40 + v / 64 % 64) * 0x40 + v % 64 = v by omega, hc]
    all_goals
      rw [apply_ite UInt8.toNat]
      simp only [UInt8.reduceToNat]
      split <;> omega
  · rw [decodeFrom_of_startChar (startChar_of_four (by omega)), decodeFrom_of_more (by omega),
      decodeFrom_of_more (by omega) (by simp) (by simp only [UInt8.reduceToNat]; omega),
      decodeFrom_of_last (by omega),
      show ((v / 262144 % 8 * 0x40 + v / 4096 % 64) * 0x40 + v / 64 % 64) * 0x40 + v % 64 = v by
        omega, hc]
    all_goals
      rw [apply_ite UInt8.toNat]
      simp only [UInt8.reduceToNat]
      split <;> omega

theorem decodeFrom_flatMap (cs : List Char) (bs : List UInt8) :
    decodeFrom none (cs.flatMap String.utf8EncodeChar ++ bs) = cs ++ decodeFrom none bs := by
  induction cs with
  | nil => rfl
  | cons c cs ih =>
    rw [List.flatMap_cons, List.append_assoc, decodeFrom_utf8EncodeChar, ih, List.cons_append]

/-- Reading undoes writing, for every text. -/
theorem decodeUtf8_encodeUtf8 (s : String) : decodeUtf8 (encodeUtf8 s) = s := by
  have h := decodeFrom_flatMap s.toList []
  rw [List.append_nil, show decodeFrom none [] = [] from rfl, List.append_nil] at h
  rw [decodeUtf8, encodeUtf8, h, String.ofList_toList]

/-- Bytes that are no text lose none of their ASCII characters and gain none. -/
theorem asciiChars_decodeUtf8 (bs : List UInt8) :
    asciiChars (decodeUtf8 bs).toList = asciiBytes bs := by
  rw [decodeUtf8, String.toList_ofList]
  exact asciiChars_decodeFrom (by simp) bs

/-- The quote ends the character that was under way, and is not taken for a part of it. -/
example : decodeUtf8 [0xe2, 0x82, 0x27, 0xc0, 0x41] = "\ufffd'\ufffdA" := by decide +kernel

end Text

/-- Bytes are written as the text that they encode, and whatever they are, as a string whose ASCII
characters are the ASCII bytes. -/
theorem Value.sql_bytes_by_decoding (d : Dialect) :
    (∀ s : String, (Value.bytes (Text.encodeUtf8 s)).sql d = (Value.string s).sql d) ∧
      ∀ bs : List UInt8, ∃ t : String,
        (Value.bytes bs).sql d =
          .ok (String.singleton d.quote ++ d.escaped t ++ String.singleton d.quote) ∧
        Text.asciiChars t.toList = Text.asciiBytes bs := by
  constructor
  · intro s
    rw [sql, sql, render, render, Text.decodeUtf8_encodeUtf8]
  · intro bs
    refine ⟨Text.decodeUtf8 bs, ?_, Text.asciiChars_decodeUtf8 bs⟩
    rw [sql, render, Step.quoted_eq_write, Step.result_write]

end SeriesQuery
