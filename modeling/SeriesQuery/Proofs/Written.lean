import SeriesQuery.Proofs.Buffer
import SeriesQuery.Render.Pieces

/-! Steps that write a fixed text, and the characters that the texts of strings and of numbers are
made of. -/

namespace SeriesQuery

/-- A string with the escapes of the dialect in it. -/
def Dialect.escaped (d : Dialect) (s : String) : String :=
  String.join (s.toList.map fun c => (d.escape c).getD (String.singleton c))

namespace Step

variable {b : Buffer} {s t : String}

theorem write_write : write t (write s b) = write (s ++ t) b := by
  obtain ⟨text, _ | e⟩ := b <;> simp [write, String.append_assoc]

theorem writeChar_eq_write (c : Char) : writeChar c = write (String.singleton c) := by
  funext b
  obtain ⟨text, _ | e⟩ := b <;> simp [write, writeChar]

theorem write_empty : write "" = skip := by
  funext b
  obtain ⟨text, _ | e⟩ := b <;> simp [write, skip]

theorem seq_map_write {α : Type} {step : α → Step} {f : α → String}
    (h : ∀ a, step a = write (f a)) (as : List α) :
    seq (as.map step) = write (String.join (as.map f)) := by
  induction as with
  | nil => exact write_empty.symm
  | cons a as ih =>
    funext b
    rw [List.map_cons, seq_cons, ih, h, write_write, List.map_cons, String.join_cons]

/-- A literal is written with its quotes as one text. -/
theorem quoted_eq_write (d : Dialect) (s : String) :
    quoted d s =
      write (String.singleton d.quote ++ d.escaped s ++ String.singleton d.quote) := by
  funext b
  unfold quoted
  rw [seq_cons, seq_cons, seq_cons, seq_nil,
    seq_map_write (f := fun c => (d.escape c).getD (String.singleton c))]
  · rw [writeChar_eq_write, write_write, write_write, String.append_assoc]
    rfl
  · intro c
    cases d.escape c with
    | none => exact writeChar_eq_write c
    | some text => rfl

end Step

/-- Whether a number without an exponent can have the character in its text. -/
def isNumeric (c : Char) : Bool := c.isDigit || c == '-' || c == '.'

theorem isNumeric_of_mem_toDigits {n : Nat} : ∀ c ∈ Nat.toDigits 10 n, isNumeric c := by
  intro c hc
  simp [isNumeric, Nat.isDigit_of_mem_toDigits (by decide) (by decide) hc]

theorem toList_toString_ofNat (n : Nat) : (toString (Int.ofNat n)).toList = Nat.toDigits 10 n :=
  String.toList_ofList

theorem toList_toString_negSucc (n : Nat) :
    (toString (Int.negSucc n)).toList = '-' :: Nat.toDigits 10 (n + 1) := by
  change ("-" ++ String.ofList (Nat.toDigits 10 (n + 1))).toList = _
  rw [String.toList_append]
  exact congrArg ('-' :: ·) String.toList_ofList

theorem isNumeric_of_mem_toString (n : Int) : ∀ c ∈ (toString n).toList, isNumeric c := by
  cases n with
  | ofNat m =>
    rw [toList_toString_ofNat]
    exact isNumeric_of_mem_toDigits
  | negSucc m =>
    rw [toList_toString_negSucc]
    exact List.forall_mem_cons.mpr ⟨rfl, isNumeric_of_mem_toDigits⟩

theorem toString_int_ne_empty (n : Int) : toString n ≠ "" := by
  intro h
  have h := congrArg String.toList h
  cases n with
  | ofNat m =>
    rw [toList_toString_ofNat] at h
    exact Nat.toDigits_ne_nil h
  | negSucc m =>
    rw [toList_toString_negSucc] at h
    cases h

theorem toDigits_inj {m n : Nat} (h : Nat.toDigits 10 m = Nat.toDigits 10 n) : m = n := by
  rw [← Nat.ofDigitChars_ten_toDigits (n := m), h, Nat.ofDigitChars_ten_toDigits]

/-- No two whole numbers have the same text. -/
theorem toString_int_inj {m n : Int} (h : toString m = toString n) : m = n := by
  have hsign {m n : Nat} : Nat.toDigits 10 m ≠ '-' :: Nat.toDigits 10 n := by
    intro heq
    have hmem : '-' ∈ Nat.toDigits 10 m := heq ▸ List.mem_cons_self
    have hdigit := Nat.isDigit_of_mem_toDigits (by decide) (by decide) hmem
    cases hdigit
  have h := congrArg String.toList h
  cases m with
  | ofNat m =>
    cases n with
    | ofNat n =>
      rw [toList_toString_ofNat, toList_toString_ofNat] at h
      rw [toDigits_inj h]
    | negSucc n =>
      rw [toList_toString_ofNat, toList_toString_negSucc] at h
      exact absurd h hsign
  | negSucc m =>
    cases n with
    | ofNat n =>
      rw [toList_toString_ofNat, toList_toString_negSucc] at h
      exact absurd h.symm hsign
    | negSucc n =>
      rw [toList_toString_negSucc, toList_toString_negSucc] at h
      have heq := toDigits_inj (List.cons.inj h).2
      rw [Nat.succ.inj heq]

/-- Whether the character can stand in a number behind the sign. -/
def isDecimal (c : Char) : Bool := c.isDigit || c == '.'

theorem isNumeric_of_isDecimal {c : Char} (h : isDecimal c) : isNumeric c := by
  simp only [isDecimal, Bool.or_eq_true] at h
  rcases h with h | h <;> simp [isNumeric, h]

theorem isDecimal_of_mem_toDigits {n : Nat} : ∀ c ∈ Nat.toDigits 10 n, isDecimal c := by
  intro c hc
  simp [isDecimal, Nat.isDigit_of_mem_toDigits (by decide) (by decide) hc]

namespace Decimal

theorem isDecimal_of_mem_positional (d : Decimal) : ∀ c ∈ d.positional, isDecimal c := by
  intro c hc
  simp only [positional] at hc
  split at hc
  · rcases List.mem_append.mp hc with hc | hc
    · exact isDecimal_of_mem_toDigits c hc
    · rw [List.eq_of_mem_replicate hc]
      rfl
  · have hpadded (n : Nat) :
        ∀ c ∈ List.replicate n '0' ++ Nat.toDigits 10 d.digits, isDecimal c := by
      intro c hc
      rcases List.mem_append.mp hc with hc | hc
      · rw [List.eq_of_mem_replicate hc]
        rfl
      · exact isDecimal_of_mem_toDigits c hc
    rcases List.mem_append.mp hc with hc | hc
    · exact hpadded _ c (List.mem_of_mem_take hc)
    · rcases List.mem_cons.mp hc with rfl | hc
      · rfl
      · exact hpadded _ c (List.mem_of_mem_drop hc)

theorem positional_ne_nil (d : Decimal) : d.positional ≠ [] := by
  intro h
  simp only [positional] at h
  split at h
  · exact Nat.toDigits_ne_nil (List.append_eq_nil_iff.mp h).1
  · simp at h

end Decimal

theorem Binary64.isNumeric_of_mem_decimalText (x : Binary64) :
    ∀ c ∈ x.decimalText.toList, isNumeric c := by
  intro c hc
  rw [decimalText, String.toList_append] at hc
  rcases List.mem_append.mp hc with hc | hc
  · split at hc
    · rw [List.mem_singleton.mp hc]
      rfl
    · cases hc
  · split at hc
    · rw [List.mem_singleton.mp hc]
      rfl
    · rw [String.toList_ofList] at hc
      exact isNumeric_of_isDecimal (x.shortest.isDecimal_of_mem_positional c hc)

end SeriesQuery
