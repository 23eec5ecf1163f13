import SeriesQuery.Proofs.Skeleton

/-! Two hyphens in a row open a comment, unless they are in a literal. -/

namespace SeriesQuery

/-- Whether two hyphens stand side by side outside of the literals. A single quote opens a literal
or closes it. -/
def opensComment (quoted : Bool) : List Char → Bool
  | [] => false
  | c :: cs =>
    if c = '\'' then opensComment (!quoted) cs
    else !quoted && c == '-' && cs.head? == some '-' || opensComment quoted cs

/-- The text opens a comment exactly when `p` holds. It closes its literals and does not end in a
hyphen, so that what follows it does not depend on it. -/
def OpensIff (p : Prop) (cs : List Char) : Prop :=
  ∀ ds, opensComment false (cs ++ ds) ↔ p ∨ opensComment false ds

/-- There are no hyphens and no quotes in the text. -/
def IsPlain (cs : List Char) : Prop := ∀ c ∈ cs, c ≠ '-' ∧ c ≠ '\''

instance (cs : List Char) : Decidable (IsPlain cs) :=
  decidable_of_iff (cs.all fun c => c != '-' && c != '\'') (by simp [IsPlain])

variable {p q : Prop} {c : Char} {cs ds : List Char}

/-- From inside of a literal the scan goes on behind its closing quote. -/
theorem opensComment_of_doubled (h : Doubled '\'' cs) (ds : List Char) :
    opensComment true (cs ++ '\'' :: ds) = opensComment false ds := by
  induction h with
  | nil => rfl
  | plain hc _ ih => simp [opensComment, hc, ih]
  | quote _ ih => simp [opensComment, ih]

namespace OpensIff

theorem opensComment_iff (h : OpensIff p cs) : opensComment false cs ↔ p := by
  simpa [opensComment] using h []

theorem congr (h : OpensIff p cs) (hpq : p ↔ q) : OpensIff q cs :=
  fun ds => (h ds).trans (or_congr_left hpq)

/-- Neither text is open at the place where they meet, so no comment is opened there. -/
theorem append (h : OpensIff p cs) (hd : OpensIff q ds) : OpensIff (p ∨ q) (cs ++ ds) := by
  intro es
  rw [List.append_assoc, h, hd, or_assoc]

theorem nil : OpensIff False [] := fun ds => by simp

theorem of_isPlain (h : IsPlain cs) : OpensIff False cs := by
  induction cs with
  | nil => exact nil
  | cons c cs ih =>
    obtain ⟨⟨hc, hq⟩, hcs⟩ := List.forall_mem_cons.mp h
    intro ds
    simpa [opensComment, hc, hq] using ih hcs ds

/-- A literal hides what is in it. -/
theorem literal (h : Doubled '\'' cs) : OpensIff False ('\'' :: (cs ++ ['\''])) := by
  intro ds
  simp [opensComment, opensComment_of_doubled h]

/-- A hyphen opens a comment in front of another one, and there has to be something behind it. -/
theorem hyphen (hne : cs ≠ []) (h : OpensIff p cs) :
    OpensIff (cs.head? = some '-' ∨ p) ('-' :: cs) := by
  intro ds
  have hhead : (cs ++ ds).head? = cs.head? := List.head?_append_of_ne_nil cs hne
  rw [List.cons_append, opensComment, hhead, or_assoc, ← h ds]
  simp

end OpensIff

theorem isPlain_of_isDecimal (h : ∀ c ∈ cs, isDecimal c) : IsPlain cs := by
  intro c hc
  have hdecimal := h c hc
  constructor
  · rintro rfl
    cases hdecimal
  · rintro rfl
    cases hdecimal

/-- A sign is always in front of a digit. -/
theorem opensIff_negative (hne : cs ≠ []) (h : IsPlain cs) : OpensIff False ('-' :: cs) := by
  refine (OpensIff.hyphen hne (.of_isPlain h)).congr (iff_false_intro ?_)
  rintro (hhead | hfalse)
  · exact (h '-' (List.mem_of_head? hhead)).1 rfl
  · exact hfalse

/-- The sign of a number is a single hyphen, and digits come after it. -/
theorem opensIff_toString (n : Int) : OpensIff False (toString n).toList := by
  have hdigits (m : Nat) : IsPlain (Nat.toDigits 10 m) :=
    isPlain_of_isDecimal isDecimal_of_mem_toDigits
  cases n with
  | ofNat m =>
    rw [toList_toString_ofNat]
    exact .of_isPlain (hdigits m)
  | negSucc m =>
    rw [toList_toString_negSucc]
    exact opensIff_negative Nat.toDigits_ne_nil (hdigits _)

theorem Binary64.opensIff_decimalText (x : Binary64) : OpensIff False x.decimalText.toList := by
  have hsigned {cs : List Char} (hne : cs ≠ []) (h : IsPlain cs) :
      OpensIff False ((if x.isNegative then "-" else "").toList ++ cs) := by
    cases x.isNegative with
    | false => exact .of_isPlain h
    | true => exact opensIff_negative hne h
  rw [decimalText, String.toList_append]
  cases x.isZero with
  | false =>
    have hpositional := isPlain_of_isDecimal x.shortest.isDecimal_of_mem_positional
    rw [if_neg Bool.false_ne_true, String.toList_ofList]
    exact hsigned x.shortest.positional_ne_nil hpositional
  | true =>
    have hzero := hsigned (List.cons_ne_nil '0' []) (by decide)
    simpa using hzero

end SeriesQuery
