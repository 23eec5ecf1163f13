import SeriesQuery.Text.Split

/-! The pieces of a text between the occurrences of a character, and texts put together from such
pieces. -/

namespace SeriesQuery.Text

variable {separator : Char} {cs : List Char} {text : String} {ps : List String}

/-- The pieces of a text between the occurrences of a separator. -/
def pieces (separator : Char) (text : String) : List String :=
  (splitAt separator text.toList).map String.ofList

theorem splitAt_eq_splitOn (separator : Char) (cs : List Char) :
    splitAt separator cs = cs.splitOn separator := by
  induction cs with
  | nil => rfl
  | cons c cs ih =>
    rw [splitAt, ih, List.splitOn_cons_eq_if_modifyHead]
    cases h : cs.splitOn separator with
    | nil => exact absurd h (List.splitOn_ne_nil _ _)
    | cons piece rest => by_cases hc : c = separator <;> simp [hc]

theorem splitAt_ne_nil : splitAt separator cs ≠ [] := by
  rw [splitAt_eq_splitOn]
  exact List.splitOn_ne_nil _ _

theorem splitAt_cons (c : Char) : splitAt separator (c :: cs) =
    if c = separator then [] :: splitAt separator cs
    else (splitAt separator cs).modifyHead (c :: ·) := by
  simp [splitAt_eq_splitOn, List.splitOn_cons_eq_if_modifyHead]

theorem splitAt_of_not_mem (h : separator ∉ cs) : splitAt separator cs = [cs] := by
  induction cs with
  | nil => rfl
  | cons c cs ih =>
    have hc := List.ne_of_not_mem_cons h
    rw [splitAt_cons, if_neg hc.symm, ih (List.not_mem_of_not_mem_cons h)]
    rfl

theorem splitAt_append_cons {front : List Char} (h : separator ∉ front) (back : List Char) :
    splitAt separator (front ++ separator :: back) = front :: splitAt separator back := by
  induction front with
  | nil => rw [List.nil_append, splitAt_cons, if_pos rfl]
  | cons c front ih =>
    have hc := List.ne_of_not_mem_cons h
    rw [List.cons_append, splitAt_cons, if_neg hc.symm, ih (List.not_mem_of_not_mem_cons h)]
    rfl

theorem cutAt_of_not_mem (h : separator ∉ cs) : cutAt separator cs = (cs, none) := by
  induction cs with
  | nil => rfl
  | cons c cs ih =>
    have hc := List.ne_of_not_mem_cons h
    rw [cutAt, if_neg hc.symm, ih (List.not_mem_of_not_mem_cons h)]

theorem cutAt_append_cons {front : List Char} (h : separator ∉ front) (back : List Char) :
    cutAt separator (front ++ separator :: back) = (front, some back) := by
  induction front with
  | nil => rw [List.nil_append, cutAt, if_pos rfl]
  | cons c front ih =>
    have hc := List.ne_of_not_mem_cons h
    rw [List.cons_append, cutAt, if_neg hc.symm, ih (List.not_mem_of_not_mem_cons h)]

/-- The pieces hold all the characters but the separators. -/
theorem flatten_splitAt (separator : Char) (cs : List Char) :
    (splitAt separator cs).flatten = cs.filter (· ≠ separator) := by
  induction cs with
  | nil => rfl
  | cons c cs ih =>
    rw [splitAt_cons]
    by_cases hc : c = separator
    · simp [hc, ih]
    · cases h : splitAt separator cs with
      | nil => exact absurd h splitAt_ne_nil
      | cons piece pieces =>
        rw [h] at ih
        simpa [hc] using ih

theorem mem_of_mem_splitAt :
    ∀ piece ∈ splitAt separator cs, ∀ c ∈ piece, c ∈ cs ∧ c ≠ separator := by
  intro piece hpiece c hc
  have hmem : c ∈ (splitAt separator cs).flatten := List.mem_flatten.mpr ⟨piece, hpiece, hc⟩
  rw [flatten_splitAt] at hmem
  simpa using hmem

theorem pieces_ne_nil : pieces separator text ≠ [] := by
  simp [pieces, splitAt_ne_nil]

theorem not_mem_of_mem_pieces : ∀ piece ∈ pieces separator text, separator ∉ piece.toList := by
  intro piece hpiece hmem
  obtain ⟨cs, hcs, rfl⟩ := List.mem_map.mp hpiece
  rw [String.toList_ofList] at hmem
  obtain ⟨-, hne⟩ := mem_of_mem_splitAt cs hcs separator hmem
  exact hne rfl

/-- The pieces make up the text. -/
theorem intercalate_pieces (separator : Char) (text : String) :
    (String.singleton separator).intercalate (pieces separator text) = text := by
  apply String.toList_inj.mp
  simp [pieces, splitAt_eq_splitOn, Function.comp_def, List.intercalate_splitOn]

/-- Texts in which there is no separator are the pieces of what they make up. -/
theorem pieces_intercalate (hne : ps ≠ []) (h : ∀ piece ∈ ps, separator ∉ piece.toList) :
    pieces separator ((String.singleton separator).intercalate ps) = ps := by
  have hchars : ∀ piece ∈ ps.map String.toList, separator ∉ piece := List.forall_mem_map.mpr h
  simp [pieces, splitAt_eq_splitOn, List.splitOn_intercalate separator hchars (by simpa using hne),
    Function.comp_def]

end SeriesQuery.Text
