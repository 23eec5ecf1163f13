import Mathlib.Data.List.DropRight
import SeriesQuery.Proofs.JsonNumbers

/-! Reading JSON text back. The compact text of data is read as that data, with the fields of its
objects in order. -/

namespace SeriesQuery.Json

variable {c : Char} {cs rest : List Char}

/-! ## Strings -/

theorem hexNumber?_control (n : ℕ) (hn : n < 0x20) :
    Text.hexNumber? ['0', '0', Nat.digitChar (n / 16), Nat.digitChar (n % 16)] = some n := by
  revert n
  decide

theorem readString_escape {e : Char} (h : unescape? e = some c) (cs : List Char) :
    readString none ('\\' :: e :: cs) =
      (readString none cs).map fun (front, rest) => (c :: front, rest) := by
  have hu : e ≠ 'u' := by
    rintro rfl
    cases h
  rw [readString, h]
  intro _ _ _ _ _ heq
  exact absurd heq hu

theorem readString_plain (hquote : c ≠ '"') (hbackslash : c ≠ '\\') (hc : ¬ c.toNat < 0x20)
    (cs : List Char) : readString none (c :: cs) =
      (readString none cs).map fun (front, rest) => (c :: front, rest) := by
  rw [readString, if_neg hc]
  · intro _ _ _ _ _ heq
    exact absurd heq hbackslash
  · exact hquote
  · intro _ _ heq
    exact absurd heq hbackslash

/-- A control character is written by its number. -/
theorem readString_control (hc : c.toNat < 0x20) (cs : List Char) :
    readString none ('\\' :: 'u' :: '0' :: '0' :: Nat.digitChar (c.toNat / 16) ::
      Nat.digitChar (c.toNat % 16) :: cs) =
        (readString none cs).map fun (front, rest) => (c :: front, rest) := by
  have hhigh : isHighSurrogate c.toNat = false := by
    simp [isHighSurrogate]
    omega
  have hlow : isLowSurrogate c.toNat = false := by
    simp [isLowSurrogate]
    omega
  simp [readString, hexNumber?_control c.toNat hc, hhigh, hlow, Char.ofNat_toNat]

/-- Each character is read back from what is written for it, escaped or not. -/
theorem readString_escapeChar (c : Char) (cs : List Char) :
    readString none (escapeChar c ++ cs) =
      (readString none cs).map fun (front, rest) => (c :: front, rest) := by
  unfold escapeChar
  split_ifs with hquote hbackslash hb hf hn hr ht hcontrol
  · subst hquote
    exact readString_escape rfl cs
  · subst hbackslash
    exact readString_escape rfl cs
  · subst hb
    exact readString_escape rfl cs
  · subst hf
    exact readString_escape rfl cs
  · subst hn
    exact readString_escape rfl cs
  · subst hr
    exact readString_escape rfl cs
  · subst ht
    exact readString_escape rfl cs
  · exact readString_control hcontrol cs
  · exact readString_plain hquote hbackslash hcontrol cs

theorem readString_escaped (s rest : List Char) :
    readString none (s.flatMap escapeChar ++ '"' :: rest) = some (s, rest) := by
  induction s with
  | nil => simp [readString]
  | cons c s ih =>
    rw [List.flatMap_cons, List.append_assoc, readString_escapeChar, ih, Option.map_some]

/-! ## Values -/

theorem skipBlanks_skipBlanks (cs : List Char) : skipBlanks (skipBlanks cs) = skipBlanks cs :=
  List.dropWhile_idempotent _ cs

theorem readValue_skipBlanks (fuel : ℕ) (cs : List Char) :
    readValue fuel (skipBlanks cs) = readValue fuel cs := by
  cases fuel with
  | zero => rfl
  | succ fuel => rw [readValue, readValue, skipBlanks_skipBlanks]

theorem readItems_skipBlanks (fuel : ℕ) (cs : List Char) :
    readItems fuel (skipBlanks cs) = readItems fuel cs := by
  cases fuel with
  | zero => rfl
  | succ fuel => rw [readItems, readItems, readValue_skipBlanks]

/-- A number begins with its sign or with a digit. -/
theorem head_of_readNumber {r : Json × List Char} (h : readNumber cs = some r) :
    ∃ c rest, cs = c :: rest ∧ (c.isDigit ∨ c = '-') := by
  cases cs with
  | nil => cases h
  | cons c rest =>
    refine ⟨c, rest, rfl, ?_⟩
    by_contra! hc
    obtain ⟨hdigit, hminus⟩ := hc
    have hnone : readWhole (c :: rest) = none := by
      simp [readWhole, takeDigits, hdigit]
    rw [readNumber, hnone] at h
    · cases h
    · intro _ heq
      exact hminus (List.cons.inj heq).1

theorem readValue_of_readNumber {r : Json × List Char} (fuel : ℕ) (h : readNumber cs = some r) :
    readValue (fuel + 1) cs = some r := by
  obtain ⟨c, rest, rfl, hc⟩ := head_of_readNumber h
  have hblank : skipBlanks (c :: rest) = c :: rest := by
    rcases hc with hc | rfl
    · refine List.dropWhile_cons_of_neg fun hblank => ?_
      simp only [Bool.or_eq_true, decide_eq_true_iff] at hblank
      rcases hblank with ((rfl | rfl) | rfl) | rfl <;> cases hc
    · rfl
  rw [readValue, hblank]
  -- No value of another kind begins as a number does.
  split
  all_goals first
    | exact h
    | simp_all

/-- Items begin with a value, so an array that has any is not taken for an empty one. -/
theorem readItems_not_bracket {fuel : ℕ} {r : List Json × List Char}
    (h : readItems fuel cs = some r) (rest : List Char) : skipBlanks cs ≠ ']' :: rest := by
  intro hbracket
  rw [← readItems_skipBlanks, hbracket] at h
  match fuel with
  | 0 => cases h
  | 1 => cases h
  | fuel + 2 => cases h

theorem readValue_bracket (fuel : ℕ) (cs : List Char) :
    readValue (fuel + 1) ('[' :: cs) = match skipBlanks cs with
      | ']' :: rest => some (array [], rest)
      | rest => (readItems fuel rest).map fun (items, rest) => (array items, rest) :=
  rfl

theorem readValue_array {fuel : ℕ} {items : List Json}
    (h : readItems fuel cs = some (items, rest)) :
    readValue (fuel + 1) ('[' :: cs) = some (array items, rest) := by
  rw [readValue_bracket]
  split
  · exact absurd ‹_› (readItems_not_bracket h _)
  · rw [readItems_skipBlanks, h]
    rfl

theorem readFields_skipBlanks (fuel : ℕ) (cs : List Char) :
    readFields fuel (skipBlanks cs) = readFields fuel cs := by
  cases fuel with
  | zero => rfl
  | succ fuel => rw [readFields, readFields, skipBlanks_skipBlanks]

theorem readFields_not_brace {fuel : ℕ} {r : List (String × Json) × List Char}
    (h : readFields fuel cs = some r) (rest : List Char) : skipBlanks cs ≠ '\x7d' :: rest := by
  intro hbrace
  rw [← readFields_skipBlanks, hbrace] at h
  match fuel with
  | 0 => cases h
  | fuel + 1 => cases h

/-- The fields of an object are put in order as they are read, and the last one of a key stays. -/
theorem readValue_brace (fuel : ℕ) (cs : List Char) :
    readValue (fuel + 1) ('\x7b' :: cs) = match skipBlanks cs with
      | '\x7d' :: rest => some (object [], rest)
      | rest => (readFields fuel rest).map fun (fields, rest) =>
          (object (KeyMap.ofList fields), rest) :=
  rfl

theorem readValue_object {fuel : ℕ} {fields : List (String × Json)}
    (h : readFields fuel cs = some (fields, rest)) :
    readValue (fuel + 1) ('\x7b' :: cs) = some (object (KeyMap.ofList fields), rest) := by
  rw [readValue_brace]
  split
  · exact absurd ‹_› (readFields_not_brace h _)
  · rw [readFields_skipBlanks, h]
    rfl

theorem stringChars_append (s : String) (rest : List Char) :
    stringChars s ++ rest = '"' :: (s.toList.flatMap escapeChar ++ '"' :: rest) := by
  simp [stringChars]

theorem readValue_string (fuel : ℕ) (s : String) (rest : List Char) :
    readValue (fuel + 1) (stringChars s ++ rest) = some (string s, rest) := by
  have hvalue (cs : List Char) : readValue (fuel + 1) ('"' :: cs) =
      (readString none cs).map fun (s, rest) => (string (.ofList s), rest) := rfl
  rw [stringChars_append, hvalue, readString_escaped]
  simp

theorem readItems_last {fuel : ℕ} {item : Json} (h : readValue fuel cs = some (item, ']' :: rest)) :
    readItems (fuel + 1) cs = some ([item], rest) := by
  rw [readItems, h]
  rfl

theorem readItems_cons {fuel : ℕ} {item : Json} {items : List Json} {after : List Char}
    (hitem : readValue fuel cs = some (item, ',' :: rest))
    (hitems : readItems fuel rest = some (items, after)) :
    readItems (fuel + 1) cs = some (item :: items, after) := by
  have hread : readItems (fuel + 1) cs =
      (readItems fuel rest).bind fun read => some (item :: read.1, read.2) := by
    rw [readItems, hitem]
    rfl
  rw [hread, hitems]
  rfl

theorem readFields_field {fuel : ℕ} {value : Json} (key : String)
    (h : readValue fuel cs = some (value, rest)) :
    readFields (fuel + 1) (stringChars key ++ ':' :: cs) = match skipBlanks rest with
      | ',' :: rest =>
        (readFields fuel rest).bind fun (fields, rest) => some ((key, value) :: fields, rest)
      | '\x7d' :: rest => some ([(key, value)], rest)
      | _ => none := by
  rw [stringChars_append]
  change (readString none (key.toList.flatMap escapeChar ++ '"' :: ':' :: cs)).bind _ = _
  rw [readString_escaped]
  change (readValue fuel cs).bind _ = _
  rw [h]
  simp only [String.ofList_toList]
  rfl

/-! ## Data -/

/-- Data whose whole numbers all fit in 64 bits. -/
inductive Fits : Json → Prop
  | null : Fits null
  | bool (b : Bool) : Fits (bool b)
  | int (n : Int) (hn : FitsWord n) : Fits (int n)
  | float (x : Binary64) : Fits (float x)
  | string (s : String) : Fits (string s)
  | array (items : List Json) (h : ∀ item ∈ items, Fits item) : Fits (array items)
  | object (fields : List (String × Json)) (h : ∀ field ∈ fields, Fits field.2) :
    Fits (object fields)

mutual

/-- The data with the fields of each object in order, the last one of a key, and without the
numbers that have no text. -/
def ordered : Json → Json
  | float x => if x.isFinite then float x else null
  | array items => array (orderedItems items)
  | object fields => object (KeyMap.ofList (orderedFields fields))
  | j => j

def orderedItems : List Json → List Json
  | [] => []
  | item :: items => item.ordered :: orderedItems items

def orderedFields : List (String × Json) → List (String × Json)
  | [] => []
  | (key, value) :: fields => (key, value.ordered) :: orderedFields fields

end

theorem orderedItems_eq_map (items : List Json) : orderedItems items = items.map ordered := by
  induction items with
  | nil => rfl
  | cons item items ih => rw [orderedItems, ih, List.map_cons]

theorem orderedFields_eq_map (fields : List (String × Json)) :
    orderedFields fields = fields.map fun (key, value) => (key, value.ordered) := by
  induction fields with
  | nil => rfl
  | cons field fields ih => rw [orderedFields, ih, List.map_cons]

/-- Whatever ends numbers may follow the text of the data. -/
def ReadsBack (j : Json) : Prop :=
  ∀ (fuel : ℕ) (rest : List Char), j.chars.length ≤ fuel → EndsNumber rest →
    readValue fuel (j.chars ++ rest) = some (j.ordered, rest)

theorem readItems_chars {items : List Json} (hne : items ≠ []) (h : ∀ item ∈ items, item.ReadsBack)
    {fuel : ℕ} (hfuel : (itemChars items).length < fuel) (rest : List Char) :
    readItems fuel (itemChars items ++ ']' :: rest) = some (items.map ordered, rest) := by
  induction items generalizing fuel with
  | nil => exact absurd rfl hne
  | cons item items ih =>
    obtain ⟨hitem, hitems⟩ := List.forall_mem_cons.mp h
    obtain ⟨fuel, rfl⟩ : ∃ m, fuel = m + 1 := ⟨fuel - 1, by omega⟩
    cases items with
    | nil => exact readItems_last (hitem fuel _ (Nat.le_of_lt_succ hfuel) (endsNumber_cons rfl))
    | cons next items =>
      have hchars : itemChars (item :: next :: items) =
          item.chars ++ ',' :: itemChars (next :: items) := rfl
      rw [hchars, List.length_append, List.length_cons] at hfuel
      rw [hchars, List.append_assoc, List.cons_append]
      exact readItems_cons (hitem fuel _ (by omega) (endsNumber_cons rfl))
        (ih (by simp) hitems (by omega))

theorem readFields_chars {fields : List (String × Json)} (hne : fields ≠ [])
    (h : ∀ field ∈ fields, field.2.ReadsBack) {fuel : ℕ} (hfuel : (fieldChars fields).length < fuel)
    (rest : List Char) : readFields fuel (fieldChars fields ++ '\x7d' :: rest) =
      some (fields.map fun (key, value) => (key, value.ordered), rest) := by
  induction fields generalizing fuel with
  | nil => exact absurd rfl hne
  | cons field fields ih =>
    obtain ⟨key, value⟩ := field
    obtain ⟨hvalue, hfields⟩ := List.forall_mem_cons.mp h
    have hvalue : value.ReadsBack := hvalue
    obtain ⟨fuel, rfl⟩ : ∃ m, fuel = m + 1 := ⟨fuel - 1, by omega⟩
    cases fields with
    | nil =>
      have hchars : fieldChars [(key, value)] = stringChars key ++ ':' :: value.chars := rfl
      rw [hchars, List.length_append, List.length_cons] at hfuel
      rw [hchars, List.append_assoc, List.cons_append,
        readFields_field key (hvalue fuel _ (by omega) (endsNumber_cons rfl))]
      rfl
    | cons next fields =>
      have hchars : fieldChars ((key, value) :: next :: fields) =
          stringChars key ++ ':' :: value.chars ++ ',' :: fieldChars (next :: fields) := rfl
      rw [hchars, List.length_append, List.length_append, List.length_cons, List.length_cons]
        at hfuel
      rw [hchars, List.append_assoc, List.append_assoc, List.cons_append, List.cons_append,
        readFields_field key (hvalue fuel _ (by omega) (endsNumber_cons rfl))]
      have hlength : (fieldChars (next :: fields)).length < fuel := by omega
      have hrest := ih (by simp) hfields hlength
      change (readFields fuel (fieldChars (next :: fields) ++ '\x7d' :: rest)).bind _ = _
      rw [hrest]
      rfl

theorem compact_ne_nil (d : Decimal) : d.compact ≠ [] := by
  unfold Decimal.compact
  split_ifs
  · simp [Decimal.scientific]
  · exact d.positional_ne_nil
  · simp

theorem compactText_ne_empty (x : Binary64) : x.compactText ≠ "" := by
  intro h
  have h := congrArg String.toList h
  rw [Binary64.compactText, String.toList_append] at h
  have hbody := (List.append_eq_nil_iff.mp h).2
  split_ifs at hbody
  · cases hbody
  · exact compact_ne_nil _ (by rwa [String.toList_ofList] at hbody)

theorem chars_ne_nil (j : Json) : j.chars ≠ [] := by
  cases j with
  | null => decide
  | bool b => cases b <;> decide
  | int n => exact fun h => toString_int_ne_empty n (String.toList_inj.mp h)
  | float x =>
    intro h
    rw [chars] at h
    split_ifs at h
    · exact compactText_ne_empty x (String.toList_inj.mp h)
    · cases h
  | string s => exact List.cons_ne_nil _ _
  | array items => exact List.cons_ne_nil _ _
  | object fields => exact List.cons_ne_nil _ _

theorem readsBack_of_succ {j : Json} (h : ∀ (fuel : ℕ) (rest : List Char),
    j.chars.length ≤ fuel + 1 → EndsNumber rest →
      readValue (fuel + 1) (j.chars ++ rest) = some (j.ordered, rest)) : j.ReadsBack := by
  intro fuel rest hfuel hrest
  have hpos := List.length_pos_of_ne_nil j.chars_ne_nil
  obtain ⟨fuel, rfl⟩ : ∃ m, fuel = m + 1 := ⟨fuel - 1, by omega⟩
  exact h fuel rest hfuel hrest

/-- Each part of the data is read back wherever it stands, and so is the whole. -/
theorem Fits.readsBack {j : Json} (h : j.Fits) : j.ReadsBack := by
  induction h with
  | null => exact readsBack_of_succ fun _ _ _ _ => rfl
  | bool b =>
    cases b with
    | true => exact readsBack_of_succ fun _ _ _ _ => rfl
    | false => exact readsBack_of_succ fun _ _ _ _ => rfl
  | int n hn =>
    exact readsBack_of_succ fun fuel _ _ hrest =>
      readValue_of_readNumber fuel (readNumber_int hn hrest)
  | float x =>
    refine readsBack_of_succ fun fuel rest _ hrest => ?_
    rw [chars, ordered]
    by_cases hx : x.isFinite
    · rw [if_pos hx, if_pos hx]
      exact readValue_of_readNumber fuel (readNumber_float hx hrest)
    · rw [if_neg hx, if_neg hx]
      rfl
  | string s => exact readsBack_of_succ fun fuel rest _ _ => readValue_string fuel s rest
  | array items h ih =>
    refine readsBack_of_succ fun fuel rest hfuel _ => ?_
    cases items with
    | nil => rfl
    | cons item items =>
      rw [chars, List.length_append, List.length_cons, List.length_singleton] at hfuel
      rw [chars, ordered, orderedItems_eq_map, List.cons_append, List.cons_append,
        List.append_assoc, List.singleton_append]
      exact readValue_array (readItems_chars (by simp) ih (by omega) rest)
  | object fields h ih =>
    refine readsBack_of_succ fun fuel rest hfuel _ => ?_
    cases fields with
    | nil => rfl
    | cons field fields =>
      rw [chars, List.length_append, List.length_cons, List.length_singleton] at hfuel
      rw [chars, ordered, orderedFields_eq_map, List.cons_append, List.cons_append,
        List.append_assoc, List.singleton_append]
      exact readValue_object (readFields_chars (by simp) ih (by omega) rest)

/-- The compact text of data is read as the data with its fields in order. -/
theorem read?_compact {j : Json} (h : j.Fits) : read? j.compact = some j.ordered := by
  have hread := h.readsBack (j.chars.length + 1) [] (Nat.le_succ _) (by simp [EndsNumber])
  rw [List.append_nil] at hread
  rw [read?, compact, String.toList_ofList, hread]
  rfl

end SeriesQuery.Json
