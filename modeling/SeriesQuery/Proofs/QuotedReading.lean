import Mathlib.Data.Set.Insert
import SeriesQuery.Proofs.Result

/-! Reading string literals back, in dialects that double the quote within a literal and maybe other
characters. Whatever text comes after it, a literal ends where the writer ended it. -/

namespace SeriesQuery

variable {d : Dialect} {R : Set Char}

/-- Within a string the dialect doubles the characters of a set, its quote among them, and writes
all others as they are. -/
structure Dialect.Doubles (d : Dialect) (R : Set Char) : Prop where
  quote_mem : d.quote ∈ R
  escape_of_mem {c : Char} : c ∈ R → d.escape c = some (String.ofList [c, c])
  escape_of_not_mem {c : Char} : c ∉ R → d.escape c = none

/-- The content of a literal from behind the opening quote, and the text behind the closing one. A
doubled character of the set stands for one, and a quote that is not doubled closes the literal. -/
def readContent (R : Set Char) [DecidablePred (· ∈ R)] (q : Char) :
    List Char → Option (List Char × List Char)
  | [] => none
  | [c] => if c = q then some ([], []) else none
  | c :: c' :: cs =>
    if c ∈ R ∧ c' = c then (readContent R q cs).map fun (s, rest) => (c :: s, rest)
    else if c = q then some ([], c' :: cs)
    else (readContent R q (c' :: cs)).map fun (s, rest) => (c :: s, rest)

/-- The content of the literal that a text begins with, and the text behind it. -/
def readLiteral (R : Set Char) [DecidablePred (· ∈ R)] (q : Char) (text : String) :
    Option (String × String) :=
  match text.toList with
  | [] => none
  | c :: cs =>
    if c = q then
      (readContent R q cs).map fun (s, rest) => (String.ofList s, String.ofList rest)
    else none

namespace Dialect

theorem doubles_timeSeries : timeSeries.Doubles {'\''} where
  quote_mem := rfl
  escape_of_mem := by
    rintro c rfl
    rfl
  escape_of_not_mem := by
    intro c hc
    exact if_neg hc

/-- Doubling one more character keeps the others doubled. -/
theorem Doubles.withEscape (h : d.Doubles R) (c : Char) :
    (d.withEscape c (String.ofList [c, c])).Doubles (insert c R) where
  quote_mem := Set.mem_insert_of_mem c h.quote_mem
  escape_of_mem := by
    intro c' hc'
    by_cases hc : c' = c
    · simp [Dialect.withEscape, hc]
    · simp [Dialect.withEscape, hc, h.escape_of_mem (Set.mem_of_mem_insert_of_ne hc' hc)]
  escape_of_not_mem := by
    intro c' hc'
    obtain ⟨hc, hR⟩ := not_or.mp hc'
    simp [Dialect.withEscape, hc, h.escape_of_not_mem hR]

variable [DecidablePred (· ∈ R)]

theorem Doubles.toList_escaped (h : d.Doubles R) (s : String) :
    (d.escaped s).toList = s.toList.flatMap fun c => if c ∈ R then [c, c] else [c] := by
  rw [escaped, String.toList_join, List.flatMap_map]
  congr 1
  funext c
  by_cases hc : c ∈ R
  · simp [hc, h.escape_of_mem hc]
  · simp [hc, h.escape_of_not_mem hc]

end Dialect

variable [DecidablePred (· ∈ R)]

/-- A doubled content is read as a whole, unless another quote follows the closing one. -/
theorem readContent_doubled {q : Char} (hq : q ∈ R) {t : List Char} (ht : t.head? ≠ some q)
    (s : List Char) :
    readContent R q (s.flatMap (fun c => if c ∈ R then [c, c] else [c]) ++ q :: t) =
      some (s, t) := by
  induction s with
  | nil =>
    cases t with
    | nil => simp [readContent]
    | cons c t =>
      have hc : c ≠ q := by simpa using ht
      simp [readContent, hc]
  | cons c s ih =>
    by_cases hc : c ∈ R
    · simp [hc, readContent, ih]
    · have hne : c ≠ q := by
        rintro rfl
        exact hc hq
      rw [List.flatMap_cons, if_neg hc, List.singleton_append, List.cons_append]
      -- What follows is not empty, so that the reader looks at two characters.
      cases hrest : s.flatMap (fun c => if c ∈ R then [c, c] else [c]) ++ q :: t with
      | nil => simp at hrest
      | cons c' rest =>
        rw [hrest] at ih
        simp [readContent, hc, hne, ih]

/-- Every string is written, and as a literal that is read as the string, up to the text that comes
after it. -/
theorem readLiteral_quoted (hd : d.Doubles R) (s : String) :
    ∃ text, Step.result (Step.quoted d s) = .ok text ∧
      ∀ t : String, t.toList.head? ≠ some d.quote →
        readLiteral R d.quote (text ++ t) = some (s, t) := by
  refine ⟨_, by rw [Step.quoted_eq_write, Step.result_write], fun t ht => ?_⟩
  have hread := readContent_doubled hd.quote_mem ht s.toList
  rw [← hd.toList_escaped] at hread
  simp [readLiteral, hread]

/-- Quotes and backslashes in a row, at both ends and before the quote that closes the literal. -/
theorem readLiteral_quoted_backslashes :
    let R : Set Char := {'\\', '\''}
    let d := Dialect.timeSeries.withEscape '\\' "\\\\"
    Dialect.timeSeries.Doubles {'\''} ∧ d.Doubles R ∧
      Step.result (Step.quoted d "''\\ a\\'") = .ok "'''''\\\\ a\\\\'''" ∧
      readLiteral R d.quote "'''''\\\\ a\\\\''')" = some ("''\\ a\\'", ")") := by
  intro R d
  have hd : d.Doubles R := Dialect.doubles_timeSeries.withEscape '\\'
  obtain ⟨text, htext, hread⟩ := readLiteral_quoted hd "''\\ a\\'"
  have hresult : Step.result (Step.quoted d "''\\ a\\'") = .ok "'''''\\\\ a\\\\'''" := by
    decide +kernel
  obtain rfl : text = "'''''\\\\ a\\\\'''" := Except.ok.inj (htext.symm.trans hresult)
  exact ⟨Dialect.doubles_timeSeries, hd, hresult, hread ")" (by decide)⟩

end SeriesQuery
