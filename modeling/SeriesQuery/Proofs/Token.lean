import SeriesQuery.Proofs.Lists
import SeriesQuery.Proofs.Written

/-! The tokens of a condition in the time series dialect: strings between quotes, marks, and the
bare words between them. The text determines the tokens. -/

namespace SeriesQuery

inductive Token
  | mark (c : Char)
  /-- A name, a number or an operator. -/
  | bare (w : String)
  | quoted (s : String)

def isMark (c : Char) : Bool := c == '(' || c == ')' || c == ',' || c == ' '

/-- Whether a bare word can have the character in it. -/
def isBare (c : Char) : Bool := !isMark c && c != '\''

/-- A string with its quotes doubled. -/
def doubled (cs : List Char) : List Char :=
  cs.flatMap fun c => if c = '\'' then ['\'', '\''] else [c]

def Token.chars : Token → List Char
  | mark c => [c]
  | bare w => w.toList
  | quoted s => '\'' :: doubled s.toList ++ ['\'']

def tokenChars (ts : List Token) : List Char := ts.flatMap Token.chars

variable {ts us : List Token}

@[simp] theorem tokenChars_nil : tokenChars [] = [] := rfl

@[simp] theorem tokenChars_cons (t : Token) : tokenChars (t :: ts) = t.chars ++ tokenChars ts := rfl

@[simp] theorem tokenChars_append : tokenChars (ts ++ us) = tokenChars ts ++ tokenChars us :=
  List.flatMap_append

def IsBareWord (w : String) : Prop := w ≠ "" ∧ ∀ c ∈ w.toList, isBare c

/-- Tokens that can be told apart in their text: a mark comes after each bare word and after each
string. -/
inductive Lexical : List Token → Prop
  | nil : Lexical []
  | mark {c : Char} {ts : List Token} (hc : isMark c) (h : Lexical ts) : Lexical (.mark c :: ts)
  | bare {w : String} {c : Char} {ts : List Token} (hw : IsBareWord w)
    (h : Lexical (.mark c :: ts)) : Lexical (.bare w :: .mark c :: ts)
  | quoted {s : String} {c : Char} {ts : List Token} (h : Lexical (.mark c :: ts)) :
    Lexical (.quoted s :: .mark c :: ts)

theorem isMark_of_lexical {c : Char} (h : Lexical (.mark c :: ts)) : isMark c := by
  cases h
  assumption

theorem not_isMark_of_isBare {c : Char} (h : isBare c) : ¬ isMark c := by
  intro hmark
  simp [isBare, hmark] at h

/-- A bare word ends at the first mark. -/
theorem bare_append_inj {cs cs' r r' : List Char} {m m' : Char} (hcs : ∀ c ∈ cs, isBare c)
    (hcs' : ∀ c ∈ cs', isBare c) (hm : isMark m) (hm' : isMark m')
    (h : cs ++ m :: r = cs' ++ m' :: r') : cs = cs' ∧ m :: r = m' :: r' := by
  have htake {cs r : List Char} {m : Char} (hcs : ∀ c ∈ cs, isBare c) (hm : isMark m) :
      (cs ++ m :: r).takeWhile isBare = cs := by
    rw [List.takeWhile_append_of_pos hcs, List.takeWhile_cons_of_neg (by simp [isBare, hm]),
      List.append_nil]
  have heq : cs = cs' := by rw [← htake (r := r) hcs hm, h, htake hcs' hm']
  exact ⟨heq, List.append_cancel_left (heq ▸ h)⟩

/-- What stands before the first quote that is not doubled, and what comes after it. -/
def readQuoted : List Char → List Char × List Char
  | [] => ([], [])
  | [c] => if c = '\'' then ([], []) else ([c], [])
  | c :: c' :: cs =>
    if c = '\'' then
      if c' = '\'' then
        let (s, rest) := readQuoted cs
        ('\'' :: s, rest)
      else ([], c' :: cs)
    else
      let (s, rest) := readQuoted (c' :: cs)
      (c :: s, rest)

/-- The first quote that is not doubled ends the literal, as a mark follows it. -/
theorem readQuoted_doubled {r : List Char} {m : Char} (hm : isMark m) (cs : List Char) :
    readQuoted (doubled cs ++ '\'' :: m :: r) = (cs, m :: r) := by
  induction cs with
  | nil =>
    have hm : m ≠ '\'' := by
      rintro rfl
      cases hm
    simp [doubled, readQuoted, hm]
  | cons c cs ih =>
    by_cases hc : c = '\''
    · subst hc
      change readQuoted ('\'' :: '\'' :: (doubled cs ++ '\'' :: m :: r)) = _
      simp [readQuoted, ih]
    · have hdoubled : doubled (c :: cs) = c :: doubled cs := by simp [doubled, hc]
      rw [hdoubled, List.cons_append]
      -- What follows is not empty, so that the reader looks at two characters.
      rcases h : doubled cs ++ '\'' :: m :: r with _ | ⟨c', rest⟩
      · simp at h
      · rw [h] at ih
        simp [readQuoted, hc, ih]

/-- How the text of a token can begin. -/
def Token.Begins : Token → Char → Prop
  | mark _, c => isMark c
  | bare _, c => isBare c
  | quoted _, c => c = '\''

/-- What kind of token comes next is told by its first character. -/
theorem exists_begins {t : Token} (h : Lexical (t :: ts)) :
    ∃ c cs, t.chars = c :: cs ∧ t.Begins c := by
  cases h with
  | mark hc _ => exact ⟨_, [], rfl, hc⟩
  | @bare w _ _ hw _ =>
    cases hcs : w.toList with
    | nil => exact absurd (String.toList_eq_nil_iff.mp hcs) hw.1
    | cons c cs => exact ⟨c, cs, hcs, hw.2 c (hcs ▸ List.mem_cons_self)⟩
  | quoted _ => exact ⟨_, _, rfl, rfl⟩

/-- Two texts that agree begin with tokens of the same kind. -/
theorem begins_of_tokenChars_eq {t u : Token} {r s : List Char} (h : Lexical (t :: ts))
    (h' : Lexical (u :: us)) (heq : tokenChars (t :: ts) ++ r = tokenChars (u :: us) ++ s) :
    ∃ c, t.Begins c ∧ u.Begins c := by
  obtain ⟨c, cs, hchars, hc⟩ := exists_begins h
  obtain ⟨c', cs', hchars', hc'⟩ := exists_begins h'
  rw [tokenChars_cons, tokenChars_cons, hchars, hchars'] at heq
  obtain ⟨rfl, -⟩ := List.cons.inj heq
  exact ⟨c, hc, hc'⟩

theorem tokenChars_ne_nil {t : Token} (h : Lexical (t :: ts)) : tokenChars (t :: ts) ≠ [] := by
  obtain ⟨c, cs, hchars, -⟩ := exists_begins h
  simp [hchars]

theorem Lexical.tail {t : Token} (h : Lexical (t :: ts)) : Lexical ts := by
  cases h <;> assumption

/-- Whatever is cut off in front, what is left can be read. -/
theorem Lexical.of_append (h : Lexical (ts ++ us)) : Lexical us := by
  induction ts with
  | nil => exact h
  | cons t ts ih => exact ih h.tail

/-- Whatever comes after them, the text determines the tokens as far as both lists go. -/
theorem prefix_of_tokenChars_eq {r s : List Char} (h : Lexical ts) (h' : Lexical us)
    (heq : tokenChars ts ++ r = tokenChars us ++ s) : ts <+: us ∨ us <+: ts := by
  have hcons {t : Token} {ts us : List Token} (h : ts <+: us ∨ us <+: ts) :
      t :: ts <+: t :: us ∨ t :: us <+: t :: ts := by
    simpa only [List.prefix_cons_inj] using h
  induction h generalizing us with
  | nil => exact .inl List.nil_prefix
  | mark hc h ih =>
    cases us with
    | nil => exact .inr List.nil_prefix
    | cons u us =>
      obtain ⟨c, hbegin, hbegin'⟩ := begins_of_tokenChars_eq (.mark hc h) h' heq
      cases h' with
      | mark _ h' =>
        obtain ⟨rfl, htail⟩ := List.cons.inj heq
        exact hcons (ih h' htail)
      | bare => exact absurd hbegin (not_isMark_of_isBare hbegin')
      | quoted =>
        subst hbegin'
        cases hbegin
  | @bare w m ts hw h ih =>
    cases us with
    | nil => exact .inr List.nil_prefix
    | cons u us =>
      obtain ⟨c, hbegin, hbegin'⟩ := begins_of_tokenChars_eq (.bare hw h) h' heq
      cases h' with
      | mark => exact absurd hbegin' (not_isMark_of_isBare hbegin)
      | @bare w' m' us hw' h' =>
        have hbody : w.toList ++ m :: (tokenChars ts ++ r) =
            w'.toList ++ m' :: (tokenChars us ++ s) := by
          simpa [Token.chars] using heq
        obtain ⟨hchars, htail⟩ :=
          bare_append_inj hw.2 hw'.2 (isMark_of_lexical h) (isMark_of_lexical h') hbody
        rw [String.toList_inj.mp hchars]
        exact hcons (ih h' htail)
      | quoted =>
        subst hbegin'
        cases hbegin
  | @quoted x m ts h ih =>
    cases us with
    | nil => exact .inr List.nil_prefix
    | cons u us =>
      obtain ⟨c, hbegin, hbegin'⟩ := begins_of_tokenChars_eq (.quoted h) h' heq
      subst hbegin
      cases h' with
      | mark => cases hbegin'
      | bare => cases hbegin'
      | @quoted x' m' us h' =>
        have hbody : doubled x.toList ++ '\'' :: m :: (tokenChars ts ++ r) =
            doubled x'.toList ++ '\'' :: m' :: (tokenChars us ++ s) := by
          simpa [Token.chars] using heq
        have hread := congrArg readQuoted hbody
        rw [readQuoted_doubled (isMark_of_lexical h), readQuoted_doubled (isMark_of_lexical h')]
          at hread
        obtain ⟨hx, hrest⟩ := Prod.mk.inj hread
        rw [String.toList_inj.mp hx]
        exact hcons (ih h' hrest)

/-- The text determines the tokens. -/
theorem lexical_unique (h : Lexical ts) (h' : Lexical us)
    (heq : tokenChars ts = tokenChars us) : ts = us := by
  have hnil {ts ks : List Token} (h : Lexical (ts ++ ks))
      (heq : tokenChars ts = tokenChars (ts ++ ks)) : ts = ts ++ ks := by
    cases ks with
    | nil => exact (List.append_nil ts).symm
    | cons k ks =>
      have hrest : tokenChars (k :: ks) = [] := by
        rw [tokenChars_append] at heq
        exact List.append_right_eq_self.mp heq.symm
      exact absurd hrest (tokenChars_ne_nil h.of_append)
  have hchars : tokenChars ts ++ [] = tokenChars us ++ [] := by rw [heq]
  rcases prefix_of_tokenChars_eq h h' hchars with ⟨ks, rfl⟩ | ⟨ks, rfl⟩
  · exact hnil h' heq
  · exact (hnil h heq.symm).symm

theorem Dialect.escaped_timeSeries (s : String) :
    (timeSeries.escaped s).toList = doubled s.toList := by
  rw [escaped, String.toList_join, doubled, List.flatMap_map]
  congr 1
  funext c
  by_cases hc : c = '\'' <;> simp [timeSeries, hc]

/-- The text of tokens. -/
def tokenText (ts : List Token) : String := String.ofList (tokenChars ts)

@[simp] theorem tokenText_append : tokenText (ts ++ us) = tokenText ts ++ tokenText us := by
  simp [tokenText]

namespace Step

/-- The step writes the text of the tokens. -/
def Writes (step : Step) (ts : List Token) : Prop := step = write (tokenText ts)

variable {step : Step} {steps : List Step} {tss : List (List Token)}

theorem writes_skip : skip.Writes [] := write_empty.symm

theorem writes_write (w : String) : (write w).Writes [.bare w] := by
  simp [Writes, tokenText, Token.chars]

theorem writes_writeChar (c : Char) : (writeChar c).Writes [.mark c] := writeChar_eq_write c

theorem writes_quoted (s : String) : (quoted .timeSeries s).Writes [.quoted s] := by
  have hquote : Dialect.timeSeries.quote = '\'' := rfl
  rw [Writes, quoted_eq_write, hquote]
  refine congrArg write (String.toList_inj.mp ?_)
  simp [Dialect.escaped_timeSeries, tokenText, Token.chars]

theorem Writes.result_eq (h : step.Writes ts) : step.result = .ok (tokenText ts) := by
  rw [h]
  simp [result, Buffer.result, write]

theorem writes_seq (h : List.Forall₂ Writes steps tss) (hts : tss.flatten = ts) :
    (seq steps).Writes ts := by
  subst hts
  induction h with
  | nil => exact writes_skip
  | cons h _ ih =>
    funext b
    rw [seq_cons, ih, h, write_write, List.flatten_cons, tokenText_append]

end Step

end SeriesQuery
