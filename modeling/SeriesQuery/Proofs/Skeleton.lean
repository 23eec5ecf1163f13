import SeriesQuery.Proofs.Lists
import SeriesQuery.Proofs.Written

/-! The skeleton of a statement: its text with the contents of the string literals erased. Steps
that differ only in what they write between quotes leave texts of the same skeleton. -/

namespace SeriesQuery

/-- Where a scan for string literals stands. After a quote inside a literal the next character
tells whether it was a doubled one or the end. -/
inductive Scan
  | outside | inside | afterQuote

/-- What a scan keeps of a text: all that is outside of the literals, and their quotes. -/
def Scan.kept (q : Char) : Scan → List Char → List Char
  | .outside, [] => []
  | .inside, [] => []
  | .afterQuote, [] => [q]
  | .outside, c :: cs => if c = q then q :: kept q .inside cs else c :: kept q .outside cs
  | .inside, c :: cs => if c = q then kept q .afterQuote cs else kept q .inside cs
  | .afterQuote, c :: cs =>
    if c = q then kept q .inside cs else q :: c :: kept q .outside cs

/-- The text without the contents of its literals. -/
def skeleton (q : Char) (text : String) : String :=
  String.ofList (Scan.kept q .outside text.toList)

/-- What can stand between the quotes of a literal: every quote in it is doubled. -/
inductive Doubled (q : Char) : List Char → Prop
  | nil : Doubled q []
  | plain {c : Char} {cs : List Char} (hc : c ≠ q) (h : Doubled q cs) : Doubled q (c :: cs)
  | quote {cs : List Char} (h : Doubled q cs) : Doubled q (q :: q :: cs)

/-- Texts that differ only in the contents of literals. -/
inductive Similar (q : Char) : List Char → List Char → Prop
  | nil : Similar q [] []
  | plain {c : Char} {s t : List Char} (hc : c ≠ q) (h : Similar q s t) :
    Similar q (c :: s) (c :: t)
  | literal {a b s t : List Char} (ha : Doubled q a) (hb : Doubled q b) (h : Similar q s t) :
    Similar q (q :: (a ++ q :: s)) (q :: (b ++ q :: t))

variable {q : Char}

theorem Doubled.append {a b : List Char} (ha : Doubled q a) (hb : Doubled q b) :
    Doubled q (a ++ b) := by
  induction ha with
  | nil => exact hb
  | plain hc _ ih => exact .plain hc ih
  | quote _ ih => exact .quote ih

theorem Doubled.of_not_mem {cs : List Char} (h : q ∉ cs) : Doubled q cs := by
  induction cs with
  | nil => exact .nil
  | cons c cs ih =>
    have hc := List.ne_of_not_mem_cons h
    exact .plain hc.symm (ih (List.not_mem_of_not_mem_cons h))

/-- The contents of a literal do not end it. -/
theorem Doubled.kept_inside_append {a : List Char} (h : Doubled q a) (cs : List Char) :
    Scan.kept q .inside (a ++ cs) = Scan.kept q .inside cs := by
  induction h with
  | nil => rfl
  | plain hc _ ih => simp [Scan.kept, hc, ih]
  | quote _ ih => simp [Scan.kept, ih]

namespace Similar

variable {s t s' t' : List Char}

theorem of_not_mem (h : q ∉ s) : Similar q s s := by
  induction s with
  | nil => exact .nil
  | cons c s ih =>
    have hc := List.ne_of_not_mem_cons h
    exact .plain hc.symm (ih (List.not_mem_of_not_mem_cons h))

theorem append (h : Similar q s t) (h' : Similar q s' t') : Similar q (s ++ s') (t ++ t') := by
  induction h with
  | nil => exact h'
  | plain hc _ ih => exact .plain hc ih
  | literal ha hb _ ih =>
    simp only [List.cons_append, List.append_assoc]
    exact .literal ha hb ih

/-- Outside of the literals the scans agree. After a quote they agree as well, since a literal
that follows on another one is read as one with it on both sides. -/
theorem kept_eq (h : Similar q s t) :
    Scan.kept q .outside s = Scan.kept q .outside t ∧
      Scan.kept q .afterQuote s = Scan.kept q .afterQuote t := by
  induction h with
  | nil => exact ⟨rfl, rfl⟩
  | plain hc _ ih => simp [Scan.kept, hc, ih.1]
  | literal ha hb _ ih =>
    simp [Scan.kept, ha.kept_inside_append, hb.kept_inside_append, ih.2]

end Similar

theorem skeleton_eq_of_similar {s t : String} (h : Similar q s.toList t.toList) :
    skeleton q s = skeleton q t := by
  rw [skeleton, skeleton, h.kept_eq.1]

example : skeleton '\'' "a = 'it''s' OR b = ''''" = "a = '' OR b = ''" := by decide +kernel

namespace Buffer

/-- The same error, and texts that differ only in the contents of literals. -/
structure Alike (q : Char) (b b' : Buffer) : Prop where
  error_eq : b.error = b'.error
  similar : Similar q b.text.toList b'.text.toList

theorem Alike.map_skeleton_result {b b' : Buffer} (h : b.Alike q b') :
    b.result.map (skeleton q) = b'.result.map (skeleton q) := by
  obtain ⟨text, error⟩ := b
  obtain ⟨text', error'⟩ := b'
  obtain ⟨rfl, hsimilar⟩ := h
  cases error with
  | none => exact congrArg Except.ok (skeleton_eq_of_similar hsimilar)
  | some e => rfl

end Buffer

namespace Step

/-- From alike buffers the steps go to alike buffers. -/
def Alike (q : Char) (step step' : Step) : Prop :=
  ∀ b b' : Buffer, b.Alike q b' → (step b).Alike q (step' b')

variable {d : Dialect} {step step' other other' lhs lhs' rhs rhs' start start' stop stop' : Step}
  {steps steps' items items' args args' : List Step}

/-- Steps that are alike fail with the same error, or write the same skeleton. -/
theorem Alike.map_skeleton_result (h : step.Alike q step') :
    step.result.map (skeleton q) = step'.result.map (skeleton q) :=
  (h {} {} ⟨rfl, .nil⟩).map_skeleton_result

@[simp] theorem alike_skip : skip.Alike q skip := fun _ _ h => h

theorem alike_fail (e : Error) : (fail e).Alike q (fail e) := by
  intro b b' h
  have herror := h.error_eq
  cases hb : b.error with
  | some e' => simpa [fail, hb, ← herror] using h
  | none => simpa [fail, hb, ← herror] using ⟨rfl, h.similar⟩

theorem alike_write_of_similar {s t : String} (hst : Similar q s.toList t.toList) :
    (write s).Alike q (write t) := by
  intro b b' h
  have herror := h.error_eq
  cases hb : b.error with
  | some e => simpa [write, hb, ← herror] using h
  | none =>
    have htext : Similar q (b.text ++ s).toList (b'.text ++ t).toList := by
      simpa using h.similar.append hst
    simpa [write, hb, ← herror] using ⟨rfl, htext⟩

theorem alike_write {s : String} (h : q ∉ s.toList) : (write s).Alike q (write s) :=
  alike_write_of_similar (.of_not_mem h)

theorem alike_writeChar {c : Char} (h : c ≠ q) : (writeChar c).Alike q (writeChar c) := by
  rw [writeChar_eq_write]
  exact alike_write (by simpa using Ne.symm h)

theorem alike_seq (h : List.Forall₂ (Alike q) steps steps') :
    (seq steps).Alike q (seq steps') := by
  induction h with
  | nil => exact alike_skip
  | cons h _ ih => exact fun b b' hb => ih _ _ (h b b' hb)

theorem alike_ite {p : Prop} [Decidable p] (h : step.Alike q step') (h' : other.Alike q other') :
    (if p then step else other).Alike q (if p then step' else other') := by
  split <;> assumption

end Step

end SeriesQuery
