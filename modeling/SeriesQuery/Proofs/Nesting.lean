import SeriesQuery.Proofs.QuoteSafe

/-! Parentheses and string literals of a statement, followed by a scan from left to right. A step
that is balanced closes what it opens, whatever parentheses are open where it is taken. -/

namespace SeriesQuery

/-- Where a scan of a text stands. -/
structure Nesting where
  /-- The number of parentheses that are open. -/
  depth : Nat
  /-- Whether a string literal is open. -/
  quoted : Bool := false
  deriving DecidableEq

namespace Nesting

/-- A single quote opens a literal or closes it. In a literal parentheses are not counted, and
outside there is no way on from one that closes nothing. -/
def next (n : Nesting) (c : Char) : Option Nesting :=
  if c = '\'' then some { n with quoted := !n.quoted }
  else if n.quoted then some n
  else if c = '(' then some { n with depth := n.depth + 1 }
  else if c = ')' then if n.depth = 0 then none else some { n with depth := n.depth - 1 }
  else some n

def after (n : Nesting) (cs : List Char) : Option Nesting := cs.foldlM next n

end Nesting

/-- Every literal is closed, and the parentheses outside of the literals match. -/
def WellBracketed (s : String) : Prop := Nesting.after ⟨0, false⟩ s.toList = some ⟨0, false⟩

instance (s : String) : Decidable (WellBracketed s) := inferInstanceAs (Decidable (_ = _))

example : WellBracketed "a = ')' AND (b)" ∧ ¬ WellBracketed ")(" ∧ ¬ WellBracketed "'(" := by
  decide +kernel

/-- Whether the scan takes the character for a quote or a parenthesis. -/
def isBracket (c : Char) : Bool := c == '\'' || c == '(' || c == ')'

namespace Nesting

variable {n m k : Nesting} {c : Char} {cs ds : List Char}

@[simp] theorem after_nil : n.after [] = some n := rfl

theorem after_cons : n.after (c :: cs) = (n.next c).bind (·.after cs) := rfl

theorem after_append : n.after (cs ++ ds) = (n.after cs).bind (·.after ds) :=
  List.foldlM_append

theorem after_append_of_eq (h : n.after cs = some m) : n.after (cs ++ ds) = m.after ds := by
  rw [after_append, h, Option.bind_some]

theorem next_of_not_isBracket (h : isBracket c = false) : n.next c = some n := by
  simp only [isBracket, Bool.or_eq_false_iff, beq_eq_false_iff_ne] at h
  simp [next, h]

theorem after_of_not_isBracket (h : ∀ c ∈ cs, isBracket c = false) : n.after cs = some n := by
  induction cs with
  | nil => rfl
  | cons c cs ih =>
    obtain ⟨hc, hcs⟩ := List.forall_mem_cons.mp h
    rw [after_cons, next_of_not_isBracket hc, Option.bind_some, ih hcs]

/-- Outside of literals only a quote leads into one. -/
theorem quoted_of_next (hn : n.quoted = false) (hc : c ≠ '\'') (h : n.next c = some m) :
    m.quoted = false := by
  simp only [next, hc, hn, if_false, Bool.false_eq_true] at h
  split at h
  · cases h
    rfl
  · split at h
    · split at h <;> cases h
      rfl
    · cases h
      exact hn

theorem quoted_of_after (hn : n.quoted = false) (hcs : '\'' ∉ cs) (h : n.after cs = some m) :
    m.quoted = false := by
  induction cs generalizing n with
  | nil =>
    cases h
    exact hn
  | cons c cs ih =>
    obtain ⟨k, hk, hm⟩ := Option.bind_eq_some_iff.mp h
    have hkn := quoted_of_next hn (List.ne_of_not_mem_cons hcs).symm hk
    exact ih hkn (List.not_mem_of_not_mem_cons hcs) hm

/-- Parentheses that are open further out play no part. -/
theorem next_deeper (h : n.next c = some m) (d : Nat) :
    next ⟨n.depth + d, n.quoted⟩ c = some ⟨m.depth + d, m.quoted⟩ := by
  obtain ⟨depth, quoted⟩ := n
  unfold next at h ⊢
  grind

theorem after_deeper (h : n.after cs = some m) (d : Nat) :
    after ⟨n.depth + d, n.quoted⟩ cs = some ⟨m.depth + d, m.quoted⟩ := by
  induction cs generalizing n with
  | nil =>
    cases h
    rfl
  | cons c cs ih =>
    obtain ⟨k, hk, hm⟩ := Option.bind_eq_some_iff.mp h
    rw [after_cons, next_deeper hk, Option.bind_some, ih hm]

end Nesting

/-- A text that closes what it opens does so at any depth. -/
theorem WellBracketed.after_eq {s : String} (h : WellBracketed s) (d : Nat) :
    Nesting.after ⟨d, false⟩ s.toList = some ⟨d, false⟩ := by
  simpa using Nesting.after_deeper h d

/-- The scan of what is in the buffer, unless that is an error, stands at `n`. -/
def Buffer.At (n : Nesting) (b : Buffer) : Prop :=
  b.error = none → Nesting.after ⟨0, false⟩ b.text.toList = some n

namespace Step

/-- The step takes a scan from `n` to `m`, unless it fails. -/
def Leads (n m : Nesting) (step : Step) : Prop := ∀ b, b.At n → (step b).At m

/-- Whatever is open outside of literals, the same is open after the step. -/
def Balanced (step : Step) : Prop := ∀ d, step.Leads ⟨d, false⟩ ⟨d, false⟩

variable {n m k : Nesting} {step other : Step} {steps items args : List Step} {s : String}
  {c : Char} {cs : List Char}

theorem leads_skip : skip.Leads n n := fun _ h => h

theorem leads_fail (e : Error) : (fail e).Leads n m := by
  intro b h hb
  cases herror : b.error with
  | some e' =>
    simp only [fail, herror] at hb
    cases hb
  | none =>
    simp only [fail, herror] at hb
    cases hb

theorem leads_write (h : n.after s.toList = some m) : (write s).Leads n m := by
  intro b hb herror
  cases hbe : b.error with
  | some e =>
    simp only [write, hbe] at herror
    cases herror
  | none =>
    simp only [write, hbe, String.toList_append]
    rw [Nesting.after_append_of_eq (hb hbe), h]

theorem leads_writeChar (h : n.next c = some m) : (writeChar c).Leads n m := by
  rw [writeChar_eq_write]
  apply leads_write
  rw [String.toList_singleton, Nesting.after_cons, h]
  rfl

theorem leads_nil : (seq []).Leads n n := fun _ h => h

theorem Leads.cons (h : step.Leads n m) (hs : (seq steps).Leads m k) :
    (seq (step :: steps)).Leads n k := fun b hb => hs _ (h b hb)

theorem leads_seq_append (h : (seq steps).Leads n m) (hi : (seq items).Leads m k) :
    (seq (steps ++ items)).Leads n k := by
  intro b hb
  rw [seq_append]
  exact hi _ (h b hb)

theorem leads_ite {p : Prop} [Decidable p] (h : step.Leads n m) (ho : other.Leads n m) :
    (if p then step else other).Leads n m := by
  split <;> assumption

theorem balanced_skip : skip.Balanced := fun _ => leads_skip

theorem balanced_fail (e : Error) : (fail e).Balanced := fun _ => leads_fail e

theorem balanced_write (h : WellBracketed s) : (write s).Balanced :=
  fun d => leads_write (h.after_eq d)

theorem balanced_write_of_not_isBracket (h : ∀ c ∈ s.toList, isBracket c = false) :
    (write s).Balanced :=
  balanced_write (Nesting.after_of_not_isBracket h)

theorem balanced_writeChar (h : isBracket c = false) : (writeChar c).Balanced :=
  fun _ => leads_writeChar (Nesting.next_of_not_isBracket h)

theorem balanced_seq (h : ∀ step ∈ steps, step.Balanced) : (seq steps).Balanced := by
  intro d
  induction steps with
  | nil => exact leads_nil
  | cons step steps ih =>
    obtain ⟨hstep, hsteps⟩ := List.forall_mem_cons.mp h
    exact (hstep d).cons (ih hsteps)

theorem balanced_ite {p : Prop} [Decidable p] (h : step.Balanced) (ho : other.Balanced) :
    (if p then step else other).Balanced := fun d => leads_ite (h d) (ho d)

theorem balanced_separated (hs : step.Balanced) (h : ∀ item ∈ items, item.Balanced) :
    (separated step items).Balanced := by
  apply balanced_seq
  intro x hx
  rcases eq_or_mem_of_mem_intersperse hx with rfl | hx
  · exact hs
  · exact h x hx

/-- A finished text of balanced steps has its parentheses and literals closed. -/
theorem Balanced.wellBracketed (h : step.Balanced) {t : String} (ht : step.result = .ok t) :
    WellBracketed t := by
  have hat : Buffer.At ⟨0, false⟩ (step {}) := h 0 {} fun _ => rfl
  rw [Buffer.result_eq_ok_iff.mp ht] at hat
  exact hat rfl

end Step

end SeriesQuery
