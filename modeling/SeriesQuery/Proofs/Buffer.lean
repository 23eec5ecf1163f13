import SeriesQuery.Buffer

/-! Buffers as a monoid of texts in which the first error stays, and the steps that append to
whatever a buffer holds. -/

namespace SeriesQuery

namespace Buffer

/-- What is there when `c` has been written after `b`. -/
def append (b c : Buffer) : Buffer :=
  match b.error with
  | some _ => b
  | none => ⟨b.text ++ c.text, c.error⟩

instance : Append Buffer := ⟨append⟩

variable {b c d : Buffer} {e : Error} {s t : String}

/-- Nothing is written after an error. -/
theorem append_of_error (h : b.error = some e) : b ++ c = b := by
  change append b c = b
  simp [append, h]

theorem append_of_no_error (h : b.error = none) : b ++ c = ⟨b.text ++ c.text, c.error⟩ := by
  change append b c = _
  simp [append, h]

@[simp] theorem append_empty : b ++ ({} : Buffer) = b := by
  cases h : b.error with
  | some e => exact append_of_error h
  | none =>
    rw [append_of_no_error h, ← h]
    simp

@[simp] theorem empty_append : ({} : Buffer) ++ b = b := by
  rw [append_of_no_error rfl]
  simp

/-- Of the errors in three buffers the first one stays, whichever two of them are put together
first. -/
theorem append_assoc : b ++ c ++ d = b ++ (c ++ d) := by
  cases hb : b.error with
  | some e => simp only [append_of_error hb]
  | none =>
    rw [append_of_no_error hb, append_of_no_error hb]
    cases hc : c.error with
    | some e =>
      rw [append_of_error hc, ← hc]
      exact append_of_error hc
    | none =>
      rw [append_of_no_error hc, ← String.append_assoc]
      exact append_of_no_error rfl

theorem error_append : (b ++ c).error = b.error.or c.error := by
  cases h : b.error with
  | some e => rw [append_of_error h, h, Option.some_or]
  | none => rw [append_of_no_error h, Option.none_or]

/-- A text for a result says all there is to a buffer. An error does not, as the text before it is
lost. -/
theorem result_eq_ok_iff : b.result = .ok t ↔ b = ⟨t, none⟩ := by
  obtain ⟨s, _ | e⟩ := b <;> simp [result]

theorem result_eq_error_iff : b.result = .error e ↔ b.error = some e := by
  obtain ⟨s, _ | e'⟩ := b <;> simp [result]

/-- All buffers one after the other. -/
def concat (bs : List Buffer) : Buffer := bs.foldr (· ++ ·) {}

@[simp] theorem concat_nil : concat [] = {} := rfl

@[simp] theorem concat_cons (bs : List Buffer) : concat (b :: bs) = b ++ concat bs := rfl

theorem concat_append (bs cs : List Buffer) : concat (bs ++ cs) = concat bs ++ concat cs := by
  induction bs with
  | nil => simp
  | cons b bs ih => simp [ih, append_assoc]

/-- Without an error all the texts are there. -/
theorem concat_of_no_error {bs : List Buffer} (h : ∀ b ∈ bs, b.error = none) :
    concat bs = ⟨String.join (bs.map Buffer.text), none⟩ := by
  induction bs with
  | nil => rfl
  | cons b bs ih =>
    obtain ⟨hb, hbs⟩ := List.forall_mem_cons.mp h
    rw [concat_cons, append_of_no_error hb, ih hbs, List.map_cons, String.join_cons]

end Buffer

namespace Step

/-- The step appends to every buffer what it leaves in an empty one. -/
def ContextFree (step : Step) : Prop := ∀ b, step b = b ++ step {}

variable {step other : Step} {steps : List Step}

@[simp] theorem contextFree_skip : skip.ContextFree := fun _ => Buffer.append_empty.symm

@[simp] theorem contextFree_write (s : String) : (write s).ContextFree := by
  intro b
  cases h : b.error with
  | some e => simp [write, h, Buffer.append_of_error h]
  | none => simp [write, h, Buffer.append_of_no_error h]

@[simp] theorem contextFree_writeChar (c : Char) : (writeChar c).ContextFree := by
  intro b
  cases h : b.error with
  | some e => simp [writeChar, h, Buffer.append_of_error h]
  | none => simp [writeChar, h, Buffer.append_of_no_error h]

/-- A failure appends as well: nothing where there is an error, and its own error where there is
none. -/
@[simp] theorem contextFree_fail (e : Error) : (fail e).ContextFree := by
  intro b
  cases h : b.error with
  | some e' => simp [fail, h, Buffer.append_of_error h]
  | none => simp [fail, h, Buffer.append_of_no_error h]

theorem contextFree_ite {p : Prop} [Decidable p] (hs : step.ContextFree)
    (ho : other.ContextFree) : (if p then step else other).ContextFree := by
  split <;> assumption

/-- Later steps cannot look at what earlier ones wrote, only add to it. -/
theorem contextFree_seq (h : ∀ step ∈ steps, step.ContextFree) : (seq steps).ContextFree := by
  induction steps with
  | nil => exact contextFree_skip
  | cons step steps ih =>
    obtain ⟨hstep, hsteps⟩ := List.forall_mem_cons.mp h
    intro b
    have hseq := ih hsteps
    rw [seq_cons, seq_cons, hseq, hseq (step {}), hstep b, Buffer.append_assoc]

/-- In an empty buffer a sequence leaves what its steps leave there, one after the other. -/
theorem seq_empty (h : ∀ step ∈ steps, step.ContextFree) :
    seq steps {} = Buffer.concat (steps.map (· {})) := by
  induction steps with
  | nil => rfl
  | cons step steps ih =>
    obtain ⟨-, hsteps⟩ := List.forall_mem_cons.mp h
    rw [seq_cons, contextFree_seq hsteps, ih hsteps, List.map_cons, Buffer.concat_cons]

end Step

end SeriesQuery
