import SeriesQuery.Proofs.Fault

/-! The text that a sequence of steps gives: that of each step alone, one after the other, or the
error of the first that fails. -/

namespace SeriesQuery

theorem exceptMapM_cons {ε α β : Type} (f : α → Except ε β) (a : α) (as : List α) :
    (a :: as).mapM f = (f a).bind fun b => (as.mapM f).map (b :: ·) := by
  rw [List.mapM_cons]
  cases f a <;> cases as.mapM f <;> rfl

/-- All go well exactly when each of them does. -/
theorem exceptMapM_eq_ok_iff {ε α β : Type} {f : α → Except ε β} {as : List α} {bs : List β} :
    as.mapM f = .ok bs ↔ List.Forall₂ (fun a b => f a = .ok b) as bs := by
  induction as generalizing bs with
  | nil => simp [pure, Except.pure, eq_comm]
  | cons a as ih =>
    rw [List.forall₂_cons_left_iff, exceptMapM_cons]
    simp only [← ih]
    cases f a <;> cases as.mapM f <;> simp [Except.bind, Except.map, eq_comm]

/-- They fail with the error of the first of them that fails. -/
theorem exceptMapM_eq_error_iff {ε α β : Type} {f : α → Except ε β} {as : List α} {e : ε} :
    as.mapM f = .error e ↔
      ∃ pre a post, as = pre ++ a :: post ∧ (∀ x ∈ pre, ∃ b, f x = .ok b) ∧ f a = .error e := by
  induction as with
  | nil => simp [pure, Except.pure]
  | cons a as ih =>
    rw [exceptMapM_cons]
    constructor
    · intro h
      cases ha : f a with
      | error e' =>
        rw [ha] at h
        cases h
        exact ⟨[], a, as, rfl, List.forall_mem_nil _, ha⟩
      | ok b =>
        rw [ha] at h
        obtain ⟨pre, x, post, rfl, hpre, hx⟩ := ih.mp (exceptMap_eq_error_iff.mp h)
        exact ⟨a :: pre, x, post, rfl, List.forall_mem_cons.mpr ⟨⟨b, ha⟩, hpre⟩, hx⟩
    · rintro ⟨pre, x, post, heq, hpre, hx⟩
      cases pre with
      | nil =>
        obtain ⟨rfl, -⟩ := List.cons.inj heq
        rw [hx]
        rfl
      | cons y pre =>
        obtain ⟨rfl, rfl⟩ := List.cons.inj heq
        obtain ⟨⟨b, hb⟩, hpre⟩ := List.forall_mem_cons.mp hpre
        rw [hb]
        exact exceptMap_eq_error_iff.mpr (ih.mpr ⟨pre, x, post, rfl, hpre, hx⟩)

theorem exceptMap_mapM_eq_ok_iff {ε α β γ : Type} {f : α → Except ε β} {g : List β → γ}
    {as : List α} {c : γ} :
    (as.mapM f).map g = .ok c ↔ ∃ bs, List.Forall₂ (fun a b => f a = .ok b) as bs ∧ g bs = c := by
  rw [exceptMap_eq_ok_iff]
  simp only [exceptMapM_eq_ok_iff]

theorem exceptMap_mapM_eq_error_iff {ε α β γ : Type} {f : α → Except ε β} {g : List β → γ}
    {as : List α} {e : ε} :
    (as.mapM f).map g = .error e ↔
      ∃ pre a post, as = pre ++ a :: post ∧ (∀ x ∈ pre, ∃ b, f x = .ok b) ∧ f a = .error e :=
  exceptMap_eq_error_iff.trans exceptMapM_eq_error_iff

/-- The first text is lost if the second buffer has an error. -/
theorem Buffer.result_append (b c : Buffer) :
    (b ++ c).result = b.result.bind fun s => c.result.map (s ++ ·) := by
  obtain ⟨s, _ | e⟩ := b
  · rw [append_of_no_error rfl]
    obtain ⟨t, _ | e⟩ := c <;> rfl
  · rw [append_of_error rfl]
    rfl

namespace Step

variable {d : Dialect} {step : Step} {steps items : List Step} {s : String}

@[simp] theorem result_write (s : String) : result (write s) = .ok s := by
  simp [result, write, Buffer.result]

@[simp] theorem result_fail (e : Error) : result (fail e) = .error e := by
  simp [result, fail, Buffer.result]

@[simp] theorem result_writeChar (c : Char) : result (writeChar c) = .ok (String.singleton c) := by
  rw [writeChar_eq_write, result_write]

theorem result_seq_cons (step : Step) (h : ∀ step ∈ steps, step.ContextFree) :
    result (seq (step :: steps)) =
      step.result.bind fun s => (result (seq steps)).map (s ++ ·) := by
  have hseq := contextFree_seq h (step {})
  rw [result, seq_cons, hseq, Buffer.result_append]
  rfl

/-- The text of a sequence is that of its first step and that of the others. -/
theorem result_seq_cons_eq_ok_iff (h : (seq steps).ContextFree) {t : String} :
    result (seq (step :: steps)) = .ok t ↔
      ∃ s₁ s₂, step.result = .ok s₁ ∧ result (seq steps) = .ok s₂ ∧ s₁ ++ s₂ = t := by
  have hsplit : result (seq (step :: steps)) = (step {} ++ seq steps {}).result :=
    congrArg Buffer.result (h (step {}))
  have hstep : (step {}).result = step.result := rfl
  have hsteps : (seq steps {}).result = result (seq steps) := rfl
  rw [hsplit, Buffer.result_append, hstep, hsteps]
  cases step.result <;> cases result (seq steps) <;> simp [Except.bind, Except.map]

theorem result_seq_singleton (step : Step) : result (seq [step]) = step.result := rfl

/-- What begins with a character is not empty. -/
theorem result_seq_writeChar_ne (c : Char) (h : ∀ step ∈ steps, step.ContextFree) :
    result (seq (writeChar c :: steps)) ≠ .ok "" := by
  rw [result_seq_cons _ h, result_writeChar]
  cases result (seq steps) with
  | error e => simp [Except.bind, Except.map]
  | ok s =>
    intro hs
    have hlist := congrArg String.toList (Except.ok.inj hs)
    simp at hlist

/-- The result of a sequence is that of its steps alone, one after the other, up to the first
error. -/
theorem result_seq (h : ∀ step ∈ steps, step.ContextFree) :
    result (seq steps) = (steps.mapM result).map String.join := by
  induction steps with
  | nil => rfl
  | cons step steps ih =>
    obtain ⟨-, hsteps⟩ := List.forall_mem_cons.mp h
    rw [result_seq_cons step hsteps, ih hsteps, exceptMapM_cons]
    cases step.result <;> cases steps.mapM result <;> simp [Except.bind, Except.map]

theorem contextFree_intersperse (hs : step.ContextFree) (h : ∀ item ∈ items, item.ContextFree) :
    ∀ item ∈ items.intersperse step, item.ContextFree := by
  intro x hx
  rcases eq_or_mem_of_mem_intersperse hx with rfl | hx
  · exact hs
  · exact h x hx

theorem contextFree_separated (hs : step.ContextFree) (h : ∀ item ∈ items, item.ContextFree) :
    (separated step items).ContextFree :=
  contextFree_seq (contextFree_intersperse hs h)

theorem result_separated (hs : step.ContextFree) (hresult : step.result = .ok s)
    (h : ∀ item ∈ items, item.ContextFree) :
    result (separated step items) = (items.mapM result).map s.intercalate := by
  induction items with
  | nil => rfl
  | cons item items ih =>
    obtain ⟨-, hitems⟩ := List.forall_mem_cons.mp h
    cases items with
    | nil =>
      rw [separated, List.intersperse_singleton, result_seq h, exceptMapM_cons]
      cases item.result <;> simp [Except.bind, Except.map, pure, Except.pure]
    | cons item' items =>
      have hrest := contextFree_intersperse hs hitems
      have ih := ih hitems
      rw [separated] at ih
      rw [separated, List.intersperse_cons_cons,
        result_seq_cons item (List.forall_mem_cons.mpr ⟨hs, hrest⟩), result_seq_cons step hrest,
        hresult, ih]
      simp only [exceptMapM_cons]
      cases item.result <;> cases item'.result <;> cases items.mapM result <;>
        simp [Except.bind, Except.map, String.append_assoc]

/-- What stands between parentheses. -/
theorem result_parenthesized (h : step.ContextFree) :
    result (seq [writeChar d.leftParen, step, writeChar d.rightParen]) =
      step.result.map fun s =>
        String.singleton d.leftParen ++ s ++ String.singleton d.rightParen := by
  rw [result_seq (by simp [h])]
  simp only [exceptMapM_cons, result_writeChar, List.mapM_nil]
  cases step.result <;>
    simp [Except.bind, Except.map, pure, Except.pure, String.append_assoc, -String.append_singleton]

end Step

end SeriesQuery
