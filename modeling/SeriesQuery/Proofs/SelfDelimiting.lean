import SeriesQuery.Proofs.Readability

/-! The text of a value shows where the value ends, whatever the strings in it hold. -/

namespace SeriesQuery

namespace Value

/-- Null, whole numbers, strings, bytes, and lists of them. -/
inductive IsConstant : Value → Prop
  | null : IsConstant .null
  | int (n : Int64) : IsConstant (.int n)
  | uint (n : UInt64) : IsConstant (.uint n)
  | string (s : String) : IsConstant (.string s)
  | bytes (bs : List UInt8) : IsConstant (.bytes bs)
  | list {vs : List Value} (h : ∀ v ∈ vs, IsConstant v) : IsConstant (.list vs)

mutual

/-- The value with the text of its bytes in their place. -/
def decoded : Value → Value
  | .bytes bs => .string (Text.decodeUtf8 bs)
  | .list vs => .list (decodedAll vs)
  | v => v

def decodedAll : List Value → List Value
  | [] => []
  | v :: vs => v.decoded :: decodedAll vs

end

/-- The value with strings for bytes, and with its numbers unsigned where they are not negative. -/
def canonical (v : Value) : Value := v.decoded.unsigned

variable {v w : Value}

theorem decodedAll_eq_map (vs : List Value) : decodedAll vs = vs.map decoded :=
  eq_map_of_cons rfl (fun _ _ => rfl) vs

theorem IsConstant.isPlain_decoded (h : v.IsConstant) : v.decoded.IsPlain := by
  induction h with
  | null => exact .null
  | int n => exact .int n
  | uint n => exact .uint n
  | string s => exact .string s
  | bytes bs => exact .string _
  | list _ ih =>
    rw [decoded, decodedAll_eq_map]
    exact .list (List.forall_mem_map.mpr ih)

theorem IsConstant.render_decoded (d : Dialect) (h : v.IsConstant) :
    v.decoded.render d = v.render d := by
  induction h with
  | list _ ih =>
    rw [decoded, decodedAll_eq_map, render, render, renderAll_eq_map, renderAll_eq_map,
      List.map_map]
    exact congrArg (Step.tuple d) (List.map_congr_left ih)
  | _ => rfl

theorem IsConstant.isOperand_canonical (h : v.IsConstant) : v.canonical.IsOperand :=
  h.isPlain_decoded.isOperand_unsigned

theorem IsConstant.sql_eq (h : v.IsConstant) :
    v.sql .timeSeries = .ok (tokenText v.canonical.tokens) := by
  have hrender : v.canonical.render .timeSeries = v.render .timeSeries := by
    rw [canonical, h.isPlain_decoded.render_unsigned, h.render_decoded]
  rw [sql, ← hrender]
  exact (Step.writes_value h.isOperand_canonical).result_eq

end Value

/-- How a text can go on after a value: not at all, with the next value, or with the end of the
list that the value is in. -/
def IsContinuation (r : String) : Prop := ∀ c ∈ r.toList.head?, c = ',' ∨ c = ')'

/-- With a parenthesis at the end, what goes on after a value begins with a mark. -/
theorem IsContinuation.exists_mark {r : String} (h : IsContinuation r) :
    ∃ m cs, isMark m ∧ r.toList ++ [')'] = m :: cs := by
  cases hr : r.toList with
  | nil => exact ⟨')', [], rfl, rfl⟩
  | cons c cs =>
    refine ⟨c, cs ++ [')'], ?_, rfl⟩
    rcases h c (by simp [hr]) with rfl | rfl <;> rfl

namespace Value

variable {v w : Value} {r r' : String}

/-- The tokens of one value are not the beginning of those of another one. -/
theorem eq_of_tokens_begin {m n : Char} (hv : v.IsOperand) (hw : w.IsOperand)
    (h : v.tokens ++ [.mark m] <+: w.tokens ++ [.mark n]) : v = w := by
  obtain ⟨ks, hks⟩ := h
  rw [List.append_assoc] at hks
  exact (v.uniquelyRead hv w hw _ _ hks).1

/-- An operand can be told from what follows it. -/
theorem tokenText_append_inj (hv : v.IsOperand) (hw : w.IsOperand) (hr : IsContinuation r)
    (hr' : IsContinuation r') (h : tokenText v.tokens ++ r = tokenText w.tokens ++ r') :
    v = w ∧ r = r' := by
  obtain ⟨m, cs, hm, hcs⟩ := hr.exists_mark
  obtain ⟨n, cs', hn, hcs'⟩ := hr'.exists_mark
  have htokens {u : Value} {c : Char} (hu : u.IsOperand) (hc : isMark c) :
      Lexical (u.tokens ++ [.mark c]) := u.lexical_tokens hu (Lexical.nil.marked hc)
  have hchars : tokenChars (v.tokens ++ [.mark m]) ++ cs =
      tokenChars (w.tokens ++ [.mark n]) ++ cs' := by
    have happend := congrArg (fun s => s.toList ++ [')']) h
    simpa [tokenText, Token.chars, hcs, hcs'] using happend
  have heq : v = w := by
    rcases prefix_of_tokenChars_eq (htokens hv hm) (htokens hw hn) hchars with hbegin | hbegin
    · exact eq_of_tokens_begin hv hw hbegin
    · exact (eq_of_tokens_begin hw hv hbegin).symm
  subst heq
  exact ⟨rfl, (String.append_right_inj _).mp h⟩

/-- Values are written in full, and texts that go on after them agree just where the values are
the same but for the forms of their numbers and bytes, and go on in the same way. -/
theorem sql_append_inj (hv : v.IsConstant) (hw : w.IsConstant) :
    ∃ s t, v.sql .timeSeries = .ok s ∧ w.sql .timeSeries = .ok t ∧
      ∀ r r', IsContinuation r → IsContinuation r' →
        (s ++ r = t ++ r' ↔ v.canonical = w.canonical ∧ r = r') := by
  refine ⟨_, _, hv.sql_eq, hw.sql_eq, fun r r' hr hr' => ⟨fun h => ?_, ?_⟩⟩
  · exact tokenText_append_inj hv.isOperand_canonical hw.isOperand_canonical hr hr' h
  · rintro ⟨hcanonical, rfl⟩
    rw [hcanonical]

/-- The same list in two forms, with marks and a quote in its strings. -/
theorem sql_append_inj_two_forms :
    let v : Value := .list [.string "a', (", .bytes [0x27, 0xff], .list [.int 5]]
    let w : Value := .list [.string "a', (", .string "'\ufffd", .list [.uint 5]]
    let t := "('a'', (', '''\ufffd', (5))"
    let r := "), 'b"
    v.IsConstant ∧ w.IsConstant ∧ IsContinuation r ∧
      v.sql .timeSeries = .ok t ∧ w.sql .timeSeries = .ok t ∧ v.canonical = w.canonical := by
  intro v w t r
  have hsingle {n : Value} (hn : n.IsConstant) : (Value.list [n]).IsConstant :=
    .list (List.forall_mem_singleton.mpr hn)
  have hv : v.IsConstant := by
    refine .list ?_
    simp only [List.forall_mem_cons]
    exact ⟨.string _, .bytes _, hsingle (.int 5), List.forall_mem_nil _⟩
  have hw : w.IsConstant := by
    refine .list ?_
    simp only [List.forall_mem_cons]
    exact ⟨.string _, .string _, hsingle (.uint 5), List.forall_mem_nil _⟩
  have hr : IsContinuation r := by simp [IsContinuation, r]
  have ht : v.sql .timeSeries = .ok t := by decide +kernel
  have ht' : w.sql .timeSeries = .ok t := by decide +kernel
  obtain ⟨s, s', hs, hs', hsame⟩ := sql_append_inj hv hw
  obtain rfl : s = t := Except.ok.inj (hs.symm.trans ht)
  obtain rfl : s' = t := Except.ok.inj (hs'.symm.trans ht')
  exact ⟨hv, hw, hr, ht, ht', ((hsame r r hr hr).mp rfl).1⟩

end Value

end SeriesQuery
