import SeriesQuery.Connection
import SeriesQuery.Proofs.JsonReading
import SeriesQuery.Proofs.KeyMap

/-! Settings of a connection in JSON. By keys or by places, what is written is read back, and what
is left out is as it is declared. -/

namespace SeriesQuery

namespace Json

/-- A number that fits is read as it is, whatever the message for others would be. -/
theorem asWord_int (expected : String) {n size : ℕ} (h : n < size) :
    asWord expected size (.int n) = .ok n := by
  rw [asWord, if_pos ⟨Int.natCast_nonneg n, Int.ofNat_lt.mpr h⟩, Int.toNat_natCast]

theorem asWord16_int (n : UInt16) : asWord16 (.int n.toNat) = .ok n := by
  rw [asWord16, asWord_int "u16" n.toNat_lt]
  exact congrArg Except.ok UInt16.ofNat_toNat

theorem asWord32_int (n : UInt32) : asWord32 (.int n.toNat) = .ok n := by
  rw [asWord32, asWord_int "u32" n.toNat_lt]
  exact congrArg Except.ok UInt32.ofNat_toNat

theorem asWord64_int (n : UInt64) : asWord64 (.int n.toNat) = .ok n := by
  rw [asWord64, asWord_int "u64" n.toNat_lt]
  exact congrArg Except.ok UInt64.ofNat_toNat

end Json

namespace Connection

variable {c d : Connection} {s : Setting} {entries : List (String × Json)} {k : ℕ}

/-! ## One setting -/

/-- Reading a setting takes over what was written and leaves the others. -/
theorem read_write (hs : s ∈ settings) (c d : Connection) : ∃ d', s.read (s.write c) d = .ok d' ∧
    ∀ t ∈ settings, t.write d' = if t.key = s.key then t.write c else t.write d := by
  simp only [settings, List.mem_cons, List.not_mem_nil, or_false] at hs
  rcases hs with rfl | rfl | rfl | rfl | rfl | rfl | rfl | rfl
  · exact ⟨{ d with host := c.host }, rfl, by simp [settings]⟩
  · refine ⟨{ d with port := c.port }, ?_, by simp [settings]⟩
    dsimp only
    rw [Json.asWord16_int]
    rfl
  · exact ⟨{ d with username := c.username }, rfl, by simp [settings]⟩
  · exact ⟨{ d with password := c.password }, rfl, by simp [settings]⟩
  · exact ⟨{ d with database := c.database }, rfl, by simp [settings]⟩
  · refine ⟨{ d with timeoutSeconds := c.timeoutSeconds }, ?_, by simp [settings]⟩
    dsimp only
    rw [Json.asWord64_int]
    rfl
  · refine ⟨{ d with rateLimit := c.rateLimit }, ?_, by simp [settings]⟩
    dsimp only
    rw [Json.asWord32_int]
    rfl
  · refine ⟨{ d with rateBurst := c.rateBurst }, ?_, by simp [settings]⟩
    dsimp only
    rw [Json.asWord32_int]
    rfl

/-- Nothing but what is written makes up the settings. -/
theorem eq_of_write_eq (h : ∀ s ∈ settings, s.write c = s.write d) : c = d := by
  obtain ⟨⟩ := c
  obtain ⟨⟩ := d
  simpa [settings, UInt16.toNat_inj, UInt32.toNat_inj, UInt64.toNat_inj] using h

/-! ## Fields by key -/

/-- The fields in the order in which they are written. -/
def fields (c : Connection) : List (String × Json) := settings.map fun s => (s.key, s.write c)

/-- Each entry with the key of a setting holds the setting. -/
def Holds (entries : List (String × Json)) (c : Connection) : Prop :=
  ∀ f ∈ entries, ∀ s ∈ settings, s.key = f.1 → f.2 = s.write c

/-- An entry sets its own field only, and none if its key is not that of a field. -/
theorem readField_of_holds {f : String × Json} (h : ∀ s ∈ settings, s.key = f.1 → f.2 = s.write c)
    (d : Connection) : ∃ d', readField d f = .ok d' ∧
      ∀ t ∈ settings, t.write d' = if t.key = f.1 then t.write c else t.write d := by
  cases hfind : settings.find? (·.key == f.1) with
  | none =>
    refine ⟨d, by rw [readField, hfind], fun t ht => ?_⟩
    have hne : t.key ≠ f.1 := by simpa using List.find?_eq_none.mp hfind t ht
    rw [if_neg hne]
  | some s =>
    have hs : s ∈ settings := List.mem_of_find?_eq_some hfind
    have hkey : s.key = f.1 := by simpa using List.find?_some hfind
    obtain ⟨d', hread, hwrite⟩ := read_write hs c d
    refine ⟨d', ?_, fun t ht => ?_⟩
    · rw [readField, hfind]
      dsimp only
      rw [h s hs hkey, hread]
    · rw [hwrite t ht, hkey]

/-- In whatever order they come, entries set what they are about and nothing else. -/
theorem foldlM_readField (h : Holds entries c) (d : Connection) :
    ∃ d', entries.foldlM readField d = .ok d' ∧ ∀ t ∈ settings,
      t.write d' = if t.key ∈ entries.map Prod.fst then t.write c else t.write d := by
  induction entries generalizing d with
  | nil => exact ⟨d, rfl, fun t _ => by simp⟩
  | cons f entries ih =>
    obtain ⟨hf, hentries⟩ := List.forall_mem_cons.mp h
    obtain ⟨d₁, hread, hwrite⟩ := readField_of_holds hf d
    obtain ⟨d₂, hrest, hwriteRest⟩ := ih hentries d₁
    refine ⟨d₂, ?_, fun t ht => ?_⟩
    · rw [List.foldlM_cons, hread]
      exact hrest
    · rw [hwriteRest t ht, hwrite t ht]
      have hmem : t.key ∈ (f :: entries).map Prod.fst ↔
          t.key = f.1 ∨ t.key ∈ entries.map Prod.fst := List.mem_cons
      by_cases hlater : t.key ∈ entries.map Prod.fst
      · rw [if_pos hlater, if_pos (hmem.mpr (.inr hlater))]
      · by_cases hkey : t.key = f.1
        · rw [if_neg hlater, if_pos hkey, if_pos (hmem.mpr (.inl hkey))]
        · rw [if_neg hlater, if_neg hkey, if_neg fun h => (hmem.mp h).elim hkey hlater]

/-! ## The first fields -/

/-- The settings up to the `k`-th, and the others as they are declared. -/
def upTo (c : Connection) (k : ℕ) : Connection where
  host := c.host
  port := if 1 < k then c.port else 6041
  username := if 2 < k then c.username else ""
  password := if 3 < k then c.password else ""
  database := if 4 < k then c.database else ""
  timeoutSeconds := if 5 < k then c.timeoutSeconds else 5
  rateLimit := if 6 < k then c.rateLimit else 150
  rateBurst := if 7 < k then c.rateBurst else 1

theorem key_mem_take (k : ℕ) (hk : k ≤ 8) (i : ℕ) (hi : i < settings.length) :
    settings[i].key ∈ (settings.take k).map (·.key) ↔ i < k := by
  revert i
  interval_cases k <;> decide

/-- Past the first settings the declared ones stand. -/
theorem write_upTo (hk : 1 ≤ k) (hk8 : k ≤ 8) (hs : s ∈ settings) : s.write (c.upTo k) =
    if s.key ∈ (settings.take k).map (·.key) then s.write c else s.write { host := "" } := by
  obtain ⟨i, hi, rfl⟩ := List.getElem_of_mem hs
  simp only [key_mem_take k hk8 i hi]
  have hi8 : i < 8 := hi
  interval_cases i
  · rw [if_pos (by omega)]
    rfl
  · exact apply_ite (fun n : UInt16 => Json.int n.toNat) _ _ _
  · exact apply_ite Json.string _ _ _
  · exact apply_ite Json.string _ _ _
  · exact apply_ite Json.string _ _ _
  · exact apply_ite (fun n : UInt64 => Json.int n.toNat) _ _ _
  · exact apply_ite (fun n : UInt32 => Json.int n.toNat) _ _ _
  · exact apply_ite (fun n : UInt32 => Json.int n.toNat) _ _ _

theorem upTo_eight (c : Connection) : c.upTo 8 = c := by
  simp [upTo]

/-- Of the settings, the first ones and no others are among the entries, as `c` has them. -/
structure HoldsFirst (entries : List (String × Json)) (c : Connection) (k : ℕ) : Prop where
  holds : Holds entries c
  keys : ∀ t ∈ settings, t.key ∈ entries.map Prod.fst ↔ t.key ∈ (settings.take k).map (·.key)

/-- Reading starts from the declared settings and takes over those that are held. -/
theorem HoldsFirst.foldlM (h : HoldsFirst entries c k) (hk : 1 ≤ k) (hk8 : k ≤ 8) :
    entries.foldlM readField { host := "" } = .ok (c.upTo k) := by
  obtain ⟨d, hread, hwrite⟩ := foldlM_readField h.holds { host := "" }
  have hd : d = c.upTo k := by
    refine eq_of_write_eq fun t ht => ?_
    rw [hwrite t ht, write_upTo hk hk8 ht]
    simp only [h.keys t ht]
  rw [hread, hd]

theorem HoldsFirst.ofFields (h : HoldsFirst entries c k) (hk : 1 ≤ k) (hk8 : k ≤ 8) :
    ofFields entries = .ok (c.upTo k) := by
  have hhost : entries.any (·.1 == "host") = true := by
    obtain ⟨f, hf, hkey⟩ := List.mem_map.mp ((h.keys settings[0] List.mem_cons_self).mpr
      ((key_mem_take k hk8 0 (by decide)).mpr hk))
    exact List.any_eq_true.mpr ⟨f, hf, beq_iff_eq.mpr hkey⟩
  rw [Connection.ofFields, h.foldlM hk hk8]
  simp [hhost]

/-- No two settings have the same key. -/
theorem keys_inj {s t : Setting} (hs : s ∈ settings) (ht : t ∈ settings) (h : s.key = t.key) :
    s = t := by
  have hnodup : (settings.map (·.key)).Nodup := by decide
  exact List.inj_on_of_nodup_map hnodup hs ht h

theorem mem_take_fields {f : String × Json} :
    f ∈ c.fields.take k ↔ ∃ s ∈ settings.take k, (s.key, s.write c) = f := by
  rw [fields, ← List.map_take, List.mem_map]

/-- Keys of no settings do not matter, nor does the order. -/
theorem holdsFirst_of_perm {others : List (String × Json)}
    (hothers : ∀ f ∈ others, f.1 ∉ settings.map (·.key))
    (h : entries.Perm (c.fields.take k ++ others)) : HoldsFirst entries c k where
  holds f hf s hs hkey := by
    rcases List.mem_append.mp (h.mem_iff.mp hf) with hf | hf
    · obtain ⟨t, ht, rfl⟩ := mem_take_fields.mp hf
      rw [keys_inj hs (List.mem_of_mem_take ht) hkey]
    · exact absurd (List.mem_map.mpr ⟨s, hs, hkey⟩) (hothers f hf)
  keys t ht := by
    have hkeys : (c.fields.take k).map Prod.fst = (settings.take k).map (·.key) := by
      rw [fields, ← List.map_take, List.map_map]
      rfl
    have hnot : t.key ∉ others.map Prod.fst := by
      intro hmem
      obtain ⟨f, hf, hkey⟩ := List.mem_map.mp hmem
      exact hothers f hf (hkey ▸ List.mem_map_of_mem ht)
    rw [(h.map Prod.fst).mem_iff, List.map_append, List.mem_append, hkeys, or_iff_left hnot]

theorem holdsFirst_take (c : Connection) (k : ℕ) : HoldsFirst (c.fields.take k) c k := by
  refine @holdsFirst_of_perm c _ k [] (by simp) ?_
  rw [List.append_nil]

/-! ## Text -/

theorem fits_word {n : ℕ} (h : n < UInt64.size) : (Json.int n).Fits :=
  .int _ ⟨by omega, Int.ofNat_lt.mpr h⟩

/-- Every setting is written as JSON that can be read, since its numbers are words. -/
theorem fits_write (hs : s ∈ settings) (c : Connection) : (s.write c).Fits := by
  simp only [settings, List.mem_cons, List.not_mem_nil, or_false] at hs
  rcases hs with rfl | rfl | rfl | rfl | rfl | rfl | rfl | rfl
  · exact .string _
  · exact fits_word (c.port.toNat_lt.trans (by decide))
  · exact .string _
  · exact .string _
  · exact .string _
  · exact fits_word c.timeoutSeconds.toNat_lt
  · exact fits_word (c.rateLimit.toNat_lt.trans (by decide))
  · exact fits_word (c.rateBurst.toNat_lt.trans (by decide))

theorem ordered_write (hs : s ∈ settings) (c : Connection) : (s.write c).ordered = s.write c := by
  simp only [settings, List.mem_cons, List.not_mem_nil, or_false] at hs
  rcases hs with rfl | rfl | rfl | rfl | rfl | rfl | rfl | rfl <;> rfl

/-- Reading text back keeps what the entries hold. -/
theorem HoldsFirst.ofList (h : HoldsFirst entries c k) :
    HoldsFirst (KeyMap.ofList (entries.map fun (key, value) => (key, value.ordered))) c k where
  holds f hf s hs hkey := by
    obtain ⟨e, he, rfl⟩ := List.mem_map.mp (KeyMap.mem_of_mem_ofList hf)
    have hvalue : e.2 = s.write c := h.holds e he s hs hkey
    exact (congrArg Json.ordered hvalue).trans (ordered_write hs c)
  keys t ht := by
    rw [KeyMap.mem_keys_ofList, List.map_map]
    exact h.keys t ht

theorem readField_write (hs : s ∈ settings) (c d : Connection) :
    readField d (s.key, s.write c) = s.read (s.write c) d := by
  simp only [settings, List.mem_cons, List.not_mem_nil, or_false] at hs
  rcases hs with rfl | rfl | rfl | rfl | rfl | rfl | rfl | rfl <;> rfl

theorem zip_take_map {α β : Type} (f : α → β) (as : List α) (k : ℕ) :
    as.zip ((as.take k).map f) = (as.take k).map fun a => (a, f a) := by
  induction as generalizing k with
  | nil => simp
  | cons a as ih =>
    cases k with
    | zero => rfl
    | succ k => rw [List.take_succ_cons, List.map_cons, List.map_cons, List.zip_cons_cons, ih]

/-- Settings are read alike by their places and by their keys. -/
theorem foldlM_read {ss : List Setting} (hss : ∀ s ∈ ss, s ∈ settings) (c d : Connection) :
    (ss.map fun s => (s, s.write c)).foldlM (fun d (s, j) => s.read j d) d =
      (ss.map fun s => (s.key, s.write c)).foldlM readField d := by
  induction ss generalizing d with
  | nil => rfl
  | cons s ss ih =>
    obtain ⟨hs, hss⟩ := List.forall_mem_cons.mp hss
    rw [List.map_cons, List.map_cons, List.foldlM_cons, List.foldlM_cons, readField_write hs]
    exact congrArg _ (funext fun d => ih hss d)

/-- An array that ends early leaves the last settings as they are declared. -/
theorem ofItems_take (c : Connection) (hk : 1 ≤ k) (hk8 : k ≤ 8) :
    ofItems ((c.fields.take k).map Prod.snd) = .ok (c.upTo k) := by
  have hfirst := holdsFirst_take c k
  have hitems : (c.fields.take k).map Prod.snd = (settings.take k).map (·.write c) := by
    rw [fields, ← List.map_take, List.map_map]
    rfl
  have hsettings : ∀ s ∈ settings.take k, s ∈ settings := fun s hs => List.mem_of_mem_take hs
  have hfold := hfirst.foldlM hk hk8
  rw [fields, ← List.map_take, ← foldlM_read hsettings, ← zip_take_map] at hfold
  have hne : ((settings.take k).map (·.write c)).isEmpty = false := by
    simp [settings]
    omega
  rw [hitems, ofItems, hne, hfold]
  simp

/-- The settings that a text holds, if it is JSON at all. -/
def decode? (text : String) : Option (Json.Decoded Connection) := (Json.read? text).map ofJson

/-- An object is read by its keys, so neither their order matters nor any other keys among them. -/
theorem HoldsFirst.decode?_object (h : HoldsFirst entries c k) (hk : 1 ≤ k) (hk8 : k ≤ 8)
    (hfits : (Json.object entries).Fits) :
    decode? (Json.object entries).compact = some (.ok (c.upTo k)) := by
  rw [decode?, Json.read?_compact hfits, Json.ordered, Json.orderedFields_eq_map, Option.map_some]
  exact congrArg some (h.ofList.ofFields hk hk8)

/-- The text of an array is read by places, with the missing ones as they are declared. -/
theorem decode?_array (c : Connection) (hk : 1 ≤ k) (hk8 : k ≤ 8) :
    decode? (Json.array ((c.fields.take k).map Prod.snd)).compact = some (.ok (c.upTo k)) := by
  have hwrite : ∀ j ∈ (c.fields.take k).map Prod.snd, ∃ s ∈ settings, s.write c = j := by
    intro j hj
    obtain ⟨f, hf, rfl⟩ := List.mem_map.mp hj
    obtain ⟨s, hs, rfl⟩ := mem_take_fields.mp hf
    exact ⟨s, List.mem_of_mem_take hs, rfl⟩
  have hfits : (Json.array ((c.fields.take k).map Prod.snd)).Fits := by
    refine .array _ fun j hj => ?_
    obtain ⟨s, hs, rfl⟩ := hwrite j hj
    exact fits_write hs c
  have hordered : ((c.fields.take k).map Prod.snd).map Json.ordered =
      (c.fields.take k).map Prod.snd := by
    refine (List.map_congr_left fun j hj => ?_).trans (List.map_id _)
    obtain ⟨s, hs, rfl⟩ := hwrite j hj
    exact ordered_write hs c
  rw [decode?, Json.read?_compact hfits, Json.ordered, Json.orderedItems_eq_map, hordered,
    Option.map_some]
  exact congrArg some (ofItems_take c hk hk8)

/-- Settings are read back from their compact text, by keys as by places. The first ones alone are
read with the others as they are declared, whatever the order of the keys and whatever other keys
there are beside them. -/
theorem decode?_by_fields (c : Connection) :
    decode? c.toJson.compact = some (.ok c) ∧
      decode? (Json.array (c.fields.map Prod.snd)).compact = some (.ok c) ∧
      ∀ k, 1 ≤ k → k ≤ 8 →
        decode? (Json.array ((c.fields.take k).map Prod.snd)).compact = some (.ok (c.upTo k)) ∧
        ∀ others entries : List (String × Json), (∀ f ∈ others, f.1 ∉ settings.map (·.key)) →
          entries.Perm (c.fields.take k ++ others) →
            ofJson (.object entries) = .ok (c.upTo k) ∧
              ((Json.object entries).Fits →
                decode? (Json.object entries).compact = some (.ok (c.upTo k))) := by
  refine ⟨?_, ?_, ?_⟩
  · have hfits : c.toJson.Fits := by
      refine .object _ fun f hf => ?_
      obtain ⟨s, hs, rfl⟩ := List.mem_map.mp hf
      exact fits_write hs c
    have hread := (holdsFirst_take c 8).decode?_object (by decide) le_rfl hfits
    rwa [upTo_eight] at hread
  · have hread := c.decode?_array (k := 8) (by decide) le_rfl
    rwa [upTo_eight] at hread
  · intro k hk hk8
    refine ⟨c.decode?_array hk hk8, fun others entries hothers hperm => ?_⟩
    have hfirst := holdsFirst_of_perm hothers hperm
    exact ⟨hfirst.ofFields hk hk8, fun hfits => hfirst.decode?_object hk hk8 hfits⟩

/-- Two settings behind a key that is none of theirs. -/
theorem decode?_by_fields_other_key :
    let c : Connection := { host := "http://tsdb", port := 6030 }
    let entries : List (String × Json) :=
      [("zone", .array [.null, .int (-3)]), ("host", .string "http://tsdb"), ("port", .int 6030)]
    (Json.object entries).Fits ∧ c.upTo 2 = c ∧
      decode? (Json.object entries).compact = some (.ok c) := by
  intro c entries
  have hfits : (Json.object entries).Fits := by
    refine .object _ fun f hf => ?_
    simp only [entries, List.mem_cons, List.not_mem_nil, or_false] at hf
    rcases hf with rfl | rfl | rfl
    · refine .array _ fun j hj => ?_
      simp only [List.mem_cons, List.not_mem_nil, or_false] at hj
      rcases hj with rfl | rfl
      · exact .null
      · exact .int _ ⟨by decide, by decide⟩
    · exact .string _
    · exact .int _ ⟨by decide, by decide⟩
  have hothers : ∀ f ∈ [("zone", Json.array [.null, .int (-3)])],
      f.1 ∉ settings.map (·.key) := by simp [settings]
  have hentries : entries = [("zone", .array [.null, .int (-3)])] ++ c.fields.take 2 := rfl
  obtain ⟨-, -, hfirst⟩ := decode?_by_fields c
  obtain ⟨-, hobject⟩ := hfirst 2 (by decide) (by decide)
  obtain ⟨-, hread⟩ := hobject _ entries hothers (hentries ▸ List.perm_append_comm)
  exact ⟨hfits, rfl, hread hfits⟩

end Connection

end SeriesQuery
