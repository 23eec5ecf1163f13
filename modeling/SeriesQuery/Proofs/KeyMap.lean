import Mathlib.Data.List.Induction
import Mathlib.Data.List.Nodup
import Mathlib.Data.String.Basic
import SeriesQuery.KeyMap

/-! A map that was made by binding keys holds for each key what was bound to it last, and nothing
else plays a part. -/

namespace SeriesQuery.KeyMap

variable {α β : Type} {key k : String} {value v : α}
  {entries entries' bindings bindings' : List (String × α)}

/-- What was bound to the key last. -/
def last? (key : String) (bindings : List (String × α)) : Option α :=
  bindings.reverse.lookup key

theorem lookup_cons (key k : String) (v : α) (entries : List (String × α)) :
    ((k, v) :: entries).lookup key = if key = k then some v else entries.lookup key := by
  rw [List.lookup_cons]
  split_ifs with h
  · rw [beq_iff_eq.mpr h]
  · rw [beq_eq_false_iff_ne.mpr h]

theorem lookup_map (f : α → β) (key : String) (entries : List (String × α)) :
    (entries.map fun (k, v) => (k, f v)).lookup key = (entries.lookup key).map f := by
  induction entries with
  | nil => rfl
  | cons e entries ih =>
    obtain ⟨k, v⟩ := e
    rw [List.map_cons, lookup_cons, lookup_cons, ih]
    split_ifs <;> rfl

theorem last?_map (f : α → β) (key : String) (bindings : List (String × α)) :
    last? key (bindings.map fun (k, v) => (k, f v)) = (last? key bindings).map f := by
  rw [last?, ← List.map_reverse, lookup_map, last?]

theorem last?_append_singleton (key k : String) (v : α) (bindings : List (String × α)) :
    last? key (bindings ++ [(k, v)]) = if key = k then some v else last? key bindings := by
  rw [last?, List.reverse_append]
  exact lookup_cons key k v _

theorem sorted_cons {entry : String × α} :
    Sorted (entry :: entries) ↔ (∀ e ∈ entries, entry.1 < e.1) ∧ Sorted entries := by
  simp [Sorted]

theorem fst_of_mem_insert {entry : String × α} (h : entry ∈ insert key value entries) :
    entry.1 = key ∨ entry ∈ entries := by
  induction entries with
  | nil => exact .inl (by rw [List.mem_singleton.mp h])
  | cons e entries ih =>
    obtain ⟨k, v⟩ := e
    rw [insert] at h
    split_ifs at h <;> grind

/-- A key is put where it belongs, in place of the same key if it is there. -/
theorem sorted_insert (h : Sorted entries) : Sorted (insert key value entries) := by
  induction entries with
  | nil => simp [insert, Sorted]
  | cons e entries ih =>
    obtain ⟨k, v⟩ := e
    obtain ⟨hk, hentries⟩ := sorted_cons.mp h
    rw [insert]
    split_ifs with hlt heq
    · refine sorted_cons.mpr ⟨List.forall_mem_cons.mpr ⟨hlt, fun e he => ?_⟩, h⟩
      exact hlt.trans (hk e he)
    · exact sorted_cons.mpr ⟨fun e he => heq ▸ hk e he, hentries⟩
    · refine sorted_cons.mpr ⟨fun e he => ?_, ih hentries⟩
      rcases fst_of_mem_insert he with hkey | he
      · rw [hkey]
        exact lt_of_le_of_ne (not_lt.mp hlt) (Ne.symm heq)
      · exact hk e he

theorem lookup_insert :
    (insert key value entries).lookup k = if k = key then some value else entries.lookup k := by
  induction entries with
  | nil => exact lookup_cons k key value []
  | cons e entries ih =>
    obtain ⟨k', v'⟩ := e
    rw [insert]
    split_ifs <;> grind [lookup_cons]

theorem ofList_append_singleton (k : String) (v : α) (bindings : List (String × α)) :
    ofList (bindings ++ [(k, v)]) = insert k v (ofList bindings) := by
  rw [ofList, List.foldl_append]
  rfl

theorem sorted_ofList (bindings : List (String × α)) : Sorted (ofList bindings) := by
  induction bindings using List.reverseRecOn with
  | nil => exact .nil
  | append_singleton bindings b ih =>
    obtain ⟨k, v⟩ := b
    rw [ofList_append_singleton]
    exact sorted_insert ih

/-- A map finds for each key what was bound to it last. -/
theorem lookup_ofList (key : String) (bindings : List (String × α)) :
    (ofList bindings).lookup key = last? key bindings := by
  induction bindings using List.reverseRecOn with
  | nil => rfl
  | append_singleton bindings b ih =>
    obtain ⟨k, v⟩ := b
    rw [ofList_append_singleton, lookup_insert, last?_append_singleton, ih]

theorem mem_iff_lookup (h : Sorted entries) : (k, v) ∈ entries ↔ entries.lookup k = some v := by
  induction entries with
  | nil => simp
  | cons e entries ih =>
    obtain ⟨k', v'⟩ := e
    obtain ⟨hk', hentries⟩ := sorted_cons.mp h
    rw [lookup_cons, List.mem_cons, Prod.mk.injEq]
    split_ifs with heq
    · -- A key that comes first is not among the later ones.
      subst heq
      have hlater : (k, v) ∉ entries := fun hmem => (hk' _ hmem).false
      simp [hlater, eq_comm]
    · simp [heq, ih hentries]

/-- Nothing but the keys decides the order of the entries. -/
theorem eq_of_lookup_eq (h : Sorted entries) (h' : Sorted entries')
    (hlookup : ∀ key, entries.lookup key = entries'.lookup key) : entries = entries' := by
  have hnodup {es : List (String × α)} (hes : Sorted es) : es.Nodup :=
    (List.pairwise_map.mp hes).imp fun hlt heq => hlt.ne (congrArg Prod.fst heq)
  have hperm : entries.Perm entries' := by
    refine (List.perm_ext_iff_of_nodup (hnodup h) (hnodup h')).mpr fun e => ?_
    rw [mem_iff_lookup h, mem_iff_lookup h', hlookup]
  exact hperm.eq_of_pairwise (fun _ _ _ _ hlt hgt => absurd hlt hgt.asymm)
    (List.pairwise_map.mp h) (List.pairwise_map.mp h')

theorem mem_ofList : (k, v) ∈ ofList bindings ↔ last? k bindings = some v := by
  rw [mem_iff_lookup (sorted_ofList bindings), lookup_ofList]

theorem mem_of_mem_ofList {entry : String × α} (h : entry ∈ ofList bindings) :
    entry ∈ bindings := by
  obtain ⟨front, back, hsplit, -⟩ := List.lookup_eq_some_iff.mp (mem_ofList.mp h)
  rw [← List.mem_reverse, hsplit]
  exact List.mem_append_right _ List.mem_cons_self

/-- No key is lost. -/
theorem mem_keys_ofList :
    key ∈ (ofList bindings).map Prod.fst ↔ key ∈ bindings.map Prod.fst := by
  constructor
  · intro h
    obtain ⟨entry, hentry, rfl⟩ := List.mem_map.mp h
    exact List.mem_map_of_mem (mem_of_mem_ofList hentry)
  · intro h
    obtain ⟨entry, hentry, rfl⟩ := List.mem_map.mp h
    cases hlast : last? entry.1 bindings with
    | none =>
      have hnot := List.lookup_eq_none_iff.mp hlast entry (List.mem_reverse.mpr hentry)
      simp at hnot
    | some v => exact List.mem_map.mpr ⟨(entry.1, v), mem_ofList.mpr hlast, rfl⟩

theorem ofList_eq_nil_iff : ofList bindings = [] ↔ bindings = [] := by
  induction bindings using List.reverseRecOn with
  | nil => simp [ofList]
  | append_singleton bindings b =>
    obtain ⟨k, v⟩ := b
    have hlookup := lookup_ofList k (bindings ++ [(k, v)])
    rw [last?_append_singleton, if_pos rfl] at hlookup
    refine iff_of_false (fun h => ?_) (by simp)
    rw [h] at hlookup
    cases hlookup

/-- Bindings make up the same map when the last ones of each key agree, in whatever order they
came. -/
theorem ofList_eq_iff :
    ofList bindings = ofList bindings' ↔ ∀ key, last? key bindings = last? key bindings' := by
  refine ⟨fun h key => ?_, fun h => ?_⟩
  · rw [← lookup_ofList, h, lookup_ofList]
  · refine eq_of_lookup_eq (sorted_ofList bindings) (sorted_ofList bindings') fun key => ?_
    rw [lookup_ofList, lookup_ofList, h]

end SeriesQuery.KeyMap
