import SeriesQuery.Text.Utf8

/-! The beginning of a text that fits in a number of bytes: no longer one does. -/

namespace SeriesQuery.Text

variable {limit : Nat} {s t : String} {cs ds : List Char}

/-- How many bytes characters take up. -/
def byteLength : List Char → Nat
  | [] => 0
  | c :: cs => c.utf8Size + byteLength cs

@[simp] theorem byteLength_nil : byteLength [] = 0 := rfl

@[simp] theorem byteLength_cons (c : Char) : byteLength (c :: cs) = c.utf8Size + byteLength cs := rfl

@[simp] theorem byteLength_append : byteLength (cs ++ ds) = byteLength cs + byteLength ds := by
  induction cs with
  | nil => simp
  | cons c cs ih => simp [ih, Nat.add_assoc]

theorem byteLength_toList (s : String) : byteLength s.toList = s.utf8ByteSize := by
  have hof (cs : List Char) : (String.ofList cs).utf8ByteSize = byteLength cs := by
    induction cs with
    | nil => rfl
    | cons c cs ih =>
      rw [String.ofList_cons, String.utf8ByteSize_append, String.utf8ByteSize_singleton, ih,
        byteLength_cons]
  rw [← hof, String.ofList_toList]

theorem takeBytes_prefix (limit : Nat) (cs : List Char) : takeBytes limit cs <+: cs := by
  induction cs generalizing limit with
  | nil => exact List.prefix_refl []
  | cons c cs ih =>
    rw [takeBytes]
    split
    · exact (List.prefix_cons_inj c).mpr (ih _)
    · exact List.nil_prefix

theorem byteLength_takeBytes_le (limit : Nat) (cs : List Char) :
    byteLength (takeBytes limit cs) ≤ limit := by
  induction cs generalizing limit with
  | nil => exact Nat.zero_le _
  | cons c cs ih =>
    rw [takeBytes]
    split
    · have hrest := ih (limit - c.utf8Size)
      rw [byteLength_cons]
      omega
    · exact Nat.zero_le _

/-- Every beginning that fits is one of what is taken. -/
theorem prefix_takeBytes (h : ds <+: cs) (hfit : byteLength ds ≤ limit) :
    ds <+: takeBytes limit cs := by
  induction cs generalizing ds limit with
  | nil => exact h
  | cons c cs ih =>
    cases ds with
    | nil => exact List.nil_prefix
    | cons d ds =>
      obtain ⟨rfl, hds⟩ := List.cons_prefix_cons.mp h
      rw [byteLength_cons] at hfit
      have hc : d.utf8Size ≤ limit := by omega
      rw [takeBytes, if_pos hc]
      exact (List.prefix_cons_inj d).mpr (ih hds (by omega))

/-- The text begins with the shorter one, which fits in so many bytes, and with no longer one that
does. -/
structure IsLongestFitting (limit : Nat) (s t : String) : Prop where
  beginning : ∃ rest, s = t ++ rest
  fits : t.utf8ByteSize ≤ limit
  longest : ∀ t' rest, s = t' ++ rest → t'.utf8ByteSize ≤ limit → t'.utf8ByteSize ≤ t.utf8ByteSize

/-- Characters are kept as long as they fit, so none could be added to them. -/
theorem isLongestFitting_truncate (limit : Nat) (s : String) :
    IsLongestFitting limit s (truncate limit s) := by
  have hchars : (truncate limit s).toList = takeBytes limit s.toList := String.toList_ofList
  refine ⟨?_, ?_, fun t' rest heq hfit => ?_⟩
  · obtain ⟨rest, hrest⟩ := takeBytes_prefix limit s.toList
    refine ⟨String.ofList rest, String.toList_inj.mp ?_⟩
    rw [String.toList_append, hchars, String.toList_ofList, hrest]
  · rw [← byteLength_toList, hchars]
    exact byteLength_takeBytes_le limit s.toList
  · have hbegin : t'.toList <+: s.toList := ⟨rest.toList, by rw [heq, String.toList_append]⟩
    have hfits : byteLength t'.toList ≤ limit := (byteLength_toList t').symm ▸ hfit
    obtain ⟨more, hmore⟩ := prefix_takeBytes hbegin hfits
    rw [← byteLength_toList, ← byteLength_toList (truncate limit s), hchars, ← hmore,
      byteLength_append]
    exact Nat.le_add_right _ _

end SeriesQuery.Text
