import Mathlib.Data.List.Forall2

/-! Lists related item by item, and functions on lists that go item by item. -/

namespace SeriesQuery

variable {α β γ : Type} {R : α → β → Prop} {as : List α} {bs : List β}

theorem exists_mem_of_forall₂ (h : List.Forall₂ R as bs) : ∀ b ∈ bs, ∃ a ∈ as, R a b := by
  induction h with
  | nil => exact List.forall_mem_nil _
  | cons hab _ ih =>
    refine List.forall_mem_cons.mpr ⟨⟨_, List.mem_cons_self, hab⟩, fun b hb => ?_⟩
    obtain ⟨a, ha, hab⟩ := ih b hb
    exact ⟨a, List.mem_cons_of_mem _ ha, hab⟩

theorem forall₂_map_of_forall {f : γ → α} {g : γ → β} {cs : List γ}
    (h : ∀ c ∈ cs, R (f c) (g c)) : List.Forall₂ R (cs.map f) (cs.map g) := by
  rw [List.forall₂_map_left_iff, List.forall₂_map_right_iff]
  exact List.forall₂_same.mpr h

theorem forall₂_intersperse {a : α} {b : β} (hab : R a b) (h : List.Forall₂ R as bs) :
    List.Forall₂ R (as.intersperse a) (bs.intersperse b) := by
  induction h with
  | nil => exact .nil
  | cons h hs ih =>
    cases hs with
    | nil => exact .cons h .nil
    | cons => exact .cons h (.cons hab ih)

theorem eq_or_mem_of_mem_intersperse {a x : α} (h : x ∈ as.intersperse a) : x = a ∨ x ∈ as := by
  induction as with
  | nil => exact .inr h
  | cons b as ih =>
    cases as with
    | nil => exact .inr h
    | cons b' as =>
      rw [List.intersperse_cons_cons, List.mem_cons, List.mem_cons] at h
      grind

/-- The last item of a kind parts a list in one way only. -/
theorem append_cons_inj_of_last {p : α → Prop} {as as' rest rest' : List α} {a a' : α} (ha : p a)
    (ha' : p a') (hrest : ∀ x ∈ rest, ¬ p x) (hrest' : ∀ x ∈ rest', ¬ p x)
    (h : as ++ a :: rest = as' ++ a' :: rest') : as = as' ∧ a = a' ∧ rest = rest' := by
  have hnot {mid rest rest' : List α} {a a' : α} (ha' : p a') (hrest : ∀ x ∈ rest, ¬ p x)
      (h : a :: rest = mid ++ a' :: rest') : mid = [] := by
    cases mid with
    | nil => rfl
    | cons x mid =>
      obtain ⟨-, htail⟩ := List.cons.inj h
      have hmem : a' ∈ rest := htail ▸ List.mem_append_right mid List.mem_cons_self
      exact absurd ha' (hrest a' hmem)
  rcases List.append_eq_append_iff.mp h with ⟨mid, rfl, hmid⟩ | ⟨mid, rfl, hmid⟩
  · obtain rfl := hnot ha' hrest hmid
    obtain ⟨rfl, rfl⟩ := List.cons.inj hmid
    exact ⟨(List.append_nil _).symm, rfl, rfl⟩
  · obtain rfl := hnot ha hrest' hmid
    obtain ⟨rfl, rfl⟩ := List.cons.inj hmid
    exact ⟨List.append_nil _, rfl, rfl⟩

theorem eq_map_of_cons {f : α → β} {g : List α → List β} (hnil : g [] = [])
    (hcons : ∀ a as, g (a :: as) = f a :: g as) (as : List α) : g as = as.map f := by
  induction as with
  | nil => exact hnil
  | cons a as ih => rw [hcons, ih, List.map_cons]

theorem eq_flatMap_of_cons {f : α → List β} {g : List α → List β} (hnil : g [] = [])
    (hcons : ∀ a as, g (a :: as) = f a ++ g as) (as : List α) : g as = as.flatMap f := by
  induction as with
  | nil => exact hnil
  | cons a as ih => rw [hcons, ih, List.flatMap_cons]

theorem flatMap_map_of_forall {f : α → α} {k : α → List β} {h : β → β}
    (hk : ∀ a ∈ as, k (f a) = (k a).map h) : (as.map f).flatMap k = (as.flatMap k).map h := by
  rw [List.flatMap_map, List.map_flatMap]
  exact List.flatMap_congr hk

theorem eq_isEqv_of_cons {r : α → α → Bool} {f : List α → List α → Bool}
    (h : f [] [] ∧ (∀ b bs, f [] (b :: bs) = false) ∧ (∀ a as, f (a :: as) [] = false) ∧
      ∀ a as b bs, f (a :: as) (b :: bs) = (r a b && f as bs))
    (as bs : List α) : f as bs = as.isEqv bs r := by
  obtain ⟨hnil, hshort, hlong, hcons⟩ := h
  induction as generalizing bs with
  | nil =>
    cases bs with
    | nil => exact hnil
    | cons b bs => exact hshort b bs
  | cons a as ih =>
    cases bs with
    | nil => exact hlong a as
    | cons b bs => rw [hcons, ih, List.isEqv]

end SeriesQuery
