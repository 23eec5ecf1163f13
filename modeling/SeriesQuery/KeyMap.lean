/-!
Association lists in ascending order of their keys, with one entry a key. Text is ordered by
code points.
-/

namespace SeriesQuery.KeyMap

variable {α : Type}

/-- Binds `key`, in place of what it was bound to. -/
def insert (key : String) (value : α) : List (String × α) → List (String × α)
  | [] => [(key, value)]
  | (k, v) :: rest =>
    if key < k then (key, value) :: (k, v) :: rest
    else if key = k then (key, value) :: rest
    else (k, v) :: insert key value rest

/-- The bindings made one after the other, so that the last one of a key stays. -/
def ofList (bindings : List (String × α)) : List (String × α) :=
  bindings.foldl (fun entries (key, value) => insert key value entries) []

/-- Keys strictly ascending. -/
def Sorted (entries : List (String × α)) : Prop :=
  (entries.map Prod.fst).Pairwise (· < ·)

end SeriesQuery.KeyMap
