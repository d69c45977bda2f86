/-!
# Keyed entries

Named values are kept as a list of pairs in the order of their keys, each key
once.  `Fields.put` keeps that order; the last value put under a key is the one
that `Fields.get?` finds.
-/

namespace MessageTemplate

/-- Values under text keys. -/
abbrev Fields (α : Type) := List (String × α)

namespace Fields

variable {α β : Type}

/-- The value under a key. -/
def get? (fields : Fields α) (key : String) : Option α :=
  List.lookup key fields

/-- Puts a value under a key, in place of the one that was there. -/
def put : Fields α → String → α → Fields α
  | [], key, value => [(key, value)]
  | (k, v) :: rest, key, value =>
    if key = k then (key, value) :: rest
    else if key < k then (key, value) :: (k, v) :: rest
    else (k, v) :: put rest key value

/-- The entries of a list of pairs; the last of several pairs with one key
counts. -/
def ofPairs (pairs : List (String × α)) : Fields α :=
  pairs.foldl (fun fields pair => put fields pair.1 pair.2) []

@[simp] theorem get?_nil (key : String) : get? ([] : Fields α) key = none := rfl

theorem get?_cons (k : String) (v : α) (rest : Fields α) (key : String) :
    get? ((k, v) :: rest) key = if key = k then some v else get? rest key := by
  by_cases h : key = k
  · simp [get?, h]
  · have hk : (key == k) = false := by simp [h]
    simp [get?, List.lookup_cons, h, hk]

/-- Looking up a key finds the image of what is found among the pairs themselves. -/
theorem lookup_map (f : α → β) (pairs : List (String × α)) (key : String) :
    (pairs.map fun pair => (pair.1, f pair.2)).lookup key = (pairs.lookup key).map f := by
  induction pairs with
  | nil => rfl
  | cons pair rest ih =>
    obtain ⟨k, v⟩ := pair
    rw [List.map_cons, List.lookup_cons, List.lookup_cons, ih]
    cases key == k <;> rfl

/-- The value just put is found, and no other key is touched. -/
theorem get?_put (fields : Fields α) (key : String) (value : α) (other : String) :
    get? (put fields key value) other = if other = key then some value else get? fields other := by
  induction fields with
  | nil => simp [put, get?_cons]
  | cons entry rest ih =>
    obtain ⟨k, v⟩ := entry
    rw [put]
    split
    · next h => subst h; simp only [get?_cons]; split <;> rfl
    · next h =>
      split
      · simp only [get?_cons]
      · simp only [get?_cons, ih]
        by_cases h' : other = k
        · have : other ≠ key := fun e => h (e.symm.trans h')
          simp [h', Ne.symm h]
        · simp [h']

/-- Of pairs that are put one after the other, the last one with a key counts. -/
theorem get?_foldl_put (pairs : List (String × α)) (fields : Fields α) (key : String) :
    get? (pairs.foldl (fun fields pair => put fields pair.1 pair.2) fields) key =
      (List.lookup key pairs.reverse).or (get? fields key) := by
  induction pairs generalizing fields with
  | nil => rfl
  | cons pair rest ih =>
    obtain ⟨k, v⟩ := pair
    have hpair : List.lookup key [(k, v)] = if key = k then some v else none :=
      get?_cons k v [] key
    rw [List.foldl_cons, ih, get?_put, List.reverse_cons, List.lookup_append, Option.or_assoc,
      hpair]
    split <;> rfl

theorem get?_ofPairs (pairs : List (String × α)) (key : String) :
    get? (ofPairs pairs) key = List.lookup key pairs.reverse := by
  rw [ofPairs, get?_foldl_put, get?_nil, Option.or_none]

end Fields

end MessageTemplate
