import MessageTemplate.Text.Position

/-!
# Slices of a text

A text is cut at an offset in bytes, and only where a character ends: an offset inside a
character or behind the end of the text cuts nothing.  So a cut is possible exactly where the
text is made of a text in front, with that many bytes, and a text behind.
-/

namespace MessageTemplate.Text

/-- The text in front of an offset in bytes, and the text behind it. -/
def cut? : List Char → Nat → Option (List Char × List Char)
  | s, 0 => some ([], s)
  | [], _ + 1 => none
  | c :: s, n + 1 =>
    if n + 1 < c.utf8Size then none
    else (cut? s (n + 1 - c.utf8Size)).map fun (front, rest) => (c :: front, rest)

variable {s front rest : List Char} {n : Nat}

@[simp] theorem cut?_zero : cut? s 0 = some ([], s) := by
  cases s <;> rfl

/-- A text is cut between any two parts of it. -/
theorem cut?_append (s t : List Char) : cut? (s ++ t) (byteLength s) = some (s, t) := by
  induction s with
  | nil => exact cut?_zero
  | cons c s ih =>
    have hpos := c.utf8Size_pos
    obtain ⟨n, hn⟩ := Nat.exists_eq_succ_of_ne_zero (n := byteLength (c :: s))
      (by rw [byteLength_cons]; omega)
    have hfits : ¬n + 1 < c.utf8Size := by
      rw [byteLength_cons] at hn
      omega
    have hrest : n + 1 - c.utf8Size = byteLength s := by
      rw [byteLength_cons] at hn
      omega
    rw [hn, List.cons_append, cut?, if_neg hfits, hrest, ih]
    rfl

/-- What a cut leaves are two parts of the text, and the first has the bytes in front. -/
theorem eq_of_cut? (h : cut? s n = some (front, rest)) :
    s = front ++ rest ∧ byteLength front = n := by
  induction s generalizing n front with
  | nil =>
    cases n with
    | zero =>
      obtain ⟨rfl, rfl⟩ := by simpa using h
      exact ⟨rfl, rfl⟩
    | succ n => contradiction
  | cons c s ih =>
    cases n with
    | zero =>
      obtain ⟨rfl, rfl⟩ := by simpa using h
      exact ⟨rfl, rfl⟩
    | succ n =>
      rw [cut?] at h
      split at h
      · contradiction
      · next hfits =>
        obtain ⟨⟨front', rest'⟩, hcut, hpair⟩ := Option.map_eq_some_iff.mp h
        obtain ⟨rfl, rfl⟩ := Prod.mk.inj hpair
        obtain ⟨rfl, hlength⟩ := ih hcut
        refine ⟨rfl, ?_⟩
        rw [byteLength_cons]
        omega

/-- Behind the end of a text nothing is cut. -/
theorem cut?_eq_none (h : byteLength s < n) : cut? s n = none := by
  cases hcut : cut? s n with
  | none => rfl
  | some parts =>
    obtain ⟨hs, hlength⟩ := eq_of_cut? hcut
    rw [hs, byteLength_append] at h
    omega

end MessageTemplate.Text
