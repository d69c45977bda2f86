import MessageTemplate.Text.Blank

/-!
# Runs of one class of characters

A reader takes the longest run of characters of a class and goes on behind it.
`Only` says that a text is such a run, and `Stops` that a text cannot continue
one.  A run in front of a text that stops it is found again, whatever the class.

The last section says the same for trimming: a text is its trimmed part and the
white space behind it, in one way only.
-/

namespace MessageTemplate.Text

/-- Every character is in the class. -/
def Only (p : Char → Bool) (s : List Char) : Prop :=
  ∀ c ∈ s, p c = true

/-- The text does not begin with a character of the class. -/
def Stops (p : Char → Bool) (s : List Char) : Prop :=
  ∀ c ∈ s.head?, p c = false

-- The instances are named: a search may find the one that tries every character.
instance (p : Char → Bool) (s : List Char) : Decidable (Only p s) :=
  List.decidableBAll (fun c => p c = true) s

instance (p : Char → Bool) (s : List Char) : Decidable (Stops p s) :=
  Option.decidableForallMem s.head?

variable {p q : Char → Bool} {c : Char} {s t : List Char}

/-! ## Building runs -/

@[simp] theorem only_nil : Only p [] := by
  simp [Only]

@[simp] theorem only_cons : Only p (c :: s) ↔ p c = true ∧ Only p s := by
  simp [Only]

@[simp] theorem only_append : Only p (s ++ t) ↔ Only p s ∧ Only p t := by
  simp [Only, or_imp, forall_and]

@[simp] theorem only_reverse : Only p s.reverse ↔ Only p s := by
  simp [Only]

/-- A run of a class is a run of every larger class. -/
theorem Only.mono (hpq : ∀ c, p c = true → q c = true) (h : Only p s) : Only q s :=
  fun c hc => hpq c (h c hc)

/-- A run of a class has none of the other characters. -/
theorem Only.not_mem (h : Only p s) (hc : p c = false) : c ∉ s := by
  intro hmem
  rw [h c hmem] at hc
  contradiction

/-- A run of a class does not begin with another character, whatever stands behind it. -/
theorem Only.head?_append (h : Only p s) (hs : s ≠ []) (hc : p c = false) (t : List Char) :
    ((s ++ t).head? == some c) = false := by
  cases s with
  | nil => exact absurd rfl hs
  | cons d s =>
    refine beq_eq_false_iff_ne.mpr fun heq => ?_
    obtain rfl : d = c := Option.some.inj heq
    rw [h d List.mem_cons_self] at hc
    contradiction

/-- A text without a character is a run of the others. -/
theorem only_of_not_mem (h : c ∉ s) : Only (· != c) s :=
  fun _ hmem => bne_iff_ne.mpr fun heq => h (heq ▸ hmem)

theorem only_toDigits (n : Nat) : Only Char.isDigit (Nat.toDigits 10 n) :=
  fun _ hc => Nat.isDigit_of_mem_toDigits (by decide) (by decide) hc

theorem only_takeWhile : Only p (s.takeWhile p) :=
  fun _ hc => List.all_eq_true.mp List.all_takeWhile _ hc

@[simp] theorem stops_nil : Stops p [] := by
  simp [Stops]

@[simp] theorem stops_cons : Stops p (c :: s) ↔ p c = false := by
  simp [Stops]

theorem stops_dropWhile : Stops p (s.dropWhile p) := by
  intro c hc
  have hnot := List.head?_dropWhile_not p s
  rw [Option.mem_def.mp hc] at hnot
  simpa using hnot

/-- The first character decides, so what follows a text that stops a run may be
anything unless the text is empty. -/
theorem Stops.append (hs : Stops p s) (ht : s = [] → Stops p t) : Stops p (s ++ t) := by
  cases s with
  | nil => exact ht rfl
  | cons c s => simpa using hs

theorem Stops.left (h : Stops p (s ++ t)) : Stops p s := by
  cases s with
  | nil => exact stops_nil
  | cons c s => simpa using h

/-- What stops a run of a class stops a run of every smaller class. -/
theorem Stops.mono (hpq : ∀ c, p c = true → q c = true) (h : Stops q s) : Stops p s := by
  intro c hc
  have hq := h c hc
  cases hp : p c with
  | false => rfl
  | true => exact absurd (hpq c hp) (by simp [hq])

/-- A run of one class stops a run of a class that has no character with it in
common. -/
theorem Only.stops (h : Only q s) (hqp : ∀ c, q c = true → p c = false) : Stops p s :=
  fun c hc => hqp c (h c (List.mem_of_mem_head? hc))

/-! ## Finding runs -/

/-- A run in front of a text that stops it is taken as a whole. -/
theorem takeWhile_append_of_stops (hs : Only p s) (ht : Stops p t) :
    (s ++ t).takeWhile p = s := by
  rw [List.takeWhile_append_of_pos hs]
  cases t with
  | nil => simp
  | cons c t => simp [stops_cons.mp ht]

/-- Behind a run in front of a text that stops it, that text is left. -/
theorem dropWhile_append_of_stops (hs : Only p s) (ht : Stops p t) :
    (s ++ t).dropWhile p = t := by
  rw [List.dropWhile_append_of_pos hs]
  cases t with
  | nil => simp
  | cons c t => simp [stops_cons.mp ht]

theorem takeWhile_of_only (h : Only p s) : s.takeWhile p = s := by
  simpa only [List.append_nil] using takeWhile_append_of_stops h stops_nil

theorem dropWhile_of_only (h : Only p s) : s.dropWhile p = [] := by
  simpa only [List.append_nil] using dropWhile_append_of_stops h stops_nil

/-- The first such character ends the text in front of it, whatever stands behind. -/
theorem takeWhile_ne_append (h : c ∉ s) (t : List Char) :
    (s ++ c :: t).takeWhile (· != c) = s :=
  takeWhile_append_of_stops (only_of_not_mem h) (by simp)

theorem dropWhile_ne_append (h : c ∉ s) (t : List Char) :
    (s ++ c :: t).dropWhile (· != c) = c :: t :=
  dropWhile_append_of_stops (only_of_not_mem h) (by simp)

theorem takeWhile_of_stops (h : Stops p s) : s.takeWhile p = [] :=
  takeWhile_append_of_stops (s := []) only_nil h

theorem dropWhile_of_stops (h : Stops p s) : s.dropWhile p = s :=
  dropWhile_append_of_stops (s := []) only_nil h

/-- A text that begins with no run stops one. -/
theorem stops_of_takeWhile_isEmpty (h : (s.takeWhile p).isEmpty = true) : Stops p s := by
  cases s with
  | nil => exact stops_nil
  | cons c s =>
    cases hc : p c with
    | false => exact stops_cons.mpr hc
    | true => simp [hc] at h

/-! ## Runs that end inside a text

A run is not changed by text behind it when something stops it before the end. -/

/-- The run with what stops it, and the text behind. -/
theorem append_eq_run_append (p : Char → Bool) (s t : List Char) :
    s ++ t = s.takeWhile p ++ (s.dropWhile p ++ t) := by
  rw [← List.append_assoc, List.takeWhile_append_dropWhile]

theorem takeWhile_append_of_ne_nil (h : s.dropWhile p ≠ []) :
    (s ++ t).takeWhile p = s.takeWhile p := by
  have hstop : Stops p (s.dropWhile p ++ t) := stops_dropWhile.append fun hnil => absurd hnil h
  rw [append_eq_run_append p s t]
  exact takeWhile_append_of_stops only_takeWhile hstop

theorem dropWhile_append_of_ne_nil (h : s.dropWhile p ≠ []) :
    (s ++ t).dropWhile p = s.dropWhile p ++ t := by
  have hstop : Stops p (s.dropWhile p ++ t) := stops_dropWhile.append fun hnil => absurd hnil h
  rw [append_eq_run_append p s t]
  exact dropWhile_append_of_stops only_takeWhile hstop

theorem ne_nil_of_dropWhile (h : s.dropWhile p ≠ []) : s ≠ [] := by
  rintro rfl
  exact h rfl

/-- Text behind a run can only lengthen it. -/
theorem exists_takeWhile_append_eq (p : Char → Bool) (s t : List Char) :
    ∃ m, (s ++ t).takeWhile p = s.takeWhile p ++ m := by
  by_cases h : s.dropWhile p = []
  · have hs : s.takeWhile p = s := by
      have hsplit := List.takeWhile_append_dropWhile (p := p) (l := s)
      rwa [h, List.append_nil] at hsplit
    have honly : Only p s := by
      rw [← hs]
      exact only_takeWhile
    exact ⟨t.takeWhile p, by rw [List.takeWhile_append_of_pos honly, hs]⟩
  · exact ⟨[], by rw [takeWhile_append_of_ne_nil h, List.append_nil]⟩

/-! ## Trimming -/

/-- The text does not end with white space. -/
def Trimmed (s : List Char) : Prop :=
  Stops isBlank s.reverse

instance (s : List Char) : Decidable (Trimmed s) :=
  inferInstanceAs (Decidable (Stops isBlank s.reverse))

/-- White space behind a trimmed text is dropped. -/
theorem trimEnd_append (hs : Trimmed s) (ht : Only isBlank t) : trimEnd (s ++ t) = s := by
  rw [trimEnd, List.reverse_append, dropWhile_append_of_stops (only_reverse.mpr ht) hs,
    List.reverse_reverse]

theorem trimmed_trimEnd : Trimmed (trimEnd s) := by
  rw [Trimmed, trimEnd, List.reverse_reverse]
  exact stops_dropWhile

theorem isBlank_of_isDigit (h : c.isDigit = true) : isBlank c = false := by
  have hc : 48 ≤ c.toNat ∧ c.toNat ≤ 57 := by
    rw [Char.isDigit, Bool.and_eq_true, decide_eq_true_eq, decide_eq_true_eq] at h
    exact h
  simp only [isBlank, Bool.or_eq_false_iff, Bool.and_eq_false_iff, decide_eq_false_iff_not,
    beq_eq_false_iff_ne]
  omega

/-- Digits are no white space. -/
theorem Only.not_isBlank (h : Only Char.isDigit s) : Only (!isBlank ·) s :=
  h.mono fun c hc => by rw [isBlank_of_isDigit hc, Bool.not_false]

/-- A text without white space is trimmed as it is. -/
theorem trim_of_only (h : Only (!isBlank ·) s) : trim s = s := by
  have hfree : ∀ c, (!isBlank c) = true → isBlank c = false := fun c hc => by simpa using hc
  have hend : Trimmed s := (only_reverse.mpr h).stops hfree
  rw [trim, dropWhile_of_stops (h.stops hfree)]
  simpa using trimEnd_append hend only_nil

/-- A text is its trimmed part with white space behind it. -/
theorem exists_eq_trimEnd_append (s : List Char) : ∃ u, Only isBlank u ∧ s = trimEnd s ++ u := by
  refine ⟨(s.reverse.takeWhile isBlank).reverse, only_reverse.mpr only_takeWhile, ?_⟩
  rw [trimEnd, ← List.reverse_append, List.takeWhile_append_dropWhile, List.reverse_reverse]

end MessageTemplate.Text
