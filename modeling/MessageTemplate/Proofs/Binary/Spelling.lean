import Mathlib.Tactic.SplitIfs
import MessageTemplate.Binary.Decimal
import MessageTemplate.Proofs.Text.Digits

/-!
# The grammar of numbers

`Spells` says which texts spell a number and which number: a word for what is infinite
or not a number, or digits around a point with a power of ten behind them, each after
an optional sign.  The reader accepts exactly these texts, with these numbers, which is
`read?_eq_some`.  How a decimal is rounded is left open here.
-/

namespace MessageTemplate.Binary

open Text

variable {F : Format} {negative : Bool} {x : Binary F} {c : Char} {s t : List Char} {e : Int}

/-! ## Grammar -/

/-- The text behind the digits of a number, and the power of ten that it stands for. -/
inductive SpellsExponent : List Char → Int → Prop where
  | none : SpellsExponent [] 0
  | power {c : Char} {s digits : List Char} {negative : Bool} (hc : c = 'e' ∨ c = 'E')
      (hs : SignedDigits s negative digits) :
      SpellsExponent (c :: s)
        (if negative then -(exponentValue digits : Int) else exponentValue digits)

/-- The text of a number without its sign. -/
inductive SpellsMagnitude (F : Format) (negative : Bool) : List Char → Binary F → Prop where
  | infinite {s : List Char}
      (hword : s.map Char.toLower = ['i', 'n', 'f'] ∨
        s.map Char.toLower = ['i', 'n', 'f', 'i', 'n', 'i', 't', 'y']) :
      SpellsMagnitude F negative s (.infinite negative)
  | nan {s : List Char} (hword : s.map Char.toLower = ['n', 'a', 'n']) :
      SpellsMagnitude F negative s .nan
  | whole {whole rest : List Char} {e : Int} (hne : whole ≠ []) (hwhole : Only Char.isDigit whole)
      (hrest : SpellsExponent rest e) :
      SpellsMagnitude F negative (whole ++ rest)
        (ofDecimal F negative (Nat.ofDigitChars 10 whole 0) e)
  | point {whole fraction rest : List Char} {e : Int} (hne : whole ++ fraction ≠ [])
      (hwhole : Only Char.isDigit whole) (hfraction : Only Char.isDigit fraction)
      (hrest : SpellsExponent rest e) :
      SpellsMagnitude F negative (whole ++ '.' :: (fraction ++ rest))
        (ofDecimal F negative (Nat.ofDigitChars 10 (whole ++ fraction) 0) (e - fraction.length))

/-- The text of a number. -/
inductive Spells (F : Format) : List Char → Binary F → Prop where
  | unsigned {s : List Char} {x : Binary F} (h : SpellsMagnitude F false s x) : Spells F s x
  | plus {s : List Char} {x : Binary F} (h : SpellsMagnitude F false s x) : Spells F ('+' :: s) x
  | minus {s : List Char} {x : Binary F} (h : SpellsMagnitude F true s x) : Spells F ('-' :: s) x

/-! ## Reading -/

theorem readExponent?_eq_some : readExponent? s = some e ↔ SpellsExponent s e := by
  cases s with
  | nil =>
    constructor
    · intro h
      obtain rfl : 0 = e := Option.some.inj h
      exact .none
    · rintro ⟨⟩
      rfl
  | cons c s =>
    have hread : readExponent? (c :: s) =
        if c == 'e' || c == 'E' then
          if (unsignedPart s).isEmpty || !(unsignedPart s).all Char.isDigit then none
          else some (if s.head? == some '-' then -(exponentValue (unsignedPart s) : Int)
            else exponentValue (unsignedPart s))
        else none := rfl
    rw [hread]
    constructor
    · intro h
      split at h
      · next hletter =>
        split at h
        · contradiction
        · next hdigits =>
          obtain ⟨hne, honly⟩ := isDigits_iff.mp (Bool.eq_false_iff.mpr hdigits)
          obtain rfl := Option.some.inj h
          exact .power (by simpa using hletter) (signedDigits_of_parts hne honly)
      · contradiction
    · rintro (_ | ⟨hc, hs⟩)
      obtain ⟨rfl, rfl, hne, hdigits⟩ := hs.parts
      have hletter : (c == 'e' || c == 'E') = true := by simpa using hc
      rw [hletter, isDigits_iff.mpr ⟨hne, hdigits⟩]
      rfl

/-! ## Digits -/

/-- Reads a number that is not a word. -/
def readDigits? (F : Format) (negative : Bool) (s : List Char) : Option (Binary F) :=
  let whole := s.takeWhile Char.isDigit
  let rest := s.dropWhile Char.isDigit
  let tail := if rest.head? == some '.' then rest.drop 1 else []
  let fraction := tail.takeWhile Char.isDigit
  let rest := if rest.head? == some '.' then tail.dropWhile Char.isDigit else rest
  if whole.isEmpty && fraction.isEmpty then none
  else
    (readExponent? rest).map fun exponent =>
      ofDecimal F negative (Nat.ofDigitChars 10 (whole ++ fraction) 0) (exponent - fraction.length)

theorem SpellsExponent.stops (h : SpellsExponent s e) :
    Stops Char.isDigit s ∧ (s.head? == some '.') = false := by
  cases h with
  | none => exact ⟨stops_nil, rfl⟩
  | power hc hs =>
    rcases hc with rfl | rfl
    · exact ⟨stops_cons.mpr rfl, rfl⟩
    · exact ⟨stops_cons.mpr rfl, rfl⟩

/-- A power of ten may stand behind digits without a point. -/
theorem readDigits?_whole (hne : s ≠ []) (hs : Only Char.isDigit s) (ht : SpellsExponent t e) :
    readDigits? F negative (s ++ t) =
      some (ofDecimal F negative (Nat.ofDigitChars 10 s 0) e) := by
  obtain ⟨hstops, hpoint⟩ := ht.stops
  have hwhole := takeWhile_append_of_stops hs hstops
  have hrest := dropWhile_append_of_stops hs hstops
  simp [readDigits?, hwhole, hrest, hpoint, hne, readExponent?_eq_some.mpr ht]

/-- A power of ten may stand behind the digits around a point. -/
theorem readDigits?_point {u : List Char} (hne : s ++ t ≠ []) (hs : Only Char.isDigit s)
    (ht : Only Char.isDigit t) (hu : SpellsExponent u e) :
    readDigits? F negative (s ++ '.' :: (t ++ u)) =
      some (ofDecimal F negative (Nat.ofDigitChars 10 (s ++ t) 0) (e - t.length)) := by
  have hpoint : Stops Char.isDigit ('.' :: (t ++ u)) := stops_cons.mpr rfl
  have hwhole := takeWhile_append_of_stops hs hpoint
  have hrest := dropWhile_append_of_stops hs hpoint
  have hfraction := takeWhile_append_of_stops ht hu.stops.1
  have hend := dropWhile_append_of_stops ht hu.stops.1
  have hsome : (s.isEmpty && t.isEmpty) = false := by
    simpa using fun hs : s = [] => by simpa [hs] using hne
  simp only [readDigits?, hwhole, hrest, List.head?_cons, beq_self_eq_true, if_true,
    List.drop_one, List.tail_cons, hfraction, hend, hsome, readExponent?_eq_some.mpr hu]
  rfl

/-- What is read by its digits is one of the two. -/
theorem spellsMagnitude_of_readDigits? (h : readDigits? F negative s = some x) :
    SpellsMagnitude F negative s x := by
  have hsplit := List.takeWhile_append_dropWhile (p := Char.isDigit) (l := s)
  have hwhole : Only Char.isDigit (s.takeWhile Char.isDigit) := only_takeWhile
  unfold readDigits? at h
  generalize s.takeWhile Char.isDigit = whole at hsplit hwhole h
  generalize s.dropWhile Char.isDigit = rest at hsplit h
  obtain rfl := hsplit
  by_cases hpoint : (rest.head? == some '.') = true
  · obtain ⟨tail, rfl⟩ : ∃ tail, rest = '.' :: tail := by
      cases rest with
      | nil => contradiction
      | cons c tail => exact ⟨tail, by rw [Option.some.inj (eq_of_beq hpoint)]⟩
    have hjoin := List.takeWhile_append_dropWhile (p := Char.isDigit) (l := tail)
    have hfraction : Only Char.isDigit (tail.takeWhile Char.isDigit) := only_takeWhile
    simp only [List.head?_cons, beq_self_eq_true, if_true, List.drop_one, List.tail_cons] at h
    generalize tail.takeWhile Char.isDigit = fraction at hjoin hfraction h
    generalize tail.dropWhile Char.isDigit = rest at hjoin h
    obtain rfl := hjoin
    split at h
    · contradiction
    · next hsome =>
      obtain ⟨e, he, rfl⟩ := Option.map_eq_some_iff.mp h
      exact .point (by simpa using hsome) hwhole hfraction (readExponent?_eq_some.mp he)
  · simp only [hpoint, Bool.false_eq_true, if_false, List.takeWhile_nil, List.append_nil,
      List.isEmpty_nil, Bool.and_true] at h
    split at h
    · contradiction
    · next hsome =>
      obtain ⟨e, he, rfl⟩ := Option.map_eq_some_iff.mp h
      have hmagnitude : SpellsMagnitude F negative (whole ++ rest) _ :=
        .whole (by simpa using hsome) hwhole (readExponent?_eq_some.mp he)
      simpa using hmagnitude

/-! ## Numbers -/

theorem toLower_of_isDigit (hc : c.isDigit = true) : c.toLower = c := by
  have hdigit : c.val ≤ 57 := by
    simp only [Char.isDigit, Bool.and_eq_true, decide_eq_true_eq] at hc
    exact hc.2
  refine dif_neg ?_
  rintro ⟨hupper, -⟩
  exact absurd (UInt32.le_trans hupper hdigit) (by decide)

/-- A character that begins a number which is not a word. -/
def IsMark (c : Char) : Prop :=
  c.isDigit = true ∨ c = '.'

theorem IsMark.toLower_ne {d : Char} (hc : IsMark c) (hdigit : d.isDigit = false)
    (hpoint : d ≠ '.') : c.toLower ≠ d := by
  rintro rfl
  rcases hc with hc | rfl
  · rw [toLower_of_isDigit hc, hc] at hdigit
    contradiction
  · exact hpoint rfl

/-- Digits, or a point in place of them, begin a number. -/
theorem exists_mark (hs : Only Char.isDigit s) (hnil : s = [] → ∃ u, t = '.' :: u) :
    ∃ c u, s ++ t = c :: u ∧ IsMark c := by
  cases s with
  | nil =>
    obtain ⟨u, rfl⟩ := hnil rfl
    exact ⟨'.', u, rfl, .inr rfl⟩
  | cons c s => exact ⟨c, s ++ t, rfl, .inl (only_cons.mp hs).1⟩

/-- A text that begins so is no word, and is read by its digits. -/
theorem readMagnitude?_of_mark (h : ∃ c u, s = c :: u ∧ IsMark c) :
    readMagnitude? F negative s = readDigits? F negative s := by
  obtain ⟨c, u, rfl, hc⟩ := h
  have hi := hc.toLower_ne (d := 'i') rfl (by decide)
  have hn := hc.toLower_ne (d := 'n') rfl (by decide)
  simp [readMagnitude?, readDigits?, hi, hn]

/-- A text is read as a number without a sign exactly when it spells it. -/
theorem readMagnitude?_eq_some :
    readMagnitude? F negative s = some x ↔ SpellsMagnitude F negative s x := by
  constructor
  · intro h
    have hread : readMagnitude? F negative s =
        if s.map Char.toLower = ['i', 'n', 'f'] ||
            s.map Char.toLower = ['i', 'n', 'f', 'i', 'n', 'i', 't', 'y'] then
          some (.infinite negative)
        else if s.map Char.toLower = ['n', 'a', 'n'] then some .nan
        else readDigits? F negative s := rfl
    rw [hread] at h
    split at h
    · next hword =>
      obtain rfl := Option.some.inj h
      exact .infinite (by simpa using hword)
    · split at h
      · next hword =>
        obtain rfl := Option.some.inj h
        exact .nan hword
      · exact spellsMagnitude_of_readDigits? h
  · intro h
    cases h with
    | infinite hword => exact if_pos (by simpa using hword)
    | nan hword => simp [readMagnitude?, hword]
    | whole hne hwhole hrest =>
      rw [readMagnitude?_of_mark (exists_mark hwhole fun hnil => absurd hnil hne)]
      exact readDigits?_whole hne hwhole hrest
    | point hne hwhole hfraction hrest =>
      rw [readMagnitude?_of_mark (exists_mark hwhole fun _ => ⟨_, rfl⟩)]
      exact readDigits?_point hne hwhole hfraction hrest

theorem SpellsMagnitude.exists_head (h : SpellsMagnitude F negative s x) :
    ∃ c u, s = c :: u ∧ (c.toLower = 'i' ∨ c.toLower = 'n' ∨ IsMark c) := by
  cases h with
  | infinite hword =>
    rcases hword with hword | hword
    · obtain ⟨c, u, rfl, hc, -⟩ := List.map_eq_cons_iff.mp hword
      exact ⟨c, u, rfl, .inl hc⟩
    · obtain ⟨c, u, rfl, hc, -⟩ := List.map_eq_cons_iff.mp hword
      exact ⟨c, u, rfl, .inl hc⟩
  | nan hword =>
    obtain ⟨c, u, rfl, hc, -⟩ := List.map_eq_cons_iff.mp hword
    exact ⟨c, u, rfl, .inr (.inl hc)⟩
  | @whole _ rest _ hne hwhole _ =>
    obtain ⟨c, u, htext, hc⟩ := exists_mark (t := rest) hwhole fun hnil => absurd hnil hne
    exact ⟨c, u, htext, .inr (.inr hc)⟩
  | @point _ fraction rest _ _ hwhole _ _ =>
    obtain ⟨c, u, htext, hc⟩ :=
      exists_mark (t := '.' :: (fraction ++ rest)) hwhole fun _ => ⟨_, rfl⟩
    exact ⟨c, u, htext, .inr (.inr hc)⟩

/-- No number without a sign begins with one. -/
theorem SpellsMagnitude.ne_sign (h : SpellsMagnitude F negative s x) (t : List Char) :
    s ≠ '-' :: t ∧ s ≠ '+' :: t := by
  obtain ⟨c, u, rfl, hc⟩ := h.exists_head
  constructor
  · intro heq
    obtain rfl : c = '-' := (List.cons.inj heq).1
    exact absurd hc (by unfold IsMark; decide)
  · intro heq
    obtain rfl : c = '+' := (List.cons.inj heq).1
    exact absurd hc (by unfold IsMark; decide)

/-- A text is read as a number exactly when it spells it. -/
theorem read?_eq_some : read? F s = some x ↔ Spells F s x := by
  constructor
  · intro h
    unfold read? at h
    split at h
    · exact .minus (readMagnitude?_eq_some.mp h)
    · exact .plus (readMagnitude?_eq_some.mp h)
    · exact .unsigned (readMagnitude?_eq_some.mp h)
  · intro h
    cases h with
    | unsigned h =>
      have hread := readMagnitude?_eq_some.mpr h
      unfold read?
      split
      · exact absurd rfl (h.ne_sign _).1
      · exact absurd rfl (h.ne_sign _).2
      · exact hread
    | plus h => exact readMagnitude?_eq_some.mpr h
    | minus h => exact readMagnitude?_eq_some.mpr h

theorem read?_eq_none : read? F s = none ↔ ∀ x, ¬Spells F s x := by
  simp only [Option.eq_none_iff_forall_ne_some, ne_eq, read?_eq_some]

end MessageTemplate.Binary
