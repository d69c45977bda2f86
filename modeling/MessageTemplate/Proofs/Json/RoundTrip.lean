import Mathlib.Algebra.Group.Int.Defs
import Mathlib.Algebra.Group.Nat.Defs
import Mathlib.Tactic.SplitIfs
import MessageTemplate.Json.Reader
import MessageTemplate.Proofs.Text.Run

/-!
# JSON text is read back

The reader finds the value in its compact text, whatever stands behind.  This
holds for all values without numbers in double precision, for which no text is
written here: strings of any characters, whole numbers of 64 bits with or without
a sign, and lists and objects up to the depth that the reader goes to.

There are three groups.

* Strings and numbers.  `character?_escape` is the one place that knows how
  characters are escaped, and `magnitude?_toDigits` the one that knows how digits
  are gathered.
* The steps of the reader.  `value?` and `after?` are unfolded here once, with one
  lemma for each step.
* The induction.  `Plain` says which values are meant, and a value, the items of a
  list and the members of an object are read back together.
-/

namespace MessageTemplate.Json

open Text

variable {c e : Char} {n : Nat} {s t rest : List Char} {value : Json} {depth : Nat}
  {opened : List Container} {items : List Json} {members : List (String × Json)} {key : String}

/-! ## Strings -/

/-- The letter of a short escape is read as what it stands for. -/
theorem unescape?_of_shortEscape? (h : shortEscape? c = some e) :
    e ≠ 'u' ∧ unescape? e = some c := by
  unfold shortEscape? at h
  split_ifs at h <;> obtain rfl := Option.some.inj h <;> subst c <;> exact ⟨by decide, rfl⟩

theorem hexDigit?_digitChar (h : n < 16) : hexDigit? n.digitChar = some n := by
  have hall : ∀ n < 16, hexDigit? (Nat.digitChar n) = some n := by decide
  exact hall n h

/-- A control character is read from its four digits. -/
theorem numericEscape?_control (h : c.toNat < 0x20) (rest : List Char) :
    numericEscape? ('0' :: '0' :: Nat.digitChar (c.toNat / 16) :: Nat.digitChar (c.toNat % 16) ::
      rest) = some (c, rest) := by
  have hhigh := hexDigit?_digitChar (n := c.toNat / 16) (by omega)
  have hlow := hexDigit?_digitChar (n := c.toNat % 16) (by omega)
  have hzero : hexDigit? '0' = some 0 := rfl
  have hsum : ((0 * 16 + 0) * 16 + c.toNat / 16) * 16 + c.toNat % 16 = c.toNat := by omega
  have hunit : hexUnit? ('0' :: '0' :: Nat.digitChar (c.toNat / 16) ::
      Nat.digitChar (c.toNat % 16) :: rest) = some (c.toNat, rest) := by
    simp only [hexUnit?, hzero, hhigh, hlow, bind, Option.bind, hsum]
    rfl
  have hnoHigh : ¬((0xd800 ≤ c.toNat && c.toNat < 0xdc00) = true) := by simp; omega
  have hnoLow : ¬((0xdc00 ≤ c.toNat && c.toNat < 0xe000) = true) := by simp; omega
  rw [numericEscape?, hunit]
  dsimp only
  rw [if_neg hnoHigh, if_neg hnoLow, Char.ofNat_toNat]

/-- An escaped character is read as the character. -/
theorem character?_escape (c : Char) (rest : List Char) :
    character? (escape c ++ rest) = some (c, rest) := by
  unfold escape
  split
  · next e he =>
    obtain ⟨hu, hread⟩ := unescape?_of_shortEscape? he
    rw [List.cons_append, List.cons_append, character?, hread]
    · rfl
    · exact hu
  · next hnone =>
    split
    · next hcontrol =>
      exact numericEscape?_control hcontrol rest
    · next hcontrol =>
      have hc : c ≠ '\\' := by
        rintro rfl
        exact absurd hnone (by decide)
      simp [character?, hc, hcontrol]

/-- No escaped character begins like the end of a string. -/
theorem head?_escape (c : Char) (rest : List Char) :
    ((escape c ++ rest).head? == some '"') = false := by
  unfold escape
  split
  · rfl
  · next hnone =>
    split
    · rfl
    · have hc : c ≠ '"' := by
        rintro rfl
        exact absurd hnone (by decide)
      simpa using hc

/-- Up to its closing quote, an escaped text is read as the text. -/
theorem string?_escape (s rest : List Char) :
    string? (s.flatMap escape ++ '"' :: rest) = some (s, rest) := by
  induction s with
  | nil =>
    rw [string?]
    rfl
  | cons c s ih =>
    rw [List.flatMap_cons, List.append_assoc, string?, head?_escape, if_neg Bool.false_ne_true]
    split
    · next h =>
      rw [character?_escape] at h
      contradiction
    · next h =>
      rw [character?_escape] at h
      obtain ⟨rfl, rfl⟩ := Prod.mk.inj (Option.some.inj h)
      rw [ih]
      rfl

/-! ## Numbers -/

/-- A character that goes on a number. -/
def goesOn (c : Char) : Bool :=
  c.isDigit || c == '.' || c == 'e' || c == 'E'

/-- The digits of a number other than zero do not begin with a zero. -/
theorem head?_toDigits (hn : 0 < n) : (Nat.toDigits 10 n).head? ≠ some '0' := by
  induction n using Nat.strongRecOn with
  | _ n ih =>
    rw [Nat.toDigits_eq_if (by decide)]
    split
    · next hlt =>
      have hall : ∀ n < 10, 0 < n → [Nat.digitChar n].head? ≠ some '0' := by decide
      exact hall n hlt hn
    · have hfront := ih (n / 10) (by omega) (by omega)
      cases hdigits : Nat.toDigits 10 (n / 10) with
      | nil => exact absurd hdigits Nat.toDigits_ne_nil
      | cons c s =>
        rw [hdigits] at hfront
        exact hfront

theorem le_ofDigitChars (s : List Char) (n : Nat) : n ≤ Nat.ofDigitChars 10 s n := by
  induction s generalizing n with
  | nil => exact Nat.le_refl n
  | cons c s ih =>
    rw [Nat.ofDigitChars_cons]
    exact Nat.le_trans (by omega) (ih _)

/-- No digit is dropped of a number that fits into 64 bits. -/
theorem ofDigits_eq (h : Nat.ofDigitChars 10 s n < UInt64.size) :
    Significand.ofDigits n s = ⟨Nat.ofDigitChars 10 s n, 0⟩ := by
  induction s generalizing n with
  | nil => rfl
  | cons c s ih =>
    rw [Nat.ofDigitChars_cons] at h ⊢
    have hnext : 10 * n + (c.toNat - '0'.toNat) < UInt64.size :=
      Nat.lt_of_le_of_lt (le_ofDigitChars s _) h
    have hpush : Significand.push ⟨n, 0⟩ c = ⟨10 * n + (c.toNat - '0'.toNat), 0⟩ := by
      simp only [Significand.push, hnext, decide_true, Bool.and_true, if_true]
    rw [← ih h, Significand.ofDigits, List.foldl_cons, hpush]
    rfl

/-- The digits of a number are read as the number. -/
theorem magnitude?_toDigits (hn : n < UInt64.size) (hrest : Stops goesOn rest) :
    magnitude? (Nat.toDigits 10 n ++ rest) = some (⟨n, 0, true⟩, rest) := by
  have hdigit : Stops Char.isDigit rest :=
    hrest.mono fun c hc => by simp [goesOn, hc]
  have htake := takeWhile_append_of_stops (only_toDigits n) hdigit
  have hdrop := dropWhile_append_of_stops (only_toDigits n) hdigit
  have hvalue : Nat.ofDigitChars 10 (Nat.toDigits 10 n) 0 = n := Nat.ofDigitChars_ten_toDigits
  have hwhole : Significand.ofDigits 0 (Nat.toDigits 10 n) = ⟨n, 0⟩ := by
    rw [ofDigits_eq (by rwa [hvalue]), hvalue]
  have hzero : ((Nat.toDigits 10 n).isEmpty ||
      ((Nat.toDigits 10 n).head? == some '0' && (Nat.toDigits 10 n).length != 1)) = false := by
    by_cases hpos : 0 < n
    · simp [head?_toDigits hpos, Nat.toDigits_ne_nil]
    · obtain rfl : n = 0 := by omega
      decide
  have hend : withExponent? n 0 true rest = some (⟨n, 0, true⟩, rest) ∧
      (rest.head? == some '.') = false := by
    cases rest with
    | nil => exact ⟨rfl, rfl⟩
    | cons c s =>
      obtain ⟨⟨⟨-, hpoint⟩, hlower⟩, hupper⟩ :
          ((c.isDigit = false ∧ c ≠ '.') ∧ c ≠ 'e') ∧ c ≠ 'E' := by
        simpa [goesOn] using stops_cons.mp hrest
      simp [withExponent?, hpoint, hlower, hupper]
  unfold magnitude?
  simp only [htake, hdrop, hzero, hend.2, hwhole]
  exact hend.1

/-- Digits without a sign are read as a number that fits into 64 bits. -/
theorem number?_toDigits (hn : n < 2 ^ 64) (hrest : Stops goesOn rest) :
    number? (Nat.toDigits 10 n ++ rest) = some (.integer n, rest) := by
  have hminus := (only_toDigits n).head?_append Nat.toDigits_ne_nil (c := '-') rfl rest
  rw [number?, hminus, if_neg Bool.false_ne_true, magnitude?_toDigits hn hrest]
  rfl

/-- Digits behind a minus sign are read as a negative number that fits into 64 bits. -/
theorem number?_minus (hpos : 0 < n) (hn : n ≤ 2 ^ 63) (hrest : Stops goesOn rest) :
    number? ('-' :: (Nat.toDigits 10 n ++ rest)) = some (.integer (-n), rest) := by
  have hread := magnitude?_toDigits (Nat.lt_of_le_of_lt hn (by decide)) hrest
  have hkept : ((n = 0 : Bool) || (Nat.pow 2 63 < n : Bool)) = false := by
    have hpow : Nat.pow 2 63 = 2 ^ 63 := rfl
    simp only [Bool.or_eq_false_iff, decide_eq_false_iff_not]
    omega
  have hvalue : (Magnitude.mk n 0 true).toJson? true = some (.integer (-n)) := by
    simp only [Magnitude.toJson?, if_true, hkept]
    rfl
  simp only [number?, List.head?_cons, beq_self_eq_true, if_true, List.drop_one, List.tail_cons,
    hread, hvalue, bind, Option.bind]
  rfl

/-- The text of a whole number of 64 bits, with a sign or without, is read as the number. -/
theorem number?_repr {n : Int} (hlow : -2 ^ 63 ≤ n) (hhigh : n < 2 ^ 64)
    (hrest : Stops goesOn rest) : number? (n.repr.toList ++ rest) = some (.integer n, rest) := by
  rw [Int.repr_eq_if]
  split
  · next hn =>
    have hread := number?_toDigits (n := n.toNat) (by omega) hrest
    rw [Int.toNat_of_nonneg hn] at hread
    rw [Nat.toList_repr]
    exact hread
  · next hn =>
    have hread := number?_minus (n := (-n).toNat) (by omega) (by omega) hrest
    rw [Int.toNat_of_nonneg (by omega), Int.neg_neg] at hread
    rw [String.toList_append, Nat.toList_repr]
    exact hread

/-! ## The steps of the reader -/

theorem skipSpace_cons (h : isSpace c = false) (s : List Char) : skipSpace (c :: s) = c :: s := by
  rw [skipSpace, List.dropWhile_cons, h]
  rfl

/-- A scalar is followed by what comes after a value. -/
theorem value?_scalar (hspace : isSpace c = false) (harray : c ≠ '[') (hobject : c ≠ '\x7b')
    (h : scalar? (c :: s) = some (value, rest)) :
    value? opened (c :: s) = after? opened value rest := by
  rw [value?]
  split
  · next hs =>
    rw [skipSpace_cons hspace] at hs
    contradiction
  · next hs =>
    rw [skipSpace_cons hspace] at hs
    obtain ⟨rfl, rfl⟩ := List.cons.inj hs
    rw [if_neg harray, if_neg hobject]
    split
    · next hnone =>
      rw [h] at hnone
      contradiction
    · next hsome =>
      rw [h] at hsome
      obtain ⟨rfl, rfl⟩ := Prod.mk.inj (Option.some.inj hsome)
      rfl

/-- A bracket opens a list, unless it is closed at once. -/
theorem value?_array (hdepth : opened.length + 1 < depthLimit) (s : List Char) :
    value? opened ('[' :: s) =
      match skipSpace s with
      | ']' :: rest => after? opened (.array []) rest
      | _ => value? (.array [] :: opened) s := by
  rw [value?]
  split
  · next hs =>
    rw [skipSpace_cons rfl] at hs
    contradiction
  · next hs =>
    rw [skipSpace_cons rfl] at hs
    obtain ⟨rfl, rfl⟩ := List.cons.inj hs
    rw [if_pos rfl, if_neg (Nat.not_le.mpr hdepth)]
    split
    · next hclose => simp only [hclose]
    · next hopen =>
      split
      · next hclose => exact absurd hclose (hopen _)
      · rfl

/-- A brace opens an object with its first key, unless it is closed at once. -/
theorem value?_object (hdepth : opened.length + 1 < depthLimit) (s : List Char) :
    value? opened ('\x7b' :: s) =
      match skipSpace s with
      | '\x7d' :: rest => after? opened (.object []) rest
      | _ => (key? s).bind fun (key, rest) => value? (.object [] key :: opened) rest := by
  rw [value?]
  split
  · next hs =>
    rw [skipSpace_cons rfl] at hs
    contradiction
  · next hs =>
    rw [skipSpace_cons rfl] at hs
    obtain ⟨rfl, rfl⟩ := List.cons.inj hs
    rw [if_neg (by decide), if_pos rfl, if_neg (Nat.not_le.mpr hdepth)]
    split
    · next hclose => simp only [hclose]
    · next hopen =>
      split <;> next hkey =>
        rw [hkey]
        split
        · next hclose => exact absurd hclose (hopen _)
        · rfl

/-- An item is followed by a comma or by the end of its list. -/
theorem after?_array (value : Json) (s : List Char) :
    after? (.array items :: opened) value s =
      match skipSpace s with
      | ',' :: rest => value? (.array (value :: items) :: opened) rest
      | ']' :: rest => after? opened (.array (value :: items).reverse) rest
      | _ => none := by
  rw [after?]
  split <;> next h => simp only [h]

/-- A member is followed by a comma and the next key or by the end of its object. -/
theorem after?_object (value : Json) (s : List Char) :
    after? (.object members key :: opened) value s =
      match skipSpace s with
      | ',' :: rest => (key? rest).bind fun (key', rest) =>
        value? (.object ((key, value) :: members) key' :: opened) rest
      | '\x7d' :: rest => after? opened (.object ((key, value) :: members).reverse) rest
      | _ => none := by
  rw [after?]
  split
  · next h =>
    simp only [h]
    split <;> next hkey => rw [hkey]; rfl
  · next h => simp only [h]
  · next hcomma hclose =>
    split
    · next h => exact absurd h (hcomma _)
    · next h => exact absurd h (hclose _)
    · rfl

/-! ## Values -/

mutual

/-- A value without numbers in double precision, whose whole numbers fit into 64 bits, and whose
lists and objects lie in each other at most so deep. -/
inductive Plain : Nat → Json → Prop where
  | null {depth : Nat} : Plain depth .null
  | bool {depth : Nat} (b : Bool) : Plain depth (.bool b)
  | integer {depth : Nat} {n : Int} (hlow : -2 ^ 63 ≤ n) (hhigh : n < 2 ^ 64) :
      Plain depth (.integer n)
  | string {depth : Nat} (s : String) : Plain depth (.string s)
  | array {depth : Nat} {items : List Json} (h : PlainItems depth items) :
      Plain (depth + 1) (.array items)
  | object {depth : Nat} {members : List (String × Json)} (h : PlainMembers depth members) :
      Plain (depth + 1) (.object members)

/-- Items of a list that are plain. -/
inductive PlainItems : Nat → List Json → Prop where
  | nil {depth : Nat} : PlainItems depth []
  | cons {depth : Nat} {item : Json} {rest : List Json} (hitem : Plain depth item)
      (hrest : PlainItems depth rest) : PlainItems depth (item :: rest)

/-- Members of an object whose values are plain. -/
inductive PlainMembers : Nat → List (String × Json) → Prop where
  | nil {depth : Nat} : PlainMembers depth []
  | cons {depth : Nat} (key : String) {value : Json} {rest : List (String × Json)}
      (hvalue : Plain depth value) (hrest : PlainMembers depth rest) :
      PlainMembers depth ((key, value) :: rest)

end

/-- A character that begins a number. -/
def beginsNumber (c : Char) : Bool :=
  c.isDigit || c == '-'

theorem ne_of_beginsNumber {d : Char} (hc : beginsNumber c = true) (hd : beginsNumber d = false) :
    c ≠ d := by
  rintro rfl
  rw [hd] at hc
  contradiction

theorem isSpace_of_beginsNumber (hc : beginsNumber c = true) : isSpace c = false := by
  have hblank := ne_of_beginsNumber hc (d := ' ') rfl
  have hline := ne_of_beginsNumber hc (d := '\n') rfl
  have htab := ne_of_beginsNumber hc (d := '\t') rfl
  have hreturn := ne_of_beginsNumber hc (d := '\r') rfl
  simp [isSpace, hblank, hline, htab, hreturn]

theorem exists_repr_append (n : Int) (rest : List Char) :
    ∃ c s, n.repr.toList ++ rest = c :: s ∧ beginsNumber c = true := by
  rw [Int.repr_eq_if]
  split
  · rw [Nat.toList_repr]
    cases hdigits : Nat.toDigits 10 n.toNat with
    | nil => exact absurd hdigits Nat.toDigits_ne_nil
    | cons c s =>
      have hc := only_toDigits n.toNat c (hdigits ▸ List.mem_cons_self)
      exact ⟨c, s ++ rest, rfl, by simp [beginsNumber, hc]⟩
  · rw [String.toList_append]
    exact ⟨'-', _, rfl, rfl⟩

/-- The text of a whole number is a value. -/
theorem value?_integer {n : Int} (hlow : -2 ^ 63 ≤ n) (hhigh : n < 2 ^ 64)
    (hrest : Stops goesOn rest) :
    value? opened (n.repr.toList ++ rest) = after? opened (.integer n) rest := by
  have hread := number?_repr hlow hhigh hrest
  obtain ⟨c, s, htext, hc⟩ := exists_repr_append n rest
  rw [htext] at hread ⊢
  have hscalar : scalar? (c :: s) = number? (c :: s) := by
    rw [scalar?]
    · exact ne_of_beginsNumber hc rfl
    · exact ne_of_beginsNumber hc rfl
    · exact ne_of_beginsNumber hc rfl
    · exact ne_of_beginsNumber hc rfl
  exact value?_scalar (isSpace_of_beginsNumber hc) (ne_of_beginsNumber hc rfl)
    (ne_of_beginsNumber hc rfl) (hscalar.trans hread)

theorem toList_quote (s : String) (rest : List Char) :
    (quote s).toList ++ rest = '"' :: (s.toList.flatMap escape ++ '"' :: rest) := by
  simp [quote]

/-- A string in quotes is a value. -/
theorem value?_quote (s : String) (rest : List Char) :
    value? opened ((quote s).toList ++ rest) = after? opened (.string s) rest := by
  rw [toList_quote]
  refine value?_scalar rfl (by decide) (by decide) ?_
  rw [scalar?, string?_escape]
  simp only [Option.map_some, String.ofList_toList]

/-- A string in quotes and a colon are a key. -/
theorem key?_quote (key : String) (rest : List Char) :
    key? ((quote key).toList ++ ':' :: rest) = some (key, rest) := by
  have hcolon : skipSpace (':' :: rest) = ':' :: rest := skipSpace_cons rfl rest
  rw [toList_quote]
  simp only [key?, skipSpace_cons (c := '"') rfl, string?_escape, hcolon, String.ofList_toList]

/-! ## Texts -/

theorem toList_compact_array (items : List Json) (rest : List Char) :
    (compact (.array items)).toList ++ rest =
      '[' :: ((compactItems items).toList ++ ']' :: rest) := by
  simp [compact]

theorem toList_compact_object (members : List (String × Json)) (rest : List Char) :
    (compact (.object members)).toList ++ rest =
      '\x7b' :: ((compactMembers members).toList ++ '\x7d' :: rest) := by
  simp [compact]

/-- What stands behind an item: the end of its list, or a comma and the other items. -/
def behindItem (rest : List Char) : List Json → List Char
  | [] => ']' :: rest
  | items => ',' :: ((compactItems items).toList ++ ']' :: rest)

theorem toList_compactItems (item : Json) (items : List Json) (rest : List Char) :
    (compactItems (item :: items)).toList ++ ']' :: rest =
      item.compact.toList ++ behindItem rest items := by
  cases items with
  | nil => rfl
  | cons => simp [compactItems, behindItem]

/-- What stands behind a member: the end of its object, or a comma and the other members. -/
def behindMember (rest : List Char) : List (String × Json) → List Char
  | [] => '\x7d' :: rest
  | members => ',' :: ((compactMembers members).toList ++ '\x7d' :: rest)

theorem toList_compactMembers (key : String) (value : Json) (members : List (String × Json))
    (rest : List Char) :
    (compactMembers ((key, value) :: members)).toList ++ '\x7d' :: rest =
      (quote key).toList ++ ':' :: (value.compact.toList ++ behindMember rest members) := by
  cases members with
  | nil => simp [compactMembers, compactMember, behindMember]
  | cons => simp [compactMembers, compactMember, behindMember]

/-- Nothing behind an item goes on a number. -/
theorem stops_behindItem (rest : List Char) (items : List Json) :
    Stops goesOn (behindItem rest items) := by
  cases items <;> exact stops_cons.mpr rfl

theorem stops_behindMember (rest : List Char) (members : List (String × Json)) :
    Stops goesOn (behindMember rest members) := by
  cases members <;> exact stops_cons.mpr rfl

/-- A value begins with neither a blank nor the end of a list. -/
theorem Plain.exists_append (h : Plain depth value) (rest : List Char) :
    ∃ c s, value.compact.toList ++ rest = c :: s ∧ isSpace c = false ∧ c ≠ ']' := by
  cases h with
  | null => exact ⟨'n', _, rfl, rfl, by decide⟩
  | bool b => cases b <;> exact ⟨_, _, rfl, rfl, by decide⟩
  | @integer _ n =>
    obtain ⟨c, s, htext, hc⟩ := exists_repr_append n rest
    exact ⟨c, s, htext, isSpace_of_beginsNumber hc, ne_of_beginsNumber hc rfl⟩
  | string s => exact ⟨_, _, toList_quote s rest, rfl, by decide⟩
  | array h => exact ⟨_, _, toList_compact_array _ rest, rfl, by decide⟩
  | object h => exact ⟨_, _, toList_compact_object _ rest, rfl, by decide⟩

/-- A bracket in front of a value opens a list. -/
theorem value?_array_of_plain (hdepth : opened.length + 1 < depthLimit) (h : Plain depth value)
    (rest : List Char) :
    value? opened ('[' :: (value.compact.toList ++ rest)) =
      value? (.array [] :: opened) (value.compact.toList ++ rest) := by
  obtain ⟨c, s, htext, hspace, hclose⟩ := h.exists_append rest
  rw [value?_array hdepth, htext, skipSpace_cons hspace]
  split
  · next heq => exact absurd (List.cons.inj heq).1 hclose
  · rfl

/-- A brace in front of a member opens an object with its key. -/
theorem value?_object_of_key (hdepth : opened.length + 1 < depthLimit) (key : String)
    (rest : List Char) :
    value? opened ('\x7b' :: ((quote key).toList ++ ':' :: rest)) =
      value? (.object [] key :: opened) rest := by
  rw [value?_object hdepth, key?_quote, toList_quote, skipSpace_cons rfl]
  rfl

mutual

/-- The reader finds a value in its text and goes on with what stands behind. -/
theorem Plain.value?_compact {depth : Nat} {value : Json} :
    Plain depth value → ∀ (opened : List Container) (rest : List Char),
      opened.length + depth < depthLimit → Stops goesOn rest →
      value? opened (value.compact.toList ++ rest) = after? opened value rest
  | .null, _, _, _, _ => value?_scalar rfl (by decide) (by decide) rfl
  | .bool b, _, _, _, _ => by
    cases b <;> exact value?_scalar rfl (by decide) (by decide) rfl
  | .integer hlow hhigh, _, _, _, hrest => value?_integer hlow hhigh hrest
  | .string s, _, _, _, _ => value?_quote s _
  | .array .nil, opened, rest, hdepth, _ => by
    rw [toList_compact_array]
    exact value?_array (by omega) _
  | @Plain.array inner _ (.cons hitem hitems), opened, rest, hdepth, _ => by
    have hinner : (Container.array [] :: opened).length + inner < depthLimit := by
      rw [List.length_cons]
      omega
    rw [toList_compact_array, toList_compactItems, value?_array_of_plain (by omega) hitem,
      hitem.value?_compact _ _ hinner (stops_behindItem _ _), hitems.after?_behindItem hinner]
    rfl
  | .object .nil, opened, rest, hdepth, _ => by
    rw [toList_compact_object]
    exact value?_object (by omega) _
  | @Plain.object inner _ (.cons key hvalue hmembers), opened, rest, hdepth, _ => by
    have hinner : (Container.object [] key :: opened).length + inner < depthLimit := by
      rw [List.length_cons]
      omega
    rw [toList_compact_object, toList_compactMembers, value?_object_of_key (by omega),
      hvalue.value?_compact _ _ hinner (stops_behindMember _ _),
      hmembers.after?_behindMember hinner]
    rfl

/-- The other items of a list are read behind those that were read before. -/
theorem PlainItems.after?_behindItem {depth : Nat} {items before : List Json} {item : Json}
    {opened : List Container} {rest : List Char} :
    PlainItems depth items → (Container.array before :: opened).length + depth < depthLimit →
      after? (.array before :: opened) item (behindItem rest items) =
        after? opened (.array (before.reverse ++ item :: items)) rest
  | .nil, _ => by
    rw [after?_array]
    show after? opened (.array (item :: before).reverse) rest = _
    rw [List.reverse_cons]
  | @PlainItems.cons _ next others hnext hothers, hdepth => by
    have hdepth' : (Container.array (item :: before) :: opened).length + depth < depthLimit :=
      hdepth
    rw [after?_array]
    show value? (.array (item :: before) :: opened)
      ((compactItems (next :: others)).toList ++ ']' :: rest) = _
    rw [toList_compactItems, hnext.value?_compact _ _ hdepth' (stops_behindItem _ _),
      hothers.after?_behindItem hdepth', List.reverse_cons, List.append_assoc]
    rfl

/-- The other members of an object are read behind those that were read before. -/
theorem PlainMembers.after?_behindMember {depth : Nat} {members before : List (String × Json)}
    {key : String} {value : Json} {opened : List Container} {rest : List Char} :
    PlainMembers depth members →
      (Container.object before key :: opened).length + depth < depthLimit →
      after? (.object before key :: opened) value (behindMember rest members) =
        after? opened (.object (before.reverse ++ (key, value) :: members)) rest
  | .nil, _ => by
    rw [after?_object]
    show after? opened (.object ((key, value) :: before).reverse) rest = _
    rw [List.reverse_cons]
  | @PlainMembers.cons _ key' next others hnext hothers, hdepth => by
    have hdepth' : (Container.object ((key, value) :: before) key' :: opened).length + depth <
        depthLimit :=
      hdepth
    rw [after?_object]
    show (key? ((compactMembers ((key', next) :: others)).toList ++ '\x7d' :: rest)).bind _ = _
    rw [toList_compactMembers, key?_quote]
    show value? (.object ((key, value) :: before) key' :: opened) _ = _
    rw [hnext.value?_compact _ _ hdepth' (stops_behindMember _ _),
      hothers.after?_behindMember hdepth', List.reverse_cons, List.append_assoc]
    rfl

end

/-- The first value of a text is the one whose compact text it begins with. -/
theorem first?_compact (h : Plain depth value) (hdepth : depth < depthLimit)
    (hrest : Stops goesOn rest) : first? (value.compact.toList ++ rest) = some (value, rest) := by
  rw [first?, h.value?_compact [] rest (by simpa using hdepth) hrest, after?]

end MessageTemplate.Json
