import MessageTemplate.Json.Number

/-!
# Reading JSON text

The reader goes through a text once and keeps the lists and objects that are
open, innermost first.  It is either before a value or after one; each step
takes at least one character.
-/

namespace MessageTemplate.Json

/-! ## Blanks and strings -/

/-- A blank between the parts of a value. -/
def isSpace (c : Char) : Bool :=
  c == ' ' || c == '\n' || c == '\t' || c == '\r'

/-- Drops the blanks in front. -/
def skipSpace (s : List Char) : List Char :=
  s.dropWhile isSpace

/-- The value of a hexadecimal digit. -/
def hexDigit? (c : Char) : Option Nat :=
  if c.isDigit then some (c.toNat - '0'.toNat)
  else if 'a' ≤ c && c ≤ 'f' then some (c.toNat - 'a'.toNat + 10)
  else if 'A' ≤ c && c ≤ 'F' then some (c.toNat - 'A'.toNat + 10)
  else none

/-- Reads four hexadecimal digits. -/
def hexUnit? : List Char → Option (Nat × List Char)
  | a :: b :: c :: d :: rest => do
    let a ← hexDigit? a
    let b ← hexDigit? b
    let c ← hexDigit? c
    let d ← hexDigit? d
    return (((a * 16 + b) * 16 + c) * 16 + d, rest)
  | _ => none

/-- The character of a short escape. -/
def unescape? (c : Char) : Option Char :=
  match c with
  | '"' => some '"'
  | '\\' => some '\\'
  | '/' => some '/'
  | 'b' => some '\x08'
  | 'f' => some '\x0c'
  | 'n' => some '\n'
  | 'r' => some '\r'
  | 't' => some '\t'
  | _ => none

/-- Reads the second half of a surrogate pair after its first half. -/
def lowHalf? (high : Nat) : List Char → Option (Char × List Char)
  | '\\' :: 'u' :: s =>
    match hexUnit? s with
    | some (low, rest) =>
      if 0xdc00 ≤ low && low < 0xe000 then
        some (Char.ofNat (0x10000 + (high - 0xd800) * 0x400 + (low - 0xdc00)), rest)
      else none
    | none => none
  | _ => none

/-- Reads a numeric escape after its `u`.  The two halves of a surrogate pair only
stand together. -/
def numericEscape? (s : List Char) : Option (Char × List Char) :=
  match hexUnit? s with
  | some (unit, rest) =>
    if 0xd800 ≤ unit && unit < 0xdc00 then lowHalf? unit rest
    else if 0xdc00 ≤ unit && unit < 0xe000 then none
    else some (Char.ofNat unit, rest)
  | none => none

/-- Reads one character of a string.  A control character does not stand for
itself. -/
def character? : List Char → Option (Char × List Char)
  | [] => none
  | '\\' :: 'u' :: rest => numericEscape? rest
  | '\\' :: c :: rest => (unescape? c).map (·, rest)
  | c :: rest => if c.toNat < 0x20 || c == '\\' then none else some (c, rest)

theorem hexUnit?_suffix {s rest : List Char} {n : Nat} (h : hexUnit? s = some (n, rest)) :
    rest <:+ s := by
  unfold hexUnit? at h
  split at h
  · next a b c d r =>
    simp only [bind, Option.bind_eq_some_iff, pure, Option.some.injEq, Prod.mk.injEq] at h
    obtain ⟨_, -, _, -, _, -, _, -, -, rfl⟩ := h
    exact ⟨[a, b, c, d], rfl⟩
  · simp at h

theorem lowHalf?_suffix {s rest : List Char} {high : Nat} {c : Char}
    (h : lowHalf? high s = some (c, rest)) : rest <:+ s := by
  unfold lowHalf? at h
  split at h
  · split at h
    · next hu =>
      split at h
      · simp only [Option.some.injEq, Prod.mk.injEq] at h
        rw [← h.2]
        exact (hexUnit?_suffix hu).trans ⟨['\\', 'u'], rfl⟩
      · simp at h
    · simp at h
  · simp at h

theorem numericEscape?_suffix {s rest : List Char} {c : Char}
    (h : numericEscape? s = some (c, rest)) : rest <:+ s := by
  unfold numericEscape? at h
  split at h
  · next hu =>
    split at h
    · exact (lowHalf?_suffix h).trans (hexUnit?_suffix hu)
    · split at h
      · simp at h
      · simp only [Option.some.injEq, Prod.mk.injEq] at h
        exact h.2 ▸ hexUnit?_suffix hu
  · simp at h

/-- A character takes some text. -/
theorem character?_length {s rest : List Char} {c : Char} (h : character? s = some (c, rest)) :
    rest.length < s.length := by
  unfold character? at h
  split at h
  · simp at h
  · have := (numericEscape?_suffix h).length_le
    simp only [List.length_cons]
    omega
  · simp only [Option.map_eq_some_iff, Prod.mk.injEq] at h
    obtain ⟨_, -, -, rfl⟩ := h
    simp only [List.length_cons]
    omega
  · split at h
    · simp at h
    · simp only [Option.some.injEq, Prod.mk.injEq] at h
      simp [h.2]

/-- Reads the rest of a string after its opening quote. -/
def string? (s : List Char) : Option (List Char × List Char) :=
  if s.head? == some '"' then some ([], s.drop 1)
  else
    match _h : character? s with
    | none => none
    | some (c, rest) => (string? rest).map fun (text, rest) => (c :: text, rest)
termination_by s.length
decreasing_by exact character?_length _h

/-! ## Scalars and keys -/

/-- Drops a word in front. -/
def dropWord? : List Char → List Char → Option (List Char)
  | [], s => some s
  | c :: word, d :: s => if c = d then dropWord? word s else none
  | _ :: _, [] => none

/-- Reads a value that holds no other values. -/
def scalar? : List Char → Option (Json × List Char)
  | [] => none
  | c :: s =>
    match c with
    | '"' => (string? s).map fun (text, rest) => (.string (String.ofList text), rest)
    | 'n' => (dropWord? ['u', 'l', 'l'] s).map (null, ·)
    | 't' => (dropWord? ['r', 'u', 'e'] s).map (bool true, ·)
    | 'f' => (dropWord? ['a', 'l', 's', 'e'] s).map (bool false, ·)
    | c => number? (c :: s)

/-- Reads the key of a member and its colon. -/
def key? (s : List Char) : Option (String × List Char) :=
  match skipSpace s with
  | '"' :: s =>
    match string? s with
    | some (text, rest) =>
      match skipSpace rest with
      | ':' :: rest => some (String.ofList text, rest)
      | _ => none
    | none => none
  | _ => none

/-! ## Every step takes a character -/

theorem skipSpace_suffix (s : List Char) : skipSpace s <:+ s :=
  List.dropWhile_suffix _

theorem string?_length {s text rest : List Char} (h : string? s = some (text, rest)) :
    rest.length ≤ s.length := by
  fun_induction string? s generalizing text rest with
  | case1 s hs =>
    simp only [Option.some.injEq, Prod.mk.injEq] at h
    rw [← h.2, List.length_drop]
    omega
  | case2 => simp at h
  | case3 s _ c r hc ih =>
    simp only [Option.map_eq_some_iff, Prod.mk.injEq, Prod.exists] at h
    obtain ⟨t, r', hr, -, rfl⟩ := h
    have := ih hr
    have := character?_length hc
    omega

theorem dropWord?_length {word s rest : List Char} (h : dropWord? word s = some rest) :
    rest.length ≤ s.length := by
  fun_induction dropWord? word s with
  | case1 s => simp_all
  | case2 c word s ih =>
    have := ih h
    simp only [List.length_cons]
    omega
  | case3 => simp at h
  | case4 => simp at h

theorem length_dropSign_le (s : List Char) : (dropSign s).length ≤ s.length := by
  unfold dropSign
  split
  · rw [List.length_drop]
    omega
  · exact Nat.le_refl _

theorem exponent?_length {s rest : List Char} {e : Int} (h : exponent? s = some (e, rest)) :
    rest.length ≤ s.length := by
  unfold exponent? at h
  dsimp only at h
  by_cases hd : ((dropSign s).takeWhile Char.isDigit).isEmpty = true
  · simp [hd] at h
  · rw [if_neg hd] at h
    simp only [Option.some.injEq, Prod.mk.injEq] at h
    rw [← h.2]
    exact Nat.le_trans (List.dropWhile_suffix _).length_le (length_dropSign_le s)

theorem withExponent?_length {n : Nat} {places : Int} {isWhole : Bool} {s rest : List Char}
    {m : Magnitude} (h : withExponent? n places isWhole s = some (m, rest)) :
    rest.length ≤ s.length := by
  unfold withExponent? at h
  split at h
  · split at h
    · simp only [Option.map_eq_some_iff, Prod.mk.injEq, Prod.exists] at h
      obtain ⟨e, r', he, -, rfl⟩ := h
      exact Nat.le_succ_of_le (exponent?_length he)
    · simp only [Option.some.injEq, Prod.mk.injEq] at h
      simp [← h.2]
  · simp only [Option.some.injEq, Prod.mk.injEq] at h
    simp [← h.2]

theorem magnitude?_length {s rest : List Char} {m : Magnitude}
    (h : magnitude? s = some (m, rest)) : rest.length < s.length := by
  unfold magnitude? at h
  dsimp only at h
  split at h
  · simp at h
  · next hd =>
    have hdigits : 0 < (s.takeWhile Char.isDigit).length := by
      cases hs : s.takeWhile Char.isDigit with
      | nil => simp [hs] at hd
      | cons c t => simp
    have hsplit : (s.takeWhile Char.isDigit).length + (s.dropWhile Char.isDigit).length =
        s.length := by
      rw [← List.length_append, List.takeWhile_append_dropWhile]
    split at h
    · split at h
      · simp at h
      · have h1 := withExponent?_length h
        have h2 : (((s.dropWhile Char.isDigit).drop 1).dropWhile Char.isDigit).length ≤
            ((s.dropWhile Char.isDigit).drop 1).length := (List.dropWhile_suffix _).length_le
        rw [List.length_drop] at h2
        omega
    · have := withExponent?_length h
      omega

theorem number?_length {s rest : List Char} {value : Json}
    (h : number? s = some (value, rest)) : rest.length < s.length := by
  unfold number? at h
  simp only [bind, Option.bind_eq_some_iff, pure, Option.some.injEq, Prod.mk.injEq,
    Prod.exists] at h
  obtain ⟨m, r, hm, _, -, -, rfl⟩ := h
  have := magnitude?_length hm
  split at this
  · rw [List.length_drop] at this
    omega
  · exact this

theorem scalar?_length {s rest : List Char} {value : Json}
    (h : scalar? s = some (value, rest)) : rest.length < s.length := by
  unfold scalar? at h
  split at h
  · simp at h
  · split at h
    · simp only [Option.map_eq_some_iff, Prod.mk.injEq, Prod.exists] at h
      obtain ⟨_, _, hs, -, rfl⟩ := h
      exact Nat.lt_succ_of_le (string?_length hs)
    · simp only [Option.map_eq_some_iff, Prod.mk.injEq] at h
      obtain ⟨_, hs, -, rfl⟩ := h
      exact Nat.lt_succ_of_le (dropWord?_length hs)
    · simp only [Option.map_eq_some_iff, Prod.mk.injEq] at h
      obtain ⟨_, hs, -, rfl⟩ := h
      exact Nat.lt_succ_of_le (dropWord?_length hs)
    · simp only [Option.map_eq_some_iff, Prod.mk.injEq] at h
      obtain ⟨_, hs, -, rfl⟩ := h
      exact Nat.lt_succ_of_le (dropWord?_length hs)
    · exact number?_length h

theorem key?_length {s rest : List Char} {key : String} (h : key? s = some (key, rest)) :
    rest.length < s.length := by
  unfold key? at h
  split at h
  · next t ht =>
    split at h
    · next text r hr =>
      split at h
      · next r' hr' =>
        simp only [Option.some.injEq, Prod.mk.injEq] at h
        rw [← h.2]
        have h1 := (skipSpace_suffix s).length_le
        have h2 := string?_length hr
        have h3 := (skipSpace_suffix r).length_le
        rw [ht] at h1
        rw [hr'] at h3
        simp only [List.length_cons] at h1 h3
        omega
      · simp at h
    · simp at h
  · simp at h

/-- What follows a character after blanks is shorter. -/
theorem length_lt_of_skipSpace {c : Char} {s rest : List Char} (h : skipSpace s = c :: rest) :
    rest.length < s.length := by
  have := (skipSpace_suffix s).length_le
  rw [h] at this
  exact this

/-! ## Values -/

/-- A list or an object that is open, with what it holds so far, latest first. -/
inductive Container where
  | array (items : List Json)
  | object (members : List (String × Json)) (key : String)

/-- Lists and objects may not lie inside each other to this depth. -/
def depthLimit : Nat := 128

mutual

/-- Reads a value and the rest of the open lists and objects around it. -/
def value? (opened : List Container) (s : List Char) : Option (Json × List Char) :=
  match _h : skipSpace s with
  | [] => none
  | c :: rest =>
    if c = '[' then
      if depthLimit ≤ opened.length + 1 then none
      else
        match _close : skipSpace rest with
        | ']' :: rest' => after? opened (.array []) rest'
        | _ => value? (.array [] :: opened) rest
    else if c = '\x7b' then
      if depthLimit ≤ opened.length + 1 then none
      else
        match _close : skipSpace rest with
        | '\x7d' :: rest' => after? opened (.object []) rest'
        | _ =>
          match _key : key? rest with
          | none => none
          | some (key, rest') => value? (.object [] key :: opened) rest'
    else
      match _scalar : scalar? (c :: rest) with
      | none => none
      | some (value, rest') => after? opened value rest'
termination_by s.length
decreasing_by
  all_goals have hrest := length_lt_of_skipSpace _h
  · exact Nat.lt_trans (length_lt_of_skipSpace _close) hrest
  · exact hrest
  · exact Nat.lt_trans (length_lt_of_skipSpace _close) hrest
  · exact Nat.lt_trans (key?_length _key) hrest
  · exact Nat.lt_of_lt_of_le (scalar?_length _scalar) hrest

/-- Goes on after a value that is complete. -/
def after? (opened : List Container) (value : Json) (s : List Char) :
    Option (Json × List Char) :=
  match opened with
  | [] => some (value, s)
  | .array items :: outer =>
    match _h : skipSpace s with
    | ',' :: rest => value? (.array (value :: items) :: outer) rest
    | ']' :: rest => after? outer (.array (value :: items).reverse) rest
    | _ => none
  | .object members key :: outer =>
    match _h : skipSpace s with
    | ',' :: rest =>
      match _key : key? rest with
      | none => none
      | some (key', rest') => value? (.object ((key, value) :: members) key' :: outer) rest'
    | '\x7d' :: rest => after? outer (.object ((key, value) :: members).reverse) rest
    | _ => none
termination_by s.length
decreasing_by
  all_goals have hrest := length_lt_of_skipSpace _h
  · exact hrest
  · exact hrest
  · exact Nat.lt_trans (key?_length _key) hrest
  · exact hrest

end

/-- Reads the first value of a text; the text after it is left. -/
def first? (s : List Char) : Option (Json × List Char) :=
  value? [] s

/-- Nothing but blanks. -/
def isBlankText (s : List Char) : Bool :=
  (skipSpace s).isEmpty

end MessageTemplate.Json
