import MessageTemplate.Proofs.Template.Failure

/-!
# Where each cause comes from

The scanners of a number format and of a style key know two causes only: the token does not
end, or the part is not well formed.  The other causes have one source each.  An unknown
keyword is reported behind the opening of a token, and a style list that is nested too deeply
where the key of the style was read.
-/

namespace MessageTemplate

open Text

/-- A token does not end, or a part of it is not well formed. -/
def Cause.Broken : Cause → Prop
  | .unterminatedToken | .malformedStyle _ => True
  | _ => False

namespace Reader

open Grammar

variable {limit : Option Nat} {start s rest : List Char} {index : Index} {failure : Failure}

theorem format_cause (h : format start s = .error failure) : failure.cause.Broken := by
  unfold format at h
  dsimp only at h
  split at h
  · obtain rfl := Except.error.inj h
    trivial
  · split at h
    · split at h
      · obtain rfl := Except.error.inj h
        trivial
      · contradiction
    · obtain rfl := Except.error.inj h
      trivial

theorem key_cause (h : key start s = .error failure) : failure.cause.Broken := by
  unfold key at h
  dsimp only at h
  split at h
  · obtain rfl := Except.error.inj h
    trivial
  · split at h
    · split at h
      · obtain rfl := Except.error.inj h
        trivial
      · contradiction
    · split at h
      · obtain rfl := Except.error.inj h
        trivial
      · obtain rfl := Except.error.inj h
        trivial

/-- What follows the comma is broken, or its keyword is not known. -/
theorem typed_cause (h : typed start index s = .error failure) :
    failure.cause.Broken ∨ failure.rest = skipBlanks s ∧
      ∃ word, failure.cause = .unknownKeyword word := by
  unfold typed at h
  dsimp only at h
  split at h
  · obtain rfl := Except.error.inj h
    exact .inl trivial
  · next c rest _ =>
    split at h
    · obtain rfl := Except.error.inj h
      exact .inr ⟨rfl, _, rfl⟩
    · split at h
      · cases hformat : format start rest with
        | error e =>
          rw [hformat] at h
          obtain rfl := Except.error.inj h
          exact .inl (format_cause hformat)
        | ok result =>
          rw [hformat] at h
          contradiction
      · contradiction
    · split at h
      · contradiction
      · split at h
        · obtain rfl := Except.error.inj h
          exact .inl trivial
        · obtain rfl := Except.error.inj h
          exact .inl trivial
        · contradiction
        · contradiction

/-- The head of a token is broken, its index is missing or not followed by a mark, or its
keyword is not known: then the opening, a comma and blanks stand in front of the keyword. -/
theorem head_cause (h : head start s = .error failure) :
    failure.cause.Broken ∨ failure.cause = .missingIndex ∨
      (∃ found, failure.cause = .unexpectedCharacter found) ∨
      ∃ index o a word, Opening index o ∧ Only isAsciiBlank a ∧
        '\x7b' :: s = o ++ ',' :: (a ++ failure.rest) ∧ failure.cause = .unknownKeyword word := by
  unfold head at h
  dsimp only at h
  split at h
  · have hfailure := Except.error.inj h
    split at hfailure
    · obtain rfl := hfailure
      exact .inl trivial
    · obtain rfl := hfailure
      exact .inr (.inl rfl)
  · next index r hindex =>
    obtain ⟨o, ho, hopen⟩ := opening_of_index? hindex
    split at h
    · obtain rfl := Except.error.inj h
      exact .inl trivial
    · next c rest hrest =>
      split at h
      · contradiction
      · split at h
        · next hcomma =>
          rcases typed_cause h with hbroken | ⟨hplace, word, hcause⟩
          · exact .inl hbroken
          · obtain ⟨a, ha, hskip⟩ := exists_eq_append_skipBlanks rest
            refine .inr (.inr (.inr ⟨index, o, a, word, ho, ha, ?_, hcause⟩))
            rw [hopen, hrest, hcomma, hplace, ← hskip]
        · obtain rfl := Except.error.inj h
          exact .inr (.inr (.inl ⟨c, rfl⟩))

/-- A nested key fails as a key does, or the key was read and the limit does not allow it. -/
theorem nestedKey_eq_error {depth : Nat} : nestedKey limit depth start s = .error failure ↔
    key start s = .error failure ∨ ∃ bound ∈ limit, bound < depth + 1 ∧
      failure = ⟨.nestingTooDeep bound, start⟩ ∧ ∃ result, key start s = .ok result := by
  cases hkey : key start s with
  | error e => simp [nestedKey, hkey, bind, Except.bind]
  | ok result =>
    cases limit with
    | none => simp [nestedKey, hkey, bind, Except.bind]
    | some bound =>
      by_cases hbound : bound < depth + 1
      · have hnested : nestedKey (some bound) depth start s =
            .error ⟨.nestingTooDeep bound, start⟩ := by
          simp only [nestedKey, hkey, bind, Except.bind, if_pos hbound]
        rw [hnested]
        constructor
        · intro h
          exact .inr ⟨bound, rfl, hbound, (Except.error.inj h).symm, result, rfl⟩
        · rintro (h | ⟨found, hfound, -, rfl, -⟩)
          · contradiction
          · rw [Option.some.inj hfound]
      · have hnested : nestedKey (some bound) depth start s = .ok result := by
          simp only [nestedKey, hkey, bind, Except.bind, if_neg hbound]
        rw [hnested]
        constructor
        · intro h
          contradiction
        · rintro (h | ⟨found, hfound, hlt, -⟩)
          · contradiction
          · exact absurd (Option.some.inj hfound ▸ hlt) hbound

end Reader

end MessageTemplate
