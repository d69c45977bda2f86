import MessageTemplate.Proofs.Template.Concatenation

/-!
# Faults that no later text removes

Text behind a text can only change what is decided at its end.  A scanner that found what
stops it, and a fault that was met before the end, stay as they are: the same is read, and
what is left has the new text behind it.  Only a token that is cut off can be completed,
and so can an index of which nothing but the colon is there.

Each scanner has one lemma, for success and for failure at once.  From them a step and
then a run are carried over the text behind.
-/

namespace MessageTemplate

namespace Reader

open Text

variable {limit : Option Nat} {opened outer : List OpenStyle} {style : OpenStyle}
  {nodes : List Node} {start s rest u : List Char} {index : Index} {failure : Failure}

/-! ## Text behind a text -/

/-- The fault with more text behind it. -/
def Failure.extend (u : List Char) (failure : Failure) : Failure :=
  ⟨failure.cause, failure.rest ++ u⟩

/-- The fault was met before the end of the text.  A token that does not end is not such a
fault, nor is a missing index when the text ends with its colon. -/
def Failure.Definite (failure : Failure) : Prop :=
  failure.cause ≠ .unterminatedToken ∧ ¬(failure.cause = .missingIndex ∧ failure.rest = [':'])

/-- The result does not hang on the end of the text. -/
def Settled {α : Type} (result : Except Failure α) : Prop :=
  ∀ failure, result = .error failure → failure.Definite

theorem settled_ok {α : Type} (a : α) : Settled (.ok a) := by
  intro failure h
  contradiction

theorem settled_error {α : Type} : Settled (.error failure : Except Failure α) ↔
    failure.Definite := by
  constructor
  · exact fun h => h failure rfl
  · intro h other hother
    rwa [← Except.error.inj hother]

/-- A token that does not end hangs on the end of the text. -/
theorem not_settled_unterminated {α : Type} :
    ¬Settled (.error ⟨.unterminatedToken, start⟩ : Except Failure α) :=
  fun h => (settled_error.mp h).1 rfl

/-- A part of a reader does not hang on the end of the text when its failures are those of
the whole. -/
theorem Settled.inner {α β : Type} {whole : Except Failure α} {part : Except Failure β}
    (h : Settled whole) (hpart : ∀ failure, part = .error failure → whole = .error failure) :
    Settled part :=
  fun failure hfailure => h failure (hpart failure hfailure)

/-- What a scanner comes to with more text behind what it leaves. -/
def extend {α : Type} (u : List Char) :
    Except Failure (α × List Char) → Except Failure (α × List Char)
  | .ok (a, rest) => .ok (a, rest ++ u)
  | .error failure => .error (failure.extend u)


/-! ## The index -/

theorem le_ofDigitChars (digits : List Char) (n : Nat) : n ≤ Nat.ofDigitChars 10 digits n := by
  induction digits generalizing n with
  | nil => exact Nat.le_refl n
  | cons c digits ih =>
    rw [Nat.ofDigitChars_cons]
    exact Nat.le_trans (by omega) (ih _)

/-- An index that was read before the end of the text. -/
theorem index?_append_some (h : index? s = some (index, rest)) (hrest : rest ≠ []) :
    index? (s ++ u) = some (index, rest ++ u) := by
  unfold index? at h
  dsimp only at h
  split at h
  · next hdigits =>
    split at h
    · next r =>
      split at h
      · contradiction
      · next hname =>
        obtain ⟨rfl, rfl⟩ := Prod.mk.inj (Option.some.inj h)
        have hcolon : Stops Char.isDigit (':' :: (r ++ u)) := by simp
        simp [index?, takeWhile_of_stops hcolon, takeWhile_append_of_ne_nil hrest,
          dropWhile_append_of_ne_nil hrest, hname]
    · contradiction
  · next hdigits =>
    split at h
    · next hbound =>
      obtain ⟨rfl, rfl⟩ := Prod.mk.inj (Option.some.inj h)
      simp [index?, takeWhile_append_of_ne_nil hrest, dropWhile_append_of_ne_nil hrest, hdigits,
        hbound]
    · contradiction

/-- An index that is missing stays so, unless only its colon is there.  More digits do not
make a number smaller. -/
theorem index?_append_none (h : index? s = none) (hs : s ≠ []) (hcolon : s ≠ [':']) :
    index? (s ++ u) = none := by
  unfold index? at h
  dsimp only at h
  split at h
  · next hdigits =>
    have hdigit : Stops Char.isDigit (s ++ u) :=
      (stops_of_takeWhile_isEmpty hdigits).append fun hnil => absurd hnil hs
    split at h
    · next r =>
      split at h
      · next hempty =>
        have hname : Stops isNameChar (r ++ u) :=
          (stops_of_takeWhile_isEmpty hempty).append fun hnil => absurd (by rw [hnil]) hcolon
        rw [List.cons_append] at hdigit ⊢
        simp [index?, takeWhile_of_stops hdigit, takeWhile_of_stops hname]
      · contradiction
    · next hnot =>
      obtain ⟨c, r, rfl⟩ := List.exists_cons_of_ne_nil hs
      have hc : c ≠ ':' := fun hc => hnot r (by rw [hc])
      rw [List.cons_append] at hdigit ⊢
      simp [index?, takeWhile_of_stops hdigit, hc]
  · next hdigits =>
    split at h
    · contradiction
    · next hbound =>
      obtain ⟨m, hm⟩ := exists_takeWhile_append_eq Char.isDigit s u
      have hle := le_ofDigitChars m (Nat.ofDigitChars 10 (s.takeWhile Char.isDigit) 0)
      have hnot : ¬Nat.ofDigitChars 10 (s.takeWhile Char.isDigit ++ m) 0 < positionBound := by
        rw [Nat.ofDigitChars_append]
        omega
      have hne : s.takeWhile Char.isDigit ≠ [] := by simpa using hdigits
      simp [index?, hm, hne, hnot]

/-! ## The scanners -/

theorem format_append (h : Settled (format start s)) :
    format (start ++ u) (s ++ u) = extend u (format start s) := by
  unfold format at h ⊢
  dsimp only at h ⊢
  cases hrest : skipBlanks ((skipBlanks s).dropWhile isNameChar) with
  | nil =>
    rw [hrest] at h
    exact absurd h not_settled_unterminated
  | cons c rest =>
    have hmark : skipBlanks ((skipBlanks s).dropWhile isNameChar) ≠ [] := by simp [hrest]
    have hname := ne_nil_of_skipBlanks hmark
    rw [skipBlanks_append_of_ne_nil (ne_nil_of_dropWhile hname),
      takeWhile_append_of_ne_nil hname, dropWhile_append_of_ne_nil hname,
      skipBlanks_append_of_ne_nil hmark, hrest]
    dsimp only [List.cons_append]
    split
    · split <;> rfl
    · rfl

theorem typed_append (h : Settled (typed start index s)) :
    typed (start ++ u) index (s ++ u) = extend u (typed start index s) := by
  unfold typed at h ⊢
  dsimp only at h ⊢
  cases hrest : (skipBlanks s).dropWhile isKeywordChar with
  | nil =>
    rw [hrest] at h
    exact absurd h not_settled_unterminated
  | cons c rest =>
    have hword : (skipBlanks s).dropWhile isKeywordChar ≠ [] := by simp [hrest]
    rw [hrest] at h
    rw [skipBlanks_append_of_ne_nil (ne_nil_of_dropWhile hword),
      takeWhile_append_of_ne_nil hword, dropWhile_append_of_ne_nil hword, hrest]
    dsimp only [List.cons_append] at h ⊢
    split
    · rfl
    · next hnumber =>
      rw [hnumber] at h
      split
      · next hc =>
        dsimp only at h
        rw [if_pos hc] at h
        have hformat : Settled (format start rest) :=
          h.inner fun failure hfailure => by rw [hfailure]; rfl
        rw [format_append hformat]
        cases format start rest <;> rfl
      · rfl
    · split
      · rfl
      · split <;> rfl

theorem head_append (h : Settled (head start s)) :
    head (start ++ u) (s ++ u) = extend u (head start s) := by
  unfold head at h ⊢
  dsimp only at h ⊢
  cases hindex : index? (skipBlanks s) with
  | none =>
    rw [hindex] at h
    dsimp only at h
    have hs : skipBlanks s ≠ [] := by
      intro hnil
      rw [hnil] at h
      exact not_settled_unterminated h
    have hempty : (skipBlanks s).isEmpty = false := by simpa using hs
    rw [hempty] at h
    have hcolon : skipBlanks s ≠ [':'] := fun hcolon => (settled_error.mp h).2 ⟨rfl, hcolon⟩
    have hempty' : (skipBlanks s ++ u).isEmpty = false := by simp [hs]
    rw [skipBlanks_append_of_ne_nil hs, index?_append_none hindex hs hcolon]
    simp only [hempty, hempty']
    rfl
  | some result =>
    obtain ⟨index, r⟩ := result
    rw [hindex] at h
    dsimp only at h ⊢
    cases hrest : skipBlanks r with
    | nil =>
      rw [hrest] at h
      exact absurd h not_settled_unterminated
    | cons c rest =>
      rw [hrest] at h
      have hmark : skipBlanks r ≠ [] := by simp [hrest]
      have hr := ne_nil_of_skipBlanks hmark
      have hs : skipBlanks s ≠ [] := by
        intro hnil
        have hsuffix := index?_suffix hindex
        rw [hnil] at hsuffix
        exact hr (List.suffix_nil.mp hsuffix)
      rw [skipBlanks_append_of_ne_nil hs, index?_append_some hindex hr]
      dsimp only at h ⊢
      rw [skipBlanks_append_of_ne_nil hmark, hrest]
      dsimp only [List.cons_append]
      split
      · rfl
      · next hclose =>
        rw [if_neg hclose] at h
        split
        · next hcomma =>
          rw [if_pos hcomma] at h
          exact typed_append h
        · rfl

theorem key_append (h : Settled (key start s)) :
    key (start ++ u) (s ++ u) = extend u (key start s) := by
  unfold key at h ⊢
  dsimp only at h ⊢
  cases hrest : (skipBlanks s).dropWhile isKeyChar with
  | nil =>
    rw [hrest] at h
    exact absurd h not_settled_unterminated
  | cons c rest =>
    have hword : (skipBlanks s).dropWhile isKeyChar ≠ [] := by simp [hrest]
    rw [skipBlanks_append_of_ne_nil (ne_nil_of_dropWhile hword),
      takeWhile_append_of_ne_nil hword, dropWhile_append_of_ne_nil hword, hrest]
    dsimp only [List.cons_append]
    split
    · split <;> rfl
    · split <;> rfl

theorem nestedKey_append {depth : Nat} (h : Settled (nestedKey limit depth start s)) :
    nestedKey limit depth (start ++ u) (s ++ u) = extend u (nestedKey limit depth start s) := by
  have hkey : Settled (key start s) :=
    h.inner fun failure hfailure => by rw [nestedKey, hfailure]; rfl
  unfold nestedKey
  rw [key_append hkey]
  cases key start s with
  | error failure => rfl
  | ok result =>
    cases limit with
    | none => rfl
    | some bound =>
      simp only [extend, bind, Except.bind]
      split <;> rfl

/-! ## Steps -/

/-- The style with more text behind its token. -/
def OpenStyle.extend (u : List Char) (style : OpenStyle) : OpenStyle :=
  { style with start := style.start ++ u }

/-- The reader with more text to read. -/
def State.extend (u : List Char) (state : State) : State :=
  ⟨state.opened.map (OpenStyle.extend u), state.nodes, state.rest ++ u⟩

/-- What a step comes to with more text to read. -/
def Progress.extend (u : List Char) : Progress → Progress
  | .reading state => .reading (state.extend u)
  | .finished template => .finished template

/-- What a step comes to with more text to read, a failure included. -/
def extendStep (u : List Char) : Except Failure Progress → Except Failure Progress
  | .ok progress => .ok (progress.extend u)
  | .error failure => .error (failure.extend u)

theorem openToken_append (h : Settled (openToken limit opened nodes start s)) :
    openToken limit (opened.map (OpenStyle.extend u)) nodes (start ++ u) (s ++ u) =
      extendStep u (openToken limit opened nodes start s) := by
  have hhead : Settled (head start s) :=
    h.inner fun failure hfailure => by rw [openToken, hfailure]
  unfold openToken at h ⊢
  rw [head_append hhead, List.length_map]
  cases hresult : head start s with
  | error failure => rfl
  | ok result =>
    obtain ⟨token, rest⟩ := result
    cases token with
    | whole node => rfl
    | opening kind index =>
      rw [hresult] at h
      dsimp only [extend] at h ⊢
      have hkey : Settled (nestedKey limit opened.length start rest) :=
        h.inner fun failure hfailure => by rw [hfailure]
      rw [nestedKey_append hkey]
      cases nestedKey limit opened.length start rest <;> rfl

theorem nextStyle_append (h : Settled (nextStyle limit style outer nodes s)) :
    nextStyle limit (style.extend u) (outer.map (OpenStyle.extend u)) nodes (s ++ u) =
      extendStep u (nextStyle limit style outer nodes s) := by
  have hkey : Settled (nestedKey limit outer.length style.start s) :=
    h.inner fun failure hfailure => by rw [nextStyle, hfailure]
  unfold nextStyle
  have hstart : (style.extend u).start = style.start ++ u := rfl
  rw [hstart, List.length_map, nestedKey_append hkey]
  cases nestedKey limit outer.length style.start s <;> rfl

theorem delimiter_append {c : Char} (h : Settled (delimiter limit opened nodes c s)) :
    delimiter limit (opened.map (OpenStyle.extend u)) nodes c (s ++ u) =
      extendStep u (delimiter limit opened nodes c s) := by
  unfold delimiter at h ⊢
  split
  · next hopen =>
    rw [if_pos hopen] at h
    exact openToken_append h
  · next hopen =>
    rw [if_neg hopen] at h
    cases opened with
    | nil => rfl
    | cons style outer =>
      rw [List.map_cons]
      dsimp only at h ⊢
      split
      · next hbar =>
        rw [if_pos hbar] at h
        exact nextStyle_append h
      · rfl

/-- A step that does not come to the end of the text is the same with more text
behind. -/
theorem step_append_of_rest {state : State} (h : Settled (step limit state))
    (hrest : state.rest.dropWhile (isLiteral state.opened.isEmpty) ≠ []) :
    step limit (state.extend u) = extendStep u (step limit state) := by
  obtain ⟨opened, nodes, s⟩ := state
  have hempty : (opened.map (OpenStyle.extend u)).isEmpty = opened.isEmpty := by simp
  dsimp only at hrest
  unfold step at h ⊢
  dsimp only [State.extend] at h ⊢
  rw [hempty, takeWhile_append_of_ne_nil hrest, dropWhile_append_of_ne_nil hrest]
  cases hcons : s.dropWhile (isLiteral opened.isEmpty) with
  | nil => exact absurd hcons hrest
  | cons c rest =>
    rw [hcons] at h
    exact delimiter_append h

/-- A step that comes to the end of the text completes the template, or a token is not
complete. -/
theorem step_of_end (limit : Option Nat) {state : State}
    (h : state.rest.dropWhile (isLiteral state.opened.isEmpty) = []) :
    (∃ template, step limit state = .ok (.finished template)) ∨
      ∃ start, step limit state = .error ⟨.unterminatedToken, start⟩ := by
  unfold step
  dsimp only
  rw [h]
  dsimp only
  split
  · exact .inl ⟨_, rfl⟩
  · exact .inr ⟨_, rfl⟩

/-- A step that goes on does so with more text behind. -/
theorem step_append_reading {state next : State} (h : step limit state = .ok (.reading next)) :
    step limit (state.extend u) = .ok (.reading (next.extend u)) := by
  have hsettled : Settled (step limit state) := by
    rw [h]
    exact settled_ok _
  have hrest : state.rest.dropWhile (isLiteral state.opened.isEmpty) ≠ [] := by
    intro hend
    rcases step_of_end limit hend with ⟨_, hstep⟩ | ⟨_, hstep⟩ <;> simp [hstep] at h
  rw [step_append_of_rest hsettled hrest, h]
  rfl

/-- A definite fault is met with more text behind too. -/
theorem step_append_error {state : State} (h : step limit state = .error failure)
    (hdefinite : failure.Definite) :
    step limit (state.extend u) = .error (failure.extend u) := by
  have hsettled : Settled (step limit state) := by
    rw [h]
    exact settled_error.mpr hdefinite
  have hrest : state.rest.dropWhile (isLiteral state.opened.isEmpty) ≠ [] := by
    intro hend
    rcases step_of_end limit hend with ⟨_, hstep⟩ | ⟨_, hstep⟩
    · simp [hstep] at h
    · rw [hstep] at hsettled
      exact not_settled_unterminated hsettled
  rw [step_append_of_rest hsettled hrest, h]
  rfl

/-! ## Runs -/

/-- A run that meets a definite fault meets it with more text behind too. -/
theorem run_append_error {state : State} (h : run limit state = .error failure)
    (hdefinite : failure.Definite) :
    run limit (state.extend u) = .error (failure.extend u) := by
  refine run_failure_induction h (fun state hstep => ?_) fun state next hstep ih => ?_
  · exact run_of_failure (step_append_error hstep hdefinite)
  · rw [run_of_step (step_append_reading hstep), ih]

/-- More text behind does not move a place. -/
theorem placeOf_append_right (h : rest <:+ s) : placeOf (s ++ u) (rest ++ u) = placeOf s rest := by
  have hle := h.length_le
  have hlength : (s ++ u).length - (rest ++ u).length = s.length - rest.length := by
    rw [List.length_append, List.length_append]
    omega
  rw [placeOf, placeOf, hlength, List.take_append_of_le_length (Nat.sub_le _ _)]

end Reader

/-! ## Parsing -/

namespace Template

open Reader (run_of_failure)

variable {limit : Option Nat} {a b : String} {e : ParseError}

/-- The fault lies at the last character of the text, a colon that should begin an
index. -/
def EndsAtColon (a : String) (e : ParseError) : Prop :=
  e.cause = .missingIndex ∧ ∃ front : String, a = front ++ ":" ∧ e.position = .after front.toList

theorem read_error_append (h : read limit a = .error e) (hcause : e.cause ≠ .unterminatedToken)
    (hcolon : ¬EndsAtColon a e) : read limit (a ++ b) = .error e := by
  obtain ⟨failure, hfailure, rfl⟩ := read_eq_error.mp h
  obtain ⟨front, hfront⟩ := Reader.failure_suffix hfailure
  have hdefinite : failure.Definite := by
    refine ⟨hcause, fun ⟨hmissing, hrest⟩ => hcolon ⟨hmissing, String.ofList front, ?_, ?_⟩⟩
    · rw [← String.toList_inj, ← hfront, hrest]
      simp
    · rw [Reader.Failure.toError, ← hfront, Reader.placeOf_append_self, String.toList_ofList]
  have hrun := Reader.run_append_error (u := b.toList) hfailure hdefinite
  refine read_eq_error.mpr ⟨failure.extend b.toList, ?_, ?_⟩
  · rw [String.toList_append]
    exact hrun
  · rw [String.toList_append, Reader.Failure.toError, Reader.Failure.toError]
    exact congrArg _ (Reader.placeOf_append_right ⟨front, hfront⟩).symm

/-- A definite error is final: whatever stands behind the text, the error is the same, and
so is its place.  A token that does not end is no definite error, nor is a missing index
when the text ends with its colon. -/
theorem parse_error_append (a b : String) (e : ParseError) (h : parse a = .error e)
    (hcause : e.cause ≠ .unterminatedToken) (hcolon : ¬EndsAtColon a e) :
    parse (a ++ b) = .error e :=
  read_error_append h hcause hcolon

/-- An unknown keyword stays unknown.  Behind the colon of an index a name may still
follow. -/
theorem parse_error_append_unknownKeyword :
    parse "\n\x7b0,mapp\x7d" = .error ⟨.unknownTokenType "mapp" ["map"], ⟨2, 4⟩⟩ ∧
      parse ("\n\x7b0,mapp\x7d" ++ "|\x7b") =
        .error ⟨.unknownTokenType "mapp" ["map"], ⟨2, 4⟩⟩ ∧
      EndsAtColon "\x7b:" ⟨.missingIndex, ⟨1, 2⟩⟩ ∧
      parse "\x7b:" = .error ⟨.missingIndex, ⟨1, 2⟩⟩ ∧
      parse ("\x7b:" ++ "n\x7d") = .ok [.param (.named "n")] := by
  have hunknown : parse "\n\x7b0,mapp\x7d" =
      .error ⟨.unknownTokenType "mapp" ["map"], ⟨2, 4⟩⟩ :=
    read_eq_error.mpr ⟨⟨.unknownKeyword "mapp", "mapp\x7d".toList⟩, run_of_failure rfl, by decide⟩
  have hmissing : parse "\x7b:" = .error ⟨.missingIndex, ⟨1, 2⟩⟩ :=
    read_eq_error.mpr ⟨⟨.missingIndex, [':']⟩, run_of_failure rfl, by decide⟩
  have hnamed : parse ("\x7b:" ++ "n\x7d") = .ok [.param (.named "n")] :=
    @read_print (some maxNesting) [.param (.named "n")] (by decide) (allows_some.mpr (by decide))
  refine ⟨hunknown, ?_, ⟨rfl, "\x7b", by decide, by decide⟩, hmissing, hnamed⟩
  refine parse_error_append _ _ _ hunknown (by simp) fun ⟨hcause, _⟩ => ?_
  simp at hcause

end Template

end MessageTemplate
