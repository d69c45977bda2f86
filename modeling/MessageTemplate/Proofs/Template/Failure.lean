import MessageTemplate.Proofs.Template.Step

/-!
# Failures

A failure carries the rest of the text from the place of the fault, and that rest shows
the cause: the brace of the token, the character that was found, the keyword that is not
known.  `Cause.Begins` says this for each cause.

Behind the index of a token the scanners fail in five ways, which `Failure.Inside` lists.
`Fault` lists the steps that fail, in the way in which `Move` lists those that go on, and
`Halt` says what such a step has met.  Every token that is open begins in the text that is read,
so every failure is a suffix of that text.
-/

namespace MessageTemplate

open Text

/-- What the text from the place of a fault on begins with. -/
def Cause.Begins : Cause → List Char → Prop
  | .unterminatedToken, s | .nestingTooDeep _, s => s.head? = some '\x7b'
  | .unbalancedDelimiter, s => s.head? = some '\x7d'
  | .missingIndex, s => ∃ c ∈ s.head?, isAsciiBlank c = false
  | .unknownTokenType name _, s => name ∉ keywords ∧
      ∃ u c rest, s = name.toList ++ u ++ c :: rest ∧ Only isBlank u ∧ (c = ',' ∨ c = '\x7d')
  | .unexpectedCharacter found, s =>
      s.head? = some found ∧ found ≠ ',' ∧ found ≠ '\x7d' ∧ isAsciiBlank found = false
  | .malformedStyle _, s => s ≠ []

namespace Reader

variable {limit : Option Nat} {opened outer : List OpenStyle} {style : OpenStyle}
  {nodes : List Node} {start s t w source : List Char} {index : Index} {failure : Failure}

/-! ## Failures of the scanners -/

/-- The failures behind the index of a token: at the start of the token, or in the text
`s`, which shows the cause. -/
inductive Failure.Inside (start s : List Char) : Failure → Prop where
  | unterminated : Inside start s ⟨.unterminatedToken, start⟩
  | tooDeep {bound : Nat} : Inside start s ⟨.nestingTooDeep bound, start⟩
  | unknown {name : String} {suggestions : List String} {rest : List Char} (hrest : rest <:+ s)
      (hbegins : (Cause.unknownTokenType name suggestions).Begins rest) :
      Inside start s ⟨.unknownTokenType name suggestions, rest⟩
  | unexpected {found : Char} {rest : List Char} (hrest : rest <:+ s)
      (hbegins : (Cause.unexpectedCharacter found).Begins rest) :
      Inside start s ⟨.unexpectedCharacter found, rest⟩
  | malformed {detail : String} {rest : List Char} (hrest : rest <:+ s)
      (hbegins : (Cause.malformedStyle detail).Begins rest) :
      Inside start s ⟨.malformedStyle detail, rest⟩

theorem Failure.Inside.mono (h : failure.Inside start s) (hst : s <:+ t) :
    failure.Inside start t := by
  cases h with
  | unterminated => exact .unterminated
  | tooDeep => exact .tooDeep
  | unknown hrest hbegins => exact .unknown (hrest.trans hst) hbegins
  | unexpected hrest hbegins => exact .unexpected (hrest.trans hst) hbegins
  | malformed hrest hbegins => exact .malformed (hrest.trans hst) hbegins

/-- A token and a text that both lie in a source keep the fault there. -/
theorem Failure.Inside.suffix (h : failure.Inside start s) (hstart : start <:+ source)
    (hs : s <:+ source) : failure.rest <:+ source := by
  cases h with
  | unterminated | tooDeep => exact hstart
  | unknown hrest _ | unexpected hrest _ | malformed hrest _ => exact hrest.trans hs

/-- The text from the place of the fault on shows the cause. -/
theorem Failure.Inside.begins (h : failure.Inside start s) (hstart : start.head? = some '\x7b') :
    failure.cause.Begins failure.rest := by
  cases h with
  | unterminated | tooDeep => exact hstart
  | unknown _ hbegins | unexpected _ hbegins | malformed _ hbegins => exact hbegins

theorem format_failure (h : format start s = .error failure) : failure.Inside start s := by
  have hskip := skipBlanks_suffix s
  unfold format at h
  dsimp only at h
  split at h
  · obtain rfl := Except.error.inj h
    exact .unterminated
  · next c rest hrest =>
    have hmark : skipBlanks ((skipBlanks s).dropWhile isNameChar) ≠ [] := by simp [hrest]
    split at h
    · split at h
      · obtain rfl := Except.error.inj h
        exact .malformed hskip (ne_nil_of_dropWhile (ne_nil_of_skipBlanks hmark))
      · contradiction
    · obtain rfl := Except.error.inj h
      refine .malformed ?_ (List.cons_ne_nil c rest)
      rw [← hrest]
      exact (skipBlanks_suffix _).trans ((List.dropWhile_suffix _).trans hskip)

/-- A word that is no keyword is none of the keywords. -/
theorem not_mem_keywords (h : keyword? w = none) : String.ofList w ∉ keywords := by
  intro hmem
  unfold keyword? at h
  simp only [keywords, List.mem_cons, List.not_mem_nil, or_false] at hmem
  rcases hmem with hw | hw | hw | hw | hw <;> rw [hw] at h <;> contradiction

/-- A keyword that is not known is reported where it begins. -/
theorem begins_unknownKeyword {c : Char} {rest : List Char}
    (hword : keyword? (trimEnd (s.takeWhile isKeywordChar)) = none)
    (hrest : s.dropWhile isKeywordChar = c :: rest) :
    (Cause.unknownKeyword (String.ofList (trimEnd (s.takeWhile isKeywordChar)))).Begins s := by
  obtain ⟨u, hu, hrun⟩ := exists_eq_trimEnd_append (s.takeWhile isKeywordChar)
  refine ⟨not_mem_keywords hword, u, c, rest, ?_, hu, mark_of_dropWhile hrest⟩
  rw [String.toList_ofList, ← hrun, ← hrest, List.takeWhile_append_dropWhile]

theorem typed_failure (h : typed start index s = .error failure) : failure.Inside start s := by
  have hskip := skipBlanks_suffix s
  have hword : (skipBlanks s).dropWhile isKeywordChar <:+ s :=
    (List.dropWhile_suffix _).trans hskip
  unfold typed at h
  dsimp only at h
  split at h
  · obtain rfl := Except.error.inj h
    exact .unterminated
  · next c rest hrest =>
    have hne : (skipBlanks s).dropWhile isKeywordChar ≠ [] := by simp [hrest]
    rw [hrest] at hword
    split at h
    · next hnone =>
      obtain rfl := Except.error.inj h
      exact .unknown hskip (begins_unknownKeyword hnone hrest)
    · split at h
      · cases hformat : format start rest with
        | error e =>
          rw [hformat] at h
          obtain rfl := Except.error.inj h
          exact (format_failure hformat).mono (suffix_of_cons hword)
        | ok result =>
          rw [hformat] at h
          contradiction
      · contradiction
    · split at h
      · contradiction
      · split at h
        · obtain rfl := Except.error.inj h
          exact .malformed hskip (ne_nil_of_dropWhile hne)
        · obtain rfl := Except.error.inj h
          exact .malformed hskip (ne_nil_of_dropWhile hne)
        · contradiction
        · contradiction

/-- A head fails because there is no index behind its blanks, or behind its index. -/
theorem head_failure (h : head start s = .error failure) :
    (failure.cause = .missingIndex ∧ failure.cause.Begins failure.rest ∧
      ∃ a, Only isAsciiBlank a ∧ s = a ++ failure.rest) ∨ failure.Inside start s := by
  unfold head at h
  dsimp only at h
  split at h
  · have hfailure := Except.error.inj h
    split at hfailure
    · obtain rfl := hfailure
      exact .inr .unterminated
    · next hempty =>
      obtain rfl := hfailure
      obtain ⟨a, ha, hs⟩ := exists_eq_append_skipBlanks s
      obtain ⟨c, rest, hcons⟩ := List.exists_cons_of_ne_nil (by simpa using hempty)
      have hstop : Stops isAsciiBlank (skipBlanks s) := stops_skipBlanks
      rw [hcons] at hstop
      refine .inl ⟨rfl, ⟨c, ?_, stops_cons.mp hstop⟩, a, ha, hs⟩
      rw [hcons]
      rfl
  · next index r hindex =>
    have hskip : skipBlanks r <:+ s :=
      (skipBlanks_suffix _).trans ((index?_suffix hindex).trans (skipBlanks_suffix s))
    split at h
    · obtain rfl := Except.error.inj h
      exact .inr .unterminated
    · next c rest hrest =>
      have hstop : Stops isAsciiBlank (skipBlanks r) := stops_skipBlanks
      rw [hrest] at hskip hstop
      split at h
      · contradiction
      · next hclose =>
        split at h
        · exact .inr ((typed_failure h).mono (suffix_of_cons hskip))
        · next hcomma =>
          obtain rfl := Except.error.inj h
          exact .inr (.unexpected hskip ⟨rfl, hcomma, hclose, stops_cons.mp hstop⟩)

theorem key_failure (h : key start s = .error failure) : failure.Inside start s := by
  have hskip := skipBlanks_suffix s
  have hword : (skipBlanks s).dropWhile isKeyChar <:+ s := (List.dropWhile_suffix _).trans hskip
  unfold key at h
  dsimp only at h
  split at h
  · obtain rfl := Except.error.inj h
    exact .unterminated
  · next c rest hrest =>
    have hne : (skipBlanks s).dropWhile isKeyChar ≠ [] := by simp [hrest]
    rw [hrest] at hword
    split at h
    · split at h
      · obtain rfl := Except.error.inj h
        exact .malformed hskip (ne_nil_of_dropWhile hne)
      · contradiction
    · split at h
      · obtain rfl := Except.error.inj h
        exact .malformed hskip (ne_nil_of_dropWhile hne)
      · obtain rfl := Except.error.inj h
        exact .malformed hword (List.cons_ne_nil c rest)

theorem nestedKey_failure {depth : Nat} (h : nestedKey limit depth start s = .error failure) :
    failure.Inside start s := by
  unfold nestedKey at h
  cases hkey : key start s with
  | error e =>
    simp only [hkey, bind, Except.bind] at h
    obtain rfl := Except.error.inj h
    exact key_failure hkey
  | ok result =>
    simp only [hkey, bind, Except.bind] at h
    split at h
    · split at h
      · obtain rfl := Except.error.inj h
        exact .tooDeep
      · contradiction
    · contradiction

/-! ## The steps that fail -/

/-- The steps that fail, with the scanner that fails in them. -/
inductive Fault (limit : Option Nat) : State → Failure → Prop where
  /-- The text ends inside a style. -/
  | unfinished {style : OpenStyle} {outer : List OpenStyle} {nodes : List Node} {s : List Char} :
      Fault limit ⟨style :: outer, nodes, s⟩ ⟨.unterminatedToken, style.start⟩
  | unbalanced {nodes : List Node} {w rest : List Char} (hw : Only (isLiteral true) w) :
      Fault limit ⟨[], nodes, w ++ '\x7d' :: rest⟩ ⟨.unbalancedDelimiter, '\x7d' :: rest⟩
  | head {opened : List OpenStyle} {nodes : List Node} {w s : List Char} {failure : Failure}
      (hw : Only (isLiteral opened.isEmpty) w) (hhead : head ('\x7b' :: s) s = .error failure) :
      Fault limit ⟨opened, nodes, w ++ '\x7b' :: s⟩ failure
  /-- The key of the first style of a token. -/
  | firstKey {opened : List OpenStyle} {nodes : List Node} {w s rest : List Char} {kind : Kind}
      {index : Index} {failure : Failure} (hw : Only (isLiteral opened.isEmpty) w)
      (hhead : head ('\x7b' :: s) s = .ok (.opening kind index, rest))
      (hkey : nestedKey limit opened.length ('\x7b' :: s) rest = .error failure) :
      Fault limit ⟨opened, nodes, w ++ '\x7b' :: s⟩ failure
  /-- The key of a further style. -/
  | nextKey {style : OpenStyle} {outer : List OpenStyle} {nodes : List Node} {w s : List Char}
      {failure : Failure} (hw : Only (isLiteral false) w)
      (hkey : nestedKey limit outer.length style.start s = .error failure) :
      Fault limit ⟨style :: outer, nodes, w ++ '|' :: s⟩ failure

theorem fault_of_openToken {before : List Node} (hw : Only (isLiteral opened.isEmpty) w)
    (h : openToken limit opened nodes ('\x7b' :: s) s = .error failure) :
    Fault limit ⟨opened, before, w ++ '\x7b' :: s⟩ failure := by
  unfold openToken at h
  split at h
  · next hhead =>
    obtain rfl := Except.error.inj h
    exact .head hw hhead
  · contradiction
  · next hhead =>
    split at h
    · next hkey =>
      obtain rfl := Except.error.inj h
      exact .firstKey hw hhead hkey
    · contradiction

theorem fault_of_nextStyle {before : List Node} (hw : Only (isLiteral false) w)
    (h : nextStyle limit style outer nodes s = .error failure) :
    Fault limit ⟨style :: outer, before, w ++ '|' :: s⟩ failure := by
  unfold nextStyle at h
  split at h
  · next hkey =>
    obtain rfl := Except.error.inj h
    exact .nextKey hw hkey
  · contradiction

/-- A step that fails has one of these faults. -/
theorem fault_of_step {state : State} (h : step limit state = .error failure) :
    Fault limit state failure := by
  obtain ⟨opened, nodes, s⟩ := state
  have hw : Only (isLiteral opened.isEmpty) (s.takeWhile (isLiteral opened.isEmpty)) :=
    only_takeWhile
  have hstop : Stops (isLiteral opened.isEmpty) (s.dropWhile (isLiteral opened.isEmpty)) :=
    stops_dropWhile
  have hs := List.takeWhile_append_dropWhile (p := isLiteral opened.isEmpty) (l := s)
  unfold step at h
  dsimp only at h
  generalize s.takeWhile (isLiteral opened.isEmpty) = w at h hw hs
  split at h
  · split at h
    · contradiction
    · obtain rfl := Except.error.inj h
      exact .unfinished
  · next c rest hrest =>
    rw [hrest] at hs hstop
    subst hs
    unfold delimiter at h
    split at h
    · next hopen =>
      subst hopen
      exact fault_of_openToken hw h
    · next hopen =>
      split at h
      · have hc := eq_of_not_isLiteral (stops_cons.mp hstop)
        obtain rfl : c = '\x7d' := by simpa [hopen] using hc
        obtain rfl := Except.error.inj h
        exact .unbalanced hw
      · split at h
        · next hbar =>
          subst hbar
          exact fault_of_nextStyle hw h
        · contradiction

/-- The steps that fail, with what they have met. -/
inductive Halt : State → Failure → Prop where
  /-- The text ends inside a style. -/
  | unfinished {style : OpenStyle} {outer : List OpenStyle} {nodes : List Node} {s : List Char} :
      Halt ⟨style :: outer, nodes, s⟩ ⟨.unterminatedToken, style.start⟩
  | unbalanced {nodes : List Node} {w rest : List Char} (hw : Only (isLiteral true) w) :
      Halt ⟨[], nodes, w ++ '\x7d' :: rest⟩ ⟨.unbalancedDelimiter, '\x7d' :: rest⟩
  | noIndex {opened : List OpenStyle} {nodes : List Node} {w a : List Char} {failure : Failure}
      (hcause : failure.cause = .missingIndex) (hbegins : failure.cause.Begins failure.rest)
      (ha : Only isAsciiBlank a) : Halt ⟨opened, nodes, w ++ '\x7b' :: (a ++ failure.rest)⟩ failure
  | inToken {opened : List OpenStyle} {nodes : List Node} {w s : List Char} {failure : Failure}
      (h : failure.Inside ('\x7b' :: s) s) : Halt ⟨opened, nodes, w ++ '\x7b' :: s⟩ failure
  /-- The key of a further style. -/
  | inStyles {style : OpenStyle} {outer : List OpenStyle} {nodes : List Node} {w s : List Char}
      {failure : Failure} (h : failure.Inside style.start s) :
      Halt ⟨style :: outer, nodes, w ++ '|' :: s⟩ failure

/-- A step that fails has met one of these. -/
theorem halt_of_step {state : State} (h : step limit state = .error failure) :
    Halt state failure := by
  cases fault_of_step h with
  | unfinished => exact .unfinished
  | unbalanced hw => exact .unbalanced hw
  | head _ hhead =>
    rcases head_failure hhead with ⟨hcause, hbegins, a, ha, hs⟩ | hinside
    · rw [hs]
      exact .noIndex hcause hbegins ha
    · exact .inToken hinside
  | firstKey _ hhead hkey => exact .inToken ((nestedKey_failure hkey).mono (head_suffix hhead))
  | nextKey _ hkey => exact .inStyles (nestedKey_failure hkey)

/-! ## Failures of the reader -/

/-- The rest of the text and the starts of the open tokens are suffixes of the
source. -/
structure State.LiesIn (state : State) (source : List Char) : Prop where
  rest : state.rest <:+ source
  starts : ∀ style ∈ state.opened, style.start <:+ source

/-- What is left after a part of the text lies in the source too. -/
theorem suffix_of_append (h : s ++ t <:+ source) : t <:+ source :=
  (List.suffix_append s t).trans h

/-- A step that fails reports a place in the source. -/
theorem Halt.suffix {state : State} (h : Halt state failure) (hstate : state.LiesIn source) :
    failure.rest <:+ source := by
  obtain ⟨hrest, hstarts⟩ := hstate
  cases h with
  | unfinished => exact hstarts _ List.mem_cons_self
  | unbalanced _ => exact suffix_of_append hrest
  | noIndex _ _ _ => exact suffix_of_append (suffix_of_cons (suffix_of_append hrest))
  | inToken hinside =>
    have hstart := suffix_of_append hrest
    exact hinside.suffix hstart (suffix_of_cons hstart)
  | inStyles hinside =>
    exact hinside.suffix (hstarts _ List.mem_cons_self) (suffix_of_cons (suffix_of_append hrest))

/-- A move stays in the source, and a token that it opens begins there. -/
theorem Move.liesIn {state next : State} (hmove : Move limit state next)
    (h : state.LiesIn source) : next.LiesIn source := by
  obtain ⟨hrest, hstarts⟩ := h
  cases hmove with
  | whole _ _ _ => exact ⟨suffix_of_append (suffix_of_append hrest), hstarts⟩
  | @opening opened nodes w o k start rest kind index word _ _ _ _ hstart =>
    have hs : start <:+ source := suffix_of_append hrest
    refine ⟨?_, ?_⟩
    · rw [hstart] at hs
      exact suffix_of_append (suffix_of_cons (suffix_of_append hs))
    · intro style hmem
      rcases List.mem_cons.mp hmem with rfl | hmem
      · exact hs
      · exact hstarts style hmem
  | @bar style _ _ _ _ _ _ _ _ _ =>
    refine ⟨suffix_of_append (suffix_of_cons (suffix_of_append hrest)), ?_⟩
    intro other hmem
    rcases List.mem_cons.mp hmem with rfl | hmem
    · exact hstarts style List.mem_cons_self
    · exact hstarts other (List.mem_cons_of_mem _ hmem)
  | close _ =>
    refine ⟨suffix_of_cons (suffix_of_append hrest), ?_⟩
    intro style hmem
    exact hstarts style (List.mem_cons_of_mem _ hmem)

/-- A run that fails reports a place in the source. -/
theorem run_failure {state : State} (hstate : state.LiesIn source)
    (h : run limit state = .error failure) : failure.rest <:+ source := by
  revert hstate
  refine run_failure_induction h (fun state hstep hstate => ?_) fun state next hstep ih hstate => ?_
  · exact (halt_of_step hstep).suffix hstate
  · exact ih ((move_of_step hstep).liesIn hstate)

/-- The place of a failure is in the text that is read. -/
theorem failure_suffix (h : run limit ⟨[], nodes, s⟩ = .error failure) : failure.rest <:+ s :=
  run_failure ⟨List.suffix_rfl, by simp⟩ h

end Reader

end MessageTemplate
