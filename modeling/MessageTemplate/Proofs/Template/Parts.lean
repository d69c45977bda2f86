import MessageTemplate.Proofs.Template.Settles

/-!
# The parts of a token under the cursor

The procedures that call no list: the index of a token, the name of a number format, the key of a
style, and the token around them.  Each reports what the scanner of the reader comes to on the
same text.  They skip blanks and retry where a scanner looks only once, so each proof goes through
the lines of the procedure and ends them in a case of the scanner.

The styles of a token are still a hypothesis here: the loops are put together from these lemmas
once all of them are known.
-/

namespace MessageTemplate.Cursor

open Text
open Reader (Failure isNameChar isKeywordChar isKeyChar keyword? positionBound)

variable {limit : Option Nat} {source s t rest start : List Char} {depth n : Nat}

/-! ## The index -/

/-- What reading an index comes to. -/
def indexOutcome (start s : List Char) : Except Failure (Index × List Char) :=
  match Reader.index? s with
  | some result => .ok result
  | none => .error (if s.isEmpty then ⟨.unterminatedToken, start⟩ else ⟨.missingIndex, s⟩)

theorem indexOutcome_eq_ok {index : Index} (h : indexOutcome start s = .ok (index, rest)) :
    Reader.index? s = some (index, rest) := by
  unfold indexOutcome at h
  split at h
  · next hindex => rw [hindex, Except.ok.inj h]
  · contradiction

theorem head_of_indexOutcome {failure : Failure}
    (h : indexOutcome start (Text.skipBlanks s) = .error failure) :
    Reader.head start s = .error failure := by
  unfold indexOutcome at h
  split at h
  · contradiction
  · next hindex =>
    simp only [Reader.head, hindex, Except.error.inj h]

theorem length_lt_of_index? {index : Index} (h : Reader.index? s = some (index, rest)) :
    rest.length < s.length := by
  obtain ⟨i, hi, rfl⟩ := Reader.indexText_of_index? h
  have hpos : 0 < i.length := by
    cases hi with
    | position hne _ _ => exact List.length_pos_iff.mpr hne
    | named _ _ => exact Nat.succ_pos _
  rw [List.length_append]
  omega

/-- A colon and a name, with the text behind it. -/
def named? : List Char → Option (List Char × List Char)
  | ':' :: t =>
    if (t.takeWhile isNameChar).isEmpty then none
    else some (t.takeWhile isNameChar, t.dropWhile isNameChar)
  | _ => none

theorem settles_namedIndex? :
    Settles source depth s namedIndex?
      (fun result rest => ∃ found, result = .ok found ∧ found.map (·, rest) = named? s) := by
  refine settles_input ?_
  split
  · next t =>
    refine settles_moveTo (settles_takeSome? (f := pure) (settles_pure ⟨_, rfl, ?_⟩))
    rw [named?]
    split <;> rfl
  · next h =>
    refine settles_pure ⟨none, rfl, ?_⟩
    rw [named?]
    · rfl
    · exact h

/-- Without digits an index is a colon and a name. -/
theorem index?_of_no_digits (h : (s.takeWhile Char.isDigit).isEmpty = true) :
    Reader.index? s = (named? s).map fun found => (.named (String.ofList found.1), found.2) := by
  unfold Reader.index?
  dsimp only
  rw [if_pos h]
  split
  · next t =>
    rw [named?]
    by_cases hname : (t.takeWhile isNameChar).isEmpty = true
    · rw [if_pos hname, if_pos hname]
      rfl
    · rw [if_neg hname, if_neg hname]
      rfl
  · next hcolon =>
    rw [named?]
    · rfl
    · exact hcolon

theorem index?_of_digits (h : ¬(s.takeWhile Char.isDigit).isEmpty = true) :
    Reader.index? s =
      if Nat.ofDigitChars 10 (s.takeWhile Char.isDigit) 0 < positionBound then
        some (.position (Nat.ofDigitChars 10 (s.takeWhile Char.isDigit) 0),
          s.dropWhile Char.isDigit)
      else none := by
  unfold Reader.index?
  dsimp only
  rw [if_neg h]

theorem settles_indexOutcome {index : Index} (h : Reader.index? s = some (index, rest)) :
    Settles source depth rest (pure index) (Reports source s (· = indexOutcome start s)) := by
  refine settles_return (Reader.index?_suffix h) ?_
  rw [indexOutcome, h]

/-- A text without an index is reported where it begins, or as the end of the token. -/
theorem settles_noIndex (hstart : start <:+ source) (hs : s <:+ source) (hrest : rest <:+ s)
    (h : Reader.index? s = none) :
    Settles source depth rest
      (if s.isEmpty then fail source .unterminatedToken start else fail source .missingIndex s)
      (Reports source s (· = indexOutcome start s)) := by
  by_cases hempty : s.isEmpty = true
  · rw [if_pos hempty]
    refine settles_fail hstart hrest ?_
    simp only [indexOutcome, h, if_pos hempty]
  · rw [if_neg hempty]
    refine settles_fail hs hrest ?_
    simp only [indexOutcome, h, if_neg hempty]

theorem settles_index (hstart : start <:+ source) (hs : s <:+ source) :
    Settles source depth s (index source start) (Reports source s (· = indexOutcome start s)) := by
  refine Settles.returning (settles_input (settles_takeSome? ?_)) fun _ index rest h =>
    length_lt_of_index? (indexOutcome_eq_ok h.symm)
  by_cases hdigits : (s.takeWhile Char.isDigit).isEmpty = true
  · have hindex := index?_of_no_digits hdigits
    have hnone : s.dropWhile Char.isDigit = s :=
      dropWhile_of_stops (stops_of_takeWhile_isEmpty hdigits)
    rw [if_pos hdigits, hnone]
    refine settles_namedIndex?.bind ?_ (by rintro _ _ ⟨_, ⟨⟩, _⟩)
    rintro found rest ⟨_, ⟨⟩, hfound⟩
    rw [← hfound] at hindex
    cases found with
    | some name => exact settles_indexOutcome hindex
    | none => exact settles_moveTo (settles_noIndex hstart hs List.suffix_rfl hindex)
  · have hindex := index?_of_digits hdigits
    have hne : ¬s.isEmpty = true := by
      cases s with
      | nil => exact absurd rfl hdigits
      | cons c s => exact Bool.false_ne_true
    rw [if_neg hdigits]
    dsimp only
    by_cases hbound : Nat.ofDigitChars 10 (s.takeWhile Char.isDigit) 0 < positionBound
    · rw [if_pos hbound] at hindex ⊢
      exact settles_indexOutcome hindex
    · rw [if_neg hbound] at hindex ⊢
      have hfail : Settles source depth _ _ _ :=
        settles_noIndex hstart hs (List.dropWhile_suffix Char.isDigit) hindex
      rwa [if_neg hne] at hfail

/-! ## The name of a number format -/

theorem settles_format (hstart : start <:+ source) (hs : s <:+ source) :
    Settles source depth s (format source start)
      (Reports source s (· = Reader.format start s)) := by
  refine Settles.returning ?_ fun hadvances => hadvances.elim
  refine settles_skipBlanks (settles_input (settles_takeSome? (settles_skipBlanks
    (settles_input ?_))))
  have hskip : Text.skipBlanks s <:+ s := skipBlanks_suffix s
  have hrest : Text.skipBlanks ((Text.skipBlanks s).dropWhile isNameChar) <:+ s :=
    (skipBlanks_suffix _).trans ((List.dropWhile_suffix _).trans hskip)
  cases hmark : Text.skipBlanks ((Text.skipBlanks s).dropWhile isNameChar) with
  | nil =>
    refine settles_fail hstart List.nil_suffix ?_
    simp only [Reader.format, hmark]
  | cons c rest =>
    rw [hmark] at hrest
    dsimp only
    rw [getD_ite_isEmpty]
    by_cases hc : c = '\x7d'
    · subst hc
      rw [if_pos rfl]
      by_cases hname : ((Text.skipBlanks s).takeWhile isNameChar).isEmpty = true
      · rw [if_pos hname]
        refine settles_fail (hskip.trans hs) hrest ?_
        simp only [Reader.format, hmark, if_pos, hname]
      · rw [if_neg hname]
        refine settles_sliceByte (by decide)
          (settles_return (Reader.suffix_of_cons hrest) ?_)
        simp only [Reader.format, hmark, if_pos, if_neg hname]
    · rw [if_neg hc]
      refine settles_fail (hrest.trans hs) hrest ?_
      simp only [Reader.format, hmark, if_neg hc]

/-! ## The key of a style -/

theorem settles_key (hstart : start <:+ source) (hs : s <:+ source) :
    Settles source depth s (key source start) (Reports source s (· = Reader.key start s)) := by
  refine settles_skipBlanks (settles_input (settles_takeSome? (settles_skipBlanks
    (settles_input ?_))))
  have hskip : Text.skipBlanks s <:+ s := skipBlanks_suffix s
  have hrest : (Text.skipBlanks s).dropWhile isKeyChar <:+ s :=
    (List.dropWhile_suffix _).trans hskip
  -- A key goes on over blanks, so there are none behind it.
  have hblank : Text.skipBlanks ((Text.skipBlanks s).dropWhile isKeyChar) =
      (Text.skipBlanks s).dropWhile isKeyChar := by
    refine dropWhile_of_stops (stops_dropWhile.mono fun c hc => ?_)
    exact Reader.isKeyChar_of_isBlank (isBlank_of_isAsciiBlank hc)
  rw [hblank]
  cases hmark : (Text.skipBlanks s).dropWhile isKeyChar with
  | nil =>
    refine settles_fail hstart List.nil_suffix ?_
    simp only [Reader.key, hmark]
  | cons c rest =>
    rw [hmark] at hrest
    dsimp only
    rw [getD_ite_isEmpty]
    by_cases hc : c = '#'
    · subst hc
      rw [if_pos rfl]
      by_cases hword : (trimEnd ((Text.skipBlanks s).takeWhile isKeyChar)).isEmpty = true
      · rw [if_pos hword]
        refine settles_fail (hskip.trans hs) hrest ?_
        simp only [Reader.key, hmark, if_pos, hword]
      · rw [if_neg hword]
        refine settles_sliceByte (by decide) (settles_return (Reader.suffix_of_cons hrest) ?_)
        simp only [Reader.key, hmark, if_pos, if_neg hword]
    · rw [if_neg hc]
      by_cases hword : (trimEnd ((Text.skipBlanks s).takeWhile isKeyChar)).isEmpty = true
      · rw [if_pos hword]
        refine settles_fail (hskip.trans hs) hrest ?_
        simp only [Reader.key, hmark, if_neg hc, if_pos hword]
      · rw [if_neg hword]
        refine settles_fail (hrest.trans hs) hrest ?_
        simp only [Reader.key, hmark, if_neg hc, if_neg hword]

/-! ## What follows the index of a token -/

/-- What a token comes to when its head comes to the first outcome. -/
inductive TokenEnd (limit : Option Nat) (start : List Char) (depth : Nat) :
    Except Failure (Reader.Head × List Char) → Except Failure (Node × List Char) → Prop where
  | headFails {failure : Failure} : TokenEnd limit start depth (.error failure) (.error failure)
  | whole {node : Node} {rest : List Char} :
      TokenEnd limit start depth (.ok (.whole node, rest)) (.ok (node, rest))
  | stylesFail {kind : Kind} {index : Index} {rest : List Char} {failure : Failure}
      (hstyles : Reader.Call limit (.styles start) depth rest depth (.error failure)) :
      TokenEnd limit start depth (.ok (.opening kind index, rest)) (.error failure)
  | styled {kind : Kind} {index : Index} {rest rest' : List Char} {styles : List (Style Node)}
      (hstyles : Reader.Call limit (.styles start) depth rest depth (.ok (styles, rest'))) :
      TokenEnd limit start depth (.ok (.opening kind index, rest))
        (.ok (.styled kind index styles, rest'))

theorem call_of_tokenEnd {outcome : Except Failure (Node × List Char)}
    (h : TokenEnd limit ('\x7b' :: s) depth (Reader.head ('\x7b' :: s) s) outcome) :
    Reader.Call limit .token depth ('\x7b' :: s) depth outcome := by
  generalize hhead : Reader.head ('\x7b' :: s) s = read at h
  cases h with
  | headFails => exact .headFails hhead
  | whole => exact .whole hhead
  | stylesFail hstyles => exact .stylesFail hhead hstyles
  | styled hstyles => exact .styled hhead hstyles

/-- A number behind the mark `c` that follows its keyword. -/
theorem settles_number (limit : Option Nat) {index : Index} {c : Char}
    (hstart : start <:+ source) (hs : s <:+ source) :
    Settles source depth s
      (if c = ',' then do
        let name ← format source start
        return .number index (some name)
      else return .number index none)
      (Reports source s (TokenEnd limit start depth
        (if c = ',' then do
          let (name, rest) ← Reader.format start s
          return (.whole (.number index (some name)), rest)
        else .ok (.whole (.number index none), s)))) := by
  by_cases hcomma : c = ','
  · rw [if_pos hcomma, if_pos hcomma]
    refine (settles_format hstart hs).follow List.suffix_rfl ?_ ?_
    · intro name rest hrest hformat
      rw [← hformat]
      exact settles_return hrest .whole
    · intro failure hformat
      rw [← hformat]
      exact .headFails
  · rw [if_neg hcomma, if_neg hcomma]
    exact settles_return List.suffix_rfl .whole

/-- A token with styles behind the mark `c` that follows its keyword at `t`. -/
theorem settles_styled {index : Index} {c : Char} {kind : Kind} (ht : t <:+ source)
    (hstyles : Settles source depth s (styles limit source start n)
      (Reports source s (Reader.Call limit (.styles start) depth s depth))) :
    Settles source depth s
      (if c = ',' then do
        let styles ← styles limit source start n
        return .styled kind index styles
      else match kind with
        | .choice | .map => fail source (.noStyles kind.keyword) t
        | .anchor | .link => return .styled kind index [])
      (Reports source s (TokenEnd limit start depth
        (if c = ',' then .ok (.opening kind index, s)
        else match kind with
          | .choice | .map => .error ⟨.noStyles kind.keyword, t⟩
          | .anchor | .link => .ok (.whole (.styled kind index []), s)))) := by
  by_cases hcomma : c = ','
  · rw [if_pos hcomma, if_pos hcomma]
    refine hstyles.follow List.suffix_rfl ?_ ?_
    · exact fun styles rest hrest hcall => settles_return hrest (.styled hcall)
    · exact fun failure hcall => .stylesFail hcall
  · rw [if_neg hcomma, if_neg hcomma]
    cases kind with
    | choice | map => exact settles_fail ht List.suffix_rfl .headFails
    | anchor | link => exact settles_return List.suffix_rfl .whole

theorem settles_typed {index : Index} (hstart : start <:+ source) (hs : s <:+ source)
    (hstyles : ∀ rest, rest <:+ s → Settles source depth rest (styles limit source start n)
      (Reports source rest (Reader.Call limit (.styles start) depth rest depth))) :
    Settles source depth s (typed limit source start index (n + 1))
      (Reports source s (TokenEnd limit start depth (Reader.typed start index s))) := by
  refine Settles.returning ?_ fun hadvances => hadvances.elim
  refine settles_skipBlanks (settles_input (settles_takeRun (settles_input ?_)))
  have hskip : Text.skipBlanks s <:+ s := skipBlanks_suffix s
  have hrest : (Text.skipBlanks s).dropWhile isKeywordChar <:+ s :=
    (List.dropWhile_suffix _).trans hskip
  cases hmark : (Text.skipBlanks s).dropWhile isKeywordChar with
  | nil =>
    refine settles_fail hstart List.nil_suffix ?_
    simp only [Reader.typed, hmark]
    exact .headFails
  | cons c rest =>
    rw [hmark] at hrest
    have hleft : rest <:+ s := Reader.suffix_of_cons hrest
    -- The run of the keyword has stopped at a comma or at a closing brace.
    have hc : c ∈ marks := by
      rcases Reader.mark_of_dropWhile hmark with rfl | rfl <;> decide
    dsimp only
    cases hword : keyword? (trimEnd ((Text.skipBlanks s).takeWhile isKeywordChar)) with
    | none =>
      refine settles_fail (hskip.trans hs) hrest ?_
      simp only [Reader.typed, hmark, hword]
      exact .headFails
    | some keyword =>
      cases keyword with
      | number =>
        refine settles_sliceByte hc ((settles_number limit hstart (hleft.trans hs)).last hleft ?_)
        intro outcome hend
        simp only [Reader.typed, hmark, hword]
        exact hend
      | styled kind =>
        have ht : Text.skipBlanks s <:+ source := hskip.trans hs
        refine settles_sliceByte hc ((settles_styled ht (hstyles rest hleft)).last hleft ?_)
        intro outcome hend
        simp only [Reader.typed, hmark, hword]
        exact hend

theorem settles_token (hs : '\x7b' :: s <:+ source)
    (htyped : ∀ index rest, rest <:+ s →
      Settles source depth rest (typed limit source ('\x7b' :: s) index n)
        (Reports source rest
          (TokenEnd limit ('\x7b' :: s) depth (Reader.typed ('\x7b' :: s) index rest)))) :
    Settles source depth ('\x7b' :: s) (token limit source (n + 1))
      (Reports source ('\x7b' :: s) (Reader.Call limit .token depth ('\x7b' :: s) depth)) := by
  refine Settles.returning ?_ fun _ node rest hcall => (hcall.leaves node rest rfl).2
  refine settles_input (settles_sliceByte (by decide) (settles_skipBlanks ?_))
  have hskip : Text.skipBlanks s <:+ '\x7b' :: s :=
    (skipBlanks_suffix s).trans (List.suffix_cons ..)
  refine (settles_index hs (hskip.trans hs)).follow hskip ?_ ?_
  · intro index left hleft hindex
    have hindex := indexOutcome_eq_ok hindex.symm
    refine settles_skipBlanks (settles_input ?_)
    have hbehind : Text.skipBlanks left <:+ s :=
      (skipBlanks_suffix left).trans (hleft.trans (skipBlanks_suffix s))
    cases hmark : Text.skipBlanks left with
    | nil =>
      refine settles_fail hs List.nil_suffix (call_of_tokenEnd ?_)
      simp only [Reader.head, hindex, hmark]
      exact .headFails
    | cons c rest =>
      rw [hmark] at hbehind
      have hrest : c :: rest <:+ '\x7b' :: s := hbehind.trans (List.suffix_cons ..)
      have hshort : rest <:+ '\x7b' :: s := Reader.suffix_of_cons hrest
      dsimp only
      by_cases hclose : c = '\x7d'
      · subst hclose
        rw [if_pos rfl]
        refine settles_sliceByte (by decide) (settles_return hshort (call_of_tokenEnd ?_))
        simp only [Reader.head, hindex, hmark, if_pos]
        exact .whole
      · rw [if_neg hclose]
        by_cases hcomma : c = ','
        · subst hcomma
          rw [if_pos rfl]
          have hlast := htyped index rest (Reader.suffix_of_cons hbehind)
          refine settles_sliceByte (by decide) (hlast.last hshort fun outcome hend => ?_)
          refine call_of_tokenEnd ?_
          simp only [Reader.head, hindex, hmark, if_pos, if_neg hclose]
          exact hend
        · rw [if_neg hcomma]
          refine settles_fail (hrest.trans hs) hrest (call_of_tokenEnd ?_)
          simp only [Reader.head, hindex, hmark, if_neg hclose, if_neg hcomma]
          exact .headFails
  · intro failure hindex
    refine call_of_tokenEnd ?_
    rw [head_of_indexOutcome hindex.symm]
    exact .headFails

end MessageTemplate.Cursor
