import MessageTemplate.Proofs.Template.Cause
import MessageTemplate.Proofs.Template.Truncation

/-!
# Suggestions repair the keyword

A keyword that is not known is reported where it begins, with the known words that are close
to it.  When one of them is put in its place the reader comes to the keyword as before, since
what it has read in front does not depend on the text behind, and it goes on behind the
keyword.  There is more to go wrong there, an unknown keyword included, but not at the place
of this one.

`Failure.UnknownIn` bounds the place of an unknown keyword: it lies in what the reader has
still to read.
-/

namespace MessageTemplate

open Text Reader Grammar

/-! ## Known words -/

theorem Text.mem_of_mem_suggestions {target word : String} {known : List String}
    (h : word ∈ suggestions target known) : word ∈ known := by
  have hcandidate := List.mem_of_mem_take h
  obtain ⟨distance, -, hword⟩ := List.mem_flatMap.mp hcandidate
  exact (List.mem_filter.mp hword).1

/-- The words that are suggested are those that are read. -/
theorem mem_keywords {word : String} :
    word ∈ keywords ↔ ∃ keyword, keyword? word.toList = some keyword := by
  constructor
  · intro h
    simp only [keywords, List.mem_cons, List.not_mem_nil, or_false] at h
    rcases h with rfl | rfl | rfl | rfl | rfl <;> exact ⟨_, rfl⟩
  · rintro ⟨keyword, h⟩
    rw [String.toList_inj.mp (eq_word_of_keyword? h)]
    rcases keyword with _ | kind
    · decide
    · cases kind <;> decide

namespace Reader

variable {limit : Option Nat} {opened : List OpenStyle} {nodes : List Node} {c : Char}
  {a o s t u w start rest : List Char} {index : Index} {failure : Failure}

/-! ## The place of an unknown keyword -/

/-- If the failure reports an unknown keyword, it lies in the text. -/
def Failure.UnknownIn (failure : Failure) (s : List Char) : Prop :=
  ∀ name suggestions, failure.cause = .unknownTokenType name suggestions → failure.rest <:+ s

theorem Failure.UnknownIn.mono (h : failure.UnknownIn s) (hst : s <:+ t) : failure.UnknownIn t :=
  fun name suggestions hcause => (h name suggestions hcause).trans hst

theorem Failure.Inside.unknownIn (h : failure.Inside start s) : failure.UnknownIn s := by
  intro name suggestions hcause
  cases h with
  | unknown hrest _ => exact hrest
  | unterminated | tooDeep | unexpected | malformed => contradiction

/-- A run reports an unknown keyword in the text that it reads. -/
theorem run_unknownIn {state : State} (h : run limit state = .error failure) :
    failure.UnknownIn state.rest := by
  refine run_failure_induction h (fun state hstep => ?_) fun state next hstep ih => ?_
  · cases halt_of_step hstep with
    | unfinished | unbalanced _ => exact fun _ _ hcause => nomatch hcause
    | noIndex hmissing _ _ =>
      intro name suggestions hcause
      rw [hmissing] at hcause
      contradiction
    | @inToken _ _ w s _ hinside =>
      exact hinside.unknownIn.mono ((List.suffix_cons _ s).trans (List.suffix_append w _))
    | @inStyles _ _ _ w s _ hinside =>
      exact hinside.unknownIn.mono ((List.suffix_cons _ s).trans (List.suffix_append w _))
  · obtain ⟨w, c, x, _, _, hrest⟩ := (move_of_step hstep).eq_append
    exact ih.mono ⟨_, hrest.symm⟩

/-! ## Behind a known keyword -/

/-- What is left, or an unknown keyword that is reported, lies in the text. -/
def Within (u : List Char) : Except Failure (Head × List Char) → Prop
  | .ok (_, rest) => rest <:+ u
  | .error failure => failure.UnknownIn u

/-- Once its keyword is known, what follows the comma goes on behind the mark of the keyword. -/
theorem typed_within {keyword : Keyword}
    (hword : keyword? (trimEnd ((skipBlanks s).takeWhile isKeywordChar)) = some keyword)
    (hmark : (skipBlanks s).dropWhile isKeywordChar = c :: rest) :
    Within rest (typed start index s) := by
  have hbroken (place : List Char) (detail : String) :
      Failure.UnknownIn ⟨.malformedStyle detail, place⟩ rest :=
    fun _ _ hcause => nomatch hcause
  unfold typed
  simp only [hword, hmark]
  cases keyword with
  | number =>
    dsimp only
    split
    · cases hformat : format start rest with
      | error failure => exact (format_failure hformat).unknownIn
      | ok result => exact format_suffix hformat
    · exact List.suffix_rfl
  | styled kind =>
    dsimp only
    split
    · exact List.suffix_rfl
    · cases kind with
      | choice | map => exact hbroken _ _
      | anchor | link => exact List.suffix_rfl

theorem head_within (keyword : Keyword) (ho : TypedOpening index keyword.word o)
    (hc : isKeywordChar c = false) :
    ∃ t, o = '\x7b' :: t ∧ ∀ start rest, Within rest (head start (t ++ c :: rest)) := by
  cases ho with
  | @mk o a u ho ha hu =>
    obtain ⟨t, rfl, hread⟩ := head_of_opening ho
    refine ⟨t ++ ',' :: (a ++ keyword.word.toList ++ u), rfl, fun start rest => ?_⟩
    have hs : a ++ keyword.word.toList ++ u ++ c :: rest =
        a ++ keyword.word.toList ++ u ++ c :: rest := rfl
    obtain ⟨hword, hmark⟩ := scan_keyword keyword hs ha hu hc
    rw [List.append_assoc, List.cons_append, (hread start _).2]
    exact typed_within hword hmark

/-- Behind a known keyword the reader reports an unknown one in what is left only. -/
theorem run_known (keyword : Keyword) (hw : Only (isLiteral opened.isEmpty) w)
    (ho : TypedOpening index keyword.word o) (hc : isKeywordChar c = false)
    (h : run limit ⟨opened, nodes, w ++ (o ++ c :: rest)⟩ = .error failure) :
    failure.UnknownIn rest := by
  obtain ⟨t, rfl, hread⟩ := head_within keyword ho hc
  rw [List.cons_append, run_literal hw (stops_cons.mpr (not_isLiteral_open _))] at h
  have hwithin := hread ('\x7b' :: (t ++ c :: rest)) rest
  have hstep : step limit ⟨opened, addText w nodes, '\x7b' :: (t ++ c :: rest)⟩ =
      openToken limit opened (addText w nodes) ('\x7b' :: (t ++ c :: rest)) (t ++ c :: rest) :=
    step_open (addText w nodes) (t ++ c :: rest)
  unfold openToken at hstep
  cases hhead : head ('\x7b' :: (t ++ c :: rest)) (t ++ c :: rest) with
  | error found =>
    rw [hhead] at hstep hwithin
    rw [run_of_failure hstep] at h
    obtain rfl := Except.error.inj h
    exact hwithin
  | ok result =>
    obtain ⟨token, r⟩ := result
    rw [hhead] at hstep hwithin
    cases token with
    | whole node =>
      rw [run_of_step hstep] at h
      exact (run_unknownIn h).mono hwithin
    | opening kind index =>
      dsimp only at hstep
      cases hkey : nestedKey limit opened.length ('\x7b' :: (t ++ c :: rest)) r with
      | error found =>
        rw [hkey] at hstep
        rw [run_of_failure hstep] at h
        obtain rfl := Except.error.inj h
        exact (nestedKey_failure hkey).unknownIn.mono hwithin
      | ok key =>
        rw [hkey] at hstep
        rw [run_of_step hstep] at h
        exact (run_unknownIn h).mono ((nestedKey_suffix hkey).trans hwithin)

/-! ## Up to the unknown keyword -/

/-- A step that meets an unknown keyword has read the opening of its token. -/
theorem step_unknown {state : State} {name : String} {suggestions : List String}
    (h : step limit state = .error failure)
    (hcause : failure.cause = .unknownTokenType name suggestions) :
    failure.cause = .unknownKeyword name ∧
      ∃ w index o a, Only (isLiteral state.opened.isEmpty) w ∧ Opening index o ∧
        Only isAsciiBlank a ∧ state.rest = w ++ (o ++ ',' :: (a ++ failure.rest)) := by
  have hkey {depth : Nat} {start s : List Char}
      (hkey : nestedKey limit depth start s = .error failure) : False := by
    rcases nestedKey_eq_error.mp hkey with hkey | ⟨bound, _, _, rfl, _⟩
    · have hbroken := key_cause hkey
      rw [hcause] at hbroken
      contradiction
    · contradiction
  cases fault_of_step h with
  | unfinished | unbalanced _ => contradiction
  | firstKey _ _ hfirst => exact (hkey hfirst).elim
  | nextKey _ hnext => exact (hkey hnext).elim
  | @head opened nodes w s _ hw hhead =>
    rcases head_cause hhead with
      hbroken | hmissing | ⟨found, hfound⟩ | ⟨index, o, a, word, ho, ha, hs, hword⟩
    · rw [hcause] at hbroken
      contradiction
    · rw [hmissing] at hcause
      contradiction
    · rw [hfound] at hcause
      contradiction
    · have hname : word = name := by
        rw [hword] at hcause
        exact (Cause.unknownTokenType.inj hcause).1
      exact ⟨hname ▸ hword, w, index, o, a, hw, ho, ha, by rw [← hs]⟩

/-- The reader comes to the token of an unknown keyword whatever stands behind its opening. -/
theorem run_reaches_unknown {state : State} {name : String} {suggestions : List String}
    (h : run limit state = .error failure)
    (hcause : failure.cause = .unknownTokenType name suggestions)
    (hopened : Allows limit state.opened.length) :
    failure.cause = .unknownKeyword name ∧
      ∃ front w index o a, Opening index o ∧ Only isAsciiBlank a ∧
        state.rest = front ++ (w ++ (o ++ ',' :: (a ++ failure.rest))) ∧
        ∀ opened nodes s, opened.length = state.opened.length →
          ∃ opened' nodes', Only (isLiteral opened'.isEmpty) w ∧
            run limit ⟨opened, nodes, front ++ s⟩ = run limit ⟨opened', nodes', s⟩ := by
  -- On the run that fails: each move in front of the token is made again.
  revert hopened
  refine run_failure_induction h (fun state hstep _ => ?_) fun state next hstep ih hopened => ?_
  · obtain ⟨hname, w, index, o, a, hw, ho, ha, hrest⟩ := step_unknown hstep hcause
    refine ⟨hname, [], w, index, o, a, ho, ha, hrest, fun opened nodes s hlength => ?_⟩
    exact ⟨opened, nodes, by rwa [isEmpty_eq_of_length hlength], rfl⟩
  · have hmove := move_of_step hstep
    obtain ⟨t, ht, hleads⟩ := hmove.leads hopened
    obtain ⟨hname, front, w, index, o, a, ho, ha, hrest, hreach⟩ := ih (hmove.allows hopened)
    refine ⟨hname, t ++ front, w, index, o, a, ho, ha, ?_, fun opened nodes s hlength => ?_⟩
    · rw [ht, hrest, List.append_assoc]
    · obtain ⟨opened', nodes', hlength', hrun⟩ := hleads opened nodes (front ++ s) hlength
      obtain ⟨opened'', nodes'', hw, hrun'⟩ := hreach opened' nodes' s hlength'
      exact ⟨opened'', nodes'', hw, by rw [List.append_assoc, hrun, hrun']⟩

end Reader

/-! ## Repairs -/

namespace Template

variable {source name : String} {suggestions : List String} {place : Position}

/-- A text behind a word does not begin where the word does. -/
theorem placeOf_ne_of_suffix {front word behind rest : List Char} (hne : word ≠ [])
    (h : rest <:+ behind) : placeOf (front ++ (word ++ behind)) rest ≠ .after front := by
  obtain ⟨skipped, rfl⟩ := h
  have htext : front ++ (word ++ (skipped ++ rest)) = front ++ (word ++ skipped) ++ rest := by
    simp only [List.append_assoc]
  intro hplace
  rw [htext, placeOf_append_self] at hplace
  have hfront := Diagnostic.eq_of_after_eq htext.symm hplace
  exact hne (List.append_eq_nil_iff.mp (List.append_right_eq_self.mp hfront)).1

/-- The parts of an unknown keyword's error: what stands in front of the keyword and behind it.
With a known keyword in its place, an unknown one is reported behind that only. -/
theorem parse_unknown
    (h : parse source = .error ⟨.unknownTokenType name suggestions, place⟩) :
    name ∉ keywords ∧ suggestions = Text.suggestions name keywords ∧
      ∃ front behind, source.toList = front ++ (name.toList ++ behind) ∧ place = .after front ∧
        ∀ (keyword : Keyword) failure,
          run (some maxNesting) ⟨[], [], front ++ (keyword.word.toList ++ behind)⟩ =
            .error failure → failure.UnknownIn behind := by
  obtain ⟨failure, hrun, he⟩ := read_eq_error.mp h
  have hcause : failure.cause = .unknownTokenType name suggestions :=
    (congrArg ParseError.cause he).symm
  have hplace : place = placeOf source.toList failure.rest := congrArg ParseError.position he
  obtain ⟨hname, front, w, index, o, a, ho, ha, hsource, hreach⟩ :=
    run_reaches_unknown hrun hcause (allows_zero _)
  have hbegins := run_failure_begins hrun (by simp [State.BeginsAtBraces])
  rw [hcause] at hbegins
  obtain ⟨hunknown, u, c, rest, hrest, hu, hmark⟩ := hbegins
  have hsplit : source.toList = front ++ (w ++ (o ++ ',' :: a)) ++ failure.rest :=
    hsource.trans (by simp only [List.append_assoc, List.cons_append])
  rw [hcause] at hname
  refine ⟨hunknown, (Cause.unknownTokenType.inj hname).2,
    front ++ (w ++ (o ++ ',' :: a)), u ++ c :: rest, ?_, ?_, fun keyword found hfound => ?_⟩
  · rw [hsplit, hrest, List.append_assoc name.toList]
  · rw [hplace, hsplit, placeOf_append_self]
  · have htext : front ++ (w ++ (o ++ ',' :: a)) ++ (keyword.word.toList ++ (u ++ c :: rest)) =
        front ++ (w ++ (o ++ ',' :: (a ++ keyword.word.toList ++ u) ++ c :: rest)) := by
      simp only [List.append_assoc, List.cons_append]
    have hc : isKeywordChar c = false := by rcases hmark with rfl | rfl <;> rfl
    obtain ⟨opened, nodes, hw, hread⟩ :=
      hreach [] [] (w ++ (o ++ ',' :: (a ++ keyword.word.toList ++ u) ++ c :: rest)) rfl
    rw [htext, hread] at hfound
    have hrest : rest <:+ u ++ c :: rest := (List.suffix_cons c rest).trans (List.suffix_append u _)
    exact (run_known keyword hw (.mk ho ha hu) hc hfound).mono hrest

/-- The error of an unknown keyword lies where the keyword stands.  The keyword is none that is
read, and every suggestion is one.  When a suggestion is put in its place the text is a
template, or its error is not that of an unknown keyword at this place. -/
theorem parse_suggestion_repairs (source name : String) (suggestions : List String)
    (place : Position) (h : parse source = .error ⟨.unknownTokenType name suggestions, place⟩) :
    keyword? name.toList = none ∧
    (∀ word ∈ suggestions, ∃ keyword, keyword? word.toList = some keyword) ∧
    (∃ front behind, source = front ++ name ++ behind ∧ place = .after front.toList) ∧
    ∀ front behind, source = front ++ name ++ behind → place = .after front.toList →
      ∀ word ∈ suggestions,
        (∃ template, parse (front ++ word ++ behind) = .ok template) ∨
        ∃ e, parse (front ++ word ++ behind) = .error e ∧
          ¬(e.position = place ∧ ∃ other more, e.cause = .unknownTokenType other more) := by
  obtain ⟨hunknown, hsuggestions, before, after, hsource, hplace, hknown⟩ := parse_unknown h
  have hwords : ∀ word ∈ suggestions, ∃ keyword, keyword? word.toList = some keyword :=
    fun word hword => mem_keywords.mp (mem_of_mem_suggestions (hsuggestions ▸ hword))
  refine ⟨?_, hwords, ⟨String.ofList before, String.ofList after, ?_, ?_⟩, ?_⟩
  · cases hkeyword : keyword? name.toList with
    | none => rfl
    | some keyword => exact absurd (mem_keywords.mpr ⟨keyword, hkeyword⟩) hunknown
  · rw [← String.toList_inj, hsource]
    simp
  · rw [hplace, String.toList_ofList]
  · intro front behind hsplit hfront word hword
    obtain ⟨keyword, hkeyword⟩ := hwords word hword
    have hspelled := eq_word_of_keyword? hkeyword
    obtain ⟨-, -, -, hne⟩ := keyword_word_spec keyword
    -- The keyword stands at one place in the text.
    have hsame : before ++ (name.toList ++ after) =
        front.toList ++ (name.toList ++ behind.toList) := by
      rw [← hsource, hsplit]
      simp
    obtain rfl : before = front.toList :=
      Diagnostic.eq_of_after_eq hsame (hplace.symm.trans hfront)
    obtain rfl : after = behind.toList :=
      List.append_cancel_left (List.append_cancel_left hsame)
    cases hparse : parse (front ++ word ++ behind) with
    | ok template => exact .inl ⟨template, rfl⟩
    | error e =>
      refine .inr ⟨e, rfl, fun ⟨hposition, other, more, hcause⟩ => ?_⟩
      obtain ⟨failure, hrun, rfl⟩ := read_eq_error.mp hparse
      have htext : (front ++ word ++ behind).toList =
          front.toList ++ (keyword.word.toList ++ behind.toList) := by
        rw [← hspelled]
        simp
      rw [htext] at hrun hposition
      have hbehind := hknown keyword failure hrun other more hcause
      exact placeOf_ne_of_suffix hne hbehind (hposition.trans hplace)

/-- Two letters are swapped inside a style, on the second line. -/
theorem parse_suggestion_repairs_second_line :
    parse "é\x7b0,map,a#\n\x7b1, nubmer ,x\x7d\x7d" =
        .error ⟨.unknownTokenType "nubmer" ["number"], ⟨2, 5⟩⟩ ∧
      keyword? "nubmer".toList = none ∧
      (∃ keyword, keyword? "number".toList = some keyword) ∧
      ((∃ template, parse "é\x7b0,map,a#\n\x7b1, number ,x\x7d\x7d" = .ok template) ∨
        ∃ e, parse "é\x7b0,map,a#\n\x7b1, number ,x\x7d\x7d" = .error e ∧
          ¬(e.position = ⟨2, 5⟩ ∧ ∃ other more, e.cause = .unknownTokenType other more)) := by
  have hunknown : parse "é\x7b0,map,a#\n\x7b1, nubmer ,x\x7d\x7d" =
      .error ⟨.unknownTokenType "nubmer" ["number"], ⟨2, 5⟩⟩ :=
    read_eq_error.mpr ⟨⟨.unknownKeyword "nubmer", "nubmer ,x\x7d\x7d".toList⟩,
      (run_of_step rfl).trans (run_of_failure rfl), by decide⟩
  obtain ⟨hname, hwords, -, hrepair⟩ := parse_suggestion_repairs _ _ _ _ hunknown
  exact ⟨hunknown, hname, hwords "number" (.head _),
    hrepair "é\x7b0,map,a#\n\x7b1, " " ,x\x7d\x7d" (by decide) (by decide) "number" (.head _)⟩

end Template

end MessageTemplate
