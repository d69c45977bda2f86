import MessageTemplate.Proofs.Diagnostic

/-!
# What stands at the place of an error

The place of an error is that of a character.  The text from there on begins with what the
error reports, `Cause.Begins`, and for two causes the text in front matters as well: an
index is missing behind a brace and its blanks, and a closing brace is met outside of any
token when the text in front of it is a template of its own.

For the first, every open token begins with a brace, and every move keeps that.  For the
last, the moves that lead to the closing brace are made again without it: a move depends
on the text that it takes, and of the open styles only on their number.
-/

namespace MessageTemplate

open Text Reader Grammar

/-- What stands in front of the place of a fault: blanks behind a brace for a missing
index, and a whole template for a closing brace. -/
def Cause.Behind : Cause → List Char → Prop
  | .missingIndex, s => ∃ t a, s = t ++ '\x7b' :: a ∧ Only isAsciiBlank a
  | .unbalancedDelimiter, s => ∃ template, Template.parse (String.ofList s) = .ok template
  | _, _ => True

/-- A fault lies at a character. -/
theorem Cause.Begins.ne_nil {cause : Cause} {s : List Char} (h : cause.Begins s) : s ≠ [] := by
  rintro rfl
  cases cause with
  | unterminatedToken | nestingTooDeep | unbalancedDelimiter => cases h
  | missingIndex =>
    obtain ⟨c, hc, _⟩ := h
    cases hc
  | unknownTokenType name suggestions =>
    obtain ⟨_, u, c, rest, hs, _⟩ := h
    simp at hs
  | unexpectedCharacter found => cases h.1
  | malformedStyle detail => exact h rfl

namespace Reader

variable {limit : Option Nat} {opened : List OpenStyle} {w : List Char} {index : Index}
  {failure : Failure}

/-! ## Moves without the text behind -/

theorem isEmpty_eq_of_length {opened opened' : List OpenStyle}
    (h : opened.length = opened'.length) : opened.isEmpty = opened'.isEmpty := by
  rw [Bool.eq_iff_iff, List.isEmpty_iff_length_eq_zero, List.isEmpty_iff_length_eq_zero, h]

/-- The text leads from `m` open styles to `n`, whatever they are and whatever stands
behind. -/
def Leads (limit : Option Nat) (t : List Char) (m n : Nat) : Prop :=
  ∀ opened nodes rest, opened.length = m →
    ∃ opened' nodes', opened'.length = n ∧
      run limit ⟨opened, nodes, t ++ rest⟩ = run limit ⟨opened', nodes', rest⟩

theorem leads_whole {node : Node} {t : List Char} (hw : Only (isLiteral opened.isEmpty) w)
    (ht : Derives t (.token node)) (hdepth : Allows limit (opened.length + node.nesting)) :
    Leads limit (w ++ t) opened.length opened.length := by
  intro opened' nodes rest hlength
  have hempty : opened'.isEmpty = opened.isEmpty := isEmpty_eq_of_length hlength
  rw [← hlength] at hdepth
  refine ⟨opened', node :: addText w nodes, hlength, ?_⟩
  rw [List.append_assoc, run_literal (by rwa [hempty]) ht.stops_of_token,
    readFrom_of_derives ht opened' _ rest hdepth]

theorem leads_opening {kind : Kind} {o k : List Char} {word : String}
    (hw : Only (isLiteral opened.isEmpty) w) (ho : TypedOpening index kind.keyword o)
    (hk : KeyText word k) (hdepth : Allows limit (opened.length + 1)) :
    Leads limit (w ++ (o ++ ',' :: k)) opened.length (opened.length + 1) := by
  intro opened' nodes rest hlength
  have hempty : opened'.isEmpty = opened.isEmpty := isEmpty_eq_of_length hlength
  rw [← hlength] at hdepth
  have hkey (start : List Char) :
      nestedKey limit opened'.length start (k ++ rest) = .ok (word, rest) :=
    nestedKey_of_keyText hk hdepth
  obtain ⟨t, ht⟩ := ho.eq_cons
  have hstop : Stops (isLiteral opened'.isEmpty) (o ++ [','] ++ (k ++ rest)) := by simp [ht]
  have htext : w ++ (o ++ ',' :: k) ++ rest = w ++ (o ++ [','] ++ (k ++ rest)) := by
    simp only [List.append_assoc, List.cons_append, List.nil_append]
  obtain ⟨start, hrun⟩ := run_opening (HeadText.opening ho) hkey
  refine ⟨⟨addText w nodes, kind, index, start, [], word⟩ :: opened', [],
    congrArg Nat.succ hlength, ?_⟩
  rw [htext, run_literal (by rwa [hempty]) hstop, hrun]

theorem leads_bar {depth : Nat} {k : List Char} {word : String} (hw : Only (isLiteral false) w)
    (hk : KeyText word k) (hdepth : Allows limit (depth + 1)) :
    Leads limit (w ++ '|' :: k) (depth + 1) (depth + 1) := by
  intro opened nodes rest hlength
  obtain ⟨style, outer, rfl⟩ := List.exists_cons_of_length_eq_add_one hlength
  rw [← Nat.succ.inj hlength] at hdepth
  have htext : w ++ '|' :: k ++ rest = w ++ '|' :: (k ++ rest) := by
    simp only [List.append_assoc, List.cons_append]
  have hliteral : run limit ⟨style :: outer, nodes, w ++ '|' :: (k ++ rest)⟩ =
      run limit ⟨style :: outer, addText w nodes, '|' :: (k ++ rest)⟩ :=
    run_literal hw (stops_cons.mpr not_isLiteral_bar)
  refine ⟨{ style with finished := style.finish (addText w nodes), key := word } :: outer, [],
    hlength, ?_⟩
  rw [htext, hliteral, run_bar (nestedKey_of_keyText hk hdepth)]

theorem leads_close {depth : Nat} (hw : Only (isLiteral false) w) :
    Leads limit (w ++ ['\x7d']) (depth + 1) depth := by
  intro opened nodes rest hlength
  obtain ⟨style, outer, rfl⟩ := List.exists_cons_of_length_eq_add_one hlength
  have htext : w ++ ['\x7d'] ++ rest = w ++ '\x7d' :: rest := by
    simp only [List.append_assoc, List.cons_append, List.nil_append]
  have hliteral : run limit ⟨style :: outer, nodes, w ++ '\x7d' :: rest⟩ =
      run limit ⟨style :: outer, addText w nodes, '\x7d' :: rest⟩ :=
    run_literal hw (stops_cons.mpr (not_isLiteral_close false))
  refine ⟨outer, style.token (addText w nodes) :: style.before, Nat.succ.inj hlength, ?_⟩
  rw [htext, hliteral, run_close]

/-- A move takes a part of the text, and that part is enough to make it again. -/
theorem Move.leads {state next : State} (hmove : Move limit state next)
    (hopened : Allows limit state.opened.length) :
    ∃ t, state.rest = t ++ next.rest ∧
      Leads limit t state.opened.length next.opened.length := by
  cases hmove with
  | @whole opened nodes w t rest node hw ht hflat =>
    have hdepth : Allows limit (opened.length + node.nesting) := by
      rw [hflat]
      exact hopened
    exact ⟨w ++ t, (List.append_assoc ..).symm, leads_whole hw ht hdepth⟩
  | @opening opened nodes w o k start rest kind index word hw ho hk hdepth hstart =>
    exact ⟨w ++ (o ++ ',' :: k), by simp [hstart], leads_opening hw ho hk hdepth⟩
  | @bar style outer nodes w k rest word hw hk hdepth =>
    exact ⟨w ++ '|' :: k, by simp, leads_bar hw hk hdepth⟩
  | @close style outer nodes w rest hw => exact ⟨w ++ ['\x7d'], by simp, leads_close hw⟩

/-! ## Runs that fail -/

/-- Every open token begins with a brace. -/
def State.BeginsAtBraces (state : State) : Prop :=
  ∀ style ∈ state.opened, style.start.head? = some '\x7b'

theorem Move.beginsAtBraces {state next : State} (hmove : Move limit state next)
    (h : state.BeginsAtBraces) : next.BeginsAtBraces := by
  cases hmove with
  | whole _ _ _ => exact h
  | opening _ ho _ _ hstart =>
    obtain ⟨t, ht⟩ := ho.eq_cons
    refine List.forall_mem_cons.mpr ⟨?_, h⟩
    rw [hstart, ht]
    rfl
  | bar _ _ _ =>
    obtain ⟨hstyle, houter⟩ := List.forall_mem_cons.mp h
    exact List.forall_mem_cons.mpr ⟨hstyle, houter⟩
  | close _ => exact (List.forall_mem_cons.mp h).2

/-- The text from the place of a fault on shows the cause. -/
theorem run_failure_begins {state : State} (h : run limit state = .error failure)
    (hstate : state.BeginsAtBraces) : failure.cause.Begins failure.rest := by
  revert hstate
  refine run_failure_induction h (fun state hstep hstate => ?_)
    fun state next hstep ih hstate => ih ((move_of_step hstep).beginsAtBraces hstate)
  cases halt_of_step hstep with
  | unfinished => exact hstate _ List.mem_cons_self
  | unbalanced _ => rfl
  | noIndex _ hbegins _ => exact hbegins
  | inToken hinside => exact hinside.begins rfl
  | inStyles hinside => exact hinside.begins (hstate _ List.mem_cons_self)

/-- Where an index is missing, only blanks stand behind the brace. -/
theorem run_missingIndex {state : State} (h : run limit state = .error failure)
    (hcause : failure.cause = .missingIndex) (hopened : Allows limit state.opened.length) :
    ∃ t a, state.rest = t ++ '\x7b' :: a ++ failure.rest ∧ Only isAsciiBlank a := by
  revert hopened
  refine run_failure_induction h (fun state hstep _ => ?_) fun state next hstep ih hopened => ?_
  · cases halt_of_step hstep with
    | unfinished | unbalanced _ => contradiction
    | @noIndex opened nodes w a failure _ _ ha => exact ⟨w, a, by simp, ha⟩
    | inToken hinside | inStyles hinside => cases hinside <;> contradiction
  · have hmove := move_of_step hstep
    obtain ⟨t, hrest, _⟩ := hmove.leads hopened
    obtain ⟨t', a, hnext, ha⟩ := ih (hmove.allows hopened)
    exact ⟨t ++ t', a, by rw [hrest, hnext]; simp, ha⟩

/-- Up to a closing brace outside of any token the text can be read. -/
theorem run_unbalanced {state : State} (h : run limit state = .error failure)
    (hcause : failure.cause = .unbalancedDelimiter)
    (hopened : Allows limit state.opened.length) :
    ∃ t, state.rest = t ++ failure.rest ∧
      ∀ opened nodes, opened.length = state.opened.length →
        ∃ template, run limit ⟨opened, nodes, t⟩ = .ok template := by
  revert hopened
  refine run_failure_induction h (fun state hstep _ => ?_) fun state next hstep ih hopened => ?_
  · cases halt_of_step hstep with
    | unfinished => contradiction
    | @unbalanced nodes w rest hw =>
      refine ⟨w, rfl, fun opened nodes hlength => ?_⟩
      obtain rfl := List.eq_nil_of_length_eq_zero hlength
      have hrun : run limit ⟨[], nodes, w ++ []⟩ = run limit ⟨[], addText w nodes, []⟩ :=
        run_literal hw stops_nil
      rw [List.append_nil, run_end] at hrun
      exact ⟨_, hrun⟩
    | noIndex hmissing _ _ =>
      rw [hmissing] at hcause
      contradiction
    | inToken hinside | inStyles hinside => cases hinside <;> contradiction
  · have hmove := move_of_step hstep
    obtain ⟨t, hrest, hleads⟩ := hmove.leads hopened
    obtain ⟨t', hnext, hread⟩ := ih (hmove.allows hopened)
    refine ⟨t ++ t', by rw [hrest, hnext, List.append_assoc], fun opened nodes hlength => ?_⟩
    obtain ⟨opened', nodes', hlength', hrun⟩ := hleads opened nodes t' hlength
    obtain ⟨template, htemplate⟩ := hread opened' nodes' hlength'
    exact ⟨template, hrun.trans htemplate⟩

end Reader

/-! ## The place of an error -/

namespace Template

variable {before rest : List Char} {failure : Failure}

/-- The text in front of the place of a failure. -/
theorem behind_of_run_failure
    (h : run (some maxNesting) ⟨[], [], before ++ failure.rest⟩ = .error failure) :
    failure.cause.Behind before := by
  have hopened : Allows (some maxNesting) ([] : List OpenStyle).length :=
    allows_some.mpr (Nat.zero_le _)
  cases hcause : failure.cause with
  | missingIndex =>
    obtain ⟨t, a, hrest, ha⟩ := run_missingIndex h hcause hopened
    exact ⟨t, a, List.append_cancel_right hrest, ha⟩
  | unbalancedDelimiter =>
    obtain ⟨t, hrest, hread⟩ := run_unbalanced h hcause hopened
    obtain ⟨template, htemplate⟩ := hread [] [] rfl
    obtain rfl := List.append_cancel_right hrest
    refine ⟨template, ?_⟩
    rw [parse, read, mapError_eq_ok, String.toList_ofList]
    exact htemplate
  | unterminatedToken | unknownTokenType | malformedStyle | unexpectedCharacter
  | nestingTooDeep => trivial

/-- The place of an error is that of a character of the source.  The text from there on
begins with what the error reports, and the text in front is as the error says. -/
theorem parse_error_place (source : String) (e : ParseError) (h : parse source = .error e) :
    (∃ before, before <+: source.toList ∧ e.position = .after before) ∧
    ∀ before rest, source.toList = before ++ rest → e.position = .after before →
      rest ≠ [] ∧ e.cause.Begins rest ∧ e.cause.Behind before := by
  obtain ⟨failure, hrun, rfl⟩ := read_eq_error.mp h
  obtain ⟨front, hfront⟩ := failure_suffix hrun
  have hposition : (failure.toError source.toList).position = .after front := by
    rw [Reader.Failure.toError, placeOf, ← hfront]
    simp
  refine ⟨⟨front, ⟨failure.rest, hfront⟩, hposition⟩, fun before rest hsource hplace => ?_⟩
  obtain ⟨rfl, rfl⟩ : before = front ∧ rest = failure.rest := by
    have hsplit : before ++ rest = front ++ failure.rest := hsource.symm.trans hfront.symm
    have hbefore := Diagnostic.eq_of_after_eq hsplit (hplace.symm.trans hposition)
    exact ⟨hbefore, List.append_cancel_left (by rw [hbefore] at hsplit; exact hsplit)⟩
  have hbegins := run_failure_begins hrun (by simp [State.BeginsAtBraces])
  rw [hsource] at hrun
  exact ⟨hbegins.ne_nil, hbegins, behind_of_run_failure hrun⟩

/-- An index that is missing inside a style, on the second line, and a closing brace behind
a template. -/
theorem parse_error_place_second_line :
    parse "é\x7b0,map,a#\n\x7b b\x7d\x7d" = .error ⟨.missingIndex, ⟨2, 3⟩⟩ ∧
      Position.after "é\x7b0,map,a#\n\x7b ".toList = ⟨2, 3⟩ ∧
      Cause.missingIndex.Begins "b\x7d\x7d".toList ∧
      Cause.missingIndex.Behind "é\x7b0,map,a#\n\x7b ".toList ∧
      parse "\x7b0\x7d\n\x7d" = .error ⟨.unbalancedDelimiter, ⟨2, 1⟩⟩ ∧
      Cause.unbalancedDelimiter.Behind "\x7b0\x7d\n".toList := by
  have hmissing : parse "é\x7b0,map,a#\n\x7b b\x7d\x7d" = .error ⟨.missingIndex, ⟨2, 3⟩⟩ :=
    read_eq_error.mpr ⟨⟨.missingIndex, "b\x7d\x7d".toList⟩,
      (run_of_step rfl).trans (run_of_failure rfl), by decide⟩
  have hunbalanced : parse "\x7b0\x7d\n\x7d" = .error ⟨.unbalancedDelimiter, ⟨2, 1⟩⟩ :=
    read_eq_error.mpr ⟨⟨.unbalancedDelimiter, ['\x7d']⟩,
      (run_of_step rfl).trans (run_of_failure rfl), by decide⟩
  obtain ⟨-, hplace⟩ := parse_error_place _ _ hmissing
  obtain ⟨-, hplace'⟩ := parse_error_place _ _ hunbalanced
  obtain ⟨-, hbegins, hbehind⟩ :=
    hplace "é\x7b0,map,a#\n\x7b ".toList "b\x7d\x7d".toList (by decide) (by decide)
  obtain ⟨-, -, hbehind'⟩ := hplace' "\x7b0\x7d\n".toList ['\x7d'] (by decide) (by decide)
  exact ⟨hmissing, by decide, hbegins, hbehind, hunbalanced, hbehind'⟩

end Template

end MessageTemplate
