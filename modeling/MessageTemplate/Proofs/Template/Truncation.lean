import MessageTemplate.Proofs.Template.Place
import MessageTemplate.Proofs.Template.Stability

/-!
# Templates that are cut off

The beginning of a template is a template itself, or a token in it does not end.  There is
one exception: a text that is cut off behind the colon of an index, where no character of
the name is left, is reported as one without an index.

No other fault can arise, since a definite fault stays whatever stands behind the text.
That the exception does arise takes the template as a whole: every brace that opens in it
opens a token, so the reader comes to the brace in front of the colon whatever stands
behind it.
-/

namespace MessageTemplate

open Text Reader Grammar

variable {limit : Option Nat} {opened : List OpenStyle} {nodes : List Node}
  {a w s t front rest : List Char} {index : Index}

/-! ## Braces in the text of a move -/

namespace Grammar

theorem IndexText.not_mem_open (h : IndexText index s) : '\x7b' ∉ s := by
  cases h with
  | position _ hdigits _ => exact hdigits.not_mem (by decide)
  | named _ hname =>
    have hnot := hname.not_mem (c := '\x7b') (by decide)
    simp [hnot]

theorem KeyText.not_mem_open {word : String} (h : KeyText word s) : '\x7b' ∉ s := by
  cases h with
  | mk ha _ hkey _ _ hu =>
    have hblank := ha.not_mem (c := '\x7b') (by decide)
    have hword := hkey.not_mem (c := '\x7b') (by decide)
    have hspace := hu.not_mem (c := '\x7b') (by decide)
    simp [hblank, hword, hspace]

/-- The opening of a token holds no brace but its own. -/
theorem Opening.not_mem_open (h : Opening index ('\x7b' :: t)) : '\x7b' ∉ t := by
  cases h with
  | mk ha hi hb =>
    have hblank := ha.not_mem (c := '\x7b') (by decide)
    have hblank' := hb.not_mem (c := '\x7b') (by decide)
    simp [hblank, hblank', hi.not_mem_open]

/-- No keyword holds a brace. -/
theorem keyword_not_mem_open (keyword : Keyword) : '\x7b' ∉ keyword.word.toList := by
  rcases keyword with _ | kind
  · decide
  · cases kind <;> decide

theorem TypedOpening.not_mem_open (keyword : Keyword)
    (h : TypedOpening index keyword.word ('\x7b' :: t)) : '\x7b' ∉ t := by
  generalize hs : '\x7b' :: t = s at h
  cases h with
  | mk ho ha hu =>
    obtain ⟨t', rfl⟩ := ho.eq_cons
    obtain ⟨-, rfl⟩ := List.cons.inj hs
    have hblank := ha.not_mem (c := '\x7b') (by decide)
    have hspace := hu.not_mem (c := '\x7b') (by decide)
    simp [ho.not_mem_open, hblank, hspace, keyword_not_mem_open]

/-- A token without styles inside holds no brace but its own. -/
theorem Derives.eq_cons_of_flat {node : Node} (h : Derives s (.token node))
    (hflat : node.nesting = 0) : ∃ t, s = '\x7b' :: t ∧ '\x7b' ∉ t := by
  cases h with
  | param ho =>
    obtain ⟨t, rfl⟩ := ho.eq_cons
    exact ⟨_, rfl, by simp [ho.not_mem_open]⟩
  | number ho =>
    obtain ⟨t, rfl⟩ := ho.eq_cons
    exact ⟨_, rfl, by simp [ho.not_mem_open .number]⟩
  | formatted ho ha _ hname hb =>
    obtain ⟨t, rfl⟩ := ho.eq_cons
    have hblank := ha.not_mem (c := '\x7b') (by decide)
    have hformat := hname.not_mem (c := '\x7b') (by decide)
    have hblank' := hb.not_mem (c := '\x7b') (by decide)
    exact ⟨_, rfl, by simp [ho.not_mem_open .number, hblank, hformat, hblank']⟩
  | @bare kind _ _ _ ho =>
    obtain ⟨t, rfl⟩ := ho.eq_cons
    exact ⟨_, rfl, by simp [ho.not_mem_open (.styled kind)]⟩
  | styled _ hstyles =>
    cases hstyles <;> simp [Node.nesting, Node.nestingStyles] at hflat

end Grammar

namespace Reader

/-- A move takes literal text and one delimiter; behind the delimiter it takes no brace that
opens a token. -/
theorem Move.eq_append {state next : State} (hmove : Move limit state next) :
    ∃ w c x, Only (isLiteral state.opened.isEmpty) w ∧ '\x7b' ∉ x ∧
      state.rest = w ++ c :: x ++ next.rest := by
  cases hmove with
  | @whole opened nodes w _ rest _ hw ht hflat =>
    obtain ⟨t, rfl, hnot⟩ := ht.eq_cons_of_flat hflat
    exact ⟨w, '\x7b', t, hw, hnot, by simp⟩
  | @opening opened nodes w o k start rest kind index word hw ho hk _ hstart =>
    obtain ⟨t, rfl⟩ := ho.eq_cons
    refine ⟨w, '\x7b', t ++ ',' :: k, hw, ?_, by simp [hstart]⟩
    simp [ho.not_mem_open (.styled kind), hk.not_mem_open]
  | @bar style outer nodes w k rest word hw hk _ =>
    exact ⟨w, '|', k, hw, hk.not_mem_open, by simp⟩
  | @close style outer nodes w rest hw => exact ⟨w, '\x7d', [], hw, by simp, by simp⟩

/-! ## Every brace opens a token -/

/-- A part of the text without a character lies in front of that character. -/
theorem exists_eq_append_of_not_mem {b : Char} {p r : List Char}
    (h : front ++ b :: rest = p ++ r) (hp : b ∉ p) : ∃ m, front = p ++ m ∧ r = m ++ b :: rest := by
  rcases List.append_eq_append_iff.mp h with ⟨m, rfl, hrest⟩ | ⟨m, hfront, hr⟩
  · cases m with
    | nil => exact ⟨[], by simp, hrest.symm⟩
    | cons d m =>
      obtain ⟨rfl, -⟩ := List.cons.inj hrest
      exact absurd (by simp) hp
  · exact ⟨m, hfront, hr⟩

/-- In a template the reader comes to every brace that opens: it reads the text in front of
the brace, whatever stands behind. -/
theorem run_reaches_open {state : State} {template : Template}
    (h : run limit state = .ok template) (hopened : Allows limit state.opened.length)
    (hrest : state.rest = front ++ '\x7b' :: rest) (hlength : opened.length = state.opened.length)
    (nodes : List Node) (s : List Char) :
    ∃ opened' nodes', run limit ⟨opened, nodes, front ++ '\x7b' :: s⟩ =
      run limit ⟨opened', nodes', '\x7b' :: s⟩ := by
  -- On the run of the template: a move ends in front of the brace, or it begins with the
  -- literal text up to the brace.
  induction state using run.induct limit generalizing front opened nodes with
  | case1 state failure hstep =>
    rw [run_of_failure hstep] at h
    contradiction
  | case2 state finished hstep =>
    obtain ⟨-, hliteral, -⟩ := finished_of_step hstep
    rw [hrest] at hliteral
    have hnot := hliteral.not_mem (c := '\x7b') rfl
    simp at hnot
  | case3 state next hstep ih =>
    have hmove := move_of_step hstep
    rw [run_of_step hstep] at h
    obtain ⟨t, ht, hleads⟩ := hmove.leads hopened
    obtain ⟨w, c, x, hw, hx, htext⟩ := hmove.eq_append
    obtain rfl : t = w ++ c :: x := List.append_cancel_right (ht.symm.trans htext)
    have hliteral : '\x7b' ∉ w := hw.not_mem (not_isLiteral_open _)
    have hcut : front ++ '\x7b' :: rest = w ++ (c :: x ++ next.rest) := by
      rw [← hrest, htext, List.append_assoc]
    obtain ⟨m, rfl, hm⟩ := exists_eq_append_of_not_mem hcut hliteral
    cases m with
    | nil =>
      rw [← isEmpty_eq_of_length hlength] at hw
      rw [List.append_nil]
      exact ⟨opened, addText w nodes, run_literal hw (stops_cons.mpr (not_isLiteral_open _))⟩
    | cons d m =>
      obtain ⟨rfl, hbehind⟩ := List.cons.inj hm
      obtain ⟨m, rfl, hnext⟩ := exists_eq_append_of_not_mem hbehind.symm hx
      obtain ⟨opened', nodes', hlength', hrun⟩ := hleads opened nodes (m ++ '\x7b' :: s) hlength
      obtain ⟨opened'', nodes'', hrun'⟩ := ih h (hmove.allows hopened) hnext hlength' nodes'
      refine ⟨opened'', nodes'', ?_⟩
      rw [← hrun', ← hrun]
      simp

/-! ## Behind the colon of an index -/

/-- A colon with nothing behind it is no index. -/
theorem run_colon (ha : Only isAsciiBlank a) :
    run limit ⟨opened, nodes, '\x7b' :: (a ++ [':'])⟩ = .error ⟨.missingIndex, [':']⟩ := by
  have hskip : skipBlanks (a ++ [':']) = [':'] := skipBlanks_append ha (by decide)
  apply run_of_failure
  rw [step_open]
  simp [openToken, head, hskip, index?]

/-- The text ends with the colon of an index: only blanks stand between the colon and a
brace. -/
def EndsInIndex (s : List Char) : Prop :=
  ∃ front a, s = front ++ '\x7b' :: (a ++ [':']) ∧ Only isAsciiBlank a

theorem EndsInIndex.getLast? (h : EndsInIndex s) : s.getLast? = some ':' := by
  obtain ⟨front, a, rfl, -⟩ := h
  rw [← List.cons_append, ← List.append_assoc, List.getLast?_concat]

/-- A text that ends with the colon of an index is cut off there. -/
theorem run_of_endsInIndex {template : Template} (h : run limit ⟨[], [], s ++ t⟩ = .ok template)
    (hs : EndsInIndex s) : run limit ⟨[], [], s⟩ = .error ⟨.missingIndex, [':']⟩ := by
  obtain ⟨front, a, rfl, ha⟩ := hs
  have hrest : front ++ '\x7b' :: (a ++ [':']) ++ t = front ++ '\x7b' :: (a ++ ':' :: t) := by simp
  obtain ⟨opened, nodes, hrun⟩ := run_reaches_open h (allows_zero limit) hrest rfl [] (a ++ [':'])
  exact hrun.trans (run_colon ha)

/-- A template that is cut off elsewhere fails in a token that does not end, if it fails. -/
theorem cause_of_run_append {template : Template} {failure : Failure}
    (h : run limit ⟨[], [], s ++ t⟩ = .ok template)
    (hfailure : run limit ⟨[], [], s⟩ = .error failure) (hs : ¬EndsInIndex s) :
    failure.cause = .unterminatedToken := by
  have hdefinite : ¬failure.Definite := by
    intro hdefinite
    have hrun := run_append_error (u := t) hfailure hdefinite
    simp only [State.extend, List.map_nil] at hrun
    rw [h] at hrun
    contradiction
  by_cases hcause : failure.cause = .unterminatedToken
  · exact hcause
  · refine absurd ⟨hcause, fun ⟨hmissing, hrest⟩ => hs ?_⟩ hdefinite
    obtain ⟨front, a, hsplit, ha⟩ := run_missingIndex hfailure hmissing (allows_zero limit)
    rw [hrest, List.append_assoc] at hsplit
    exact ⟨front, a, hsplit, ha⟩

end Reader

/-! ## Beginnings of a template -/

namespace Template

/-- The beginning of a template is a template itself, or a token in it does not end.  Only
behind the colon of an index it is reported as a text without an index, at the colon. -/
theorem parse_of_append (a b : String) (template : Template)
    (h : parse (a ++ b) = .ok template) :
    (¬EndsInIndex a.toList → (∃ first, parse a = .ok first) ∨
      ∃ place, parse a = .error ⟨.unterminatedToken, place⟩) ∧
    (EndsInIndex a.toList → ∃ front : String, a = front ++ ":" ∧
      parse a = .error ⟨.missingIndex, .after front.toList⟩) := by
  have hrun : run (some maxNesting) ⟨[], [], a.toList ++ b.toList⟩ = .ok template := by
    rw [parse, read, mapError_eq_ok, String.toList_append] at h
    exact h
  refine ⟨fun hcolon => ?_, fun hcolon => ?_⟩
  · cases hfirst : parse a with
    | ok first => exact .inl ⟨first, rfl⟩
    | error e =>
      obtain ⟨failure, hfailure, rfl⟩ := read_eq_error.mp hfirst
      have hcause := cause_of_run_append hrun hfailure hcolon
      exact .inr ⟨placeOf a.toList failure.rest, by rw [Failure.toError, hcause]⟩
  · have hmissing := run_of_endsInIndex hrun hcolon
    obtain ⟨front, u, ha, -⟩ := hcolon
    have hsplit : a.toList = (front ++ '\x7b' :: u) ++ [':'] := by simp [ha]
    refine ⟨String.ofList (front ++ '\x7b' :: u), ?_, ?_⟩
    · rw [← String.toList_inj, hsplit]
      simp
    · refine read_eq_error.mpr ⟨_, hmissing, ?_⟩
      rw [Failure.toError, hsplit, placeOf_append_self, String.toList_ofList]

/-- A map that ends inside its first style, and an index that ends behind its colon. -/
theorem parse_of_append_openMap :
    parse ("x\x7b0,map,a#b" ++ "|c#\x7d") =
        .ok [.text "x", .styled .map (.position 0) [⟨"a", [.text "b"]⟩, ⟨"c", []⟩]] ∧
      ((∃ first, parse "x\x7b0,map,a#b" = .ok first) ∨
        ∃ place, parse "x\x7b0,map,a#b" = .error ⟨.unterminatedToken, place⟩) ∧
      parse ("é\x7b :" ++ "n\x7d") = .ok [.text "é", .param (.named "n")] ∧
      ∃ front : String, "é\x7b :" = front ++ ":" ∧
        parse "é\x7b :" = .error ⟨.missingIndex, .after front.toList⟩ := by
  have hmap : parse ("x\x7b0,map,a#b" ++ "|c#\x7d") =
      .ok [.text "x", .styled .map (.position 0) [⟨"a", [.text "b"]⟩, ⟨"c", []⟩]] :=
    @read_print (some maxNesting)
      [.text "x", .styled .map (.position 0) [⟨"a", [.text "b"]⟩, ⟨"c", []⟩]] (by decide)
      (allows_some.mpr (by decide))
  have hindex : parse ("é\x7b :" ++ "n\x7d") = .ok [.text "é", .param (.named "n")] := by
    rw [parse, read, mapError_eq_ok]
    exact (run_of_step rfl).trans (run_of_finished rfl)
  have hnot : ¬EndsInIndex "x\x7b0,map,a#b".toList := fun h => absurd h.getLast? (by decide)
  exact ⟨hmap, (parse_of_append _ _ _ hmap).1 hnot, hindex,
    (parse_of_append _ _ _ hindex).2 ⟨['é'], [' '], by decide, by decide⟩⟩

/-- A beginning of a template that is reported as a text without an index. -/
theorem exists_beginning_without_index : ¬∀ (a b : String) (template : Template),
    parse (a ++ b) = .ok template →
      (∃ first, parse a = .ok first) ∨ ∃ place, parse a = .error ⟨.unterminatedToken, place⟩ := by
  intro h
  have hnamed : parse ("\x7b:" ++ "n\x7d") = .ok [.param (.named "n")] :=
    @read_print (some maxNesting) [.param (.named "n")] (by decide) (allows_some.mpr (by decide))
  have hmissing : parse "\x7b:" = .error ⟨.missingIndex, ⟨1, 2⟩⟩ :=
    read_eq_error.mpr ⟨⟨.missingIndex, [':']⟩, run_of_failure rfl, by decide⟩
  rcases h _ _ _ hnamed with ⟨first, hfirst⟩ | ⟨place, hplace⟩
  · rw [hmissing] at hfirst
    contradiction
  · simp [hmissing] at hplace

end Template

end MessageTemplate
