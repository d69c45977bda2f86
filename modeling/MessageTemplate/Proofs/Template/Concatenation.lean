import MessageTemplate.Proofs.Template.Failure
import MessageTemplate.Proofs.Template.RoundTrip
import MessageTemplate.Proofs.Text.Position

/-!
# Reading a concatenation

A text that is read as a template can be put in front of any other text.  If the
other text is a template, the two templates are joined, and a literal text may grow
across the seam.  If the other text is at fault, so is the concatenation, for the
same cause and at the same place, which the text in front has moved.

The first part is a fact of the grammar.  For the second, two runs are compared:
`Alike` states leave the same rest behind literal text and have tokens open at the
same places, and this is all that a failure depends on.
-/

namespace MessageTemplate

open Text Reader Grammar

variable {limit : Option Nat}

/-! ## Templates one after the other -/

/-- The nodes of the first template and then those of the second.  A text at the end
of the first and one at the beginning of the second are fused. -/
def Template.append : Template → Template → Template
  | [], second => second
  | [.text value], second => Node.fuse value second
  | node :: first, second => node :: append first second

namespace Template

variable {node next : Node} {first second : Template}

@[simp] theorem nil_append : append [] second = second := rfl

@[simp] theorem text_append {value : String} :
    append [.text value] second = Node.fuse value second := rfl

theorem cons_cons_append : append (node :: next :: first) second =
    node :: append (next :: first) second := by
  cases node <;> rfl

theorem cons_append_of_not_text (h : node.isText = false) :
    append (node :: first) second = node :: append first second := by
  cases node with
  | text => contradiction
  | param | number | styled => cases first <;> rfl

theorem nesting_append (first second : Template) :
    (append first second).nesting = max first.nesting second.nesting := by
  induction first with
  | nil => exact (Nat.zero_max _).symm
  | cons node first ih =>
    cases first with
    | nil =>
      cases node with
      | text value => simp [nesting, Node.nestingAll]
      | param | number | styled => simp [nesting, append, Node.nestingAll]
    | cons next first =>
      rw [cons_cons_append]
      simp only [nesting, Node.nestingAll_cons] at ih ⊢
      rw [ih]
      omega

end Template

/-! ## The grammar -/

namespace Grammar

variable {outermost : Bool} {s t : List Char} {first second : List Node}

theorem Derives.eq_nil (h : Derives s (.nodes outermost [])) : s = [] := by
  cases h
  rfl

theorem Derives.ne_nil {node : Node} (h : Derives s (.nodes outermost (node :: first))) :
    s ≠ [] := by
  cases h with
  | text hne _ _ _ => simp [hne]
  | token ht _ =>
    obtain ⟨t, rfl⟩ := ht.eq_cons_of_token
    simp

/-- Two texts that derive lists of nodes derive the joined list. -/
theorem Derives.append (hfirst : Derives s (.nodes outermost first))
    (hsecond : Derives t (.nodes outermost second)) :
    Derives (s ++ t) (.nodes outermost (Template.append first second)) := by
  induction first generalizing s with
  | nil =>
    obtain rfl := hfirst.eq_nil
    exact hsecond
  | cons node first ih =>
    cases hfirst with
    | @token _ t' s _ _ ht hnodes =>
      rw [Template.cons_append_of_not_text ht.isText_of_token, List.append_assoc]
      exact .token ht (ih hnodes)
    | @text _ w s _ hne hw hs hnodes =>
      rw [List.append_assoc]
      cases first with
      | nil =>
        obtain rfl := hnodes.eq_nil
        have hvalue : String.ofList w ≠ "" := by simpa using hne
        have hfuse := hsecond.fuse hvalue (by rwa [String.toList_ofList])
        rwa [String.toList_ofList] at hfuse
      | cons next first =>
        rw [Template.cons_cons_append]
        exact .text hne hw (hs.append fun hnil => absurd hnil hnodes.ne_nil) (ih hnodes)

end Grammar

namespace Reader

variable {opened outer opened' outer' : List OpenStyle} {style style' : OpenStyle}
  {nodes nodes' : List Node} {s t w start : List Char} {failure : Failure}

/-! ## What a failure depends on -/

/-- The places where the open tokens begin, innermost first. -/
def starts (opened : List OpenStyle) : List (List Char) :=
  opened.map OpenStyle.start

/-- Tokens are open at the same places, and the same rest is left behind literal
text. -/
structure State.Alike (a b : State) : Prop where
  starts : starts a.opened = starts b.opened
  rest : a.rest.dropWhile (isLiteral a.opened.isEmpty) =
    b.rest.dropWhile (isLiteral b.opened.isEmpty)

/-- What a step comes to, apart from the nodes that were read. -/
def Progress.view : Progress → Option (List (List Char) × List Char)
  | .reading state => some (starts state.opened, state.rest)
  | .finished _ => none

theorem length_eq_of_starts (h : starts opened = starts opened') :
    opened.length = opened'.length := by
  simpa [starts] using congrArg List.length h

theorem isEmpty_eq_of_starts (h : starts opened = starts opened') :
    opened.isEmpty = opened'.isEmpty := by
  simpa [starts] using congrArg List.isEmpty h

theorem view_openToken (h : starts opened = starts opened') :
    (openToken limit opened nodes start s).map Progress.view =
      (openToken limit opened' nodes' start s).map Progress.view := by
  unfold openToken
  rw [length_eq_of_starts h]
  split
  · rfl
  · simp only [Except.map, Progress.view, h]
  · split
    · rfl
    · simp only [Except.map, Progress.view, starts, List.map_cons] at h ⊢
      rw [h]

theorem view_nextStyle (hstart : style.start = style'.start)
    (houter : starts outer = starts outer') :
    (nextStyle limit style outer nodes s).map Progress.view =
      (nextStyle limit style' outer' nodes' s).map Progress.view := by
  unfold nextStyle
  rw [length_eq_of_starts houter, hstart]
  split
  · rfl
  · simp only [Except.map, Progress.view, starts, List.map_cons] at houter ⊢
    rw [houter]

theorem view_delimiter {c : Char} (h : starts opened = starts opened') :
    (delimiter limit opened nodes c s).map Progress.view =
      (delimiter limit opened' nodes' c s).map Progress.view := by
  unfold delimiter
  split
  · exact view_openToken h
  · cases opened with
    | nil =>
      cases opened' with
      | nil => rfl
      | cons => contradiction
    | cons style outer =>
      cases opened' with
      | nil => contradiction
      | cons style' outer' =>
        obtain ⟨hstart, houter⟩ := List.cons.inj h
        dsimp only
        split
        · exact view_nextStyle hstart houter
        · simp only [Except.map, Progress.view]
          rw [show starts outer = starts outer' from houter]

/-- Alike states step alike. -/
theorem State.Alike.view_step {a b : State} (h : a.Alike b) :
    (step limit a).map Progress.view = (step limit b).map Progress.view := by
  obtain ⟨opened, nodes, s⟩ := a
  obtain ⟨opened', nodes', s'⟩ := b
  obtain ⟨hstarts, hrest⟩ := h
  dsimp only at hstarts hrest
  unfold step
  dsimp only
  rw [hrest]
  split
  · cases opened with
    | nil =>
      cases opened' with
      | nil => rfl
      | cons => contradiction
    | cons style outer =>
      cases opened' with
      | nil => contradiction
      | cons style' outer' =>
        obtain ⟨hstart, _⟩ := List.cons.inj hstarts
        simp only [Except.map]
        rw [show style.start = style'.start from hstart]
  · exact view_delimiter hstarts

/-- States with the same view are alike. -/
theorem alike_of_view_eq {a b : State}
    (h : Progress.view (.reading a) = Progress.view (.reading b)) : a.Alike b := by
  obtain ⟨hstarts, hrest⟩ := Prod.mk.inj (Option.some.inj h)
  refine ⟨hstarts, ?_⟩
  rw [hrest, isEmpty_eq_of_starts hstarts]

/-- Alike states fail alike. -/
theorem State.Alike.run_failure {a b : State} (h : a.Alike b)
    (hrun : run limit a = .error failure) : run limit b = .error failure := by
  -- On the run from the first state: the steps of the second have the same views.
  suffices hall : ∀ b, a.Alike b → run limit b = .error failure from hall b h
  refine run_failure_induction hrun (fun a hstep => ?_) fun a next hstep ih => ?_
  · intro b h
    have hview : (step limit a).map Progress.view = (step limit b).map Progress.view :=
      h.view_step
    rw [hstep] at hview
    cases hb : step limit b with
    | error other =>
      rw [hb] at hview
      obtain rfl := Except.error.inj hview
      exact run_of_failure hb
    | ok progress =>
      rw [hb] at hview
      contradiction
  · intro b h
    have hview : (step limit a).map Progress.view = (step limit b).map Progress.view :=
      h.view_step
    rw [hstep] at hview
    cases hb : step limit b with
    | error other =>
      rw [hb] at hview
      contradiction
    | ok progress =>
      rw [hb] at hview
      have hprogress := Except.ok.inj hview
      cases progress with
      | finished template => contradiction
      | reading next' =>
        rw [run_of_step hb]
        exact ih next' (alike_of_view_eq hprogress)

/-! ## A failure behind a template -/

/-- Literal text and nodes in front do not matter to a failure. -/
theorem run_failure_of_literal (hw : Only (isLiteral true) w)
    (h : run limit ⟨[], nodes, s⟩ = .error failure) :
    run limit ⟨[], nodes', w ++ s⟩ = .error failure := by
  have halike : State.Alike ⟨[], nodes, s⟩ ⟨[], nodes', w ++ s⟩ :=
    ⟨rfl, (List.dropWhile_append_of_pos hw).symm⟩
  exact halike.run_failure h

/-- A text that derives a template leaves the failure behind it as it is. -/
theorem run_failure_append {first : List Node} (hfirst : Derives s (.nodes true first))
    (hdepth : Allows limit (Node.nestingAll first))
    (h : run limit ⟨[], [], t⟩ = .error failure) :
    run limit ⟨[], nodes, s ++ t⟩ = .error failure := by
  -- On the nodes of the first text: literal text does not matter to the failure behind
  -- it, and a token is read as a whole.
  induction first generalizing s nodes with
  | nil =>
    obtain rfl := hfirst.eq_nil
    exact run_failure_of_literal only_nil h
  | cons node first ih =>
    have hrest := hdepth.mono Node.nestingAll_le_cons
    cases hfirst with
    | @text _ w s _ hne hw hs hnodes =>
      have hbehind : run limit ⟨[], nodes, s ++ t⟩ = .error failure := ih hnodes hrest
      rw [List.append_assoc]
      exact run_failure_of_literal hw hbehind
    | @token _ t' s _ _ ht hnodes =>
      have hnode : Allows limit (([] : List OpenStyle).length + node.nesting) := by
        rw [List.length_nil, Nat.zero_add]
        exact hdepth.mono Node.nesting_le_cons
      have htoken := readFrom_of_derives ht [] nodes (s ++ t) hnode
      rw [List.append_assoc, htoken]
      exact ih hnodes hrest

/-- The rest of a text begins behind the text in front of it. -/
theorem placeOf_append_self (s rest : List Char) : placeOf (s ++ rest) rest = .after s := by
  simp [placeOf]

/-- A text in front moves the places in the text behind it. -/
theorem placeOf_append (h : t <:+ w) : placeOf (s ++ w) t = (placeOf w t).moved s := by
  have hle := h.length_le
  have htake : (s ++ w).take ((s ++ w).length - t.length) =
      s ++ w.take (w.length - t.length) := by
    have hlength : (s ++ w).length - t.length = s.length + (w.length - t.length) := by
      rw [List.length_append]
      omega
    rw [hlength, List.take_length_add_append]
  rw [placeOf, placeOf, htake, Position.after_append]

end Reader

/-! ## Reading a concatenation -/

namespace Template

variable {a b : String} {first second : Template}

theorem read_append (ha : read limit a = .ok first) (hb : read limit b = .ok second) :
    read limit (a ++ b) = .ok (append first second) := by
  obtain ⟨hfirst, hdepth⟩ := read_eq_ok.mp ha
  obtain ⟨hsecond, hdepth'⟩ := read_eq_ok.mp hb
  refine read_eq_ok.mpr ⟨?_, ?_⟩
  · rw [DerivesTemplate, String.toList_append]
    exact hfirst.append hsecond
  · rw [nesting_append]
    intro bound hbound
    exact Nat.max_le.mpr ⟨hdepth bound hbound, hdepth' bound hbound⟩

theorem read_eq_error {e : ParseError} : read limit a = .error e ↔
    ∃ failure, Reader.run limit ⟨[], [], a.toList⟩ = .error failure ∧
      e = failure.toError a.toList := by
  rw [read]
  cases Reader.run limit ⟨[], [], a.toList⟩ with
  | ok template =>
    constructor
    · intro h
      cases h
    · rintro ⟨failure, hfailure, _⟩
      cases hfailure
  | error failure =>
    constructor
    · intro h
      exact ⟨failure, rfl, (Except.error.inj h).symm⟩
    · rintro ⟨other, hother, rfl⟩
      obtain rfl := Except.error.inj hother
      rfl

theorem read_append_error {e : ParseError} (ha : read limit a = .ok first)
    (hb : read limit b = .error e) :
    read limit (a ++ b) = .error ⟨e.cause, e.position.moved a.toList⟩ := by
  obtain ⟨hfirst, hdepth⟩ := read_eq_ok.mp ha
  obtain ⟨failure, hfailure, rfl⟩ := read_eq_error.mp hb
  refine read_eq_error.mpr ⟨failure, ?_, ?_⟩
  · rw [String.toList_append]
    exact run_failure_append hfirst hdepth hfailure
  · rw [String.toList_append, Reader.Failure.toError, Reader.Failure.toError,
      placeOf_append (failure_suffix hfailure)]

/-- Parsing goes through a text that is a template: what stands behind it is joined
to the template, or fails as it would alone, at the place moved by the text. -/
theorem parse_append (a b : String) (first : Template) (h : parse a = .ok first) :
    (∀ second, parse b = .ok second → parse (a ++ b) = .ok (append first second)) ∧
    ∀ e, parse b = .error e →
      parse (a ++ b) = .error ⟨e.cause, e.position.moved a.toList⟩ :=
  ⟨fun _ hb => read_append h hb, fun _ hb => read_append_error h hb⟩

/-- A text grows across the seam, and the place of a fault moves to the second line. -/
theorem parse_append_second_line :
    parse ("\x7b0\x7d\nb" ++ "c") = .ok [.param (.position 0), .text "\nbc"] ∧
      parse "c\x7d" = .error ⟨.unbalancedDelimiter, ⟨1, 2⟩⟩ ∧
      parse ("\x7b0\x7d\nb" ++ "c\x7d") = .error ⟨.unbalancedDelimiter, ⟨2, 3⟩⟩ := by
  have hdepth (n : Nat) (h : n ≤ 128) : Allows (some maxNesting) n := allows_some.mpr h
  have hfirst : parse "\x7b0\x7d\nb" = .ok [.param (.position 0), .text "\nb"] :=
    @read_print (some maxNesting) [.param (.position 0), .text "\nb"] (by decide)
      (hdepth 0 (by decide))
  have hsecond : parse "c" = .ok [.text "c"] :=
    @read_print (some maxNesting) [.text "c"] (by decide) (hdepth 0 (by decide))
  have herror : parse "c\x7d" = .error ⟨.unbalancedDelimiter, ⟨1, 2⟩⟩ :=
    read_eq_error.mpr ⟨⟨.unbalancedDelimiter, ['\x7d']⟩, run_of_failure rfl, by decide⟩
  exact ⟨(parse_append _ _ _ hfirst).1 _ hsecond, herror, (parse_append _ _ _ hfirst).2 _ herror⟩

end Template

end MessageTemplate
