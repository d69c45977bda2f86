import MessageTemplate.Proofs.Template.Step

/-!
# The reader accepts exactly the grammar

Completeness is an equation: on a text that derives a phrase the reader comes to
the state in which the phrase is read, whatever is open around it and whatever
follows.  Soundness goes the other way.  `Completes` writes down what the open
styles still demand of the text, every move of the reader carries it back over the
text that the move takes, and with nothing open it is a derivation.

Both directions count style lists: a text is read when it derives a template that
the limit on their nesting allows.
-/

namespace MessageTemplate

open Text Reader

variable {limit : Option Nat} {opened outer : List OpenStyle} {style : OpenStyle}
  {nodes items : List Node} {s t w k rest : List Char} {word : String}

/-! ## Texts of tokens -/

namespace Grammar

theorem Opening.eq_cons {index : Index} {o : List Char} (h : Opening index o) :
    ∃ t, o = '\x7b' :: t := by
  cases h
  exact ⟨_, rfl⟩

theorem TypedOpening.eq_cons {index : Index} {keyword : String} {o : List Char}
    (h : TypedOpening index keyword o) : ∃ t, o = '\x7b' :: t := by
  cases h with
  | mk ho _ _ =>
    obtain ⟨t, rfl⟩ := ho.eq_cons
    exact ⟨_, List.cons_append⟩

/-- A token begins with a brace. -/
theorem Derives.eq_cons_of_token {node : Node} (h : Derives t (.token node)) :
    ∃ t', t = '\x7b' :: t' := by
  cases h with
  | param ho =>
    obtain ⟨t, rfl⟩ := ho.eq_cons
    exact ⟨_, List.cons_append⟩
  | number ho | formatted ho _ _ _ _ | bare _ ho | styled ho _ =>
    obtain ⟨t, rfl⟩ := ho.eq_cons
    exact ⟨_, List.cons_append⟩

/-- A token ends literal text. -/
theorem Derives.stops_of_token {node : Node} {outermost : Bool} (h : Derives t (.token node)) :
    Stops (isLiteral outermost) (t ++ s) := by
  obtain ⟨t', rfl⟩ := h.eq_cons_of_token
  simp

/-- A run of literal text in front, which may be empty. -/
theorem Derives.literal {outermost : Bool} (hw : Only (isLiteral outermost) w)
    (hs : Stops (isLiteral outermost) s) (h : Derives s (.nodes outermost nodes)) :
    Derives (w ++ s) (.nodes outermost (addText w nodes)) := by
  by_cases hne : w = []
  · subst hne
    exact h
  · rw [addText_of_ne_nil hne]
    exact .text hne hw hs h

end Grammar

open Grammar

/-! ## Completeness -/

/-- What reading a text as a phrase does to the reader. -/
def Grammar.Phrase.ReadFrom (limit : Option Nat) (s : List Char) : Phrase → Prop
  | .nodes outermost list => ∀ (opened : List OpenStyle) (before : List Node) (rest : List Char),
      opened.isEmpty = outermost → Allows limit (opened.length + Node.nestingAll list) →
      Stops (isLiteral outermost) rest →
      run limit ⟨opened, before, s ++ rest⟩ = run limit ⟨opened, list.reverse ++ before, rest⟩
  | .token node => ∀ (opened : List OpenStyle) (before : List Node) (rest : List Char),
      Allows limit (opened.length + node.nesting) →
      run limit ⟨opened, before, s ++ rest⟩ = run limit ⟨opened, node :: before, rest⟩
  | .styles list => ∀ (outer : List OpenStyle) (rest : List Char),
      Allows limit (outer.length + Node.nestingStyles list) →
      ∃ word r,
        (∀ start, nestedKey limit outer.length start (s ++ '\x7d' :: rest) = .ok (word, r)) ∧
        ∀ before kind index start finished,
          run limit ⟨⟨before, kind, index, start, finished, word⟩ :: outer, [], r⟩ =
            run limit ⟨outer, .styled kind index (finished.reverse ++ list) :: before, rest⟩

theorem nestedKey_of_keyText {depth : Nat} {start : List Char} (hk : KeyText word k)
    (hdepth : Allows limit (depth + 1)) :
    nestedKey limit depth start (k ++ rest) = .ok (word, rest) :=
  nestedKey_eq_ok.mpr ⟨key_of_keyText hk, hdepth⟩

/-- A token without styles is read in one step. -/
theorem readFrom_of_headText {node : Node} (ht : HeadText (.whole node) t) :
    Phrase.ReadFrom limit t (.token node) :=
  fun _ _ _ _ => run_whole ht

/-- A text that derives a phrase is read as that phrase, as far as the limit
allows. -/
theorem readFrom_of_derives {phrase : Phrase} (h : Derives s phrase) :
    phrase.ReadFrom limit s := by
  -- On the derivation.  What is open around the phrase stays arbitrary, since the items
  -- of a style are read inside it.
  induction h with
  | empty => exact fun opened before rest _ _ _ => rfl
  | @text outermost w s nodes hne hw hs _ ih =>
    rintro opened before rest rfl hdepth hrest
    have hnodes := hdepth.mono (Nat.add_le_add_left Node.nestingAll_le_cons _)
    rw [List.append_assoc, run_text hne hw (hs.append fun _ => hrest),
      ih opened _ rest rfl hnodes hrest]
    simp
  | @token outermost t s node nodes _ _ ihtoken ihnodes =>
    rintro opened before rest rfl hdepth hrest
    have htoken := hdepth.mono (Nat.add_le_add_left Node.nesting_le_cons _)
    have hnodes := hdepth.mono (Nat.add_le_add_left Node.nestingAll_le_cons _)
    rw [List.append_assoc, ihtoken opened before (s ++ rest) htoken,
      ihnodes opened _ rest rfl hnodes hrest]
    simp
  | param ho => exact readFrom_of_headText (.param ho)
  | number ho => exact readFrom_of_headText (.number ho)
  | formatted ho ha hne hname hb => exact readFrom_of_headText (.formatted ho ha hne hname hb)
  | bare hkind ho => exact readFrom_of_headText (.bare hkind ho)
  | @styled kind index o s styles ho _ ih =>
    intro opened before rest hdepth
    obtain ⟨word, r, hkey, hrun⟩ := ih opened rest hdepth
    obtain ⟨start, hopen⟩ := run_opening (.opening ho) hkey
    have htext : o ++ ',' :: (s ++ ['\x7d']) ++ rest = o ++ [','] ++ (s ++ '\x7d' :: rest) := by
      simp only [List.append_assoc, List.cons_append, List.nil_append]
    rw [htext, hopen, hrun]
    rfl
  | @lastStyle key k s items hkey _ ih =>
    intro outer rest hdepth
    have hitems := hdepth.mono (Nat.add_le_add_left Node.nestingAll_lt_cons _)
    refine ⟨key, s ++ '\x7d' :: rest, fun start => ?_, fun before kind index start finished => ?_⟩
    · rw [List.append_assoc]
      exact nestedKey_of_keyText hkey (hitems.mono (by omega))
    · rw [ih _ _ _ rfl (hitems.mono (by simp only [List.length_cons]; omega)) (by simp),
        run_close]
      simp [OpenStyle.token, OpenStyle.finish]
  | @moreStyles key k s r items styles hkey _ _ ihitems ihstyles =>
    intro outer rest hdepth
    have hitems := hdepth.mono (Nat.add_le_add_left Node.nestingAll_lt_cons _)
    have hstyles := hdepth.mono (Nat.add_le_add_left Node.nestingStyles_le_cons _)
    obtain ⟨word, r', hnext, hrun⟩ := ihstyles outer rest hstyles
    refine ⟨key, s ++ '|' :: (r ++ '\x7d' :: rest), fun start => ?_,
      fun before kind index start finished => ?_⟩
    · have htext : k ++ s ++ '|' :: r ++ '\x7d' :: rest =
          k ++ (s ++ '|' :: (r ++ '\x7d' :: rest)) := by
        simp only [List.append_assoc, List.cons_append]
      rw [htext]
      exact nestedKey_of_keyText hkey (hitems.mono (by omega))
    · rw [ihitems _ _ _ rfl (hitems.mono (by simp only [List.length_cons]; omega)) (by simp),
        run_bar (hnext start), hrun]
      simp [OpenStyle.finish]

/-! ## Soundness -/

namespace Reader

/-- What follows the items of an open style: the end of its token, or more styles
and then the end. -/
inductive StylesEnd : List Char → List (Style Node) → List Char → Prop where
  | close {rest : List Char} : StylesEnd ('\x7d' :: rest) [] rest
  | more {s rest : List Char} {styles : List (Style Node)} (hstyles : Derives s (.styles styles)) :
      StylesEnd ('|' :: (s ++ '\x7d' :: rest)) styles rest

/-- A style in front of what follows it. -/
theorem StylesEnd.cons {styles : List (Style Node)} (hkey : KeyText word k)
    (hitems : Derives s (.nodes false items)) (h : StylesEnd t styles rest) :
    ∃ r, Derives r (.styles (⟨word, items⟩ :: styles)) ∧ k ++ (s ++ t) = r ++ '\x7d' :: rest := by
  cases h with
  | close => exact ⟨k ++ s, .lastStyle hkey hitems, (List.append_assoc ..).symm⟩
  | @more r _ _ hstyles =>
    refine ⟨k ++ s ++ '|' :: r, .moreStyles hkey hitems hstyles, ?_⟩
    simp only [List.append_assoc, List.cons_append]

/-- From the open styles and the nodes so far, the text completes the template:
for each open style it holds further items and styles, and then it goes on with
the finished token. -/
def Completes (limit : Option Nat) : List OpenStyle → List Node → List Char → Template → Prop
  | [], before, s, template =>
    ∃ nodes, Derives s (.nodes true nodes) ∧ Allows limit (0 + Node.nestingAll nodes) ∧
      template = before.reverse ++ nodes
  | style :: outer, before, s, template =>
    ∃ items styles s₁ s₂ rest, s = s₁ ++ s₂ ∧ Derives s₁ (.nodes false items) ∧
      Allows limit (outer.length + 1 + Node.nestingAll items) ∧ StylesEnd s₂ styles rest ∧
      Allows limit (outer.length + Node.nestingStyles styles) ∧
      Completes limit outer
        (.styled style.kind style.index
          ((style.finish (items.reverse ++ before)).reverse ++ styles) :: style.before)
        rest template

theorem addText_eq_append (w : List Char) (nodes : List Node) :
    addText w nodes = addText w [] ++ nodes := by
  unfold addText
  split <;> rfl

theorem reverse_addText (w : List Char) : (addText w []).reverse = addText w [] := by
  unfold addText
  split <;> rfl

@[simp] theorem nestingAll_addText (w : List Char) (nodes : List Node) :
    Node.nestingAll (addText w nodes) = Node.nestingAll nodes := by
  unfold addText
  split
  · rfl
  · simp [Node.nestingAll, Node.nesting]

/-- Literal text and a token may be put in front. -/
theorem derives_literal_token {outermost : Bool} {node : Node}
    (hw : Only (isLiteral outermost) w) (ht : Derives t (.token node))
    (h : Derives s (.nodes outermost nodes)) :
    Derives (w ++ (t ++ s)) (.nodes outermost (addText w (node :: nodes))) :=
  .literal hw ht.stops_of_token (.token ht h)

/-- Nothing but literal text. -/
theorem derives_literal {outermost : Bool} (hw : Only (isLiteral outermost) w) :
    Derives w (.nodes outermost (addText w [])) := by
  have h : Derives (w ++ []) (.nodes outermost (addText w [])) := .literal hw stops_nil .empty
  rwa [List.append_nil] at h

theorem Completes.token {node : Node} {template : Template}
    (hw : Only (isLiteral opened.isEmpty) w) (ht : Derives t (.token node))
    (hdepth : Allows limit (opened.length + node.nesting))
    (h : Completes limit opened (node :: addText w nodes) rest template) :
    Completes limit opened nodes (w ++ (t ++ rest)) template := by
  cases opened with
  | nil =>
    obtain ⟨new, hnew, hall, rfl⟩ := h
    refine ⟨addText w (node :: new), derives_literal_token hw ht hnew, ?_, ?_⟩
    · rw [nestingAll_addText]
      exact .nodes hdepth hall
    · rw [addText_eq_append w nodes, addText_eq_append w (node :: new)]
      simp [reverse_addText]
  | cons style outer =>
    obtain ⟨items, styles, s₁, s₂, r, rfl, hitems, hall, hend, hstyles, hrest⟩ := h
    refine ⟨addText w (node :: items), styles, w ++ (t ++ s₁), s₂, r, ?_,
      derives_literal_token hw ht hitems, ?_, hend, hstyles, ?_⟩
    · simp only [List.append_assoc]
    · rw [nestingAll_addText]
      exact .nodes hdepth hall
    · rw [addText_eq_append w nodes] at hrest
      rw [addText_eq_append w (node :: items)]
      simpa [reverse_addText] using hrest

/-- Every move is carried back over the text that it takes. -/
theorem Completes.of_move {state next : State} {template : Template} (hmove : Move limit state next)
    (hopened : Allows limit state.opened.length)
    (h : Completes limit next.opened next.nodes next.rest template) :
    Completes limit state.opened state.nodes state.rest template := by
  cases hmove with
  | whole hw ht hflat => exact h.token hw ht (by rw [hflat]; exact hopened)
  | @opening opened nodes w o k start rest kind index word hw ho hk hdepth hstart =>
    obtain ⟨items, styles, s₁, s₂, r, rfl, hitems, hall, hend, hstyles, hrest⟩ := h
    obtain ⟨s, hs, htext⟩ := hend.cons hk hitems
    have ht : Derives (o ++ ',' :: (s ++ ['\x7d']))
        (.token (.styled kind index (⟨word, items⟩ :: styles))) :=
      .styled ho hs
    have hstart' : start = o ++ ',' :: (s ++ ['\x7d']) ++ r := by
      rw [hstart, htext]
      simp only [List.append_assoc, List.cons_append, List.nil_append]
    rw [hstart']
    refine Completes.token hw ht (.styles hall hstyles) ?_
    simpa [OpenStyle.finish] using hrest
  | @bar style outer nodes w k rest word hw hk hdepth =>
    obtain ⟨items, styles, s₁, s₂, r, rfl, hitems, hall, hend, hstyles, hrest⟩ := h
    obtain ⟨s, hs, htext⟩ := hend.cons hk hitems
    refine ⟨addText w [], ⟨word, items⟩ :: styles, w, '|' :: (k ++ (s₁ ++ s₂)), r, rfl,
      derives_literal hw, ?_, ?_, .styles hall hstyles, ?_⟩
    · rw [nestingAll_addText]
      exact hdepth
    · rw [htext]
      exact .more hs
    · rw [addText_eq_append w nodes] at hrest
      simpa [OpenStyle.finish, reverse_addText] using hrest
  | @close style outer nodes w rest hw =>
    refine ⟨addText w [], [], w, '\x7d' :: rest, rest, rfl, derives_literal hw, ?_, .close, ?_, ?_⟩
    · rw [nestingAll_addText]
      exact hopened
    · exact hopened.mono (by simp [Node.nestingStyles])
    · rw [addText_eq_append w nodes] at h
      simpa [OpenStyle.token, OpenStyle.finish, reverse_addText] using h

/-- No move leaves more styles open than the limit allows. -/
theorem Move.allows {state next : State} (hmove : Move limit state next)
    (h : Allows limit state.opened.length) : Allows limit next.opened.length := by
  cases hmove with
  | whole => exact h
  | opening _ _ _ hdepth _ => exact hdepth
  | bar _ _ hdepth => exact hdepth
  | close _ => exact h.mono (Nat.le_succ _)

/-- What was read completes the template. -/
theorem completes_of_run {state : State} {template : Template}
    (hopened : Allows limit state.opened.length) (h : run limit state = .ok template) :
    Completes limit state.opened state.nodes state.rest template := by
  -- On the run: the last step completes the template, and each move before it is undone.
  induction state using run.induct limit with
  | case1 state failure hstep =>
    rw [run_of_failure hstep] at h
    contradiction
  | case2 state finished hstep =>
    rw [run_of_finished hstep] at h
    obtain rfl : finished = template := by simpa using h
    obtain ⟨opened, nodes, s⟩ := state
    obtain ⟨rfl, hliteral, rfl⟩ := finished_of_step hstep
    refine ⟨addText s [], derives_literal hliteral, ?_, ?_⟩
    · rw [nestingAll_addText]
      exact hopened
    · rw [addText_eq_append s nodes]
      simp [reverse_addText]
  | case3 state next hstep ih =>
    have hmove := move_of_step hstep
    rw [run_of_step hstep] at h
    exact .of_move hmove hopened (ih (hmove.allows hopened) h)

end Reader

/-! ## What is read as a template -/

namespace Template

theorem mapError_eq_ok {ε ε' α : Type} {f : ε → ε'} {r : Except ε α} {a : α} :
    r.mapError f = .ok a ↔ r = .ok a := by
  cases r with
  | ok b =>
    constructor
    · intro h
      rw [Except.ok.inj h]
    · intro h
      rw [Except.ok.inj h]
      rfl
  | error e =>
    constructor
    · intro h
      cases h
    · intro h
      cases h

/-- A text is read as a template exactly when it derives the template and the
limit allows its nesting. -/
theorem read_eq_ok {source : String} {template : Template} :
    read limit source = .ok template ↔
      DerivesTemplate source template ∧ Allows limit template.nesting := by
  rw [read, mapError_eq_ok]
  constructor
  · intro h
    have hstart : Allows limit ([] : List OpenStyle).length := allows_zero limit
    obtain ⟨nodes, hnodes, hall, rfl⟩ := completes_of_run hstart h
    rw [Nat.zero_add] at hall
    exact ⟨hnodes, hall⟩
  · rintro ⟨hderives, hall⟩
    have hdepth : Allows limit (([] : List OpenStyle).length + Node.nestingAll template) := by
      rw [List.length_nil, Nat.zero_add]
      exact hall
    have hread := readFrom_of_derives hderives [] [] [] rfl hdepth stops_nil
    rw [List.append_nil, run_end] at hread
    simpa using hread

/-- The grammar is unambiguous. -/
theorem eq_of_derives {source : String} {a b : Template} (ha : DerivesTemplate source a)
    (hb : DerivesTemplate source b) : a = b := by
  have hread : read none source = .ok a := read_eq_ok.mpr ⟨ha, allows_none _⟩
  rw [read_eq_ok.mpr ⟨hb, allows_none _⟩] at hread
  exact (Except.ok.inj hread).symm

theorem parse_eq_read (source : String) : parse source = read (some 128) source := rfl

/-- The parser accepts exactly the texts of the grammar whose style lists lie at
most 128 deep inside each other, and builds the tree that the grammar assigns. -/
theorem parse_eq_ok_iff_derives (source : String) (template : Template) :
    parse source = .ok template ↔
      DerivesTemplate source template ∧ template.nesting ≤ 128 := by
  rw [parse_eq_read, read_eq_ok, allows_some]

/-! ## The limit is not in the grammar -/

/-- Map tokens inside each other. -/
def nestedMaps : Nat → Template
  | 0 => [.text "x"]
  | n + 1 => [.styled .map (.position 0) [⟨"a", nestedMaps n⟩]]

/-- The text of map tokens inside each other. -/
def nestedMapsText : Nat → List Char
  | 0 => ['x']
  | n + 1 =>
    ['\x7b', '0', ',', 'm', 'a', 'p', ',', 'a', '#'] ++ nestedMapsText n ++ ['\x7d']

theorem derives_nestedMaps (outermost : Bool) (n : Nat) :
    Derives (nestedMapsText n) (.nodes outermost (nestedMaps n)) := by
  induction n generalizing outermost with
  | zero => exact derives_literal (w := ['x']) (by cases outermost <;> decide)
  | succ n ih =>
    have hvalue : Nat.ofDigitChars 10 ['0'] 0 = 0 := by decide
    have hindex := @IndexText.position ['0'] (by decide) (by decide) (by decide)
    rw [hvalue] at hindex
    have hopen : Opening (.position 0) ('\x7b' :: ([] ++ ['0'] ++ [])) :=
      .mk only_nil hindex only_nil
    have hmap : TypedOpening (.position 0) Kind.map.keyword
        ('\x7b' :: ([] ++ ['0'] ++ []) ++ ',' :: ([] ++ Kind.map.keyword.toList ++ [])) :=
      .mk hopen only_nil only_nil
    have hkey : KeyText "a" ([] ++ "a".toList ++ [] ++ ['#']) :=
      .mk only_nil (by decide) (by decide) (by decide) (by decide) only_nil
    have htoken := Derives.token (.styled hmap (.lastStyle hkey (ih false)))
      (.empty : Derives [] (.nodes outermost []))
    simpa [nestedMapsText, nestedMaps, Kind.keyword] using htoken

theorem nesting_nestedMaps (n : Nat) : (nestedMaps n).nesting = n := by
  induction n with
  | zero => rfl
  | succ n ih =>
    simp only [nesting, nestedMaps, Node.nestingAll, Node.nesting, Node.nestingStyles,
      Node.nestingItems] at ih ⊢
    omega

/-- The grammar alone does not decide: this text derives a template, but it is read
as none. -/
theorem derives_and_parse_ne_ok :
    DerivesTemplate (String.ofList (nestedMapsText 129)) (nestedMaps 129) ∧
      ∀ template, parse (String.ofList (nestedMapsText 129)) ≠ .ok template := by
  have hderives : DerivesTemplate (String.ofList (nestedMapsText 129)) (nestedMaps 129) := by
    rw [DerivesTemplate, String.toList_ofList]
    exact derives_nestedMaps true 129
  refine ⟨hderives, fun template hread => ?_⟩
  rw [parse_eq_read, read_eq_ok, allows_some] at hread
  obtain ⟨hread, hnesting⟩ := hread
  rw [eq_of_derives hread hderives, nesting_nestedMaps] at hnesting
  omega

end Template

end MessageTemplate
