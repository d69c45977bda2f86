import MessageTemplate.Proofs.Template.Scanner

/-!
# The steps of the reader against the grammar

A step takes a run of literal text and what ends it.  The first part gives one
equation for each thing that the reader can meet: literal text, a whole token,
the opening of a token with styles, the mark between two styles, a closing brace
and the end.  The second part says the same the other way round: `Move` lists what
a step that goes on can have met, in the words of the grammar.
-/

namespace MessageTemplate

/-- The limit allows so many style lists inside each other. -/
def Allows (limit : Option Nat) (depth : Nat) : Prop :=
  ∀ bound ∈ limit, depth ≤ bound

theorem Allows.mono {limit : Option Nat} {m n : Nat} (h : Allows limit n) (hmn : m ≤ n) :
    Allows limit m :=
  fun bound hbound => Nat.le_trans hmn (h bound hbound)

@[simp] theorem allows_zero (limit : Option Nat) : Allows limit 0 :=
  fun _ _ => Nat.zero_le _

@[simp] theorem allows_none (n : Nat) : Allows none n := by
  simp [Allows]

@[simp] theorem allows_some {bound n : Nat} : Allows (some bound) n ↔ n ≤ bound := by
  simp [Allows]

theorem not_allows {limit : Option Nat} {n : Nat} :
    ¬Allows limit n ↔ ∃ bound ∈ limit, bound < n := by
  simp [Allows]

theorem Allows.nodes {limit : Option Nat} {n : Nat} {node : Node} {nodes : List Node}
    (hnode : Allows limit (n + node.nesting)) (hnodes : Allows limit (n + Node.nestingAll nodes)) :
    Allows limit (n + Node.nestingAll (node :: nodes)) := by
  intro bound hbound
  have := hnode bound hbound
  have := hnodes bound hbound
  simp only [Node.nestingAll]
  omega

theorem Allows.styles {limit : Option Nat} {n : Nat} {key : String} {items : List Node}
    {styles : List (Style Node)} (hitems : Allows limit (n + 1 + Node.nestingAll items))
    (hstyles : Allows limit (n + Node.nestingStyles styles)) :
    Allows limit (n + Node.nestingStyles (⟨key, items⟩ :: styles)) := by
  intro bound hbound
  have := hitems bound hbound
  have := hstyles bound hbound
  simp only [Node.nestingStyles, Node.nestingItems]
  omega

namespace Reader

open Text Grammar

variable {limit : Option Nat} {opened outer : List OpenStyle} {style : OpenStyle}
  {nodes : List Node} {s t w rest start : List Char} {word : String}

/-- A nested key is a key that the limit allows. -/
theorem nestedKey_eq_ok {depth : Nat} :
    nestedKey limit depth start s = .ok (word, rest) ↔
      key start s = .ok (word, rest) ∧ Allows limit (depth + 1) := by
  cases hk : key start s with
  | error e => simp [nestedKey, hk, bind, Except.bind]
  | ok result =>
    cases limit with
    | none => simp only [nestedKey, hk, bind, Except.bind, allows_none, and_true]
    | some bound =>
      by_cases hb : bound < depth + 1
      · have hnot : ¬depth + 1 ≤ bound := by omega
        simp [nestedKey, hk, bind, Except.bind, hb, hnot]
      · have hle : depth + 1 ≤ bound := by omega
        simp only [nestedKey, hk, bind, Except.bind, hb, hle, if_false, allows_some, and_true]

/-! ## Literal text -/

@[simp] theorem not_isLiteral_open (outermost : Bool) : isLiteral outermost '\x7b' = false := by
  cases outermost <;> rfl

@[simp] theorem not_isLiteral_close (outermost : Bool) : isLiteral outermost '\x7d' = false := by
  cases outermost <;> rfl

@[simp] theorem not_isLiteral_bar : isLiteral false '|' = false := rfl

@[simp] theorem addText_nil : addText [] nodes = nodes := rfl

theorem addText_of_ne_nil (h : s ≠ []) : addText s nodes = .text (String.ofList s) :: nodes := by
  simp [addText, h]

/-! ## One equation for each step -/

/-- Two states that step to the same are read as the same template. -/
theorem run_eq_of_step_eq {a b : State} (h : step limit a = step limit b) :
    run limit a = run limit b := by
  rw [run, run, h]

theorem run_of_step {state next : State} (h : step limit state = .ok (.reading next)) :
    run limit state = run limit next := by
  rw [run]
  split <;> simp_all

theorem run_of_finished {state : State} {template : Template}
    (h : step limit state = .ok (.finished template)) : run limit state = .ok template := by
  rw [run, h]

theorem run_of_failure {state : State} {failure : Failure}
    (h : step limit state = .error failure) : run limit state = .error failure := by
  rw [run, h]

/-- Induction over a run that fails, from the step that fails back to the first one. -/
@[elab_as_elim]
theorem run_failure_induction {failure : Failure} {motive : State → Prop} {state : State}
    (h : run limit state = .error failure)
    (fails : ∀ state, step limit state = .error failure → motive state)
    (goes : ∀ state next, step limit state = .ok (.reading next) → motive next → motive state) :
    motive state := by
  induction state using run.induct limit with
  | case1 state found hstep =>
    rw [run_of_failure hstep] at h
    obtain rfl := Except.error.inj h
    exact fails state hstep
  | case2 state template hstep =>
    rw [run_of_finished hstep] at h
    contradiction
  | case3 state next hstep ih =>
    rw [run_of_step hstep] at h
    exact goes state next hstep (ih h)

/-- The character that ends a run of literal text decides about the step. -/
theorem step_append {c : Char} (nodes : List Node) (rest : List Char)
    (hw : Only (isLiteral opened.isEmpty) w) (hc : isLiteral opened.isEmpty c = false) :
    step limit ⟨opened, nodes, w ++ c :: rest⟩ =
      delimiter limit opened (addText w nodes) c rest := by
  have hstop : Stops (isLiteral opened.isEmpty) (c :: rest) := stops_cons.mpr hc
  simp only [step, takeWhile_append_of_stops hw hstop, dropWhile_append_of_stops hw hstop]

theorem step_cons {c : Char} (nodes : List Node) (rest : List Char)
    (hc : isLiteral opened.isEmpty c = false) :
    step limit ⟨opened, nodes, c :: rest⟩ = delimiter limit opened nodes c rest :=
  step_append nodes rest only_nil hc

/-- At a brace the reader goes on with a token. -/
theorem step_open (nodes : List Node) (s : List Char) :
    step limit ⟨opened, nodes, '\x7b' :: s⟩ = openToken limit opened nodes ('\x7b' :: s) s :=
  step_cons nodes s (not_isLiteral_open _)

/-- Inside a style the reader goes on with the next one behind the mark between styles. -/
theorem step_bar (nodes : List Node) (s : List Char) :
    step limit ⟨style :: outer, nodes, '|' :: s⟩ = nextStyle limit style outer nodes s :=
  step_cons nodes s not_isLiteral_bar

theorem run_end : run limit ⟨[], nodes, []⟩ = .ok nodes.reverse := by
  rw [run]
  rfl

/-- Literal text is added to the nodes when the text behind it does not continue
it. -/
theorem run_text (hne : w ≠ []) (hw : Only (isLiteral opened.isEmpty) w)
    (hs : Stops (isLiteral opened.isEmpty) s) :
    run limit ⟨opened, nodes, w ++ s⟩ =
      run limit ⟨opened, .text (String.ofList w) :: nodes, s⟩ := by
  apply run_eq_of_step_eq
  simp only [step, takeWhile_append_of_stops hw hs, dropWhile_append_of_stops hw hs,
    takeWhile_of_stops hs, dropWhile_of_stops hs, addText_nil, addText_of_ne_nil hne]

/-- Literal text that may be empty. -/
theorem run_literal (hw : Only (isLiteral opened.isEmpty) w)
    (hs : Stops (isLiteral opened.isEmpty) s) :
    run limit ⟨opened, nodes, w ++ s⟩ = run limit ⟨opened, addText w nodes, s⟩ := by
  by_cases hne : w = []
  · rw [hne]
    rfl
  · rw [run_text hne hw hs, addText_of_ne_nil hne]

theorem run_whole {node : Node} (ht : HeadText (.whole node) t) :
    run limit ⟨opened, nodes, t ++ s⟩ = run limit ⟨opened, node :: nodes, s⟩ := by
  obtain ⟨t', rfl, hread⟩ := ht
  apply run_of_step
  rw [List.cons_append, step_open]
  simp [openToken, hread]

/-- The opening of a token with styles opens its first style. -/
theorem run_opening {kind : Kind} {index : Index} (ho : HeadText (.opening kind index) t)
    (hkey : ∀ start, nestedKey limit opened.length start s = .ok (word, rest)) :
    ∃ start, run limit ⟨opened, nodes, t ++ s⟩ =
      run limit ⟨⟨nodes, kind, index, start, [], word⟩ :: opened, [], rest⟩ := by
  obtain ⟨t', rfl, hread⟩ := ho
  refine ⟨'\x7b' :: (t' ++ s), run_of_step ?_⟩
  rw [List.cons_append, step_open]
  simp [openToken, hread, hkey]

/-- The mark between two styles finishes one and opens the next. -/
theorem run_bar (hkey : nestedKey limit outer.length style.start s = .ok (word, rest)) :
    run limit ⟨style :: outer, nodes, '|' :: s⟩ =
      run limit
        ⟨{ style with finished := style.finish nodes, key := word } :: outer, [], rest⟩ := by
  apply run_of_step
  rw [step_bar]
  simp [nextStyle, hkey]

/-- A closing brace finishes the last style and with it the token. -/
theorem run_close :
    run limit ⟨style :: outer, nodes, '\x7d' :: s⟩ =
      run limit ⟨outer, style.token nodes :: style.before, s⟩ := by
  apply run_of_step
  have hstep : step limit ⟨style :: outer, nodes, '\x7d' :: s⟩ =
      delimiter limit (style :: outer) nodes '\x7d' s :=
    step_cons nodes s (not_isLiteral_close false)
  rw [hstep]
  simp [delimiter]

/-! ## What a step can have met -/

/-- The steps that go on, with the texts that they take. -/
inductive Move (limit : Option Nat) : State → State → Prop where
  | whole {opened : List OpenStyle} {nodes : List Node} {w t rest : List Char} {node : Node}
      (hw : Only (isLiteral opened.isEmpty) w) (ht : Derives t (.token node))
      (hflat : node.nesting = 0) :
      Move limit ⟨opened, nodes, w ++ (t ++ rest)⟩ ⟨opened, node :: addText w nodes, rest⟩
  | opening {opened : List OpenStyle} {nodes : List Node} {w o k start rest : List Char}
      {kind : Kind} {index : Index} {word : String} (hw : Only (isLiteral opened.isEmpty) w)
      (ho : TypedOpening index kind.keyword o) (hk : KeyText word k)
      (hdepth : Allows limit (opened.length + 1)) (hstart : start = o ++ ',' :: (k ++ rest)) :
      Move limit ⟨opened, nodes, w ++ start⟩
        ⟨⟨addText w nodes, kind, index, start, [], word⟩ :: opened, [], rest⟩
  | bar {style : OpenStyle} {outer : List OpenStyle} {nodes : List Node} {w k rest : List Char}
      {word : String} (hw : Only (isLiteral false) w) (hk : KeyText word k)
      (hdepth : Allows limit (outer.length + 1)) :
      Move limit ⟨style :: outer, nodes, w ++ '|' :: (k ++ rest)⟩
        ⟨{ style with finished := style.finish (addText w nodes), key := word } :: outer, [], rest⟩
  | close {style : OpenStyle} {outer : List OpenStyle} {nodes : List Node} {w rest : List Char}
      (hw : Only (isLiteral false) w) :
      Move limit ⟨style :: outer, nodes, w ++ '\x7d' :: rest⟩
        ⟨outer, style.token (addText w nodes) :: style.before, rest⟩

/-- What is left behind literal text begins with a brace or, inside a style, with
the mark between styles. -/
theorem eq_of_not_isLiteral {outermost : Bool} {c : Char} (h : isLiteral outermost c = false) :
    c = '\x7b' ∨ c = '\x7d' ∨ c = '|' ∧ outermost = false := by
  by_cases hopen : c = '\x7b'
  · exact .inl hopen
  · by_cases hclose : c = '\x7d'
    · exact .inr (.inl hclose)
    · refine .inr (.inr ?_)
      simpa [isLiteral, hopen, hclose, and_comm] using h

theorem move_of_openToken {next : State} (hw : Only (isLiteral opened.isEmpty) w)
    (h : openToken limit opened (addText w nodes) ('\x7b' :: s) s = .ok (.reading next)) :
    Move limit ⟨opened, nodes, w ++ '\x7b' :: s⟩ next := by
  unfold openToken at h
  split at h
  · simp at h
  · next node rest hhead =>
    simp only [Except.ok.injEq, Progress.reading.injEq] at h
    obtain ⟨t, ht, hflat, hrest⟩ := spelled_of_head hhead
    rw [← h, hrest]
    exact .whole hw ht hflat
  · next kind index rest hhead =>
    split at h
    · simp at h
    · next word rest' hnested =>
      simp only [Except.ok.injEq, Progress.reading.injEq] at h
      obtain ⟨hkey, hdepth⟩ := nestedKey_eq_ok.mp hnested
      obtain ⟨o, ho, hrest⟩ := spelled_of_head hhead
      obtain ⟨k, hk, hrest'⟩ := keyText_of_key hkey
      rw [← h]
      exact .opening hw ho hk hdepth (by rw [hrest, hrest'])

theorem move_of_nextStyle {next : State} (hw : Only (isLiteral false) w)
    (h : nextStyle limit style outer (addText w nodes) s = .ok (.reading next)) :
    Move limit ⟨style :: outer, nodes, w ++ '|' :: s⟩ next := by
  unfold nextStyle at h
  split at h
  · simp at h
  · next word rest hnested =>
    simp only [Except.ok.injEq, Progress.reading.injEq] at h
    obtain ⟨hkey, hdepth⟩ := nestedKey_eq_ok.mp hnested
    obtain ⟨k, hk, hrest⟩ := keyText_of_key hkey
    rw [← h, hrest]
    exact .bar hw hk hdepth

/-- A step that goes on is one of the moves. -/
theorem move_of_step {state next : State} (h : step limit state = .ok (.reading next)) :
    Move limit state next := by
  obtain ⟨opened, nodes, s⟩ := state
  have hw : Only (isLiteral opened.isEmpty) (s.takeWhile (isLiteral opened.isEmpty)) :=
    only_takeWhile
  have hstop : Stops (isLiteral opened.isEmpty) (s.dropWhile (isLiteral opened.isEmpty)) :=
    stops_dropWhile
  have hs := List.takeWhile_append_dropWhile (p := isLiteral opened.isEmpty) (l := s)
  unfold step at h
  dsimp only at h
  generalize s.takeWhile (isLiteral opened.isEmpty) = w at h hw hs
  split at h
  · split at h <;> simp at h
  · next c r hr =>
    rw [hr] at hs hstop
    subst hs
    unfold delimiter at h
    split at h
    · next hopen =>
      subst hopen
      exact move_of_openToken hw h
    · next hopen =>
      split at h
      · simp at h
      · next style outer =>
        split at h
        · next hbar =>
          subst hbar
          exact move_of_nextStyle hw h
        · next hbar =>
          simp only [Except.ok.injEq, Progress.reading.injEq] at h
          have hc := eq_of_not_isLiteral (stops_cons.mp hstop)
          obtain rfl : c = '\x7d' := by simpa [hopen, hbar] using hc
          rw [← h]
          exact .close hw

/-- A step completes the template when no style is open and literal text is left. -/
theorem finished_of_step {state : State} {template : Template}
    (h : step limit state = .ok (.finished template)) :
    state.opened = [] ∧ Only (isLiteral true) state.rest ∧
      template = (addText state.rest state.nodes).reverse := by
  obtain ⟨opened, nodes, s⟩ := state
  have hs := List.takeWhile_append_dropWhile (p := isLiteral opened.isEmpty) (l := s)
  unfold step at h
  dsimp only at h
  split at h
  · next hr =>
    rw [hr, List.append_nil] at hs
    split at h
    · rw [hs] at h
      simp only [Except.ok.injEq, Progress.finished.injEq] at h
      refine ⟨rfl, ?_, h.symm⟩
      rw [← hs]
      exact only_takeWhile
    · simp at h
  · unfold delimiter openToken nextStyle at h
    grind

end Reader

end MessageTemplate
