import MessageTemplate.Proofs.Template.Acceptance
import MessageTemplate.Proofs.Template.Cause

/-!
# The reader as procedures

The reader keeps the open styles in a list.  Four procedures that call each other do the same
without the list: the nodes up to the end of a list, a token, its styles, and the items of one
style.  The styles that are open are then the calls that have not come back.  The procedures
share one counter of the style lists that are open, which the items of a style raise before
they are read and put back afterwards.

`Call` has a rule for each way through a procedure, and the counter stands in every rule as it
is before and after.  So it can be said that each call leaves the counter as it was, whether
it fails or not.  The procedures come to an outcome on every text, and it is that of the
reader.
-/

namespace MessageTemplate.Reader

open Text Grammar

variable {limit : Option Nat} {depth depth' : Nat} {s t w rest start : List Char}

/-! ## The procedures -/

inductive Procedure where
  /-- Nodes up to the end of their list: the end of the text, or that of a style. -/
  | nodes (outermost : Bool)
  | token
  /-- The styles of the token at `start`, with its closing brace. -/
  | styles (start : List Char)
  /-- The items of a style of the token at `start`. -/
  | items (start : List Char)

/-- What a procedure reads. -/
abbrev Procedure.Result : Procedure → Type
  | nodes _ | items _ => List Node
  | token => Node
  | styles _ => List (Style Node)

/-- What a procedure comes to: what it has read and the rest of the text, or a failure. -/
abbrev Procedure.Outcome (procedure : Procedure) : Type :=
  Except Failure (procedure.Result × List Char)

/-- The text ends a list of nodes. -/
def EndsList (outermost : Bool) (s : List Char) : Prop :=
  s = [] ∨ outermost = false ∧ ∃ c rest, s = c :: rest ∧ (c = '|' ∨ c = '\x7d')

/-- The procedure is called with the counter at `depth` and the text `s`, leaves the counter at
`depth'` and comes to the outcome. -/
inductive Call (limit : Option Nat) :
    (procedure : Procedure) → Nat → List Char → Nat → procedure.Outcome → Prop where
  | ends {outermost : Bool} {depth : Nat} {w rest : List Char}
      (hw : Only (isLiteral outermost) w) (hrest : EndsList outermost rest) :
      Call limit (.nodes outermost) depth (w ++ rest) depth (.ok (addText w [], rest))
  | unbalanced {depth : Nat} {w rest : List Char} (hw : Only (isLiteral true) w) :
      Call limit (.nodes true) depth (w ++ '\x7d' :: rest) depth
        (.error ⟨.unbalancedDelimiter, '\x7d' :: rest⟩)
  | tokenFails {outermost : Bool} {depth depth' : Nat} {w s : List Char} {failure : Failure}
      (hw : Only (isLiteral outermost) w)
      (htoken : Call limit .token depth ('\x7b' :: s) depth' (.error failure)) :
      Call limit (.nodes outermost) depth (w ++ '\x7b' :: s) depth' (.error failure)
  | nodesFail {outermost : Bool} {depth depth' depth'' : Nat} {w s rest : List Char} {node : Node}
      {failure : Failure} (hw : Only (isLiteral outermost) w)
      (htoken : Call limit .token depth ('\x7b' :: s) depth' (.ok (node, rest)))
      (hnodes : Call limit (.nodes outermost) depth' rest depth'' (.error failure)) :
      Call limit (.nodes outermost) depth (w ++ '\x7b' :: s) depth'' (.error failure)
  | nodes {outermost : Bool} {depth depth' depth'' : Nat} {w s rest rest' : List Char}
      {node : Node} {nodes : List Node} (hw : Only (isLiteral outermost) w)
      (htoken : Call limit .token depth ('\x7b' :: s) depth' (.ok (node, rest)))
      (hnodes : Call limit (.nodes outermost) depth' rest depth'' (.ok (nodes, rest'))) :
      Call limit (.nodes outermost) depth (w ++ '\x7b' :: s) depth''
        (.ok (addText w (node :: nodes), rest'))
  | headFails {depth : Nat} {s : List Char} {failure : Failure}
      (hhead : head ('\x7b' :: s) s = .error failure) :
      Call limit .token depth ('\x7b' :: s) depth (.error failure)
  | whole {depth : Nat} {s rest : List Char} {node : Node}
      (hhead : head ('\x7b' :: s) s = .ok (.whole node, rest)) :
      Call limit .token depth ('\x7b' :: s) depth (.ok (node, rest))
  | stylesFail {depth depth' : Nat} {s rest : List Char} {kind : Kind} {index : Index}
      {failure : Failure} (hhead : head ('\x7b' :: s) s = .ok (.opening kind index, rest))
      (hstyles : Call limit (.styles ('\x7b' :: s)) depth rest depth' (.error failure)) :
      Call limit .token depth ('\x7b' :: s) depth' (.error failure)
  | styled {depth depth' : Nat} {s rest rest' : List Char} {kind : Kind} {index : Index}
      {styles : List (Style Node)} (hhead : head ('\x7b' :: s) s = .ok (.opening kind index, rest))
      (hstyles : Call limit (.styles ('\x7b' :: s)) depth rest depth' (.ok (styles, rest'))) :
      Call limit .token depth ('\x7b' :: s) depth' (.ok (.styled kind index styles, rest'))
  | keyFails {depth : Nat} {start s : List Char} {failure : Failure}
      (hkey : key start s = .error failure) :
      Call limit (.styles start) depth s depth (.error failure)
  | itemsFail {depth depth' : Nat} {start s rest : List Char} {word : String} {failure : Failure}
      (hkey : key start s = .ok (word, rest))
      (hitems : Call limit (.items start) depth rest depth' (.error failure)) :
      Call limit (.styles start) depth s depth' (.error failure)
  | unfinished {depth depth' : Nat} {start s rest : List Char} {word : String} {items : List Node}
      (hkey : key start s = .ok (word, rest))
      (hitems : Call limit (.items start) depth rest depth' (.ok (items, []))) :
      Call limit (.styles start) depth s depth' (.error ⟨.unterminatedToken, start⟩)
  | lastStyle {depth depth' : Nat} {start s rest rest' : List Char} {word : String}
      {items : List Node} (hkey : key start s = .ok (word, rest))
      (hitems : Call limit (.items start) depth rest depth' (.ok (items, '\x7d' :: rest'))) :
      Call limit (.styles start) depth s depth' (.ok ([⟨word, items⟩], rest'))
  | moreFail {depth depth' depth'' : Nat} {start s rest rest' : List Char} {word : String}
      {items : List Node} {failure : Failure} (hkey : key start s = .ok (word, rest))
      (hitems : Call limit (.items start) depth rest depth' (.ok (items, '|' :: rest')))
      (hstyles : Call limit (.styles start) depth' rest' depth'' (.error failure)) :
      Call limit (.styles start) depth s depth'' (.error failure)
  | moreStyles {depth depth' depth'' : Nat} {start s rest rest' rest'' : List Char}
      {word : String} {items : List Node} {styles : List (Style Node)}
      (hkey : key start s = .ok (word, rest))
      (hitems : Call limit (.items start) depth rest depth' (.ok (items, '|' :: rest')))
      (hstyles : Call limit (.styles start) depth' rest' depth'' (.ok (styles, rest''))) :
      Call limit (.styles start) depth s depth'' (.ok (⟨word, items⟩ :: styles, rest''))
  | tooDeep {depth bound : Nat} {start s : List Char} (hlimit : bound ∈ limit)
      (hbound : bound < depth + 1) :
      Call limit (.items start) depth s depth (.error ⟨.nestingTooDeep bound, start⟩)
  /-- The counter is put back to what it was when the items began. -/
  | items {depth depth' : Nat} {start s : List Char} {outcome : Procedure.Outcome (.nodes false)}
      (hdepth : Allows limit (depth + 1))
      (hnodes : Call limit (.nodes false) (depth + 1) s depth' outcome) :
      Call limit (.items start) depth s (depth + 1 - 1) outcome

/-- Every call leaves the counter as it was, whether it fails or not. -/
theorem Call.counter {procedure : Procedure} {outcome : procedure.Outcome}
    (h : Call limit procedure depth s depth' outcome) : depth' = depth := by
  induction h with
  | ends | unbalanced | headFails | whole | keyFails | tooDeep => rfl
  | items => exact Nat.add_sub_cancel ..
  | tokenFails _ _ ih | stylesFail _ _ ih | styled _ _ ih | itemsFail _ _ ih | unfinished _ _ ih
  | lastStyle _ _ ih => exact ih
  | nodesFail _ _ _ ih ih' | nodes _ _ _ ih ih' | moreFail _ _ _ ih ih'
  | moreStyles _ _ _ ih ih' => exact ih'.trans ih

/-! ## What a call leaves of the text -/

/-- What is left of the text `s` when the procedure has come to a result. -/
def Procedure.Leaves (s rest : List Char) : Procedure → Prop
  | nodes outermost => rest <:+ s ∧ EndsList outermost rest
  | items _ => rest <:+ s ∧ EndsList false rest
  | token | styles _ => rest <:+ s ∧ rest.length < s.length

theorem length_lt_of_suffix_cons {c : Char} (h : rest <:+ s) : rest.length < (c :: s).length :=
  Nat.lt_succ_of_le h.length_le

/-- The mark behind a key is taken. -/
theorem length_lt_of_key {word : String} (h : key start s = .ok (word, rest)) :
    rest.length < s.length := by
  obtain ⟨k, hk, rfl⟩ := keyText_of_key h
  cases hk
  simp
  omega

/-- What is left is a suffix of the text.  A list of nodes leaves what ends it, and a token or
its styles take at least one character. -/
theorem Call.leaves {procedure : Procedure} {outcome : procedure.Outcome}
    (h : Call limit procedure depth s depth' outcome) :
    ∀ result rest, outcome = .ok (result, rest) → procedure.Leaves s rest := by
  induction h with
  | unbalanced | tokenFails | nodesFail | headFails | stylesFail | keyFails | itemsFail
  | unfinished | moreFail | tooDeep => nofun
  | ends _ hrest =>
    rintro _ _ ⟨⟩
    exact ⟨List.suffix_append .., hrest⟩
  | nodes _ _ _ ihtoken ihnodes =>
    rintro _ _ ⟨⟩
    obtain ⟨hsuffix, hends⟩ := ihnodes _ _ rfl
    exact ⟨hsuffix.trans ((ihtoken _ _ rfl).1.trans (List.suffix_append ..)), hends⟩
  | whole hhead =>
    rintro _ _ ⟨⟩
    have hsuffix := head_suffix hhead
    exact ⟨hsuffix.trans (List.suffix_cons ..), length_lt_of_suffix_cons hsuffix⟩
  | styled hhead _ ih =>
    rintro _ _ ⟨⟩
    have hsuffix := (ih _ _ rfl).1.trans (head_suffix hhead)
    exact ⟨hsuffix.trans (List.suffix_cons ..), length_lt_of_suffix_cons hsuffix⟩
  | lastStyle hkey _ ih =>
    rintro _ _ ⟨⟩
    have hsuffix := suffix_of_cons (ih _ _ rfl).1
    exact ⟨hsuffix.trans (key_suffix hkey),
      Nat.lt_of_le_of_lt hsuffix.length_le (length_lt_of_key hkey)⟩
  | moreStyles hkey _ _ ihitems ihstyles =>
    rintro _ _ ⟨⟩
    have hsuffix := (ihstyles _ _ rfl).1.trans (suffix_of_cons (ihitems _ _ rfl).1)
    exact ⟨hsuffix.trans (key_suffix hkey),
      Nat.lt_of_le_of_lt hsuffix.length_le (length_lt_of_key hkey)⟩
  | items _ _ ih => exact ih

/-! ## Every text comes to an outcome -/

/-- What ends a run of literal text. -/
theorem endsList_or_delimiter (outermost : Bool) (s : List Char) :
    ∃ w rest, s = w ++ rest ∧ Only (isLiteral outermost) w ∧
      (EndsList outermost rest ∨ (∃ t, rest = '\x7b' :: t) ∨
        outermost = true ∧ ∃ t, rest = '\x7d' :: t) := by
  have hstop : Stops (isLiteral outermost) (s.dropWhile (isLiteral outermost)) := stops_dropWhile
  refine ⟨s.takeWhile (isLiteral outermost), s.dropWhile (isLiteral outermost),
    List.takeWhile_append_dropWhile.symm, only_takeWhile, ?_⟩
  cases hrest : s.dropWhile (isLiteral outermost) with
  | nil => exact .inl (.inl rfl)
  | cons c t =>
    rw [hrest] at hstop
    rcases eq_of_not_isLiteral (stops_cons.mp hstop) with rfl | rfl | ⟨rfl, rfl⟩
    · exact .inr (.inl ⟨t, rfl⟩)
    · cases outermost with
      | true => exact .inr (.inr ⟨rfl, t, rfl⟩)
      | false => exact .inl (.inr ⟨rfl, _, t, rfl, .inr rfl⟩)
    · exact .inl (.inr ⟨rfl, _, t, rfl, .inl rfl⟩)

/-- The procedure comes to an outcome on the text. -/
def Answers (limit : Option Nat) (procedure : Procedure) (s : List Char) : Prop :=
  ∀ depth, ∃ outcome : procedure.Outcome, Call limit procedure depth s depth outcome

theorem answers_items (h : Answers limit (.nodes false) s) : Answers limit (.items start) s := by
  intro depth
  by_cases hdepth : Allows limit (depth + 1)
  · obtain ⟨outcome, hnodes⟩ := h (depth + 1)
    exact ⟨outcome, .items hdepth hnodes⟩
  · obtain ⟨bound, hbound, hlt⟩ := not_allows.mp hdepth
    exact ⟨_, .tooDeep hbound hlt⟩

theorem answers_styles
    (hitems : ∀ rest : List Char, rest.length < s.length → Answers limit (.items start) rest)
    (hstyles : ∀ rest : List Char, rest.length < s.length → Answers limit (.styles start) rest) :
    Answers limit (.styles start) s := by
  intro depth
  cases hkey : key start s with
  | error failure => exact ⟨_, .keyFails hkey⟩
  | ok result =>
    obtain ⟨word, rest⟩ := result
    have hlength := length_lt_of_key hkey
    obtain ⟨outcome, hcall⟩ := hitems rest hlength depth
    cases outcome with
    | error failure => exact ⟨_, .itemsFail hkey hcall⟩
    | ok result =>
      obtain ⟨items, rest'⟩ := result
      obtain ⟨hsuffix, rfl | ⟨-, c, r, rfl, rfl | rfl⟩⟩ := hcall.leaves _ _ rfl
      · exact ⟨_, .unfinished hkey hcall⟩
      · have hshort := Nat.lt_of_le_of_lt (suffix_of_cons hsuffix).length_le hlength
        obtain ⟨outcome, hmore⟩ := hstyles r hshort depth
        cases outcome with
        | error failure => exact ⟨_, .moreFail hkey hcall hmore⟩
        | ok result => exact ⟨_, .moreStyles hkey hcall hmore⟩
      · exact ⟨_, .lastStyle hkey hcall⟩

theorem answers_token
    (hstyles : ∀ (start rest : List Char), rest <:+ s → Answers limit (.styles start) rest) :
    Answers limit .token ('\x7b' :: s) := by
  intro depth
  cases hhead : head ('\x7b' :: s) s with
  | error failure => exact ⟨_, .headFails hhead⟩
  | ok result =>
    obtain ⟨node | ⟨kind, index⟩, rest⟩ := result
    · exact ⟨_, .whole hhead⟩
    · obtain ⟨outcome, hcall⟩ := hstyles _ rest (head_suffix hhead) depth
      cases outcome with
      | error failure => exact ⟨_, .stylesFail hhead hcall⟩
      | ok result => exact ⟨_, .styled hhead hcall⟩

theorem answers_nodes {outermost : Bool}
    (htoken : ∀ t, '\x7b' :: t <:+ s → Answers limit .token ('\x7b' :: t))
    (hnodes : ∀ rest : List Char, rest.length < s.length → Answers limit (.nodes outermost) rest) :
    Answers limit (.nodes outermost) s := by
  intro depth
  obtain ⟨w, rest, rfl, hw, hends | ⟨t, rfl⟩ | ⟨rfl, t, rfl⟩⟩ := endsList_or_delimiter outermost s
  · exact ⟨_, .ends hw hends⟩
  · obtain ⟨outcome, hcall⟩ := htoken t (List.suffix_append ..) depth
    cases outcome with
    | error failure => exact ⟨_, .tokenFails hw hcall⟩
    | ok result =>
      obtain ⟨node, rest⟩ := result
      have hshort :=
        Nat.lt_of_lt_of_le (hcall.leaves _ _ rfl).2 (List.suffix_append w _).length_le
      obtain ⟨outcome, hmore⟩ := hnodes rest hshort depth
      cases outcome with
      | error failure => exact ⟨_, .nodesFail hw hcall hmore⟩
      | ok result => exact ⟨_, .nodes hw hcall hmore⟩
  · exact ⟨_, .unbalanced hw⟩

/-- The nodes of every text, and the styles of every token, come to an outcome. -/
theorem answers (limit : Option Nat) (s : List Char) :
    (∀ outermost, Answers limit (.nodes outermost) s) ∧
      ∀ start, Answers limit (.styles start) s := by
  -- On the length of the text: a token, the key of a style and the mark behind its items take
  -- a character each.
  induction hn : s.length using Nat.strongRecOn generalizing s with
  | _ n ih =>
    subst hn
    refine ⟨fun outermost => answers_nodes (fun t ht => ?_) fun rest hlt => ?_,
      fun start => answers_styles (fun rest hlt => ?_) fun rest hlt => ?_⟩
    · refine answers_token fun start rest hrest => ?_
      have hshort := Nat.lt_of_lt_of_le (length_lt_of_suffix_cons hrest) ht.length_le
      exact (ih _ hshort _ rfl).2 start
    · exact (ih _ hlt _ rfl).1 outermost
    · exact answers_items ((ih _ hlt _ rfl).1 false)
    · exact (ih _ hlt _ rfl).2 start

/-! ## The outcome is that of the reader -/

/-- The reader at the key of a style. -/
def fromKey (limit : Option Nat) (style : OpenStyle) (outer : List OpenStyle) (s : List Char) :
    Except Failure Template :=
  (nestedKey limit outer.length style.start s).bind fun (word, rest) =>
    run limit ⟨{ style with key := word } :: outer, [], rest⟩

theorem run_head_error {opened : List OpenStyle} {nodes : List Node} {failure : Failure}
    (hhead : head ('\x7b' :: s) s = .error failure) :
    run limit ⟨opened, nodes, '\x7b' :: s⟩ = .error failure := by
  apply run_of_failure
  rw [step_open]
  simp [openToken, hhead]

theorem run_head_whole {opened : List OpenStyle} {nodes : List Node} {node : Node}
    (hhead : head ('\x7b' :: s) s = .ok (.whole node, rest)) :
    run limit ⟨opened, nodes, '\x7b' :: s⟩ = run limit ⟨opened, node :: nodes, rest⟩ := by
  apply run_of_step
  rw [step_open]
  simp [openToken, hhead]

theorem run_head_opening {opened : List OpenStyle} {nodes : List Node} {kind : Kind}
    {index : Index} (hhead : head ('\x7b' :: s) s = .ok (.opening kind index, rest)) :
    run limit ⟨opened, nodes, '\x7b' :: s⟩ =
      fromKey limit ⟨nodes, kind, index, '\x7b' :: s, [], ""⟩ opened rest := by
  rw [fromKey]
  cases hkey : nestedKey limit opened.length ('\x7b' :: s) rest with
  | error failure =>
    apply run_of_failure
    simp only [step_open, openToken, hhead, hkey]
  | ok result =>
    apply run_of_step
    simp only [step_open, openToken, hhead, hkey]

theorem run_bar_eq_fromKey {style : OpenStyle} {outer : List OpenStyle} {nodes : List Node} :
    run limit ⟨style :: outer, nodes, '|' :: s⟩ =
      fromKey limit { style with finished := style.finish nodes } outer s := by
  rw [fromKey]
  cases hkey : nestedKey limit outer.length style.start s with
  | error failure =>
    apply run_of_failure
    simp only [step_bar, nextStyle, hkey]
  | ok result =>
    apply run_of_step
    simp only [step_bar, nextStyle, hkey]

/-- The reader comes to the outcome where the procedure is called inside `depth` styles, and
goes on behind its result. -/
def Procedure.Reads (limit : Option Nat) (depth : Nat) (s : List Char) :
    (procedure : Procedure) → procedure.Outcome → Prop
  | .nodes outermost, outcome => ∀ opened before, opened.length = depth →
      opened.isEmpty = outermost →
      run limit ⟨opened, before, s⟩ =
        outcome.bind fun (list, rest) => run limit ⟨opened, list.reverse ++ before, rest⟩
  | .token, outcome => ∀ opened before, opened.length = depth →
      run limit ⟨opened, before, s⟩ =
        outcome.bind fun (node, rest) => run limit ⟨opened, node :: before, rest⟩
  | .styles start, outcome => ∀ (style : OpenStyle) outer, outer.length = depth →
      style.start = start →
      fromKey limit style outer s =
        outcome.bind fun (list, rest) =>
          run limit ⟨outer, .styled style.kind style.index (style.finished.reverse ++ list) ::
            style.before, rest⟩
  | .items start, outcome => ∀ (style : OpenStyle) outer text word, outer.length = depth →
      style.start = start → key start text = .ok (word, s) →
      fromKey limit style outer text =
        outcome.bind fun (list, rest) =>
          run limit ⟨{ style with key := word } :: outer, list.reverse, rest⟩

theorem EndsList.stops {outermost : Bool} (h : EndsList outermost s) :
    Stops (isLiteral outermost) s := by
  rcases h with rfl | ⟨rfl, c, rest, rfl, rfl | rfl⟩
  · exact stops_nil
  · exact stops_cons.mpr not_isLiteral_bar
  · exact stops_cons.mpr (not_isLiteral_close false)

theorem reads_ends {outermost : Bool} (hw : Only (isLiteral outermost) w)
    (hrest : EndsList outermost rest) :
    Procedure.Reads limit depth (w ++ rest) (.nodes outermost) (.ok (addText w [], rest)) := by
  rintro opened before - rfl
  rw [run_literal hw hrest.stops, addText_eq_append]
  show _ = run limit ⟨opened, (addText w []).reverse ++ before, rest⟩
  rw [reverse_addText]

/-- Literal text and a token in front of nodes. -/
theorem reads_nodes {outermost : Bool} {node : Node} {outcome : Procedure.Outcome (.nodes outermost)}
    (hw : Only (isLiteral outermost) w)
    (htoken : Procedure.Reads limit depth ('\x7b' :: s) .token (.ok (node, rest)))
    (hnodes : Procedure.Reads limit depth rest (.nodes outermost) outcome) :
    Procedure.Reads limit depth (w ++ '\x7b' :: s) (.nodes outermost)
      (outcome.map fun (list, rest) => (addText w (node :: list), rest)) := by
  rintro opened before hlength rfl
  have hstop : Stops (isLiteral opened.isEmpty) ('\x7b' :: s) :=
    stops_cons.mpr (not_isLiteral_open _)
  have hgo := htoken opened (addText w before) hlength
  rw [run_literal hw hstop, hgo]
  show run limit ⟨opened, node :: addText w before, rest⟩ = _
  rw [hnodes opened _ hlength rfl]
  cases outcome with
  | error failure => rfl
  | ok result =>
    obtain ⟨list, rest'⟩ := result
    show run limit ⟨opened, list.reverse ++ node :: addText w before, rest'⟩ =
      run limit ⟨opened, (addText w (node :: list)).reverse ++ before, rest'⟩
    rw [addText_eq_append w before, addText_eq_append w (node :: list)]
    simp [reverse_addText]

/-- A style in front of more styles. -/
theorem reads_styles {word : String} {items : List Node} {rest' : List Char}
    {outcome : Procedure.Outcome (.styles start)} (hkey : key start s = .ok (word, rest))
    (hitems : Procedure.Reads limit depth rest (.items start) (.ok (items, '|' :: rest')))
    (hstyles : Procedure.Reads limit depth rest' (.styles start) outcome) :
    Procedure.Reads limit depth s (.styles start)
      (outcome.map fun (list, rest) => (⟨word, items⟩ :: list, rest)) := by
  rintro style outer hlength rfl
  rw [hitems style outer s word hlength rfl hkey]
  show run limit ⟨{ style with key := word } :: outer, items.reverse, '|' :: rest'⟩ = _
  have hmore := hstyles { style with key := word, finished := ⟨word, items⟩ :: style.finished }
    outer hlength rfl
  rw [run_bar_eq_fromKey, OpenStyle.finish, List.reverse_reverse]
  refine hmore.trans ?_
  cases outcome with
  | error failure => rfl
  | ok result => simp [Except.bind, Except.map]

/-- Every call comes to what the reader comes to. -/
theorem Call.reads {procedure : Procedure} {outcome : procedure.Outcome}
    (h : Call limit procedure depth s depth' outcome) :
    procedure.Reads limit depth s outcome := by
  induction h with
  | ends hw hrest => exact reads_ends hw hrest
  | @unbalanced depth w rest hw =>
    intro opened before _ hempty
    obtain rfl := List.isEmpty_iff.mp hempty
    have hstep : step limit ⟨[], before, w ++ '\x7d' :: rest⟩ =
        delimiter limit [] (addText w before) '\x7d' rest :=
      step_append before rest hw (not_isLiteral_close true)
    exact run_of_failure hstep
  | @tokenFails outermost depth depth' w s failure hw _ ih =>
    rintro opened before hlength rfl
    rw [run_literal hw (stops_cons.mpr (not_isLiteral_open _))]
    exact ih opened _ hlength
  | nodesFail hw htoken hnodes ihtoken ihnodes =>
    obtain rfl := htoken.counter
    exact reads_nodes hw ihtoken ihnodes
  | nodes hw htoken hnodes ihtoken ihnodes =>
    obtain rfl := htoken.counter
    exact reads_nodes hw ihtoken ihnodes
  | headFails hhead => exact fun opened before _ => run_head_error hhead
  | whole hhead => exact fun opened before _ => run_head_whole hhead
  | stylesFail hhead _ ih | styled hhead _ ih =>
    exact fun opened before hlength => (run_head_opening hhead).trans (ih _ _ hlength rfl)
  | keyFails hkey =>
    rintro style outer - rfl
    rw [fromKey, nestedKey_eq_error.mpr (.inl hkey)]
    rfl
  | itemsFail hkey _ ih =>
    rintro style outer hlength rfl
    exact ih style outer _ _ hlength rfl hkey
  | unfinished hkey _ ih =>
    rintro style outer hlength rfl
    refine (ih style outer _ _ hlength rfl hkey).trans ?_
    exact run_of_failure rfl
  | lastStyle hkey _ ih =>
    rintro style outer hlength rfl
    refine (ih style outer _ _ hlength rfl hkey).trans ?_
    refine run_close.trans ?_
    simp [Except.bind, OpenStyle.token, OpenStyle.finish]
  | moreFail hkey hitems _ ih ih' =>
    obtain rfl := hitems.counter
    exact reads_styles hkey ih ih'
  | moreStyles hkey hitems _ ih ih' =>
    obtain rfl := hitems.counter
    exact reads_styles hkey ih ih'
  | tooDeep hlimit hbound =>
    rintro style outer text word rfl rfl hkey
    rw [fromKey, nestedKey_eq_error.mpr (.inr ⟨_, hlimit, hbound, rfl, _, hkey⟩)]
    rfl
  | @items depth depth' start s outcome hdepth _ ih =>
    rintro style outer text word rfl rfl hkey
    rw [fromKey, nestedKey_eq_ok.mpr ⟨hkey, hdepth⟩]
    show run limit ⟨{ style with key := word } :: outer, [], s⟩ = _
    rw [ih ({ style with key := word } :: outer) [] rfl rfl]
    simp only [List.append_nil]

/-- Called on a whole text with the counter at nothing, the procedure for nodes comes to what
the reader comes to, and to nothing else. -/
theorem call_nodes_iff {outcome : Procedure.Outcome (.nodes true)} :
    Call limit (.nodes true) 0 s depth' outcome ↔
      depth' = 0 ∧ outcome = (run limit ⟨[], [], s⟩).map fun list => (list, []) := by
  have hsound {depth' : Nat} {outcome : Procedure.Outcome (.nodes true)}
      (h : Call limit (.nodes true) 0 s depth' outcome) :
      outcome = (run limit ⟨[], [], s⟩).map fun list => (list, []) := by
    rw [h.reads [] [] rfl rfl]
    cases outcome with
    | error failure => rfl
    | ok result =>
      obtain ⟨list, rest⟩ := result
      obtain ⟨-, rfl | ⟨⟨⟩, -⟩⟩ := h.leaves _ _ rfl
      show _ = (run limit ⟨[], list.reverse ++ [], []⟩).map _
      rw [run_end]
      simp [Except.map]
  constructor
  · exact fun h => ⟨h.counter, hsound h⟩
  · rintro ⟨rfl, rfl⟩
    obtain ⟨outcome, h⟩ := (answers limit s).1 true 0
    rwa [← hsound h]

end MessageTemplate.Reader
