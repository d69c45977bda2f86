import MessageTemplate.Proofs.Template.Descent
import MessageTemplate.Proofs.Template.Place

/-!
# The limit on nesting

The reader refuses a token that begins a style of its own inside as many open style lists as
the limit allows.  `Inside` says how many lists are open behind the beginning of a template,
from the pieces of the grammar alone: the head of a token opens a list, its closing brace ends
it, and the mark between two styles leaves the number as it is.

The reader that knows no limit agrees with the one that does until such a token is met.  The
failure names the first of them: the beginning of a text that ends in front of one leads the
reader there, unless an earlier one stops it.

The number of open style lists is also the counter that the procedures of the reader share.
-/

namespace MessageTemplate

open Text Reader Grammar

variable {limit : Option Nat} {bound depth n : Nat} {opened outer : List OpenStyle}
  {style : OpenStyle} {nodes : List Node} {k o s t w start rest : List Char}
  {word : String} {kind : Kind} {index : Index} {failure : Failure}

/-! ## Open style lists -/

namespace Grammar

/-- The text begins a template and ends between the nodes of a list, inside `n` open style
lists. -/
inductive Inside : Nat → List Char → Prop where
  | start : Inside 0 []
  | literal {n : Nat} {s w : List Char} (h : Inside n s) (hw : Only (isLiteral (n == 0)) w) :
      Inside n (s ++ w)
  /-- A token without styles inside. -/
  | token {n : Nat} {s t : List Char} {node : Node} (h : Inside n s) (ht : Derives t (.token node))
      (hflat : node.nesting = 0) : Inside n (s ++ t)
  | firstStyle {n : Nat} {s o k : List Char} {kind : Kind} {index : Index} {word : String}
      (h : Inside n s) (ho : TypedOpening index kind.keyword o) (hk : KeyText word k) :
      Inside (n + 1) (s ++ (o ++ ',' :: k))
  | nextStyle {n : Nat} {s k : List Char} {word : String} (h : Inside (n + 1) s)
      (hk : KeyText word k) : Inside (n + 1) (s ++ '|' :: k)
  | close {n : Nat} {s : List Char} (h : Inside (n + 1) s) : Inside n (s ++ ['\x7d'])

/-- The text begins with the opening of a token and the key of its first style. -/
def OpensStyle (s : List Char) : Prop :=
  ∃ (index : Index) (kind : Kind) (word : String) (o k rest : List Char),
    TypedOpening index kind.keyword o ∧ KeyText word k ∧ s = o ++ ',' :: (k ++ rest)

end Grammar

namespace Reader

theorem isEmpty_eq_length_beq (opened : List OpenStyle) :
    opened.isEmpty = (opened.length == 0) := by
  cases opened <;> rfl

/-! ## Without a limit -/

/-- The failure of a style list that is nested too deeply. -/
def Deep {α : Type} (result : Except Failure α) : Prop :=
  ∃ bound place, result = .error ⟨.nestingTooDeep bound, place⟩

theorem nestedKey_unlimited (limit : Option Nat) (depth : Nat) (start s : List Char) :
    Deep (nestedKey limit depth start s) ∨
      nestedKey none depth start s = nestedKey limit depth start s := by
  cases hkey : nestedKey limit depth start s with
  | error failure =>
    rcases nestedKey_eq_error.mp hkey with hkey | ⟨bound, _, _, rfl, _⟩
    · exact .inr (nestedKey_eq_error.mpr (.inl hkey))
    · exact .inl ⟨bound, start, rfl⟩
  | ok result =>
    obtain ⟨word, rest⟩ := result
    exact .inr (nestedKey_eq_ok.mpr ⟨(nestedKey_eq_ok.mp hkey).1, allows_none _⟩)

theorem openToken_unlimited (limit : Option Nat) (opened : List OpenStyle) (nodes : List Node)
    (start s : List Char) : Deep (openToken limit opened nodes start s) ∨
      openToken none opened nodes start s = openToken limit opened nodes start s := by
  unfold openToken
  split
  · exact .inr rfl
  · exact .inr rfl
  · next rest _ =>
    rcases nestedKey_unlimited limit opened.length start rest with ⟨bound, place, hdeep⟩ | hsame
    · rw [hdeep]
      exact .inl ⟨bound, place, rfl⟩
    · rw [hsame]
      exact .inr rfl

theorem nextStyle_unlimited (limit : Option Nat) (style : OpenStyle) (outer : List OpenStyle)
    (nodes : List Node) (s : List Char) : Deep (nextStyle limit style outer nodes s) ∨
      nextStyle none style outer nodes s = nextStyle limit style outer nodes s := by
  unfold nextStyle
  rcases nestedKey_unlimited limit outer.length style.start s with ⟨bound, place, hdeep⟩ | hsame
  · rw [hdeep]
    exact .inl ⟨bound, place, rfl⟩
  · rw [hsame]
    exact .inr rfl

theorem step_unlimited (limit : Option Nat) (state : State) :
    Deep (step limit state) ∨ step none state = step limit state := by
  unfold step delimiter
  dsimp only
  split
  · exact .inr rfl
  · split
    · exact openToken_unlimited ..
    · split
      · exact .inr rfl
      · split
        · exact nextStyle_unlimited ..
        · exact .inr rfl

/-- Unless it fails for its limit, the reader comes to the same without one. -/
theorem run_unlimited (limit : Option Nat) (state : State) :
    Deep (run limit state) ∨ run none state = run limit state := by
  induction state using run.induct limit with
  | case1 state failure hstep =>
    rw [run_of_failure hstep]
    rcases step_unlimited limit state with ⟨bound, place, hdeep⟩ | hsame
    · rw [hstep] at hdeep
      exact .inl ⟨bound, place, by rw [Except.error.inj hdeep]⟩
    · exact .inr (run_of_failure (hsame.trans hstep))
  | case2 state template hstep =>
    rw [run_of_finished hstep]
    rcases step_unlimited limit state with ⟨bound, place, hdeep⟩ | hsame
    · rw [hstep] at hdeep
      contradiction
    · exact .inr (run_of_finished (hsame.trans hstep))
  | case3 state next hstep ih =>
    rw [run_of_step hstep]
    rcases step_unlimited limit state with ⟨bound, place, hdeep⟩ | hsame
    · rw [hstep] at hdeep
      contradiction
    · rwa [run_of_step (hsame.trans hstep)]

/-! ## The place of the failure -/

/-- A move leads on inside as many style lists as are open then. -/
theorem Move.inside {state next : State} (hmove : Move limit state next)
    (h : Inside state.opened.length s) :
    ∃ t, state.rest = t ++ next.rest ∧ Inside next.opened.length (s ++ t) := by
  cases hmove with
  | @whole opened nodes w t rest node hw ht hflat =>
    rw [isEmpty_eq_length_beq] at hw
    refine ⟨w ++ t, (List.append_assoc ..).symm, ?_⟩
    rw [← List.append_assoc]
    exact (h.literal hw).token ht hflat
  | @opening opened nodes w o k start rest kind index word hw ho hk hdepth hstart =>
    rw [isEmpty_eq_length_beq] at hw
    refine ⟨w ++ (o ++ ',' :: k), by simp [hstart], ?_⟩
    rw [← List.append_assoc]
    exact (h.literal hw).firstStyle ho hk
  | @bar style outer nodes w k rest word hw hk hdepth =>
    refine ⟨w ++ '|' :: k, by simp, ?_⟩
    rw [← List.append_assoc]
    exact (h.literal hw).nextStyle hk
  | @close style outer nodes w rest hw =>
    refine ⟨w ++ ['\x7d'], by simp, ?_⟩
    rw [← List.append_assoc]
    exact (h.literal hw).close

/-- The limit is met at the first style of a token inside as many style lists as it allows. -/
theorem step_tooDeep {state : State} (h : step limit state = .error failure)
    (hcause : failure.cause = .nestingTooDeep bound)
    (hopened : Allows limit state.opened.length) :
    bound ∈ limit ∧ state.opened.length = bound ∧
      ∃ w, Only (isLiteral state.opened.isEmpty) w ∧ state.rest = w ++ failure.rest ∧
        OpensStyle failure.rest := by
  have hkey {depth : Nat} {start s : List Char}
      (hkey : nestedKey limit depth start s = .error failure) :
      bound ∈ limit ∧ bound < depth + 1 ∧ failure.rest = start ∧
        ∃ word rest, key start s = .ok (word, rest) := by
    rcases nestedKey_eq_error.mp hkey with hkey | ⟨found, hfound, hlt, rfl, ⟨word, rest⟩, hkey⟩
    · have hbroken := key_cause hkey
      rw [hcause] at hbroken
      contradiction
    · obtain rfl := Cause.nestingTooDeep.inj hcause
      exact ⟨hfound, hlt, rfl, word, rest, hkey⟩
  cases fault_of_step h with
  | unfinished | unbalanced _ => contradiction
  | head _ hhead =>
    rcases head_cause hhead with hbroken | hmissing | ⟨found, hfound⟩ | ⟨_, _, _, _, _, _, _, hword⟩
    · rw [hcause] at hbroken
      contradiction
    · rw [hmissing] at hcause
      contradiction
    · rw [hfound] at hcause
      contradiction
    · rw [hword] at hcause
      contradiction
  | @firstKey opened nodes w s rest kind index _ hw hhead hfirst =>
    obtain ⟨hbound, hlt, hplace, word, rest', hread⟩ := hkey hfirst
    have hle := hopened bound hbound
    refine ⟨hbound, Nat.le_antisymm hle (Nat.le_of_lt_succ hlt), w, hw, by rw [hplace], ?_⟩
    obtain ⟨o, ho, hs⟩ := spelled_of_head hhead
    obtain ⟨k, hk, hrest⟩ := keyText_of_key hread
    rw [hplace, hs, hrest]
    exact ⟨index, kind, word, o, k, rest', ho, hk, rfl⟩
  | @nextKey style outer nodes w s _ hw hnext =>
    -- The style that stands in front of this one was inside as many lists.
    obtain ⟨hbound, hlt, _⟩ := hkey hnext
    have hle : outer.length + 1 ≤ bound := hopened bound hbound
    omega

theorem run_tooDeep {state : State} (h : run limit state = .error failure)
    (hcause : failure.cause = .nestingTooDeep bound)
    (hopened : Allows limit state.opened.length) (s : List Char)
    (hinside : Inside state.opened.length s) :
    bound ∈ limit ∧ ∃ t, state.rest = t ++ failure.rest ∧ Inside bound (s ++ t) ∧
      OpensStyle failure.rest := by
  -- On the run that fails; the moves in front of the failure lead inside the open lists.
  revert hopened s
  refine run_failure_induction h (fun state hstep hopened s hinside => ?_)
    fun state next hstep ih hopened s hinside => ?_
  · obtain ⟨hbound, hlength, w, hw, hrest, hopens⟩ := step_tooDeep hstep hcause hopened
    rw [isEmpty_eq_length_beq] at hw
    refine ⟨hbound, w, hrest, ?_, hopens⟩
    rw [← hlength]
    exact hinside.literal hw
  · have hmove := move_of_step hstep
    obtain ⟨t, hrest, hnext⟩ := hmove.inside hinside
    obtain ⟨hbound, t', hrest', hinside', hopens⟩ := ih (hmove.allows hopened) _ hnext
    refine ⟨hbound, t ++ t', by rw [hrest, hrest', List.append_assoc], ?_, hopens⟩
    rwa [← List.append_assoc]

/-! ## The first token beyond the limit -/

theorem Leads.trans {m : Nat} (hs : Leads limit s depth m) (ht : Leads limit t m n) :
    Leads limit (s ++ t) depth n := by
  intro opened nodes rest hlength
  obtain ⟨opened', nodes', hlength', hrun⟩ := hs opened nodes (t ++ rest) hlength
  obtain ⟨opened'', nodes'', hlength'', hrun'⟩ := ht opened' nodes' rest hlength'
  exact ⟨opened'', nodes'', hlength'', by rw [List.append_assoc, hrun, hrun']⟩

/-- A token that begins a style beyond the limit is refused at its brace. -/
theorem run_beyond (hw : Only (isLiteral opened.isEmpty) w) (ho : TypedOpening index kind.keyword o)
    (hk : KeyText word k) (hbound : bound ∈ limit) (hlt : bound < opened.length + 1) :
    run limit ⟨opened, nodes, w ++ (o ++ ',' :: (k ++ rest))⟩ =
      .error ⟨.nestingTooDeep bound, o ++ ',' :: (k ++ rest)⟩ := by
  obtain ⟨t, ht, hread⟩ := HeadText.opening ho
  have htext : o ++ ',' :: (k ++ rest) = '\x7b' :: (t ++ (k ++ rest)) := by
    simpa using congrArg (· ++ (k ++ rest)) ht
  have hkey : nestedKey limit opened.length ('\x7b' :: (t ++ (k ++ rest))) (k ++ rest) =
      .error ⟨.nestingTooDeep bound, '\x7b' :: (t ++ (k ++ rest))⟩ :=
    nestedKey_eq_error.mpr (.inr ⟨bound, hbound, hlt, rfl, _, key_of_keyText hk⟩)
  rw [htext, run_literal hw (stops_cons.mpr (not_isLiteral_open _))]
  apply run_of_failure
  rw [step_open]
  simp [openToken, hread, hkey]

/-- A token in the text is refused, whatever stands behind the text. -/
def Refuses (limit : Option Nat) (s : List Char) : Prop :=
  ∃ bound ∈ limit, ∃ t r, s = t ++ r ∧
    ∀ rest, run limit ⟨[], [], s ++ rest⟩ = .error ⟨.nestingTooDeep bound, r ++ rest⟩

theorem Refuses.append (h : Refuses limit s) (u : List Char) : Refuses limit (s ++ u) := by
  obtain ⟨bound, hbound, t, r, rfl, hrun⟩ := h
  refine ⟨bound, hbound, t, r ++ u, List.append_assoc .., fun rest => ?_⟩
  rw [List.append_assoc, hrun, List.append_assoc]

/-- The text leads the reader inside `n` style lists, up to literal text at its end. -/
def Reaches (limit : Option Nat) (n : Nat) (s : List Char) : Prop :=
  Allows limit n ∧ ∃ t w, s = t ++ w ∧ Only (isLiteral (n == 0)) w ∧ Leads limit t 0 n

theorem Reaches.literal (h : Reaches limit n s) (hw : Only (isLiteral (n == 0)) w) :
    Reaches limit n (s ++ w) := by
  obtain ⟨hdepth, t, w', rfl, hw', hleads⟩ := h
  exact ⟨hdepth, t, w' ++ w, List.append_assoc .., only_append.mpr ⟨hw', hw⟩, hleads⟩

/-- A piece that leads on behind literal text. -/
theorem Reaches.lead {m : Nat} (h : Reaches limit n s) (hdepth : Allows limit m)
    (ht : ∀ (opened : List OpenStyle) (w : List Char), opened.length = n →
      Only (isLiteral opened.isEmpty) w → Leads limit (w ++ t) n m) :
    Reaches limit m (s ++ t) := by
  obtain ⟨-, s, w, rfl, hw, hleads⟩ := h
  obtain ⟨opened, _, hlength, _⟩ := hleads [] [] [] rfl
  refine ⟨hdepth, s ++ (w ++ t), [], by simp, only_nil, hleads.trans (ht opened w hlength ?_)⟩
  rwa [isEmpty_eq_length_beq, hlength]

/-- Behind the text the reader goes on inside the lists that are open there. -/
theorem Reaches.run_eq (h : Reaches limit n s) (rest : List Char) :
    ∃ opened nodes w, opened.length = n ∧ Only (isLiteral opened.isEmpty) w ∧
      run limit ⟨[], [], s ++ rest⟩ = run limit ⟨opened, nodes, w ++ rest⟩ := by
  obtain ⟨-, t, w, rfl, hw, hleads⟩ := h
  obtain ⟨opened, nodes, hlength, hrun⟩ := hleads [] [] (w ++ rest) rfl
  refine ⟨opened, nodes, w, hlength, ?_, by rw [List.append_assoc, hrun]⟩
  rwa [isEmpty_eq_length_beq, hlength]

/-- Where the reader has reached the limit, it refuses the first style of a token. -/
theorem Reaches.run_beyond (h : Reaches limit n s) (hbound : bound ∈ limit)
    (hlt : bound < n + 1) (ho : TypedOpening index kind.keyword o) (hk : KeyText word k)
    (rest : List Char) :
    run limit ⟨[], [], s ++ (o ++ ',' :: (k ++ rest))⟩ =
      .error ⟨.nestingTooDeep bound, o ++ ',' :: (k ++ rest)⟩ := by
  obtain ⟨opened, nodes, w, hlength, hw, hrun⟩ := h.run_eq (o ++ ',' :: (k ++ rest))
  rw [hrun]
  exact Reader.run_beyond hw ho hk hbound (by omega)

/-- The beginning of a text leads the reader inside the lists that are open there, unless a
token in it is refused. -/
theorem refuses_or_reaches (limit : Option Nat) (h : Inside n s) :
    Refuses limit s ∨ Reaches limit n s := by
  induction h with
  | start =>
    refine .inr ⟨allows_zero limit, [], [], rfl, only_nil, ?_⟩
    exact fun opened nodes rest hlength => ⟨opened, nodes, hlength, rfl⟩
  | literal _ hw ih =>
    rcases ih with hrefuses | hreaches
    · exact .inl (hrefuses.append _)
    · exact .inr (hreaches.literal hw)
  | token _ ht hflat ih =>
    rcases ih with hrefuses | hreaches
    · exact .inl (hrefuses.append _)
    · refine .inr (hreaches.lead hreaches.1 fun opened w hlength hw => ?_)
      subst hlength
      exact leads_whole hw ht (by rw [hflat]; exact hreaches.1)
  | @firstStyle n s o k kind index word _ ho hk ih =>
    rcases ih with hrefuses | hreaches
    · exact .inl (hrefuses.append _)
    · by_cases hdepth : Allows limit (n + 1)
      · refine .inr (hreaches.lead hdepth fun opened w hlength hw => ?_)
        subst hlength
        exact leads_opening hw ho hk hdepth
      · obtain ⟨bound, hbound, hlt⟩ := not_allows.mp hdepth
        refine .inl ⟨bound, hbound, s, o ++ ',' :: k, rfl, fun rest => ?_⟩
        have hrun := hreaches.run_beyond hbound hlt ho hk rest
        simpa only [List.append_assoc, List.cons_append] using hrun
  | nextStyle _ hk ih =>
    rcases ih with hrefuses | hreaches
    · exact .inl (hrefuses.append _)
    · refine .inr (hreaches.lead hreaches.1 fun opened w hlength hw => ?_)
      rw [isEmpty_eq_length_beq, hlength] at hw
      exact leads_bar hw hk hreaches.1
  | close _ ih =>
    rcases ih with hrefuses | hreaches
    · exact .inl (hrefuses.append _)
    · refine .inr (hreaches.lead (hreaches.1.mono (Nat.le_succ _)) fun opened w hlength hw => ?_)
      rw [isEmpty_eq_length_beq, hlength] at hw
      exact leads_close hw

/-! ## The number of open lists -/

/-- Closing braces end a template when they are as many as the open styles. -/
theorem run_closes (h : opened.length ≤ n) :
    (∃ template, run limit ⟨opened, nodes, List.replicate n '\x7d'⟩ = .ok template) ↔
      opened.length = n := by
  induction opened generalizing nodes n with
  | nil =>
    cases n with
    | zero =>
      have hend : run limit ⟨[], nodes, []⟩ = .ok nodes.reverse := run_end
      exact ⟨fun _ => rfl, fun _ => ⟨_, hend⟩⟩
    | succ n =>
      have hfails : run limit ⟨[], nodes, List.replicate (n + 1) '\x7d'⟩ =
          .error ⟨.unbalancedDelimiter, List.replicate (n + 1) '\x7d'⟩ :=
        run_of_failure (step_cons nodes _ (not_isLiteral_close true))
      simp [hfails]
  | cons style outer ih =>
    obtain ⟨m, rfl⟩ := Nat.exists_eq_add_of_le' (Nat.one_le_of_lt h)
    rw [List.replicate_succ, run_close, ih (Nat.le_of_succ_le_succ h), List.length_cons,
      Nat.succ_inj]

/-- A text leads inside one number of lists only. -/
theorem Reaches.unique {m : Nat} (hn : Reaches limit n s) (hm : Reaches limit m s)
    (hle : n ≤ m) : n = m := by
  -- Behind the text, as many closing braces as lists are open leave a template, and more do not.
  have hstop {outermost : Bool} : Stops (isLiteral outermost) (List.replicate m '\x7d') := by
    cases m with
    | zero => exact stops_nil
    | succ m => exact stops_cons.mpr (not_isLiteral_close _)
  obtain ⟨opened, nodes, w, rfl, hw, hrun⟩ := hn.run_eq (List.replicate m '\x7d')
  obtain ⟨opened', nodes', w', rfl, hw', hrun'⟩ := hm.run_eq (List.replicate m '\x7d')
  rw [run_literal hw hstop] at hrun
  rw [run_literal hw' hstop, hrun] at hrun'
  rw [← run_closes hle, hrun', run_closes (Nat.le_refl _)]

end Reader

theorem Grammar.Inside.unique {m : Nat} (hn : Inside n s) (hm : Inside m s) : n = m := by
  have hreaches {n : Nat} (h : Inside n s) : Reaches none n s := by
    rcases refuses_or_reaches none h with ⟨bound, hbound, _⟩ | hreaches
    · contradiction
    · exact hreaches
  rcases Nat.le_total n m with hle | hle
  · exact (hreaches hn).unique (hreaches hm) hle
  · exact ((hreaches hm).unique (hreaches hn) hle).symm

/-! ## Reading with the limit -/

namespace Template

/-- Behind `before` the text goes on with a token that begins a style of its own inside as many
style lists as the limit allows. -/
def ExceedsAt (source before : List Char) : Prop :=
  ∃ rest, source = before ++ rest ∧ Inside maxNesting before ∧ OpensStyle rest

/-- Where the limit is exceeded the text is refused, there or earlier. -/
theorem run_of_exceedsAt {source before : List Char} (h : ExceedsAt source before) :
    ∃ t r, source = t ++ r ∧ t <+: before ∧
      run (some maxNesting) ⟨[], [], source⟩ = .error ⟨.nestingTooDeep maxNesting, r⟩ := by
  obtain ⟨rest, rfl, hinside, hopens⟩ := h
  rcases refuses_or_reaches (some maxNesting) hinside with
    ⟨bound, hbound, t, r, rfl, hrun⟩ | hreaches
  · obtain rfl : maxNesting = bound := Option.some.inj hbound
    exact ⟨t, r ++ rest, List.append_assoc .., List.prefix_append t r, hrun rest⟩
  · obtain ⟨index, kind, word, o, k, rest, ho, hk, rfl⟩ := hopens
    have hrun := hreaches.run_beyond rfl (Nat.lt_succ_self _) ho hk rest
    exact ⟨before, _, rfl, List.prefix_rfl, hrun⟩

/-- What is refused exceeds the limit, and does so nowhere in front. -/
theorem exceedsAt_of_run {source : List Char} {failure : Failure} {bound : Nat}
    (h : run (some maxNesting) ⟨[], [], source⟩ = .error failure)
    (hcause : failure.cause = .nestingTooDeep bound) :
    bound = maxNesting ∧ ∃ before, source = before ++ failure.rest ∧ ExceedsAt source before ∧
      ∀ other, ExceedsAt source other → before <+: other := by
  obtain ⟨hbound, before, hrest, hinside, hopens⟩ :=
    run_tooDeep h hcause (allows_zero _) [] .start
  obtain rfl : bound = maxNesting := (Option.some.inj hbound).symm
  refine ⟨rfl, before, hrest, ⟨failure.rest, hrest, hinside, hopens⟩, fun other hother => ?_⟩
  obtain ⟨t, r, hsource, hprefix, hrun⟩ := run_of_exceedsAt hother
  rw [h] at hrun
  have hr : failure.rest = r := congrArg Failure.rest (Except.error.inj hrun)
  have hsame : before ++ failure.rest = t ++ r := hrest.symm.trans hsource
  rw [hr] at hsame
  rwa [List.append_cancel_right hsame]

/-- Reading comes to what the procedure for nodes comes to on the whole text. -/
theorem exists_call_of_read (limit : Option Nat) (source : String) :
    ∃ outcome : Procedure.Outcome (.nodes true),
      Call limit (.nodes true) 0 source.toList 0 outcome ∧
        read limit source = (outcome.map Prod.fst).mapError (Failure.toError source.toList) := by
  refine ⟨_, call_nodes_iff.mpr ⟨rfl, rfl⟩, ?_⟩
  rw [read]
  cases run limit ⟨[], [], source.toList⟩ <;> rfl

/-- A text that is not refused for the limit is read as it would be without one.  It is refused
at the first token that begins a style of its own inside exactly 128 open style lists, when there
is such a token, and a template is read when its nesting is at most 128.  So tokens and styles
beside each other do not count: every procedure leaves the counter of the open style lists as it
was, whether it fails or not. -/
theorem parse_nesting_limit (source : String) :
    ((∀ bound place, parse source ≠ .error ⟨.nestingTooDeep bound, place⟩) →
      read none source = parse source) ∧
    (∀ bound place, parse source = .error ⟨.nestingTooDeep bound, place⟩ →
      bound = 128 ∧ ∃ before, place = .after before ∧ ExceedsAt source.toList before ∧
        (∀ n, Inside n before → n = 128) ∧
          ∀ other, ExceedsAt source.toList other → before <+: other) ∧
    ((∃ before, ExceedsAt source.toList before) →
      ∃ place, parse source = .error ⟨.nestingTooDeep 128, place⟩) ∧
    (∀ template, parse source = .ok template ↔
      read none source = .ok template ∧ template.nesting ≤ 128) ∧
    (∃ outcome : Procedure.Outcome (.nodes true),
      Call (some 128) (.nodes true) 0 source.toList 0 outcome ∧
        parse source = (outcome.map Prod.fst).mapError (Failure.toError source.toList)) ∧
    ∀ (procedure : Procedure) depth s depth' (outcome : procedure.Outcome),
      Call (some 128) procedure depth s depth' outcome → depth' = depth := by
  refine ⟨fun hread => ?_, fun bound place hfound => ?_, fun ⟨before, hbefore⟩ => ?_,
    fun template => ?_, exists_call_of_read (some 128) source, fun _ _ _ _ _ => Call.counter⟩
  · rcases run_unlimited (some maxNesting) ⟨[], [], source.toList⟩ with
      ⟨bound, rest, hdeep⟩ | hsame
    · exact absurd (read_eq_error.mpr ⟨_, hdeep, rfl⟩) (hread bound _)
    · rw [parse, read, read, hsame]
  · obtain ⟨failure, hrun, herror⟩ := read_eq_error.mp hfound
    obtain ⟨rfl, before, hsource, hexceeds, hfirst⟩ :=
      exceedsAt_of_run hrun (congrArg ParseError.cause herror).symm
    refine ⟨rfl, before, ?_, hexceeds, fun n hn => ?_, hfirst⟩
    · have hplace : place = placeOf source.toList failure.rest :=
        congrArg ParseError.position herror
      rw [hplace, hsource, placeOf_append_self]
    · obtain ⟨_, -, hinside, -⟩ := hexceeds
      exact hn.unique hinside
  · obtain ⟨_, _, _, _, hrun⟩ := run_of_exceedsAt hbefore
    exact ⟨_, read_eq_error.mpr ⟨_, hrun, rfl⟩⟩
  · rw [parse_eq_read, read_eq_ok, read_eq_ok, allows_some]
    simp

/-- One of 129 map tokens inside each other is refused, and 128 of them are read. -/
theorem parse_nesting_limit_nestedMaps :
    (∃ place before, parse (String.ofList (nestedMapsText 129)) =
      .error ⟨.nestingTooDeep 128, place⟩ ∧
        place = .after before ∧ ExceedsAt (nestedMapsText 129) before) ∧
    parse (String.ofList (nestedMapsText 128)) = .ok (nestedMaps 128) ∧
    ¬∃ before, ExceedsAt (nestedMapsText 128) before := by
  have hread (n : Nat) : read none (String.ofList (nestedMapsText n)) = .ok (nestedMaps n) := by
    refine read_eq_ok.mpr ⟨?_, allows_none _⟩
    rw [DerivesTemplate, String.toList_ofList]
    exact derives_nestedMaps true n
  refine ⟨?_, ?_⟩
  · obtain ⟨hsame, hplace, -, hok, -⟩ :=
      parse_nesting_limit (String.ofList (nestedMapsText 129))
    by_cases hdeep : ∃ bound place, parse (String.ofList (nestedMapsText 129)) =
        .error ⟨.nestingTooDeep bound, place⟩
    · obtain ⟨bound, place, hfound⟩ := hdeep
      obtain ⟨rfl, before, hat, hexceeds, -⟩ := hplace bound place hfound
      rw [String.toList_ofList] at hexceeds
      exact ⟨place, before, hfound, hat, hexceeds⟩
    · have hparse := hsame fun bound place hfound => hdeep ⟨bound, place, hfound⟩
      have hnesting := ((hok _).mp (hparse.symm.trans (hread 129))).2
      rw [nesting_nestedMaps] at hnesting
      omega
  · obtain ⟨-, -, hexceeds, hok, -⟩ :=
      parse_nesting_limit (String.ofList (nestedMapsText 128))
    have hparse := (hok _).mpr ⟨hread 128, Nat.le_of_eq (nesting_nestedMaps 128)⟩
    refine ⟨hparse, fun hbefore => ?_⟩
    rw [← String.toList_ofList (l := nestedMapsText 128)] at hbefore
    obtain ⟨place, herror⟩ := hexceeds hbefore
    rw [hparse] at herror
    contradiction

end Template

end MessageTemplate
