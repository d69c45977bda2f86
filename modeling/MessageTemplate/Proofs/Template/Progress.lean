import MessageTemplate.Proofs.Template.Parts

/-!
# The cursor makes progress

Two loops call each other: the nodes of a list reach the styles of a token, and a style has nodes
of its own.  A token, an index and the styles of a token take at least one character, so each turn
of a loop goes on with a shorter text, behind at most four calls.  By induction on the length of
the text both loops come to an end, and with them every reading.

The number of calls that a reading may use is all that keeps the procedures from going on for
ever, and with enough of them it plays no part in what is read.
-/

namespace MessageTemplate.Cursor

open Text
open Reader (Failure EndsList Call addText isLiteral length_lt_of_key length_lt_of_suffix_cons
  suffix_of_cons)

variable {limit : Option Nat} {source s rest start : List Char} {outermost : Bool} {depth n : Nat}

/-! ## The items of a style -/

theorem settles_items (hstart : start <:+ source)
    (hnodes : Settles source (depth + 1) s (nodes limit source false n)
      (Reports source s (Call limit (.nodes false) (depth + 1) s (depth + 1)))) :
    Settles source depth s (items limit source start (n + 1))
      (Reports source s (Call limit (.items start) depth s depth)) := by
  refine Settles.returning (settles_depth ?_) fun hadvances => hadvances.elim
  cases hlimit : limit.filter (· < depth + 1) with
  | none =>
    have hdepth : Allows limit (depth + 1) := by
      intro bound hbound
      have hnot := Option.filter_eq_none_iff.mp hlimit bound hbound
      simp only [decide_eq_true_eq] at hnot
      omega
    exact hnodes.inStyle.last List.suffix_rfl fun outcome hcall => .items hdepth hcall
  | some bound =>
    obtain ⟨hbound, hlt⟩ := Option.filter_eq_some_iff.mp hlimit
    exact settles_fail hstart List.suffix_rfl (.tooDeep hbound (by simpa using hlt))

/-! ## Lists with what stands in front of them -/

/-- The outcome of a list that goes on behind `front`. -/
inductive Behind {α : Type} (front : List α)
    (outcomes : Except Failure (List α × List Char) → Prop) :
    Except Failure (List α × List Char) → Prop where
  | ok {list : List α} {rest : List Char} (h : outcomes (.ok (list, rest))) :
      Behind front outcomes (.ok (front ++ list, rest))
  | error {failure : Failure} (h : outcomes (.error failure)) :
      Behind front outcomes (.error failure)

theorem outcomes_of_behind {α : Type} {outcomes : Except Failure (List α × List Char) → Prop}
    {outcome : Except Failure (List α × List Char)} (h : Behind [] outcomes outcome) :
    outcomes outcome := by
  cases h with
  | ok h | error h => exact h

/-! ## Nodes -/

theorem settles_nodes
    (h : Settles source depth s (nodesFrom limit source outermost [] n)
      (Reports source s (Behind [] (Call limit (.nodes outermost) depth s depth)))) :
    Settles source depth s (nodes limit source outermost (n + 1))
      (Reports source s (Call limit (.nodes outermost) depth s depth)) :=
  Settles.returning (h.last List.suffix_rfl fun _ => outcomes_of_behind)
    fun hadvances => hadvances.elim

/-- The nodes so far, with the literal text behind them. -/
theorem reverse_addText_append (w : List Char) (before : List Node) :
    (addText w before).reverse = before.reverse ++ addText w [] := by
  rw [Reader.addText_eq_append, List.reverse_append, Reader.reverse_addText]

/-- A token behind the literal text `w`, and the nodes behind the token. -/
theorem settles_tokenNodes {before : List Node} {w t : List Char}
    (hw : Only (isLiteral outermost) w)
    (htoken : Settles source depth ('\x7b' :: t) (token limit source n)
      (Reports source ('\x7b' :: t) (Call limit .token depth ('\x7b' :: t) depth)))
    (hnodes : ∀ before rest, rest <:+ '\x7b' :: t → rest.length < ('\x7b' :: t).length →
      Settles source depth rest (nodesFrom limit source outermost before n)
        (Reports source rest
          (Behind before.reverse (Call limit (.nodes outermost) depth rest depth)))) :
    Settles source depth ('\x7b' :: t)
      (do
        let node ← token limit source n
        nodesFrom limit source outermost (node :: addText w before) n)
      (Reports source (w ++ '\x7b' :: t)
        (Behind before.reverse
          (Call limit (.nodes outermost) depth (w ++ '\x7b' :: t) depth))) := by
  have hsuffix : '\x7b' :: t <:+ w ++ '\x7b' :: t := List.suffix_append ..
  refine htoken.follow hsuffix ?_ ?_
  · intro node rest hrest hcall
    have hlast := hnodes (node :: addText w before) rest hrest (hcall.leaves node rest rfl).2
    refine hlast.last (hrest.trans hsuffix) fun outcome hbehind => ?_
    cases hbehind with
    | @ok list rest' hmore =>
      have hfront : (node :: addText w before).reverse ++ list =
          before.reverse ++ addText w (node :: list) := by
        rw [List.reverse_cons, reverse_addText_append, Reader.addText_eq_append w (node :: list)]
        simp
      rw [hfront]
      exact .ok (.nodes hw hcall hmore)
    | error hmore => exact .error (.nodesFail hw hcall hmore)
  · exact fun failure hcall => .error (.tokenFails hw hcall)

theorem settles_nodesFrom {before : List Node} (hs : s <:+ source)
    (htoken : ∀ t, '\x7b' :: t <:+ s →
      Settles source depth ('\x7b' :: t) (token limit source n)
        (Reports source ('\x7b' :: t) (Call limit .token depth ('\x7b' :: t) depth)))
    (hnodes : ∀ before rest, rest <:+ s → rest.length < s.length →
      Settles source depth rest (nodesFrom limit source outermost before n)
        (Reports source rest
          (Behind before.reverse (Call limit (.nodes outermost) depth rest depth)))) :
    Settles source depth s (nodesFrom limit source outermost before (n + 1))
      (Reports source s (Behind before.reverse (Call limit (.nodes outermost) depth s depth))) := by
  refine settles_takeRun (settles_input ?_)
  obtain ⟨w, rest, rfl, hw, hends | ⟨t, rfl⟩ | ⟨rfl, t, rfl⟩⟩ :=
    Reader.endsList_or_delimiter outermost s
  · rw [takeWhile_append_of_stops hw hends.stops, dropWhile_append_of_stops hw hends.stops]
    have hreturn : Settles source depth rest (pure (addText w before).reverse)
        (Reports source (w ++ rest)
          (Behind before.reverse (Call limit (.nodes outermost) depth (w ++ rest) depth))) := by
      refine settles_return (List.suffix_append ..) ?_
      rw [reverse_addText_append]
      exact .ok (.ends hw hends)
    obtain rfl | ⟨rfl, c, t, rfl, rfl | rfl⟩ := hends
    · exact hreturn
    · exact hreturn
    · exact hreturn
  · have hstop : Stops (isLiteral outermost) ('\x7b' :: t) :=
      stops_cons.mpr (Reader.not_isLiteral_open outermost)
    rw [takeWhile_append_of_stops hw hstop, dropWhile_append_of_stops hw hstop]
    have hsuffix : '\x7b' :: t <:+ w ++ '\x7b' :: t := List.suffix_append ..
    dsimp only
    rw [if_pos rfl]
    refine settles_tokenNodes hw (htoken t hsuffix) fun before rest hrest hlt => ?_
    exact hnodes before rest (hrest.trans hsuffix) (Nat.lt_of_lt_of_le hlt hsuffix.length_le)
  · have hstop : Stops (isLiteral true) ('\x7d' :: t) :=
      stops_cons.mpr (Reader.not_isLiteral_close true)
    rw [takeWhile_append_of_stops hw hstop, dropWhile_append_of_stops hw hstop]
    have hsuffix : '\x7d' :: t <:+ w ++ '\x7d' :: t := List.suffix_append ..
    dsimp only
    rw [if_neg (by decide), if_pos ⟨rfl, rfl⟩]
    exact settles_fail (hsuffix.trans hs) hsuffix (.error (.unbalanced hw))

/-! ## Styles -/

theorem settles_styles
    (h : Settles source depth s (stylesFrom limit source start [] n)
      (Reports source s (Behind [] (Call limit (.styles start) depth s depth)))) :
    Settles source depth s (styles limit source start (n + 1))
      (Reports source s (Call limit (.styles start) depth s depth)) :=
  Settles.returning (h.last List.suffix_rfl fun _ => outcomes_of_behind) fun _ styles rest hcall =>
    (hcall.leaves styles rest rfl).2

theorem settles_stylesFrom {finished : List (Style Node)} (hstart : start <:+ source)
    (hs : s <:+ source)
    (hitems : ∀ rest, rest <:+ s → rest.length < s.length →
      Settles source depth rest (items limit source start n)
        (Reports source rest (Call limit (.items start) depth rest depth)))
    (hstyles : ∀ finished rest, rest <:+ s → rest.length < s.length →
      Settles source depth rest (stylesFrom limit source start finished n)
        (Reports source rest
          (Behind finished.reverse (Call limit (.styles start) depth rest depth)))) :
    Settles source depth s (stylesFrom limit source start finished (n + 1))
      (Reports source s
        (Behind finished.reverse (Call limit (.styles start) depth s depth))) := by
  refine (settles_key hstart hs).follow List.suffix_rfl ?_ ?_
  · intro word left hleft hkey
    have hlength := length_lt_of_key hkey.symm
    refine (hitems left hleft hlength).follow hleft ?_ ?_
    · intro items rest hrest hcall
      refine settles_input ?_
      obtain ⟨-, rfl | ⟨-, c, t, rfl, rfl | rfl⟩⟩ := hcall.leaves items rest rfl
      · exact settles_fail hstart List.nil_suffix (.error (.unfinished hkey.symm hcall))
      · have ht := (suffix_of_cons hrest).trans hleft
        have hlt := Nat.lt_of_le_of_lt (suffix_of_cons hrest).length_le hlength
        have hlast := hstyles (⟨word, items⟩ :: finished) t ht hlt
        refine settles_sliceByte (by decide) (hlast.last ht fun outcome hbehind => ?_)
        cases hbehind with
        | ok hmore =>
          rw [List.reverse_cons, List.append_assoc, List.singleton_append]
          exact .ok (.moreStyles hkey.symm hcall hmore)
        | error hmore => exact .error (.moreFail hkey.symm hcall hmore)
      · have ht := (suffix_of_cons hrest).trans hleft
        refine settles_sliceByte (by decide) (settles_return ht ?_)
        rw [List.reverse_cons]
        exact .ok (.lastStyle hkey.symm hcall)
    · exact fun failure hcall => .error (.itemsFail hkey.symm hcall)
  · exact fun failure hkey => .error (.keyFails hkey.symm)

/-! ## Every text comes to an end -/

/-- With `n` calls inside each other the two loops come to an end on the text. -/
structure Loops (limit : Option Nat) (source s : List Char) (n : Nat) : Prop where
  nodes : ∀ depth outermost before,
    Settles source depth s (nodesFrom limit source outermost before n)
      (Reports source s (Behind before.reverse (Call limit (.nodes outermost) depth s depth)))
  styles : ∀ depth start finished, start <:+ source →
    Settles source depth s (stylesFrom limit source start finished n)
      (Reports source s (Behind finished.reverse (Call limit (.styles start) depth s depth)))

/-- A turn of a loop needs at most four calls inside each other, the last one on a shorter text. -/
theorem loops_step (hs : s <:+ source) (hn : 4 * s.length ≤ n)
    (h : ∀ (rest : List Char) m, rest <:+ source → rest.length < s.length → n ≤ m + 3 →
      Loops limit source rest m) :
    Loops limit source s (n + 1) where
  nodes depth outermost before := by
    refine settles_nodesFrom hs (fun t ht => ?_) fun before rest hrest hlt => ?_
    · have htoken : '\x7b' :: t <:+ source := ht.trans hs
      have hlength := ht.length_le
      rw [List.length_cons] at hlength
      obtain ⟨m, rfl⟩ : ∃ m, n = m + 3 := ⟨n - 3, by omega⟩
      refine settles_token htoken fun index left hleft => ?_
      have hsource : left <:+ source := hleft.trans (suffix_of_cons htoken)
      refine settles_typed htoken hsource fun rest hrest => settles_styles ?_
      have hshort : rest.length < s.length :=
        Nat.lt_of_lt_of_le (length_lt_of_suffix_cons (hrest.trans hleft)) ht.length_le
      exact (h rest m (hrest.trans hsource) hshort Nat.le.refl).styles depth _ [] htoken
    · exact (h rest n (hrest.trans hs) hlt (Nat.le_add_right n 3)).nodes depth outermost before
  styles depth start finished hstart := by
    refine settles_stylesFrom hstart hs (fun rest hrest hlt => ?_) fun finished rest hrest hlt => ?_
    · obtain ⟨m, rfl⟩ : ∃ m, n = m + 2 := ⟨n - 2, by omega⟩
      have hloops := h rest m (hrest.trans hs) hlt (Nat.le_succ _)
      exact settles_items hstart (settles_nodes (hloops.nodes (depth + 1) false []))
    · have hloops := h rest n (hrest.trans hs) hlt (Nat.le_add_right n 3)
      exact hloops.styles depth start finished hstart

theorem loops (hs : s <:+ source) (hn : 4 * s.length < n) : Loops limit source s n := by
  induction hlength : s.length using Nat.strongRecOn generalizing s n with
  | _ length ih =>
    subst hlength
    obtain ⟨m, rfl⟩ : ∃ m, n = m + 1 := ⟨n - 1, by omega⟩
    refine loops_step hs (Nat.le_of_lt_succ hn) fun rest k hrest hlt hk => ?_
    exact ih rest.length hlt hrest (by omega) rfl

/-- With four calls in hand for each character, a reading comes to an end on every text, and to
what the reader comes to, so it never panics.  All that is noted on the way holds.  Each call
leaves a suffix of its text, and a shorter one when a token, an index or the styles of a token are
read.  A byte is cut off only where a mark stands, and a place is asked only for a suffix of the
source. -/
theorem run_progress (limit : Option Nat) (source : String) (more : Nat) :
    ∃ rest events,
      run limit (more + 4 * source.toList.length + 2) source =
        some ((Template.read limit source).mapError .failed, ⟨rest, 0, events⟩) ∧
      ∀ event ∈ events, event.Holds source.toList := by
  have hloops : Loops limit source.toList source.toList (more + 4 * source.toList.length + 1) :=
    loops List.suffix_rfl (by omega)
  obtain ⟨result, rest, events, hrun, hevents, outcome, hcall, hresult⟩ :=
    settles_nodes (hloops.nodes 0 true []) []
  obtain ⟨-, rfl⟩ := Reader.call_nodes_iff.mp hcall
  have hread : result = Template.read limit source := by
    rw [Template.read]
    cases hreader : Reader.run limit ⟨[], [], source.toList⟩ with
    | error failure =>
      rw [hreader] at hresult
      cases hresult
      rfl
    | ok template =>
      rw [hreader] at hresult
      cases hresult
      rfl
  refine ⟨rest, events, ?_, hevents⟩
  rw [← hread]
  exact hrun

/-- What is noted is never nothing: the last note of a reading that comes to an end is that the
outermost call comes back, from the whole source. -/
theorem getLast?_events_of_run {source : String} {result : Except Stop Template}
    {state : State} (h : run limit n source = some (result, state)) :
    state.events.getLast? =
      some (.returned .nodes source.toList state.input result.isOk) := by
  cases n with
  | zero => cases h
  | succ n =>
    -- The procedures inside are of no account: `returning` notes whatever they come to.
    obtain ⟨⟨inner, left⟩, -, hreturned⟩ := Option.map_eq_some_iff.mp h
    obtain ⟨rfl, rfl⟩ := Prod.mk.inj hreturned
    exact List.getLast?_concat

/-- The colon that is no index is given back, and the place asked for is where it stands. -/
example :
    (run none 14 "\x7b:\x7d").map (·.2.events) =
      some [.sliced "\x7b:\x7d".toList, .located ":\x7d".toList,
        .returned .index ":\x7d".toList ":\x7d".toList false,
        .returned .token "\x7b:\x7d".toList ":\x7d".toList false,
        .returned .nodes "\x7b:\x7d".toList ":\x7d".toList false] := by
  decide

end MessageTemplate.Cursor
