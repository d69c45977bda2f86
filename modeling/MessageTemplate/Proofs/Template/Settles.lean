import MessageTemplate.Proofs.Template.Concatenation
import MessageTemplate.Proofs.Template.Cursor
import MessageTemplate.Proofs.Template.Descent

/-!
# Actions that come to an end

What is noted about a reading holds when each byte that is cut off is a mark, a place is asked
for a part of the source that reaches up to its end, and a call leaves such a part of its text.
`Settles` says of an action on a text that it comes to an end, that it never panics and that all
it notes holds, together with what it comes to.  There is a rule for each motion of the cursor
and one for putting two actions one after the other, so a procedure is gone through line by line
and its run is never unfolded.

A procedure `Reports` one of the outcomes that are allowed to it: the same value with the same
text left, or the same failure with its place.
-/

namespace MessageTemplate

open Text

/-! ## Places -/

namespace Text

variable {s front line : List Char}

theorem byteLength_reverse (s : List Char) : byteLength s.reverse = byteLength s := by
  induction s with
  | nil => rfl
  | cons c s ih =>
    rw [List.reverse_cons, byteLength_append, ih, byteLength_cons, byteLength_cons, byteLength_nil]
    omega

/-- A text with a line feed is cut at its last one. -/
theorem exists_last_line (h : '\n' ∈ s) :
    ∃ front line, s = front ++ '\n' :: line ∧ '\n' ∉ line := by
  obtain ⟨line, front, hs, hline⟩ := List.eq_append_cons_of_mem (List.mem_reverse.mpr h)
  refine ⟨front.reverse, line.reverse, ?_, by simpa using hline⟩
  rw [← List.reverse_reverse s, hs]
  simp

end Text

namespace Cursor

variable {source rest s t start : List Char}

theorem lastLineFeed?_append {front line : List Char} (h : '\n' ∉ line) :
    lastLineFeed? (front ++ '\n' :: line) = some (byteLength front) := by
  have hdrop : (front ++ '\n' :: line).reverse.dropWhile (· != '\n') = '\n' :: front.reverse := by
    have hreverse : (front ++ '\n' :: line).reverse = line.reverse ++ '\n' :: front.reverse := by
      simp
    rw [hreverse]
    exact dropWhile_ne_append (by simpa using h) _
  rw [lastLineFeed?, if_pos (by simp), hdrop, List.tail_cons, byteLength_reverse]

theorem lastLineLength_append {front line : List Char} (h : '\n' ∉ line) :
    Position.lastLineLength (front ++ '\n' :: line) = line.length := by
  have hreverse : (front ++ '\n' :: line).reverse = line.reverse ++ '\n' :: front.reverse := by
    simp
  rw [Position.lastLineLength, hreverse, takeWhile_ne_append (by simpa using h),
    List.length_reverse]

/-- The place of a part of the source that reaches up to its end can be computed. -/
theorem place?_of_suffix (h : rest <:+ source) :
    place? source rest = some (Reader.placeOf source rest) := by
  obtain ⟨consumed, rfl⟩ := h
  have hlength : ¬byteLength (consumed ++ rest) < byteLength rest := by
    rw [byteLength_append]
    omega
  have hcut : cut? (consumed ++ rest) (byteLength (consumed ++ rest) - byteLength rest) =
      some (consumed, rest) := by
    rw [byteLength_append, Nat.add_sub_cancel, cut?_append]
  have hplace : Reader.placeOf (consumed ++ rest) rest =
      ⟨consumed.count '\n' + 1, Position.lastLineLength consumed + 1⟩ := by
    rw [Reader.placeOf_append_self, Position.after_eq_moved, Nat.add_comm _ 1, Nat.add_comm _ 1]
    rfl
  rw [place?, if_neg hlength, hcut, hplace]
  by_cases hmem : '\n' ∈ consumed
  · obtain ⟨front, line, rfl, hline⟩ := exists_last_line hmem
    have hlast : cut? (front ++ '\n' :: line) (byteLength front + 1) =
        some (front ++ ['\n'], line) := by
      have hsplit := cut?_append (front ++ ['\n']) line
      rwa [byteLength_append, List.append_assoc] at hsplit
    simp [lastLineFeed?_append hline, hlast, lastLineLength_append hline]
  · have hnone : lastLineFeed? consumed = none := if_neg hmem
    simp [hnone, Position.lastLineLength_of_not_mem hmem]

/-! ## What is noted holds -/

/-- The marks of which the first byte is cut off. -/
def marks : List Char := ['\x7b', '\x7d', ',', '#', '|']

/-- A call that succeeds takes at least one character. -/
def Routine.Advances : Routine → Prop
  | token | index | styles => True
  | nodes | typed | format | items => False

/-- The text of which a byte is cut off begins with a mark, a place is asked for a suffix of the
source, and a call leaves a suffix of its text, a shorter one where it advances. -/
def Event.Holds (source : List Char) : Event → Prop
  | sliced text => ∃ c ∈ marks, text.head? = some c
  | located text => text <:+ source
  | returned routine before after succeeded =>
    after <:+ before ∧ (routine.Advances → succeeded = true → after.length < before.length)

/-- On the text `s` the action comes to an end without a panic.  It puts the counter back to
`depth` and notes only what holds, and its result and the text that it leaves are as said. -/
def Settles {α : Type} (source : List Char) (depth : Nat) (s : List Char) (action : Action α)
    (post : Except ParseError α → List Char → Prop) : Prop :=
  ∀ events, ∃ result rest more,
    action.run.run ⟨s, depth, events⟩ =
      some (result.mapError .failed, ⟨rest, depth, events ++ more⟩) ∧
    (∀ event ∈ more, event.Holds source) ∧ post result rest

section

variable {α β : Type} {depth : Nat} {action : Action α} {f : α → Action β}
  {post : Except ParseError α → List Char → Prop} {goal : Except ParseError β → List Char → Prop}
  {p : Char → Bool}

theorem run_bind (action : Action α) (f : α → Action β) (state : State) :
    (action >>= f).run.run state =
      (action.run.run state).bind fun (result, after) =>
        match result with
        | .ok a => (f a).run.run after
        | .error stop => some (.error stop, after) := by
  show (action.run.run state).bind _ = _
  congr 1
  funext ⟨result, after⟩
  cases result <;> rfl

theorem Settles.mono {post' : Except ParseError α → List Char → Prop}
    (h : Settles source depth s action post)
    (hpost : ∀ result rest, post result rest → post' result rest) :
    Settles source depth s action post' := by
  intro events
  obtain ⟨result, rest, more, hrun, hmore, hresult⟩ := h events
  exact ⟨result, rest, more, hrun, hmore, hpost _ _ hresult⟩

theorem settles_pure {a : α} (h : post (.ok a) s) : Settles source depth s (pure a) post := by
  intro events
  refine ⟨.ok a, s, [], ?_, by simp, h⟩
  rw [List.append_nil]
  rfl

/-- One action after the other: a failure of the first is that of both. -/
theorem Settles.bind (h : Settles source depth s action post)
    (hok : ∀ a rest, post (.ok a) rest → Settles source depth rest (f a) goal)
    (herror : ∀ error rest, post (.error error) rest → goal (.error error) rest) :
    Settles source depth s (action >>= f) goal := by
  intro events
  obtain ⟨result, rest, more, hrun, hmore, hresult⟩ := h events
  cases result with
  | error error =>
    refine ⟨.error error, rest, more, ?_, hmore, herror _ _ hresult⟩
    rw [run_bind, hrun]
    rfl
  | ok a =>
    obtain ⟨result', rest', more', hrun', hmore', hresult'⟩ := hok a rest hresult (events ++ more)
    refine ⟨result', rest', more ++ more', ?_, ?_, hresult'⟩
    · rw [run_bind, hrun]
      show (f a).run.run ⟨rest, depth, events ++ more⟩ = _
      rw [hrun', List.append_assoc]
    · intro event hevent
      rcases List.mem_append.mp hevent with hevent | hevent
      · exact hmore event hevent
      · exact hmore' event hevent

/-! ## Rules for the single motions -/

theorem settles_input {f : List Char → Action β} (h : Settles source depth s (f s) goal) :
    Settles source depth s (input >>= f) goal :=
  h

theorem settles_depth {f : Nat → Action β} (h : Settles source depth s (f depth) goal) :
    Settles source depth s (Cursor.depth >>= f) goal :=
  h

theorem settles_moveTo {f : Unit → Action β} (h : Settles source depth t (f ()) goal) :
    Settles source depth s (moveTo t >>= f) goal :=
  h

theorem settles_takeRun {f : List Char → Action β}
    (h : Settles source depth (s.dropWhile p) (f (s.takeWhile p)) goal) :
    Settles source depth s (takeRun p >>= f) goal :=
  h

theorem settles_takeSome? {f : Option (List Char) → Action β}
    (h : Settles source depth (s.dropWhile p)
      (f (if (s.takeWhile p).isEmpty then none else some (s.takeWhile p))) goal) :
    Settles source depth s (takeSome? p >>= f) goal :=
  h

/-- A run that may be empty after all. -/
theorem getD_ite_isEmpty (w : List Char) :
    (if w.isEmpty then none else some w).getD [] = w := by
  cases w <;> rfl

theorem settles_skipBlanks {f : Unit → Action β}
    (h : Settles source depth (Text.skipBlanks s) (f ()) goal) :
    Settles source depth s (skipBlanks >>= f) goal :=
  h

/-- A note that holds changes nothing. -/
theorem settles_note {event : Event} {f : Unit → Action β} (hevent : event.Holds source)
    (h : Settles source depth s (f ()) goal) : Settles source depth s (note event >>= f) goal := by
  intro events
  obtain ⟨result, rest, more, hrun, hmore, hresult⟩ := h (events ++ [event])
  refine ⟨result, rest, event :: more, ?_, List.forall_mem_cons.mpr ⟨hevent, hmore⟩, hresult⟩
  rw [List.append_assoc] at hrun
  exact hrun

/-- A mark has one byte. -/
theorem cut?_mark {c : Char} (hc : c ∈ marks) : cut? (c :: rest) 1 = some ([c], rest) := by
  have hsize : byteLength [c] = 1 := by
    simp only [marks, List.mem_cons, List.not_mem_nil, or_false] at hc
    rcases hc with rfl | rfl | rfl | rfl | rfl <;> decide
  have hcut := cut?_append [c] rest
  rwa [hsize] at hcut

theorem settles_sliceByte {c : Char} {f : Unit → Action β} (hc : c ∈ marks)
    (h : Settles source depth rest (f ()) goal) :
    Settles source depth (c :: rest) (sliceByte >>= f) goal := by
  have hcut : Settles source depth (c :: rest) sliceByte
      (fun result left => result = .ok () ∧ left = rest) := by
    refine settles_input (settles_note ⟨c, hc, rfl⟩ ?_)
    rw [cut?_mark hc]
    exact settles_moveTo (f := fun _ => pure ()) (settles_pure ⟨rfl, rfl⟩)
  refine hcut.bind ?_ ?_
  · rintro _ _ ⟨_, rfl⟩
    exact h
  · rintro _ _ ⟨⟨⟩, _⟩

/-! ## Calls -/

/-- A result is that of an outcome: the same value and the same text left, or the failure with its
place.  The text that is left is a suffix in either case. -/
inductive Agrees (source s : List Char) :
    Except Reader.Failure (α × List Char) → Except ParseError α → List Char → Prop where
  | ok {a : α} {rest : List Char} (hrest : rest <:+ s) :
      Agrees source s (.ok (a, rest)) (.ok a) rest
  | error {failure : Reader.Failure} {rest : List Char} (hrest : rest <:+ s) :
      Agrees source s (.error failure) (.error (failure.toError source)) rest

/-- A result is that of one of the outcomes. -/
def Reports (source s : List Char) (outcomes : Except Reader.Failure (α × List Char) → Prop)
    (result : Except ParseError α) (rest : List Char) : Prop :=
  ∃ outcome, outcomes outcome ∧ Agrees source s outcome result rest

variable {outcomes : Except Reader.Failure (α × List Char) → Prop}
  {goals : Except Reader.Failure (β × List Char) → Prop}

theorem Agrees.suffix {outcome : Except Reader.Failure (α × List Char)}
    {result : Except ParseError α} (h : Agrees source s outcome result rest) : rest <:+ s := by
  cases h with
  | ok hrest | error hrest => exact hrest

theorem Agrees.trans {outcome : Except Reader.Failure (α × List Char)}
    {result : Except ParseError α} (h : Agrees source t outcome result rest) (hsuffix : t <:+ s) :
    Agrees source s outcome result rest := by
  cases h with
  | ok hrest => exact .ok (hrest.trans hsuffix)
  | error hrest => exact .error (hrest.trans hsuffix)

/-- A value is reported with the text that is left. -/
theorem settles_return {a : α} (hrest : rest <:+ s) (h : outcomes (.ok (a, rest))) :
    Settles source depth rest (pure a) (Reports source s outcomes) :=
  settles_pure ⟨_, h, .ok hrest⟩

/-- A failure at a suffix of the source is reported with its place. -/
theorem settles_fail {cause : Cause} (ht : t <:+ source) (hrest : rest <:+ s)
    (h : outcomes (.error ⟨cause, t⟩)) :
    Settles source depth rest (fail source cause t) (Reports source s outcomes) := by
  refine settles_note ht ?_
  rw [place?_of_suffix ht]
  intro events
  refine ⟨_, rest, [], ?_, by simp, _, h, .error hrest⟩
  rw [List.append_nil]
  rfl

/-- An action that reports is followed by another on what it leaves. -/
theorem Settles.follow (h : Settles source depth t action (Reports source t outcomes))
    (hsuffix : t <:+ s)
    (hok : ∀ a rest, rest <:+ t → outcomes (.ok (a, rest)) →
      Settles source depth rest (f a) (Reports source s goals))
    (herror : ∀ failure, outcomes (.error failure) → goals (.error failure)) :
    Settles source depth t (action >>= f) (Reports source s goals) := by
  refine h.bind ?_ ?_
  · rintro a rest ⟨_, houtcome, hresult⟩
    cases hresult with
    | ok hrest => exact hok a rest hrest houtcome
  · rintro error rest ⟨_, houtcome, hresult⟩
    cases hresult with
    | error hrest => exact ⟨_, herror _ houtcome, .error (hrest.trans hsuffix)⟩

/-- The last action of a procedure reports for the procedure. -/
theorem Settles.last {outcomes' : Except Reader.Failure (α × List Char) → Prop}
    (h : Settles source depth t action (Reports source t outcomes)) (hsuffix : t <:+ s)
    (houtcomes : ∀ outcome, outcomes outcome → outcomes' outcome) :
    Settles source depth t action (Reports source s outcomes') :=
  h.mono fun _ _ ⟨outcome, houtcome, hresult⟩ =>
    ⟨outcome, houtcomes outcome houtcome, hresult.trans hsuffix⟩

/-- A call notes that it comes back. -/
theorem Settles.returning {routine : Routine}
    (h : Settles source depth s action (Reports source s outcomes))
    (hshort : routine.Advances → ∀ a rest, outcomes (.ok (a, rest)) → rest.length < s.length) :
    Settles source depth s (returning routine action) (Reports source s outcomes) := by
  intro events
  obtain ⟨result, rest, more, hrun, hmore, outcome, houtcome, hresult⟩ := h events
  refine ⟨result, rest, more ++ [.returned routine s rest result.isOk], ?_, ?_,
    outcome, houtcome, hresult⟩
  · show (action.run.run ⟨s, depth, events⟩).map _ = _
    rw [hrun, ← List.append_assoc]
    cases result <;> rfl
  · intro event hevent
    rcases List.mem_append.mp hevent with hevent | hevent
    · exact hmore event hevent
    · obtain rfl := List.mem_singleton.mp hevent
      refine ⟨hresult.suffix, fun hadvances hok => ?_⟩
      cases hresult with
      | ok hrest => exact hshort hadvances _ _ houtcome
      | error hrest => contradiction

/-- The counter is put back when the action comes to an end. -/
theorem Settles.inStyle (h : Settles source (depth + 1) s action post) :
    Settles source depth s (inStyle action) post := by
  intro events
  obtain ⟨result, rest, more, hrun, hmore, hresult⟩ := h events
  refine ⟨result, rest, more, ?_, hmore, hresult⟩
  show (action.run.run ⟨s, depth + 1, events⟩).map _ = _
  rw [hrun]
  rfl

end

end Cursor

end MessageTemplate
