import MessageTemplate.Text.Position

/-!
# Lines

`HasLines` says which lines a text is made of.  A line ends at a line feed, or at a carriage
return in front of one; the last line need not end, and then a carriage return belongs to it.
The splitter finds these lines and no others, and none of them holds a line feed.
-/

namespace MessageTemplate.Text

variable {c : Char} {s rest line : List Char} {lines : List (List Char)}

/-! ## The pieces between line feeds -/

@[simp] theorem pieces_lineFeed : pieces ('\n' :: s) = [] :: pieces s := rfl

/-- A character that ends no line lengthens the first piece. -/
theorem pieces_cons {p : List Char} {ps : List (List Char)} (hc : c ≠ '\n')
    (h : pieces s = p :: ps) : pieces (c :: s) = (c :: p) :: ps := by
  rw [pieces, if_neg hc, h]

/-- Characters that end no line lengthen the first piece. -/
theorem pieces_append {p : List Char} {ps : List (List Char)} (hline : '\n' ∉ line)
    (h : pieces s = p :: ps) : pieces (line ++ s) = (line ++ p) :: ps := by
  induction line with
  | nil => exact h
  | cons c line ih =>
    obtain ⟨hc, hline⟩ := not_or.mp (mt List.mem_cons.mpr hline)
    exact pieces_cons (Ne.symm hc) (ih hline)

/-- A text is cut into its pieces at any of its line feeds. -/
theorem pieces_append_lineFeed (s t : List Char) :
    pieces (s ++ '\n' :: t) = pieces s ++ pieces t := by
  induction s with
  | nil => rfl
  | cons c s ih =>
    by_cases hc : c = '\n'
    · subst hc
      rw [List.cons_append, pieces_lineFeed, pieces_lineFeed, ih]
      rfl
    · obtain ⟨p, ps, hpieces⟩ := List.exists_cons_of_ne_nil (pieces_ne_nil s)
      rw [hpieces] at ih
      rw [List.cons_append, pieces_cons hc ih, pieces_cons hc hpieces]
      rfl

/-- There is one piece more than there are line feeds. -/
theorem length_pieces (s : List Char) : (pieces s).length = s.count '\n' + 1 := by
  induction s with
  | nil => rfl
  | cons c s ih =>
    by_cases hc : c = '\n'
    · subst hc
      rw [pieces_lineFeed, List.length_cons, ih, List.count_cons_self]
    · obtain ⟨p, ps, hpieces⟩ := List.exists_cons_of_ne_nil (pieces_ne_nil s)
      rw [hpieces] at ih
      rw [pieces_cons hc hpieces, List.count_cons_of_ne hc, ← ih]
      rfl

/-! ## The place of a line -/

/-- The text is made of a line, counted from zero, with the text in front of it and the text
behind it.  Line feeds count as ends of lines, and a carriage return as any other character. -/
structure LineAt (content : List Char) (n : Nat) (front line back : List Char) : Prop where
  content_eq : content = front ++ line ++ back
  /-- The number of lines in front. -/
  count : front.count '\n' = n
  starts : front = [] ∨ front.getLast? = some '\n'
  not_mem : '\n' ∉ line
  ends : back = [] ∨ back.head? = some '\n'

/-- A text has as many lines as it has line feeds, and one more. -/
theorem exists_lineAt {content : List Char} {n : Nat} (h : n ≤ content.count '\n') :
    ∃ front line back, LineAt content n front line back := by
  induction n generalizing content with
  | zero =>
    by_cases hmem : '\n' ∈ content
    · obtain ⟨line, rest, rfl, hline⟩ := List.eq_append_cons_of_mem hmem
      exact ⟨[], line, '\n' :: rest, rfl, rfl, .inl rfl, hline, .inr rfl⟩
    · exact ⟨[], content, [], by simp, rfl, .inl rfl, hmem, .inl rfl⟩
  | succ n ih =>
    have hmem : '\n' ∈ content := List.count_pos_iff.mp (by omega)
    obtain ⟨first, rest, rfl, hfirst⟩ := List.eq_append_cons_of_mem hmem
    have hcount : (first ++ '\n' :: rest).count '\n' = rest.count '\n' + 1 := by
      rw [List.count_append, List.count_cons_self, List.count_eq_zero.mpr hfirst, Nat.zero_add]
    obtain ⟨front, line, back, hline⟩ := ih (by omega : n ≤ rest.count '\n')
    refine ⟨first ++ '\n' :: front, line, back, ?_, ?_, .inr ?_, hline.not_mem, hline.ends⟩
    · rw [hline.content_eq]
      simp only [List.append_assoc, List.cons_append]
    · rw [List.count_append, List.count_cons_self, List.count_eq_zero.mpr hfirst, hline.count,
        Nat.zero_add]
    · rcases hline.starts with rfl | hlast
      · simp
      · rw [List.getLast?_append, List.getLast?_cons, hlast]
        rfl

/-! ## Splitting -/

theorem lines_of_not_mem (hne : line ≠ []) (h : '\n' ∉ line) : Text.lines line = [line] := by
  have hpieces := pieces_append h (rfl : pieces [] = [[]])
  rw [List.append_nil] at hpieces
  cases line with
  | nil => contradiction
  | cons c line => simp [Text.lines, hpieces]

theorem lines_append (h : '\n' ∉ line) :
    Text.lines (line ++ '\n' :: rest) = dropReturn line :: Text.lines rest := by
  have hline := pieces_append h (pieces_lineFeed (s := rest))
  rw [List.append_nil] at hline
  obtain ⟨p, ps, hpieces⟩ := List.exists_cons_of_ne_nil (pieces_ne_nil rest)
  simp only [Text.lines, hline, hpieces, List.dropLast_cons_cons, List.map_cons,
    List.getLast?_cons_cons]
  split <;> rfl

theorem dropReturn_of_ne (h : line.getLast? ≠ some '\r') : dropReturn line = line :=
  if_neg h

@[simp] theorem dropReturn_append (line : List Char) : dropReturn (line ++ ['\r']) = line := by
  simp [dropReturn]

/-! ## The lines of a text -/

/-- The text is made of these lines. -/
inductive HasLines : List Char → List (List Char) → Prop where
  | nil : HasLines [] []
  | last {line : List Char} (hne : line ≠ []) (hline : '\n' ∉ line) : HasLines line [line]
  | lineFeed {line rest : List Char} {lines : List (List Char)} (hline : '\n' ∉ line)
      (hreturn : line.getLast? ≠ some '\r') (hrest : HasLines rest lines) :
      HasLines (line ++ '\n' :: rest) (line :: lines)
  | returnLineFeed {line rest : List Char} {lines : List (List Char)} (hline : '\n' ∉ line)
      (hrest : HasLines rest lines) : HasLines (line ++ '\r' :: '\n' :: rest) (line :: lines)

theorem HasLines.not_mem (h : HasLines s lines) : ∀ line ∈ lines, '\n' ∉ line := by
  induction h with
  | nil => nofun
  | last _ hline => exact List.forall_mem_singleton.mpr hline
  | lineFeed hline _ _ ih | returnLineFeed hline _ ih =>
    exact List.forall_mem_cons.mpr ⟨hline, ih⟩

theorem HasLines.eq_lines (h : HasLines s lines) : lines = Text.lines s := by
  induction h with
  | nil => rfl
  | last hne hline => exact (lines_of_not_mem hne hline).symm
  | lineFeed hline hreturn _ ih => rw [lines_append hline, dropReturn_of_ne hreturn, ih]
  | @returnLineFeed line rest lines hline _ ih =>
    have htext : line ++ '\r' :: '\n' :: rest = line ++ ['\r'] ++ '\n' :: rest := by simp
    have hline' : '\n' ∉ line ++ ['\r'] := by simp [hline]
    rw [htext, lines_append hline', dropReturn_append, ih]

/-- A line in front of a text, with the line feed that ends it. -/
theorem HasLines.cons (hline : '\n' ∉ line) (h : HasLines rest lines) :
    HasLines (line ++ '\n' :: rest) (dropReturn line :: lines) := by
  by_cases hreturn : line.getLast? = some '\r'
  · obtain ⟨front, rfl⟩ := List.getLast?_eq_some_iff.mp hreturn
    have hfront : '\n' ∉ front := fun hmem => hline (List.mem_append_left _ hmem)
    rw [dropReturn_append, List.append_assoc]
    exact .returnLineFeed hfront h
  · rw [dropReturn_of_ne hreturn]
    exact .lineFeed hline hreturn h

theorem hasLines_lines (s : List Char) : HasLines s (Text.lines s) := by
  -- On the length of the text: each line takes the line feed that ends it.
  induction hn : s.length using Nat.strongRecOn generalizing s with
  | _ n ih =>
    by_cases hmem : '\n' ∈ s
    · obtain ⟨line, rest, rfl, hline⟩ := List.eq_append_cons_of_mem hmem
      rw [lines_append hline]
      refine .cons hline (ih rest.length ?_ rest rfl)
      simp at hn
      omega
    · by_cases hne : s = []
      · subst hne
        exact .nil
      · rw [lines_of_not_mem hne hmem]
        exact .last hne hmem

end MessageTemplate.Text
