import MessageTemplate.Proofs.Diagnostic
import MessageTemplate.Proofs.Text.Slice

/-!
# Diagnostics at any place

An error need not come from the parser: its line and column can be zero, or larger than the text
allows.  The offset of its diagnostic is a boundary of characters all the same.  A line that the
text has is never left, and the end of the text stands for every other line.

The start of a line is the sum of the lines in front, each with one byte for its line feed.  The
last line has none, so behind it the sum is one too many, and a slice of the text that begins
there finds nothing.
-/

namespace MessageTemplate.Diagnostic

open Text

variable {content front line back s : List Char} {n : Nat}

/-! ## The starts of lines -/

/-- The pieces with one byte each for a line feed are one byte too long. -/
theorem linesLength_pieces (s : List Char) : linesLength (pieces s) = byteLength s + 1 := by
  induction s with
  | nil => rfl
  | cons c s ih =>
    by_cases hc : c = '\n'
    · subst hc
      show 0 + 1 + linesLength (pieces s) = byteLength ('\n' :: s) + 1
      have hsize : Char.utf8Size '\n' = 1 := by decide
      rw [ih, byteLength_cons]
      omega
    · obtain ⟨p, ps, hpieces⟩ := List.exists_cons_of_ne_nil (pieces_ne_nil s)
      rw [hpieces] at ih
      have hsum : byteLength p + 1 + linesLength ps = byteLength s + 1 := ih
      rw [pieces_cons hc hpieces]
      show byteLength (c :: p) + 1 + linesLength ps = byteLength (c :: s) + 1
      rw [byteLength_cons, byteLength_cons]
      omega

/-- The lines in front of a line are pieces of the text, with the bytes in front. -/
theorem exists_pieces_front (h : front = [] ∨ front.getLast? = some '\n') :
    ∃ ps, ps.length = front.count '\n' ∧ linesLength ps = byteLength front ∧
      ∀ s, pieces (front ++ s) = ps ++ pieces s := by
  rcases h with rfl | hlast
  · exact ⟨[], rfl, rfl, fun _ => rfl⟩
  · obtain ⟨lines, rfl⟩ := List.getLast?_eq_some_iff.mp hlast
    refine ⟨pieces lines, ?_, ?_, fun s => ?_⟩
    · rw [length_pieces, List.count_append]
      rfl
    · rw [linesLength_pieces, byteLength_append]
      rfl
    · rw [List.append_assoc]
      exact pieces_append_lineFeed lines s

theorem exists_pieces_line (hline : '\n' ∉ line) (h : back = [] ∨ back.head? = some '\n') :
    ∃ qs, pieces (line ++ back) = line :: qs := by
  rcases h with rfl | hfirst
  · exact ⟨[], by simpa using pieces_append hline (rfl : pieces [] = [[]])⟩
  · obtain ⟨rest, rfl⟩ := List.head?_eq_some_iff.mp hfirst
    exact ⟨pieces rest, by simpa using pieces_append hline (pieces_lineFeed (s := rest))⟩

/-- A line is the piece with its number, and the lines in front have the bytes in front. -/
theorem pieces_of_lineAt (h : LineAt content n front line back) :
    (pieces content)[n]? = some line ∧
      linesLength ((pieces content).take n) = byteLength front := by
  obtain ⟨ps, hlength, hsum, hfront⟩ := exists_pieces_front h.starts
  obtain ⟨qs, hline⟩ := exists_pieces_line h.not_mem h.ends
  rw [h.count] at hlength
  rw [h.content_eq, List.append_assoc, hfront, hline, ← hlength]
  refine ⟨?_, ?_⟩
  · rw [List.getElem?_append_right (Nat.le_refl _), Nat.sub_self]
    rfl
  · rw [List.take_left, hsum]

/-- Behind the last line there is no piece, and the lines in front are one byte longer than the
text. -/
theorem pieces_of_beyond (h : content.count '\n' < n) :
    (pieces content)[n]? = none ∧
      linesLength ((pieces content).take n) = byteLength content + 1 := by
  have hlength : (pieces content).length ≤ n := by
    rw [length_pieces]
    omega
  refine ⟨List.getElem?_eq_none hlength, ?_⟩
  rw [List.take_of_length_le hlength, linesLength_pieces]

/-! ## Slices -/

/-- A slice of the text from the start of a line on begins with the line, and there is none when
the text has no such line. -/
theorem slice_eq_piece (content : List Char) (n : Nat) :
    (cut? content (linesLength ((pieces content).take n))).map
      (fun cut => cut.2.takeWhile (· != '\n')) = (pieces content)[n]? := by
  by_cases h : n ≤ content.count '\n'
  · obtain ⟨front, line, back, hline⟩ := exists_lineAt h
    obtain ⟨hpiece, hstart⟩ := pieces_of_lineAt hline
    have htake : (line ++ back).takeWhile (· != '\n') = line := by
      refine takeWhile_append_of_stops (only_of_not_mem hline.not_mem) ?_
      rcases hline.ends with rfl | hfirst
      · exact stops_nil
      · obtain ⟨rest, rfl⟩ := List.head?_eq_some_iff.mp hfirst
        exact stops_cons.mpr (by decide)
    have hcontent : content = front ++ (line ++ back) := by
      rw [hline.content_eq, List.append_assoc]
    rw [hpiece, hstart, hcontent, cut?_append, Option.map_some, htake]
  · obtain ⟨hpiece, hstart⟩ := pieces_of_beyond (Nat.lt_of_not_le h)
    rw [hpiece, hstart, cut?_eq_none (Nat.lt_succ_self _)]
    rfl

/-! ## Offsets -/

/-- On a line of the text the offset counts the characters up to the column, or up to the end
of the line. -/
theorem offset_of_lineAt {place : Position} (h : LineAt content (place.line - 1) front line back) :
    offset content place =
      byteLength front + byteLength (line.take (min (place.column - 1) line.length)) := by
  obtain ⟨hpiece, hstart⟩ := pieces_of_lineAt h
  have htake : line.take (min (place.column - 1) line.length) = line.take (place.column - 1) :=
    List.take_eq_take_min.symm
  have hline : byteLength line = byteLength (line.take (place.column - 1)) +
      byteLength (line.drop (place.column - 1)) := by
    rw [← byteLength_append, List.take_append_drop]
  rw [offset, hpiece, hstart, htake, Option.getD_some, h.content_eq, byteLength_append,
    byteLength_append]
  omega

/-- Behind the last line the offset is the end of the text. -/
theorem offset_of_beyond {place : Position} (h : content.count '\n' < place.line - 1) :
    offset content place = byteLength content := by
  obtain ⟨hpiece, hstart⟩ := pieces_of_beyond h
  rw [offset, hpiece, hstart]
  omega

/-- The offset is the number of bytes in front of a cut of the text. -/
theorem exists_cut_of_offset (content : List Char) (place : Position) :
    ∃ before rest, content = before ++ rest ∧ offset content place = byteLength before := by
  by_cases h : place.line - 1 ≤ content.count '\n'
  · obtain ⟨front, line, back, hline⟩ := exists_lineAt h
    refine ⟨front ++ line.take (min (place.column - 1) line.length),
      line.drop (min (place.column - 1) line.length) ++ back, ?_, ?_⟩
    · rw [List.append_assoc, ← List.append_assoc _ _ back, List.take_append_drop,
        ← List.append_assoc]
      exact hline.content_eq
    · rw [byteLength_append]
      exact offset_of_lineAt hline
  · exact ⟨content, [], (List.append_nil content).symm, offset_of_beyond (Nat.lt_of_not_le h)⟩

/-- The label of every error lies at a boundary of characters of the text.  On a line that the
text has it lies behind as many characters of the line as the column says, or behind all of
them; line and column zero count as one.  There is such a line unless the text has fewer, and
then the label lies at the end of the text.  The start of a line is always a place to cut the
text at, and behind the last line there is nothing to cut. -/
theorem labels_clamped (content : String) (error : ParseError) :
    (∃ before rest : String, content = before ++ rest ∧
      before.utf8ByteSize ≤ content.utf8ByteSize ∧
        (ofParseError content error).labels.map Label.offset = [before.utf8ByteSize]) ∧
    (∀ front line back, LineAt content.toList (error.position.line - 1) front line back →
      (ofParseError content error).labels.map Label.offset =
        [byteLength front +
          byteLength (line.take (min (error.position.column - 1) line.length))]) ∧
    (error.position.line - 1 ≤ content.toList.count '\n' →
      ∃ front line back, LineAt content.toList (error.position.line - 1) front line back) ∧
    (content.toList.count '\n' < error.position.line - 1 →
      (ofParseError content error).labels.map Label.offset = [content.utf8ByteSize]) ∧
    ∀ n, (cut? content.toList (linesLength ((pieces content.toList).take n))).map
      (fun cut => cut.2.takeWhile (· != '\n')) = (pieces content.toList)[n]? := by
  have hlabels : (ofParseError content error).labels.map Label.offset =
      [offset content.toList error.position] := rfl
  rw [hlabels]
  refine ⟨?_, fun front line back hline => ?_, exists_lineAt, fun hbeyond => ?_,
    slice_eq_piece content.toList⟩
  · obtain ⟨before, rest, hcut, hoffset⟩ := exists_cut_of_offset content.toList error.position
    have hcontent : content = String.ofList before ++ String.ofList rest := by
      rw [← String.ofList_append, ← hcut, String.ofList_toList]
    refine ⟨String.ofList before, String.ofList rest, hcontent, ?_, ?_⟩
    · rw [hcontent, String.utf8ByteSize_append]
      exact Nat.le_add_right _ _
    · rw [hoffset, byteLength_eq_utf8ByteSize]
  · rw [offset_of_lineAt hline]
  · rw [offset_of_beyond hbeyond, byteLength_toList]

/-- A column behind the end of a line that is not the last, a place with line and column zero, and
a line that the text does not have. -/
theorem labels_clamped_three_places :
    LineAt "ä\néx\n".toList 1 ['ä', '\n'] ['é', 'x'] ['\n'] ∧
      (ofParseError "ä\néx\n" ⟨.missingIndex, ⟨2, 9⟩⟩).labels.map Label.offset = [6] ∧
    LineAt "ä\néx\n".toList 0 [] ['ä'] ['\n', 'é', 'x', '\n'] ∧
      (ofParseError "ä\néx\n" ⟨.missingIndex, ⟨0, 0⟩⟩).labels.map Label.offset = [0] ∧
    "ä\néx\n".toList.count '\n' < 5 - 1 ∧
      (ofParseError "ä\néx\n" ⟨.missingIndex, ⟨5, 1⟩⟩).labels.map Label.offset = [7] := by
  have hsecond : LineAt "ä\néx\n".toList 1 ['ä', '\n'] ['é', 'x'] ['\n'] :=
    ⟨by decide, by decide, by decide, by decide, by decide⟩
  have hfirst : LineAt "ä\néx\n".toList 0 [] ['ä'] ['\n', 'é', 'x', '\n'] :=
    ⟨by decide, by decide, by decide, by decide, by decide⟩
  have hbeyond : "ä\néx\n".toList.count '\n' < 5 - 1 := by decide
  refine ⟨hsecond, ?_, hfirst, ?_, hbeyond, ?_⟩
  · obtain ⟨-, hline, -⟩ := labels_clamped "ä\néx\n" ⟨.missingIndex, ⟨2, 9⟩⟩
    exact hline _ _ _ hsecond
  · obtain ⟨-, hline, -⟩ := labels_clamped "ä\néx\n" ⟨.missingIndex, ⟨0, 0⟩⟩
    exact hline _ _ _ hfirst
  · obtain ⟨-, -, -, hend, -⟩ := labels_clamped "ä\néx\n" ⟨.missingIndex, ⟨5, 1⟩⟩
    exact hend hbeyond

end MessageTemplate.Diagnostic
