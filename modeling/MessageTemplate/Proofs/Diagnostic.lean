import MessageTemplate.Diagnostic
import MessageTemplate.Proofs.Template.Concatenation
import MessageTemplate.Proofs.Text.Lines

/-!
# Diagnostics point at the fault

The line and column of a place are counted from the text in front of it, and a diagnostic
finds the offset of the place again from its line and column.  The second undoes the
first: wherever a text is cut, the offset is the number of bytes in front of the cut.  An
error of the parser carries the place where reading stopped, so its diagnostic points at
the byte at which the rest of the text begins.
-/

namespace MessageTemplate

/-! ## Bytes -/

namespace Text

variable {s : List Char}

/-- The bytes of the characters are the bytes of the text. -/
theorem byteLength_eq_utf8ByteSize (s : List Char) :
    byteLength s = (String.ofList s).utf8ByteSize := by
  induction s with
  | nil => simp
  | cons c s ih =>
    rw [byteLength_cons, ih, String.ofList_cons, String.utf8ByteSize_append,
      String.utf8ByteSize_singleton]

theorem byteLength_toList (s : String) : byteLength s.toList = s.utf8ByteSize := by
  rw [byteLength_eq_utf8ByteSize, String.ofList_toList]

theorem eq_nil_of_byteLength (h : byteLength s = 0) : s = [] := by
  cases s with
  | nil => rfl
  | cons c s =>
    have hpos := c.utf8Size_pos
    rw [byteLength_cons] at h
    omega

end Text

/-! ## Offsets -/

namespace Diagnostic

open Text Position

variable {c : Char} {p : List Char} {ps : List (List Char)} {s t : List Char}
  {line column : Nat}

/-- The number of bytes in front of a column of a line, both counted from zero. -/
def bytesBefore (pieces : List (List Char)) (line column : Nat) : Nat :=
  linesLength (pieces.take line) + byteLength ((pieces[line]?.getD []).take column)

theorem bytesBefore_start : bytesBefore ps 0 0 = 0 := by
  simp [bytesBefore, linesLength]

theorem bytesBefore_zero : bytesBefore (p :: ps) 0 column = byteLength (p.take column) := by
  simp [bytesBefore, linesLength]

theorem bytesBefore_succ :
    bytesBefore (p :: ps) (line + 1) column = byteLength p + 1 + bytesBefore ps line column := by
  simp only [bytesBefore, List.take_succ_cons, List.getElem?_cons_succ, linesLength,
    List.map_cons, List.foldr_cons]
  omega

/-- The lines and columns of a text in front count its bytes. -/
theorem bytesBefore_pieces (s t : List Char) :
    bytesBefore (pieces (s ++ t)) (s.count '\n') (lastLineLength s) = byteLength s := by
  -- On the text in front.  A line feed drops a line; any other character makes the first
  -- line longer, and the column too as long as that line is the last.
  induction s with
  | nil => exact bytesBefore_start
  | cons c s ih =>
    by_cases hc : c = '\n'
    · subst hc
      rw [List.cons_append, pieces_lineFeed, List.count_cons_self, lastLineLength_lineFeed,
        bytesBefore_succ, ih, byteLength_cons]
      rfl
    · obtain ⟨p, ps, hpieces⟩ := List.exists_cons_of_ne_nil (pieces_ne_nil (s ++ t))
      have hcons : pieces (c :: s ++ t) = (c :: p) :: ps := pieces_cons hc hpieces
      rw [hpieces] at ih
      rw [hcons, List.count_cons_of_ne hc, byteLength_cons, ← ih]
      by_cases hmem : '\n' ∈ s
      · obtain ⟨k, hk⟩ := Nat.exists_eq_succ_of_ne_zero
          (Nat.pos_iff_ne_zero.mp (List.count_pos_iff.mpr hmem))
        rw [hk, lastLineLength_cons_of_mem hmem, bytesBefore_succ, bytesBefore_succ,
          byteLength_cons]
        omega
      · have hcolumn : lastLineLength (c :: s) = lastLineLength s + 1 := by
          rw [lastLineLength_of_not_mem hmem, lastLineLength_of_not_mem (by simp [hmem, Ne.symm hc]),
            List.length_cons]
        rw [List.count_eq_zero.mpr hmem, hcolumn, bytesBefore_zero, bytesBefore_zero,
          List.take_succ_cons, byteLength_cons]

/-- The offset of the place behind a text is the length of the text. -/
theorem offset_after (s t : List Char) : offset (s ++ t) (.after s) = byteLength s := by
  have hline : (Position.after s).line - 1 = s.count '\n' := by
    rw [after_eq_moved]
    exact Nat.add_sub_cancel_left ..
  have hcolumn : (Position.after s).column - 1 = lastLineLength s := by
    rw [after_eq_moved]
    exact Nat.add_sub_cancel_left ..
  have hbytes := bytesBefore_pieces s t
  rw [bytesBefore] at hbytes
  rw [offset, hline, hcolumn, hbytes, byteLength_append]
  omega

/-- Two cuts of a text with the same line and column are the same cut. -/
theorem eq_of_after_eq {s' t' : List Char} (h : s ++ t = s' ++ t')
    (hplace : Position.after s = Position.after s') : s = s' := by
  have hbytes : byteLength s = byteLength s' := by
    rw [← offset_after s t, ← offset_after s' t', h, hplace]
  rcases List.append_eq_append_iff.mp h with ⟨u, rfl, _⟩ | ⟨u, rfl, _⟩
  · rw [byteLength_append] at hbytes
    rw [eq_nil_of_byteLength (s := u) (by omega), List.append_nil]
  · rw [byteLength_append] at hbytes
    rw [eq_nil_of_byteLength (s := u) (by omega), List.append_nil]

/-- The one label of a diagnostic lies where its text is cut. -/
theorem labels_of_cut (cause : Cause) (before rest : String) :
    (ofParseError (before ++ rest)
      ⟨cause, Reader.placeOf (before ++ rest).toList rest.toList⟩).labels.map Label.offset =
        [before.utf8ByteSize] := by
  have htake : (before ++ rest).toList.take
      ((before ++ rest).toList.length - rest.toList.length) = before.toList := by
    rw [String.toList_append, List.length_append, Nat.add_sub_cancel, List.take_left]
  have hoffset : offset (before ++ rest).toList (Position.after before.toList) =
      before.utf8ByteSize := by
    rw [String.toList_append, offset_after, byteLength_toList]
  rw [Reader.placeOf, htake, ofParseError, ofErrorIn, List.map_singleton, hoffset]

/-- A diagnostic points at the byte where the parser stopped, and the way from a cut of a
text to its line and column and back to an offset gives the bytes in front of the cut. -/
theorem offset_eq_utf8ByteSize (content : String) :
    (∀ error, Template.parse content = .error error →
      ∃ failure, Reader.run (some Template.maxNesting) ⟨[], [], content.toList⟩ = .error failure ∧
        error = failure.toError content.toList ∧ failure.rest <:+ content.toList ∧
        (ofParseError content error).labels.map Label.offset =
          [content.utf8ByteSize - (String.ofList failure.rest).utf8ByteSize]) ∧
    ∀ cause, ∀ before rest : String, content = before ++ rest →
      (ofParseError content ⟨cause, Reader.placeOf content.toList rest.toList⟩).labels.map
        Label.offset = [before.utf8ByteSize] := by
  refine ⟨fun error h => ?_, fun cause before rest h => ?_⟩
  · obtain ⟨failure, hrun, rfl⟩ := Template.read_eq_error.mp h
    obtain ⟨before, hbefore⟩ := Reader.failure_suffix hrun
    refine ⟨failure, hrun, rfl, ⟨before, hbefore⟩, ?_⟩
    have hcontent : content = String.ofList before ++ String.ofList failure.rest := by
      rw [← String.ofList_append, hbefore, String.ofList_toList]
    have hlabels := labels_of_cut failure.cause (String.ofList before) (String.ofList failure.rest)
    rw [← hcontent, String.toList_ofList] at hlabels
    have hsize : content.utf8ByteSize - (String.ofList failure.rest).utf8ByteSize =
        (String.ofList before).utf8ByteSize := by
      rw [hcontent, String.utf8ByteSize_append, Nat.add_sub_cancel]
    rw [hsize]
    exact hlabels
  · rw [h]
    exact labels_of_cut cause before rest

/-- A fault on the second line, behind a character of two bytes and a carriage return, and
a cut between that return and its line feed. -/
theorem offset_eq_utf8ByteSize_second_line :
    Template.parse "é\r\n\x7bx" = .error ⟨.missingIndex, ⟨2, 2⟩⟩ ∧
      (ofParseError "é\r\n\x7bx" ⟨.missingIndex, ⟨2, 2⟩⟩).labels.map Label.offset = [5] ∧
      "é\r\n\x7bx" = "é\r" ++ "\n\x7bx" ∧
      (ofParseError "é\r\n\x7bx" ⟨.unbalancedDelimiter,
        Reader.placeOf "é\r\n\x7bx".toList "\n\x7bx".toList⟩).labels.map Label.offset = [3] := by
  have hrun : Reader.run (some Template.maxNesting) ⟨[], [], "é\r\n\x7bx".toList⟩ =
      .error ⟨.missingIndex, ['x']⟩ := Reader.run_of_failure rfl
  have herror : Template.parse "é\r\n\x7bx" = .error ⟨.missingIndex, ⟨2, 2⟩⟩ :=
    Template.read_eq_error.mpr ⟨_, hrun, by decide⟩
  obtain ⟨hdiagnostic, hcut⟩ := offset_eq_utf8ByteSize "é\r\n\x7bx"
  refine ⟨herror, ?_, by decide, hcut .unbalancedDelimiter "é\r" "\n\x7bx" (by decide)⟩
  obtain ⟨failure, hfailure, _, _, hoffset⟩ := hdiagnostic _ herror
  obtain rfl : ⟨.missingIndex, ['x']⟩ = failure := Except.error.inj (hrun.symm.trans hfailure)
  rw [hoffset]
  decide

end Diagnostic

end MessageTemplate
