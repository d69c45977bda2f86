import MessageTemplate.Proofs.Text.Run
import MessageTemplate.Text.Position

/-!
# Places behind a text

Text in front of a place moves it: by the lines of that text, and on the first
line by the characters of its last line as well.
-/

namespace MessageTemplate.Position

/-- The characters behind the last line feed. -/
def lastLineLength (s : List Char) : Nat :=
  (s.reverse.takeWhile (· != '\n')).length

/-- The place once the text `s` stands in front. -/
def moved (p : Position) (s : List Char) : Position :=
  ⟨p.line + s.count '\n', if p.line = 1 then p.column + lastLineLength s else p.column⟩

variable {p : Position} {s t : List Char} {c : Char}

/-! ## The last line -/

theorem lastLineLength_lineFeed : lastLineLength ('\n' :: s) = lastLineLength s := by
  rw [lastLineLength, lastLineLength, List.reverse_cons, List.takeWhile_append]
  split
  · next h => simp [h]
  · rfl

/-- Behind a line feed the last line does not reach back to the first character. -/
theorem lastLineLength_cons_of_mem (h : '\n' ∈ s) :
    lastLineLength (c :: s) = lastLineLength s := by
  rw [lastLineLength, lastLineLength, List.reverse_cons, List.takeWhile_append, if_neg]
  intro hlength
  have hall : s.reverse.takeWhile (· != '\n') = s.reverse :=
    (List.takeWhile_prefix _).eq_of_length hlength
  have honly : Text.Only (· != '\n') s.reverse := by
    rw [← hall]
    exact Text.only_takeWhile
  have hne := honly '\n' (List.mem_reverse.mpr h)
  simp at hne

/-- A text without line feeds is one line. -/
theorem lastLineLength_of_not_mem (h : '\n' ∉ s) : lastLineLength s = s.length := by
  have honly := Text.only_of_not_mem (mt List.mem_reverse.mp h)
  rw [lastLineLength, Text.takeWhile_of_only honly, List.length_reverse]

/-! ## Moving -/

theorem line_advance_pos (h : 0 < p.line) : 0 < (p.advance c).line := by
  unfold advance
  split
  · exact Nat.succ_pos _
  · exact h

/-- The place behind a text is the first place moved by it. -/
theorem after_eq_moved (s : List Char) : after s = start.moved s := by
  have hreverse : ∀ r : List Char, r.foldr (fun c p => advance p c) start =
      ⟨1 + r.count '\n', 1 + (r.takeWhile (· != '\n')).length⟩ := by
    intro r
    induction r with
    | nil => rfl
    | cons c r ih =>
      rw [List.foldr_cons, ih, advance]
      by_cases hc : c = '\n'
      · simp [hc]
        omega
      · simp [hc]
        omega
  have hcount : s.reverse.count '\n' = s.count '\n' := List.count_reverse
  rw [after, List.foldl_eq_foldr_reverse, hreverse, hcount]
  rfl

/-- Going on does not depend on the text in front, except that a line feed leaves
the first line. -/
theorem advance_moved (h : 0 < p.line) : (p.moved s).advance c = (p.advance c).moved s := by
  by_cases hc : c = '\n'
  · have hline : p.line + 1 ≠ 1 := by omega
    simp only [advance, moved, hc, if_true, hline, if_false]
    congr 1
    omega
  · simp only [advance, moved, hc, if_false]
    congr 1
    split <;> omega

theorem foldl_advance_moved (h : 0 < p.line) :
    t.foldl advance (p.moved s) = (t.foldl advance p).moved s := by
  induction t generalizing p with
  | nil => rfl
  | cons c t ih => rw [List.foldl_cons, advance_moved h, ih (line_advance_pos h), List.foldl_cons]

/-- A text in front moves the place behind what follows it. -/
theorem after_append (s t : List Char) : after (s ++ t) = (after t).moved s := by
  rw [after, List.foldl_append]
  show t.foldl advance (after s) = (after t).moved s
  rw [after_eq_moved, foldl_advance_moved Nat.one_pos]
  rfl

end MessageTemplate.Position
