import MessageTemplate.Plural.Resolver
import MessageTemplate.Proofs.Binary.Shortest
import MessageTemplate.Proofs.Text.Run

/-!
# The category of a number is the category of its text

The resolver by categories has two ways to the operands of a number: it takes a whole number as
it is while double precision is exact, and it reads the text of every other number.  Both ways
come to the same operands, because the shortest text of such a whole number has all its digits.
So the category is always that of the text, and the sign has no part in it, whatever the rules
of the languages are.
-/

namespace MessageTemplate.Plural

open Binary Text

variable {n : Nat} {x : Binary64} {tag : String} {build : Language → Option (List Rule)}

/-! ## Operands of digits -/

namespace Operands

/-- Digits have nothing to split off. -/
theorem splitAt_toDigits (mark : Char) (hmark : mark.isDigit = false) (n : Nat) :
    splitAt mark (Nat.toDigits 10 n) = (Nat.toDigits 10 n, none) := by
  have hnot : mark ∉ Nat.toDigits 10 n := (only_toDigits n).not_mem hmark
  rw [splitAt, dropWhile_of_only (only_of_not_mem hnot)]

/-- The digits of a number that fits into 64 bits are read as its operands. -/
theorem ofText?_toDigits (hn : n < UInt64.size) :
    ofText? (Nat.toDigits 10 n) = some (.ofNat n) := by
  have hhead (sign : Char) (hsign : sign.isDigit = false) :
      ((Nat.toDigits 10 n).head? == some sign) = false := by
    have hdigits := (only_toDigits n).head?_append Nat.toDigits_ne_nil hsign []
    rwa [List.append_nil] at hdigits
  have hread : unsigned64? (Nat.toDigits 10 n) = some n := by
    simp [unsigned64?, hhead '+' rfl, digits?_toDigits, hn]
  simp [ofText?, hhead '-' rfl, splitPower?, splitAt_toDigits '.' rfl, splitAt_toDigits 'e' rfl,
    hread, ofNat]

end Operands

/-! ## The two ways to the operands -/

/-- The operands of a finite number are those of the text of its magnitude. -/
theorem operands?_eq (hx : x.isFinite = true) :
    operands? x = Operands.ofText? x.abs.text.toList := by
  rw [operands?, if_pos hx]
  cases hexact : x.whole?.filter (· < maxExactInteger) with
  | none => rfl
  | some n =>
    obtain ⟨hwhole, hn⟩ := Option.filter_eq_some_iff.mp hexact
    have hn : n < maxExactInteger := of_decide_eq_true hn
    have hsize : n < UInt64.size := Nat.lt_trans hn (by decide)
    rw [text_abs_of_whole? precision_binary64 hwhole hn, Operands.ofText?_toDigits hsize]

theorem operands?_neg (x : Binary64) : operands? x.neg = operands? x := by
  cases x <;> rfl

/-- The rule key of a number by its text alone: the category of the operands that the text of
the magnitude is read as, or `other` when it cannot be read. -/
def keyOfText (build : Language → Option (List Rule)) (tag : String) (x : Binary64) : String :=
  match Operands.ofText? x.abs.text.toList with
  | some operands => (categoryWith build tag operands).word
  | none => Category.other.word

/-- Taking whole numbers as they are cannot be noticed, whatever rules `build` prepares: the rule
key of every finite number is that of its text, and so the sign does not matter. -/
theorem byCategory_eq_keyOfText (build : Language → Option (List Rule)) (tag : String)
    (x : Binary64) (hx : x.isFinite = true) :
    byCategoryWith build tag x = keyOfText build tag x ∧
      byCategoryWith build tag x = byCategoryWith build tag x.neg := by
  constructor
  · rw [byCategoryWith, operands?_eq hx]
    rfl
  · rw [byCategoryWith, byCategoryWith, operands?_neg]

/-- The largest whole number that is taken as it is, with either sign. -/
theorem byCategory_eq_keyOfText_largest :
    let x : Binary64 := .ofInt binary64 9007199254740991
    x.isFinite = true ∧ x.whole? = some (maxExactInteger - 1) ∧ byCategory "ru" x = "one" ∧
      keyOfText Language.rules? "ru" x = "one" ∧ byCategory "ru" x.neg = "one" := by
  intro x
  have hfinite : x.isFinite = true := by decide +kernel
  have hkey : byCategory "ru" x = "one" := by decide +kernel
  obtain ⟨htext, hsign⟩ := byCategory_eq_keyOfText Language.rules? "ru" x hfinite
  exact ⟨hfinite, by decide +kernel, hkey, htext.symm.trans hkey, hsign.symm.trans hkey⟩

end MessageTemplate.Plural
