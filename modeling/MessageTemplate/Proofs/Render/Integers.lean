import Mathlib
import MessageTemplate.Proofs.Binary.Integer
import MessageTemplate.Proofs.Plural.Resolver
import MessageTemplate.Proofs.Render.Selection

/-!
# Integers that are not exact in double precision

A plain token shows an integer with all its digits.  The number formats and the plural rules see
it only as a double precision number, and this is another number once the integer has too many
bits.  So the format `integer` can change an integer, and a choice can go by the category of
another number than the one that a plain token shows.  Both are told here for all integers, with
the integers for which they are right.
-/

namespace MessageTemplate

open Node Binary

variable {ctx : Context} {index : Index} {n : Int64} {value : Value}
  {build : Plural.Language → Option (List Plural.Rule)}

/-! ## The format of integers -/

/-- The format `integer` drops the fraction of a number. -/
theorem formatNumber_truncate {x : Binary64} (hnumber : value.toNumber? = some x) :
    formatNumber value (some "integer") = x.truncate.toInt.repr := by
  simp only [formatNumber, hnumber]

/-- The format `integer` shows an integer as it comes back from double precision.  This is the
text of the plain token exactly when the magnitude has no more than 53 significant bits or the
integer is the largest one. -/
theorem render_integerFormat (hlookup : ctx.params.lookup index = .found (.integer n)) :
    (Node.param index).render ctx = .ok n.toInt.repr ∧
      (Node.number index (some "integer")).render ctx =
        .ok (roundInt64 binary64 n).toInt.repr ∧
      ((Node.number index (some "integer")).render ctx = (Node.param index).render ctx ↔
        (∃ m e, m < 2 ^ 53 ∧ n.toInt.natAbs = m * 2 ^ e) ∨ n = Int64.maxValue) := by
  have hparam : (Node.param index).render ctx = .ok n.toInt.repr := by
    rw [render_param_of_found hlookup, Value.display]
  have hnumber : (Node.number index (some "integer")).render ctx =
      .ok (roundInt64 binary64 n).toInt.repr := by
    rw [render_number_of_found _ hlookup, formatNumber_truncate rfl, truncate_ofInt (by decide)]
  refine ⟨hparam, hnumber, ?_⟩
  rw [hparam, hnumber, Except.ok.injEq, Int.repr_inj, Int64.toInt_inj]
  exact roundInt64_eq_self_iff (by decide) n

/-- The largest integer is rounded up and saturates back. -/
theorem render_integerFormat_largest :
    let ctx : Context :=
      ⟨"en", .positional [.integer Int64.maxValue], Plural.singularPlural, .raise⟩
    ctx.params.lookup (.position 0) = .found (.integer Int64.maxValue) ∧
      (Node.number (.position 0) (some "integer")).render ctx = .ok "9223372036854775807" := by
  intro ctx
  have hlookup : ctx.params.lookup (.position 0) = .found (.integer Int64.maxValue) := rfl
  obtain ⟨hparam, -, hsame⟩ := render_integerFormat hlookup
  exact ⟨hlookup, (hsame.mpr (.inr rfl)).trans hparam⟩

/-- The first integer that is not exact is shown as the one below it. -/
theorem render_integerFormat_inexact :
    let ctx : Context :=
      ⟨"en", .positional [.integer 9007199254740993], Plural.singularPlural, .raise⟩
    (Node.param (.position 0)).render ctx = .ok "9007199254740993" ∧
      (Node.number (.position 0) (some "integer")).render ctx = .ok "9007199254740992" := by
  decide +kernel

/-! ## The category of integers -/

namespace Plural

/-- The category of a rounded integer is that of the whole number in its text. -/
theorem byCategory_of_text {x : Binary64} {m : Nat} (tag : String) (hx : x.isFinite = true)
    (htext : x.abs.text = m.repr) (hm : m < UInt64.size) :
    byCategoryWith build tag x = (categoryWith build tag (.ofNat m)).word := by
  rw [byCategoryWith, operands?_eq hx, htext, Nat.toList_repr, Operands.ofText?_toDigits hm]

end Plural

/-- A choice by plural categories goes by the category of the whole number in the shortest text of
the double precision number nearest to the integer.  This is the integer itself below `2 ^ 53`,
and below `2 ^ 54` when it is even; beyond, it is a number with the same rounding.  The rules of
the languages have no part in this. -/
theorem render_choice_integer (hresolver : ctx.resolver = Plural.byCategoryWith build)
    (hlookup : ctx.params.lookup index = .found (.integer n)) :
    ∃ m : Nat, (ofInt binary64 n.toInt).abs.text = m.repr ∧
      binary64.roundWhole m = binary64.roundWhole n.toInt.natAbs ∧
      (n.toInt.natAbs < 2 ^ 53 ∨ 2 ∣ n.toInt.natAbs ∧ n.toInt.natAbs < 2 ^ 54 →
        m = n.toInt.natAbs) ∧
      ∀ styles, (Node.styled .choice index styles).render ctx =
        ctx.renderForRuleKey index (Plural.categoryWith build ctx.language (.ofNat m)).word
          styles := by
  obtain ⟨m, htext, hsize, hround, hexact⟩ :=
    exists_text_abs_ofInt (F := binary64) precision_binary64 (by decide) n
  refine ⟨m, htext, hround, ?_, fun styles => ?_⟩
  · rintro (hlt | ⟨heven, hlt⟩)
    · exact hexact 0 (Nat.zero_le 1) (Nat.one_dvd _) hlt
    · exact hexact 1 (Nat.le_refl 1) heven hlt
  · have hfinite := isFinite_ofInt (F := binary64) (by decide) n
    have hkey : ctx.ruleKey (.integer n) =
        (Plural.categoryWith build ctx.language (.ofNat m)).word := by
      rw [← Plural.byCategory_of_text ctx.language hfinite htext hsize, ← hresolver]
      rfl
    rw [render_choice_of_found hlookup, hkey]

/-- In an exact integer the last digit decides, and so it does in the largest exact one. -/
theorem render_choice_integer_exact :
    let ctx : Context := ⟨"ru", .positional [.integer 9007199254740991], Plural.byCategory, .raise⟩
    let styles : List (Style Node) := [⟨"many", [.text "B"]⟩, ⟨"one", [.text "A"]⟩]
    ctx.params.lookup (.position 0) = .found (.integer 9007199254740991) ∧
      (Node.styled .choice (.position 0) styles).render ctx = .ok "A" := by
  intro ctx styles
  have hlookup : ctx.params.lookup (.position 0) = .found (.integer 9007199254740991) := rfl
  have hresolver : ctx.resolver = Plural.byCategory := rfl
  obtain ⟨m, -, -, hexact, hrender⟩ := render_choice_integer hresolver hlookup
  have hm : m = 9007199254740991 := hexact (.inl (by decide))
  refine ⟨hlookup, (hrender styles).trans ?_⟩
  rw [hm]
  decide +kernel

/-- An odd integer beyond the exact ones is in the category of another number. -/
theorem render_choice_integer_inexact :
    let ctx : Context := ⟨"ru", .positional [.integer 9007199254741001], Plural.byCategory, .raise⟩
    let styles : List (Style Node) := [⟨"one", [.text "A"]⟩, ⟨"many", [.text "B"]⟩]
    (Node.styled .choice (.position 0) styles).render ctx = .ok "B" ∧
      ctx.renderForRuleKey (.position 0)
        (Plural.category "ru" (.ofNat 9007199254741001)).word styles = .ok "A" := by
  decide +kernel

end MessageTemplate
