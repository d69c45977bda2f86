import MessageTemplate.Binary.Format

/-!
# Binary floating point numbers

A number of a format is a signed magnitude, an infinity or not a number.  The
two zeros are different numbers of equal value.  Every operation here is exact
arithmetic on units followed by one rounding.
-/

namespace MessageTemplate

/-- A number of the format `F`. -/
inductive Binary (F : Format) where
  | nan
  | infinite (negative : Bool)
  | finite (negative : Bool) (units : Nat) (holds : F.Holds units)
  deriving DecidableEq

/-- A double precision number. -/
abbrev Binary64 := Binary binary64

namespace Binary

variable {F : Format}

/-- The number of `F` nearest to `num / den`, with a sign.  A result that is too
wide is infinite. -/
def ofRatio (F : Format) (negative : Bool) (num den : Nat) : Binary F :=
  if h : F.round num den < Nat.pow 2 F.width then
    .finite negative (F.round num den) ⟨h, F.grain_dvd_round num den⟩
  else
    .infinite negative

/-- The number nearest to a whole number. -/
def ofInt (F : Format) (n : Int) : Binary F :=
  ofRatio F (n < 0) n.natAbs 1

/-- Changes the format: the nearest number of the other one. -/
def convert (G : Format) : Binary F → Binary G
  | nan => .nan
  | infinite negative => .infinite negative
  | finite negative units _ => ofRatio G negative units (Nat.pow 2 F.scale)

/-- The number without its sign. -/
def abs : Binary F → Binary F
  | nan => nan
  | infinite _ => infinite false
  | finite _ units holds => finite false units holds

/-- The number with the other sign. -/
def neg : Binary F → Binary F
  | nan => nan
  | infinite negative => infinite !negative
  | finite negative units holds => finite (!negative) units holds

/-- Neither an infinity nor not a number. -/
def isFinite : Binary F → Bool
  | finite .. => true
  | _ => false

/-! ## Arithmetic -/

/-- The product, rounded once. -/
def mul : Binary F → Binary F → Binary F
  | nan, _ => nan
  | _, nan => nan
  | infinite s, infinite t => infinite (s != t)
  | infinite s, finite t b _ => if b = 0 then nan else infinite (s != t)
  | finite s a _, infinite t => if a = 0 then nan else infinite (s != t)
  | finite s a _, finite t b _ => ofRatio F (s != t) (a * b) (Nat.pow 2 (2 * F.scale))

/-- The quotient, rounded once. -/
def div : Binary F → Binary F → Binary F
  | nan, _ => nan
  | _, nan => nan
  | infinite _, infinite _ => nan
  | infinite s, finite t _ _ => infinite (s != t)
  | finite s _ _, infinite t => ofRatio F (s != t) 0 1
  | finite s a _, finite t b _ =>
    if b = 0 then if a = 0 then nan else infinite (s != t)
    else ofRatio F (s != t) a b

/-! ## Whole numbers -/

/-- The whole number of a finite magnitude, if it is one. -/
def whole? : Binary F → Option Nat
  | finite _ units _ => if units % Nat.pow 2 F.scale = 0 then some (units / Nat.pow 2 F.scale) else none
  | _ => none

/-- The 64-bit integer nearest to a whole number: one that is out of range
becomes the end of the range that it is beyond. -/
def saturate (n : Int) : Int64 :=
  Int64.ofInt (max Int64.minValue.toInt (min n Int64.maxValue.toInt))

/-- A number as a 64-bit integer, where `rounding` takes the quotient of a
magnitude in units by the units of one.  Infinities go to the ends of the range
and what is not a number to zero. -/
def toInt64 (rounding : Nat → Nat → Nat) : Binary F → Int64
  | nan => 0
  | infinite negative => if negative then Int64.minValue else Int64.maxValue
  | finite negative units _ =>
    let n : Int := rounding units (Nat.pow 2 F.scale)
    saturate (if negative then -n else n)

/-- The integer part. -/
def truncate : Binary F → Int64 :=
  toInt64 (· / ·)

/-- The nearest integer; a half goes away from zero. -/
def nearest : Binary F → Int64 :=
  toInt64 divHalfUp

end Binary

end MessageTemplate
