import MessageTemplate.Text.Columns
import MessageTemplate.Text.Pictograph

/-!
# The width of a text in columns

The width of a text is the sum of the columns of its characters, apart from
characters that are drawn together.  Those are the pictures that a joiner makes
one, the pictures with a skin tone or a selector, and the letters of a few
scripts that make one letter.

How wide a character is depends on what stands after it, so a text is measured
from its end.  A `Sequel` holds what matters of the text after a character, and
`Sequel.extend` puts one more character in front.
-/

namespace MessageTemplate.Text

/-- The joiner, which asks for one drawing of the characters around it. -/
def joiner : Char := '\u200d'

/-! ## Selectors -/

/-- The form of the character in front of a selector. -/
inductive Selector where
  /-- The picture. -/
  | picture
  /-- The plain sign. -/
  | plain
  /-- The wide form of a quotation mark. -/
  | wide
  deriving DecidableEq, Repr

/-- The selector that a character is. -/
def selector? (c : Char) : Option Selector :=
  match c with
  | '\ufe0f' => some .picture
  | '\ufe0e' => some .plain
  | '\ufe01' => some .wide
  | _ => none

/-- The quotation marks that have a wide form. -/
def isQuotationMark (c : Char) : Bool :=
  c == '\u2018' || c == '\u2019' || c == '\u201c' || c == '\u201d'

/-! ## Letters that are drawn together -/

/-- A letter, or letters drawn together, that may take in a letter in front. -/
inductive Ligature where
  /-- The Hebrew letter lamed. -/
  | lamed
  /-- The Khmer letters that have a form below the line. -/
  | khmerLetter
  /-- The Buginese letter ya. -/
  | ya
  /-- The Buginese letter ya joined to the vowel sign i. -/
  | signedYa
  /-- A Tifinagh consonant. -/
  | consonant
  /-- A Tifinagh consonant with the consonant joiner in front. -/
  | joinedConsonant
  /-- The second half of a Lisu tone. -/
  | toneEnd
  /-- The Old Turkic letter orkhon i. -/
  | orkhonI
  /-- The Kirat Rai vowel sign e. -/
  | vowelE
  /-- The Kirat Rai vowel sign ai. -/
  | vowelAi
  deriving DecidableEq, Repr

/-- The Khmer letters that have a form below the line. -/
def khmerLetters : Ranges :=
  [(0x1780, 0x1782), (0x1784, 0x1787), (0x1789, 0x178c), (0x178e, 0x1793), (0x1795, 0x1798),
   (0x179b, 0x179d), (0x17a0, 0x17a0), (0x17a2, 0x17a2), (0x17a7, 0x17a7), (0x17ab, 0x17ac),
   (0x17af, 0x17af)]

/-- A Tifinagh consonant that may be joined to another. -/
def isConsonant (c : Char) : Bool :=
  let n := c.toNat
  (0x2d31 ≤ n && n ≤ 0x2d65) || n == 0x2d6f

/-- The ligature that a letter may be the end of. -/
def Ligature.ofChar? (c : Char) : Option Ligature :=
  if c = '\u05dc' then some lamed
  else if khmerLetters.contain c.toNat then some khmerLetter
  else if c = '\u1a10' then some ya
  else if isConsonant c then some consonant
  else if c = '\ua4fc' || c = '\ua4fd' then some toneEnd
  else if c.toNat = 0x10c03 then some orkhonI
  else if c.toNat = 0x16d67 then some vowelE
  else if c.toNat = 0x16d68 then some vowelAi
  else none

/-- Marks that are not drawn and do not come between letters. -/
def ignoredMarks : Ranges :=
  [(0x34f, 0x34f), (0x17b4, 0x17b5), (0x180b, 0x180d), (0x180f, 0x180f), (0xfe00, 0xfe0f),
   (0xe0100, 0xe01ef)]

/-- The Arabic letter lam and its variants. -/
def isLam (c : Char) : Bool :=
  let n := c.toNat
  n == 0x644 || (0x6b5 ≤ n && n ≤ 0x6b8) || n == 0x76a || n == 0x8a6 || n == 0x8c7

/-- The Arabic letter alef and its variants. -/
def isAlef (c : Char) : Bool :=
  let n := c.toNat
  n == 0x622 || n == 0x623 || n == 0x625 || n == 0x627 || (0x671 ≤ n && n ≤ 0x673) ||
    n == 0x675 || n == 0x773 || n == 0x774 || (0x870 ≤ n && n ≤ 0x882)

/-! ## What stands after a character -/

/-- The beginning of a text, as far as a character in front of it may be drawn
together with it. -/
inductive Opening where
  /-- Nothing of the kind. -/
  | apart
  /-- The letter alef, perhaps with marks in front. -/
  | alef
  /-- A ligature, perhaps with marks in front, one of which may be a joiner. -/
  | ligature (ligature : Ligature) (hasJoiner : Bool)
  /-- A skin tone. -/
  | tone
  /-- One flag letter. -/
  | flagLetter
  /-- Several flag letters. -/
  | flagLetters
  /-- A picture. -/
  | picture
  /-- A joiner and a picture. -/
  | joined
  /-- An enclosing keycap, a joiner and a picture. -/
  | joinedKeycap
  /-- Flag letters, a joiner and a picture; `paired` when no letter is left over, and
  `many` when there are several. -/
  | joinedFlag (paired : Bool) (many : Bool)
  /-- The digits and then the letters of a tag, its end, a joiner and a picture. -/
  | tag (digits letters : Nat)
  deriving DecidableEq, Repr

namespace Opening

/-- The opening that a character is by itself. -/
def ofChar (c : Char) : Opening :=
  if isTone c then tone
  else if isFlagLetter c then flagLetter
  else if isPicture c then picture
  else if isAlef c then alef
  else match Ligature.ofChar? c with
    | some l => ligature l false
    | none => apart

end Opening

/-- Columns to be added, and the opening after a character is put in front. -/
abbrev Joining := Int × Opening

/-- A character in front of a ligature.  There is nothing when the two are drawn
apart. -/
def Ligature.join? (ligature : Ligature) (hasJoiner : Bool) (c : Char) : Option Joining :=
  match ligature with
  | lamed => if hasJoiner && c = '\u05d0' then some (0, .apart) else none
  | khmerLetter => if c = '\u17d2' then some (-1, .apart) else none
  | ya => if hasJoiner && c = '\u1a17' then some (0, .ligature signedYa true) else none
  | signedYa => if c = '\u1a15' then some (0, .apart) else none
  | consonant =>
    if c = '\u2d7f' then some (1, .ligature joinedConsonant true)
    else if hasJoiner && isConsonant c then some (0, .apart)
    else none
  | joinedConsonant => if isConsonant c then some (-1, .apart) else none
  | toneEnd => if 0xa4f8 ≤ c.toNat && c.toNat ≤ 0xa4fb then some (0, .apart) else none
  | orkhonI => if hasJoiner && c.toNat = 0x10c32 then some (0, .apart) else none
  | vowelE =>
    if c.toNat = 0x16d63 || c.toNat = 0x16d69 then some (0, .apart)
    else if c.toNat = 0x16d67 then some (0, .ligature vowelAi false)
    else if c.toNat = 0x16d68 then some (1, .ligature vowelE false)
    else none
  | vowelAi => if c.toNat = 0x16d63 then some (0, .apart) else none

namespace Opening

/-- Whether a picture is drawn together with the opening. -/
def takesPicture : Opening → Bool
  | joined | joinedKeycap => true
  | _ => false

/-- The tag of a flag holds a region: two letters and one to four more, or three
digits and at most four letters. -/
def namesRegion (digits letters : Nat) : Bool :=
  digits = 3 || (digits = 0 && 3 ≤ letters)

/-- A tag with one more character in front. -/
def joinTag? (digits letters : Nat) (c : Char) : Option Joining :=
  if isTagLetter c then
    if digits = 0 && letters < 6 then some (0, tag 0 (letters + 1)) else none
  else if isTagDigit c then
    if digits < 3 && letters ≤ 4 then some (0, tag (digits + 1) letters) else none
  else if c.toNat = 0x1f3f4 then
    if namesRegion digits letters then some (0, picture) else none
  else none

/-- A character in front of a joiner and a picture. -/
def joinPicture? (c : Char) : Option Joining :=
  if c = '\u20e3' then some (0, joinedKeycap)
  else if isFlagLetter c then some (1, joinedFlag false false)
  else if isTone c then some (0, tone)
  else if c.toNat = 0xe007f then some (0, tag 0 0)
  else if isPicture c then some (0, picture)
  else none

/-- A character in front of an opening that it is drawn together with.  There is
nothing when the two are drawn apart. -/
def join? (opening : Opening) (c : Char) : Option Joining :=
  match opening with
  | apart | joinedKeycap => none
  | alef =>
    if isLam c then some (0, apart) else if isTransparent c then some (0, alef) else none
  | ligature l hasJoiner =>
    if c = joiner then some (0, ligature l true)
    else if ignoredMarks.contain c.toNat then some (0, ligature l hasJoiner)
    else l.join? hasJoiner c
  | tone =>
    if c = joiner then some (0, joined)
    else if isToneBase c then some (0, picture)
    else none
  | flagLetter => if isFlagLetter c then some (1, flagLetters) else none
  | flagLetters =>
    if c = joiner then some (0, joined)
    else if isFlagLetter c then some (1, flagLetters)
    else none
  | picture => if c = joiner then some (0, joined) else none
  | joined => joinPicture? c
  | joinedFlag paired many =>
    if isFlagLetter c then
      if paired then some (3, joinedFlag false true) else some (-1, joinedFlag true true)
    else if c = joiner && many then some (0, joined)
    else none
  | tag digits letters => joinTag? digits letters c

end Opening

/-! ## Measuring -/

/-- What matters of the text after a character. -/
structure Sequel where
  /-- The selector that the text begins with. -/
  selector : Option Selector := none
  /-- The beginning of the text after the selector. -/
  opening : Opening := .apart
  deriving DecidableEq, Repr

namespace Sequel

/-- The opening for a character that the selector has no effect on. -/
def rest (after : Sequel) : Opening :=
  if after.selector.isSome && after.opening.takesPicture then .apart else after.opening

/-- A selector in front of an opening.  Letters are drawn together across it, and it
may belong to a picture before a joiner; anything else is drawn apart. -/
def select (selector : Selector) (opening : Opening) : Sequel :=
  match opening with
  | .alef | .ligature _ _ => ⟨some selector, opening⟩
  | .joined | .joinedKeycap =>
    if selector = .picture then ⟨some selector, opening⟩ else ⟨some selector, .apart⟩
  | _ => ⟨some selector, .apart⟩

/-- The columns that a character adds in front of a text, and the text with it. -/
def extend (after : Sequel) (c : Char) : Int × Sequel :=
  if after.selector = some .picture && becomesPicture c then
    (if after.opening.takesPicture then 0 else 2, { opening := .picture })
  else if after.selector = some .plain && becomesPlain c then (1, {})
  else if after.selector = some .wide && isQuotationMark c then (2, {})
  else
    match selector? c with
    | some selector => (0, select selector after.rest)
    | none =>
      match after.rest.join? c with
      | some (columns, opening) => (columns, { opening })
      | none => (columns c, { opening := .ofChar c })

end Sequel

/-- The columns of a text, and what matters of it for a character in front. -/
def measure (s : List Char) : Int × Sequel :=
  s.foldr
    (fun c after =>
      let (columns, sequel) := after.2.extend c
      (after.1 + columns, sequel))
    (0, {})

/-- The number of columns that a text takes. -/
def width (s : List Char) : Nat :=
  (measure s).1.toNat

end MessageTemplate.Text
