import MessageTemplate.Text.Blank

/-!
# Places in a text

A place is named for people by its line and column, counted from one, and for
programs by its offset in bytes.  The line and column of a place depend only on
the text before it.
-/

namespace MessageTemplate

/-- A line and a column, both counted from one.  Columns count characters. -/
structure Position where
  line : Nat
  column : Nat
  deriving DecidableEq, Repr

namespace Position

/-- The place before the first character. -/
def start : Position := ⟨1, 1⟩

/-- The place after one more character: a line feed opens the next line. -/
def advance (p : Position) (c : Char) : Position :=
  if c = '\n' then ⟨p.line + 1, 1⟩ else ⟨p.line, p.column + 1⟩

/-- The place after `consumed`. -/
def after (consumed : List Char) : Position :=
  consumed.foldl advance start

@[simp] theorem after_nil : after [] = start := rfl

/-- The place after a text and one more character. -/
@[simp] theorem after_concat (s : List Char) (c : Char) : after (s ++ [c]) = (after s).advance c := by
  simp [after]

end Position

namespace Text

/-! ## Lines and bytes -/

/-- The length of a text in bytes of UTF-8. -/
def byteLength (s : List Char) : Nat :=
  (s.map Char.utf8Size).foldr (· + ·) 0

/-- The pieces of a text between its line feeds; there is always at least one. -/
def pieces : List Char → List (List Char)
  | [] => [[]]
  | c :: s =>
    if c = '\n' then [] :: pieces s
    else match pieces s with
      | [] => [[c]]
      | p :: ps => (c :: p) :: ps

/-- Drops one carriage return at the end. -/
def dropReturn (s : List Char) : List Char :=
  if s.getLast? = some '\r' then s.dropLast else s

/-- The lines of a text.  A line ends at a line feed, with the carriage return
before it if there is one.  Text after the last line feed is a line of its own
unless it is empty, and keeps its carriage return. -/
def lines (s : List Char) : List (List Char) :=
  let ps := pieces s
  let finished := ps.dropLast.map dropReturn
  match ps.getLast? with
  | some [] => finished
  | some rest => finished ++ [rest]
  | none => finished

@[simp] theorem byteLength_nil : byteLength [] = 0 := rfl

@[simp] theorem byteLength_cons (c : Char) (s : List Char) :
    byteLength (c :: s) = c.utf8Size + byteLength s := by
  simp [byteLength]

@[simp] theorem byteLength_append (s t : List Char) :
    byteLength (s ++ t) = byteLength s + byteLength t := by
  induction s with
  | nil => simp
  | cons c s ih => simp [ih, Nat.add_assoc]

theorem pieces_ne_nil (s : List Char) : pieces s ≠ [] := by
  cases s with
  | nil => simp [pieces]
  | cons c s =>
    rw [pieces]
    split
    · simp
    · split <;> simp

end Text

end MessageTemplate
