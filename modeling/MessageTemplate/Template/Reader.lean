import MessageTemplate.Template.Fault

/-!
# Reading templates

The reader goes through a text once, from left to right.  It keeps the styles
that are open, innermost first, and the nodes read so far in the innermost of
them.  Each step takes a run of literal text and then what ends it: the head of
a token, the mark between two styles, a closing brace or the end of the text.

Every fault is raised by the step that meets it and carries the rest of the text
from the place where it belongs, so the reader itself counts no lines.
-/

namespace MessageTemplate

namespace Reader

/-- A cause, and the rest of the text from the place of the fault. -/
structure Failure where
  cause : Cause
  rest : List Char
  deriving DecidableEq, Repr

/-! ## The parts of a token -/

/-- A character of a name or of a number format. -/
def isNameChar (c : Char) : Bool :=
  c.isAlphanum || c == '_'

/-- Positions are below this bound. -/
def positionBound : Nat := UInt64.size

/-- Reads an index: a run of digits below the bound, or a colon and a name. -/
def index? (s : List Char) : Option (Index × List Char) :=
  let digits := s.takeWhile Char.isDigit
  if digits.isEmpty then
    match s with
    | ':' :: rest =>
      let name := rest.takeWhile isNameChar
      if name.isEmpty then none
      else some (.named (String.ofList name), rest.dropWhile isNameChar)
    | _ => none
  else
    let n := Nat.ofDigitChars 10 digits 0
    if n < positionBound then some (.position n, s.dropWhile Char.isDigit) else none

/-- The meaning of a keyword. -/
inductive Keyword where
  | number
  | styled (kind : Kind)
  deriving DecidableEq, Repr

/-- The keyword that a text spells. -/
def keyword? (s : List Char) : Option Keyword :=
  match String.ofList s with
  | "number" => some .number
  | "choice" => some (.styled .choice)
  | "map" => some (.styled .map)
  | "anchor" => some (.styled .anchor)
  | "link" => some (.styled .link)
  | _ => none

/-- What the head of a token comes to: the whole token, or a token whose styles
follow. -/
inductive Head where
  | whole (node : Node)
  | opening (kind : Kind) (index : Index)

/-- Reads the name of a number format and the closing brace.  `start` is the
text from the opening brace of the token. -/
def format (start s : List Char) : Except Failure (String × List Char) :=
  let s := Text.skipBlanks s
  let name := s.takeWhile isNameChar
  match Text.skipBlanks (s.dropWhile isNameChar) with
  | [] => .error ⟨.unterminatedToken, start⟩
  | c :: rest =>
    if c = '\x7d' then
      if name.isEmpty then .error ⟨.noFormatName, s⟩ else .ok (String.ofList name, rest)
    else .error ⟨.afterFormat c, c :: rest⟩

/-- A character of a keyword. -/
def isKeywordChar (c : Char) : Bool :=
  c != ',' && c != '\x7d'

/-- Reads what follows the comma after an index. -/
def typed (start : List Char) (index : Index) (s : List Char) :
    Except Failure (Head × List Char) :=
  let s := Text.skipBlanks s
  let word := Text.trimEnd (s.takeWhile isKeywordChar)
  match s.dropWhile isKeywordChar with
  | [] => .error ⟨.unterminatedToken, start⟩
  | c :: rest =>
    match keyword? word with
    | none => .error ⟨.unknownKeyword (String.ofList word), s⟩
    | some .number =>
      if c = ',' then do
        let (name, rest) ← format start rest
        return (.whole (.number index (some name)), rest)
      else .ok (.whole (.number index none), rest)
    | some (.styled kind) =>
      if c = ',' then .ok (.opening kind index, rest)
      else match kind with
        | .choice | .map => .error ⟨.noStyles kind.keyword, s⟩
        | .anchor | .link => .ok (.whole (.styled kind index []), rest)

/-- Reads the head of a token after its opening brace. -/
def head (start s : List Char) : Except Failure (Head × List Char) :=
  let s := Text.skipBlanks s
  match index? s with
  | none => .error (if s.isEmpty then ⟨.unterminatedToken, start⟩ else ⟨.missingIndex, s⟩)
  | some (index, rest) =>
    match Text.skipBlanks rest with
    | [] => .error ⟨.unterminatedToken, start⟩
    | c :: rest =>
      if c = '\x7d' then .ok (.whole (.param index), rest)
      else if c = ',' then typed start index rest
      else .error ⟨.unexpectedCharacter c, c :: rest⟩

/-! ## Styles -/

/-- A character of a style key. -/
def isKeyChar (c : Char) : Bool :=
  c != '#' && c != '|' && c != '\x7b' && c != '\x7d'

/-- Reads the key of a style and the mark after it. -/
def key (start s : List Char) : Except Failure (String × List Char) :=
  let s := Text.skipBlanks s
  let word := Text.trimEnd (s.takeWhile isKeyChar)
  match s.dropWhile isKeyChar with
  | [] => .error ⟨.unterminatedToken, start⟩
  | c :: rest =>
    if c = '#' then
      if word.isEmpty then .error ⟨.emptyKey, s⟩ else .ok (String.ofList word, rest)
    else if word.isEmpty then .error ⟨.notAStyle, s⟩
    else .error ⟨.missingMark (String.ofList word), c :: rest⟩

/-- Reads the key of a style that lies inside `depth` other style lists, and
refuses one that is nested too deeply. -/
def nestedKey (limit : Option Nat) (depth : Nat) (start s : List Char) :
    Except Failure (String × List Char) := do
  let (word, rest) ← key start s
  match limit with
  | some limit =>
    if limit < depth + 1 then .error ⟨.nestingTooDeep limit, start⟩ else .ok (word, rest)
  | none => .ok (word, rest)

/-- A style whose items are being read, with the token that it belongs to. -/
structure OpenStyle where
  /-- The nodes before the token, latest first. -/
  before : List Node
  kind : Kind
  index : Index
  /-- The text from the opening brace of the token. -/
  start : List Char
  /-- The finished styles of the token, latest first. -/
  finished : List (Style Node)
  key : String

/-- The styles of the token once the open one is finished, latest first. -/
def OpenStyle.finish (style : OpenStyle) (items : List Node) : List (Style Node) :=
  ⟨style.key, items.reverse⟩ :: style.finished

/-- The token once its last style is finished. -/
def OpenStyle.token (style : OpenStyle) (items : List Node) : Node :=
  .styled style.kind style.index (style.finish items).reverse

/-! ## The readers leave a suffix -/

theorem index?_suffix {s rest : List Char} {index : Index} (h : index? s = some (index, rest)) :
    rest <:+ s := by
  unfold index? at h
  dsimp only at h
  split at h
  · split at h
    · split at h
      · simp at h
      · simp only [Option.some.injEq, Prod.mk.injEq] at h
        obtain ⟨-, rfl⟩ := h
        exact (List.dropWhile_suffix _).trans (List.suffix_cons _ _)
    · simp at h
  · split at h
    · simp only [Option.some.injEq, Prod.mk.injEq] at h
      obtain ⟨-, rfl⟩ := h
      exact List.dropWhile_suffix _
    · simp at h

/-- What follows the first character of a rest is a rest too. -/
theorem suffix_of_cons {c : Char} {rest s : List Char} (h : c :: rest <:+ s) : rest <:+ s :=
  (List.suffix_cons c rest).trans h

theorem format_suffix {start s rest : List Char} {name : String}
    (h : format start s = .ok (name, rest)) : rest <:+ s := by
  unfold format at h
  dsimp only at h
  split at h
  · simp at h
  · next c r hr =>
    split at h
    · split at h
      · simp at h
      · simp only [Except.ok.injEq, Prod.mk.injEq] at h
        obtain ⟨-, rfl⟩ := h
        apply suffix_of_cons (c := c)
        rw [← hr]
        exact (Text.skipBlanks_suffix _).trans
          ((List.dropWhile_suffix _).trans (Text.skipBlanks_suffix _))
    · simp at h

theorem typed_suffix {start s rest : List Char} {index : Index} {token : Head}
    (h : typed start index s = .ok (token, rest)) : rest <:+ s := by
  unfold typed at h
  dsimp only at h
  split at h
  · simp at h
  · next c r hr =>
    have hrs : r <:+ s := by
      apply suffix_of_cons (c := c)
      rw [← hr]
      exact (List.dropWhile_suffix _).trans (Text.skipBlanks_suffix _)
    split at h
    · simp at h
    · split at h
      · cases hf : format start r with
        | error e => simp [hf, bind, Except.bind] at h
        | ok result =>
          simp only [hf, bind, Except.bind, pure, Except.pure, Except.ok.injEq,
            Prod.mk.injEq] at h
          obtain ⟨-, rfl⟩ := h
          exact (format_suffix hf).trans hrs
      · simp only [Except.ok.injEq, Prod.mk.injEq] at h
        exact h.2 ▸ hrs
    · split at h
      · simp only [Except.ok.injEq, Prod.mk.injEq] at h
        exact h.2 ▸ hrs
      · split at h
        · simp at h
        · simp at h
        · simp only [Except.ok.injEq, Prod.mk.injEq] at h
          exact h.2 ▸ hrs
        · simp only [Except.ok.injEq, Prod.mk.injEq] at h
          exact h.2 ▸ hrs

theorem head_suffix {start s rest : List Char} {token : Head}
    (h : head start s = .ok (token, rest)) : rest <:+ s := by
  unfold head at h
  dsimp only at h
  split at h
  · simp at h
  · next index r hi =>
    split at h
    · simp at h
    · next c r' hr =>
      have hrs : r' <:+ s := by
        apply suffix_of_cons (c := c)
        rw [← hr]
        exact (Text.skipBlanks_suffix _).trans
          ((index?_suffix hi).trans (Text.skipBlanks_suffix _))
      split at h
      · simp only [Except.ok.injEq, Prod.mk.injEq] at h
        exact h.2 ▸ hrs
      · split at h
        · exact (typed_suffix h).trans hrs
        · simp at h

theorem key_suffix {start s rest : List Char} {word : String}
    (h : key start s = .ok (word, rest)) : rest <:+ s := by
  unfold key at h
  dsimp only at h
  split at h
  · simp at h
  · next c r hr =>
    split at h
    · split at h
      · simp at h
      · simp only [Except.ok.injEq, Prod.mk.injEq] at h
        rw [← h.2]
        apply suffix_of_cons (c := c)
        rw [← hr]
        exact (List.dropWhile_suffix _).trans (Text.skipBlanks_suffix _)
    · split at h <;> simp at h

theorem nestedKey_suffix {limit : Option Nat} {depth : Nat} {start s rest : List Char}
    {word : String} (h : nestedKey limit depth start s = .ok (word, rest)) : rest <:+ s := by
  unfold nestedKey at h
  cases hk : key start s with
  | error e => simp [hk, bind, Except.bind] at h
  | ok result =>
    simp only [hk, bind, Except.bind] at h
    split at h
    · split at h
      · simp at h
      · simp only [Except.ok.injEq, Prod.mk.injEq] at h
        exact h.2 ▸ key_suffix hk
    · simp only [Except.ok.injEq, Prod.mk.injEq] at h
      exact h.2 ▸ key_suffix hk

/-! ## The reader -/

/-- A character of literal text.  Inside a style the mark between styles is not
one. -/
def isLiteral (outermost : Bool) (c : Char) : Bool :=
  c != '\x7b' && c != '\x7d' && (outermost || c != '|')

/-- Adds a run of literal text to the nodes read so far, latest first. -/
def addText (text : List Char) (nodes : List Node) : List Node :=
  if text.isEmpty then nodes else .text (String.ofList text) :: nodes

/-- The reader between two steps. -/
structure State where
  /-- The open styles, innermost first. -/
  opened : List OpenStyle
  /-- The nodes of the innermost style so far, latest first. -/
  nodes : List Node
  /-- The text that is still to be read. -/
  rest : List Char

/-- What a step comes to: the reader goes on, or the template is complete. -/
inductive Progress where
  | reading (state : State)
  | finished (template : Template)

/-- Reads a whole token, or the head of a token and the key of its first style.
`start` is the text from the opening brace of the token. -/
def openToken (limit : Option Nat) (opened : List OpenStyle) (nodes : List Node)
    (start s : List Char) : Except Failure Progress :=
  match head start s with
  | .error failure => .error failure
  | .ok (.whole node, rest) => .ok (.reading ⟨opened, node :: nodes, rest⟩)
  | .ok (.opening kind index, rest) =>
    match nestedKey limit opened.length start rest with
    | .error failure => .error failure
    | .ok (key, rest) =>
      .ok (.reading ⟨⟨nodes, kind, index, start, [], key⟩ :: opened, [], rest⟩)

/-- Finishes the innermost style and reads the key of the next one. -/
def nextStyle (limit : Option Nat) (style : OpenStyle) (outer : List OpenStyle)
    (nodes : List Node) (s : List Char) : Except Failure Progress :=
  match nestedKey limit outer.length style.start s with
  | .error failure => .error failure
  | .ok (key, rest) =>
    .ok (.reading ⟨{ style with finished := style.finish nodes, key } :: outer, [], rest⟩)

/-- Goes on at the character `c` that ends a run of literal text. -/
def delimiter (limit : Option Nat) (opened : List OpenStyle) (nodes : List Node) (c : Char)
    (rest : List Char) : Except Failure Progress :=
  if c = '\x7b' then openToken limit opened nodes (c :: rest) rest
  else
    match opened with
    | [] => .error ⟨.unbalancedDelimiter, c :: rest⟩
    | style :: outer =>
      if c = '|' then nextStyle limit style outer nodes rest
      else .ok (.reading ⟨outer, style.token nodes :: style.before, rest⟩)

/-- Takes a run of literal text and goes on at what ends it. -/
def step (limit : Option Nat) (state : State) : Except Failure Progress :=
  let literal := isLiteral state.opened.isEmpty
  let nodes := addText (state.rest.takeWhile literal) state.nodes
  match state.rest.dropWhile literal with
  | [] =>
    match state.opened with
    | [] => .ok (.finished nodes.reverse)
    | style :: _ => .error ⟨.unterminatedToken, style.start⟩
  | c :: rest => delimiter limit state.opened nodes c rest

/-! ## Every step takes at least one character -/

theorem openToken_suffix {limit : Option Nat} {opened : List OpenStyle} {nodes : List Node}
    {start s : List Char} {next : State}
    (h : openToken limit opened nodes start s = .ok (.reading next)) : next.rest <:+ s := by
  unfold openToken at h
  split at h
  · simp at h
  · next hh =>
    simp only [Except.ok.injEq, Progress.reading.injEq] at h
    subst h
    exact head_suffix hh
  · next hh =>
    split at h
    · simp at h
    · next hk =>
      simp only [Except.ok.injEq, Progress.reading.injEq] at h
      subst h
      exact (nestedKey_suffix hk).trans (head_suffix hh)

theorem nextStyle_suffix {limit : Option Nat} {style : OpenStyle} {outer : List OpenStyle}
    {nodes : List Node} {s : List Char} {next : State}
    (h : nextStyle limit style outer nodes s = .ok (.reading next)) : next.rest <:+ s := by
  unfold nextStyle at h
  split at h
  · simp at h
  · next hk =>
    simp only [Except.ok.injEq, Progress.reading.injEq] at h
    subst h
    exact nestedKey_suffix hk

theorem delimiter_suffix {limit : Option Nat} {opened : List OpenStyle} {nodes : List Node}
    {c : Char} {rest : List Char} {next : State}
    (h : delimiter limit opened nodes c rest = .ok (.reading next)) : next.rest <:+ rest := by
  unfold delimiter at h
  split at h
  · exact openToken_suffix h
  · split at h
    · simp at h
    · split at h
      · exact nextStyle_suffix h
      · simp only [Except.ok.injEq, Progress.reading.injEq] at h
        subst h
        exact List.suffix_rfl

theorem step_length_lt {limit : Option Nat} {state next : State}
    (h : step limit state = .ok (.reading next)) : next.rest.length < state.rest.length := by
  have hdrop := List.dropWhile_suffix (isLiteral state.opened.isEmpty) (l := state.rest)
  unfold step at h
  dsimp only at h
  split at h
  · split at h <;> simp at h
  · next hr =>
    rw [hr] at hdrop
    have hlt := hdrop.length_le
    have hle := (delimiter_suffix h).length_le
    simp only [List.length_cons] at hlt
    omega

/-- Steps until the template is complete or a fault is met. -/
def run (limit : Option Nat) (state : State) : Except Failure Template :=
  match _step : step limit state with
  | .error failure => .error failure
  | .ok (.finished template) => .ok template
  | .ok (.reading next) => run limit next
termination_by state.rest.length
decreasing_by exact step_length_lt _step

/-- The place in `source` where the text `rest` begins. -/
def placeOf (source rest : List Char) : Position :=
  .after (source.take (source.length - rest.length))

/-- The error that a failure in `source` is reported as. -/
def Failure.toError (source : List Char) (failure : Failure) : ParseError :=
  ⟨failure.cause, placeOf source failure.rest⟩

end Reader

namespace Template

/-- Reads a template in which at most `limit` style lists lie inside each other,
or any number when there is no limit. -/
def read (limit : Option Nat) (source : String) : Except ParseError Template :=
  (Reader.run limit ⟨[], [], source.toList⟩).mapError (Reader.Failure.toError source.toList)

/-- The number of style lists that may lie inside each other. -/
def maxNesting : Nat := 128

/-- Reads a template. -/
def parse (source : String) : Except ParseError Template :=
  read (some maxNesting) source

end Template

end MessageTemplate
