import MessageTemplate.Proofs.Text.Slice
import MessageTemplate.Template.Reader

/-!
# Reading with a cursor

A reading of a template can be written without the list of open styles: as procedures that call
each other and move one cursor through the text.  They take a run of characters from the front of
what is left, and a mark by cutting off the first byte.  A place is computed from the lengths in
bytes of the whole text and of what is left of it.

Nothing is assumed of the cursor here.  A cut inside a character or behind the end stops the
reading, and so does the place of a text that is no part of the source.  The procedures may also
call each other without end: a number says how many calls may lie inside each other, and a call
that lies deeper has no outcome.  Each byte that is cut off, each place that is asked for and each
call that comes back is noted.
-/

namespace MessageTemplate.Cursor

open Text
open Reader (isNameChar isKeywordChar isKeyChar isLiteral addText keyword? positionBound)

/-! ## Places from lengths -/

/-- The offset in bytes of the last line feed. -/
def lastLineFeed? (s : List Char) : Option Nat :=
  if '\n' ∈ s then some (byteLength (s.reverse.dropWhile (· != '\n')).tail) else none

/-- The place where `rest` begins in the source, which ends with as many bytes as `rest` has.
There is none when `rest` has more bytes than the source, or when a cut is not possible. -/
def place? (source rest : List Char) : Option Position :=
  if byteLength source < byteLength rest then none
  else do
    let (consumed, _) ← cut? source (byteLength source - byteLength rest)
    match lastLineFeed? consumed with
    | some offset =>
      let (_, lastLine) ← cut? consumed (offset + 1)
      return ⟨consumed.count '\n' + 1, lastLine.length + 1⟩
    | none => return ⟨consumed.count '\n' + 1, consumed.length + 1⟩

/-! ## Actions -/

/-- The procedures whose calls are noted. -/
inductive Routine where
  | nodes
  | token
  | index
  | typed
  | format
  | items
  | styles
  deriving DecidableEq, Repr

/-- What is noted about a reading. -/
inductive Event where
  /-- The first byte of the text is cut off. -/
  | sliced (text : List Char)
  /-- The place where the text begins is asked for. -/
  | located (text : List Char)
  /-- A call on the text `before` comes back, with a result or with a failure, and leaves the text
  `after`. -/
  | returned (routine : Routine) (before after : List Char) (succeeded : Bool)
  deriving DecidableEq, Repr

/-- Why a reading stops. -/
inductive Stop where
  | failed (error : ParseError)
  /-- A cut or a place that is not possible. -/
  | panicked
  deriving DecidableEq, Repr

structure State where
  /-- The text that is still to be read. -/
  input : List Char
  /-- The number of style lists that are open. -/
  depth : Nat
  /-- What has been noted, in order. -/
  events : List Event
  deriving DecidableEq, Repr

/-- An action on the cursor.  It comes to a result or stops, or it has no outcome at all. -/
abbrev Action := ExceptT Stop (StateT State Option)

variable {α : Type}

/-- A call that lies too deep. -/
def unfinished : Action α :=
  ExceptT.mk fun _ => none

/-- The text that is still to be read. -/
def input : Action (List Char) := do
  return (← get).input

/-- The number of style lists that are open. -/
def depth : Action Nat := do
  return (← get).depth

def moveTo (text : List Char) : Action Unit :=
  modify fun state => { state with input := text }

def note (event : Event) : Action Unit :=
  modify fun state => { state with events := state.events ++ [event] }

/-- Cuts off the first byte. -/
def sliceByte : Action Unit := do
  let text ← input
  note (.sliced text)
  match cut? text 1 with
  | some (_, rest) => moveTo rest
  | none => throw .panicked

/-- Fails with the place where the text begins. -/
def fail (source : List Char) (cause : Cause) (text : List Char) : Action α := do
  note (.located text)
  match place? source text with
  | some place => throw (.failed ⟨cause, place⟩)
  | none => throw .panicked

/-- Takes the longest run of a class. -/
def takeRun (p : Char → Bool) : Action (List Char) := do
  let text ← input
  moveTo (text.dropWhile p)
  return text.takeWhile p

/-- Takes the longest run of a class, which may not be empty: then nothing is taken. -/
def takeSome? (p : Char → Bool) : Action (Option (List Char)) := do
  let run ← takeRun p
  return if run.isEmpty then none else some run

def skipBlanks : Action Unit := do
  let _ ← takeRun isAsciiBlank

/-- Runs an action on a prepared state and touches the state again afterwards, whether the action
succeeds or not. -/
def around (enter : State → State) (leave : State → Bool → State → State) (action : Action α) :
    Action α :=
  ExceptT.mk fun before =>
    (action.run.run (enter before)).map fun (result, after) =>
      (result, leave before result.isOk after)

/-- Notes that the call of a procedure comes back. -/
def returning (routine : Routine) : Action α → Action α :=
  around id fun before succeeded after =>
    { after with
      events := after.events ++ [.returned routine before.input after.input succeeded] }

/-- Counts one more open style list as long as the action runs. -/
def inStyle : Action α → Action α :=
  around (fun before => { before with depth := before.depth + 1 })
    fun before _ after => { after with depth := before.depth + 1 - 1 }

/-! ## The procedures -/

section

variable (limit : Option Nat) (source : List Char)

/-- A colon and a name.  The colon is gone when there is no name behind it. -/
def namedIndex? : Action (Option (List Char)) := do
  match ← input with
  | ':' :: rest =>
    moveTo rest
    takeSome? isNameChar
  | _ => return none

/-- Reads an index in the token at `start`. -/
def index (start : List Char) : Action Index := returning .index do
  let text ← input
  match ← takeSome? Char.isDigit with
  | some digits =>
    let n := Nat.ofDigitChars 10 digits 0
    if n < positionBound then return .position n else fail source .missingIndex text
  | none =>
    match ← namedIndex? with
    | some name => return .named (String.ofList name)
    | none =>
      moveTo text
      if text.isEmpty then fail source .unterminatedToken start
      else fail source .missingIndex text

/-- Reads the name of a number format and the closing brace. -/
def format (start : List Char) : Action String := returning .format do
  skipBlanks
  let text ← input
  let name := (← takeSome? isNameChar).getD []
  skipBlanks
  match ← input with
  | [] => fail source .unterminatedToken start
  | c :: rest =>
    if c = '\x7d' then
      if name.isEmpty then fail source .noFormatName text
      else
        sliceByte
        return String.ofList name
    else fail source (.afterFormat c) (c :: rest)

/-- Reads the key of a style and the mark behind it. -/
def key (start : List Char) : Action String := do
  skipBlanks
  let text ← input
  let word := trimEnd ((← takeSome? isKeyChar).getD [])
  skipBlanks
  match ← input with
  | [] => fail source .unterminatedToken start
  | c :: rest =>
    if c = '#' then
      if word.isEmpty then fail source .emptyKey text
      else
        sliceByte
        return String.ofList word
    else if word.isEmpty then fail source .notAStyle text
    else fail source (.missingMark (String.ofList word)) (c :: rest)

mutual

/-- Nodes up to the end of their list. -/
def nodes (outermost : Bool) : Nat → Action (List Node)
  | 0 => unfinished
  | n + 1 => returning .nodes (nodesFrom outermost [] n)

/-- The nodes of a list behind those read so far, latest first. -/
def nodesFrom (outermost : Bool) (before : List Node) : Nat → Action (List Node)
  | 0 => unfinished
  | n + 1 => do
    let before := addText (← takeRun (isLiteral outermost)) before
    match ← input with
    | [] => return before.reverse
    | c :: rest =>
      if c = '\x7b' then
        let node ← token n
        nodesFrom outermost (node :: before) n
      else if c = '\x7d' ∧ outermost = true then fail source .unbalancedDelimiter (c :: rest)
      else return before.reverse

/-- A token from its opening brace on. -/
def token : Nat → Action Node
  | 0 => unfinished
  | n + 1 => returning .token do
    let start ← input
    sliceByte
    skipBlanks
    let index ← index source start
    skipBlanks
    match ← input with
    | [] => fail source .unterminatedToken start
    | c :: rest =>
      if c = '\x7d' then
        sliceByte
        return .param index
      else if c = ',' then
        sliceByte
        typed start index n
      else fail source (.unexpectedCharacter c) (c :: rest)

/-- What follows the comma behind an index. -/
def typed (start : List Char) (index : Index) : Nat → Action Node
  | 0 => unfinished
  | n + 1 => returning .typed do
    skipBlanks
    let text ← input
    let word := trimEnd (← takeRun isKeywordChar)
    match ← input with
    | [] => fail source .unterminatedToken start
    | c :: _ =>
      match keyword? word with
      | none => fail source (.unknownKeyword (String.ofList word)) text
      | some .number =>
        sliceByte
        if c = ',' then
          let name ← format source start
          return .number index (some name)
        else return .number index none
      | some (.styled kind) =>
        sliceByte
        if c = ',' then
          let styles ← styles start n
          return .styled kind index styles
        else
          match kind with
          | .choice | .map => fail source (.noStyles kind.keyword) text
          | .anchor | .link => return .styled kind index []

/-- The styles of the token at `start`, with its closing brace. -/
def styles (start : List Char) : Nat → Action (List (Style Node))
  | 0 => unfinished
  | n + 1 => returning .styles (stylesFrom start [] n)

/-- The styles behind those that are finished, latest first. -/
def stylesFrom (start : List Char) (finished : List (Style Node)) :
    Nat → Action (List (Style Node))
  | 0 => unfinished
  | n + 1 => do
    let word ← key source start
    let nodes ← items start n
    match ← input with
    | '|' :: _ =>
      sliceByte
      stylesFrom start (⟨word, nodes⟩ :: finished) n
    | '\x7d' :: _ =>
      sliceByte
      return (⟨word, nodes⟩ :: finished).reverse
    | _ => fail source .unterminatedToken start

/-- The items of a style of the token at `start`, one style list further in. -/
def items (start : List Char) : Nat → Action (List Node)
  | 0 => unfinished
  | n + 1 => returning .items do
    match limit.filter (· < (← depth) + 1) with
    | some bound => fail source (.nestingTooDeep bound) start
    | none => inStyle (nodes false n)

end

end

/-- Reads a template with at most `n` calls inside each other.  What it comes to stands with the
state of the cursor at its end. -/
def run (limit : Option Nat) (n : Nat) (source : String) :
    Option (Except Stop Template × State) :=
  (nodes limit source.toList true n).run.run ⟨source.toList, 0, []⟩

end MessageTemplate.Cursor
