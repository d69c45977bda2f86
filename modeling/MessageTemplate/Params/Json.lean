import MessageTemplate.Json.Reader
import MessageTemplate.Params

/-!
# Parameters from JSON

A JSON list gives positional parameters and a JSON object named ones.  Their
values are booleans, numbers, strings and objects of such values.  Whole numbers
that fit into 64 bits are kept, all other numbers are in double precision.
-/

namespace MessageTemplate

namespace Value

mutual

/-- The value that a JSON value stands for. -/
def ofJson? : Json → Option Value
  | .bool b => some (.bool b)
  | .integer n =>
    if Int64.minValue.toInt ≤ n ∧ n ≤ Int64.maxValue.toInt then some (.integer (.ofInt n))
    else some (.float (.ofInt binary64 n))
  | .float x => some (.float x)
  | .string s => some (.text s)
  | .object members => (ofMembers? members).map ofPairs
  | .null | .array _ => none

/-- The values of all members. -/
def ofMembers? : List (String × Json) → Option (List (String × Value))
  | [] => some []
  | entry :: rest => do
    let value ← ofMember? entry
    let values ← ofMembers? rest
    return value :: values

/-- The value of a member. -/
def ofMember? : String × Json → Option (String × Value)
  | (key, json) => (ofJson? json).map (key, ·)

end

end Value

namespace Params

/-- Why a text does not give parameters. -/
inductive Fault where
  /-- The text is not JSON. -/
  | notJson
  /-- The text is JSON of another shape. -/
  | wrongShape
  deriving DecidableEq, Repr

/-- The parameters that a JSON value stands for.  The last of several members
with one key counts. -/
def ofJson? : Json → Option Params
  | .array items => (items.mapM Value.ofJson?).map positional
  | .object members => (Value.ofMembers? members).map fun pairs => named (Fields.ofPairs pairs)
  | _ => Option.none

/-- Reads parameters from JSON text, the first value of which is read by `first`.  The
shape of this value is looked at before the text after it. -/
def ofTextWith (first : List Char → Option (Json × List Char)) (text : String) :
    Except Fault Params :=
  match first text.toList with
  | Option.none => .error .notJson
  | some (json, rest) =>
    match ofJson? json with
    | Option.none => .error .wrongShape
    | some params => if Json.isBlankText rest then .ok params else .error .notJson

/-- Reads parameters from JSON text. -/
def ofText : String → Except Fault Params :=
  ofTextWith Json.first?

end Params

end MessageTemplate
