import DebugBridge.Json.Printer
import DebugBridge.Text.Quoted

/-!
# Values of a given shape

Reading fields out of a value, and what is reported of a value that has another shape.
-/

namespace DebugBridge.Json

/-- How a message names a value. -/
def phrase : Json → String
  | .null => "null"
  | .bool b => "boolean `" ++ (if b then "true" else "false") ++ "`"
  | .int n => "integer `" ++ String.ofList (signedDecimal n) ++ "`"
  | .float bits => "floating point `" ++ String.ofList (Decimal.render numbers bits) ++ "`"
  | .str s => "string " ++ Quoted.quote s
  | .arr _ => "sequence"
  | .obj _ => "map"

/-- Why a value has not the shape expected of it. -/
inductive ShapeError where
  | invalidType (found : Json) (expected : String)
  | invalidValue (found : Json) (expected : String)
  | invalidLength (found : Nat) (expected : String)
  | missingField (name : String)
deriving DecidableEq, Repr

/-- The wording of a shape error. -/
def ShapeError.message : ShapeError → String
  | .invalidType found expected =>
    "invalid type: " ++ found.phrase ++ ", expected " ++ expected
  | .invalidValue found expected =>
    "invalid value: " ++ found.phrase ++ ", expected " ++ expected
  | .invalidLength found expected =>
    "invalid length " ++ String.ofList (decimal found) ++ ", expected " ++ expected
  | .missingField name => "missing field `" ++ name ++ "`"

/-- A string, or the complaint that there is none. -/
def expectString : Json → Except ShapeError String
  | .str s => .ok s
  | v => .error (.invalidType v "a string")

/-- An integer of a signed word, below `2 ^ 63`, or the complaint that there is none. -/
def expectInt : Json → Except ShapeError Int
  | .int n => if n < 9223372036854775808 then .ok n else .error (.invalidValue (.int n) "i64")
  | v => .error (.invalidType v "i64")

/-- A string or null. -/
def expectStringOrNull : Json → Except ShapeError (Option String)
  | .null => .ok none
  | v => (expectString v).map some

/-- Strings in an array; the first value that is none is reported. -/
def expectStrings : Json → Except ShapeError (List String)
  | .arr items => items.mapM expectString
  | v => .error (.invalidType v "a sequence")

/-- A field that must be there. -/
def requireField {α : Type} (name : String) : Option α → Except ShapeError α
  | some a => .ok a
  | none => .error (.missingField name)

end DebugBridge.Json
