import DebugBridge.Error
import DebugBridge.Json.Shape

/-!
# Replies of the shell

What the kernel's shell answers to code that it was given to run. A reply is read from an object by its
names or from an array by position.
-/

namespace DebugBridge

/-- The reply to code. -/
structure ShellReply where
  status : String
  name : Option String
  value : Option String
  traceback : List String
deriving DecidableEq, Repr

namespace ShellReply

/-- The reply to code that ran. -/
def ok : ShellReply := ⟨"ok", none, none, []⟩

/-- Whether the code ran. -/
def isOk (r : ShellReply) : Bool :=
  r.status == "ok"

/-- The exception that a reply reports, if the code did not run. -/
def result (r : ShellReply) : Except Raised Unit :=
  if r.isOk then .ok ()
  else .error ⟨r.name.getD "", r.value.getD "", r.traceback⟩

/-- How a message names the expected value. -/
def shapeName : String := "struct ExecuteReply"

/-- The fields read so far; the status has no default. -/
structure Fields where
  status : Option String
  name : Option String
  value : Option String
  traceback : List String
deriving DecidableEq, Repr

/-- Takes in one member of an object; unknown ones are skipped. -/
def Fields.add (fields : Fields) (key : String) (v : Json) : Except Json.ShapeError Fields :=
  match key with
  | "status" => (Json.expectString v).map fun s => { fields with status := some s }
  | "ename" => (Json.expectStringOrNull v).map fun s => { fields with name := s }
  | "evalue" => (Json.expectStringOrNull v).map fun s => { fields with value := s }
  | "traceback" => (Json.expectStrings v).map fun ss => { fields with traceback := ss }
  | _ => .ok fields

/-- Takes in members in their order, up to the first of a wrong shape. -/
def Fields.addAll (fields : Fields) : Members → Except Json.ShapeError Fields
  | [] => .ok fields
  | (key, v) :: rest =>
    match fields.add key v with
    | .ok fields => fields.addAll rest
    | .error e => .error e

/-- A reply whose fields stand in an array. Fields at the end may be missing, all but the status. -/
def ofItems (items : List Json) : Except Json.ShapeError ShellReply :=
  match items with
  | [] => .error (.invalidLength 0 (shapeName ++ " with 4 elements"))
  | status :: rest => do
    let status ← Json.expectString status
    let name ← (rest[0]?).elim (.ok none) Json.expectStringOrNull
    let value ← (rest[1]?).elim (.ok none) Json.expectStringOrNull
    let traceback ← (rest[2]?).elim (.ok []) Json.expectStrings
    if 3 < rest.length then .error (.invalidLength items.length "fewer elements in array")
    else .ok ⟨status, name, value, traceback⟩

/-- Reads a reply from a value. -/
def ofJson? (v : Json) : Except Json.ShapeError ShellReply :=
  match v with
  | .obj members => do
    let fields ← Fields.addAll ⟨none, none, none, []⟩ members
    let status ← Json.requireField "status" fields.status
    .ok ⟨status, fields.name, fields.value, fields.traceback⟩
  | .arr items => ofItems items
  | v => .error (.invalidType v shapeName)

end ShellReply
end DebugBridge
