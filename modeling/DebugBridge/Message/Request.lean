import DebugBridge.Error
import DebugBridge.Json.Shape

/-!
# Requests

A request of the debug protocol: its number, its command, its arguments and every other field as it came,
so that it can be passed on without loss. `ofJson?` reads it from a value and `toJson` gives the value
back.
-/

namespace DebugBridge

/-- A request. `arguments` is null if there are none; `extra` holds the fields besides the four of
every request. -/
structure Request where
  seq : Int
  command : String
  arguments : Json
  extra : Members
deriving DecidableEq, Repr

namespace Request

/-- The number after another one. Numbers are signed words of 64 bits, and the greatest is followed by the
least. -/
def seqAfter (seq : Int) : Int :=
  if seq < 9223372036854775807 then seq + 1 else -9223372036854775808

/-- The number after any but the greatest is one more. -/
theorem seqAfter_of_lt {seq : Int} (small : seq < 9223372036854775807) : seqAfter seq = seq + 1 :=
  if_pos small

/-- The fields that every request has. -/
def fieldNames : List String := ["seq", "type", "command", "arguments"]

/-- The fields read so far. -/
structure Fields where
  seq : Option Int
  type : Option String
  command : Option String
deriving DecidableEq, Repr

/-- Takes in one member of the object; members outside the four are left for `extra`. -/
def Fields.add (fields : Fields) (name : String) (v : Json) : Except Json.ShapeError Fields :=
  match name with
  | "seq" => (Json.expectInt v).map fun n => { fields with seq := some n }
  | "type" => (Json.expectString v).map fun s => { fields with type := some s }
  | "command" => (Json.expectString v).map fun s => { fields with command := some s }
  | _ => .ok fields

/-- Takes in members in their order, up to the first of a wrong shape. -/
def Fields.addAll (fields : Fields) : Members → Except Json.ShapeError Fields
  | [] => .ok fields
  | (name, v) :: rest =>
    match fields.add name v with
    | .ok fields => fields.addAll rest
    | .error e => .error e

/-- Reads the fields of an object. A field of a wrong shape is reported before a missing one. -/
def readFields (members : Members) : Except Json.ShapeError (String × Request) :=
  match Fields.addAll ⟨none, none, none⟩ members with
  | .error e => .error e
  | .ok fields =>
    match fields.seq, fields.type, fields.command with
    | none, _, _ => .error (.missingField "seq")
    | some _, none, _ => .error (.missingField "type")
    | some _, some _, none => .error (.missingField "command")
    | some seq, some type, some command =>
      .ok (type, ⟨seq, command, (members.lookup "arguments").getD .null,
        members.filter fun m => m.1 ∉ fieldNames⟩)

/-- Reads a request from a value. -/
def ofJson? (message : Json) : Except Error Request :=
  match message with
  | .obj members =>
    match readFields members with
    | .error e => .error (.malformed (.described e.message))
    | .ok (type, request) =>
      if type = "request" then .ok request else .error (.malformed (.notRequest type))
  | v => .error (.malformed (.described (Json.ShapeError.invalidType v "struct DapRequest").message))

/-- The value of a request. Null arguments are left out. -/
def toJson (r : Request) : Json :=
  let arguments := if r.arguments = .null then [] else [("arguments", r.arguments)]
  Json.ofMembers
    ([("seq", .int r.seq), ("type", .str "request"), ("command", .str r.command)] ++ arguments ++
      r.extra)

/-- An argument, if the arguments are an object that has it. -/
def argument? (r : Request) (name : String) : Option Json :=
  r.arguments.get? name

/-- An argument that must be a string. -/
def stringArgument (r : Request) (name : String) : Except Error String :=
  match (r.argument? name).bind Json.asString? with
  | some s => .ok s
  | none => .error (.missingArgument name)

/-- An argument that must be an integer. -/
def intArgument (r : Request) (name : String) : Except Error Int :=
  match (r.argument? name).bind Json.asInt? with
  | some n => .ok n
  | none => .error (.missingArgument name)

/-- The request with its arguments changed. Arguments that are no object give way to an empty one. -/
def updateArguments (r : Request) (f : Members → Members) : Request :=
  { r with arguments := .obj (f r.arguments.membersD) }

end Request
end DebugBridge
