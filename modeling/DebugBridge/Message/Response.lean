import DebugBridge.Message.Request

/-!
# Responses

A response that the bridge itself gives to a request, under the request's own number.
-/

namespace DebugBridge

/-- A response. The text tells why a request failed, the body holds what it asked for. -/
structure Response where
  seq : Int
  success : Bool
  command : String
  text : Option String
  body : Option Json
deriving DecidableEq, Repr

namespace Response

/-- A successful response to a request. -/
def succeed (r : Request) (body : Option Json) : Response :=
  ⟨r.seq, true, r.command, none, body⟩

/-- A response that tells why a request failed. -/
def fail (r : Request) (text : String) : Response :=
  ⟨r.seq, false, r.command, some text, none⟩

/-- The number of any message, zero if it has none. -/
def seqOf (message : Json) : Int :=
  (message.getInt? "seq").getD 0

/-- The command of any message, empty if it has none. -/
def commandOf (message : Json) : String :=
  (message.getString? "command").getD ""

/-- A response that tells why a message failed, which need not be a request. -/
def failFor (message : Json) (text : String) : Response :=
  ⟨seqOf message, false, commandOf message, some text, none⟩

/-- The value of a response. A text and a body that are absent are left out. -/
def toJson (r : Response) : Json :=
  Json.ofMembers
    ([("seq", .int r.seq), ("type", .str "response"), ("request_seq", .int r.seq),
      ("success", .bool r.success), ("command", .str r.command)] ++
      (r.text.map fun t => ("message", .str t)).toList ++
      (r.body.map fun b => ("body", b)).toList)

end Response
end DebugBridge
