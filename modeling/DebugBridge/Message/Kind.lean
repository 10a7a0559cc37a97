import DebugBridge.Json.Value

/-!
# Kinds of messages

The three kinds of messages of the debug protocol, told by the `type` field.
-/

namespace DebugBridge

/-- The kind of a message. -/
inductive Kind where
  | request
  | response
  | event
deriving DecidableEq, Repr

namespace Kind

/-- The name of a kind in the `type` field. -/
def name : Kind → String
  | .request => "request"
  | .response => "response"
  | .event => "event"

/-- The kind with a name. -/
def ofName? (s : String) : Option Kind :=
  [request, response, event].find? fun k => k.name = s

/-- The kind of a message, if it is one of the three. -/
def of? (message : Json) : Option Kind :=
  (message.getString? "type").bind ofName?

end Kind
end DebugBridge
