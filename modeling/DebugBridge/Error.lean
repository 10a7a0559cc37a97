import DebugBridge.Duration
import DebugBridge.Json.Number

/-!
# Errors

Every way in which an operation of the bridge fails, as its cause. `Error.message` is the one place that
words them.
-/

namespace DebugBridge

/-- What the file system or a stream reports. -/
inductive IoKind where
  | unexpectedEnd
  | invalidData
  | alreadyExists
  | notFound
  | permissionDenied
  | other
deriving DecidableEq, Repr

/-- An exception that the interpreter raised. -/
structure Raised where
  name : String
  value : String
  traceback : List String
deriving DecidableEq, Repr

namespace Raised

/-- An exception without a traceback. -/
def plain (name value : String) : Raised := ⟨name, value, []⟩

/-- The name and the value of an exception. -/
def message (x : Raised) : String :=
  x.name ++ ": " ++ x.value

end Raised

/-- What is wrong with a message from a peer. -/
inductive Defect where
  /-- A header line whose length is no number. -/
  | badHeader (line : String)
  /-- A header that gives no length. -/
  | noLength
  /-- A stream that ends within a header. -/
  | cutHeader
  /-- A request whose type is another one. -/
  | notRequest (type : String)
  /-- A defect by its description. -/
  | described (text : String)
deriving DecidableEq, Repr

/-- The wording of a defect. -/
def Defect.message : Defect → String
  | .badHeader line => "bad header: " ++ line
  | .noLength => "missing Content-Length header"
  | .cutHeader => "connection closed inside a header"
  | .notRequest type => "expect a request, got `" ++ type ++ "`"
  | .described text => text

/-- Why an operation failed. -/
inductive Error where
  | io (kind : IoKind) (text : String)
  | json (cause : Json.ReadError)
  | addressInUse (endpoint : String)
  | endpointNotBound (endpoint : String)
  | notConnected
  | disconnected (endpoint : String)
  | timeout (waited : Duration)
  | adapterUnreachable (address : String)
  | malformed (defect : Defect)
  | missingArgument (name : String)
  | noFreePort (first last : Nat)
  | bootstrap (exception : Raised)
  | interpreter (exception : Raised)
  | slotMissing (name : String)
  | notStarted
  | worker (text : String)
  /-- A length for which there is no room. It is nobody's answer: who runs into it is gone at once. -/
  | capacity
deriving DecidableEq, Repr

/-- Whether two results are the same can be decided. -/
instance (priority := 1100) decidableEqResult {ε α : Type} [DecidableEq ε] [DecidableEq α] :
    DecidableEq (Except ε α)
  | .error e, .error e' => decidable_of_iff (e = e') ⟨congrArg _, Except.error.inj⟩
  | .ok a, .ok a' => decidable_of_iff (a = a') ⟨congrArg _, Except.ok.inj⟩
  | .error _, .ok _ => .isFalse fun same => by cases same
  | .ok _, .error _ => .isFalse fun same => by cases same

namespace Error

/-- The wording of an error. -/
def message : Error → String
  | .io _ text => text
  | .json .cutShort => "the text ends within a value"
  | .json .illFormed => "the text is no value"
  | .addressInUse endpoint => "endpoint " ++ endpoint ++ " already in use"
  | .endpointNotBound endpoint => "endpoint " ++ endpoint ++ " is not bound"
  | .notConnected => "socket is not bound or connected"
  | .disconnected endpoint => "peer of endpoint " ++ endpoint ++ " is gone"
  | .timeout waited => "no message received in " ++ waited.text
  | .adapterUnreachable address => "external debug adapter at " ++ address ++ " is unreachable"
  | .malformed defect => "malformed DAP message: " ++ defect.message
  | .missingArgument name => "argument `" ++ name ++ "` is missing or has a wrong type"
  | .noFreePort first last =>
    "no free port in range " ++ String.ofList (decimal first) ++ "..=" ++
      String.ofList (decimal last)
  | .bootstrap exception => "external debug adapter failed to start: " ++ exception.message
  | .interpreter exception => exception.message
  | .slotMissing name => "synthetic global `" ++ name ++ "` not found"
  | .notStarted => "debug session is not started"
  | .worker text => "transport worker: " ++ text
  | .capacity => "capacity overflow"

/-- Whether the transport is beyond use. All other errors concern one request only. -/
def isFatal : Error → Bool
  | .io _ _ | .addressInUse _ | .endpointNotBound _ | .notConnected | .disconnected _
  | .adapterUnreachable _ | .noFreePort _ _ | .worker _ | .capacity => true
  | .json _ | .timeout _ | .malformed _ | .missingArgument _ | .bootstrap _ | .interpreter _
  | .slotMissing _ | .notStarted => false

end Error
end DebugBridge
