import DebugBridge.Json.Printer
import DebugBridge.Json.Reader
import DebugBridge.Message.Kind
import DebugBridge.Message.Response

/-!
# The relay

The relay stands between the control side and the adapter. It passes requests on, passes responses back,
publishes events and refuses the adapter's own requests. It also completes the configuration for the front
end: after an `attach`, the event `initialized` makes it send `configurationDone`, and the response to that
one goes to nobody. `react` takes one input and gives what the relay sends on each side; a write to the adapter
can fail, and an input makes it write once at most. `step` is the case in which the write succeeds.
-/

namespace DebugBridge

/-- How far the configuration has come. -/
inductive Phase where
  /-- Nothing is to be done. -/
  | idle
  /-- An `attach` with this number was passed on, and `initialized` is awaited. -/
  | attached (seq : Int)
  /-- The relay sent a `configurationDone` with this number and awaits its response. -/
  | configuring (seq : Int)
deriving DecidableEq, Repr

/-- The state of the relay. `parent` is the header under which events are published, `headers` are the
frames that came for it and have not been read. -/
structure Relay where
  parent : Json
  headers : List Bytes
  adapterAlive : Bool
  phase : Phase
deriving DecidableEq, Repr

namespace Relay

/-- What reaches the relay. -/
inductive Input where
  /-- A frame with the header of the requests after it. -/
  | header (frame : Bytes)
  /-- A frame with a request of the control side. -/
  | request (frame : Bytes)
  /-- A message of the adapter. -/
  | adapter (message : Json)
  /-- The end of the adapter's stream. -/
  | adapterLost
deriving DecidableEq, Repr

/-- What the relay does. -/
inductive Output where
  /-- A message is written to the adapter. -/
  | write (message : Json)
  /-- Writing a message to the adapter fails. -/
  | unwritten (message : Json)
  /-- A message goes back to the control side. -/
  | reply (message : Json)
  /-- An event becomes known within the bridge. -/
  | observe (event : Json)
  /-- An event is published under a header. -/
  | publish (header event : Json)
deriving DecidableEq, Repr

/-- A relay with a new connection. -/
def start : Relay := ⟨.null, [], true, .idle⟩

/-- What a request is answered with once the adapter is lost. -/
def lostText : String := "external debug adapter is disconnected"

/-- What a request is answered with that cannot be written. -/
def unwrittenText (e : Error) : String := "external debug adapter: " ++ e.message

/-- The header that a frame gives; a frame without a value gives null. -/
def headerOf (frame : Bytes) : Json :=
  match Json.decode frame with
  | .ok v => v
  | .error _ => .null

/-- The relay after reading the header frames that came; the last one stands. -/
def readHeaders (r : Relay) : Relay :=
  { r with parent := (r.headers.getLast?.map headerOf).getD r.parent, headers := [] }

/-- What writing a message comes to, given how it ends. -/
def attempt (written : Except Error Unit) (message : Json) : Output :=
  match written with
  | .ok () => .write message
  | .error _ => .unwritten message

/-- Takes a request of the control side. A frame without a value is dropped and leaves the headers
unread. A request that cannot be written loses the adapter. -/
def onRequest (r : Relay) (written : Except Error Unit) (frame : Bytes) : Relay × List Output :=
  match Json.decode frame with
  | .error _ => (r, [])
  | .ok message =>
    let r := r.readHeaders
    if r.adapterAlive then
      let phase := if message.getString? "command" = some "attach" then
          .attached (Response.seqOf message)
        else r.phase
      match written with
      | .ok () => ({ r with phase }, [.write message])
      | .error e =>
        ({ r with phase, adapterAlive := false },
          [.unwritten message, .reply (Response.failFor message (unwrittenText e)).toJson])
    else (r, [.reply (Response.failFor message lostText).toJson])

/-- The request by which the relay completes the configuration. -/
def configurationDone (seq : Int) : Json :=
  Json.ofMembers
    [("seq", .int seq), ("type", .str "request"), ("command", .str "configurationDone")]

/-- The refusal of a request that the adapter makes. -/
def refusal (message : Json) : Json :=
  Json.ofMembers
    [("seq", .int 0), ("type", .str "response"),
      ("request_seq", (message.get? "seq").getD .null), ("success", .bool false),
      ("command", .str (Response.commandOf message)), ("message", .str "not supported")]

/-- Whether a response is the one to the relay's own `configurationDone`. -/
def isOwnResponse (phase : Phase) (message : Json) : Bool :=
  match phase with
  | .configuring seq =>
    message.getString? "command" == some "configurationDone" &&
      message.getInt? "request_seq" == some seq
  | _ => false

/-- Takes an event of the adapter. After an `attach` was passed on, `initialized` completes the
configuration, or ends it if that cannot be written. -/
def onEvent (r : Relay) (written : Except Error Unit) (event : Json) : Relay × List Output :=
  if event.getString? "event" = some "initialized" then
    match r.phase with
    | .attached seq =>
      let own := Request.seqAfter seq
      let phase := match written with
        | .ok () => .configuring own
        | .error _ => .idle
      ({ r with phase }, [.observe event, attempt written (configurationDone own), .publish r.parent event])
    | _ => (r, [.observe event, .publish r.parent event])
  else (r, [.observe event, .publish r.parent event])

/-- Takes a response of the adapter. -/
def onResponse (r : Relay) (message : Json) : Relay × List Output :=
  if isOwnResponse r.phase message then ({ r with phase := .idle }, [])
  else (r, [.reply message])

/-- Takes a message of the adapter. One of no known kind is dropped. It does not matter if a refusal cannot be
written. -/
def onMessage (r : Relay) (written : Except Error Unit) (message : Json) : Relay × List Output :=
  match Kind.of? message with
  | some .event => r.onEvent written message
  | some .response => r.onResponse message
  | some .request => (r, [attempt written (refusal message)])
  | none => (r, [])

/-- What the relay does with an input, given how writing to the adapter ends. -/
def react (r : Relay) (written : Except Error Unit) : Input → Relay × List Output
  | .header frame => ({ r with headers := r.headers ++ [frame] }, [])
  | .request frame => r.onRequest written frame
  | .adapter message => r.onMessage written message
  | .adapterLost => ({ r with adapterAlive := false }, [])

/-- One step of a relay whose writes succeed. -/
def step (r : Relay) (i : Input) : Relay × List Output :=
  r.react (.ok ()) i

/-- What the relay does with a row of inputs, given for each of them how writing to the adapter ends. -/
def runWith (r : Relay) : List (Input × Except Error Unit) → Relay × List Output
  | [] => (r, [])
  | (i, written) :: rest =>
    let (r, first) := r.react written i
    let (r, others) := runWith r rest
    (r, first ++ others)

@[simp] theorem runWith_nil (r : Relay) : r.runWith [] = (r, []) := rfl

@[simp] theorem runWith_cons (r : Relay) (i : Input) (written : Except Error Unit)
    (rest : List (Input × Except Error Unit)) :
    r.runWith ((i, written) :: rest) = (((r.react written i).1.runWith rest).1,
      (r.react written i).2 ++ ((r.react written i).1.runWith rest).2) := rfl

/-- A run over two rows goes over the second one from where the first one ended. -/
theorem runWith_append (r : Relay) (first second : List (Input × Except Error Unit)) :
    r.runWith (first ++ second) = (((r.runWith first).1.runWith second).1,
      (r.runWith first).2 ++ ((r.runWith first).1.runWith second).2) := by
  induction first generalizing r with
  | nil => rfl
  | cons input rest ih =>
      obtain ⟨i, written⟩ := input
      simp [ih]

/-- Steps over a row of inputs. -/
def run (r : Relay) : List Input → Relay × List Output
  | [] => (r, [])
  | i :: rest =>
    let (r, first) := r.step i
    let (r, others) := run r rest
    (r, first ++ others)

@[simp] theorem run_nil (r : Relay) : r.run [] = (r, []) := rfl

@[simp] theorem run_cons (r : Relay) (i : Input) (rest : List Input) :
    r.run (i :: rest) =
      (((r.step i).1.run rest).1, (r.step i).2 ++ ((r.step i).1.run rest).2) := rfl

/-- A run over two rows goes over the second one from where the first one ended. -/
theorem run_append (r : Relay) (first second : List Input) :
    r.run (first ++ second) =
      (((r.run first).1.run second).1, (r.run first).2 ++ ((r.run first).1.run second).2) := by
  induction first generalizing r with
  | nil => rfl
  | cons i rest ih => simp [ih]

/-- Events, responses and refusals of requests leave the adapter as it is. -/
theorem onMessage_adapterAlive (r : Relay) (written : Except Error Unit) (message : Json) :
    (r.onMessage written message).1.adapterAlive = r.adapterAlive := by
  simp only [onMessage]
  split
  · simp only [onEvent]
    split
    · split <;> rfl
    · rfl
  · simp only [onResponse]
    split <;> rfl
  · rfl
  · rfl

/-- An adapter that is lost stays lost. -/
theorem react_adapterAlive_of_lost (r : Relay) (written : Except Error Unit) (i : Input)
    (lost : r.adapterAlive = false) : (r.react written i).1.adapterAlive = false := by
  cases i with
  | header frame => exact lost
  | request frame =>
    simp only [react, onRequest]
    split
    · exact lost
    · simp [readHeaders, lost]
  | adapter message => exact (r.onMessage_adapterAlive written message).trans lost
  | adapterLost => rfl

/-- The frame in which an event is published. -/
def eventFrame (header event : Json) : Bytes :=
  Json.encode (Json.ofMembers [("header", header), ("content", event)])

end Relay
end DebugBridge
