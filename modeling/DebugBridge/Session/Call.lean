import DebugBridge.Message.Handler
import DebugBridge.Rendering.Inspect
import DebugBridge.Scope.Listing
import DebugBridge.Session.Lifecycle

/-!
# Requests of the front end

`consider` tells what becomes of a request: the bridge answers it, or has a message for the adapter. Here a request
is answered by a worker that keeps up: it takes a message as soon as it is sent, and writing to the adapter never
fails. `begin` answers at once what the bridge can answer itself and passes everything else on; `finish` takes the
adapter's response, or gives up, and answers then. Between the halves arrives what the adapter sends.
-/

namespace DebugBridge

/-- What a response of the adapter is awaited for. -/
inductive Purpose where
  /-- It is the answer. -/
  | answer
  /-- It is the answer, and tells which breakpoints are set. -/
  | breakpoints
  /-- It is the answer, and the session stops after it. -/
  | disconnect
  /-- It tells whether a variable was rendered into a slot. -/
  | rendering (slot : Slot)
deriving DecidableEq, Repr

/-- A request on its way: what the front end asked, what the adapter got, and what for. -/
structure Call where
  request : Request
  sent : Json
  purpose : Purpose
deriving DecidableEq, Repr

/-- The reply to a request on its way: the adapter's response as it is, or the reason why there is none. -/
def Call.reply (call : Call) : Except Error Json → Json
  | .ok reply => reply
  | .error e => (Response.fail call.request e.message).toJson

/-- Whether a reply belongs to a message: both have the same number and the same command. A late reply to a
message given up may have the number of a later one, so the command counts as well. -/
def isReplyTo (message reply : Json) : Bool :=
  reply.getInt? "request_seq" == message.getInt? "seq" &&
    reply.getString? "command" == message.getString? "command"

/-- Looks for the reply to a message among frames, dropping what belongs to other messages. Gives up when no
frame is left, and at a frame without a value. -/
def awaitReply (message : Json) (time : Duration) :
    List Frame → Except Error Json × List Frame
  | [] => (.error (.timeout time), [])
  | frame :: rest =>
    match Json.decode frame with
    | .error e => (.error (.json e), rest)
    | .ok reply => if isReplyTo message reply then (.ok reply, rest) else awaitReply message time rest

namespace Session

variable {σ : Type}

/-- A request answered, or one on its way. -/
inductive Progress where
  | answered (reply : Json)
  | waiting (call : Call)
deriving DecidableEq, Repr

/-- Sends a header and a message to the worker, which takes them at once. `Bridge.submit` only sends them. -/
def submit (s : Session) (header message : Json) : Except Error Session :=
  if s.request.isBound then
    match s.hub.send s.header (Json.encode header) with
    | .error e => .error e
    | .ok hub =>
      match hub.send s.request (Json.encode message) with
      | .error e => .error e
      | .ok hub => .ok { s with hub }.serve
  else .error .notStarted

/-- The reply to a message among the frames that wait. -/
def collect (s : Session) (message : Json) : Except Error Json × Session :=
  let (result, rest) := awaitReply message s.settings.forwardTime (s.hub.waiting s.request)
  (result, { s with hub := s.hub.setWaiting s.request rest })

/-- The answer to `debugInfo`: the capabilities, and the session's state. -/
def debugInfo (s : Session) (r : Request) : Response :=
  let breakpoints := s.breakpoints.map fun b =>
    Json.ofMembers [("source", .str b.1), ("breakpoints", b.2)]
  .succeed r (some (Json.ofMembers (Capabilities.members s.kernel ++
    [("isStarted", .bool s.isStarted), ("breakpoints", .arr breakpoints),
      ("stoppedThreads", .arr (s.threads.stopped.map Json.int))])))

/-- Writes a cell source to its file and answers `dumpCell` with the path. -/
def dumpCell (out : Outside σ) (s : Session) (r : Request) (o : σ) : Response × σ :=
  match r.stringArgument "code" with
  | .error e => (.fail r e.message, o)
  | .ok code =>
    match out.makeDirectory s.kernel.cellDirectory o with
    | (.error e, o) => (.fail r e.message, o)
    | (.ok (), o) =>
      let path := Cell.file s.kernel code
      match out.writeFile path code o with
      | (.error e, o) => (.fail r e.message, o)
      | (.ok (), o) => (.succeed r (some (Json.ofMembers [("sourcePath", .str path)])), o)

/-- The path of the source whose breakpoints a request sets. -/
def sourcePath (r : Request) : Option String :=
  (r.argument? "source").bind fun source => source.getString? "path"

/-- Remembers the breakpoints of a source after a successful reply. -/
def recordBreakpoints (s : Session) (r : Request) (reply : Json) : Session :=
  if reply.getBool? "success" = some true then
    match sourcePath r with
    | none => s
    | some path =>
      let breakpoints := ((reply.get? "body").bind fun b => b.get? "breakpoints").getD (.arr [])
      { s with breakpoints := Members.insert path breakpoints s.breakpoints }
  else s

/-- The value of a handler's outcome; an error becomes a response as well. -/
def settle (r : Request) : Except Error Response → Json
  | .ok response => response.toJson
  | .error e => (Response.fail r e.message).toJson

/-- What a call comes to once the adapter's response, or its absence, is known. -/
def conclude (out : Outside σ) (s : Session) (call : Call) (result : Except Error Json) (o : σ) :
    Json × Session × σ :=
  match call.purpose with
  | .answer => (call.reply result, s, o)
  | .breakpoints => (call.reply result, s.recordBreakpoints call.request (call.reply result), o)
  | .disconnect => (call.reply result, s.stop, o)
  | .rendering slot =>
    match result with
    | .error _ => (call.reply result, s, o)
    | .ok reply =>
      let (answer, o) := Rendering.conclude out.scope slot call.request reply o
      (settle call.request answer, s, o)

/-- Passes a message to the adapter, after what came from there since the request was looked at. If that
fails the call ends at once. -/
def forward (out : Outside σ) (s : Session) (header : Json) (early : List Arrival) (call : Call)
    (o : σ) : Progress × Session × σ :=
  let s := early.foldl arrive s
  match s.submit header call.sent with
  | .ok s => (.waiting call, s, o)
  | .error e =>
    let (reply, s, o) := s.conclude out call (.error e) o
    (.answered reply, s, o)

/-- What a handler makes of a request: it answers, or has a message to be passed on. -/
def consult (out : Outside σ) (s : Session) (r : Request) (h : Handler) (o : σ) : Progress × σ :=
  match h with
  | .inspectVariables => (.answered (out.scope.inspect r o).toJson, o)
  | .configurationDone => (.answered (Response.configurationDone r).toJson, o)
  | .attach => (.waiting ⟨r, (r.attachTo s.address).toJson, .answer⟩, o)
  | .richInspectVariables =>
    let (id, o) := out.slotId o
    let slot := Slot.ofId id
    match Rendering.plan s.threads.anyStopped slot r with
    | .refuse e => (.answered (Response.fail r e.message).toJson, o)
    | .direct subject =>
      let (answer, o) := Rendering.renderDirectly out.scope slot subject r o
      (.answered (settle r answer), o)
    | .inFrame message => (.waiting ⟨r, message, .rendering slot⟩, o)

/-- What becomes of a request by its command: an answer, or a message to be passed on. -/
def consider (out : Outside σ) (s : Session) (r : Request) (o : σ) : Progress × σ :=
  match r.command with
  | "debugInfo" => (.answered (s.debugInfo r).toJson, o)
  | "dumpCell" =>
    let (response, o) := s.dumpCell out r o
    (.answered response.toJson, o)
  | "setBreakpoints" => (.waiting ⟨r, r.toJson, .breakpoints⟩, o)
  | "disconnect" => (.waiting ⟨r, r.toJson, .disconnect⟩, o)
  | command =>
    match Handler.lookup command with
    | some h =>
      if h.isUserFacing && !s.isStarted then
        (.answered (Response.fail r Error.notStarted.message).toJson, o)
      else s.consult out r h o
    | none => (.waiting ⟨r, r.toJson, .answer⟩, o)

/-- Readies a session for a request. One to initialize needs it started. -/
def prepare (out : Outside σ) (s : Session) (r : Request) (o : σ) : Except Error Unit × Session × σ :=
  if r.command = "initialize" then s.ensureStarted out o else (.ok (), s, o)

/-- Begins a request. -/
def beginRequest (out : Outside σ) (s : Session) (header : Json) (early : List Arrival) (r : Request)
    (o : σ) : Progress × Session × σ :=
  match s.prepare out r o with
  | (.error e, s, o) => (.answered (Response.fail r e.message).toJson, s, o)
  | (.ok (), s, o) =>
    match s.consider out r o with
    | (.answered reply, o) => (.answered reply, s, o)
    | (.waiting call, o) => s.forward out header early call o

/-- Begins any message of the front end, under the header of the kernel's message. `early` comes from the
adapter before the message is passed on to it, if it is. -/
def begin (out : Outside σ) (s : Session) (header message : Json) (early : List Arrival) (o : σ) :
    Progress × Session × σ :=
  match Request.ofJson? message with
  | .error e => (.answered (Response.failFor message e.message).toJson, s, o)
  | .ok r => s.beginRequest out header early r o

/-- Finishes a request on its way, after all that arrived for it. -/
def finish (out : Outside σ) (s : Session) (progress : Progress) (o : σ) : Json × Session × σ :=
  match progress with
  | .answered reply => (reply, s, o)
  | .waiting call =>
    let (result, s) := s.collect call.sent
    s.conclude out call result o

/-- Answers a message, given what arrives from the adapter before it is passed on and after that, and what
happens outside meanwhile. -/
def process (out : Outside σ) (s : Session) (header message : Json) (early arrivals : List Arrival)
    (meanwhile : σ → σ) (o : σ) : Json × Session × σ :=
  let (progress, s, o) := s.begin out header message early o
  (arrivals.foldl arrive s).finish out progress (meanwhile o)

end Session
end DebugBridge
