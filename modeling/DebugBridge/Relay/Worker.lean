import DebugBridge.Hub.Basic
import DebugBridge.Launch.Start
import DebugBridge.Relay.Basic
import DebugBridge.Relay.Inlet

/-!
# The transport worker

The worker runs the relay on sockets of its own. It is ready once it has answered the control side's first
frame, which it does only when it is connected to the adapter; until then no request passes.
-/

namespace DebugBridge

/-- The endpoint of a control channel. -/
def controlEndpoint (name : String) : Endpoint := "inproc://" ++ name

/-- The endpoint on which requests and their replies pass. -/
def requestEndpoint : Endpoint := controlEndpoint "debugger"

/-- The endpoint on which the headers of requests pass. -/
def headerEndpoint : Endpoint := controlEndpoint "debugger_header"

/-- The endpoint on which events are published. -/
def publisherEndpoint : Endpoint := "inproc://publisher"

/-- The frame by which the control side asks whether the worker is ready. -/
def askReady : Frame := Utf8.encode "REQ"

/-- The frame by which the worker says that it is ready. -/
def isReady : Frame := Utf8.encode "ACK"

/-- The frame by which the worker says that it gives up. -/
def givesUp : Frame := Utf8.encode "NAK"

/-- What an arrival is to the relay. -/
def Arrival.input : Arrival → Relay.Input
  | .message v => .adapter v
  | .lost => .adapterLost

/-- A worker at its sockets. The publisher's socket has no link if nothing was bound there. -/
structure Worker where
  request : Socket
  header : Socket
  publisher : Socket
  relay : Relay
deriving DecidableEq, Repr

namespace Worker

/-- A worker without links. -/
def unconnected : Worker := ⟨none, none, none, .start⟩

/-- Connects the sockets of a worker. Events need not be published. -/
def connect (hub : Hub) : Except Error Worker :=
  match hub.connect requestEndpoint with
  | .error e => .error e
  | .ok request =>
    match hub.connect headerEndpoint with
    | .error e => .error e
    | .ok header =>
      .ok ⟨request, header, (hub.connect publisherEndpoint).toOption.join, .start⟩

/-- Sends a frame that nobody may be there to take. -/
def sendIfPossible (hub : Hub) (s : Socket) (frame : Frame) : Hub :=
  (hub.send s frame).toOption.getD hub

/-- Answers the control side's first frame. `accepted` tells whether the adapter took the connection. -/
def answerReady (w : Worker) (hub : Hub) (first : Frame) (address : Address) (accepted : Bool) :
    Except Error Unit × Hub :=
  if first = askReady then
    if accepted then
      match hub.send w.request isReady with
      | .ok hub => (.ok (), hub)
      | .error e => (.error e, hub)
    else (.error (.adapterUnreachable address.text), sendIfPossible hub w.request givesUp)
  else
    (.error (.worker ("unexpected handshake: " ++ Utf8.decodeLossy first)),
      sendIfPossible hub w.request givesUp)

/-- What the control side learns of a worker's end. -/
def result : Except Error Unit → Except Error Unit
  | .ok () => .ok ()
  | .error e => .error (.worker e.message)

/-- Sends what goes over the worker's sockets. -/
def emit (w : Worker) (hub : Hub) : Relay.Output → Hub
  | .reply message => sendIfPossible hub w.request (Json.encode message)
  | .publish header event => sendIfPossible hub w.publisher (Relay.eventFrame header event)
  | .write _ | .unwritten _ | .observe _ => hub

/-- Takes one input of the relay, given how writing to the adapter ends. Gives all that the relay did; what goes
over sockets has been sent. -/
def react (w : Worker) (hub : Hub) (written : Except Error Unit) (input : Relay.Input) :
    Worker × Hub × List Relay.Output :=
  let (relay, outputs) := w.relay.react written input
  ({ w with relay }, outputs.foldl (emit w) hub, outputs)

/-- Takes one input of a relay whose writes succeed. -/
def handle (w : Worker) (hub : Hub) (input : Relay.Input) : Worker × Hub × List Relay.Output :=
  w.react hub (.ok ()) input

/-- Takes all frames that wait at the header socket into the relay. -/
def takeHeaders (w : Worker) (hub : Hub) : Worker × Hub :=
  ((hub.waiting w.header).foldl (fun w f => { w with relay := (w.relay.step (.header f)).1 }) w,
    hub.setWaiting w.header [])

/-- Takes the frames that wait at the request socket, as many as there are. -/
def takeRequests : (count : Nat) → Worker → Hub → Worker × Hub × List Relay.Output
  | 0, w, hub => (w, hub, [])
  | count + 1, w, hub =>
    match hub.receive w.request with
    | .ok (some frame, hub) =>
      let (w, hub) := w.takeHeaders hub
      let (w, hub, first) := w.handle hub (.request frame)
      let (w, hub, others) := takeRequests count w hub
      (w, hub, first ++ others)
    | _ => (w, hub, [])

/-- Takes all frames that wait at the request socket. -/
def serve (w : Worker) (hub : Hub) : Worker × Hub × List Relay.Output :=
  takeRequests (hub.waiting w.request).length w hub

/-- Takes what comes from the adapter. -/
def onArrival (w : Worker) (hub : Hub) : Arrival → Worker × Hub × List Relay.Output
  | .message v => w.handle hub (.adapter v)
  | .lost => w.handle hub .adapterLost

/-- Whether the worker's loop has come to its end: the request socket's peer is gone and nothing is left
of it. -/
def isFinished (w : Worker) (hub : Hub) : Bool :=
  match hub.receive w.request with
  | .error _ => true
  | .ok _ => false

end Worker
end DebugBridge
