import DebugBridge.Capabilities
import DebugBridge.Relay.Worker
import DebugBridge.Scope.Basic
import DebugBridge.Settings
import DebugBridge.Threads

/-!
# Control sessions

A session is the control side of the bridge: its sockets, the worker while it is started, the threads that
are stopped and the breakpoints that are set. All that it needs from outside is an `Outside`: the
interpreter, the shell, the file system and whether the adapter takes a connection.
-/

namespace DebugBridge

/-- How the adapter meets a connection. -/
inductive Dial where
  /-- It takes the connection. -/
  | accepted
  /-- It does not, as long as is tried. -/
  | refused
  /-- Neither happens while the control side waits for the worker. -/
  | tooLate
deriving DecidableEq, Repr

/-- What a session needs from outside, over a state of the outside's own. -/
structure Outside (σ : Type) where
  /-- The globals of the interpreter. -/
  scope : Scope σ
  /-- Runs code on the shell. -/
  execute : String → σ → Except Error ShellReply × σ
  /-- Makes a directory unless it is there. -/
  makeDirectory : String → σ → Except Error Unit × σ
  /-- Writes a text to a file. -/
  writeFile : String → String → σ → Except Error Unit × σ
  /-- Connects to the adapter, trying as long as the settings say. -/
  dial : Address → Settings → σ → Dial × σ
  /-- A number for a slot that was not given before. -/
  slotId : σ → BitVec 128 × σ

/-- The state of a session. `outbox` holds the messages written to the adapter that it has not taken, and
`transcript` the lines of the diagnostic file, if one is written. -/
structure Session where
  kernel : Kernel
  settings : Settings
  address : Address
  config : Config
  launch : Launch.State
  hub : Hub
  request : Socket
  header : Socket
  publisher : Socket
  worker : Option Worker
  threads : Threads
  breakpoints : Members
  outbox : List Json
  transcript : Option (List String)
deriving DecidableEq, Repr

namespace Session

/-- Whether a session is started. -/
def isStarted (s : Session) : Bool :=
  s.worker.isSome

/-- A new session on a hub, with the publisher bound. -/
def create (kernel : Kernel) (settings : Settings) (address : Address) (config : Config)
    (launch : Launch.State) (hub : Hub) (traced : Bool) : Except Error Session :=
  match hub.bind none publisherEndpoint with
  | .error e => .error e
  | .ok (hub, publisher) =>
    .ok ⟨kernel, settings, address, config, launch, hub, none, none, publisher, none, .empty, [], [],
      if traced then some [] else none⟩

/-- The session with lines added to the diagnostic file. -/
def note (s : Session) (lines : List String) : Session :=
  { s with transcript := s.transcript.map fun t => t ++ lines }

/-- The line for a message read from the adapter. -/
def receivedLine (message : Json) : String := "<- " ++ message.text

/-- The line for a message written to the adapter. -/
def writtenLine (message : Json) : String := "-> " ++ message.text

/-- The part of what the relay did that concerns the session: messages for the adapter, and events. The line for a
message is there even if writing it fails, which is an output of its own. -/
def record (s : Session) : Relay.Output → Session
  | .write message => { s.note [writtenLine message] with outbox := s.outbox ++ [message] }
  | .unwritten message => s.note [writtenLine message]
  | .observe event => { s with threads := s.threads.observe event }
  | .reply _ | .publish _ _ => s

/-- The session after its worker did something. -/
def afterWorker (s : Session) (done : Worker × Hub × List Relay.Output) : Session :=
  done.2.2.foldl record { s with worker := some done.1, hub := done.2.1 }

/-- Lets the worker take all the requests that wait for it, with every write to the adapter succeeding. In a `Bridge`
it takes them one by one, whenever it has a turn. -/
def serve (s : Session) : Session :=
  match s.worker with
  | some w => s.afterWorker (w.serve s.hub)
  | none => s

/-- Takes what comes from the adapter, which is nothing without a worker or after the adapter is lost. -/
def arrive (s : Session) (a : Arrival) : Session :=
  match s.worker with
  | none => s
  | some w =>
    if w.relay.adapterAlive then
      let s := match a with
        | .message v => s.note [receivedLine v]
        | .lost => s
      s.afterWorker (w.onArrival s.hub a)
    else s

/-- Takes the messages written to the adapter. -/
def takeOutbox (s : Session) : List Json × Session :=
  (s.outbox, { s with outbox := [] })

/-- The next published event, waiting for a time in which none comes unless one is there. -/
def nextEvent (s : Session) (time : Duration) : Except Error Json × Session :=
  match s.hub.receiveWithin s.publisher time with
  | .error e => (.error e, s)
  | .ok (frame, hub) =>
    let s := { s with hub }
    match Json.decode frame with
    | .ok v => (.ok v, s)
    | .error e => (.error (.json e), s)

end Session
end DebugBridge
