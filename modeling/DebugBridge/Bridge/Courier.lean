import DebugBridge.Session.Basic

/-!
# Couriers

A worker runs on a thread of its own, beside two pumps that only read: one takes frames off the request socket, the
other messages off the connection to the adapter. Both put what they read into the inbox of the relay. A courier is a
worker with its thread and its pumps, and `Courier.take` is one turn of theirs. Turns of several couriers and the
operations of the control side follow one another in any order.
-/

namespace DebugBridge

/-- How the adapter meets a worker that dials. -/
inductive Met where
  /-- It takes the connection. -/
  | reached
  /-- It does not, as long as is tried. -/
  | refused
  /-- It does, but no pump can be set up on the connection. -/
  | unusable (e : Error)
deriving DecidableEq, Repr

/-- How far the thread of a worker has come. -/
inductive Stage where
  /-- It has not looked for its endpoints. -/
  | new
  /-- It waits for the control side's first frame. -/
  | greeting
  /-- It dials the adapter. -/
  | dialling
  /-- The pumps run, and the first frame is to be answered. -/
  | connected
  /-- The relay runs. -/
  | relaying
  /-- The relay runs no more, and the pumps are waited for. -/
  | closing (result : Except Error Unit)
  /-- It has ended. -/
  | ended (result : Except Error Unit)
deriving DecidableEq, Repr

/-- What waits in the inbox of a relay. -/
inductive Errand where
  | input (i : Relay.Input)
  /-- The control side is gone. -/
  | closed
deriving DecidableEq, Repr

/-- A worker with its thread and its pumps. `doing` is what the relay still has to do for the input it took last.
`listening` and `reading` tell whether the pumps run that read from the control side and from the adapter. -/
structure Courier where
  stage : Stage
  worker : Worker
  inbox : List Errand
  doing : List Relay.Output
  listening : Bool
  reading : Bool
deriving DecidableEq, Repr

/-- One turn of a courier's thread or of one of its pumps. -/
inductive Turn where
  /-- The thread looks for its endpoints. -/
  | embark
  /-- It takes the control side's first frame. -/
  | greet
  /-- It learns how the adapter meets it. -/
  | dial (met : Met)
  /-- It answers the first frame. -/
  | acknowledge
  /-- Something is read from the adapter. -/
  | hear (a : Arrival)
  /-- A frame is read from the control side. -/
  | fetch
  /-- The relay takes what waits first in its inbox. A write to the adapter that this brings about ends so. -/
  | relay (written : Except Error Unit)
  /-- The relay does the next thing it has to do. -/
  | act
  /-- The thread ends, once the control side is read no more, and closes the connection to the adapter. -/
  | finish
deriving DecidableEq, Repr

/-- What is remembered of a turn. -/
inductive Note where
  /-- A frame was taken off a binding. -/
  | got (binding : Option Nat) (frame : Frame)
  /-- Something was read from the adapter. -/
  | heard (a : Arrival)
  /-- The relay took an input, and writing to the adapter would end so. -/
  | took (input : Relay.Input) (written : Except Error Unit)
  /-- The relay did something. -/
  | did (output : Relay.Output)
deriving DecidableEq, Repr

namespace Courier

/-- A courier whose thread was just made. -/
def fresh : Courier :=
  ⟨.new, .unconnected, [], [], false, false⟩

/-- What the control side learns of a worker that it has waited for. A worker that has not ended by then is left
behind, and goes on as it would. -/
def awaited (c : Courier) (time : Duration) : Except Error Unit :=
  match c.stage with
  | .ended result => Worker.result result
  | _ => .error (.timeout time)

/-- Looks for the endpoints. -/
def embark (c : Courier) (hub : Hub) : Courier :=
  match Worker.connect hub with
  | .ok worker => { c with stage := .greeting, worker }
  | .error e => { c with stage := .ended (.error e) }

/-- Takes the first frame of the control side, which is to ask whether the worker is ready. -/
def greet (c : Courier) (s : Session) : Courier × Session × List Note :=
  match s.hub.receive c.worker.request with
  | .error e => ({ c with stage := .ended (.error e) }, s, [])
  | .ok (none, _) => (c, s, [])
  | .ok (some first, hub) =>
    let note := Note.got c.worker.request.binding? first
    if first = askReady then ({ c with stage := .dialling }, { s with hub }, [note])
    else
      let (result, hub) := c.worker.answerReady hub first s.address false
      ({ c with stage := .ended result }, { s with hub }, [note])

/-- Starts the pumps on a new connection, or gives up. -/
def dial (c : Courier) (s : Session) : Met → Courier × Session
  | .reached => ({ c with stage := .connected, listening := true, reading := true }, s)
  | .refused =>
    let (result, hub) := c.worker.answerReady s.hub askReady s.address false
    ({ c with stage := .ended result }, { s with hub })
  | .unusable e => ({ c with stage := .ended (.error e) }, s)

/-- Says that the worker is ready, unless the control side is gone. -/
def acknowledge (c : Courier) (s : Session) : Courier × Session :=
  match c.worker.answerReady s.hub askReady s.address true with
  | (.ok (), hub) => ({ c with stage := .relaying }, { s with hub })
  | (.error e, hub) => ({ c with stage := .closing (.error e) }, { s with hub })

/-- Reads something from the adapter. A message has its line in the diagnostic file; after a loss nothing more is
read. -/
def hear (c : Courier) (s : Session) (a : Arrival) : Courier × Session :=
  match a with
  | .message v => ({ c with inbox := c.inbox ++ [.input a.input] }, s.note [Session.receivedLine v])
  | .lost => ({ c with inbox := c.inbox ++ [.input a.input], reading := false }, s)

/-- Reads a frame from the control side, if one is there. When the control side is gone and nothing is left of it,
nothing more is read. -/
def fetch (c : Courier) (s : Session) : Courier × Session × List Note :=
  match s.hub.receive c.worker.request with
  | .error _ => ({ c with inbox := c.inbox ++ [.closed], listening := false }, s, [])
  | .ok (none, _) => (c, s, [])
  | .ok (some frame, hub) =>
    ({ c with inbox := c.inbox ++ [.input (.request frame)] }, { s with hub },
      [.got c.worker.request.binding? frame])

/-- Has the relay take an input. Before a request it takes the headers that wait. -/
def accept (c : Courier) (hub : Hub) (written : Except Error Unit) (i : Relay.Input) : Courier × Hub × List Note :=
  match i with
  | .request _ =>
    let headers := hub.waiting c.worker.header
    let (worker, hub) := c.worker.takeHeaders hub
    let (relay, doing) := worker.relay.react written i
    ({ c with worker := { worker with relay }, doing }, hub,
      headers.map (.got c.worker.header.binding?) ++ headers.map (fun f => .took (.header f) (.ok ())) ++
        [.took i written])
  | _ =>
    let (relay, doing) := c.worker.relay.react written i
    ({ c with worker := { c.worker with relay }, doing }, hub, [.took i written])

/-- Has the relay take what waits first. It runs no more when the control side is gone. -/
def relay (c : Courier) (s : Session) (written : Except Error Unit) : Courier × Session × List Note :=
  match c.inbox with
  | [] => (c, s, [])
  | .closed :: inbox => ({ c with inbox, stage := .closing (.ok ()) }, s, [])
  | .input i :: inbox =>
    let (c, hub, notes) := { c with inbox }.accept s.hub written i
    (c, { s with hub }, notes)

/-- Does the next thing that the relay has to do. -/
def act (c : Courier) (s : Session) : Courier × Session × List Note :=
  match c.doing with
  | [] => (c, s, [])
  | output :: doing =>
    ({ c with doing }, { s with hub := c.worker.emit s.hub output }.record output, [.did output])

/-- A courier and the session after a turn. A turn that is not due changes nothing. -/
def take (c : Courier) (s : Session) (turn : Turn) : Courier × Session × List Note :=
  match turn, c.stage with
  | .embark, .new => (c.embark s.hub, s, [])
  | .greet, .greeting => c.greet s
  | .dial met, .dialling => ((c.dial s met).1, (c.dial s met).2, [])
  | .acknowledge, .connected => ((c.acknowledge s).1, (c.acknowledge s).2, [])
  | .hear a, _ => if c.reading then ((c.hear s a).1, (c.hear s a).2, [.heard a]) else (c, s, [])
  | .fetch, _ => if c.listening then c.fetch s else (c, s, [])
  | .relay written, .relaying => if c.doing.isEmpty then c.relay s written else (c, s, [])
  | .act, _ => c.act s
  | .finish, .closing result =>
    if c.listening then (c, s, []) else ({ c with stage := .ended result, reading := false }, s, [])
  | _, _ => (c, s, [])

end Courier
end DebugBridge
