import DebugBridge.Hub.Basic

/-!
# Exchanges over a hub

Any number of sockets, by name, over one hub, and what a row of operations on them does.
-/

namespace DebugBridge

/-- A hub and the sockets of its users. A name without a socket stands for one not yet used. -/
structure Exchange where
  hub : Hub
  sockets : List (String × Socket)
deriving DecidableEq, Repr

namespace Exchange

/-- One operation of a user. -/
inductive Step where
  | bind (name : String) (e : Endpoint)
  | unbind (name : String) (e : Endpoint)
  | connect (name : String) (e : Endpoint)
  | clone (name copy : String)
  | send (name : String) (frame : Frame)
  | receive (name : String)
  | receiveWithin (name : String) (time : Duration)
  | tryReceive (name : String)
  | drop (name : String)
  | isBound (name : String) (e : Endpoint)
deriving DecidableEq, Repr

/-- What an operation answers. `waiting` stands for a receiver that waits without a limit. -/
inductive Answer where
  | done
  | frame (f : Frame)
  | noFrame
  | waiting
  | flag (b : Bool)
  | failed (e : Error)
deriving DecidableEq, Repr

/-- No socket has been used. -/
def empty : Exchange := ⟨Hub.empty, []⟩

/-- The socket of a name, without a link if the name is new. -/
def socket (x : Exchange) (name : String) : Socket :=
  (x.sockets.lookup name).getD none

/-- Gives a name a socket. -/
def put (x : Exchange) (name : String) (s : Socket) : Exchange :=
  { x with sockets := (name, s) :: x.sockets.filter fun p => p.1 ≠ name }

/-- Takes the socket of a name away and closes it. -/
def drop (x : Exchange) (name : String) : Exchange :=
  ⟨x.hub.close (x.socket name), x.sockets.filter fun p => p.1 ≠ name⟩

/-- Gives a name a socket in place of the one it had, which is closed. -/
def replace (x : Exchange) (name : String) (s : Socket) : Exchange :=
  (x.drop name).put name s

/-- The name whose socket an operation is called on. -/
def Step.name : Step → String
  | .bind n _ | .unbind n _ | .connect n _ | .clone n _ | .send n _ | .receive n
  | .receiveWithin n _ | .tryReceive n | .drop n | .isBound n _ => n

/-- A received frame or its absence, as an answer. -/
def received (x : Exchange) (absent : Answer) :
    Except Error (Option Frame × Hub) → Answer × Exchange
  | .ok (some f, hub) => (.frame f, { x with hub })
  | .ok (none, hub) => (absent, { x with hub })
  | .error e => (.failed e, x)

/-- Does one operation, on a name that has a socket. -/
def perform (x : Exchange) : Step → Answer × Exchange
  | .bind n e =>
    match x.hub.bind (x.socket n) e with
    | .ok (hub, s) => (.done, { x with hub }.put n s)
    | .error e => (.failed e, x)
  | .unbind n e =>
    let (hub, s) := x.hub.unbind (x.socket n) e
    (.done, { x with hub }.put n s)
  | .connect n e =>
    match x.hub.connect e with
    | .ok s => (.done, x.replace n s)
    | .error e => (.failed e, x)
  | .clone n copy =>
    match (x.socket n).clone with
    | .ok s => (.done, x.replace copy s)
    | .error e => (.failed e, x)
  | .send n f =>
    match x.hub.send (x.socket n) f with
    | .ok hub => (.done, { x with hub })
    | .error e => (.failed e, x)
  | .receive n => x.received .waiting (x.hub.receive (x.socket n))
  | .receiveWithin n time => x.received (.failed (.timeout time)) (x.hub.receive (x.socket n))
  | .tryReceive n => x.received .noFrame (x.hub.receive (x.socket n))
  | .drop n => (.done, x.drop n)
  | .isBound _ e => (.flag (x.hub.isBound e), x)

/-- Does one operation; a name gets a socket when it is first used. -/
def step (x : Exchange) (s : Step) : Answer × Exchange :=
  (x.put s.name (x.socket s.name)).perform s

/-- Does a row of operations. -/
def run (x : Exchange) : List Step → List Answer × Exchange
  | [] => ([], x)
  | s :: rest =>
    let (a, x) := x.step s
    let (as, x) := run x rest
    (a :: as, x)

@[simp] theorem run_nil (x : Exchange) : x.run [] = ([], x) := rfl

@[simp] theorem run_cons (x : Exchange) (s : Step) (rest : List Step) :
    x.run (s :: rest) =
      ((x.step s).1 :: ((x.step s).2.run rest).1, ((x.step s).2.run rest).2) := rfl

end Exchange
end DebugBridge
