import DebugBridge.Error

/-!
# The hub of sockets

Sockets exchange frames over endpoints. One socket is bound to an endpoint, any number connect to it. Each
binding has channels of its own, so what was sent under an earlier binding of an endpoint never shows up
under a later one. A binding ends when its socket is unbound or closed; frames it sent are still received
after that, and then the peers are told that it is gone.
-/

namespace DebugBridge

/-- What sockets exchange. -/
abbrev Frame := Bytes

/-- The name that a socket is bound to. -/
abbrev Endpoint := String

/-- The two directions of one binding. `live` tells whether its socket is still bound. -/
structure Channels where
  live : Bool
  toPeers : List Frame
  toOwner : List Frame
deriving DecidableEq, Repr

/-- All bindings so far, by number, and the binding that each bound endpoint has now. -/
structure Hub where
  channels : List Channels
  registry : List (Endpoint × Nat)
deriving DecidableEq, Repr

/-- The tie of a socket to a binding. -/
inductive Link where
  | bound (endpoint : Endpoint) (binding : Nat)
  | connected (endpoint : Endpoint) (binding : Nat)
deriving DecidableEq, Repr

/-- A socket is tied to one binding or to none. -/
abbrev Socket := Option Link

namespace Link

/-- The endpoint of a link. -/
def endpoint : Link → Endpoint
  | .bound e _ => e
  | .connected e _ => e

end Link

namespace Socket

/-- A socket without a link. -/
def unconnected : Socket := none

/-- Whether a socket is bound. -/
def isBound : Socket → Bool
  | some (.bound _ _) => true
  | _ => false

/-- The endpoint of a socket's link. -/
def endpoint? (s : Socket) : Option Endpoint :=
  s.map Link.endpoint

/-- The binding of a socket's link. -/
def binding? : Socket → Option Nat
  | some (.bound _ b) | some (.connected _ b) => some b
  | none => none

/-- Another socket on the same connection. Only a connected socket has one. -/
def clone : Socket → Except Error Socket
  | some (.connected e b) => .ok (some (.connected e b))
  | some (.bound e _) => .error (.addressInUse e)
  | none => .error .notConnected

end Socket

namespace Hub

/-- No endpoint is bound. -/
def empty : Hub := ⟨[], []⟩

/-- The channels of a binding. -/
def channelsOf (hub : Hub) (binding : Nat) : Channels :=
  hub.channels.getD binding ⟨false, [], []⟩

/-- The hub with the channels of a binding changed. -/
def modify (hub : Hub) (binding : Nat) (f : Channels → Channels) : Hub :=
  { hub with channels := hub.channels.modify binding f }

/-- Whether an endpoint is bound. -/
def isBound (hub : Hub) (e : Endpoint) : Bool :=
  (hub.registry.lookup e).isSome

/-- Binds a socket that has no link to an endpoint that is not bound. -/
def bind (hub : Hub) (s : Socket) (e : Endpoint) : Except Error (Hub × Socket) :=
  match s with
  | some link => .error (.addressInUse link.endpoint)
  | none =>
    if hub.isBound e then .error (.addressInUse e)
    else
      .ok (⟨hub.channels ++ [⟨true, [], []⟩], (e, hub.channels.length) :: hub.registry⟩,
        some (.bound e hub.channels.length))

/-- Binding succeeds exactly for a socket without a link and an endpoint that is free. -/
theorem bind_isOk_iff (hub : Hub) (s : Socket) (e : Endpoint) :
    (∃ r, hub.bind s e = .ok r) ↔ s = none ∧ hub.isBound e = false := by
  cases s with
  | some link => simp [bind]
  | none => cases bound : hub.isBound e <;> simp [bind, bound]

/-- Ends a binding: its endpoint is free again and its peers will see it gone. -/
def release (hub : Hub) (e : Endpoint) (binding : Nat) : Hub :=
  let hub := hub.modify binding fun c => { c with live := false }
  { hub with registry := hub.registry.filter fun r => r.1 ≠ e }

/-- Unbinds a socket from an endpoint. A socket that is not bound to it stays as it is. -/
def unbind (hub : Hub) (s : Socket) (e : Endpoint) : Hub × Socket :=
  match s with
  | some (.bound e' b) => if e' = e then (hub.release e b, none) else (hub, s)
  | _ => (hub, s)

/-- Closes a socket for good. -/
def close (hub : Hub) : Socket → Hub
  | some (.bound e b) => hub.release e b
  | _ => hub

/-- A new socket connected to a bound endpoint. -/
def connect (hub : Hub) (e : Endpoint) : Except Error Socket :=
  match hub.registry.lookup e with
  | some b => .ok (some (.connected e b))
  | none => .error (.endpointNotBound e)

/-- Sends a frame. A bound socket's frames wait for peers; a peer's frame needs the bound socket. -/
def send (hub : Hub) (s : Socket) (frame : Frame) : Except Error Hub :=
  match s with
  | none => .error .notConnected
  | some (.bound _ b) => .ok (hub.modify b fun c => { c with toPeers := c.toPeers ++ [frame] })
  | some (.connected e b) =>
    if (hub.channelsOf b).live then
      .ok (hub.modify b fun c => { c with toOwner := c.toOwner ++ [frame] })
    else .error (.disconnected e)

/-- Receives the next frame, or none if none is there yet. -/
def receive (hub : Hub) (s : Socket) : Except Error (Option Frame × Hub) :=
  match s with
  | none => .error .notConnected
  | some (.bound _ b) =>
    match (hub.channelsOf b).toOwner with
    | [] => .ok (none, hub)
    | f :: rest => .ok (some f, hub.modify b fun c => { c with toOwner := rest })
  | some (.connected e b) =>
    match (hub.channelsOf b).toPeers with
    | [] => if (hub.channelsOf b).live then .ok (none, hub) else .error (.disconnected e)
    | f :: rest => .ok (some f, hub.modify b fun c => { c with toPeers := rest })

/-- Receives the next frame, waiting for a time in which none comes unless one is there. -/
def receiveWithin (hub : Hub) (s : Socket) (time : Duration) : Except Error (Frame × Hub) :=
  match hub.receive s with
  | .ok (some f, hub) => .ok (f, hub)
  | .ok (none, _) => .error (.timeout time)
  | .error e => .error e

/-- The frames that wait for a socket. -/
def waiting (hub : Hub) : Socket → List Frame
  | none => []
  | some (.bound _ b) => (hub.channelsOf b).toOwner
  | some (.connected _ b) => (hub.channelsOf b).toPeers

/-- The hub with other frames waiting for a socket. -/
def setWaiting (hub : Hub) (s : Socket) (frames : List Frame) : Hub :=
  match s with
  | none => hub
  | some (.bound _ b) => hub.modify b fun c => { c with toOwner := frames }
  | some (.connected _ b) => hub.modify b fun c => { c with toPeers := frames }

end Hub
end DebugBridge
