import DebugBridge.Bridge.Courier

/-!
# The bridge with its couriers

The whole of a bridge at work: the session, as the control side has it, and the couriers of all the workers that it
ever made, the newest last. They share the hub, the stopped threads and the diagnostic file. A worker that was waited
for in vain stays among the couriers, and what it does goes on among the others' doings.

What happens beside the control side is a `Happening`. `deeds` remembers, in order, all that was done.
-/

namespace DebugBridge

/-- What was done, by a courier or by the control side. -/
inductive Deed where
  /-- A courier did something. -/
  | courier (n : Nat) (note : Note)
  /-- The adapter was launched, with these lines for the diagnostic file. -/
  | launched (lines : List String)
  /-- The control side sent a frame over a socket. -/
  | sent (s : Socket) (frame : Frame)
  /-- The control side waited for a worker's end. -/
  | waited (result : Except Error Unit)
  /-- It forgot which threads are stopped. -/
  | forgotStopped
  /-- It forgot which threads are known. -/
  | forgotKnown
deriving DecidableEq, Repr

/-- A bridge at work. For `session` its worker is no more than that it is there, as it was when it was made. -/
structure Bridge (σ : Type) where
  session : Session
  couriers : List Courier
  outside : σ
  deeds : List Deed

/-- What happens beside the control side. -/
inductive Happening (σ : Type) where
  /-- A courier has a turn. Couriers are numbered from the oldest on. -/
  | turn (n : Nat) (turn : Turn)
  /-- Something changes in the interpreter, the shell or the file system. -/
  | outside (change : σ → σ)
  /-- Another user of the hub does something there. -/
  | elsewhere (others : Bridge σ → Hub)

/-- A place within a call at which other things happen before the control side goes on. -/
inductive Point where
  /-- The directory for logs was made. -/
  | logged
  /-- The adapter was launched. -/
  | launched
  /-- The directory for cells was made. -/
  | staged
  /-- The first control endpoint was bound. -/
  | halfBound
  /-- The worker was asked whether it is ready, and is waited for. -/
  | asked
  /-- The session is about to be shut down. -/
  | leaving
  /-- The first control endpoint was freed. -/
  | halfFree
  /-- The worker's end is waited for. -/
  | waiting
  /-- It was forgotten which threads are stopped. -/
  | halfForgotten
  /-- It was decided what is passed on for a request. -/
  | considered
  /-- The header of a request was sent. -/
  | headed
  /-- The request was sent, and the reply is waited for. -/
  | passed
  /-- The reply was taken. -/
  | collected
deriving DecidableEq, Repr

/-- What happens in the course of a call, at each of its places. -/
abbrev Schedule (σ : Type) := Point → List (Happening σ)

namespace Bridge

variable {σ : Type}

/-- A bridge of which nothing was done yet. -/
def ofSession (session : Session) (outside : σ) : Bridge σ :=
  ⟨session, [], outside, []⟩

/-- The bridge after something happened. -/
def happen (b : Bridge σ) : Happening σ → Bridge σ
  | .turn n turn =>
    match b.couriers[n]? with
    | none => b
    | some c =>
      let (c, session, notes) := c.take b.session turn
      { b with session, couriers := b.couriers.set n c, deeds := b.deeds ++ notes.map (.courier n) }
  | .outside change => { b with outside := change b.outside }
  | .elsewhere others => { b with session := { b.session with hub := others b } }

/-- The bridge after all that happens at a place. -/
def pause (b : Bridge σ) (during : Schedule σ) (p : Point) : Bridge σ :=
  (during p).foldl happen b

/-- The bridge with another deed. -/
def done (b : Bridge σ) (deed : Deed) : Bridge σ :=
  { b with deeds := b.deeds ++ [deed] }

/-- Has the outside do something. -/
def ask {α : Type} (b : Bridge σ) (f : σ → α × σ) : α × Bridge σ :=
  ((f b.outside).1, { b with outside := (f b.outside).2 })

/-- Sends a frame over a socket of the control side. -/
def send (b : Bridge σ) (s : Socket) (frame : Frame) : Except Error (Bridge σ) :=
  match b.session.hub.send s frame with
  | .error e => .error e
  | .ok hub => .ok ({ b with session := { b.session with hub } }.done (.sent s frame))

end Bridge
end DebugBridge
