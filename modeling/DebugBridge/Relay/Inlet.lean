import DebugBridge.Wire

/-!
# The adapter's stream

The bytes that come from the adapter, cut into messages as they are complete. The end of the stream, and the
first bytes that are no message, lose the adapter for good. A header with a length for which there is no room
ends the reading as well, but nobody is told.
-/

namespace DebugBridge

/-- What comes from the adapter. -/
inductive Arrival where
  | message (v : Json)
  | lost
deriving DecidableEq, Repr

/-- The stream so far. -/
inductive Inlet where
  /-- It is read; `buffer` holds the bytes of an incomplete message. -/
  | open (buffer : Bytes)
  /-- It is read no longer, and the adapter was given up. -/
  | lost
  /-- It is read no longer, and nobody knows. -/
  | deaf
deriving DecidableEq, Repr

namespace Inlet

/-- A stream without bytes. -/
def start : Inlet := .open []

/-- The messages that are complete in a buffer. Every message takes a byte, so a fuel above the bytes'
number suffices. -/
def drain : (fuel : Nat) → Bytes → List Arrival × Inlet
  | 0, buffer => ([], .open buffer)
  | fuel + 1, buffer =>
    match Wire.next buffer with
    | .waiting => ([], .open buffer)
    | .failed .capacity => ([], .deaf)
    | .failed _ => ([.lost], .lost)
    | .message v rest =>
      let (others, inlet) := drain fuel rest
      (.message v :: others, inlet)

/-- Takes in more bytes. -/
def feed (inlet : Inlet) (bytes : Bytes) : List Arrival × Inlet :=
  match inlet with
  | .lost => ([], .lost)
  | .deaf => ([], .deaf)
  | .open buffer => drain (buffer.length + bytes.length + 1) (buffer ++ bytes)

/-- Takes in the end of the stream. -/
def finish (inlet : Inlet) : List Arrival × Inlet :=
  match inlet with
  | .lost => ([], .lost)
  | .deaf => ([], .deaf)
  | .open buffer =>
    match Wire.read buffer with
    | .error .capacity => ([], .deaf)
    | _ => ([.lost], .lost)

end Inlet
end DebugBridge
