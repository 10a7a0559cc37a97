import DebugBridge.Text.Unsigned

/-!
# Ports that are taken

The system lists its sockets in a table, one a line: a number, the local address, the peer's address and the
state, each number in hexadecimal digits. A port is taken while a socket listens on it.
-/

namespace DebugBridge.Launch

/-- The number that hexadecimal digits write. -/
def readHex? (cs : List Char) : Option Nat :=
  if cs.isEmpty then none
  else cs.foldlM (fun n c => (hexDigitValue? c.toNat).map fun d => n * 16 + d) 0

/-- The words of a line. -/
def words (line : List Char) : List (List Char) :=
  (line.splitBy fun a b => (a == ' ') == (b == ' ')).filter fun w => w.head? ≠ some ' '

/-- The state of a socket that listens. -/
def listening : List Char := ['0', 'A']

/-- The port on which the socket of a line listens. -/
def takenPort? (line : List Char) : Option Nat :=
  match words line with
  | _ :: address :: _ :: state :: _ =>
    if state = listening then readHex? (address.reverse.takeWhile (· ≠ ':')).reverse else none
  | _ => none

/-- The ports that are taken by a table's lines. -/
def takenPorts (table : String) : List Nat :=
  (table.toList.splitOn '\n').filterMap takenPort?

/-- The second of these two sockets listens, the first does not. -/
example : takenPorts
    "  sl  local rem st\n   0: 0100007F:1F90 00000000:0000 01 0\n   1: 0100007F:162E 0:0 0A 0\n" =
      [5678] := by decide +kernel

end DebugBridge.Launch
