import DebugBridge.Error
import DebugBridge.Json.Printer
import DebugBridge.Json.Reader
import DebugBridge.Text.Trim

/-!
# Framed messages

A message on a byte stream is a header, a blank line and a payload of JSON text. The header's lines end
in a line feed, with or without carriage returns before it, and the last `Content-Length` line gives the
payload's bytes; other lines are skipped, as are blank lines before the header. `read` takes a stream
that has ended, `next` one that may go on.
-/

namespace DebugBridge.Wire

/-- The lines of a header so far: whether one was not blank, and the length last given. -/
structure Header where
  begun : Bool
  length : Option Nat
deriving DecidableEq, Repr

/-- No line yet. -/
def Header.empty : Header := ⟨false, none⟩

/-- The name that introduces the length. -/
def lengthName : List Char := "Content-Length:".toList

/-- A line that is not blank: the length it gives, if it gives one. -/
def lengthOf (line : List Char) : Except Error (Option Nat) :=
  match afterFront? lengthName line with
  | none => .ok none
  | some value =>
    match readUnsigned 64 (trimBlank value) with
    | some n => .ok (some n)
    | none => .error (.malformed (.badHeader (String.ofList line)))

/-- The header after one more line, and nothing if the line is the blank one that closes it. -/
def Header.addLine (h : Header) (line : Bytes) : Except Error (Option Header) :=
  match Utf8.decodeChars? line with
  | none => .error (.io .invalidData "stream did not contain valid UTF-8")
  | some text =>
    match dropLastWhile (fun c => c == '\r' || c == '\n') text with
    | [] => .ok (if h.begun then none else some h)
    | c :: rest =>
      (lengthOf (c :: rest)).map fun length => some ⟨true, length.or h.length⟩

/-- Where a header leaves off. -/
inductive HeaderEnd where
  /-- Its closing line was read; `length` is the last one given. -/
  | closed (length : Option Nat) (rest : Bytes)
  /-- The bytes end within `line`. -/
  | within (h : Header) (line : Bytes)
deriving DecidableEq, Repr

/-- Reads header lines; `line` holds the bytes of the current one, latest first. -/
def scanHeader (h : Header) (line : Bytes) : Bytes → Except Error HeaderEnd
  | [] => .ok (.within h line.reverse)
  | b :: rest =>
    if b = 10 then
      match h.addLine line.reverse with
      | .error e => .error e
      | .ok none => .ok (.closed h.length rest)
      | .ok (some h) => scanHeader h [] rest
    else scanHeader h (b :: line) rest

/-- The first length for which there is no room. No payload is that long, so it is missing wherever the length is
given. -/
def payloadLimit : Nat := 9223372036854775808

/-- The payload after a header, as a value, and the bytes after it. -/
def readPayload (length : Option Nat) (bs : Bytes) : Except Error (Json × Bytes) :=
  match length with
  | none => .error (.malformed .noLength)
  | some n =>
    let payload := bs.take n
    if payload.length < n then
      .error (if n < payloadLimit then .io .unexpectedEnd "failed to fill whole buffer" else .capacity)
    else
      match Json.decode payload with
      | .ok v => .ok (v, bs.drop n)
      | .error e => .error (.json e)

/-- Reads one message of a stream that has ended, with the bytes after it; nothing if the stream ends
before a header. A last line without a line feed counts as a line. -/
def read (bs : Bytes) : Except Error (Option (Json × Bytes)) :=
  match scanHeader .empty [] bs with
  | .error e => .error e
  | .ok (.closed length rest) => (readPayload length rest).map some
  | .ok (.within h []) => if h.begun then .error (.malformed .cutHeader) else .ok none
  | .ok (.within h (b :: line)) =>
    match h.addLine (b :: line) with
    | .error e => .error e
    | .ok none => (readPayload h.length []).map some
    | .ok (some h) => if h.begun then .error (.malformed .cutHeader) else .ok none

/-- What the bytes received so far hold. -/
inductive Next where
  | message (v : Json) (rest : Bytes)
  | waiting
  | failed (e : Error)
deriving DecidableEq, Repr

/-- Reads one message of a stream that may go on. -/
def next (bs : Bytes) : Next :=
  match scanHeader .empty [] bs with
  | .error e => .failed e
  | .ok (.within _ _) => .waiting
  | .ok (.closed none _) => .failed (.malformed .noLength)
  | .ok (.closed (some n) rest) =>
    let payload := rest.take n
    if payloadLimit ≤ n then .failed .capacity
    else if payload.length < n then .waiting
    else
      match Json.decode payload with
      | .ok v => .message v (rest.drop n)
      | .error e => .failed (.json e)

/-- Why reading a stream came to its end. -/
inductive Finish where
  | ended
  | failed (e : Error)
deriving DecidableEq, Repr

/-- Reads messages to the end of a stream or to the first failure. Every message takes a byte, so a fuel
above the bytes' number suffices. -/
def readMany : (fuel : Nat) → Bytes → List Json × Finish
  | 0, _ => ([], .ended)
  | fuel + 1, bs =>
    match read bs with
    | .error e => ([], .failed e)
    | .ok none => ([], .ended)
    | .ok (some (v, rest)) =>
      let (vs, finish) := readMany fuel rest
      (v :: vs, finish)

/-- The messages of a whole stream, and how it ended. -/
def readAll (bs : Bytes) : List Json × Finish :=
  readMany (bs.length + 1) bs

/-- The bytes of one message. -/
def write (v : Json) : Bytes :=
  let payload := Json.encode v
  Utf8.encodeChars (lengthName ++ ' ' :: (decimal payload.length ++ ['\r', '\n', '\r', '\n'])) ++
    payload

end DebugBridge.Wire
