import DebugBridge.Json.Number
import DebugBridge.Text.Unsigned

/-!
# Reading JSON text

`decode` reads one value from the whole of a byte sequence. Containers nest at most `depthLimit` deep.
The first fault from the left decides the error, and a text that ends within a value is told from one
that has a wrong byte. The text of a string must be well-formed UTF-8, which is checked at its end.
-/

namespace DebugBridge.Json

/-- Containers that may stand within each other. -/
def depthLimit : Nat := 127

/-- White space between the tokens. -/
def isSpace (b : UInt8) : Bool :=
  b == 32 || b == 9 || b == 10 || b == 13

/-- The bytes after white space. -/
def skipSpace (bs : Bytes) : Bytes :=
  bs.dropWhile isSpace

/-- Reads the rest of a word that stands for a value. -/
def readWord (v : Json) : (word : Bytes) → Bytes → Reading Json
  | [], bs => .ok (v, bs)
  | _ :: _, [] => .error .cutShort
  | w :: ws, b :: bs => if b = w then readWord v ws bs else .error .illFormed

/-- Four hexadecimal digits. With fewer bytes left the text ends too early, whatever they are. -/
def readUnit : Bytes → Reading Nat
  | a :: b :: c :: d :: rest =>
    match hexDigitValue? a.toNat, hexDigitValue? b.toNat, hexDigitValue? c.toNat,
        hexDigitValue? d.toNat with
    | some a, some b, some c, some d => .ok (((a * 16 + b) * 16 + c) * 16 + d, rest)
    | _, _, _, _ => .error .illFormed
  | _ => .error .cutShort

/-- The second half of a surrogate pair whose first half is `high`. -/
def readLowSurrogate (high : Nat) : Bytes → Reading Bytes
  | [] => .error .cutShort
  | a :: rest =>
    if a = 92 then
      match rest with
      | [] => .error .cutShort
      | b :: rest =>
        if b = 117 then
          match readUnit rest with
          | .error e => .error e
          | .ok (low, rest) =>
            if 0xDC00 ≤ low ∧ low ≤ 0xDFFF then
              .ok (Utf8.encodeChar
                (Char.ofNat ((high - 0xD800) * 0x400 + (low - 0xDC00) + 0x10000)), rest)
            else .error .illFormed
        else .error .illFormed
    else .error .illFormed

/-- A character written by its code units, after the `u`. Surrogates stand only in pairs. -/
def readUnicode (bs : Bytes) : Reading Bytes :=
  match readUnit bs with
  | .error e => .error e
  | .ok (n, rest) =>
    if 0xDC00 ≤ n ∧ n ≤ 0xDFFF then .error .illFormed
    else if 0xD800 ≤ n ∧ n ≤ 0xDBFF then readLowSurrogate n rest
    else .ok (Utf8.encodeChar (Char.ofNat n), rest)

/-- The byte that a letter after a backslash stands for. -/
def escaped? (b : UInt8) : Option UInt8 :=
  if b = 34 ∨ b = 92 ∨ b = 47 then some b
  else if b = 98 then some 8
  else if b = 102 then some 12
  else if b = 110 then some 10
  else if b = 114 then some 13
  else if b = 116 then some 9
  else none

/-- An escape sequence after its backslash, as the bytes it stands for. -/
def readEscape : Bytes → Reading Bytes
  | [] => .error .cutShort
  | b :: rest =>
    match escaped? b with
    | some plain => .ok ([plain], rest)
    | none => if b = 117 then readUnicode rest else .error .illFormed

/-- The bytes of a string up to its closing quote, after those in `done` (latest first). Every
character takes a byte, so a fuel of the bytes' number suffices. -/
def readText : (fuel : Nat) → (done : Bytes) → Bytes → Reading String
  | 0, _, _ => .error .cutShort
  | _, _, [] => .error .cutShort
  | fuel + 1, done, b :: rest =>
    if b = 34 then
      match Utf8.decode? done.reverse with
      | some s => .ok (s, rest)
      | none => .error .illFormed
    else if b = 92 then
      match readEscape rest with
      | .ok (bytes, rest) => readText fuel (bytes.reverse ++ done) rest
      | .error e => .error e
    else if b.toNat < 32 then .error .illFormed
    else readText fuel (b :: done) rest

/-- A string after its opening quote. -/
def readString (bs : Bytes) : Reading String :=
  readText bs.length [] bs

/-- The items of an array up to its closing bracket, after those in `done` (latest first). Every item
takes a byte, so a fuel of the bytes' number suffices. -/
def readItems (value : Bytes → Reading Json) :
    (fuel : Nat) → (done : List Json) → Bytes → Reading (List Json)
  | 0, _, _ => .error .cutShort
  | fuel + 1, done, bs =>
    match value bs with
    | .error e => .error e
    | .ok (v, rest) =>
      match skipSpace rest with
      | [] => .error .cutShort
      | b :: rest =>
        if b = 93 then .ok ((v :: done).reverse, rest)
        else if b = 44 then readItems value fuel (v :: done) rest
        else .error .illFormed

/-- An array after its opening bracket. -/
def readArray (value : Bytes → Reading Json) (bs : Bytes) : Reading Json :=
  match skipSpace bs with
  | [] => .error .cutShort
  | b :: rest =>
    if b = 93 then .ok (.arr [], rest)
    else (readItems value (b :: rest).length [] (b :: rest)).map fun (vs, rest) => (.arr vs, rest)

/-- A key and the colon after it. -/
def readKey (bs : Bytes) : Reading String :=
  match skipSpace bs with
  | [] => .error .cutShort
  | b :: rest =>
    if b = 34 then
      match readString rest with
      | .error e => .error e
      | .ok (key, rest) =>
        match skipSpace rest with
        | [] => .error .cutShort
        | c :: rest => if c = 58 then .ok (key, rest) else .error .illFormed
    else .error .illFormed

/-- The members of an object up to its closing brace, after those in `done` (latest first). -/
def readMembers (value : Bytes → Reading Json) :
    (fuel : Nat) → (done : List (String × Json)) → Bytes → Reading (List (String × Json))
  | 0, _, _ => .error .cutShort
  | fuel + 1, done, bs =>
    match readKey bs with
    | .error e => .error e
    | .ok (key, rest) =>
      match value rest with
      | .error e => .error e
      | .ok (v, rest) =>
        match skipSpace rest with
        | [] => .error .cutShort
        | b :: rest =>
          if b = 125 then .ok (((key, v) :: done).reverse, rest)
          else if b = 44 then readMembers value fuel ((key, v) :: done) rest
          else .error .illFormed

/-- An object after its opening brace. -/
def readObject (value : Bytes → Reading Json) (bs : Bytes) : Reading Json :=
  match skipSpace bs with
  | [] => .error .cutShort
  | b :: rest =>
    if b = 125 then .ok (.obj [], rest)
    else
      (readMembers value (b :: rest).length [] (b :: rest)).map fun (ms, rest) =>
        (ofMembers ms, rest)

/-- A value after white space; `inner` reads the values within a container, if one may begin. -/
def readAny (inner : Option (Bytes → Reading Json)) (bs : Bytes) : Reading Json :=
  match skipSpace bs with
  | [] => .error .cutShort
  | b :: rest =>
    if b = 110 then readWord .null [117, 108, 108] rest
    else if b = 116 then readWord (.bool true) [114, 117, 101] rest
    else if b = 102 then readWord (.bool false) [97, 108, 115, 101] rest
    else if b = 34 then (readString rest).map fun (s, rest) => (.str s, rest)
    else if b = 45 then readNumber true rest
    else if isDigit b then readNumber false (b :: rest)
    else if b = 91 then
      match inner with
      | some value => readArray value rest
      | none => .error .illFormed
    else if b = 123 then
      match inner with
      | some value => readObject value rest
      | none => .error .illFormed
    else .error .illFormed

/-- A value whose containers nest at most `limit` deep. -/
def readValue : (limit : Nat) → Bytes → Reading Json
  | 0 => readAny none
  | limit + 1 => readAny (some (readValue limit))

/-- The value of a whole text whose containers nest at most `limit` deep. -/
def decodeWithin (limit : Nat) (bs : Bytes) : Except ReadError Json :=
  match readValue limit bs with
  | .error e => .error e
  | .ok (v, rest) =>
    match skipSpace rest with
    | [] => .ok v
    | _ :: _ => .error .illFormed

/-- The value of a whole text. -/
def decode (bs : Bytes) : Except ReadError Json :=
  decodeWithin depthLimit bs

end DebugBridge.Json
