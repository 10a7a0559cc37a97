/-!
# UTF-8

Text and its octets. `encode` writes a string as octets, `decode?` accepts exactly well-formed octet
sequences, and `decodeLossy` replaces each maximal ill-formed part by one replacement character.
Both decoders run the same machine, which owes at most three continuation octets.
-/

namespace DebugBridge

/-- A sequence of octets. -/
abbrev Bytes := List UInt8

namespace Utf8

/-- The octets of one character: one octet below U+0080, two below U+0800, three below U+10000,
otherwise four. -/
def encodeChar (c : Char) : Bytes :=
  let n := c.toNat
  if n < 0x80 then [n.toUInt8]
  else if n < 0x800 then [(0xC0 + n / 64).toUInt8, (0x80 + n % 64).toUInt8]
  else if n < 0x10000 then
    [(0xE0 + n / 4096).toUInt8, (0x80 + n / 64 % 64).toUInt8, (0x80 + n % 64).toUInt8]
  else
    [(0xF0 + n / 262144).toUInt8, (0x80 + n / 4096 % 64).toUInt8, (0x80 + n / 64 % 64).toUInt8,
      (0x80 + n % 64).toUInt8]

/-- The octets of a list of characters, in order. -/
def encodeChars (cs : List Char) : Bytes :=
  cs.flatMap encodeChar

/-- The octets of a string. -/
def encode (s : String) : Bytes :=
  encodeChars s.toList

@[simp] theorem encodeChars_nil : encodeChars [] = [] := rfl

@[simp] theorem encodeChars_cons (c : Char) (cs : List Char) :
    encodeChars (c :: cs) = encodeChar c ++ encodeChars cs := by
  simp [encodeChars]

/-- Texts are encoded one after the other. -/
@[simp] theorem encodeChars_append (left right : List Char) :
    encodeChars (left ++ right) = encodeChars left ++ encodeChars right := by
  simp [encodeChars]

@[simp] theorem encode_append (left right : String) :
    encode (left ++ right) = encode left ++ encode right := by
  simp [encode]

/-- A character that has begun: `owed` continuation octets are missing, the next of them lies
within `low` and `high`, and `code` holds the bits read so far. -/
structure Pending where
  owed : Nat
  low : Nat
  high : Nat
  code : Nat
deriving DecidableEq, Repr

/-- What one octet does: it ends a character, it leaves one pending, or no character can have it
there. -/
inductive Step where
  | char (c : Char)
  | pending (p : Pending)
  | refused
deriving DecidableEq, Repr

/-- The first octet of a character. The bounds on the octet after it rule out overlong forms,
surrogates and code points above U+10FFFF. -/
def start (b : UInt8) : Step :=
  let n := b.toNat
  if n < 0x80 then .char (Char.ofNat n)
  else if n < 0xC2 then .refused
  else if n < 0xE0 then .pending ⟨1, 0x80, 0xBF, n - 0xC0⟩
  else if n = 0xE0 then .pending ⟨2, 0xA0, 0xBF, 0⟩
  else if n = 0xED then .pending ⟨2, 0x80, 0x9F, 0xD⟩
  else if n < 0xF0 then .pending ⟨2, 0x80, 0xBF, n - 0xE0⟩
  else if n = 0xF0 then .pending ⟨3, 0x90, 0xBF, 0⟩
  else if n < 0xF4 then .pending ⟨3, 0x80, 0xBF, n - 0xF0⟩
  else if n = 0xF4 then .pending ⟨3, 0x80, 0x8F, 4⟩
  else .refused

/-- A further octet of a character. -/
def Pending.next (p : Pending) (b : UInt8) : Step :=
  let n := b.toNat
  if p.low ≤ n ∧ n ≤ p.high then
    let code := p.code * 64 + (n - 0x80)
    if p.owed ≤ 1 then .char (Char.ofNat code)
    else .pending ⟨p.owed - 1, 0x80, 0xBF, code⟩
  else .refused

/-- One octet, between characters or within one. -/
def step : Option Pending → UInt8 → Step
  | none, b => start b
  | some p, b => p.next b

/-- Decodes after `done` (latest first), refusing ill-formed octets. -/
def decodeFrom : Option Pending → List Char → Bytes → Option (List Char)
  | none, done, [] => some done.reverse
  | some _, _, [] => none
  | p, done, b :: rest =>
    match step p b with
    | .char c => decodeFrom none (c :: done) rest
    | .pending q => decodeFrom (some q) done rest
    | .refused => none

/-- The characters of a well-formed octet sequence. -/
def decodeChars? (bs : Bytes) : Option (List Char) :=
  decodeFrom none [] bs

/-- The text of a well-formed octet sequence. -/
def decode? (bs : Bytes) : Option String :=
  (decodeChars? bs).map String.ofList

/-- Stands for octets that are no character. -/
def replacement : Char := Char.ofNat 0xFFFD

/-- Decodes after `done` (latest first). An octet that a pending character refuses ends that
character's part and is read again as a first octet. -/
def decodeLossyFrom : Option Pending → List Char → Bytes → List Char
  | none, done, [] => done.reverse
  | some _, done, [] => (replacement :: done).reverse
  | none, done, b :: rest =>
    match start b with
    | .char c => decodeLossyFrom none (c :: done) rest
    | .pending q => decodeLossyFrom (some q) done rest
    | .refused => decodeLossyFrom none (replacement :: done) rest
  | some p, done, b :: rest =>
    match p.next b with
    | .char c => decodeLossyFrom none (c :: done) rest
    | .pending q => decodeLossyFrom (some q) done rest
    | .refused =>
      match start b with
      | .char c => decodeLossyFrom none (c :: replacement :: done) rest
      | .pending q => decodeLossyFrom (some q) (replacement :: done) rest
      | .refused => decodeLossyFrom none (replacement :: replacement :: done) rest

/-- The text of any octet sequence, each maximal ill-formed part replaced. -/
def decodeLossy (bs : Bytes) : String :=
  String.ofList (decodeLossyFrom none [] bs)

end Utf8
end DebugBridge
