import DebugBridge.Text.Utf8

/-!
# Hash of a cell source

The 32-bit Murmur hash, second version, of a byte sequence under a seed. Words of four bytes, the low one
first, are mixed in one after the other; the bytes that fill no word come last.
-/

namespace DebugBridge.Cell

/-- The multiplier of the hash. -/
def multiplier : UInt32 := 0x5bd1e995

/-- The word of four bytes, the low one first. -/
def word (a b c d : UInt8) : UInt32 :=
  a.toUInt32 ||| b.toUInt32 <<< 8 ||| c.toUInt32 <<< 16 ||| d.toUInt32 <<< 24

/-- A word before it enters the state. -/
def mix (k : UInt32) : UInt32 :=
  let k := k * multiplier
  (k ^^^ k >>> 24) * multiplier

/-- The state after one word. -/
def absorbWord (h k : UInt32) : UInt32 :=
  h * multiplier ^^^ mix k

/-- The state after the last bytes, at most three. -/
def absorbTail (h : UInt32) : Bytes → UInt32
  | [] => h
  | [a] => (h ^^^ a.toUInt32) * multiplier
  | [a, b] => (h ^^^ b.toUInt32 <<< 8 ^^^ a.toUInt32) * multiplier
  | a :: b :: c :: _ => (h ^^^ c.toUInt32 <<< 16 ^^^ b.toUInt32 <<< 8 ^^^ a.toUInt32) * multiplier

/-- The state after all bytes. -/
def absorb : UInt32 → Bytes → UInt32
  | h, a :: b :: c :: d :: rest => absorb (absorbWord h (word a b c d)) rest
  | h, tail => absorbTail h tail

/-- The hash that a state gives. -/
def finish (h : UInt32) : UInt32 :=
  let h := (h ^^^ h >>> 13) * multiplier
  h ^^^ h >>> 15

/-- The hash of a byte sequence. Its length enters modulo `2 ^ 32`. -/
def hash (seed : UInt32) (bs : Bytes) : UInt32 :=
  finish (absorb (seed ^^^ UInt32.ofNat bs.length) bs)

end DebugBridge.Cell
