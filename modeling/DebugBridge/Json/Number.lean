import DebugBridge.Json.Value
import DebugBridge.Text.Utf8

/-!
# Numbers of JSON text

A number is an integer if it has neither fraction nor exponent and lies within 64 bits, otherwise a
binary64 number. A significand keeps the leading digits that fit 64 bits and is scaled by a power of
ten in one multiplication or division, so its last bit may differ from the nearest number's.
-/

namespace DebugBridge.Json

/-- Why a text is no value: it ends too early, or it has something that no value has there. -/
inductive ReadError where
  | cutShort
  | illFormed
deriving DecidableEq, Repr

/-- A value read from the front of a byte sequence, with the bytes after it. -/
abbrev Reading (α : Type) := Except ReadError (α × Bytes)

/-- Whether a byte is a decimal digit. -/
def isDigit (b : UInt8) : Bool :=
  48 ≤ b.toNat && b.toNat ≤ 57

/-- The digits at the front, by value, and the bytes after them. -/
def splitDigits (bs : Bytes) : List Nat × Bytes :=
  ((bs.takeWhile isDigit).map fun b => b.toNat - 48, bs.dropWhile isDigit)

/-- Appends digits to a significand while it stays below `2 ^ 64`. Also gives the number of digits
left over. -/
def absorb (significand : Nat) : List Nat → Nat × Nat
  | [] => (significand, 0)
  | d :: ds =>
    if significand * 10 + d < 18446744073709551616 then absorb (significand * 10 + d) ds
    else (significand, ds.length + 1)

/-- The binary64 number nearest to `10 ^ e`. -/
def powerOfTen (e : Nat) : Float :=
  Float.ofScientific 1 false e

/-- `f * 10 ^ e`, and nothing if that is too large. A power below `10 ^ -308` is divided out in
several steps. -/
def scale (f : Float) (e : Int) : Option Float :=
  if 0 ≤ e then
    if f == 0 then some f
    else if e ≤ 308 then
      let g := f * powerOfTen e.toNat
      if g.isInf then none else some g
    else none
  else if -308 ≤ e then some (f / powerOfTen e.natAbs)
  else if f == 0 then some f
  else scale (f / powerOfTen 308) (e + 308)
termination_by (-e).toNat
decreasing_by omega

/-- The binary64 number `significand * 10 ^ e`, with its sign. -/
def scaled (negative : Bool) (significand : Nat) (e : Int) : Except ReadError Json :=
  match scale (Float.ofNat significand) e with
  | some f => .ok (.float (if negative then -f else f).toBits)
  | none => .error .illFormed

/-- The zero that stands for a number too small to tell from it. -/
def zero (negative : Bool) : Json :=
  .float (if negative then -(0 : Float) else 0).toBits

/-- An integer literal. A negative zero, and an integer below `-2 ^ 63`, is a binary64 number. -/
def integer (negative : Bool) (significand : Nat) : Json :=
  if negative then
    if 0 < significand ∧ significand ≤ 9223372036854775808 then .int (-(significand : Int))
    else .float (-(Float.ofNat significand)).toBits
  else .int significand

/-- The exponent's digits, after its sign. An exponent from `2 ^ 31` on makes the number zero or too
large. -/
def readExponentDigits (negative : Bool) (significand : Nat) (e : Int) (down : Bool)
    (bs : Bytes) : Reading Json :=
  match bs with
  | [] => .error .cutShort
  | b :: _ =>
    if isDigit b then
      let (digits, rest) := splitDigits bs
      let size : Nat := digits.foldl (fun n d => n * 10 + d) 0
      if 2147483648 ≤ size then
        if significand = 0 ∨ down then .ok (zero negative, rest) else .error .illFormed
      else
        (scaled negative significand (if down then e - (size : Int) else e + (size : Int))).map fun v => (v, rest)
    else .error .illFormed

/-- The end of a number with a fraction or too many digits: an exponent, if one is written. -/
def readExponent (negative : Bool) (significand : Nat) (e : Int) (bs : Bytes) : Reading Json :=
  match bs with
  | b :: rest =>
    if b = 101 ∨ b = 69 then
      match rest with
      | 43 :: rest => readExponentDigits negative significand e false rest
      | 45 :: rest => readExponentDigits negative significand e true rest
      | _ => readExponentDigits negative significand e false rest
    else (scaled negative significand e).map fun v => (v, bs)
  | [] => (scaled negative significand e).map fun v => (v, bs)

/-- A number after its sign. -/
def readNumber (negative : Bool) (bs : Bytes) : Reading Json :=
  match bs with
  | [] => .error .cutShort
  | b :: _ =>
    if isDigit b then
      let (whole, rest) := splitDigits bs
      if b = 48 ∧ 1 < whole.length then .error .illFormed
      else
        let (significand, unread) := absorb 0 whole
        match rest with
        | 46 :: rest =>
          match rest with
          | [] => .error .cutShort
          | c :: _ =>
            if isDigit c then
              let (fraction, rest) := splitDigits rest
              let (significand, beyond) := absorb significand fraction
              readExponent negative significand
                ((unread : Int) - ((fraction.length : Int) - beyond)) rest
            else .error .illFormed
        | 101 :: _ | 69 :: _ => readExponent negative significand unread rest
        | _ =>
          if unread = 0 then .ok (integer negative significand, rest)
          else (scaled negative significand unread).map fun v => (v, rest)
    else .error .illFormed

end DebugBridge.Json
