import DebugBridge.Text.Unsigned

/-!
# Shortest decimal form of a binary number

A finite binary64 number is read off its bit pattern as `m * 2 ^ q`. Every real number of an interval
around it rounds to it; `shortest` gives the decimal number of that interval with the fewest digits,
and of those the nearest. All arithmetic is exact, on natural numbers.
-/

namespace DebugBridge.Decimal

/-- A positive number `mantissa * 2 ^ exponent` as its bit pattern gives it. `atPower` tells that the
next smaller number is only half as far away as the next larger one. -/
structure Binary where
  mantissa : Nat
  exponent : Int
  atPower : Bool
deriving DecidableEq, Repr

/-- Whether the sign bit, the topmost one, is set. -/
def isNegative (bits : UInt64) : Bool :=
  bits.toNat / 9223372036854775808 == 1

/-- The natural number `base ^ e`, and one where `e` is negative. -/
def power (base : Nat) (e : Int) : Nat :=
  base.pow e.toNat

/-- The magnitude that a bit pattern of a finite number stands for: the lower 52 bits are its fraction, the next 11
its exponent. -/
def magnitude (bits : UInt64) : Binary :=
  let fraction : Nat := bits.toNat % power 2 52
  let field : Nat := bits.toNat / power 2 52 % power 2 11
  if field = 0 then ⟨fraction, -1074, false⟩
  else ⟨power 2 52 + fraction, (field : Int) - 1075, fraction == 0 && decide (1 < field)⟩

/-- The greatest `k` with `10 ^ k ≤ m * 2 ^ q`, for `m` above zero. -/
def leading (b : Binary) : Int :=
  let num := b.mantissa * power 2 b.exponent
  let den := power 2 (-b.exponent)
  if den ≤ num then ((decimal (num / den)).length : Int) - 1
  else
    match (List.range 400).find? fun t => den ≤ num * Nat.pow 10 t with
    | some t => -(t : Int)
    | none => -400

/-- The decimal number of `count` digits that rounds to `b`, as digits and exponent, if there is one;
the nearer one if there are two, and the even one if both are equally near. -/
def atGrid (b : Binary) (k : Int) (count : Nat) : Option (Nat × Int) :=
  let shift := (count : Int) - 1 - k
  let num := power 2 (b.exponent - 2) * power 10 shift
  let den := power 2 (2 - b.exponent) * power 10 (-shift)
  let value := 4 * b.mantissa * num
  let low := (4 * b.mantissa - (if b.atPower then 1 else 2)) * num
  let high := (4 * b.mantissa + 2) * num
  let closed := b.mantissa % 2 == 0
  let below := value / den
  let above := below + 1
  let hitsBelow := if closed then decide (low ≤ below * den) else decide (low < below * den)
  let hitsAbove := if closed then decide (above * den ≤ high) else decide (above * den < high)
  let nearerBelow := decide (2 * value < (2 * below + 1) * den) ||
    (2 * value == (2 * below + 1) * den && below % 2 == 0)
  match hitsBelow, hitsAbove with
  | true, true => some (if nearerBelow then below else above, -shift)
  | true, false => some (below, -shift)
  | false, true => some (above, -shift)
  | false, false => none

/-- The digits without the zeros at their end; `fuel` bounds the zeros. -/
def dropZeros : Nat → Nat × Int → Nat × Int
  | 0, d => d
  | fuel + 1, (n, e) => if n ≠ 0 ∧ n % 10 = 0 then dropZeros fuel (n / 10, e + 1) else (n, e)

/-- The shortest decimal form of a positive number, as digits and exponent. -/
def shortest (b : Binary) : Nat × Int :=
  let k := leading b
  let grids := (List.range 17).filterMap fun n => atGrid b k (n + 1)
  dropZeros 20 (grids.headD (0, 0))

end DebugBridge.Decimal
