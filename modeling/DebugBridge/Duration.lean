import DebugBridge.Text.Unsigned

/-!
# Spans of time

A span of time in whole nanoseconds, written in the largest unit that leaves a whole part.
-/

namespace DebugBridge

/-- A span of time. -/
structure Duration where
  nanoseconds : Nat
deriving DecidableEq, Repr

namespace Duration

/-- A number of milliseconds. -/
def ofMillis (ms : Nat) : Duration := ⟨ms * 1000000⟩

/-- `count` decimal digits of a number, zeros in front. -/
def paddedDigits (count n : Nat) : List Char :=
  let digits := decimal n
  List.replicate (count - digits.length) '0' ++ digits

/-- A whole part, a fraction of `places` decimal places without the zeros at its end, and a unit. -/
def withFraction (whole fraction places : Nat) (unit : String) : String :=
  let digits := ((paddedDigits places fraction).reverse.dropWhile (· == '0')).reverse
  let point := if digits.isEmpty then [] else ['.']
  String.ofList (decimal whole ++ point ++ digits) ++ unit

/-- The text of a span: `0ns`, `250ms`, `1.5s`. -/
def text (d : Duration) : String :=
  let n := d.nanoseconds
  if 1000000000 ≤ n then withFraction (n / 1000000000) (n % 1000000000) 9 "s"
  else if 1000000 ≤ n then withFraction (n / 1000000) (n % 1000000) 6 "ms"
  else if 1000 ≤ n then withFraction (n / 1000) (n % 1000) 3 "µs"
  else withFraction n 0 0 "ns"

end Duration
end DebugBridge
