/-!
# Trimming

The white space of Unicode, and taking characters off the ends of a text.
-/

namespace DebugBridge

/-- The characters with the Unicode property White_Space. -/
def isBlank (c : Char) : Bool :=
  let n := c.toNat
  (0x9 ≤ n && n ≤ 0xD) || n == 0x20 || n == 0x85 || n == 0xA0 || n == 0x1680 ||
    (0x2000 ≤ n && n ≤ 0x200A) || n == 0x2028 || n == 0x2029 || n == 0x202F || n == 0x205F ||
    n == 0x3000

/-- A list without the members at its end that satisfy `p`. -/
def dropLastWhile {α : Type} (p : α → Bool) (xs : List α) : List α :=
  (xs.reverse.dropWhile p).reverse

/-- What follows `front` in a text that begins with it. -/
def afterFront? : (front : List Char) → List Char → Option (List Char)
  | [], text => some text
  | _ :: _, [] => none
  | f :: front, c :: text => if f = c then afterFront? front text else none

/-- A text without the blanks at its ends. -/
def trimBlank (cs : List Char) : List Char :=
  dropLastWhile isBlank (cs.dropWhile isBlank)

end DebugBridge
