import DebugBridge.Decimal.Shortest

/-!
# Layout of decimal numbers

How the digits of a number are set out: with a point among them as long as the exponent is small, and
with a written exponent otherwise.
-/

namespace DebugBridge.Decimal

/-- The decisions of a decimal layout: from which leading exponent to which one the point stands among
the digits, and whether a written exponent always has a sign. -/
structure Layout where
  least : Int
  most : Int
  plusSign : Bool
deriving DecidableEq, Repr

/-- Digits with a point among them; `lead` is the exponent of the first digit. There is at least one
digit on either side of the point. -/
def positional (digits : List Char) (lead : Int) : List Char :=
  if lead < 0 then
    '0' :: '.' :: (List.replicate (-lead - 1).toNat '0' ++ digits)
  else
    let whole := lead.toNat + 1
    if digits.length ≤ whole then
      digits ++ List.replicate (whole - digits.length) '0' ++ ['.', '0']
    else digits.take whole ++ '.' :: digits.drop whole

/-- Digits with a written exponent; a point follows the first digit if there are more. -/
def scientific (layout : Layout) (digits : List Char) (lead : Int) : List Char :=
  let front := match digits with
    | first :: second :: rest => first :: '.' :: second :: rest
    | short => short
  let sign := if lead < 0 then ['-'] else if layout.plusSign then ['+'] else []
  front ++ 'e' :: (sign ++ decimal lead.natAbs)

/-- The text of a finite binary64 number. -/
def render (layout : Layout) (bits : UInt64) : List Char :=
  let sign := if isNegative bits then ['-'] else []
  let size := magnitude bits
  if size.mantissa = 0 then sign ++ ['0', '.', '0']
  else
    let (n, e) := shortest size
    let digits := decimal n
    let lead := (digits.length : Int) - 1 + e
    if layout.least ≤ lead ∧ lead ≤ layout.most then sign ++ positional digits lead
    else sign ++ scientific layout digits lead

end DebugBridge.Decimal
