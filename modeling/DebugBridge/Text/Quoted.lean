import DebugBridge.Text.Unprintable

/-!
# Quoted text in messages

How a message shows a text that it complains about: within quotes, with a backslash before quotes and
backslashes, short names for the common controls and code points for whatever has no shape.
-/

namespace DebugBridge.Quoted

/-- A hexadecimal digit in lower case. -/
def hexDigit (n : Nat) : Char :=
  if n < 10 then Char.ofNat (48 + n) else Char.ofNat (87 + n)

/-- The hexadecimal digits of `n`, the leading one first, put before `tail`. -/
def hexOnto (n : Nat) (tail : List Char) : List Char :=
  if n < 16 then hexDigit n :: tail else hexOnto (n / 16) (hexDigit (n % 16) :: tail)

/-- How a character is shown. -/
def escape (c : Char) : List Char :=
  if c = '"' then ['\\', '"']
  else if c = '\\' then ['\\', '\\']
  else if c = '\n' then ['\\', 'n']
  else if c = '\r' then ['\\', 'r']
  else if c = '\t' then ['\\', 't']
  else if c.toNat = 0 then ['\\', '0']
  else if c.toNat < 32 ∨ (127 ≤ c.toNat ∧ isUnprintable c) then
    '\\' :: 'u' :: Char.ofNat 123 :: hexOnto c.toNat [Char.ofNat 125]
  else [c]

/-- A text within quotes. -/
def quote (s : String) : String :=
  String.ofList ('"' :: (s.toList.flatMap escape ++ ['"']))

end DebugBridge.Quoted
