import DebugBridge.Decimal.Layout
import DebugBridge.Json.Value
import DebugBridge.Text.Utf8

/-!
# Writing JSON text

The compact text of a value: no white space, members in their order, and only quotes, backslashes and
control characters escaped. `pretty` sets out members and items on lines of their own.
-/

namespace DebugBridge.Json

/-- Numbers have their point among the digits from `0.00001` up to sixteen whole digits; a written
exponent has a sign. -/
def numbers : Decimal.Layout := ⟨-5, 15, true⟩

/-- A hexadecimal digit in lower case. -/
def hexDigit (n : Nat) : Char :=
  if n < 10 then Char.ofNat (48 + n) else Char.ofNat (87 + n)

/-- How a character is written within a string. -/
def escape (c : Char) : List Char :=
  if c = '"' then ['\\', '"']
  else if c = '\\' then ['\\', '\\']
  else if c.toNat < 32 then
    if c.toNat = 8 then ['\\', 'b']
    else if c.toNat = 9 then ['\\', 't']
    else if c.toNat = 10 then ['\\', 'n']
    else if c.toNat = 12 then ['\\', 'f']
    else if c.toNat = 13 then ['\\', 'r']
    else ['\\', 'u', '0', '0', hexDigit (c.toNat / 16), hexDigit (c.toNat % 16)]
  else [c]

/-- A string within quotes. -/
def quote (s : String) : List Char :=
  '"' :: (s.toList.flatMap escape ++ ['"'])

mutual

/-- The compact text of a value. -/
def chars : Json → List Char
  | .null => ['n', 'u', 'l', 'l']
  | .bool true => ['t', 'r', 'u', 'e']
  | .bool false => ['f', 'a', 'l', 's', 'e']
  | .int n => signedDecimal n
  | .float bits => Decimal.render numbers bits
  | .str s => quote s
  | .arr items => '[' :: charsItems items
  | .obj members => '{' :: charsMembers members

/-- Items and the closing bracket. -/
def charsItems : List Json → List Char
  | [] => [']']
  | [v] => chars v ++ [']']
  | v :: w :: rest => chars v ++ ',' :: charsItems (w :: rest)

/-- Members and the closing brace. -/
def charsMembers : List (String × Json) → List Char
  | [] => ['}']
  | [(k, v)] => quote k ++ ':' :: (chars v ++ ['}'])
  | (k, v) :: m :: rest => quote k ++ ':' :: (chars v ++ ',' :: charsMembers (m :: rest))

end

/-- The compact text of a value, as a string. -/
def text (v : Json) : String :=
  String.ofList (chars v)

/-- The compact text of a value, as bytes. -/
def encode (v : Json) : Bytes :=
  Utf8.encodeChars (chars v)

mutual

/-- The text of a value with items and members on lines of their own, two blanks deeper than the
container, which stands `level` steps deep. -/
def charsPretty (level : Nat) : Json → List Char
  | .arr [] => ['[', ']']
  | .obj [] => ['{', '}']
  | .arr (v :: rest) => '[' :: charsPrettyItems level (v :: rest)
  | .obj (m :: rest) => '{' :: charsPrettyMembers level (m :: rest)
  | v => chars v

/-- Items on lines of their own and the closing bracket. -/
def charsPrettyItems (level : Nat) : List Json → List Char
  | [] => '\n' :: (List.replicate (2 * level) ' ' ++ [']'])
  | v :: rest =>
    '\n' :: (List.replicate (2 * level + 2) ' ' ++ charsPretty (level + 1) v ++
      (if rest.isEmpty then [] else [',']) ++ charsPrettyItems level rest)

/-- Members on lines of their own and the closing brace. -/
def charsPrettyMembers (level : Nat) : List (String × Json) → List Char
  | [] => '\n' :: (List.replicate (2 * level) ' ' ++ ['}'])
  | (k, v) :: rest =>
    '\n' :: (List.replicate (2 * level + 2) ' ' ++ quote k ++ ':' :: ' ' ::
      charsPretty (level + 1) v ++
      (if rest.isEmpty then [] else [',']) ++ charsPrettyMembers level rest)

end

/-- The text of a value set out on lines. -/
def pretty (v : Json) : String :=
  String.ofList (charsPretty 0 v)

end DebugBridge.Json
