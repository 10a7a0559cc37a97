import DebugBridge.Toml.Document

/-!
# Reading TOML text

`read?` gives the top table of a text, or nothing if the text is no document.
-/

namespace DebugBridge.Toml

/-- Arrays and tables in braces within each other, and parts of one key, stay below this number. -/
def nestingLimit : Nat := 80

/-- Characters of a key without quotes. -/
def isKeyChar (c : Char) : Bool :=
  ('a' ≤ c && c ≤ 'z') || ('A' ≤ c && c ≤ 'Z') || ('0' ≤ c && c ≤ '9') || c == '-' || c == '_'

/-- One part of a key. -/
def readKeyPart (cs : List Char) : Reading String :=
  match cs with
  | '"' :: _ => readLineString cs
  | '\'' :: _ => readLineString cs
  | _ =>
    match cs.span isKeyChar with
    | ([], _) => none
    | (part, rest) => some (String.ofList part, rest)

/-- The parts of a key up to the character after them; dots part them. -/
def readKeyParts : (fuel : Nat) → List Char → Reading (List String)
  | 0, _ => none
  | fuel + 1, cs =>
    match readKeyPart (skipSpace cs) with
    | none => none
    | some (part, rest) =>
      match skipSpace rest with
      | '.' :: rest => (readKeyParts fuel rest).map fun (parts, rest) => (part :: parts, rest)
      | rest => some ([part], rest)

/-- A key, as the path of tables it passes and its last part. -/
def readKey (cs : List Char) : Reading (List String × String) :=
  match readKeyParts (cs.length + 1) cs with
  | some (parts, rest) =>
    if parts.length < nestingLimit then
      parts.getLast?.map fun key => ((parts.dropLast, key), rest)
    else none
  | none => none

/-- The characters after a comment, which begins the text. -/
def skipComment (cs : List Char) : List Char :=
  cs.dropWhile isPlain

/-- The characters after blanks, line breaks and comments, each with its line break. -/
def skipTrivia : (fuel : Nat) → List Char → Option (List Char)
  | 0, cs => some cs
  | fuel + 1, cs =>
    match skipSpace cs with
    | '#' :: rest => (newline? (skipComment rest)).bind (skipTrivia fuel)
    | rest =>
      match newline? rest with
      | some rest => skipTrivia fuel rest
      | none =>
        match rest with
        | '\r' :: _ => none
        | _ => some rest

/-- The values of an array after its opening bracket. A comma may follow the last one. -/
def readArray (value : List Char → Reading Item) : (fuel : Nat) → List Char → Reading Unit
  | 0, _ => none
  | fuel + 1, cs =>
    match skipTrivia cs.length cs with
    | none => none
    | some (']' :: rest) => some ((), rest)
    | some cs =>
      match value cs with
      | none => none
      | some (_, rest) =>
        match skipTrivia rest.length rest with
        | some (',' :: rest) => readArray value fuel rest
        | some (']' :: rest) => some ((), rest)
        | _ => none

/-- The entries of a table in braces, after those in `done`. No comma follows the last one, and all stand on
one line. -/
def readInline (value : List Char → Reading Item) :
    (fuel : Nat) → (done : Entries) → List Char → Reading Entries
  | 0, _, _ => none
  | fuel + 1, done, cs =>
    match readKey cs with
    | some ((path, key), '=' :: rest) =>
      match value (skipSpace rest) with
      | none => none
      | some (item, rest) =>
        match done.putInline path key item with
        | none => none
        | some done =>
          match skipSpace rest with
          | c :: rest =>
            if c = ',' then readInline value fuel done rest
            else if c = Char.ofNat 125 then some (done, rest)
            else none
          | [] => none
    | _ => none

/-- A table in braces after the opening one. -/
def readBraces (value : List Char → Reading Item) (cs : List Char) : Reading Item :=
  match skipSpace cs with
  | [] => none
  | c :: rest =>
    if c = Char.ofNat 125 then some (.inline .explicit [], rest)
    else (readInline value cs.length [] cs).map fun (es, rest) => (.inline .explicit es, rest)

/-- A date, a time or a number. -/
def readNumber (cs : List Char) : Reading Item :=
  match (readDateTime cs).or ((readFraction cs).or (readSpecial cs)) with
  | some rest => some (.other, rest)
  | none => (readInteger cs).map fun (n, rest) => (.integer n, rest)

/-- A value; `inner` reads the values within an array or braces, if these may begin. -/
def readAny (inner : Option (List Char → Reading Item)) (cs : List Char) : Reading Item :=
  match cs with
  | [] => none
  | c :: rest =>
    if c = '"' ∨ c = '\'' then (readString cs).map fun (s, rest) => (.text s, rest)
    else if c = '[' then
      inner.bind fun value => (readArray value cs.length rest).map fun (_, rest) => (.other, rest)
    else if c = Char.ofNat 123 then inner.bind fun value => readBraces value rest
    else if c = '+' ∨ c = '-' ∨ isDecimal c then readNumber cs
    else
      match cs with
      | 't' :: 'r' :: 'u' :: 'e' :: rest => some (.other, rest)
      | 'f' :: 'a' :: 'l' :: 's' :: 'e' :: rest => some (.other, rest)
      | 'i' :: 'n' :: 'f' :: rest => some (.other, rest)
      | 'n' :: 'a' :: 'n' :: rest => some (.other, rest)
      | _ => none

/-- A value whose arrays and braces nest at most `limit` deep. -/
def readValue : (limit : Nat) → List Char → Reading Item
  | 0 => readAny none
  | limit + 1 => readAny (some (readValue limit))

/-- The end of a line: a comment, if there is one, and a line break or the end of the text. -/
def readLineEnd (cs : List Char) : Option (List Char) :=
  let rest := match skipSpace cs with
    | '#' :: rest => skipComment rest
    | rest => rest
  match rest with
  | [] => some []
  | _ => newline? rest

/-- The header of a table or of one more table of an array, after its first bracket. -/
def readHeader (d : Draft) (cs : List Char) : Reading Draft :=
  match cs with
  | '[' :: rest =>
    match readKey rest with
    | some ((front, key), ']' :: ']' :: rest) => (d.openArray front key).map fun d => (d, rest)
    | _ => none
  | _ =>
    match readKey cs with
    | some ((front, key), ']' :: rest) => (d.openTable front key).map fun d => (d, rest)
    | _ => none

/-- A key with its value. -/
def readEntry (d : Draft) (cs : List Char) : Reading Draft :=
  match readKey cs with
  | some ((path, key), '=' :: rest) =>
    match readValue (nestingLimit - 1) (skipSpace rest) with
    | some (item, rest) => (d.put path key item).map fun d => (d, rest)
    | none => none
  | _ => none

/-- The lines of a document, each taking a character, so a fuel of their number suffices. -/
def readDocument : (fuel : Nat) → Draft → List Char → Option Draft
  | fuel, d, cs =>
    match skipSpace cs with
    | [] => some d
    | c :: rest =>
      match fuel with
      | 0 => none
      | fuel + 1 =>
        let line :=
          if c = '#' ∨ c = '\n' ∨ c = '\r' then some (d, c :: rest)
          else if c = '[' then readHeader d rest
          else readEntry d (c :: rest)
        match line with
        | none => none
        | some (d, rest) =>
          match readLineEnd rest with
          | none => none
          | some rest => readDocument fuel d rest

/-- The top table of a text. A byte order mark in front is skipped. -/
def read? (text : String) : Option Entries :=
  let cs := match text.toList with
    | c :: rest => if c.toNat = 0xFEFF then rest else c :: rest
    | [] => []
  match readDocument (cs.length + 1) .empty cs with
  | some d => d.close
  | none => none

end DebugBridge.Toml
