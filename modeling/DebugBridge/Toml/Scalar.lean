import DebugBridge.Text.Unsigned

/-!
# Scalars of TOML

Strings, numbers, dates and times of a TOML text. A reader takes the characters and gives what it read with
the characters after it, or nothing if they are no such scalar. Lengths of rows bound every loop.
-/

namespace DebugBridge.Toml

/-- A value read from the front of a text, with the characters after it. -/
abbrev Reading (α : Type) := Option (α × List Char)

/-- Blanks and tabs. -/
def isSpace (c : Char) : Bool := c == ' ' || c == '\t'

/-- The characters after blanks and tabs. -/
def skipSpace (cs : List Char) : List Char := cs.dropWhile isSpace

/-- Characters that a comment and a string may hold: all but the controls, of which the tab is taken. -/
def isPlain (c : Char) : Bool :=
  c == '\t' || (32 ≤ c.toNat && c.toNat != 127)

/-- A line break. -/
def newline? : List Char → Option (List Char)
  | '\n' :: rest => some rest
  | '\r' :: '\n' :: rest => some rest
  | _ => none

/-! ## Strings -/

/-- A number of `count` hexadecimal digits, continuing `n`. -/
def readHex : (count : Nat) → (n : Nat) → List Char → Reading Nat
  | 0, n, cs => some (n, cs)
  | _ + 1, _, [] => none
  | count + 1, n, c :: cs =>
    match hexDigitValue? c.toNat with
    | some d => readHex count (n * 16 + d) cs
    | none => none

/-- The character of a code point, if it is that of a character. -/
def charOf? (n : Nat) : Option Char :=
  if n.isValidChar then some (Char.ofNat n) else none

/-- A character written by its code point. -/
def readCodePoint (count : Nat) (cs : List Char) : Reading Char :=
  match readHex count 0 cs with
  | some (n, rest) => (charOf? n).map fun c => (c, rest)
  | none => none

/-- An escape sequence after its backslash. -/
def readEscape : List Char → Reading Char
  | [] => none
  | c :: rest =>
    if c = 'b' then some (Char.ofNat 8, rest)
    else if c = 'f' then some (Char.ofNat 12, rest)
    else if c = 'n' then some ('\n', rest)
    else if c = 'r' then some ('\r', rest)
    else if c = 't' then some ('\t', rest)
    else if c = '\\' ∨ c = '"' then some (c, rest)
    else if c = 'u' then readCodePoint 4 rest
    else if c = 'U' then readCodePoint 8 rest
    else none

/-- The rest of a string on one line, after the characters in `done` (latest first). -/
def readBasic : (fuel : Nat) → (done : List Char) → List Char → Reading (List Char)
  | 0, _, _ => none
  | _, _, [] => none
  | fuel + 1, done, c :: rest =>
    if c = '"' then some (done.reverse, rest)
    else if c = '\\' then
      match readEscape rest with
      | some (c, rest) => readBasic fuel (c :: done) rest
      | none => none
    else if isPlain c then readBasic fuel (c :: done) rest
    else none

/-- The rest of a literal string on one line. -/
def readLiteral (done : List Char) : List Char → Reading (List Char)
  | [] => none
  | c :: rest =>
    if c = '\'' then some (done.reverse, rest)
    else if isPlain c then readLiteral (c :: done) rest
    else none

/-- The characters after line breaks, blanks and tabs. -/
def skipLines : List Char → List Char
  | '\n' :: rest => skipLines rest
  | '\r' :: '\n' :: rest => skipLines rest
  | ' ' :: rest => skipLines rest
  | '\t' :: rest => skipLines rest
  | cs => cs

/-- The end of a string of several lines: three quotes, before which one or two more belong to it. -/
def readClosing (quote : Char) (done : List Char) (cs : List Char) : Reading (List Char) :=
  let quotes := (cs.takeWhile (· == quote)).length
  if quotes < 3 then none
  else
    let own := min (quotes - 3) 2
    some (done.reverse ++ List.replicate own quote, cs.drop (own + 3))

/-- The rest of a string of several lines. A backslash at the end of a line takes away the line break and
the blanks after it. -/
def readLines : (fuel : Nat) → (done : List Char) → List Char → Reading (List Char)
  | 0, _, _ => none
  | _, _, [] => none
  | fuel + 1, done, c :: rest =>
    if c = '"' then
      if (c :: rest).take 3 = ['"', '"', '"'] then readClosing '"' done (c :: rest)
      else readLines fuel (c :: done) rest
    else if c = '\\' then
      match newline? (skipSpace rest) with
      | some rest => readLines fuel done (skipLines rest)
      | none =>
        match readEscape rest with
        | some (c, rest) => readLines fuel (c :: done) rest
        | none => none
    else
      match newline? (c :: rest) with
      | some rest => readLines fuel ('\n' :: done) rest
      | none => if isPlain c then readLines fuel (c :: done) rest else none

/-- The rest of a literal string of several lines. -/
def readLiteralLines : (fuel : Nat) → (done : List Char) → List Char → Reading (List Char)
  | 0, _, _ => none
  | _, _, [] => none
  | fuel + 1, done, c :: rest =>
    if c = '\'' ∧ (c :: rest).take 3 = ['\'', '\'', '\''] then readClosing '\'' done (c :: rest)
    else
      match newline? (c :: rest) with
      | some rest => readLiteralLines fuel ('\n' :: done) rest
      | none => if isPlain c then readLiteralLines fuel (c :: done) rest else none

/-- The text after the line break that may follow the opening of a string of several lines. -/
def dropNewline (cs : List Char) : List Char :=
  (newline? cs).getD cs

/-- A string on one line, as a key may be. -/
def readLineString : List Char → Reading String
  | '"' :: rest => (readBasic (rest.length + 1) [] rest).map fun (s, rest) => (String.ofList s, rest)
  | '\'' :: rest => (readLiteral [] rest).map fun (s, rest) => (String.ofList s, rest)
  | _ => none

/-- A string of any form. -/
def readString (cs : List Char) : Reading String :=
  match cs with
  | '"' :: '"' :: '"' :: rest =>
    let body := dropNewline rest
    (readLines (body.length + 1) [] body).map fun (s, rest) => (String.ofList s, rest)
  | '\'' :: '\'' :: '\'' :: rest =>
    let body := dropNewline rest
    (readLiteralLines (body.length + 1) [] body).map fun (s, rest) => (String.ofList s, rest)
  | _ => readLineString cs

/-! ## Numbers -/

/-- Digits after the first one, which an underscore may part from the one before. -/
def moreDigits (isDigit : Char → Bool) (done : List Char) : List Char → Reading (List Char)
  | [] => some (done.reverse, [])
  | c :: rest =>
    if isDigit c then moreDigits isDigit (c :: done) rest
    else if c = '_' then
      match rest with
      | d :: rest => if isDigit d then moreDigits isDigit (d :: done) rest else none
      | [] => none
    else some (done.reverse, c :: rest)

/-- A row of digits, without its underscores. -/
def digitRow (isDigit : Char → Bool) : List Char → Reading (List Char)
  | [] => none
  | c :: rest => if isDigit c then moreDigits isDigit [c] rest else none

/-- A sign, if there is one; whether it is a minus sign. -/
def readSign : List Char → Bool × List Char
  | '-' :: rest => (true, rest)
  | '+' :: rest => (false, rest)
  | cs => (false, cs)

/-- Whether a character is a decimal digit. -/
def isDecimal (c : Char) : Bool := (digitValue? c).isSome

/-- The number of a row of decimal digits. -/
def decimalValue (ds : List Char) : Nat := (readDigits 0 ds).getD 0

/-- A whole number in decimal digits without zeros in front, with its sign. -/
def readWhole (cs : List Char) : Reading (Bool × List Char) :=
  let (negative, digits) := readSign cs
  match digits with
  | '0' :: rest => some ((negative, ['0']), rest)
  | _ => (digitRow isDecimal digits).map fun (ds, rest) => ((negative, ds), rest)

/-- Whether an integer fits a signed word of 64 bits: it is from `-2 ^ 63` up to, not including, `2 ^ 63`. -/
def isWord (n : Int) : Bool := decide (-9223372036854775808 ≤ n ∧ n < 9223372036854775808)

/-- Digits of another base than ten. -/
def readBase (base : Nat) (cs : List Char) : Reading Int :=
  let isDigit (c : Char) : Bool := (hexDigitValue? c.toNat).any fun d => d < base
  match digitRow isDigit cs with
  | some (ds, rest) =>
    let n : Nat := ds.foldl (fun n c => n * base + (hexDigitValue? c.toNat).getD 0) 0
    if isWord n then some (n, rest) else none
  | none => none

/-- An integer. -/
def readInteger : List Char → Reading Int
  | '0' :: 'x' :: rest => readBase 16 rest
  | '0' :: 'o' :: rest => readBase 8 rest
  | '0' :: 'b' :: rest => readBase 2 rest
  | cs =>
    match readWhole cs with
    | some ((negative, ds), rest) =>
      let n : Int := if negative then -(decimalValue ds : Int) else decimalValue ds
      if isWord n then some (n, rest) else none
    | none => none

/-- The exponent of a number. -/
def readExponent : List Char → Reading Int
  | c :: rest =>
    if c = 'e' ∨ c = 'E' then
      let (negative, digits) := readSign rest
      (digitRow isDecimal digits).map fun (ds, rest) =>
        ((if negative then -(decimalValue ds : Int) else (decimalValue ds : Int)), rest)
    else none
  | [] => none

/-- Whether `n * 10 ^ e` is too large for a binary64 number: it is at least `2 ^ 1024 - 2 ^ 970`. -/
def exceeds (n : Nat) (e : Int) : Bool :=
  let lead := ((decimal n).length : Int) - 1 + e
  if n = 0 ∨ lead < 300 then false
  else if 310 < lead then true
  else decide ((Nat.pow 2 1024 - Nat.pow 2 970) * Nat.pow 10 (-e).toNat ≤ n * Nat.pow 10 e.toNat)

/-- A number with a fraction or an exponent. A positive one must not be too large. -/
def readFraction (cs : List Char) : Option (List Char) :=
  match readWhole cs with
  | none => none
  | some ((negative, whole), rest) =>
    let accept (ds : List Char) (e : Int) (rest : List Char) : Option (List Char) :=
      if !negative && exceeds (decimalValue ds) e then none else some rest
    match rest with
    | '.' :: fraction =>
      match digitRow isDecimal fraction with
      | none => none
      | some (ds, rest) =>
        match rest with
        | 'e' :: _ | 'E' :: _ =>
          match readExponent rest with
          | some (e, rest) => accept (whole ++ ds) (e - (ds.length : Int)) rest
          | none => none
        | _ => accept (whole ++ ds) (-(ds.length : Int)) rest
    | _ =>
      match readExponent rest with
      | some (e, rest) => accept whole e rest
      | none => none

/-- An infinite or undefined number. -/
def readSpecial (cs : List Char) : Option (List Char) :=
  match (readSign cs).2 with
  | 'i' :: 'n' :: 'f' :: rest => some rest
  | 'n' :: 'a' :: 'n' :: rest => some rest
  | _ => none

/-! ## Dates and times -/

/-- A number of two digits within bounds. -/
def readTwo (low high : Nat) : List Char → Reading Nat
  | a :: b :: rest =>
    match digitValue? a, digitValue? b with
    | some a, some b =>
      let n := a * 10 + b
      if low ≤ n ∧ n ≤ high then some (n, rest) else none
    | _, _ => none
  | _ => none

/-- The days of a month. -/
def daysOf (year month : Nat) : Nat :=
  if month = 2 then
    if year % 4 = 0 ∧ (year % 100 ≠ 0 ∨ year % 400 = 0) then 29 else 28
  else if month = 4 ∨ month = 6 ∨ month = 9 ∨ month = 11 then 30
  else 31

/-- A date. -/
def readDate (cs : List Char) : Option (List Char) :=
  match readTwo 0 99 cs with
  | none => none
  | some (century, cs) =>
    match readTwo 0 99 cs with
    | some (years, '-' :: cs) =>
      match readTwo 1 12 cs with
      | some (month, '-' :: cs) =>
        (readTwo 1 (daysOf (century * 100 + years) month) cs).map Prod.snd
      | _ => none
    | _ => none

/-- The fraction of a second, if there is one. -/
def readSecondFraction : List Char → Option (List Char)
  | '.' :: c :: rest => if isDecimal c then some (rest.dropWhile isDecimal) else none
  | '.' :: [] => none
  | cs => some cs

/-- A time of day. -/
def readTime (cs : List Char) : Option (List Char) :=
  match readTwo 0 23 cs with
  | some (_, ':' :: cs) =>
    match readTwo 0 59 cs with
    | some (_, ':' :: cs) =>
      match readTwo 0 60 cs with
      | some (_, cs) => readSecondFraction cs
      | none => none
    | _ => none
  | _ => none

/-- Hours and minutes. -/
def readMinutes (cs : List Char) : Option (List Char) :=
  match readTwo 0 23 cs with
  | some (_, ':' :: cs) => (readTwo 0 59 cs).map Prod.snd
  | _ => none

/-- The offset of a time from universal time, if there is one. -/
def readOffset : List Char → Option (List Char)
  | 'Z' :: rest => some rest
  | 'z' :: rest => some rest
  | '+' :: rest => readMinutes rest
  | '-' :: rest => readMinutes rest
  | cs => some cs

/-- A date, a time, or both. A blank after a date belongs to it only if a time follows. -/
def readDateTime (cs : List Char) : Option (List Char) :=
  match readDate cs with
  | none => readTime cs
  | some rest =>
    match rest with
    | c :: time =>
      if c = 'T' ∨ c = 't' ∨ c = ' ' then
        match readTwo 0 23 time with
        | some (_, ':' :: _) => (readTime time).bind readOffset
        | _ => some rest
      else some rest
    | [] => some []

end DebugBridge.Toml
