import DebugBridge.Text.Trim
import DebugBridge.Text.Unsigned

/-!
# Hosts

A host is an address in numbers, or the name of the machine itself. Nothing else is looked up, so a port can
be taken only on such a host. `isHost` tells whether a text is one.
-/

namespace DebugBridge.Launch

/-- The number that digits of a base write, at least one of them. -/
def readBase? (base : Nat) (digits : List Char) : Option Nat :=
  if digits.isEmpty then none
  else digits.foldlM (fun n c =>
    (hexDigitValue? c.toNat).bind fun d => if d < base then some (n * base + d) else none) 0

/-- One part of an address with points: a number in base sixteen after `0x`, in base eight after a zero, and
otherwise in base ten. -/
def readPart? : List Char → Option Nat
  | ['0'] => some 0
  | '0' :: 'x' :: digits | '0' :: 'X' :: digits => readBase? 16 digits
  | '0' :: digits => readBase? 8 digits
  | digits => readBase? 10 digits

/-- Whether the parts fill `octets` octets: each fills one, and the last one all that are left. -/
def fillOctets (octets : Nat) : List Nat → Bool
  | [] => false
  | [last] => 0 < octets && last < Nat.pow 256 octets
  | part :: rest => part < 256 && fillOctets (octets - 1) rest

/-- Whether a text is an address with points, of one to four parts. -/
def isPointAddress (cs : List Char) : Bool :=
  match (cs.splitOn '.').mapM readPart? with
  | some parts => fillOctets 4 parts
  | none => false

/-- Whether a text is four decimal numbers below 256 without zeros in front, with points between them. -/
def isDottedQuad (cs : List Char) : Bool :=
  let parts := cs.splitOn '.'
  parts.length == 4 && parts.all fun p =>
    (readBase? 10 p).any (· < 256) && (p.length == 1 || p.head? ≠ some '0')

/-- Whether a text is a group of an address with colons: one to four digits of base sixteen. -/
def isGroup (cs : List Char) : Bool :=
  cs.length ≤ 4 && (readBase? 16 cs).isSome

/-- The number of groups that a part of an address with colons has. At its end, if it is the end of the
address, a dotted quad may stand for two. -/
def countGroups (atEnd : Bool) (cs : List Char) : Option Nat :=
  if cs.isEmpty then some 0
  else
    let groups := cs.splitOn ':'
    if groups.all isGroup then some groups.length
    else if atEnd && groups.dropLast.all isGroup && groups.getLast?.any isDottedQuad then
      some (groups.length + 1)
    else none

/-- What stands before and after the first double colon. -/
def splitDoubleColon : List Char → Option (List Char × List Char)
  | [] => none
  | ':' :: ':' :: rest => some ([], rest)
  | c :: rest => (splitDoubleColon rest).map fun (left, right) => (c :: left, right)

/-- Whether a text is an address with colons: eight groups, or fewer with a double colon for the others. -/
def isColonAddress (cs : List Char) : Bool :=
  match splitDoubleColon cs with
  | none => countGroups true cs == some 8
  | some (left, right) =>
    match countGroups false left, countGroups true right with
    | some m, some n => m + n < 8
    | _, _ => false

/-- The name that every machine has for itself. -/
def ownName : String := "localhost"

/-- Whether a text is a host. -/
def isHost (host : String) : Bool :=
  host.toLower == ownName || isPointAddress host.toList || isColonAddress host.toList

example : ["127.0.0.1", "127.1", "0", "::1", "1::", "::ffff:1.2.3.4", "1:2:3:4:5:6:7:8"].all
    (isHost ·) := by decide +kernel

example : ["", "256.0.0.1", "1.2.3.4.5", "1.", "08", "1:::2", "1:2:3:4:5:6:7::8", "adapter"].all
    (!isHost ·) := by decide +kernel

end DebugBridge.Launch
