import DebugBridge.Toml.Scalar

/-!
# TOML documents

The tables that a TOML text describes. Keys with dots and headers make tables on their way; what may be
reopened depends on how it was made: a table named only in a header on the way to another one may still get
a header, a table made by a key with dots only further keys, and a value none of both.
-/

namespace DebugBridge.Toml

/-- How a table came to be: by its own header or braces, on the way of a header, or by a key with dots. -/
inductive Origin where
  | explicit
  | passed
  | dotted
deriving DecidableEq, Repr

/-- An entry of a table. Numbers with fractions, dates, truth values and arrays are told apart from text and
integers only. -/
inductive Item where
  | text (s : String)
  | integer (n : Int)
  | other
  | inline (origin : Origin) (entries : List (String × Item))
  | table (origin : Origin) (entries : List (String × Item))
  | tables (done : List (List (String × Item)))
deriving Repr, Inhabited

/-- The entries of a table, in the order in which they came. -/
abbrev Entries := List (String × Item)

namespace Entries

/-- Replaces the item of a key, which is there. -/
def set (key : String) (item : Item) (entries : Entries) : Entries :=
  entries.map fun e => if e.1 = key then (key, item) else e

/-- Adds an entry whose key is new. -/
def add? (key : String) (item : Item) (entries : Entries) : Option Entries :=
  if (entries.lookup key).isSome then none else some (entries ++ [(key, item)])

/-- Changes the table at the end of a path within braces. Tables on the way are made if they are missing;
there must be none that was written in full. -/
def updateInline (f : Origin → Entries → Option Entries) (origin : Origin) :
    (path : List String) → Entries → Option Entries
  | [], entries => f origin entries
  | key :: path, entries =>
    match entries.lookup key with
    | none => (updateInline f .dotted path []).map fun t => entries ++ [(key, .inline .dotted t)]
    | some (.inline .dotted t) =>
      (updateInline f .dotted path t).map fun t => entries.set key (.inline .dotted t)
    | some _ => none

/-- Changes the table at the end of a path of a key with dots. -/
def updateDotted (f : Origin → Entries → Option Entries) (origin : Origin) :
    (path : List String) → Entries → Option Entries
  | [], entries => f origin entries
  | key :: path, entries =>
    match entries.lookup key with
    | none => (updateDotted f .dotted path []).map fun t => entries ++ [(key, .table .dotted t)]
    | some (.table .explicit _) => none
    | some (.table o t) => (updateDotted f o path t).map fun t => entries.set key (.table o t)
    | some (.tables (t :: rest)) =>
      (updateDotted f .explicit path t).map fun t => entries.set key (.tables (t :: rest))
    | some _ => none

/-- Changes the table at the end of the path of a header; of an array of tables it is the latest. -/
def updateHeader (f : Entries → Option Entries) : (path : List String) → Entries → Option Entries
  | [], entries => f entries
  | key :: path, entries =>
    match entries.lookup key with
    | none => (updateHeader f path []).map fun t => entries ++ [(key, .table .passed t)]
    | some (.table o t) => (updateHeader f path t).map fun t => entries.set key (.table o t)
    | some (.tables (t :: rest)) =>
      (updateHeader f path t).map fun t => entries.set key (.tables (t :: rest))
    | some _ => none

/-- Adds a value under a key with dots. A table made by a key with dots takes keys with dots only, another
table keys without. -/
def insertAt (key : String) (item : Item) (isDotted : Bool) (origin : Origin) (entries : Entries) :
    Option Entries :=
  if (origin == .dotted) = isDotted then add? key item entries else none

/-- Adds a value of a table in braces. -/
def putInline (path : List String) (key : String) (item : Item) (entries : Entries) :
    Option Entries :=
  updateInline (insertAt key item !path.isEmpty) .explicit path entries

/-- Adds a value of a table with lines of its own. -/
def putLine (path : List String) (key : String) (item : Item) (entries : Entries) :
    Option Entries :=
  updateDotted (insertAt key item !path.isEmpty) .explicit path entries

end Entries

/-- A document on its way: the tables finished, and the one whose lines are being read with its path. -/
structure Draft where
  root : Entries
  path : List String
  isArray : Bool
  current : Entries
deriving Repr

namespace Draft

/-- Lines before any header belong to the document's own table. -/
def empty : Draft := ⟨[], [], false, []⟩

/-- Adds the table being read to the finished ones. -/
def close (d : Draft) : Option Entries :=
  match d.path.reverse with
  | [] => some d.current
  | key :: front =>
    let finish (parent : Entries) : Option Entries :=
      if d.isArray then
        match parent.lookup key with
        | none => some (parent ++ [(key, .tables [d.current])])
        | some (.tables ts) => some (parent.set key (.tables (d.current :: ts)))
        | some _ => none
      else parent.add? key (.table .explicit d.current)
    Entries.updateHeader finish front.reverse d.root

/-- The entries of the table that a header's path leads to, which may be missing. -/
def tableAt : List String → Entries → Option Entries
  | [], entries => some entries
  | k :: path, entries =>
    match entries.lookup k with
    | none => some []
    | some (.table _ t) => tableAt path t
    | some (.tables (t :: _)) => tableAt path t
    | some _ => none

/-- Begins the table of a header. A table that was only passed on the way to others keeps those. -/
def openTable (d : Draft) (front : List String) (key : String) : Option Draft :=
  match d.close with
  | none => none
  | some root =>
    match tableAt front root with
    | none => none
    | some parent =>
      match parent.lookup key with
      | none => some ⟨root, front ++ [key], false, []⟩
      | some (.table .passed entries) =>
        (Entries.updateHeader (fun p => some (p.filter fun e => e.1 ≠ key)) front root).map
          fun root => ⟨root, front ++ [key], false, entries⟩
      | some _ => none

/-- Begins one more table of an array. -/
def openArray (d : Draft) (front : List String) (key : String) : Option Draft :=
  match d.close with
  | none => none
  | some root =>
    match tableAt front root with
    | none => none
    | some parent =>
      match parent.lookup key with
      | none | some (.tables _) => some ⟨root, front ++ [key], true, []⟩
      | some _ => none

/-- Adds a value to the table being read. -/
def put (d : Draft) (path : List String) (key : String) (item : Item) : Option Draft :=
  (Entries.putLine path key item d.current).map fun current => { d with current }

end Draft
end DebugBridge.Toml
