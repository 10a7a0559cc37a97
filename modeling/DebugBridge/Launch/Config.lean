import DebugBridge.Json.Printer

/-!
# Configuration of the adapter

What the kernel hands over for the adapter: the path of another interpreter to run it with, and options that
are kept as they are.
-/

namespace DebugBridge

/-- The configuration of the adapter. -/
structure Config where
  python : Option String
  options : Members
deriving DecidableEq, Repr

namespace Config

/-- Nothing is configured. -/
def empty : Config := ⟨none, []⟩

/-- The member that holds the path. -/
def pythonName : String := "python"

/-- Reads a configuration. A value that is no object, or whose path is neither a string nor null, counts
as the empty one. -/
def ofJson (v : Json) : Config :=
  match v with
  | .obj members =>
    let options := members.filter fun m => m.1 ≠ pythonName
    match members.lookup pythonName with
    | none | some .null => ⟨none, options⟩
    | some (.str path) => ⟨some path, options⟩
    | some _ => empty
  | _ => empty

/-- The members of a configuration, the path in front. -/
def members (c : Config) : Members :=
  (c.python.map fun path => (pythonName, Json.str path)).toList ++ c.options

/-- The value of a configuration. -/
def toJson (c : Config) : Json :=
  Json.ofMembers c.members

/-- The text of a configuration, the path in front. -/
def text (c : Config) : String :=
  (Json.obj c.members).text

end Config
end DebugBridge
