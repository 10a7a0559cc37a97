import DebugBridge.Cell.File
import DebugBridge.Json.Printer

/-!
# Capabilities

What the bridge announces to the front end: how it names the files of cells, and what it can show.
-/

namespace DebugBridge.Capabilities

/-- The announced members, in the order in which they are listed to a reader. -/
def members (k : Kernel) : Members :=
  [("hashMethod", .str Cell.hashMethod), ("hashSeed", .int Cell.seed.toNat),
    ("tmpFilePrefix", .str k.cellDirectory), ("tmpFileSuffix", .str Cell.suffix),
    ("exceptionBreakpoints", .bool true), ("exceptionPaths", .arr [.str "Python Exceptions"]),
    ("richRendering", .bool true)]

/-- The capabilities as a value. -/
def toJson (k : Kernel) : Json :=
  Json.ofMembers (members k)

/-- The capabilities as a text for a reader. -/
def text (k : Kernel) : String :=
  (Json.obj (members k)).pretty

end DebugBridge.Capabilities
