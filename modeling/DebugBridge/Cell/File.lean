import DebugBridge.Cell.Hash
import DebugBridge.Text.Unsigned

/-!
# Files of a process

Cell sources and adapter logs lie in directories of their own below the directory for temporary files,
named after the process. A cell's file is named by the hash of its source, which the front end computes
as well.
-/

namespace DebugBridge

/-- The path of a name in a directory. -/
def joinPath (directory name : String) : String :=
  if directory.isEmpty || directory.endsWith "/" then directory ++ name
  else directory ++ "/" ++ name

/-- The kernel process that the bridge runs in. -/
structure Kernel where
  temporary : String
  id : String
deriving DecidableEq, Repr

namespace Kernel

/-- The directory of cell sources, with a separator at its end. -/
def cellDirectory (k : Kernel) : String :=
  joinPath k.temporary ("nbdap_" ++ k.id) ++ "/"

/-- The directory of adapter logs. -/
def logDirectory (k : Kernel) : String :=
  joinPath k.temporary ("nbdap_debug_logs_" ++ k.id)

end Kernel

namespace Cell

/-- The seed of the hash of a cell source. -/
def seed : UInt32 := 0xc70f6907

/-- The name under which the hash is announced. -/
def hashMethod : String := "Murmur2"

/-- The end of a cell file's name. -/
def suffix : String := ".py"

/-- The file that a cell source is written to. -/
def file (k : Kernel) (source : String) : String :=
  k.cellDirectory ++ String.ofList (decimal (hash seed (Utf8.encode source)).toNat) ++ suffix

end Cell
end DebugBridge
