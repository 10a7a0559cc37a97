import DebugBridge.Json.Printer

/-!
# Slots of renderings

A rendering of a variable in several media types comes as a pair: the data by media type, and metadata by
media type. The interpreter leaves it in two globals named after a number of the call's own, so calls never
share them.
-/

namespace DebugBridge

/-- The pair of globals that receives a rendering. -/
structure Slot where
  data : String
  metadata : String
deriving DecidableEq, Repr

namespace Slot

/-- The hexadecimal digits of a number of 128 bits, zeros in front. -/
def digits (id : BitVec 128) : String :=
  String.ofList ((List.range 32).map fun i => Json.hexDigit (id.toNat / Nat.pow 16 (31 - i) % 16))

/-- The slot of a call. -/
def ofId (id : BitVec 128) : Slot :=
  let front := "__nbdap_rich_" ++ digits id
  ⟨front ++ "_data", front ++ "_metadata"⟩

/-- Both globals as the target of an assignment. -/
def target (slot : Slot) : String :=
  slot.data ++ "," ++ slot.metadata

/-- The expression whose value is the rendering of a variable. -/
def expression (subject : String) : String :=
  "get_ipython().display_formatter.format(" ++ subject ++ ")"

/-- The code that renders a variable into the slot. -/
def directCode (slot : Slot) (subject : String) : String :=
  "from IPython import get_ipython;" ++ slot.target ++ "= " ++ expression subject

/-- The request that renders a variable into the slot from within a stopped frame. -/
def setExpression (slot : Slot) (subject : String) (frame seq : Int) : Json :=
  Json.ofMembers
    [("type", .str "request"), ("command", .str "setExpression"), ("seq", .int seq),
      ("arguments", Json.ofMembers
        [("expression", .str slot.target), ("value", .str (expression subject)),
          ("frameId", .int frame)])]

end Slot

/-- A rendering by media type. -/
structure Representation where
  data : Members
  metadata : Members
deriving DecidableEq, Repr

namespace Representation

/-- The representation made of a rendered pair. What is no object counts as empty, and metadata of a media
type without data is left out. -/
def assemble (data metadata : Json) : Representation :=
  let data := data.membersD
  ⟨data, metadata.membersD.filter fun m => (data.lookup m.1).isSome⟩

/-- The value of a representation. -/
def toJson (r : Representation) : Json :=
  Json.ofMembers [("data", .obj r.data), ("metadata", .obj r.metadata)]

end Representation
end DebugBridge
