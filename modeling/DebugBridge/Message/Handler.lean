import DebugBridge.Launch.Start
import DebugBridge.Message.Response

/-!
# Requests answered by the bridge

The commands that are not simply passed on to the adapter. Some are part of the debugging itself and need a
started session, the others work at any time.
-/

namespace DebugBridge

/-- A command that the bridge handles itself. -/
inductive Handler where
  | inspectVariables
  | richInspectVariables
  | attach
  | configurationDone
deriving DecidableEq, Repr

namespace Handler

/-- Every handler. -/
def all : List Handler :=
  [inspectVariables, richInspectVariables, attach, configurationDone]

/-- The command of a handler. -/
def command : Handler → String
  | .inspectVariables => "inspectVariables"
  | .richInspectVariables => "richInspectVariables"
  | .attach => "attach"
  | .configurationDone => "configurationDone"

/-- Whether a handler is part of the debugging session and needs it started. -/
def isUserFacing : Handler → Bool
  | .inspectVariables | .richInspectVariables => false
  | .attach | .configurationDone => true

/-- The handler of a command. -/
def lookup (command : String) : Option Handler :=
  all.find? fun h => h.command = command

/-- The commands that need a started session, in the order of the alphabet. -/
def userFacing : List String :=
  ((all.filter isUserFacing).map command).mergeSort fun a b => decide (a ≤ b)

end Handler

namespace Request

/-- An `attach` request that points the adapter to its own address and has it write logs. -/
def attachTo (r : Request) (address : Address) : Request :=
  let connect := Json.ofMembers [("host", .str address.host), ("port", .int address.port)]
  r.updateArguments fun arguments =>
    Members.insert "logToFile" (.bool true) (Members.insert "connect" connect arguments)

/-- Passes an `attach` request on, pointed to an address, by a round trip to the adapter. -/
def attach {σ : Type} (r : Request) (address : Address) (forward : Json → σ → Except Error Json × σ) (s : σ) :
    Except Error Json × σ :=
  forward (r.attachTo address).toJson s

end Request

/-- The answer to `configurationDone`: the relay completes the configuration, so there is nothing to do. -/
def Response.configurationDone (r : Request) : Response :=
  .succeed r none

end DebugBridge
