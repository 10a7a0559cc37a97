import DebugBridge.Launch.Config
import DebugBridge.Launch.Reply

/-!
# Starting the adapter

The adapter runs inside the interpreter and is started by code that the shell runs. It is started once per
process: the first outcome stands for good.
-/

namespace DebugBridge

/-- Where the adapter listens. -/
structure Address where
  host : String
  port : Nat
deriving DecidableEq, Repr

/-- The text of an address. -/
def Address.text (a : Address) : String :=
  a.host ++ ":" ++ String.ofList (decimal a.port)

namespace Launch

/-- The code that loads the adapter and makes it listen. -/
def snippet (address : Address) (config : Config) : String :=
  let configure := match config.python with
    | some path =>
      "debugpy.configure(" ++ String.singleton (Char.ofNat 123) ++ "'python': r'" ++ path ++ "'" ++
        String.singleton (Char.ofNat 125) ++ ");"
    | none => ""
  "import debugpy;" ++ configure ++ "debugpy.listen(('" ++ address.host ++ "'," ++
    String.ofList (decimal address.port) ++ "))"

/-- The lines that the diagnostic file gets before a launch. -/
def traceLines (config : Config) : List String :=
  ["===== DEBUGGER CONFIG =====", config.text]

/-- The outcome of a launch, by the shell's reply to the snippet. -/
def outcome : Except Error ShellReply → Except Error Unit
  | .error e => .error e
  | .ok reply =>
    match reply.result with
    | .ok () => .ok ()
    | .error x => .error (.bootstrap x)

/-- What is reported of a failed launch: the exception that the snippet raised, or why the shell could not
run it. -/
def report : Except Error Unit → List String
  | .ok () => []
  | .error (.bootstrap x) =>
    "Exception raised when trying to import debugpy" :: x.traceback ++ [x.name ++ " - " ++ x.value]
  | .error e => ["Unable to start external debug adapter: " ++ e.message]

/-- Whether the adapter was started in this process, and with what outcome. -/
inductive State where
  | notStarted
  | started
  | failed
deriving DecidableEq, Repr

namespace State

/-- The name of a state. -/
def name : State → String
  | .notStarted => "NotStarted"
  | .started => "Started"
  | .failed => "Failed"

/-- The state after a launch. -/
def ofOutcome : Except Error Unit → State
  | .ok () => .started
  | .error _ => .failed

end State

/-- Starts the adapter unless that was tried before. `run` hands the snippet to the shell, over a state that
it changes. -/
def ensure {σ : Type} (run : σ → Except Error ShellReply × σ) (state : State) (s : σ) : State × σ :=
  match state with
  | .notStarted =>
    let (reply, s) := run s
    (State.ofOutcome (outcome reply), s)
  | other => (other, s)

/-- The first free port of a range among those drawn from the `i`-th draw on, at most `tries`. -/
def probe (isFree : Nat → Bool) (draw : Nat → Nat) (first last : Nat) :
    (tries : Nat) → (i : Nat) → Option Nat
  | 0, _ => none
  | tries + 1, i =>
    let port := first + draw i % (last - first + 1)
    if isFree port then some port else probe isFree draw first last tries (i + 1)

/-- A free port of a range, drawing at most `tries` of them. -/
def findPort (isFree : Nat → Bool) (draw : Nat → Nat) (tries first last : Nat) :
    Except Error Nat :=
  if last < first then .error (.noFreePort first last)
  else
    match probe isFree draw first last tries 0 with
    | some port => .ok port
    | none => .error (.noFreePort first last)

end Launch
end DebugBridge
