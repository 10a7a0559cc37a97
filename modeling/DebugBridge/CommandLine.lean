import DebugBridge.Capabilities
import DebugBridge.Launch.Start
import DebugBridge.Settings
import DebugBridge.Text.Trim

/-!
# The command line

Three commands: what the bridge announces, the file of a cell source, and a free port for the adapter. Before
the command and after it the settings file may be named; the later place wins, and one place names it once.
`parse` reads the arguments and `run` carries them out, given what the command finds outside.
-/

namespace DebugBridge.CommandLine

/-- What is asked for. -/
inductive Command where
  | info
  | cellFile (path : String)
  | findPort
deriving DecidableEq, Repr

/-- A command, and the settings file if one is named. -/
structure Invocation where
  settingsPath : Option String
  command : Command
deriving DecidableEq, Repr

/-- Why arguments are no command to carry out. -/
inductive Refusal where
  /-- They are not understood. -/
  | misuse
  /-- They ask how the program is used. -/
  | help
  /-- They ask for its version. -/
  | version
deriving DecidableEq, Repr

/-- Whether an argument can be the value of an option: it does not look like an option itself. -/
def isValue (arg : String) : Bool :=
  arg == "-" || !"-".isPrefixOf arg

/-- What an argument is. -/
inductive Argument where
  /-- The settings file is the next argument. -/
  | settings
  /-- The settings file. -/
  | settingsFile (path : String)
  /-- All that follows is plain. -/
  | onlyPlain
  /-- An argument that is no option. -/
  | plain
  /-- An option that ends the reading. -/
  | refused (why : Refusal)
deriving DecidableEq, Repr

/-- Tells options from plain arguments. Only in front of the command the version may be asked for. -/
def classify (inFront : Bool) (arg : String) : Argument :=
  if arg = "--" then .onlyPlain
  else if arg = "--config" then .settings
  else
    match afterFront? "--config=".toList arg.toList with
    | some path => .settingsFile (String.ofList path)
    | none =>
      if isValue arg then .plain
      else if arg = "--help" ∨ "-h".isPrefixOf arg then .refused .help
      else if inFront && (arg = "--version" || "-V".isPrefixOf arg) then .refused .version
      else .refused .misuse

/-- Reads the arguments in front of the command. Gives the settings file, the command's name and what
follows it. -/
def readFront (settings : Option String) :
    List String → Except Refusal (Option String × String × List String)
  | [] => .error .misuse
  | arg :: rest =>
    match classify true arg, settings with
    | .plain, _ => .ok (settings, arg, rest)
    | .refused why, _ => .error why
    | .settingsFile path, none => readFront (some path) rest
    | .settings, none =>
      match rest with
      | [] => .error .misuse
      | path :: rest => if isValue path then readFront (some path) rest else .error .misuse
    | _, _ => .error .misuse

/-- Reads the arguments after the command's name, of which `room` may be plain. Gives the settings file and
the plain ones. An empty plain argument is refused before what follows it is read. -/
def readBack (settings : Option String) (room : Nat) :
    List String → Except Refusal (Option String × List String)
  | [] => .ok (settings, [])
  | arg :: rest =>
    match classify false arg, settings, room with
    | .onlyPlain, _, _ =>
      if rest.length ≤ room && !rest.contains "" then .ok (settings, rest) else .error .misuse
    | .plain, _, room + 1 =>
      if arg.isEmpty then .error .misuse
      else (readBack settings room rest).map fun (settings, plain) => (settings, arg :: plain)
    | .refused why, _, _ => .error why
    | .settingsFile path, none, _ => readBack (some path) room rest
    | .settings, none, _ =>
      match rest with
      | [] => .error .misuse
      | path :: rest => if isValue path then readBack (some path) room rest else .error .misuse
    | _, _, _ => .error .misuse

/-- The commands' names. -/
def commandNames : List String := ["info", "cell-file", "find-port", "help"]

/-- Reads a command by its name and the plain arguments after it. -/
def readCommand (name : String) (rest : List String) :
    Except Refusal (Option String × Command) :=
  match name with
  | "info" => (readBack none 0 rest).map fun r => (r.1, .info)
  | "find-port" => (readBack none 0 rest).map fun r => (r.1, .findPort)
  | "cell-file" =>
    match readBack none 1 rest with
    | .error why => .error why
    | .ok (settings, [path]) => .ok (settings, .cellFile path)
    | .ok _ => .error .misuse
  | "help" =>
    match rest with
    | [] => .error .help
    | [topic] => .error (if commandNames.contains topic then .help else .misuse)
    | _ => .error .misuse
  | _ => .error .misuse

/-- Reads the arguments. -/
def parse (args : List String) : Except Refusal Invocation :=
  match readFront none args with
  | .error why => .error why
  | .ok (inFront, name, rest) =>
    match readCommand name rest with
    | .error why => .error why
    | .ok (behind, command) => .ok ⟨behind.or inFront, command⟩

/-- What a command finds outside. A file that cannot be read gives the reason. -/
structure Surroundings where
  kernel : Kernel
  home : Option String
  read : String → Except String Bytes
  isFree : String → Nat → Bool
  draw : Nat → Nat

/-- What a command leaves: the exit code and the texts for the two output streams. -/
structure Outcome where
  code : Nat
  output : String
  diagnostics : String
deriving DecidableEq, Repr

namespace Outcome

/-- A command that printed a line. -/
def printed (line : String) : Outcome := ⟨0, line ++ "\n", ""⟩

/-- A command that failed at a task for a reason. -/
def failed (task reason : String) : Outcome :=
  ⟨1, "", "Error: " ++ task ++ "\n\nCaused by:\n    " ++ reason ++ "\n"⟩

end Outcome

/-- How the program is used. -/
def usage : String :=
  "Usage: nbdap [--config <FILE>] <COMMAND>\n\nCommands:\n" ++
  "  info              Print capabilities announced to the front end\n" ++
  "  cell-file <PATH>  Print the temporary file a cell source is dumped into\n" ++
  "  find-port         Print a port the external adapter can listen on\n"

/-- What a refusal leaves. -/
def Refusal.outcome : Refusal → Outcome
  | .misuse => ⟨2, "", usage⟩
  | .help => ⟨0, usage, ""⟩
  | .version => .printed "nbdap 0.1.0"

/-- The path of the settings file. -/
def Invocation.settingsFile (i : Invocation) (home : Option String) : Option String :=
  i.settingsPath.or (home.map fun dir => joinPath dir Settings.homePath)

/-- The files that arguments make the program read. -/
def paths (home : Option String) (args : List String) : List String :=
  match parse args with
  | .error _ => []
  | .ok i =>
    (i.settingsFile home).toList ++
      match i.command with
      | .cellFile path => [path]
      | .info | .findPort => []

/-- The text of a cell source. -/
def sourceText : Except String Bytes → Except String String
  | .error reason => .error reason
  | .ok bytes =>
    match Utf8.decode? bytes with
    | some text => .ok text
    | none => .error "stream did not contain valid UTF-8"

/-- Carries out a command under settings. -/
def Command.run (s : Surroundings) (settings : Settings) : Command → Outcome
  | .info => .printed (Capabilities.text s.kernel)
  | .cellFile path =>
    match sourceText (s.read path) with
    | .ok text => .printed (Cell.file s.kernel text)
    | .error reason => .failed ("read cell source " ++ path) reason
  | .findPort =>
    match Launch.findPort (s.isFree settings.host) s.draw settings.portTries settings.firstPort
        settings.lastPort with
    | .ok port => .printed (String.ofList (decimal port))
    | .error e => .failed "find a free port" e.message

/-- Carries out a command line. -/
def run (s : Surroundings) (args : List String) : Outcome :=
  match parse args with
  | .error why => why.outcome
  | .ok i =>
    let file := (i.settingsFile s.home).bind fun path => (s.read path).toOption
    i.command.run s (Settings.load file)

end DebugBridge.CommandLine
