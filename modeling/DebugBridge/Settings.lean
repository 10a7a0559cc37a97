import DebugBridge.Duration
import DebugBridge.Toml.Reader
import DebugBridge.Text.Utf8

/-!
# Settings

The tunables of the bridge. They come from a TOML file, in which every one is optional and others are
skipped; a file with a fault counts as none.
-/

namespace DebugBridge

/-- The tunables. Times are in milliseconds. -/
structure Settings where
  host : String
  firstPort : Nat
  lastPort : Nat
  portTries : Nat
  handshakeMillis : Nat
  forwardMillis : Nat
  connectMillis : Nat
  shutdownMillis : Nat
  logFile : String
deriving DecidableEq, Repr

namespace Settings

/-- The settings without a file. -/
def default : Settings :=
  ⟨"127.0.0.1", 5678, 5900, 100, 10000, 10000, 5000, 5000, "nbdap.log"⟩

/-- The path of the settings file below the home directory. -/
def homePath : String := ".config/nbdap/settings.toml"

/-- How long to wait for the relay when a session starts. -/
def handshakeTime (s : Settings) : Duration := .ofMillis s.handshakeMillis

/-- How long to wait for the adapter's response to a request. -/
def forwardTime (s : Settings) : Duration := .ofMillis s.forwardMillis

/-- How long to try to connect to the adapter. -/
def connectTime (s : Settings) : Duration := .ofMillis s.connectMillis

/-- How long to wait for the relay when a session stops. -/
def shutdownTime (s : Settings) : Duration := .ofMillis s.shutdownMillis

/-- A text. -/
def expectText : Toml.Item → Option String
  | .text s => some s
  | _ => none

/-- An integer from zero up to, not including, `2 ^ width`. -/
def expectUnsigned (width : Nat) : Toml.Item → Option Nat
  | .integer n => if 0 ≤ n ∧ n < Nat.pow 2 width then some n.toNat else none
  | _ => none

/-- Takes in one entry of a settings file. -/
def add (s : Settings) (key : String) (item : Toml.Item) : Option Settings :=
  match key with
  | "host" => (expectText item).map fun t => { s with host := t }
  | "port_range_start" => (expectUnsigned 16 item).map fun n => { s with firstPort := n }
  | "port_range_end" => (expectUnsigned 16 item).map fun n => { s with lastPort := n }
  | "port_max_tries" => (expectUnsigned 64 item).map fun n => { s with portTries := n }
  | "handshake_timeout_ms" => (expectUnsigned 64 item).map fun n => { s with handshakeMillis := n }
  | "forward_timeout_ms" => (expectUnsigned 64 item).map fun n => { s with forwardMillis := n }
  | "connect_timeout_ms" => (expectUnsigned 64 item).map fun n => { s with connectMillis := n }
  | "shutdown_timeout_ms" => (expectUnsigned 64 item).map fun n => { s with shutdownMillis := n }
  | "log_file" => (expectText item).map fun t => { s with logFile := t }
  | _ => some s

/-- Reads a settings file, if it is one without a fault. -/
def read? (file : Bytes) : Option Settings :=
  match Utf8.decode? file with
  | none => none
  | some text =>
    match Toml.read? text with
    | none => none
    | some entries => entries.foldlM (fun s e => s.add e.1 e.2) default

/-- The settings of a file that may be missing. -/
def load (file : Option Bytes) : Settings :=
  (file.bind read?).getD default

end Settings
end DebugBridge
