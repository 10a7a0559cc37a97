import DebugBridge.Error
import DebugBridge.Text.Trim

/-!
# The interpreter's global scope

The bridge sees the interpreter through its globals: it lists them, converts them, runs code among them and
takes one out. A scope gives these operations over a state of the interpreter's own.
-/

namespace DebugBridge

/-- The operations on the globals of an interpreter with states `σ`. -/
structure Scope (σ : Type) where
  /-- The names of all globals, in the interpreter's order. -/
  names : σ → List String
  /-- The value of a global, converted. -/
  value : String → σ → Except Raised Json
  /-- The text that shows a global. -/
  display : String → σ → Except Raised String
  /-- The text that shows the type of a global. -/
  displayType : String → σ → Except Raised String
  /-- Runs code. -/
  exec : String → σ → Except Raised Unit × σ
  /-- Takes a global out and converts it; nothing if there is none. -/
  take : String → σ → Except Raised (Option Json) × σ

/-- Globals that are never shown: those of every module, the helpers of the kernel and the shortcuts to
earlier outputs. -/
def excludedNames : List String :=
  ["__name__", "__doc__", "__package__", "__loader__", "__spec__", "__annotations__",
    "__builtins__", "__builtin__", "display", "get_ipython", "debugpy", "exit", "quit", "In", "Out",
    "_oh", "_dh", "_", "__", "___"]

/-- Whether a name is that of a stored input: it begins with `_i`. -/
def isInputHistory (name : String) : Bool :=
  match name.toList with
  | '_' :: 'i' :: _ => true
  | _ => false

/-- Whether a name is that of a stored output: an underscore and a decimal digit begin it. -/
def isOutputCache (name : String) : Bool :=
  match name.toList with
  | '_' :: c :: _ => (digitValue? c).isSome
  | _ => false

/-- Whether a global of this name is shown. -/
def isVisible (name : String) : Bool :=
  !isInputHistory name && !isOutputCache name && !excludedNames.contains name

/-- A type's text without the decoration around its name, if it has both ends of it. -/
def shortTypeName (text : String) : String :=
  match afterFront? "<class '".toList text.toList with
  | some rest =>
    match afterFront? "'>".toList.reverse rest.reverse with
    | some inner => String.ofList inner.reverse
    | none => text
  | none => text

end DebugBridge
