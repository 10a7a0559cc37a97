import DebugBridge.Message.Response
import DebugBridge.Scope.Basic

/-!
# Listing the globals

The answer to `inspectVariables`: every visible global with its value and its type. A global whose value
cannot be converted is given by the text that shows it.
-/

namespace DebugBridge.Scope

variable {σ : Type}

/-- Stands for a global that can be neither converted nor shown. -/
def unavailable : String := "<unavailable>"

/-- The value listed for a global. -/
def listedValue (scope : Scope σ) (name : String) (s : σ) : Json :=
  match scope.value name s with
  | .ok v => v
  | .error _ =>
    match scope.display name s with
    | .ok text => .str text
    | .error _ => .str unavailable

/-- The type listed for a global, empty if it cannot be shown. -/
def listedType (scope : Scope σ) (name : String) (s : σ) : String :=
  match scope.displayType name s with
  | .ok text => shortTypeName text
  | .error _ => ""

/-- The entry of a global. It refers to no further variables. -/
def entry (scope : Scope σ) (s : σ) (name : String) : Json :=
  Json.ofMembers
    [("name", .str name), ("type", .str (scope.listedType name s)),
      ("value", scope.listedValue name s), ("variablesReference", .int 0)]

/-- The entries of the visible globals, in the interpreter's order. -/
def entries (scope : Scope σ) (s : σ) : List Json :=
  ((scope.names s).filter isVisible).map (scope.entry s)

/-- The answer to `inspectVariables`. -/
def inspect (scope : Scope σ) (r : Request) (s : σ) : Response :=
  .succeed r (some (Json.ofMembers [("variables", .arr (scope.entries s))]))

end DebugBridge.Scope
