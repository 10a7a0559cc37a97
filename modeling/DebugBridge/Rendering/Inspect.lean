import DebugBridge.Message.Response
import DebugBridge.Rendering.Slot
import DebugBridge.Scope.Basic

/-!
# Rendering a variable

The answer to `richInspectVariables`. While the program runs, the interpreter renders the variable itself.
While a thread is stopped the interpreter is held there, and the adapter renders it in the given frame, by a
request under the number after the caller's. Either way the rendering is then taken out of its slot.
-/

namespace DebugBridge.Rendering

variable {σ : Type}

/-- The round trip of a request to the adapter, over a state that it changes. -/
abbrev Forward (σ : Type) := Json → σ → Except Error Json × σ

/-- Stands for the reason of a failed `setExpression` that gives none. -/
def noReason : String := "setExpression failed"

/-- Takes the rendering out of its slot: the data, which must be there, and then the metadata. -/
def takeSlot (scope : Scope σ) (slot : Slot) (s : σ) : Except Error Representation × σ :=
  match scope.take slot.data s with
  | (.error x, s) => (.error (.interpreter x), s)
  | (.ok data, s) =>
    match scope.take slot.metadata s with
    | (.error x, s) => (.error (.interpreter x), s)
    | (.ok metadata, s) =>
      match data with
      | none => (.error (.slotMissing slot.data), s)
      | some data => (.ok (Representation.assemble data (metadata.getD .null)), s)

/-- The answer made of the rendering in the slot. -/
def answerFromSlot (scope : Scope σ) (slot : Slot) (r : Request) (s : σ) :
    Except Error Response × σ :=
  match takeSlot scope slot s with
  | (.ok representation, s) => (.ok (.succeed r (some representation.toJson)), s)
  | (.error e, s) => (.error e, s)

/-- Renders while the program runs. -/
def renderDirectly (scope : Scope σ) (slot : Slot) (subject : String) (r : Request) (s : σ) :
    Except Error Response × σ :=
  match scope.exec (slot.directCode subject) s with
  | (.error x, s) => (.error (.interpreter x), s)
  | (.ok (), s) => answerFromSlot scope slot r s

/-- How a request is going to be answered. -/
inductive Plan where
  /-- Not at all, as an argument is missing. -/
  | refuse (e : Error)
  /-- By the interpreter itself. -/
  | direct (subject : String)
  /-- By the adapter, which gets this message. -/
  | inFrame (message : Json)
deriving DecidableEq, Repr

/-- Plans the answer. The frame matters only while a thread is stopped. -/
def plan (stopped : Bool) (slot : Slot) (r : Request) : Plan :=
  match r.stringArgument "variableName" with
  | .error e => .refuse e
  | .ok subject =>
    if stopped then
      match r.intArgument "frameId" with
      | .error e => .refuse e
      | .ok frame => .inFrame (slot.setExpression subject frame (Request.seqAfter r.seq))
    else .direct subject

/-- The answer after the adapter's reply to the message of a plan. -/
def conclude (scope : Scope σ) (slot : Slot) (r : Request) (reply : Json) (s : σ) :
    Except Error Response × σ :=
  if reply.getBool? "success" = some true then answerFromSlot scope slot r s
  else (.ok (.fail r ((reply.getString? "message").getD noReason)), s)

/-- Answers `richInspectVariables`. -/
def inspect (scope : Scope σ) (forward : Forward σ) (stopped : Bool) (slot : Slot) (r : Request)
    (s : σ) : Except Error Response × σ :=
  match plan stopped slot r with
  | .refuse e => (.error e, s)
  | .direct subject => renderDirectly scope slot subject r s
  | .inFrame message =>
    match forward message s with
    | (.error e, s) => (.error e, s)
    | (.ok reply, s) => conclude scope slot r reply s

end DebugBridge.Rendering
