import DebugBridge.Json.Value

/-!
# Stopped threads

Which threads of the debugged program are stopped, as its events tell. A thread is known from the event
that starts or stops it; a stop of all threads stops the known ones.
-/

namespace DebugBridge

/-- The threads that are stopped and those that are known, each in ascending order. -/
structure Threads where
  stopped : List Int
  known : List Int
deriving DecidableEq, Repr

/-- Adds a number in ascending order, once. -/
def insertAscending (n : Int) : List Int → List Int
  | [] => [n]
  | m :: rest =>
    if n < m then n :: m :: rest
    else if n = m then m :: rest
    else m :: insertAscending n rest

@[simp] theorem mem_insertAscending (n k : Int) (ns : List Int) :
    k ∈ insertAscending n ns ↔ k = n ∨ k ∈ ns := by
  induction ns with
  | nil => simp [insertAscending]
  | cons m rest ih =>
    simp only [insertAscending]
    split
    · simp
    · split
      · next same => simp [same]
      · simp only [List.mem_cons, ih]
        exact or_left_comm

namespace Threads

/-- No thread is known. -/
def empty : Threads := ⟨[], []⟩

/-- What an event says about threads. -/
inductive Change where
  | stop (thread : Option Int) (all : Bool)
  | resume (thread : Option Int) (all : Bool)
  | start (thread : Int)
  | finish (thread : Int)
  | reset
deriving DecidableEq, Repr

/-- The change that a message brings, if it is an event about threads. -/
def changeOf (message : Json) : Option Change :=
  if message.getString? "type" = some "event" then
    let body := (message.get? "body").getD .null
    let thread := body.getInt? "threadId"
    let flag (name : String) := (body.getBool? name).getD false
    match message.getString? "event" with
    | some "stopped" => some (.stop thread (flag "allThreadsStopped"))
    | some "continued" => some (.resume thread (flag "allThreadsContinued"))
    | some "thread" =>
      match thread, body.getString? "reason" with
      | some t, some "started" => some (.start t)
      | some t, some "exited" => some (.finish t)
      | _, _ => none
    | some "terminated" | some "exited" => some .reset
    | _ => none
  else none

/-- The threads after a change. -/
def apply (threads : Threads) : Change → Threads
  | .stop thread all =>
    let known := thread.elim threads.known fun t => insertAscending t threads.known
    let stopped := thread.elim threads.stopped fun t => insertAscending t threads.stopped
    ⟨if all then known.foldl (fun s t => insertAscending t s) stopped else stopped, known⟩
  | .resume thread all =>
    if all then ⟨[], threads.known⟩
    else ⟨thread.elim threads.stopped fun t => threads.stopped.filter (· ≠ t), threads.known⟩
  | .start t => ⟨threads.stopped, insertAscending t threads.known⟩
  | .finish t => ⟨threads.stopped.filter (· ≠ t), threads.known.filter (· ≠ t)⟩
  | .reset => empty

/-- The threads after a message; messages that are no events about threads change nothing. -/
def observe (threads : Threads) (message : Json) : Threads :=
  match changeOf message with
  | some change => threads.apply change
  | none => threads

/-- Whether some thread is stopped. -/
def anyStopped (threads : Threads) : Bool :=
  !threads.stopped.isEmpty

end Threads
end DebugBridge
