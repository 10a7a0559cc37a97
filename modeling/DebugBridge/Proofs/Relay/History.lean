import DebugBridge.Proofs.Relay.Outputs

/-!
# Histories of the relay

`Stepped` says once what the relay can do while the adapter is alive, with what it is afterwards. A run is a row of
moments, each the relay as it was and the input that reached it; what a run gives is what its moments give
(`outputs_run`), and its inputs are theirs (`inputs_history`).
-/

namespace DebugBridge.Relay

/-- The message that a frame of the control side holds. -/
def Input.asked? : Input → Option Json
  | .request frame => (Json.decode frame).toOption
  | _ => none

/-- The message of the adapter, if it is of a kind. -/
def Input.ofKind? (k : Kind) : Input → Option Json
  | .adapter message => if Kind.of? message = some k then some message else none
  | _ => none

/-- The message that an output sends back to the control side. -/
def Output.reply? : Output → Option Json
  | .reply message => some message
  | _ => none

/-- The event that an output publishes. -/
def Output.published? : Output → Option Json
  | .publish _ event => some event
  | _ => none

/-- A response of the adapter to the request that completes the configuration, under a number. -/
structure Confirms (seq : Int) (message : Json) : Prop where
  kind : Kind.of? message = some .response
  command : message.getString? "command" = some "configurationDone"
  number : message.getInt? "request_seq" = some seq

instance (seq : Int) (message : Json) : Decidable (Confirms seq message) :=
  decidable_of_iff (Kind.of? message = some .response ∧ message.getString? "command" = some "configurationDone" ∧
      message.getInt? "request_seq" = some seq)
    ⟨fun ⟨kind, command, number⟩ => ⟨kind, command, number⟩, fun ⟨kind, command, number⟩ => ⟨kind, command, number⟩⟩

/-- A response is the relay's own exactly if it confirms what the relay waits for. -/
theorem isOwnResponse_iff {phase : Phase} {message : Json} (kind : Kind.of? message = some .response) :
    isOwnResponse phase message = true ↔ ∃ seq, phase = .configuring seq ∧ Confirms seq message := by
  cases phase with
  | idle | attached seq => simp [isOwnResponse]
  | configuring seq =>
      simp only [isOwnResponse, Bool.and_eq_true, beq_iff_eq]
      constructor
      · rintro ⟨command, number⟩
        exact ⟨seq, rfl, kind, command, number⟩
      · rintro ⟨other, same, own⟩
        cases same
        exact ⟨own.command, own.number⟩

/-! ## Steps -/

/-- What the relay does with an input while the adapter is alive: what it is then, and what it gives. -/
inductive Stepped (r : Relay) : Input → Relay → List Output → Prop where
  /-- A header is kept for later. -/
  | kept (frame : Bytes) : Stepped r (.header frame) { r with headers := r.headers ++ [frame] } []
  /-- A frame without a value is dropped. -/
  | malformed {frame : Bytes} {e : Json.ReadError} (read : Json.decode frame = .error e) :
      Stepped r (.request frame) r []
  /-- A request is passed on. -/
  | passedOn {frame : Bytes} {message : Json} (read : Json.decode frame = .ok message)
      (other : message.getString? "command" ≠ some "attach") :
      Stepped r (.request frame) r.readHeaders [.write message]
  /-- So is an `attach`, after which `initialized` is awaited. -/
  | attached {frame : Bytes} {message : Json} (read : Json.decode frame = .ok message)
      (attach : message.getString? "command" = some "attach") :
      Stepped r (.request frame) { r.readHeaders with phase := .attached (Response.seqOf message) } [.write message]
  /-- An event is published. -/
  | published {event : Json} (kind : Kind.of? event = some .event)
      (quiet : event.getString? "event" = some "initialized" → ∀ seq, r.phase ≠ .attached seq) :
      Stepped r (.adapter event) r [.observe event, .publish r.parent event]
  /-- The event that is awaited makes the relay complete the configuration. -/
  | completed {event : Json} {seq : Int} (kind : Kind.of? event = some .event)
      (initialized : event.getString? "event" = some "initialized") (phase : r.phase = .attached seq) :
      Stepped r (.adapter event) { r with phase := .configuring (Request.seqAfter seq) }
        [.observe event, .write (configurationDone (Request.seqAfter seq)), .publish r.parent event]
  /-- A response goes back to the control side. -/
  | passedBack {message : Json} (kind : Kind.of? message = some .response)
      (other : ∀ seq, r.phase = .configuring seq → ¬ Confirms seq message) :
      Stepped r (.adapter message) r [.reply message]
  /-- The response that is awaited goes to nobody. -/
  | withheld {message : Json} {seq : Int} (phase : r.phase = .configuring seq) (own : Confirms seq message) :
      Stepped r (.adapter message) { r with phase := .idle } []
  /-- A request of the adapter is refused. -/
  | refused {message : Json} (kind : Kind.of? message = some .request) :
      Stepped r (.adapter message) r [.write (refusal message)]
  /-- A message of no kind is dropped. -/
  | unknown {message : Json} (kind : Kind.of? message = none) : Stepped r (.adapter message) r []

/-- A message of the adapter is taken whether the adapter is alive or not. -/
theorem stepped_adapter (r : Relay) (message : Json) :
    Stepped r (.adapter message) (r.step (.adapter message)).1 (r.step (.adapter message)).2 := by
  rw [step, react, onMessage]
  split
  · next kind =>
      rw [onEvent]
      split
      · next initialized =>
          split
          · next seq phase => exact .completed kind initialized phase
          · next other => exact .published kind fun _ seq phase => other seq phase
      · next other => exact .published kind fun initialized => absurd initialized other
  · next kind =>
      rw [onResponse]
      split
      · next own =>
          obtain ⟨seq, phase, own⟩ := (isOwnResponse_iff kind).mp own
          exact .withheld phase own
      · next other =>
          exact .passedBack kind fun seq phase own => other ((isOwnResponse_iff kind).mpr ⟨seq, phase, own⟩)
  · next kind => exact .refused kind
  · next kind => exact .unknown kind

/-- What a relay does with an input while its adapter is alive. -/
theorem stepped {r : Relay} (alive : r.adapterAlive = true) {i : Input} (present : i ≠ .adapterLost) :
    Stepped r i (r.step i).1 (r.step i).2 := by
  cases i with
  | header frame => exact .kept frame
  | adapterLost => exact absurd rfl present
  | adapter message => exact r.stepped_adapter message
  | request frame =>
      cases read : Json.decode frame with
      | error e =>
          rw [step, react, onRequest, read]
          exact .malformed read
      | ok message =>
          have awake : r.readHeaders.adapterAlive = true := alive
          simp only [step, react, onRequest, read]
          rw [if_pos awake]
          by_cases attach : message.getString? "command" = some "attach"
          · rw [if_pos attach]
            exact .attached read attach
          · rw [if_neg attach]
            exact .passedOn read attach

theorem Stepped.adapterAlive {r next : Relay} {i : Input} {outputs : List Output}
    (stepped : Stepped r i next outputs) : next.adapterAlive = r.adapterAlive := by
  cases stepped <;> rfl

/-! ## Moments -/

/-- A moment of a run: the relay, and the input that reaches it. -/
structure Moment where
  relay : Relay
  input : Input
deriving DecidableEq

/-- What the relay gives in a moment. -/
def Moment.outputs (m : Moment) : List Output :=
  (m.relay.step m.input).2

/-- A moment at which the adapter is alive. -/
structure Moment.Living (m : Moment) : Prop where
  alive : m.relay.adapterAlive = true
  present : m.input ≠ .adapterLost

theorem Moment.Living.stepped {m : Moment} (living : m.Living) :
    Stepped m.relay m.input (m.relay.step m.input).1 m.outputs :=
  Relay.stepped living.alive living.present

/-- The moments of a run. -/
def history (r : Relay) : List Input → List Moment
  | [] => []
  | i :: rest => ⟨r, i⟩ :: history (r.step i).1 rest

/-- What a run does is what its moments do, one after the other. -/
theorem outputs_run (r : Relay) (inputs : List Input) :
    (r.run inputs).2 = (history r inputs).flatMap Moment.outputs := by
  induction inputs generalizing r with
  | nil => rfl
  | cons i inputs ih =>
      rw [run_cons, history, List.flatMap_cons, ih]
      rfl

/-- A run has a moment for every input. -/
theorem inputs_history (r : Relay) (inputs : List Input) : (history r inputs).map Moment.input = inputs := by
  induction inputs generalizing r with
  | nil => rfl
  | cons i inputs ih => rw [history, List.map_cons, ih]

/-- As long as the adapter is not lost, it is alive. -/
theorem living_of_mem_history {r : Relay} (alive : r.adapterAlive = true) {inputs : List Input}
    (present : .adapterLost ∉ inputs) {m : Moment} (member : m ∈ history r inputs) : m.Living := by
  induction inputs generalizing r with
  | nil => cases member
  | cons i inputs ih =>
      have here : i ≠ .adapterLost := (List.ne_of_not_mem_cons present).symm
      rcases List.mem_cons.mp member with rfl | member
      · exact ⟨alive, here⟩
      · have next := (stepped alive here).adapterAlive
        exact ih (next.trans alive) (List.not_mem_of_not_mem_cons present) member

theorem adapterAlive_step (r : Relay) (i : Input) :
    (r.step i).1.adapterAlive = true ↔ r.adapterAlive = true ∧ i ≠ .adapterLost := by
  by_cases lost : i = .adapterLost
  · simp [lost, step, react]
  · cases alive : r.adapterAlive with
    | true => simp [(stepped alive lost).adapterAlive, alive, lost]
    | false => simp [step, react_adapterAlive_of_lost r _ i alive]

/-- The adapter is alive at the end of a run if it was at its beginning and has not been lost. -/
theorem adapterAlive_run_iff (r : Relay) (inputs : List Input) :
    (r.run inputs).1.adapterAlive = true ↔ r.adapterAlive = true ∧ .adapterLost ∉ inputs := by
  induction inputs generalizing r with
  | nil => simp
  | cons i inputs ih =>
      rw [run_cons, ih, adapterAlive_step, and_assoc, List.mem_cons, not_or]
      exact and_congr_right fun _ => and_congr_left fun _ => ne_comm

/-- The adapter is alive until its loss is noticed. -/
theorem adapterAlive_run {r : Relay} (alive : r.adapterAlive = true) {inputs : List Input}
    (present : .adapterLost ∉ inputs) : (r.run inputs).1.adapterAlive = true :=
  (adapterAlive_run_iff r inputs).mpr ⟨alive, present⟩

/-- What each moment of a run gives on a channel, a run gives on it. -/
theorem flatMap_history {α : Type} {r : Relay} (alive : r.adapterAlive = true) {inputs : List Input}
    (present : .adapterLost ∉ inputs) {f : Moment → List α} {g : Moment → Option α}
    (each : ∀ m : Moment, m.Living → f m = (g m).toList) :
    (history r inputs).flatMap f = (history r inputs).filterMap g := by
  rw [List.filterMap_eq_flatMap_toList]
  exact List.flatMap_congr fun m member => each m (living_of_mem_history alive present member)

end DebugBridge.Relay
