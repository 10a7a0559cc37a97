import DebugBridge.Proofs.Relay.History

/-!
# Nothing is lost between the two sides

While the adapter is alive, each channel of the relay carries exactly what came for it: the same messages, in the
order in which they came, each once. Beside what it passes on the relay writes only its own `configurationDone` and
its refusals, and only answers to the former are kept from the control side, each for one of them (`Conserves`).
-/

namespace DebugBridge.Relay

/-- What the relay writes a message for. -/
inductive Reason where
  /-- A request of the control side is passed on. -/
  | request
  /-- The configuration is completed. -/
  | completion
  /-- A request of the adapter is refused. -/
  | refusal
deriving DecidableEq

/-- What the relay writes for when an input reaches it. -/
def Input.reason : Input → Reason
  | .adapter message => if Kind.of? message = some .request then .refusal else .completion
  | .header _ | .request _ | .adapterLost => .request

/-- What outputs write when an input reaches the relay, and what for. -/
def writesFor (i : Input) (outputs : List Output) : List (Reason × Json) :=
  (outputs.filterMap Output.written?).map fun message => (i.reason, message)

/-- What is written in a moment, and what for. -/
def Moment.writes (m : Moment) : List (Reason × Json) :=
  writesFor m.input m.outputs

/-- What is written in a moment for a reason. -/
def Moment.writtenFor (reason : Reason) (m : Moment) : List Json :=
  (m.writes.filter fun w => w.1 = reason).map Prod.snd

/-- What is written over a run for a reason. -/
def writtenFor (reason : Reason) (r : Relay) (inputs : List Input) : List Json :=
  (history r inputs).flatMap (Moment.writtenFor reason)

/-- The response of the adapter for which the relay gives nothing. -/
def Moment.withheld? (m : Moment) : Option Json :=
  if m.outputs = [] then m.input.ofKind? .response else none

/-- The response of the adapter for which it gives something. -/
def Moment.returned? (m : Moment) : Option Json :=
  if m.outputs = [] then none else m.input.ofKind? .response

/-- The responses that are kept from the control side over a run. -/
def withheld (r : Relay) (inputs : List Input) : List Json :=
  (history r inputs).filterMap Moment.withheld?

/-! ## Channels in a step -/

namespace Stepped

variable {r next : Relay} {i : Input} {outputs : List Output}

/-- A request is written once, and no other one for it. -/
theorem writes_request (stepped : Stepped r i next outputs) :
    ((writesFor i outputs).filter fun w => w.1 = .request).map Prod.snd = i.asked?.toList := by
  cases stepped with
  | malformed read | passedOn read other | attached read attach =>
      simp [writesFor, Input.asked?, Input.reason, Output.written?, read, Except.toOption]
  | refused kind => simp [writesFor, Input.asked?, Input.reason, Output.written?, kind]
  | published kind quiet | completed kind initialized phase =>
      simp [writesFor, Input.asked?, Input.reason, Output.written?, kind]
  | kept frame | passedBack kind other | withheld phase own | unknown kind =>
      simp [writesFor, Input.asked?, Output.written?]

/-- A request of the adapter is refused once. -/
theorem writes_refusal (stepped : Stepped r i next outputs) :
    ((writesFor i outputs).filter fun w => w.1 = .refusal).map Prod.snd =
      ((i.ofKind? .request).map refusal).toList := by
  cases stepped with
  | refused kind | unknown kind | passedBack kind other =>
      simp [writesFor, Input.ofKind?, Input.reason, Output.written?, kind]
  | withheld phase own => simp [writesFor, Input.ofKind?, own.kind]
  | published kind quiet | completed kind initialized phase =>
      simp [writesFor, Input.ofKind?, Input.reason, Output.written?, kind]
  | kept frame | malformed read | passedOn read other | attached read attach =>
      simp [writesFor, Input.ofKind?, Input.reason, Output.written?]

/-- A response goes back once, unless it is the relay's own. -/
theorem replies (stepped : Stepped r i next outputs) :
    outputs.filterMap Output.reply? = (if outputs = [] then none else i.ofKind? .response).toList := by
  cases stepped <;> simp_all [Input.ofKind?, Output.reply?]

/-- An event is made known once. -/
theorem observes (stepped : Stepped r i next outputs) :
    outputs.filterMap Output.event? = (i.ofKind? .event).toList := by
  cases stepped with
  | withheld phase own => simp [Input.ofKind?, own.kind]
  | _ => simp_all [Input.ofKind?, Output.event?]

/-- An event is published once. -/
theorem publishes (stepped : Stepped r i next outputs) :
    outputs.filterMap Output.published? = (i.ofKind? .event).toList := by
  cases stepped with
  | published kind quiet | completed kind initialized phase =>
      simp only [Input.ofKind?, kind, if_true]
      rfl
  | withheld phase own => simp [Input.ofKind?, own.kind]
  | _ => simp_all [Input.ofKind?, Output.published?]

/-- A request of the adapter is refused, and that is all. -/
theorem outputs_of_request (stepped : Stepped r i next outputs) {message : Json}
    (asked : i.ofKind? .request = some message) : outputs = [.write (refusal message)] := by
  cases stepped with
  | withheld phase own => simp [Input.ofKind?, own.kind] at asked
  | _ => simp_all [Input.ofKind?]

end Stepped

/-- A message refuses a request: it is a response that tells of a failure, with the request's number and command. -/
structure Refuses (request answer : Json) : Prop where
  kind : Kind.of? answer = some .response
  success : answer.getBool? "success" = some false
  number : answer.get? "request_seq" = some ((request.get? "seq").getD .null)
  command : answer.get? "command" = some (.str ((request.getString? "command").getD ""))

/-- A refusal refuses the request that it is made for. -/
theorem refuses_refusal (request : Json) : Refuses request (refusal request) := by
  constructor <;>
    simp [refusal, Kind.of?, Json.getString?, Json.getBool?, Json.get?_ofMembers, List.lookup, Json.asString?,
      Json.asBool?, Kind.ofName?, Kind.name, Response.commandOf]

/-! ## The relay's own requests and their answers -/

/-- The number whose answer the relay awaits. -/
def awaitedIn : Phase → List Int
  | .configuring seq => [seq]
  | .idle | .attached _ => []

/-- The number that a response answers. -/
def answeredBy (message : Json) : Option Int :=
  message.getInt? "request_seq"

/-- In a moment the relay may complete the configuration and await the answer. It withholds no response but the one
awaited, and awaits none after that. -/
theorem withheld_moment {m : Moment} (living : m.Living) :
    ∃ numbers : List Int, m.writtenFor .completion = numbers.map configurationDone ∧
      (∀ message ∈ m.withheld?, message.getString? "command" = some "configurationDone") ∧
      List.Sublist (m.withheld?.toList.map answeredBy ++ (awaitedIn (m.relay.step m.input).1.phase).map some)
        ((awaitedIn m.relay.phase ++ numbers).map some) := by
  have stepped := living.stepped
  simp only [Moment.writtenFor, Moment.writes, Moment.withheld?, writesFor]
  generalize m.outputs = outputs, m.input = i, (m.relay.step m.input).1 = next at stepped ⊢
  cases stepped with
  | @completed event seq kind initialized phase =>
      refine ⟨[Request.seqAfter seq], ?_, by simp, by simp [awaitedIn, phase]⟩
      simp only [Input.reason, kind]
      rfl
  | withheld phase own =>
      refine ⟨[], by simp, by simp [Input.ofKind?, own.kind, own.command], ?_⟩
      simp [awaitedIn, phase, Input.ofKind?, own.kind, answeredBy, own.number]
  | attached read attach =>
      refine ⟨[], by simp [Input.reason, Output.written?], by simp, ?_⟩
      simp [awaitedIn]
  | passedOn read other =>
      refine ⟨[], by simp [Input.reason, Output.written?], by simp, ?_⟩
      simp [readHeaders]
  | published kind quiet | passedBack kind other | refused kind =>
      exact ⟨[], by simp [Input.reason, Output.written?, kind], by simp, by simp⟩
  | kept frame | malformed read => exact ⟨[], by simp, by simp [Input.ofKind?], by simp [Input.ofKind?]⟩
  | unknown kind => exact ⟨[], by simp, by simp [Input.ofKind?, kind], by simp [Input.ofKind?, kind]⟩

/-- Over a run the relay completes the configuration under some numbers, and withholds only answers to these or to
the one awaited before, in their order and none twice. -/
theorem withheld_run {r : Relay} (alive : r.adapterAlive = true) {inputs : List Input}
    (present : .adapterLost ∉ inputs) :
    ∃ numbers : List Int, writtenFor .completion r inputs = numbers.map configurationDone ∧
      (∀ message ∈ withheld r inputs, message.getString? "command" = some "configurationDone") ∧
      List.Sublist ((withheld r inputs).map answeredBy) ((awaitedIn r.phase ++ numbers).map some) := by
  induction inputs generalizing r with
  | nil => exact ⟨[], rfl, nofun, List.nil_sublist _⟩
  | cons i inputs ih =>
      have living : Moment.Living ⟨r, i⟩ := ⟨alive, (List.ne_of_not_mem_cons present).symm⟩
      obtain ⟨first, sentFirst, commandFirst, step⟩ := withheld_moment living
      obtain ⟨later, sentLater, commandLater, rest⟩ :=
        ih (living.stepped.adapterAlive.trans alive) (List.not_mem_of_not_mem_cons present)
      have gathered : withheld r (i :: inputs) =
          (Moment.withheld? ⟨r, i⟩).toList ++ withheld (r.step i).1 inputs := by
        simp only [withheld, history, List.filterMap_cons]
        cases Moment.withheld? ⟨r, i⟩ <;> rfl
      refine ⟨first ++ later, ?_, ?_, ?_⟩
      · rw [writtenFor, history, List.flatMap_cons, sentFirst, List.map_append, ← sentLater, writtenFor]
      · rw [gathered]
        intro message member
        rcases List.mem_append.mp member with here | there
        · exact commandFirst message (Option.mem_toList.mp here)
        · exact commandLater message there
      · -- What is awaited after the first moment is what the rest of the run starts with.
        rw [List.map_append] at rest
        rw [gathered, List.map_append, ← List.append_assoc, List.map_append]
        refine (rest.append_left _).trans ?_
        rw [← List.append_assoc]
        exact step.append_right _

/-! ## Runs -/

/-- What the relay gives over a run, channel by channel. -/
structure Conserves (inputs : List Input) : Prop where
  /-- Every message for the adapter is written for one of the three reasons. -/
  written : (start.run inputs).2.filterMap Output.written? =
    ((history start inputs).flatMap Moment.writes).map Prod.snd
  /-- The requests that are passed on are those that the control side sent. -/
  passedOn : writtenFor .request start inputs = inputs.filterMap Input.asked?
  /-- The requests of the adapter are refused, each by one answer. -/
  refused : writtenFor .refusal start inputs = (inputs.filterMap (Input.ofKind? .request)).map refusal
  /-- That answer is all that a request of the adapter brings about. -/
  refusedOnly : ∀ m ∈ history start inputs, ∀ request, m.input.ofKind? .request = some request →
    m.outputs = [.write (refusal request)] ∧ Refuses request (refusal request)
  /-- The configuration is completed under some numbers, and the responses withheld are answers to these requests: in
  their order, each to one of its own. -/
  completed : ∃ numbers : List Int, writtenFor .completion start inputs = numbers.map configurationDone ∧
    (∀ message ∈ withheld start inputs, message.getString? "command" = some "configurationDone") ∧
    List.Sublist ((withheld start inputs).map answeredBy) (numbers.map some)
  /-- So no more responses are withheld than such requests were sent. -/
  fewer : (withheld start inputs).length ≤ (writtenFor .completion start inputs).length
  /-- The control side gets the other responses, and nothing else. -/
  returned : (start.run inputs).2.filterMap Output.reply? = (history start inputs).filterMap Moment.returned?
  /-- The events become known within the bridge. -/
  observed : (start.run inputs).2.filterMap Output.event? = inputs.filterMap (Input.ofKind? .event)
  /-- The events are published. -/
  published : (start.run inputs).2.filterMap Output.published? = inputs.filterMap (Input.ofKind? .event)

/-- What moments give on a channel for their inputs alone, a run gives for its inputs. -/
theorem flatMap_inputs {α : Type} {inputs : List Input} (present : .adapterLost ∉ inputs) {f : Moment → List α}
    {g : Input → Option α} (each : ∀ m : Moment, m.Living → f m = (g m.input).toList) :
    (history start inputs).flatMap f = inputs.filterMap g := by
  rw [flatMap_history rfl present each, ← Function.comp_def g, ← List.filterMap_map, inputs_history]

/-- While the adapter is alive, nothing gets lost, doubled or out of order. -/
theorem conserves (inputs : List Input) (present : .adapterLost ∉ inputs) : Conserves inputs where
  written := by
    rw [outputs_run, List.filterMap_flatMap, List.map_flatMap]
    simp only [Moment.writes, writesFor, List.map_map, Function.comp_def, List.map_id']
  passedOn := flatMap_inputs present fun m living => living.stepped.writes_request
  refused := by
    rw [List.map_filterMap]
    exact flatMap_inputs present fun m living => living.stepped.writes_refusal
  refusedOnly m member request asked :=
    ⟨(living_of_mem_history rfl present member).stepped.outputs_of_request asked, refuses_refusal request⟩
  completed := withheld_run rfl present
  fewer := by
    obtain ⟨numbers, sent, -, matched⟩ := withheld_run (r := start) rfl present
    have count := matched.length_le
    simp only [List.length_map] at count
    rw [sent, List.length_map]
    exact count
  returned := by
    rw [outputs_run, List.filterMap_flatMap]
    exact flatMap_history rfl present fun m living => living.stepped.replies
  observed := by
    rw [outputs_run, List.filterMap_flatMap]
    exact flatMap_inputs present fun m living => living.stepped.observes
  published := by
    rw [outputs_run, List.filterMap_flatMap]
    exact flatMap_inputs present fun m living => living.stepped.publishes

/-- A frame with an `attach`. -/
def attachFrame (seq : Int) : Bytes :=
  Json.encode (Json.ofMembers [("command", .str "attach"), ("seq", .int seq)])

/-- The event after which the configuration is completed. -/
def initialized : Json :=
  Json.ofMembers [("event", .str "initialized"), ("type", .str "event")]

/-- The adapter's response to `configurationDone`. -/
def confirmation (seq : Int) : Json :=
  Json.ofMembers [("command", .str "configurationDone"), ("request_seq", .int seq), ("type", .str "response")]

/-- An `attach` and what follows it, with frames that hold no value or no object in between, and a request of the
adapter without a number. -/
def sampleInputs : List Input :=
  [.request (Json.encode (.int 5)), .request [123], .request (attachFrame 4), .adapter (.arr []),
    .adapter initialized, .adapter (Json.ofMembers [("type", .str "request")]), .adapter (confirmation 4),
    .adapter (confirmation 5), .adapter initialized]

/-- Of two confirmations the relay keeps the one that it waits for. -/
theorem conserves_sampleInputs :
    Conserves sampleInputs ∧ withheld start sampleInputs = [confirmation 5] ∧
      (start.run sampleInputs).2.filterMap Output.reply? = [confirmation 4] :=
  ⟨conserves sampleInputs (by decide), by decide +kernel, by decide +kernel⟩

end DebugBridge.Relay
