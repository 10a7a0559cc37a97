import DebugBridge.Proofs.Message.Response
import DebugBridge.Relay.Worker

/-!
# What the relay gives

The relay sets out to write a request of the control side as it came, once, while the adapter is alive, and nothing
of it otherwise (`react_request`). All that it sends back to the control side is marked as a response
(`answerable_of_react`), whatever the adapter sends and however writing to it ends.
-/

namespace DebugBridge

namespace Relay

/-- The message that an output writes to the adapter. -/
def Output.written? : Output → Option Json
  | .write message => some message
  | _ => none

/-- The message that an output sets out to write, whether that succeeds or not. -/
def Output.tried? : Output → Option Json
  | .write message | .unwritten message => some message
  | _ => none

/-- The message that an output sets out to write, and whether it is written. -/
def Output.attempt? : Output → Option (Json × Bool)
  | .write message => some (message, true)
  | .unwritten message => some (message, false)
  | _ => none

/-- The event that an output makes known within the bridge. -/
def Output.event? : Output → Option Json
  | .observe event => some event
  | _ => none

/-- What may come back to the control side: a response that the reader takes. -/
def Answerable (v : Json) : Prop :=
  v.Shaped Json.depthLimit ∧ v.getString? "type" = some "response"

/-- The kind of a message is its type's name. -/
theorem type_of_kind {message : Json} {k : Kind} (kind : Kind.of? message = some k) :
    message.getString? "type" = some k.name := by
  obtain ⟨name, found, named⟩ := Option.bind_eq_some_iff.mp kind
  have same := List.find?_some named
  rw [found, ← of_decide_eq_true same]

theorem answerable_failFor {message : Json} (wellFormed : message.WellFormed) (text : String) :
    Answerable (Response.failFor message text).toJson := by
  refine ⟨Response.inherited_failFor Json.inherited_shaped 126 wellFormed text, ?_⟩
  rw [Json.getString?, (Response.get?_toJson _).1]
  rfl

@[simp] theorem tried?_attempt (written : Except Error Unit) (message : Json) :
    (attempt written message).tried? = some message := by
  cases written <;> rfl

/-- What a request of the control side comes to. While the adapter is alive it is written as it was read; if that
fails, the adapter is lost and the relay answers. Once the adapter is lost the relay answers at once, and a frame
without a value is dropped. -/
theorem react_request (r : Relay) (written : Except Error Unit) (frame : Bytes) :
    (∃ e, Json.decode frame = .error e ∧ r.react written (.request frame) = (r, [])) ∨
      ∃ message, Json.decode frame = .ok message ∧
        ((r.adapterAlive = false ∧ r.react written (.request frame) =
            (r.readHeaders, [.reply (Response.failFor message lostText).toJson])) ∨
          r.adapterAlive = true ∧ ∃ phase, r.react written (.request frame) =
            match written with
            | .ok () => ({ r.readHeaders with phase }, [.write message])
            | .error e =>
              ({ r.readHeaders with phase, adapterAlive := false },
                [.unwritten message, .reply (Response.failFor message (unwrittenText e)).toJson])) := by
  cases read : Json.decode frame with
  | error e => exact .inl ⟨e, rfl, by simp only [react, onRequest, read]⟩
  | ok message =>
      refine .inr ⟨message, rfl, ?_⟩
      have same : r.readHeaders.adapterAlive = r.adapterAlive := rfl
      cases alive : r.adapterAlive with
      | false =>
          refine .inl ⟨rfl, ?_⟩
          simp only [react, onRequest, read, same, alive, Bool.false_eq_true, if_false]
      | true =>
          refine .inr ⟨rfl, if message.getString? "command" = some "attach" then .attached (Response.seqOf message)
            else r.phase, ?_⟩
          simp only [react, onRequest, read, same, alive, if_true]
          cases written <;> rfl

/-- What a request of the control side makes the relay set out to write. -/
def tries (r : Relay) (written : Except Error Unit) (frame : Bytes) : List (Json × Bool) :=
  match r.adapterAlive, Json.decode frame with
  | true, .ok message => [(message, written.isOk)]
  | _, _ => []

/-- A request of the control side makes the relay set out once to write what it says, while the adapter is alive. -/
theorem attempts_request (r : Relay) (written : Except Error Unit) (frame : Bytes) :
    (r.react written (.request frame)).2.filterMap Output.attempt? = r.tries written frame := by
  rw [tries]
  rcases r.react_request written frame with
    ⟨e, unread, same⟩ | ⟨message, read, ⟨lost, same⟩ | ⟨alive, phase, same⟩⟩
  · rw [same, unread]
    cases r.adapterAlive <;> rfl
  · rw [same, lost]
    rfl
  · rw [same, alive, read]
    cases written <;> rfl

/-- A request of the control side is written as it was read while the adapter is alive. Otherwise it is
answered by the relay, and a frame without a value is dropped. -/
theorem step_request (r : Relay) (frame : Bytes) :
    (∃ e, Json.decode frame = .error e ∧ r.step (.request frame) = (r, [])) ∨
      ∃ message, Json.decode frame = .ok message ∧ (r.step (.request frame)).1.adapterAlive = r.adapterAlive ∧
        (r.step (.request frame)).2 =
          if r.adapterAlive then [.write message]
          else [.reply (Response.failFor message lostText).toJson] := by
  rcases r.react_request (.ok ()) frame with ⟨e, read, done⟩ | ⟨message, read, ⟨lost, done⟩ | ⟨alive, phase, done⟩⟩
  · exact .inl ⟨e, read, done⟩
  · exact .inr ⟨message, read, by rw [step, done]; rfl, by rw [step, done, lost]; rfl⟩
  · exact .inr ⟨message, read, by rw [step, done]; rfl, by rw [step, done, alive]; rfl⟩

/-- What the relay does for a message of the adapter. -/
inductive DoneFor (written : Except Error Unit) (message : Json) : List Output → Prop where
  /-- Nothing, if the message is of no kind or answers the relay itself. -/
  | nothing : DoneFor written message []
  /-- An event is published. -/
  | published (header : Json) : DoneFor written message [.observe message, .publish header message]
  /-- An event makes it complete the configuration before that. -/
  | completed (seq : Int) (header : Json) :
      DoneFor written message
        [.observe message, attempt written (configurationDone seq), .publish header message]
  /-- A response goes back. -/
  | passedBack (kind : Kind.of? message = some .response) : DoneFor written message [.reply message]
  /-- A request is refused. -/
  | refused : DoneFor written message [attempt written (refusal message)]

theorem react_adapter (r : Relay) (written : Except Error Unit) (message : Json) :
    DoneFor written message (r.react written (.adapter message)).2 := by
  simp only [react, onMessage]
  split
  · simp only [onEvent]
    split
    · split
      · exact .completed _ _
      · exact .published _
    · exact .published _
  · next kind =>
      simp only [onResponse]
      split
      · exact .nothing
      · exact .passedBack kind
  · exact .refused
  · exact .nothing

/-- Setting out to write gives no message for the control side. -/
theorem reply_ne_attempt (written : Except Error Unit) (message reply : Json) :
    Output.reply reply ≠ attempt written message := by
  cases written <;> exact Output.noConfusion

/-- The relay sends a message of the adapter back if it is a response, and nothing else for it. -/
theorem reply_of_adapter {r : Relay} {written : Except Error Unit} {message reply : Json}
    (given : .reply reply ∈ (r.react written (.adapter message)).2) :
    reply = message ∧ Kind.of? message = some .response := by
  have done := r.react_adapter written message
  generalize (r.react written (.adapter message)).2 = outputs at done given
  cases done with
  | passedBack kind =>
      cases List.mem_singleton.mp given
      exact ⟨rfl, kind⟩
  | nothing | published header | completed seq header | refused => simp [reply_ne_attempt] at given

/-- What the relay writes for a message of the adapter is a response, or completes the configuration. -/
theorem write_of_adapter {r : Relay} {message written : Json}
    (given : .write written ∈ (r.step (.adapter message)).2) :
    Kind.of? written = some .response ∨ written.get? "command" = some (.str "configurationDone") := by
  have done := r.react_adapter (.ok ()) message
  rw [step] at given
  generalize (r.react (.ok ()) (.adapter message)).2 = outputs at done given
  cases done with
  | completed seq header =>
      have same : written = configurationDone seq := by simpa [attempt] using given
      rw [same]
      exact .inr (by simp [configurationDone, Json.get?_ofMembers])
  | refused =>
      cases List.mem_singleton.mp given
      refine .inl ?_
      simp [refusal, Kind.of?, Json.getString?, Json.get?_ofMembers, List.lookup, Json.asString?, Kind.ofName?,
        Kind.name]
  | nothing | published header | passedBack kind => simp at given

/-- The relay answers a request itself only to tell that the adapter is lost, or that writing to it fails. -/
theorem reply_of_request {r : Relay} {written : Except Error Unit} {frame : Bytes} {reply : Json}
    (given : .reply reply ∈ (r.react written (.request frame)).2) :
    ∃ message text, Json.decode frame = .ok message ∧ reply = (Response.failFor message text).toJson ∧
      (text = lostText ∨ ∃ e, written = .error e ∧ text = unwrittenText e) := by
  rcases r.react_request written frame with
    ⟨e, -, done⟩ | ⟨message, read, ⟨lost, done⟩ | ⟨alive, phase, done⟩⟩
  · rw [done] at given
    cases given
  · rw [done] at given
    exact ⟨message, lostText, read, Output.reply.inj (List.mem_singleton.mp given), .inl rfl⟩
  · rw [done] at given
    rcases written with e | _
    · simp only [List.mem_cons, List.not_mem_nil, or_false, reduceCtorEq, false_or] at given
      exact ⟨message, _, read, Output.reply.inj given, .inr ⟨e, rfl, rfl⟩⟩
    · simp at given

/-- What a run does, the relay does with one of the inputs. -/
theorem react_of_mem_runWith {r : Relay} {inputs : List (Input × Except Error Unit)} {o : Output}
    (given : o ∈ (r.runWith inputs).2) : ∃ p ∈ inputs, ∃ r : Relay, o ∈ (r.react p.2 p.1).2 := by
  induction inputs generalizing r with
  | nil => cases given
  | cons p inputs ih =>
      rw [runWith_cons] at given
      rcases List.mem_append.mp given with first | later
      · exact ⟨p, List.mem_cons_self, r, first⟩
      · obtain ⟨other, member, r, step⟩ := ih later
        exact ⟨other, List.mem_cons_of_mem p member, r, step⟩

/-- The relay answers the control side with responses only. -/
theorem answerable_of_react {r : Relay} {written : Except Error Unit} {i : Input}
    (readable : ∀ message, i = .adapter message → message.Shaped Json.depthLimit) {v : Json}
    (member : .reply v ∈ (r.react written i).2) : Answerable v := by
  cases i with
  | header frame => cases member
  | request frame =>
      obtain ⟨message, text, read, rfl, -⟩ := reply_of_request member
      exact answerable_failFor (Json.shape_of_decode read).1 text
  | adapter message =>
      obtain ⟨rfl, kind⟩ := reply_of_adapter member
      exact ⟨readable v rfl, type_of_kind kind⟩
  | adapterLost => cases member

end Relay

end DebugBridge
