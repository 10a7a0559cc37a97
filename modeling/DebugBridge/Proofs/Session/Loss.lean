import DebugBridge.Proofs.Json.Depth
import DebugBridge.Proofs.Relay.History
import DebugBridge.Proofs.Session.Correlation
import DebugBridge.Proofs.Wire.Stream

/-!
# The loss of the adapter

A row of signals is all that reaches a relay from outside: the bytes of the adapter's stream as they come, its end, and
the frames of the control side between them. The relay handles what is read off the stream, and once the stream gives
nothing more it answers every request with a notice of its own (`adapter_loss`). There is one exception: a header with
a length from 2^63 on, for which there can be no room, ends the reading, and the relay does not learn of it. A shorter
length for which no memory happens to be left would end it in the same way; that memory runs out is left out here.
-/

namespace DebugBridge

/-- What reaches a relay from outside. -/
inductive Signal where
  /-- Bytes of the adapter's stream. -/
  | bytes (bs : Bytes)
  /-- The end of the adapter's stream. -/
  | ended
  /-- A header frame of the control side. -/
  | header (frame : Bytes)
  /-- A request frame of the control side. -/
  | request (frame : Bytes)
deriving DecidableEq

/-- The frames of the control side are inputs of the relay as they are. -/
def Signal.control : Signal → List Relay.Input
  | .header frame => [.header frame]
  | .request frame => [.request frame]
  | .bytes _ | .ended => []

/-- The adapter's stream: all bytes before its end. -/
def streamOf : List Signal → Bytes
  | [] => []
  | .bytes bs :: signals => bs ++ streamOf signals
  | .ended :: _ => []
  | .header _ :: signals | .request _ :: signals => streamOf signals

/-- After its end nothing belongs to a stream any more. -/
theorem streamOf_append_of_ended {signals : List Signal} (ended : .ended ∈ signals) (later : List Signal) :
    streamOf (signals ++ later) = streamOf signals := by
  induction signals with
  | nil => cases ended
  | cons s signals ih =>
      cases s with
      | ended => rfl
      | bytes bs =>
          have rest : .ended ∈ signals := by simpa using ended
          simp [streamOf, ih rest]
      | header frame | request frame =>
          have rest : .ended ∈ signals := by simpa using ended
          simp [streamOf, ih rest]

/-- Until its end a stream goes on. -/
theorem streamOf_append {signals : List Signal} (goesOn : .ended ∉ signals) (later : List Signal) :
    streamOf (signals ++ later) = streamOf signals ++ streamOf later := by
  induction signals with
  | nil => rfl
  | cons s signals ih =>
      have rest : .ended ∉ signals := List.not_mem_of_not_mem_cons goesOn
      cases s with
      | ended => exact absurd List.mem_cons_self goesOn
      | bytes bs => simp [streamOf, ih rest]
      | header frame | request frame => simp [streamOf, ih rest]

/-- More signals only add to a stream, and not even that when it has ended. -/
theorem streamOf_extends (signals later : List Signal) :
    ∃ more, streamOf (signals ++ later) = streamOf signals ++ more ∧ (.ended ∈ signals → more = []) := by
  by_cases ended : .ended ∈ signals
  · exact ⟨[], by rw [streamOf_append_of_ended ended, List.append_nil], fun _ => rfl⟩
  · exact ⟨streamOf later, streamOf_append ended later, fun has => absurd has ended⟩

/-! ## The inlet -/

namespace Inlet

/-- What an inlet makes of a signal. -/
def receive (inlet : Inlet) : Signal → List Arrival × Inlet
  | .bytes bs => inlet.feed bs
  | .ended => inlet.finish
  | .header _ | .request _ => ([], inlet)

/-- What signals are to the relay behind an inlet. -/
def inputs (inlet : Inlet) : List Signal → List Relay.Input
  | [] => []
  | s :: signals => (inlet.receive s).1.map Arrival.input ++ s.control ++ inputs (inlet.receive s).2 signals

/-- An inlet after signals. -/
def after (inlet : Inlet) (signals : List Signal) : Inlet :=
  signals.foldl (fun inlet s => (inlet.receive s).2) inlet

/-- Signals may be cut anywhere. -/
theorem after_append (inlet : Inlet) (signals later : List Signal) :
    inlet.after (signals ++ later) = (inlet.after signals).after later :=
  List.foldl_append

theorem inputs_append (inlet : Inlet) (signals later : List Signal) :
    inlet.inputs (signals ++ later) = inlet.inputs signals ++ (inlet.after signals).inputs later := by
  induction signals generalizing inlet with
  | nil => rfl
  | cons s signals ih => simp only [List.cons_append, inputs, ih, List.append_assoc, after, List.foldl_cons]

variable {inlet : Inlet}

/-- An inlet that is read no longer passes on nothing of its stream. -/
theorem inputs_of_closed (closed : ∀ buffer, inlet ≠ .open buffer) (signals : List Signal) :
    inlet.inputs signals = signals.flatMap Signal.control ∧ inlet.after signals = inlet := by
  have silent (s : Signal) : inlet.receive s = ([], inlet) := by
    cases inlet with
    | «open» buffer => exact absurd rfl (closed buffer)
    | lost | deaf => cases s <;> rfl
  induction signals with
  | nil => exact ⟨rfl, rfl⟩
  | cons s signals ih =>
      obtain ⟨inputs, after⟩ := ih
      rw [Inlet.inputs, Inlet.after, List.foldl_cons, silent]
      exact ⟨by rw [inputs]; rfl, after⟩

/-- Of an inlet that is read the relay gets the messages that can be read off the stream, and learns when it is given
up. -/
theorem receive_open {ended : Prop} {rest : Bytes} (waits : Wire.next rest = .waiting) {s : Signal}
    (ends : ended ↔ s = .ended) :
    ∃ vs left, Wire.ReadsOff (rest ++ streamOf [s]) vs left ∧ Stands ended left ((Inlet.open rest).receive s).2 ∧
      ((Inlet.open rest).receive s).1 = vs.map .message ++ ((Inlet.open rest).receive s).2.notice := by
  cases s with
  | bytes bs =>
      have goesOn : ¬ ended := by simp [ends]
      have enough : (rest ++ bs).length < rest.length + bs.length + 1 := by
        rw [List.length_append]
        exact Nat.lt_succ_self _
      simp only [streamOf, List.append_nil]
      exact drain_stands goesOn enough
  | ended =>
      obtain ⟨stands, told⟩ := stands_finish waits (ends.mpr rfl)
      exact ⟨[], rest, by simpa [streamOf] using .nothing rest, stands, told⟩
  | header frame | request frame =>
      have goesOn : ¬ ended := by simp [ends]
      exact ⟨[], rest, by simpa [streamOf] using .nothing rest, .reading goesOn waits, rfl⟩

end Inlet

/-! ## The relay -/

namespace Relay

/-- The message of the adapter that an input is. -/
def Input.message? : Input → Option Json
  | .adapter message => some message
  | _ => none

/-- What the relay gives for an input when the adapter is lost. -/
def Input.notices : Input → List Output
  | .request frame =>
    match Json.decode frame with
    | .ok message => [.reply (Response.failFor message lostText).toJson]
    | .error _ => []
  | .header _ | .adapter _ | .adapterLost => []

/-- When the adapter is lost and nothing more of it is read, nothing is written: every request that can be read is
answered with a notice. -/
theorem run_of_lost {r : Relay} (lost : r.adapterAlive = false) (inputs : List Input)
    (unread : ∀ i ∈ inputs, i.message? = none) : (r.run inputs).2 = inputs.flatMap Input.notices := by
  induction inputs generalizing r with
  | nil => rfl
  | cons i inputs ih =>
      have outputs := ih (react_adapterAlive_of_lost r (.ok ()) i lost) fun j member =>
        unread j (List.mem_cons_of_mem i member)
      have here : (r.step i).2 = i.notices := by
        cases i with
        | header frame | adapterLost => rfl
        | adapter message => cases unread _ List.mem_cons_self
        | request frame =>
            rcases step_request r frame with ⟨e, read, done⟩ | ⟨message, read, -, done⟩
            · rw [done, Input.notices, read]
            · rw [done, Input.notices, read, lost]
              rfl
      rw [run_cons, List.flatMap_cons, ← here]
      exact congrArg ((r.step i).2 ++ ·) outputs

/-! ## The relay behind its inlet -/

/-- All that reaches a relay with a new connection in the course of signals. -/
def inputsOf (signals : List Signal) : List Input :=
  Inlet.start.inputs signals

/-- The relay after signals. -/
def after (signals : List Signal) : Relay :=
  (Relay.start.run (inputsOf signals)).1

/-- All that the relay gives in the course of signals. -/
def given (signals : List Signal) : List Output :=
  (Relay.start.run (inputsOf signals)).2

/-- The messages of the adapter that the relay handles in the course of signals. -/
def handled (signals : List Signal) : List Json :=
  (inputsOf signals).filterMap Input.message?

/-- What is left of the stream when the relay has handled its messages, and what inlet and relay know of it. -/
structure Accounts (signals : List Signal) (rest : Bytes) : Prop where
  reads : Wire.ReadsOff (streamOf signals) (handled signals) rest
  stands : (Inlet.start.after signals).Stands (.ended ∈ signals) rest
  lost : (after signals).adapterAlive = false ↔ Inlet.start.after signals = .lost

section Later

variable {signals : List Signal} (later : List Signal)

theorem after_append :
    after (signals ++ later) = ((after signals).run ((Inlet.start.after signals).inputs later)).1 := by
  simp only [after, inputsOf, Inlet.inputs_append, run_append]

/-- What is done for later signals comes behind what was done for earlier ones. -/
theorem given_append :
    given (signals ++ later) = given signals ++ ((after signals).run ((Inlet.start.after signals).inputs later)).2 := by
  simp only [given, after, inputsOf, Inlet.inputs_append, run_append]

/-- What is handled of later signals comes behind. -/
theorem handled_append :
    handled (signals ++ later) =
      handled signals ++ ((Inlet.start.after signals).inputs later).filterMap Input.message? := by
  simp only [handled, inputsOf, Inlet.inputs_append, List.filterMap_append]

end Later

theorem adapterLost_not_mem_control (later : List Signal) : .adapterLost ∉ later.flatMap Signal.control := by
  intro member
  obtain ⟨s, -, given⟩ := List.mem_flatMap.mp member
  cases s <;> simp [Signal.control] at given

theorem message?_of_mem_control (later : List Signal) {i : Input} (member : i ∈ later.flatMap Signal.control) :
    i.message? = none := by
  obtain ⟨s, -, given⟩ := List.mem_flatMap.mp member
  cases s with
  | header frame | request frame =>
      rw [List.mem_singleton.mp given]
      rfl
  | bytes bs | ended => cases given

/-- Once its inlet is read no longer, the relay handles nothing more, and is as alive as it was. -/
theorem later_of_closed {signals : List Signal} (closed : ∀ buffer, Inlet.start.after signals ≠ .open buffer)
    (later : List Signal) :
    Inlet.start.after (signals ++ later) = Inlet.start.after signals ∧ handled (signals ++ later) = handled signals ∧
      (after (signals ++ later)).adapterAlive = (after signals).adapterAlive := by
  obtain ⟨inputs, same⟩ := Inlet.inputs_of_closed closed later
  refine ⟨?_, ?_, ?_⟩
  · rw [Inlet.after_append, same]
  · have nothing := List.filterMap_eq_nil_iff.mpr fun i => message?_of_mem_control (i := i) later
    rw [handled_append, inputs, nothing, List.append_nil]
  · rw [after_append, inputs]
    have survives := adapterAlive_run_iff (after signals) (later.flatMap Signal.control)
    simp only [adapterLost_not_mem_control, not_false_eq_true, and_true] at survives
    exact Bool.eq_iff_iff.mpr survives

/-- While the inlet is read, a signal brings the relay what can be read off the stream with it. -/
theorem Accounts.receive {signals : List Signal} {rest : Bytes} (accounts : Accounts signals rest)
    (isOpen : Inlet.start.after signals = .open rest) (goesOn : .ended ∉ signals) (waits : Wire.next rest = .waiting)
    (s : Signal) : ∃ left, Accounts (signals ++ [s]) left := by
  have alive : (after signals).adapterAlive = true := by
    have notLost := mt accounts.lost.mp (by simp [isOpen])
    simpa using notLost
  have ends : .ended ∈ signals ++ [s] ↔ s = .ended := by simp [goesOn, eq_comm]
  obtain ⟨vs, left, off, stands, told⟩ := Inlet.receive_open waits ends
  generalize received : (Inlet.open rest).receive s = outcome at stands told
  obtain ⟨arrivals, inlet⟩ := outcome
  simp only at stands told
  have inputs : (Inlet.start.after signals).inputs [s] =
      vs.map Input.adapter ++ (inlet.notice.map Arrival.input ++ s.control) := by
    simp [isOpen, Inlet.inputs, received, told, Function.comp_def, Arrival.input]
  have reached : Inlet.start.after (signals ++ [s]) = inlet := by
    rw [Inlet.after_append, isOpen]
    exact congrArg Prod.snd received
  refine ⟨left, ?_, reached ▸ stands, ?_⟩
  · have others : ∀ i ∈ inlet.notice.map Arrival.input ++ s.control, i.message? = none := by
      intro i member
      rcases List.mem_append.mp member with notice | control
      · obtain ⟨a, told, rfl⟩ := List.mem_map.mp notice
        cases inlet with
        | lost =>
            rw [List.mem_singleton.mp told]
            rfl
        | «open» buffer | deaf => cases told
      · exact message?_of_mem_control [s] (by simpa using control)
    have handles : ((vs.map Input.adapter) ++ (inlet.notice.map Arrival.input ++ s.control)).filterMap
        Input.message? = vs := by
      rw [List.filterMap_append, List.filterMap_eq_nil_iff.mpr others, List.append_nil, List.filterMap_map]
      exact List.filterMap_some
    rw [streamOf_append goesOn, handled_append, inputs, handles]
    exact (accounts.reads.append _).trans off
  · -- The only input that loses the adapter is the inlet's notice, which comes exactly when it is given up.
    have noControl : .adapterLost ∉ s.control := by simpa using adapterLost_not_mem_control [s]
    have survives := adapterAlive_run_iff (after signals) ((Inlet.start.after signals).inputs [s])
    rw [← after_append, alive, inputs] at survives
    rw [reached, ← Bool.not_eq_true, survives]
    cases inlet <;> simp [Inlet.notice, Arrival.input, noControl]

/-- The relay has handled what can be read off the stream, whatever has come so far. -/
theorem accounts (signals : List Signal) : ∃ rest, Accounts signals rest := by
  induction signals using List.reverseRecOn with
  | nil =>
      have alive : (after []).adapterAlive = true := rfl
      exact ⟨[], .nothing [], .reading (by simp) rfl, by simp [alive, Inlet.after, Inlet.start]⟩
  | append_singleton signals s ih =>
      obtain ⟨rest, accounts⟩ := ih
      have stands := accounts.stands
      -- While the inlet is read, the last signal may bring messages. After that it only adds to what is left.
      by_cases closed : ∀ buffer, Inlet.start.after signals ≠ .open buffer
      · obtain ⟨same, handles, alive⟩ := later_of_closed closed [s]
        obtain ⟨more, longer, full⟩ := streamOf_extends signals [s]
        refine ⟨rest ++ more, ?_, ?_, ?_⟩
        · rw [longer, handles]
          exact accounts.reads.append more
        · rw [same]
          exact stands.later closed (List.mem_append_left _) full
        · rw [same, alive]
          exact accounts.lost
      · obtain ⟨buffer, isOpen⟩ := Classical.not_forall_not.mp closed
        rw [isOpen] at stands
        cases stands with
        | reading goesOn waits => exact accounts.receive isOpen goesOn waits s

/-! ## Notices -/

/-- The notice that a message is answered with once the adapter is lost: a failure under the message's number and
command. Whoever sent the message as a request takes it as the reply. -/
structure Denies (message reply : Json) : Prop where
  answers : Session.Answers message reply
  failure : reply.getBool? "success" = some false
  exact : Json.decode (Json.encode reply) = .ok reply
  belongs : ∀ r : Request, r.Regular → Json.decode (Json.encode r.toJson) = .ok message →
    isReplyTo r.toJson reply = true

/-- The notice denies the message that it answers. -/
theorem denies_failFor {message : Json} (wellFormed : message.WellFormed) :
    Denies message (Response.failFor message lostText).toJson where
  answers := Session.answers_of_response (Session.seqOf_eq wellFormed) (Session.commandOf_eq message)
  failure := Response.success_failFor message lostText
  exact := Json.decode_encode_of_exact (Response.inherited_failFor Json.inherited_exact 126 wellFormed lostText)
  belongs := by
    intro r regular read
    obtain ⟨seq, command⟩ := regular.fields
    have shaped := Json.shaped_of_decode_encode regular.wellFormed read
    rw [Json.decode_encode shaped] at read
    obtain ⟨-, sameSeq, -⟩ := Json.fields_of_reread regular.wellFormed read "seq"
    obtain ⟨sameCommand, -, -⟩ := Json.fields_of_reread regular.wellFormed read "command"
    obtain ⟨-, number, name⟩ := Response.get?_toJson (Response.failFor message lostText)
    have isSeq : Response.seqOf message = r.seq := by rw [Response.seqOf, sameSeq, seq, Option.getD_some]
    have isCommand : Response.commandOf message = r.command := by
      rw [Response.commandOf, sameCommand, command, Option.getD_some]
    have small : r.seq < 9223372036854775808 := by simpa using regular.most
    rw [isReplyTo, seq, command, Json.getInt?, number, Json.getString?, name]
    simp [Response.failFor, isSeq, isCommand, Json.asInt?, Json.asString?, small]

/-! ## The loss -/

/-- How a relay behaves towards an adapter's stream of which it has this left. -/
structure HandlesLoss (signals : List Signal) (rest : Bytes) : Prop where
  /-- What is read off the stream is handled, in its order. -/
  reads : Wire.ReadsOff (streamOf signals) (handled signals) rest
  /-- That is all that can be read, -/
  whole : ¬ Wire.Overlong (.ended ∈ signals) rest → ∀ v more, Wire.read rest ≠ .ok (some (v, more))
  /-- and the adapter is lost as soon as the stream has ended or does not go on with a message. -/
  lost : ¬ Wire.Overlong (.ended ∈ signals) rest →
    ((after signals).adapterAlive = false ↔ .ended ∈ signals ∨ ∃ e, Wire.next rest = .failed e)
  /-- When a header comes for which there is no room, nothing more is handled, and the adapter is never lost. -/
  overlong : Wire.Overlong (.ended ∈ signals) rest → ∀ later, handled (signals ++ later) = handled signals ∧
    (after (signals ++ later)).adapterAlive = true
  /-- When the adapter is lost, it is lost for good: nothing more is handled, and nothing comes of later signals but a
  notice for every request. -/
  forGood : (after signals).adapterAlive = false → ∀ later, handled (signals ++ later) = handled signals ∧
    (after (signals ++ later)).adapterAlive = false ∧
      given (signals ++ later) = given signals ++ (later.flatMap Signal.control).flatMap Input.notices
  /-- Every request that can be read has such a notice. -/
  notices : ∀ frame message, Json.decode frame = .ok message →
    ∃ reply, (Input.request frame).notices = [.reply reply] ∧ Denies message reply

/-- Whatever comes from the adapter, in whatever pieces, and whatever the control side sends meanwhile, the relay
handles what can be read off the stream and then gives the adapter up. The exception is a header with a length from
2^63 on, for which there can be no room. Shorter lengths always find room here: those that cannot be allocated, as
memory has run out, are left out. -/
theorem adapter_loss (signals : List Signal) : ∃ rest, HandlesLoss signals rest := by
  obtain ⟨rest, accounts⟩ := accounts signals
  have stands := accounts.stands
  refine ⟨rest, accounts.reads, stands.read_ne, fun room => ?_, fun overlong later => ?_, fun dead later => ?_, ?_⟩
  · rw [accounts.lost, stands.eq_lost_iff room]
  · have deaf := stands.eq_deaf overlong
    have closed : ∀ buffer, Inlet.start.after signals ≠ .open buffer := by simp [deaf]
    obtain ⟨-, handles, alive⟩ := later_of_closed closed later
    have notLost := mt accounts.lost.mp (by simp [deaf])
    exact ⟨handles, alive.trans (by simpa using notLost)⟩
  · have lost := accounts.lost.mp dead
    have closed : ∀ buffer, Inlet.start.after signals ≠ .open buffer := by simp [lost]
    obtain ⟨-, handles, alive⟩ := later_of_closed closed later
    refine ⟨handles, alive.trans dead, ?_⟩
    rw [given_append, (Inlet.inputs_of_closed closed later).1,
      run_of_lost dead _ fun i => message?_of_mem_control later]
  · intro frame message read
    refine ⟨_, ?_, denies_failFor (Json.shape_of_decode read).1⟩
    rw [Input.notices, read]

/-- A stream that ends within a header loses the adapter. -/
example :
    given [.bytes (Utf8.encode "Content-Length: 2\r\n"), .ended,
        .request (Json.encode (Session.bareRequest 3 "next"))] =
      [.reply (Response.failFor (Session.bareRequest 3 "next") lostText).toJson] := by decide +kernel

/-- A header with the first length for which there is no room. -/
def overlongHeader : Bytes :=
  Utf8.encode "Content-Length: 9223372036854775808\r\n\r\n"

/-- The relay does not learn that the adapter is not read any more, not even at the end of the stream: a request that
comes then is passed on, and nobody answers it. -/
theorem adapter_loss_overlongHeader :
    (after [.bytes overlongHeader, .ended, .request (Json.encode (Session.bareRequest 3 "next"))]).adapterAlive = true ∧
      given [.bytes overlongHeader, .ended, .request (Json.encode (Session.bareRequest 3 "next"))] =
        [.write (Session.bareRequest 3 "next")] := by
  obtain ⟨rest, loss⟩ := adapter_loss [.bytes overlongHeader]
  have nothing : handled [.bytes overlongHeader] = [] := by decide +kernel
  have reads := loss.reads
  rw [nothing] at reads
  cases reads
  have capacity : Wire.next (streamOf [.bytes overlongHeader]) = .failed .capacity := by decide +kernel
  obtain ⟨-, alive⟩ := loss.overlong (.inl capacity) [.ended, .request (Json.encode (Session.bareRequest 3 "next"))]
  exact ⟨alive, by decide +kernel⟩

end Relay
end DebugBridge
