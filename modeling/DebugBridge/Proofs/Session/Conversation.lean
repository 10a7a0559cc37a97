import DebugBridge.Proofs.Json.Depth
import DebugBridge.Proofs.Session.Traffic

/-!
# Conversations with the adapter

A `Conversation` is a run of a session in which the front end numbers its requests upwards and every response of
the adapter copies the number and the command of a message that it got. Each message that is written is recorded
with the message of the front end that it was written for. What is known of every record is `Record.Sound`, and what
waits for the control side meanwhile is `Record.Waiting`.
-/

namespace DebugBridge

namespace Session

variable {σ : Type} {s : Session} {r : Request} {message : Json}

/-! ## Numbers and commands on the way -/

/-- A message carries a number and a command. -/
structure Carries (message : Json) (n : Int) (command : String) : Prop where
  seq : message.get? "seq" = some (.int n)
  command : message.get? "command" = some (.str command)

/-- The number under which a request is passed on. -/
def sentNumber (r : Request) : Int :=
  if r.command = "richInspectVariables" then Request.seqAfter r.seq else r.seq

/-- The command under which a request is passed on. -/
def sentCommand (r : Request) : String :=
  if r.command = "richInspectVariables" then "setExpression" else r.command

/-- The hidden request has the number and the command that it is made with. -/
theorem carries_setExpression (slot : Slot) (subject : String) (frame seq : Int) :
    Carries (slot.setExpression subject frame seq) seq "setExpression" := by
  constructor <;> simp [Slot.setExpression, Json.get?_ofMembers, List.lookup]

/-- The message of a plan renders a variable under the number after the request's. -/
theorem carries_plan {stopped : Bool} {slot : Slot} {sent : Json}
    (planned : Rendering.plan stopped slot r = .inFrame sent) :
    Carries sent (Request.seqAfter r.seq) "setExpression" := by
  rw [Rendering.plan] at planned
  split at planned
  · cases planned
  · split at planned
    · split at planned
      · cases planned
      · cases planned
        exact carries_setExpression slot _ _ _
    · cases planned

/-- What is passed on carries the number and the command of the request, unless it renders a variable. No request
that completes the configuration is passed on. -/
theorem carries_sent (wellFormed : message.WellFormed) (read : Request.ofJson? message = .ok r) {address : Address}
    {stopped : Bool} {slot : Slot} {call : Call} (planned : callFor address stopped slot r = some call) :
    Carries call.sent (sentNumber r) (sentCommand r) ∧ sentCommand r ≠ "configurationDone" := by
  have other : r.command ≠ "configurationDone" := by
    intro done
    simp [callFor, done] at planned
  rw [sentNumber, sentCommand]
  rcases (callFor_cases planned).2 with ⟨rich, -, plan⟩ | ⟨direct, -, -, -, sent⟩
  · rw [if_pos rich, if_pos rich]
    exact ⟨carries_plan plan, by decide⟩
  · rw [if_neg direct, if_neg direct]
    refine ⟨?_, other⟩
    obtain ⟨seq, command⟩ := sent_fields wellFormed read address call.sent (by
      rw [sent]
      split
      · exact .inr rfl
      · exact .inl rfl)
    exact ⟨Json.get?_of_getInt? seq, Json.get?_of_getString? command⟩

/-- A message carries the same after the relay has read it. -/
theorem Carries.delivered {v : Json} {n : Int} {command : String} (carries : Carries message n command)
    (wellFormed : message.WellFormed) (read : delivered message = some v) : Carries v n command := by
  have decoded : Json.decode (Json.encode message) = .ok v := by
    rw [Session.delivered] at read
    cases outcome : Json.decode (Json.encode message) with
    | error e =>
        rw [outcome] at read
        cases read
    | ok w =>
        rw [outcome] at read
        cases read
        rfl
  rw [Json.decode_encode (Json.shaped_of_decode_encode wellFormed decoded)] at decoded
  have kept {key : String} {a : Json} (held : message.get? key = some a) (same : Json.reread a = .ok a) :
      v.get? key = some a := by
    rcases Json.get?_of_reread wellFormed decoded key with ⟨before, -⟩ | ⟨b, c, before, reread, after⟩
    · rw [held] at before
      cases before
    · rw [held] at before
      cases before
      rw [same] at reread
      cases reread
      exact after
  exact ⟨kept carries.seq rfl, kept carries.command rfl⟩

/-! ## Records -/

/-- A message written to the adapter, and the message of the front end that it was written for. The relay writes
some for none. -/
structure Written where
  asked : Option Json
  message : Json
deriving DecidableEq

/-- A response of the adapter, and the written message that it answers. -/
structure Answer where
  response : Json
  written : Written
deriving DecidableEq

/-- What has passed in a conversation: the numbers of the requests, the messages written to the adapter and its
answers. -/
structure Record where
  numbers : List Int
  written : List Written
  answers : List Answer
deriving DecidableEq

/-- A response copies the number and the command of a message. -/
structure Copies (message response : Json) : Prop where
  seq : response.get? "request_seq" = message.get? "seq"
  command : response.get? "command" = message.get? "command"

/-- The number of the request that a move answers, if it answers one. -/
def Move.numbers : Move σ → List Int
  | .process _ message _ _ _ =>
    match Request.ofJson? message with
    | .ok r => [r.seq]
    | .error _ => []
  | _ => []

/-- The responses of the adapter in the course of a move. -/
def Move.responses (move : Move σ) : List Json :=
  move.arrivals.filterMap fun
    | .message v => if Kind.of? v = some .response then some v else none
    | .lost => none

/-- The messages that are written to the adapter in the course of a move. -/
def Move.writes (out : Outside σ) (s : Session) (o : σ) : Move σ → List Written
  | .process header message early arrivals _ =>
    ((s.attempted out message o).ownWrites (s.heard out message early o)).map (Written.mk none) ++
      (s.controlDelivered out message early o).map (Written.mk (some message)) ++
        ((s.begin out header message early o).2.1.ownWrites arrivals).map (Written.mk none)
  | .arrive a => (s.ownWrites [a]).map (Written.mk none)
  | _ => []

/-- The record after a move with its answers. -/
def Record.after (record : Record) (out : Outside σ) (s : Session) (o : σ) (move : Move σ) (answers : List Answer) :
    Record :=
  ⟨record.numbers ++ move.numbers, record.written ++ move.writes out s o, record.answers ++ answers⟩

/-- What a conversation can go on with. Requests are numbered upwards. Every response is an answer to a message
that the adapter got, at any time and any number of times; a message that is itself a response has none. -/
structure Continues (out : Outside σ) (s : Session) (o : σ) (record : Record) (move : Move σ)
    (answers : List Answer) : Prop where
  allowed : move.Allowed controlBindings s
  upwards : ∀ n ∈ move.numbers, ∀ earlier ∈ record.numbers, earlier < n
  responses : answers.map Answer.response = move.responses
  written : ∀ a ∈ answers, a.written ∈ (record.after out s o move answers).written
  noResponse : ∀ a ∈ answers, Kind.of? a.written.message ≠ some .response
  copies : ∀ a ∈ answers, Copies a.written.message a.response

/-- The runs of a session with their records. -/
inductive Conversation (out : Outside σ) : Session → σ → Record → Prop where
  | create {s : Session} {o : σ} (created : Created s) : Conversation out s o ⟨[], [], []⟩
  | step {s : Session} {o : σ} {record : Record} (prior : Conversation out s o record) (move : Move σ)
      {answers : List Answer} (continues : Continues out s o record move answers) :
      Conversation out (s.next out o move).1 (s.next out o move).2 (record.after out s o move answers)

variable {out : Outside σ} {o : σ} {record : Record}

/-- A conversation can go on with a move in which no response comes. -/
theorem continues_silent {move : Move σ} (allowed : move.Allowed controlBindings s)
    (upwards : ∀ n ∈ move.numbers, ∀ earlier ∈ record.numbers, earlier < n) (silent : move.responses = []) :
    Continues out s o record move [] :=
  ⟨allowed, upwards, silent.symm, nofun, nofun, nofun⟩

/-- A conversation is a run. -/
theorem Conversation.reachable (conversation : Conversation out s o record) : Reachable out controlBindings s o := by
  induction conversation with
  | create created => exact .create created
  | step prior move continues ih => exact .step ih move continues.allowed

/-- What is recorded is what a move adds to the messages for the adapter. -/
theorem outbox_next (reachable : Reachable out controlBindings s o) {move : Move σ}
    (allowed : move.Allowed controlBindings s) (other : move ≠ .takeOutbox) :
    (s.next out o move).1.outbox = s.outbox ++ (move.writes out s o).map Written.message := by
  have sound := reachable.sound
  have messages (asked : Option Json) (written : List Json) :
      (written.map (Written.mk asked)).map Written.message = written := by
    simp [Function.comp_def]
  cases move with
  | process header message early arrivals meanwhile =>
      have queued := reachable.queued.mono (Q := fun _ => True) fun _ _ => trivial
      simp only [Move.writes, List.map_append, messages, ← List.append_assoc]
      exact outbox_process sound queued header allowed.1 early arrivals meanwhile
  | start =>
      simp only [next, Move.writes, List.map_nil, List.append_nil]
      exact (start_cases out sound o).outbox
  | nextEvent time =>
      simp only [next, Move.writes, List.map_nil, List.append_nil]
      rw [nextEvent]
      split
      · rfl
      · simp only
        split <;> rfl
  | arrive a =>
      rw [Move.writes, messages]
      exact s.outbox_arrivals [a]
  | takeOutbox => exact absurd rfl other
  | stop | outside change | elsewhere hub => simp [next, Move.writes, stop, shutDown, unbindRequest, unbindHeader]

/-! ## What is known of a record -/

/-- What the relay writes by itself is a response, or completes the configuration. -/
theorem ownWrites_cases {arrivals : List Arrival} (written : message ∈ s.ownWrites arrivals) :
    Kind.of? message = some .response ∨ message.get? "command" = some (.str "configurationDone") := by
  rw [ownWrites] at written
  cases running : s.worker with
  | none =>
      rw [running] at written
      cases written
  | some w =>
      rw [running] at written
      obtain ⟨o, given, isWrite⟩ := List.mem_filterMap.mp written
      cases o with
      | write m =>
          cases isWrite
          obtain ⟨a, -, r, step⟩ := Relay.mem_hearAll given
          cases a with
          | message v => exact Relay.write_of_adapter step
          | lost => cases step
      | unwritten _ | reply _ | observe _ | publish _ _ => cases isWrite

/-- A written message is accounted for if the relay wrote it by itself, or if it carries the number and the command
under which one of the requests is passed on. -/
inductive Accounted (numbers : List Int) : Written → Prop where
  | own {message : Json}
      (kind : Kind.of? message = some .response ∨ message.get? "command" = some (.str "configurationDone")) :
      Accounted numbers ⟨none, message⟩
  | asked {earlier message : Json} {r : Request} (wellFormed : earlier.WellFormed)
      (read : Request.ofJson? earlier = .ok r) (counted : r.seq ∈ numbers)
      (carries : Carries message (sentNumber r) (sentCommand r)) : Accounted numbers ⟨some earlier, message⟩

/-- More numbers account for as much. -/
theorem Accounted.mono {numbers more : List Int} {w : Written} (accounted : Accounted numbers w)
    (included : numbers ⊆ more) : Accounted more w := by
  cases accounted with
  | own kind => exact .own kind
  | asked wellFormed read counted carries => exact .asked wellFormed read (included counted) carries

/-- What is written for a message of the front end carries the number and the command of its request. -/
theorem carries_controlDelivered (wellFormed : message.WellFormed) (port : s.address.port < 2 ^ 16)
    {early : List Arrival} {written : Json} (member : written ∈ s.controlDelivered out message early o) :
    ∃ r, Request.ofJson? message = .ok r ∧ Carries written (sentNumber r) (sentCommand r) := by
  rw [controlDelivered] at member
  split at member
  · obtain ⟨sent, given, through⟩ := Option.bind_eq_some_iff.mp (Option.mem_toList.mp member)
    rw [controlMessageIn] at given
    cases read : Request.ofJson? message with
    | error e =>
        rw [controlMessage, read] at given
        cases given
    | ok r =>
        rw [controlMessage_eq wellFormed read] at given
        obtain ⟨call, planned, rfl⟩ := Option.map_eq_some_iff.mp given
        have inner : call.sent.WellFormed :=
          inherited_sent Json.inherited_wellFormed 0 wellFormed read port planned
        exact ⟨r, rfl, (carries_sent wellFormed read planned).1.delivered inner through⟩
  · cases member

/-- Every message that a move writes is accounted for by a number that the front end has used. -/
theorem accounted_writes (port : s.address.port < 2 ^ 16) {move : Move σ} (allowed : move.Allowed controlBindings s) :
    ∀ w ∈ move.writes out s o, Accounted move.numbers w := by
  have own {numbers : List Int} {next : Session} {arrivals : List Arrival} :
      ∀ w ∈ (next.ownWrites arrivals).map (Written.mk none), Accounted numbers w := by
    intro w member
    obtain ⟨m, written, rfl⟩ := List.mem_map.mp member
    exact .own (ownWrites_cases written)
  intro w member
  cases move with
  | process header message early arrivals meanwhile =>
      rcases List.mem_append.mp member with before | after
      · rcases List.mem_append.mp before with first | passed
        · exact own w first
        · obtain ⟨m, written, rfl⟩ := List.mem_map.mp passed
          obtain ⟨r, read, carries⟩ := carries_controlDelivered allowed.1 port written
          refine .asked allowed.1 read ?_ carries
          rw [Move.numbers, read]
          exact List.mem_singleton_self r.seq
      · exact own w after
  | arrive a => exact own w member
  | start | stop | nextEvent _ | takeOutbox | outside _ | elsewhere _ => cases member

/-- What holds of every record: its messages are accounted for, and its answers are answers to them. -/
structure Record.Sound (record : Record) : Prop where
  written : ∀ w ∈ record.written, Accounted record.numbers w
  shaped : ∀ a ∈ record.answers, a.response.Shaped Json.depthLimit
  answered : ∀ a ∈ record.answers, a.written ∈ record.written
  noResponse : ∀ a ∈ record.answers, Kind.of? a.written.message ≠ some .response
  copies : ∀ a ∈ record.answers, Copies a.written.message a.response

theorem Continues.shaped {move : Move σ} {answers : List Answer} (continues : Continues out s o record move answers) :
    ∀ a ∈ answers, a.response.Shaped Json.depthLimit := by
  intro a member
  have given : a.response ∈ move.responses := continues.responses ▸ List.mem_map_of_mem member
  obtain ⟨b, arrived, response⟩ := List.mem_filterMap.mp given
  have readable := Move.readable continues.allowed b arrived
  cases b with
  | lost => cases response
  | message v =>
      simp only at response
      split at response
      · cases response
        obtain ⟨bytes, read⟩ := readable
        exact Json.shape_of_decode read
      · cases response

/-- A move keeps a record sound. -/
theorem Continues.sound {move : Move σ} {answers : List Answer} (continues : Continues out s o record move answers)
    (sound : record.Sound) (port : s.address.port < 2 ^ 16) : (record.after out s o move answers).Sound where
  written := by
    intro w member
    rcases List.mem_append.mp member with earlier | added
    · exact (sound.written w earlier).mono (List.subset_append_left _ _)
    · exact (accounted_writes port continues.allowed w added).mono (List.subset_append_right _ _)
  shaped := by
    intro a member
    exact (List.mem_append.mp member).elim (sound.shaped a) (continues.shaped a)
  answered := by
    intro a member
    rcases List.mem_append.mp member with earlier | added
    · exact List.mem_append_left _ (sound.answered a earlier)
    · exact continues.written a added
  noResponse := by
    intro a member
    exact (List.mem_append.mp member).elim (sound.noResponse a) (continues.noResponse a)
  copies := by
    intro a member
    exact (List.mem_append.mp member).elim (sound.copies a) (continues.copies a)

/-- The record of a conversation is sound. -/
theorem Conversation.sound (conversation : Conversation out s o record) : record.Sound := by
  induction conversation with
  | create created => exact ⟨nofun, nofun, nofun, nofun, nofun⟩
  | step prior move continues ih => exact continues.sound ih prior.reachable.port

/-- What an answer is read as still has the number and the command of what it answers. -/
theorem Record.Sound.fields (sound : record.Sound) {a : Answer} (member : a ∈ record.answers) {reply : Json}
    (read : Json.decode (Json.encode a.response) = .ok reply) :
    reply.getInt? "request_seq" = a.written.message.getInt? "seq" ∧
      reply.getString? "command" = a.written.message.getString? "command" := by
  have shaped := sound.shaped a member
  have copies := sound.copies a member
  rw [Json.decode_encode shaped] at read
  constructor
  · rw [(Json.fields_of_reread shaped.1 read "request_seq").2.1, Json.getInt?, copies.seq, Json.getInt?]
  · rw [(Json.fields_of_reread shaped.1 read "command").1, Json.getString?, copies.command, Json.getString?]

/-! ## What waits for the control side -/

/-- What waits for the control side in a conversation: notices that the adapter is lost, and its answers. -/
def Record.Waiting (record : Record) (v : Json) : Prop :=
  Relay.Answerable v ∧
    ((∃ lost : Json, lost.WellFormed ∧ v = (Response.failFor lost Relay.lostText).toJson) ∨
      ∃ a ∈ record.answers, a.response = v)

/-- What waits for the control side after a move is in the record. -/
theorem Continues.waiting {move : Move σ} {answers : List Answer} (continues : Continues out s o record move answers) :
    ∀ a ∈ move.arrivals, ∀ (r : Relay) reply, .reply reply ∈ (r.step a.input).2 →
      (record.after out s o move answers).Waiting reply := by
  intro a member r reply given
  refine ⟨answerable_of_arrivals (Move.readable continues.allowed) a member r reply given, .inr ?_⟩
  cases a with
  | lost => cases given
  | message v =>
      obtain ⟨rfl, kind⟩ := Relay.reply_of_adapter given
      have response : reply ∈ move.responses := List.mem_filterMap.mpr ⟨.message reply, member, if_pos kind⟩
      rw [← continues.responses] at response
      obtain ⟨b, added, same⟩ := List.mem_map.mp response
      exact ⟨b, List.mem_append_right _ added, same⟩

theorem waiting_of_request (record : Record) (r : Relay) (frame : Bytes) (reply : Json)
    (given : .reply reply ∈ (r.step (.request frame)).2) : record.Waiting reply := by
  obtain ⟨lost, text, read, same, rfl | ⟨e, failed, -⟩⟩ := Relay.reply_of_request given
  · exact ⟨answerable_of_request r frame reply given, .inl ⟨lost, (Json.shape_of_decode read).1, same⟩⟩
  · cases failed

/-- A longer record still has all that waits. -/
theorem Queued.recorded (queued : s.Queued record.Waiting) (out : Outside σ) (o : σ) (move : Move σ)
    (answers : List Answer) : s.Queued (record.after out s o move answers).Waiting := by
  refine queued.mono ?_
  rintro v ⟨answerable, lost | ⟨a, member, same⟩⟩
  · exact ⟨answerable, .inl lost⟩
  · exact ⟨answerable, .inr ⟨a, List.mem_append_left _ member, same⟩⟩

/-- While a request is answered, a message is written for it or by the relay itself. -/
theorem asked_of_mem_writes {header : Json} {early arrivals : List Arrival} {meanwhile : σ → σ} {w : Written}
    (member : w ∈ (Move.process header message early arrivals meanwhile).writes out s o) :
    w.asked = none ∨ w.asked = some message := by
  simp only [Move.writes, List.mem_append, List.mem_map] at member
  obtain (⟨m, -, rfl⟩ | ⟨m, -, rfl⟩) | ⟨m, -, rfl⟩ := member
  · exact .inl rfl
  · exact .inr rfl
  · exact .inl rfl

/-- Nothing else waits for the control side. -/
theorem Conversation.queued (conversation : Conversation out s o record) : s.Queued record.Waiting := by
  induction conversation with
  | create created => exact queued_of_idle created.sound created.worker
  | @step s o record prior move answers continues ih =>
      exact (ih.recorded out o move answers).next out prior.reachable.sound o move continues.allowed
        continues.waiting (waiting_of_request _)

end Session
end DebugBridge
