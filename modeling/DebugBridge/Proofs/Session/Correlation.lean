import DebugBridge.Proofs.Session.Queue

/-!
# Answers and their requests

A response answers a message if it carries the message's number and command (`Answers`). The answers that the bridge
makes itself do by construction; an answer of the adapter does because the relay passes on nothing but responses, and
because only a reply to the message is taken (`answers_of_conclude`).
-/

namespace DebugBridge.Session

/-- The number that a message has to be answered under. -/
def numberOf (message : Json) : Int :=
  match message.get? "seq" with
  | some (.int n) => if -2 ^ 63 ≤ n ∧ n < 2 ^ 63 then n else 0
  | _ => 0

/-- The command that a message has to be answered under. -/
def commandOf (message : Json) : String :=
  match message.get? "command" with
  | some (.str command) => command
  | _ => ""

/-- A reply that is a response to a message, under its number and its command. -/
structure Answers (message reply : Json) : Prop where
  object : ∃ members, reply = .obj members
  type : reply.get? "type" = some (.str "response")
  seq : reply.get? "request_seq" = some (.int (numberOf message))
  command : reply.get? "command" = some (.str (commandOf message))

/-- A message is answered under its number, or 0 if it has none of 64 bits. -/
theorem seqOf_eq {message : Json} (wellFormed : message.WellFormed) :
    Response.seqOf message = numberOf message := by
  rw [Response.seqOf, numberOf, Json.getInt?]
  cases found : message.get? "seq" with
  | none => rfl
  | some v =>
      have range := (Json.wellFormed_of_get? wellFormed found)
      cases v with
      | int n =>
          by_cases small : n < 9223372036854775808
          · have both : -2 ^ 63 ≤ n ∧ n < 2 ^ 63 := ⟨range.1, small⟩
            simp only [Option.bind_some, Json.asInt?, if_pos small, if_pos both, Option.getD_some]
          · have neither : ¬ (-2 ^ 63 ≤ n ∧ n < 2 ^ 63) := fun both => small both.2
            simp only [Option.bind_some, Json.asInt?, if_neg small, if_neg neither, Option.getD_none]
      | null | bool b | float bits | str s | arr items | obj members => rfl

/-- A message is answered under its command, or none. -/
theorem commandOf_eq (message : Json) : Response.commandOf message = commandOf message := by
  rw [Response.commandOf, commandOf, Json.getString?]
  cases message.get? "command" with
  | none => rfl
  | some v => cases v <;> rfl

/-- A request has the number and the command of its message. -/
theorem request_of_ofJson? {message : Json} {r : Request} (wellFormed : message.WellFormed)
    (read : Request.ofJson? message = .ok r) : r.seq = numberOf message ∧ r.command = commandOf message := by
  obtain ⟨seq, command, -⟩ := Request.fields_of_ofJson? wellFormed read
  rw [← seqOf_eq wellFormed, ← commandOf_eq, Response.seqOf, Response.commandOf, seq, command]
  exact ⟨rfl, rfl⟩

theorem object_of_get? {v w : Json} {key : String} (found : v.get? key = some w) : ∃ members, v = .obj members := by
  cases v with
  | obj members => exact ⟨members, rfl⟩
  | null | bool b | int n | float bits | str s | arr items => cases found

/-- A response with the number and the command of a message answers it. -/
theorem answers_of_response {message : Json} {response : Response} (seq : response.seq = numberOf message)
    (command : response.command = commandOf message) : Answers message response.toJson := by
  obtain ⟨type, number, name⟩ := Response.get?_toJson response
  rw [seq] at number
  rw [command] at name
  exact ⟨object_of_get? type, type, number, name⟩

/-- A reply that is found is among the frames, and belongs to the message. -/
theorem awaitReply_eq_ok {message reply : Json} {time : Duration} {frames : List Frame}
    (found : (awaitReply message time frames).1 = .ok reply) :
    ∃ f ∈ frames, Json.decode f = .ok reply ∧ isReplyTo message reply = true := by
  induction frames with
  | nil => cases found
  | cons frame rest ih =>
      rw [awaitReply] at found
      split at found
      · cases found
      · next v read =>
          split at found
          · next belongs =>
              cases found
              exact ⟨frame, List.mem_cons_self, read, belongs⟩
          · obtain ⟨f, later, rest⟩ := ih found
            exact ⟨f, List.mem_cons_of_mem frame later, rest⟩

/-- What is collected was queued, and belongs to the message. -/
theorem collect_eq_ok {s : Session} {P : Json → Prop} {message reply : Json} (sound : s.Sound)
    (queued : s.Queued P) (found : (s.collect message).1 = .ok reply) :
    ∃ v, P v ∧ Json.decode (Json.encode v) = .ok reply ∧ isReplyTo message reply = true := by
  obtain ⟨f, member, read, belongs⟩ := awaitReply_eq_ok found
  cases running : s.worker with
  | none =>
      rw [(sound.idle running).request] at member
      cases member
  | some w =>
      obtain ⟨q, h, bound, -⟩ := sound.running w running
      rw [bound.request] at member
      obtain ⟨v, holds, rfl⟩ := queued.replies q bound.request f member
      exact ⟨v, holds, read, belongs⟩

/-- What is passed on for another end than a rendering has the number and the command of the message. -/
theorem sent_fields {message : Json} {r : Request} (wellFormed : message.WellFormed)
    (read : Request.ofJson? message = .ok r) (address : Address) :
    ∀ sent, (sent = r.toJson ∨ sent = (r.attachTo address).toJson) →
      sent.getInt? "seq" = some r.seq ∧ sent.getString? "command" = some r.command := by
  obtain ⟨seq, command, -⟩ := Request.fields_of_ofJson? wellFormed read
  rintro sent (rfl | rfl)
  · exact (Request.regular_of_ofJson? wellFormed read).fields
  · rw [Request.attachTo_of_ofJson? wellFormed read, Json.getInt?, Json.getString?,
      Request.get?_attachMessage address message (by decide), Request.get?_attachMessage address message (by decide)]
    exact ⟨seq, command⟩

/-- A queued response that belongs to what was passed on answers the message. -/
theorem answers_of_reply {message sent v reply : Json} {r : Request} (wellFormed : message.WellFormed)
    (read : Request.ofJson? message = .ok r) (answerable : Relay.Answerable v)
    (returned : Json.decode (Json.encode v) = .ok reply) (belongs : isReplyTo sent reply = true)
    (seq : sent.getInt? "seq" = some r.seq) (command : sent.getString? "command" = some r.command) :
    Answers message reply := by
  obtain ⟨shaped, type⟩ := answerable
  rw [Json.decode_encode shaped] at returned
  have kept := (Json.fields_of_reread shaped.1 returned "type").1
  rw [isReplyTo, Bool.and_eq_true, beq_iff_eq, beq_iff_eq, seq, command] at belongs
  obtain ⟨number, name⟩ := request_of_ofJson? wellFormed read
  have typed := Json.get?_of_getString? (kept.trans type)
  exact ⟨object_of_get? typed, typed, number ▸ Json.get?_of_getInt? belongs.1,
    name ▸ Json.get?_of_getString? belongs.2⟩

variable {σ : Type} {out : Outside σ} {s : Session}

/-- What the relay sends back in the course of a move can be answered with. -/
theorem answerable_of_arrivals {arrivals : List Arrival} (readable : ∀ a ∈ arrivals, a.Readable) :
    ∀ a ∈ arrivals, ∀ (r : Relay) reply, .reply reply ∈ (r.step a.input).2 → Relay.Answerable reply := by
  intro a member r reply given
  refine Relay.answerable_of_react ?_ given
  rintro message input
  cases a with
  | message v =>
      cases input
      obtain ⟨bytes, read⟩ := readable _ member
      exact Json.shape_of_decode read
  | lost => cases input

/-- What the relay replies to a request can be answered with. -/
theorem answerable_of_request (r : Relay) (frame : Bytes) (reply : Json)
    (given : .reply reply ∈ (r.step (.request frame)).2) : Relay.Answerable reply :=
  Relay.answerable_of_react (fun _ input => by cases input) given

/-- What arrives in a move was read. -/
theorem Move.readable {move : Move σ} {untouched : Session → Nat → Prop} (allowed : move.Allowed untouched s) :
    ∀ a ∈ move.arrivals, a.Readable := by
  cases move with
  | process header message early arrivals meanwhile =>
      obtain ⟨-, before, after⟩ := allowed
      intro a member
      exact (List.mem_append.mp member).elim (before a) (after a)
  | arrive a =>
      intro b member
      rw [List.mem_singleton.mp member]
      exact allowed
  | start | stop | nextEvent _ | takeOutbox | outside _ | elsewhere _ => exact fun _ member => by cases member

/-- Only responses wait for the control side. -/
theorem Reachable.queued {o : σ} (reachable : Reachable out controlBindings s o) :
    s.Queued Relay.Answerable := by
  induction reachable with
  | create created => exact queued_of_idle created.sound created.worker
  | step prior move allowed ih =>
      exact ih.next out prior.sound _ move allowed (answerable_of_arrivals (Move.readable allowed))
        answerable_of_request

/-- However a call that is passed on ends, its end answers the message that it was made of. -/
theorem answers_of_conclude {message : Json} {r : Request} {call : Call} (wellFormed : message.WellFormed)
    (read : Request.ofJson? message = .ok r) {address : Address} {stopped : Bool} {slot : Slot}
    (planned : callFor address stopped slot r = some call) {result : Except Error Json}
    (found : ∀ reply, result = .ok reply →
      ∃ v, Relay.Answerable v ∧ Json.decode (Json.encode v) = .ok reply ∧ isReplyTo call.sent reply = true)
    (s : Session) (o : σ) : Answers message (s.conclude out call result o).1 := by
  obtain ⟨seq, command⟩ := request_of_ofJson? wellFormed read
  obtain ⟨same, purposes⟩ := callFor_cases planned
  rcases s.conclude_answer out call result o with ⟨reply, given, direct, answer⟩ | ⟨response, answer, number, name⟩
  · rw [answer]
    obtain ⟨v, answerable, returned, belongs⟩ := found reply given
    rcases purposes with ⟨-, rendering, -⟩ | ⟨-, -, -, -, sent⟩
    · exact absurd rendering (direct slot)
    · have either : call.sent = r.toJson ∨ call.sent = (r.attachTo address).toJson := by
        rw [sent]
        split
        · exact .inr rfl
        · exact .inl rfl
      obtain ⟨sentSeq, sentCommand⟩ := sent_fields wellFormed read address call.sent either
      exact answers_of_reply wellFormed read answerable returned belongs sentSeq sentCommand
  · rw [answer]
    rw [same] at number name
    exact answers_of_response (number.trans seq) (name.trans command)

end DebugBridge.Session
