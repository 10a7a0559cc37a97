import DebugBridge.Proofs.Session.Conversation

/-!
# Where a reply comes from

Replies are told apart by their number and their command. `reply_source` says which messages the reply that a call
takes can be an answer to: the one that the call wrote, and besides it only one that an earlier call wrote to render
a variable, if the front end has given the number of that one to a `setExpression` of its own since.
-/

namespace DebugBridge.Session

variable {σ : Type} {s : Session} {r : Request} {message : Json} {out : Outside σ} {o : σ} {record : Record}

/-- The reply that the answer to a message is made of, if it is made of one, and the call that takes it. -/
def taken (out : Outside σ) (s : Session) (header message : Json) (early arrivals : List Arrival) (o : σ) :
    Option (Call × Json) :=
  match s.begin out header message early o with
  | (.answered _, _, _) => none
  | (.waiting call, next, _) =>
    match ((arrivals.foldl arrive next).collect call.sent).1 with
    | .ok reply => some (call, reply)
    | .error _ => none

/-- The answer that a call makes of a reply. -/
def answerFrom (out : Outside σ) (call : Call) (reply : Json) (o : σ) : Json :=
  match call.purpose with
  | .rendering slot => settle call.request (Rendering.conclude out.scope slot call.request reply o).1
  | .answer | .breakpoints | .disconnect => reply

/-- A message that was written to render a variable, under a number that the front end gives to a `setExpression`
of its own. A rendering under the greatest number is written under the least one, which such a `setExpression` may
have had before. -/
def Written.Mistakable (w : Written) (message : Json) : Prop :=
  ∃ earlier, w.asked = some earlier ∧
    ((Asks message "setExpression" ∧ Asks earlier "richInspectVariables" ∧
        numberOf message = numberOf earlier + 1) ∨
      Asks message "richInspectVariables" ∧ Asks earlier "setExpression" ∧
        numberOf message = 2 ^ 63 - 1 ∧ numberOf earlier = -2 ^ 63)

/-- A reply to what a request is passed on as belongs to nothing that the relay wrote by itself. -/
theorem asked_ne_none {sent reply : Json} {numbers : List Int} {w : Written}
    (carries : Carries sent (sentNumber r) (sentCommand r)) (passedOn : sentCommand r ≠ "configurationDone")
    (belongs : isReplyTo sent reply = true) (accounted : Accounted numbers w)
    (noResponse : Kind.of? w.message ≠ some .response)
    (command : reply.getString? "command" = w.message.getString? "command") : w.asked ≠ none := by
  rw [isReplyTo, Bool.and_eq_true, beq_iff_eq, beq_iff_eq, command] at belongs
  have same := belongs.2
  simp only [Json.getString?, carries.command, Option.bind_some, Json.asString?] at same
  cases accounted with
  | own kind =>
      rcases kind with response | done
      · exact absurd response noResponse
      · simp only [done, Option.bind_some, Json.asString?, Option.some.injEq] at same
        exact absurd same.symm passedOn
  | asked wellFormed read counted carries₀ => exact Option.some_ne_none _

/-- A reply to what a request is passed on as belongs to no earlier message, unless that one is mistakable for it. -/
theorem mistakable_of_copies {sent reply : Json} {numbers : List Int} {w : Written} (wellFormed : message.WellFormed)
    (read : Request.ofJson? message = .ok r) (carries : Carries sent (sentNumber r) (sentCommand r))
    (belongs : isReplyTo sent reply = true) (accounted : Accounted numbers w) (asked : w.asked ≠ none)
    (earlier : ∀ n ∈ numbers, n < r.seq) (seq : reply.getInt? "request_seq" = w.message.getInt? "seq")
    (command : reply.getString? "command" = w.message.getString? "command") : w.Mistakable message := by
  rw [isReplyTo, Bool.and_eq_true, beq_iff_eq, beq_iff_eq, seq, command] at belongs
  obtain ⟨sameNumber, sameCommand⟩ := belongs
  simp only [Json.getString?, carries.command, Option.bind_some, Json.asString?] at sameCommand
  cases accounted with
  | own kind => exact absurd rfl asked
  | @asked first _ r₀ wellFormed₀ read₀ counted carries₀ =>
      have before := earlier r₀.seq counted
      obtain ⟨-, -, least, small⟩ := Request.fields_of_ofJson? wellFormed read
      obtain ⟨-, -, least₀, -⟩ := Request.fields_of_ofJson? wellFormed₀ read₀
      obtain ⟨number, name⟩ := request_of_ofJson? wellFormed read
      obtain ⟨number₀, name₀⟩ := request_of_ofJson? wellFormed₀ read₀
      simp only [carries₀.command, Option.bind_some, Json.asString?, Option.some.injEq] at sameCommand
      simp only [Json.getInt?, carries.seq, carries₀.seq, Option.bind_some, Json.asInt?] at sameNumber
      have inRange : sentNumber r₀ < 9223372036854775808 := by
        rw [sentNumber, Request.seqAfter]
        split <;> [split; skip] <;> omega
      rw [if_pos inRange] at sameNumber
      split at sameNumber
      · have same : sentNumber r₀ = sentNumber r := Option.some.inj sameNumber
        simp only [sentNumber, sentCommand, Request.seqAfter] at same sameCommand
        -- Of two numbers that are sent alike one was counted on, for a rendering, and the other one was not.
        by_cases rich₀ : r₀.command = "richInspectVariables"
        · rw [if_pos rich₀] at same sameCommand
          by_cases rich : r.command = "richInspectVariables"
          · rw [if_pos rich] at same
            split at same <;> split at same <;> omega
          · rw [if_neg rich] at same sameCommand
            refine ⟨first, rfl, .inl ⟨⟨r, read, sameCommand.symm⟩, ⟨r₀, read₀, rich₀⟩, ?_⟩⟩
            split at same <;> omega
        · rw [if_neg rich₀] at same sameCommand
          by_cases rich : r.command = "richInspectVariables"
          · rw [if_pos rich] at same sameCommand
            refine ⟨first, rfl, .inr ⟨⟨r, read, rich⟩, ⟨r₀, read₀, sameCommand⟩, ?_⟩⟩
            split at same <;> omega
          · rw [if_neg rich] at same
            omega
      · cases sameNumber

/-- A mistakable message has the number and the command of the later one. -/
theorem copies_of_mistakable {sent reply : Json} {numbers : List Int} {w : Written} (wellFormed : message.WellFormed)
    (read : Request.ofJson? message = .ok r) (carries : Carries sent (sentNumber r) (sentCommand r))
    (belongs : isReplyTo sent reply = true) (accounted : Accounted numbers w) (mistakable : w.Mistakable message) :
    Copies w.message reply := by
  obtain ⟨earlier, asked, clash⟩ := mistakable
  cases accounted with
  | own kind => cases asked
  | @asked first written r₁ wellFormed₁ read₁ counted carries₁ =>
      cases asked
      obtain ⟨number, -⟩ := request_of_ofJson? wellFormed read
      obtain ⟨number₁, -⟩ := request_of_ofJson? wellFormed₁ read₁
      obtain ⟨-, -, -, small⟩ := Request.fields_of_ofJson? wellFormed read
      -- Either way the later message is sent as a `setExpression`, under the number that the earlier one has.
      have alike : sentNumber r = sentNumber r₁ ∧ sentCommand r = "setExpression" ∧
          sentCommand r₁ = "setExpression" ∧ sentNumber r < 9223372036854775808 := by
        rcases clash with
          ⟨⟨r', read', command⟩, ⟨r₀, read₀, rich⟩, next⟩ | ⟨⟨r', read', rich⟩, ⟨r₀, read₀, command⟩, most, least⟩
        · rw [read] at read'
          rw [read₁] at read₀
          cases read'
          cases read₀
          have direct : r.command ≠ "richInspectVariables" := by
            rw [command]
            decide
          rw [sentNumber, sentNumber, sentCommand, sentCommand, if_neg direct, if_neg direct, if_pos rich, if_pos rich,
            Request.seqAfter_of_lt (by omega)]
          exact ⟨by omega, command, rfl, small⟩
        · rw [read] at read'
          rw [read₁] at read₀
          cases read'
          cases read₀
          have direct : r₁.command ≠ "richInspectVariables" := by
            rw [command]
            decide
          rw [sentNumber, sentNumber, sentCommand, sentCommand, if_neg direct, if_neg direct, if_pos rich, if_pos rich,
            Request.seqAfter, if_neg (by omega)]
          exact ⟨by omega, rfl, command, by decide⟩
      obtain ⟨same, command, command₁, inRange⟩ := alike
      rw [isReplyTo, Bool.and_eq_true, beq_iff_eq, beq_iff_eq] at belongs
      simp only [Json.getInt?, Json.getString?, carries.seq, carries.command, Option.bind_some, Json.asInt?,
        Json.asString?, if_pos inRange] at belongs
      constructor
      · rw [carries₁.seq, ← same]
        exact Json.get?_of_getInt? belongs.1
      · rw [carries₁.command, command₁, ← command]
        exact Json.get?_of_getString? belongs.2

theorem taken_eq_some {header : Json} {early arrivals : List Arrival} {call : Call} {reply : Json}
    (found : s.taken out header message early arrivals o = some (call, reply)) :
    ∃ next o', s.begin out header message early o = (.waiting call, next, o') ∧
      ((arrivals.foldl arrive next).collect call.sent).1 = .ok reply := by
  rw [taken] at found
  split at found
  · cases found
  · next sent next o' begun =>
      split at found
      · next got collected =>
          cases found
          exact ⟨next, o', begun, collected⟩
      · cases found

/-- A message that waits for the adapter is a request, passed on as its call says. -/
theorem planned_of_waiting (sound : s.Sound) {header : Json} {early : List Arrival} {call : Call} {next : Session}
    {o' : σ} (waits : s.begin out header message early o = (.waiting call, next, o')) :
    ∃ r, Request.ofJson? message = .ok r ∧
      callFor s.address s.threads.anyStopped (Slot.ofId (out.slotId o).1) r = some call := by
  have begun := begun out sound header message early o
  rw [waits] at begun
  cases begun with
  | passed state read planned running passed => exact ⟨_, read, planned⟩

/-- Every reply that is taken waited for the control side, and belongs to what its call sent. -/
theorem waiting_of_taken (conversation : Conversation out s o record) {header : Json} {early arrivals : List Arrival}
    {meanwhile : σ → σ} {answers : List Answer}
    (continues : Continues out s o record (.process header message early arrivals meanwhile) answers)
    {call : Call} {reply : Json} (found : s.taken out header message early arrivals o = some (call, reply)) :
    ∃ v, (record.after out s o (.process header message early arrivals meanwhile) answers).Waiting v ∧
      Json.decode (Json.encode v) = .ok reply ∧ isReplyTo call.sent reply = true := by
  have sound := conversation.reachable.sound
  have queued := conversation.queued.recorded out o (.process header message early arrivals meanwhile) answers
  have begun := queued.begin out sound header message early o
    (fun a member => continues.waiting a (List.mem_append_left arrivals member)) (waiting_of_request _)
  have begunSound := (begin_sound out sound header message early o).1
  obtain ⟨next, o', waits, collected⟩ := taken_eq_some found
  rw [waits] at begun begunSound
  have arrived := begun.arrivals begunSound arrivals
    fun a member => continues.waiting a (List.mem_append_right early member)
  exact collect_eq_ok (begunSound.of_keeps (next.keeps_arrivals arrivals)) arrived collected

/-- The answer to a message is made of the reply that is taken for it. -/
theorem process_of_taken {header : Json} {early arrivals : List Arrival} {call : Call} {reply : Json}
    (found : s.taken out header message early arrivals o = some (call, reply)) (meanwhile : σ → σ) :
    (s.process out header message early arrivals meanwhile o).1 =
      answerFrom out call reply (meanwhile (s.begin out header message early o).2.2) := by
  obtain ⟨next, o', waits, collected⟩ := taken_eq_some found
  rw [process_eq, waits]
  simp only [finish, collected, answerFrom]
  cases purpose : call.purpose <;> simp only [Session.conclude, purpose, Call.reply]

/-- Replies are mixed up in one case only. In a conversation, whatever reply the answer to a message is made of, and
whichever of the adapter's answers it is, that one answers what was written for this very message; or it answers what
was written for an earlier `richInspectVariables`, under the number that the front end has given to the message, a
`setExpression` (or the other way round, if that number is the least one and follows the greatest). In that case
nothing tells the two apart. -/
theorem reply_source (conversation : Conversation out s o record) {header : Json} {early arrivals : List Arrival}
    {meanwhile : σ → σ} {answers : List Answer}
    (continues : Continues out s o record (.process header message early arrivals meanwhile) answers)
    {call : Call} {reply : Json} (found : s.taken out header message early arrivals o = some (call, reply)) :
    (s.process out header message early arrivals meanwhile o).1 =
        answerFrom out call reply (meanwhile (s.begin out header message early o).2.2) ∧
      ((∃ lost : Json, reply = (Response.failFor lost Relay.lostText).toJson) ∨
        ∃ a ∈ record.answers ++ answers, Json.decode (Json.encode a.response) = .ok reply) ∧
      (∀ a ∈ record.answers ++ answers, Json.decode (Json.encode a.response) = .ok reply →
        a.written.asked = some message ∨ a.written.Mistakable message) ∧
      ∀ w ∈ record.written, w.Mistakable message → Copies w.message reply := by
  have wellFormed := continues.allowed.1
  obtain ⟨next, o', waits, -⟩ := taken_eq_some found
  obtain ⟨r, read, planned⟩ := planned_of_waiting conversation.reachable.sound waits
  obtain ⟨carries, passedOn⟩ := carries_sent wellFormed read planned
  obtain ⟨v, ⟨-, source⟩, decoded, belongs⟩ := waiting_of_taken conversation continues found
  have sound := continues.sound conversation.sound conversation.reachable.port
  have upwards : ∀ n ∈ record.numbers, n < r.seq := by
    intro n member
    refine continues.upwards r.seq ?_ n member
    rw [Move.numbers, read]
    exact List.mem_singleton_self r.seq
  refine ⟨process_of_taken found meanwhile, ?_, ?_, ?_⟩
  · rcases source with ⟨lost, inner, rfl⟩ | ⟨a, member, rfl⟩
    · rw [Json.decode_encode_of_exact (Response.inherited_failFor Json.inherited_exact 126 inner _)] at decoded
      exact .inl ⟨lost, (Except.ok.inj decoded).symm⟩
    · exact .inr ⟨a, member, decoded⟩
  · intro a member returned
    obtain ⟨seq, command⟩ := sound.fields member returned
    have answered := sound.answered a member
    have asked := asked_ne_none carries passedOn belongs (sound.written _ answered) (sound.noResponse a member) command
    rcases List.mem_append.mp answered with earlier | added
    · have accounted := conversation.sound.written _ earlier
      exact .inr (mistakable_of_copies wellFormed read carries belongs accounted asked upwards seq command)
    · exact .inl ((asked_of_mem_writes added).resolve_left asked)
  · intro w member mistakable
    exact copies_of_mistakable wellFormed read carries belongs (conversation.sound.written w member) mistakable

/-! ## A mix-up -/

/-- An event that tells of a stopped thread. -/
def stoppedEvent : Json :=
  Json.ofMembers [("type", .str "event"), ("event", .str "stopped"), ("body", Json.ofMembers [("threadId", .int 1)])]

/-- A request to render a variable. -/
def renderRequest : Json :=
  Json.ofMembers [("type", .str "request"), ("seq", .int 10), ("command", .str "richInspectVariables"),
    ("arguments", Json.ofMembers [("variableName", .str "v"), ("frameId", .int 2)])]

/-- What the adapter gets for it from the sample. -/
def renderWritten : Written :=
  ⟨some renderRequest, (Slot.ofId 0).setExpression "v" 2 11⟩

/-- The sample after a thread has stopped. -/
def stoppedSample : Session :=
  (runningSample.next obliging () (.arrive (.message stoppedEvent))).1

/-- The sample after it gave up waiting for the rendering. -/
def renderedSample : Session :=
  (stoppedSample.next obliging () (.process .null renderRequest [] [] id)).1

theorem conversation_renderedSample : Conversation obliging renderedSample () ⟨[10], [renderWritten], []⟩ := by
  have created : Conversation obliging idleSample () ⟨[], [], []⟩ := .create created_idleSample
  have started : Conversation obliging runningSample () ⟨[], [], []⟩ :=
    created.step .start (continues_silent trivial (by simp [Move.numbers]) rfl)
  have quiet : Record.after ⟨[], [], []⟩ obliging runningSample () (.arrive (.message stoppedEvent)) [] =
      ⟨[], [], []⟩ := by decide +kernel
  have stopped : Conversation obliging stoppedSample () ⟨[], [], []⟩ := by
    rw [← quiet]
    exact started.step (.arrive (.message stoppedEvent))
      (continues_silent (readable_of_exact (by decide +kernel)) (by simp [Move.numbers]) (by decide +kernel))
  have recorded : Record.after ⟨[], [], []⟩ obliging stoppedSample () (.process .null renderRequest [] [] id) [] =
      ⟨[10], [renderWritten], []⟩ := by decide +kernel
  have continues : Continues obliging stoppedSample () ⟨[], [], []⟩ (.process .null renderRequest [] [] id) [] :=
    continues_silent ⟨by decide +kernel, by simp, by simp⟩ (by decide +kernel) rfl
  have rendered := stopped.step _ continues
  rw [Subsingleton.elim (stoppedSample.next obliging () (.process .null renderRequest [] [] id)).2 (), recorded]
    at rendered
  exact rendered

/-- A request of the front end under the number of that message. -/
def ownRequest : Json := bareRequest 11 "setExpression"

/-- The adapter's answer to that message, which comes late. -/
def lateAnswer : Answer := ⟨bareResponse 11 "setExpression", renderWritten⟩

/-- The front end's own request gets the late answer. -/
theorem reply_source_renderedSample :
    (renderedSample.process obliging .null ownRequest [.message lateAnswer.response] [] id ()).1 =
        lateAnswer.response ∧
      lateAnswer.written.Mistakable ownRequest ∧ Copies lateAnswer.written.message lateAnswer.response := by
  have exact : lateAnswer.response.Exact Json.depthLimit := by decide +kernel
  have continues : Continues obliging renderedSample () ⟨[10], [renderWritten], []⟩
      (.process .null ownRequest [.message lateAnswer.response] [] id) [lateAnswer] := by
    refine ⟨⟨by decide +kernel, ?_, by simp⟩, by decide +kernel, by decide +kernel, ?_, ?_, ?_⟩
    · intro a member
      rw [List.mem_singleton.mp member]
      exact readable_of_exact exact
    · simp [lateAnswer, Record.after]
    · rw [List.forall_mem_singleton]
      decide +kernel
    · rw [List.forall_mem_singleton]
      exact ⟨by decide +kernel, by decide +kernel⟩
  have found : renderedSample.taken obliging .null ownRequest [.message lateAnswer.response] [] () =
      some (⟨⟨11, "setExpression", .null, []⟩, ownRequest, .answer⟩, lateAnswer.response) := by decide +kernel
  obtain ⟨answer, -, source, clash⟩ := reply_source conversation_renderedSample continues found
  have other : lateAnswer.written.asked ≠ some ownRequest := by decide +kernel
  have mistakable := (source lateAnswer (by simp) (Json.decode_encode_of_exact exact)).resolve_left other
  exact ⟨answer, mistakable, clash renderWritten (by simp) mistakable⟩

end DebugBridge.Session
