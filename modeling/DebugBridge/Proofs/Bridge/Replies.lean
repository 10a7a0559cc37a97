import DebugBridge.Proofs.Bridge.Calls
import DebugBridge.Proofs.Bridge.Frames
import DebugBridge.Proofs.Session.Correlation

/-!
# Answers of a bridge

Whatever workers do, also those that are left behind, what waits for the control side are their word whether they are
ready and responses that the relay sent back (`Answering`). So every message of the front end is answered by one
response that carries its number and its command (`every_message_answered`), however its call is interleaved with what
they do, whether writing to the adapter succeeds or not.
-/

namespace DebugBridge.Bridge

variable {σ : Type} {out : Outside σ} {b : Bridge σ}

/-- A frame that a worker sends to the control side. -/
def Returned (frame : Frame) : Prop :=
  frame = isReady ∨ frame = givesUp ∨ ∃ v, Relay.Answerable v ∧ frame = Json.encode v

/-- What the relays have read can be read back, and what they send or have sent back are responses. -/
structure Answering (b : Bridge σ) : Prop where
  inbox : ∀ c ∈ b.couriers, ∀ v, .input (.adapter v) ∈ c.inbox → v.Shaped Json.depthLimit
  doing : ∀ c ∈ b.couriers, ∀ v, .reply v ∈ c.doing → Relay.Answerable v
  waiting : ∀ q, b.session.request.binding? = some q → ∀ f ∈ (b.session.hub.channelsOf q).toOwner, Returned f

/-- What a relay does with what waits for it is answerable. -/
theorem answerable_of_accept {c : Courier} {hub : Hub} {written : Except Error Unit} {i : Relay.Input}
    (readable : ∀ v, i = .adapter v → v.Shaped Json.depthLimit) {v : Json}
    (member : .reply v ∈ (c.accept hub written i).1.doing) : Relay.Answerable v := by
  obtain ⟨next, -, -, taken⟩ := c.accept_eq hub written i
  rw [taken] at member
  obtain ⟨⟨input, ends⟩, among, r, given⟩ := Relay.react_of_mem_runWith member
  refine Relay.answerable_of_react (fun message input => ?_) given
  rcases List.mem_append.mp among with header | last
  · obtain ⟨f, -, same⟩ := List.mem_map.mp header
    cases same
    cases input
  · cases List.mem_singleton.mp last
    exact readable message input

namespace Answering

/-- What a turn leaves a courier with is as readable and answerable as what it had. -/
theorem courier_of_turn {c : Courier} {s : Session} {n : Nat} {turn : Turn}
    (allowed : Allowed (controlBindings (σ := σ)) (.turn n turn))
    (inbox : ∀ v, .input (.adapter v) ∈ c.inbox → v.Shaped Json.depthLimit)
    (doing : ∀ v, .reply v ∈ c.doing → Relay.Answerable v) :
    (∀ v, .input (.adapter v) ∈ (c.take s turn).1.inbox → v.Shaped Json.depthLimit) ∧
      ∀ v, .reply v ∈ (c.take s turn).1.doing → Relay.Answerable v := by
  have readable (v : Json) (heard : .heard (.message v) ∈ (c.take s turn).2.2) : v.Shaped Json.depthLimit := by
    rw [Courier.eq_hear_of_heard heard] at allowed
    obtain ⟨bytes, read⟩ := allowed
    exact Json.shape_of_decode read
  have turned := c.take_cases s turn
  generalize c.take s turn = done at turned readable ⊢
  cases turned with
  | heard v reading =>
      refine ⟨fun w member => ?_, doing⟩
      rcases List.mem_append.mp member with earlier | new
      · exact inbox w earlier
      · cases List.mem_singleton.mp new
        exact readable v List.mem_cons_self
  | lost reading | fetched reading received | gone reading received =>
      refine ⟨fun w member => ?_, doing⟩
      rcases List.mem_append.mp member with earlier | new
      · exact inbox w earlier
      · cases List.mem_singleton.mp new
  | closed relaying free waits => exact ⟨fun w member => inbox w (waits ▸ List.mem_cons_of_mem _ member), doing⟩
  | @accepted i rest written relaying free waits =>
      refine ⟨fun w member => ?_, fun w => answerable_of_accept fun v same => ?_⟩
      · obtain ⟨next, -, -, taken⟩ := Courier.accept_eq { c with inbox := rest } s.hub written i
        rw [taken] at member
        exact inbox w (waits ▸ List.mem_cons_of_mem _ member)
      · subst same
        exact inbox v (waits ▸ List.mem_cons_self)
  | acted does => exact ⟨inbox, fun w member => doing w (does ▸ List.mem_cons_of_mem _ member)⟩
  | _ => exact ⟨inbox, doing⟩

/-- The publisher's binding is none at which the control side takes replies. -/
theorem publisher_apart (sound : b.Sound) {q : Nat} (bound : b.session.request.binding? = some q) {c : Courier}
    (member : c ∈ b.couriers) : c.worker.publisher.binding? ≠ some q := by
  intro same
  rcases sound.request with ⟨free, -⟩ | ⟨q', socket, registered⟩
  · rw [free] at bound
    cases bound
  · rw [socket] at bound
    cases bound
    rcases sound.couriers c member with free | ⟨_, _, -, -, -, attached⟩
    · simp only [Worker.sockets, Prod.mk.injEq] at free
      rw [free.2.2] at same
      cases same
    · obtain ⟨p, publisher, published⟩ := sound.publisher
      rw [attached p publisher] at same
      cases same
      exact absurd (sound.hub.distinct _ _ _ registered published) (by decide)

/-- A turn adds nothing but what workers send back. -/
theorem turn (answering : b.Answering) (sound : b.Sound) (n : Nat) {turn : Turn}
    (allowed : Allowed (controlBindings (σ := σ)) (.turn n turn)) : (b.happen (.turn n turn)).Answering := by
  have request := Session.request_of_control (b.control_happen (.turn n turn))
  rw [happen] at request ⊢
  cases found : b.couriers[n]? with
  | none => exact answering
  | some c =>
      rw [found] at request
      have member := List.mem_of_getElem? found
      obtain ⟨inbox, doing⟩ := courier_of_turn (s := b.session) allowed (answering.inbox c member)
        (answering.doing c member)
      have frames (q : Nat) :=
        ((c.take_cases b.session turn).frames (sound.couriers c member) sound.publisher q).2
      simp only at request ⊢
      generalize c.take b.session turn = done at inbox doing frames request ⊢
      refine ⟨fun d among => ?_, fun d among => ?_, fun q bound f waits => ?_⟩
      · rcases List.mem_or_eq_of_mem_set among with other | rfl
        · exact answering.inbox d other
        · exact inbox
      · rcases List.mem_or_eq_of_mem_set among with other | rfl
        · exact answering.doing d other
        · exact doing
      · rw [request] at bound
        rcases frames q f waits with earlier | ⟨-, ready | gives | ⟨v, replies, same⟩⟩ | published
        · exact answering.waiting q bound f earlier
        · exact .inl ready
        · exact .inr (.inl gives)
        · exact .inr (.inr ⟨v, answering.doing c member v replies, same⟩)
        · exact absurd published (publisher_apart sound bound member)

/-- What waits for the control side is looked at where its request socket is bound. -/
theorem of_waiting {next : Bridge σ} (answering : b.Answering) (couriers : next.couriers = b.couriers)
    (waiting : ∀ q, next.session.request.binding? = some q →
      ∀ f ∈ (next.session.hub.channelsOf q).toOwner, Returned f) : next.Answering :=
  ⟨couriers ▸ answering.inbox, couriers ▸ answering.doing, waiting⟩

/-- Every step leaves nothing but responses for the control side. -/
theorem step {next : Bridge σ} (answering : b.Answering) (sound : b.Sound)
    (step : Step out (Allowed controlBindings) b next) :
    next.Answering := by
  cases step with
  | @happen h allowed =>
      cases h with
      | turn n turn => exact answering.turn sound n allowed
      | outside change => exact answering.of_waiting rfl answering.waiting
      | elsewhere others =>
          refine answering.of_waiting rfl fun q bound f waits => ?_
          rcases allowed b with still | use
          · rw [Bridge.happen, still] at waits
            exact answering.waiting q bound f waits
          · have same : (others b).channelsOf q = b.session.hub.channelsOf q := by
              rcases sound.reserved_of_control (.inl bound) with reserved | reserved
              · exact reserved.channelsOf_use (by decide) (.inl bound) use
              · exact reserved.channelsOf_use (by decide) (.inl bound) use
            refine answering.waiting q bound f ?_
            rwa [← same]
  | bindRequest bound =>
      obtain ⟨hub, taken, rfl⟩ := Session.bindRequest_eq_ok bound
      refine answering.of_waiting rfl fun q same f waits => ?_
      cases same
      rw [Hub.channelsOf_bound taken] at waits
      cases waits
  | bindHeader bound =>
      obtain ⟨hub, taken, rfl⟩ := Session.bindHeader_eq_ok bound
      refine answering.of_waiting rfl fun q same f waits => ?_
      have inRange := (sound.reserved_of_control (.inl same)).elim Hub.Reserved.inRange Hub.Reserved.inRange
      rw [Hub.channelsOf_of_bind taken inRange] at waits
      exact answering.waiting q same f waits
  | freeRequest =>
      refine answering.of_waiting rfl fun q same => ?_
      rw [sound.freeRequest] at same
      cases same
  | freeHeader =>
      obtain ⟨-, -, -, -, -, frames⟩ := sound.header.unbind sound.hub
      refine answering.of_waiting rfl fun q same f waits => answering.waiting q same f ?_
      rwa [← (frames q).2]
  | spawn idle =>
      refine ⟨fun c member => ?_, fun c member => ?_, answering.waiting⟩
      · rcases List.mem_append.mp member with earlier | new
        · exact answering.inbox c earlier
        · rw [List.mem_singleton.mp new]
          exact fun v among => by cases among
      · rcases List.mem_append.mp member with earlier | new
        · exact answering.doing c earlier
        · rw [List.mem_singleton.mp new]
          exact fun v among => by cases among
  | @send s frame next own sent =>
      obtain ⟨hub, passed, rfl⟩ := send_eq_ok sent
      refine answering.of_waiting rfl fun q bound f waits => answering.waiting q bound f ?_
      have owner : s.IsOwner :=
        own.elim (fun same => same ▸ sound.request.isOwner) fun same => same ▸ sound.header.isOwner
      rwa [← Hub.toOwner_of_send owner passed q]
  | @take s taken rest own waits =>
      refine answering.of_waiting rfl fun q bound f waiting => answering.waiting q bound f ?_
      exact Hub.toOwner_setWaiting_subset waits q waiting
  | wait request header =>
      rw [Bridge.wait]
      split
      · exact answering.of_waiting rfl answering.waiting
      · exact answering
  | outside outside | launch | remember breakpoints | forgetStopped | forgetKnown =>
      exact answering.of_waiting rfl answering.waiting

end Answering

/-- At first nothing waits. -/
theorem answering_ofSession {s : Session} (created : Session.Created s) (o : σ) : (ofSession s o).Answering := by
  refine ⟨List.forall_mem_nil _, List.forall_mem_nil _, fun q bound => ?_⟩
  rw [show (ofSession s o).session.request = none from (created.sound.idle created.worker).request] at bound
  cases bound

theorem Steps.answering {last : Bridge σ} (steps : Steps out (Allowed controlBindings) b last) (sound : b.Sound)
    (answering : b.Answering) : last.Sound ∧ last.Answering :=
  Steps.induct steps (P := fun next => next.Sound ∧ next.Answering) ⟨sound, answering⟩
    fun _ _ both step => ⟨both.1.step step, both.2.step both.1 step⟩

/-- At any time nothing but responses waits for the control side. -/
theorem Reachable.answering (reachable : Reachable out (Allowed controlBindings) b) : b.Answering := by
  have both := reachable.induct (P := fun next => next.Sound ∧ next.Answering)
    (fun _ created o => ⟨sound_ofSession created o, answering_ofSession created o⟩)
    fun _ _ both step => ⟨both.1.step step, both.2.step both.1 step⟩
  exact both.2

/-! ## Replies -/

/-- A word of a worker whether it is ready is no message. -/
theorem decode_ready : (∃ e, Json.decode isReady = .error e) ∧ ∃ e, Json.decode givesUp = .error e := by
  have failed {frame : Frame} (bad : (Json.decode frame).isOk = false) : ∃ e, Json.decode frame = .error e := by
    cases read : Json.decode frame with
    | error e => exact ⟨e, rfl⟩
    | ok v => simp [read, Except.isOk, Except.toBool] at bad
  exact ⟨failed (by decide +kernel), failed (by decide +kernel)⟩

/-- A reply that is read from what waits is a response that was sent. -/
theorem answerable_of_decode {frame : Frame} {reply : Json} (returned : Returned frame)
    (read : Json.decode frame = .ok reply) :
    ∃ v, Relay.Answerable v ∧ Json.decode (Json.encode v) = .ok reply := by
  obtain ⟨⟨_, ready⟩, ⟨_, gives⟩⟩ := decode_ready
  rcases returned with rfl | rfl | ⟨v, answerable, rfl⟩
  · cases read.symm.trans ready
  · cases read.symm.trans gives
  · exact ⟨v, answerable, read⟩

/-- What is collected was sent back by a worker, and belongs to the message. -/
theorem Answering.collect_eq_ok (answering : b.Answering) (sound : b.Sound) {message reply : Json}
    (found : (b.session.collect message).1 = .ok reply) :
    ∃ v, Relay.Answerable v ∧ Json.decode (Json.encode v) = .ok reply ∧ isReplyTo message reply = true := by
  obtain ⟨f, member, read, belongs⟩ := Session.awaitReply_eq_ok found
  rcases sound.request with ⟨free, -⟩ | ⟨q, bound, -⟩
  · rw [free] at member
    cases member
  · rw [bound] at member
    obtain ⟨v, answerable, same⟩ := answerable_of_decode (answering.waiting q (by rw [bound]; rfl) f member) read
    exact ⟨v, answerable, same, belongs⟩

/-- Whatever was done before, and whatever workers, the outside and others do before, in the course of the call and
after it, the reply to a message is a response under the message's number and command. Whether the session is started
or not, whether a message is passed on, whether writing to the adapter succeeds, and which frames are left in the
queues, makes no difference. Others leave the bindings of the control side alone. -/
theorem every_message_answered (reachable : Reachable out (Allowed controlBindings) b) (header : Json) {message : Json}
    (wellFormed : message.WellFormed) {during : Schedule σ} (permits : Permits (Allowed controlBindings) during) :
    Session.Answers message (b.process out header message during).1 := by
  have processed := b.process_cases out header message during
  have fitted := reachable.fitted
  generalize b.process out header message during = done at processed ⊢
  cases processed with
  | malformed refused =>
      exact Session.answers_of_response (Session.seqOf_eq wellFormed) (Session.commandOf_eq message)
  | unready read failed =>
      obtain ⟨number, name⟩ := Session.request_of_ofJson? wellFormed read
      exact Session.answers_of_response number name
  | answered read seq command other own =>
      obtain ⟨number, name⟩ := Session.request_of_ofJson? wellFormed read
      exact Session.answers_of_response (seq.trans number) (command.trans name)
  | unsent read prepared planned failed =>
      rw [conclude_fst]
      exact Session.answers_of_conclude wellFormed read planned (fun _ found => by cases found) _ _
  | passed read prepared planned sent collected =>
      obtain ⟨sound, answering⟩ := Steps.answering (steps_submitted permits fitted prepared sent)
        reachable.reached.sound reachable.answering
      rw [conclude_fst]
      refine Session.answers_of_conclude wellFormed read planned (fun reply found => ?_) _ _
      subst found
      exact answering.collect_eq_ok sound (congrArg Prod.fst collected)

/-- The relay reads a message, cannot write it, and says so, while the reply is waited for. -/
def unwritten : Schedule Unit
  | .passed => [.turn 0 .fetch, .turn 0 (.relay (.error (.io .other "reset"))), .turn 0 .act, .turn 0 .act]
  | _ => []

theorem permits_unwritten (untouched : Bridge Unit → Nat → Prop) : Permits (Allowed untouched) unwritten := by
  intro p h member
  cases p with
  | passed =>
      simp only [unwritten, List.mem_cons, List.not_mem_nil, or_false] at member
      rcases member with rfl | rfl | rfl | rfl <;> exact trivial
  | _ => cases member

/-- A request to the running sample of which the message cannot be written: the relay's own response answers it. -/
theorem every_message_answered_runningSample :
    Session.Answers (Session.bareRequest 3 "next")
        (runningSample.process Session.obliging .null (Session.bareRequest 3 "next") unwritten).1 ∧
      (runningSample.process Session.obliging .null (Session.bareRequest 3 "next") unwritten).1.get? "message" =
        some (.str "external debug adapter: reset") := by
  exact ⟨every_message_answered (reachable_runningSample controlBindings) .null (by decide +kernel)
    (permits_unwritten controlBindings), by decide +kernel⟩

end DebugBridge.Bridge
