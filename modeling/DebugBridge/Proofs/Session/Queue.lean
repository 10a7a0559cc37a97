import DebugBridge.Proofs.Session.Run

/-!
# The frames of the control channel

While no one else sends or receives there, no frame waits for the worker between moves, and what waits for the
control side are replies of the relay (`Queued`). `submit_eq` and `arrive_eq` say what a request and an arrival
make the relay do.
-/

namespace DebugBridge

/-- What arrives is an input of the relay. -/
theorem Worker.onArrival_eq (w : Worker) (hub : Hub) (a : Arrival) :
    w.onArrival hub a = w.handle hub a.input := by
  cases a <;> rfl

namespace Session

/-- The bindings of a session's control sockets. -/
def controlBindings (s : Session) (b : Nat) : Prop :=
  s.request.binding? = some b ∨ s.header.binding? = some b

variable {s : Session} {q h : Nat}

/-- What a request makes the relay do: it takes in the headers, the request's own behind those that wait, and then
the request. -/
theorem submit_eq {w : Worker} (hub : s.hub.Sound) (running : s.worker = some w) (bound : s.Bound q h)
    (tied : w.Tied q h) (taken : (s.hub.channelsOf q).toPeers = []) (header message : Json) :
    ∃ next : Hub, s.hub.Moved next ∧ next.channelsOf q = s.hub.channelsOf q ∧
      next.channelsOf h = { s.hub.channelsOf h with toPeers := [] } ∧
      (∀ b, b ≠ q → b ≠ h → next.channelsOf b = s.hub.channelsOf b) ∧
      s.submit header message = .ok (s.afterWorker
        ({ w with relay := { w.relay with
            headers := w.relay.headers ++ ((s.hub.channelsOf h).toPeers ++ [Json.encode header]) } }.handle
          next (.request (Json.encode message)))) := by
  let first := s.hub.modify h fun c => { c with toPeers := c.toPeers ++ [Json.encode header] }
  let second := first.modify q fun c => { c with toPeers := c.toPeers ++ [Json.encode message] }
  let third := second.modify q fun c => { c with toPeers := [] }
  let last := third.modify h fun c => { c with toPeers := [] }
  have toFirst : s.hub.Moved first := Hub.moved_modify s.hub h fun _ => rfl
  have toSecond : first.Moved second := Hub.moved_modify first q fun _ => rfl
  have toThird : second.Moved third := Hub.moved_modify second q fun _ => rfl
  have toLast : third.Moved last := Hub.moved_modify third h fun _ => rfl
  have apart := bound.apart hub
  have qRange : q < s.hub.channels.length := bound.inRange hub
  have hRange : h < s.hub.channels.length := hub.inRange _ _ bound.headerBound
  have qFirst : first.channelsOf q = s.hub.channelsOf q := Hub.channelsOf_modify_of_ne _ _ apart
  have hFirst : first.channelsOf h =
      { s.hub.channelsOf h with toPeers := (s.hub.channelsOf h).toPeers ++ [Json.encode header] } :=
    Hub.channelsOf_modify _ _ hRange
  have qSecond : second.channelsOf q = { s.hub.channelsOf q with toPeers := [Json.encode message] } := by
    rw [Hub.channelsOf_modify _ _ (by rwa [Hub.length_modify]), qFirst, taken]
    rfl
  have hSecond : second.channelsOf h = first.channelsOf h := Hub.channelsOf_modify_of_ne _ _ apart.symm
  have qThird : third.channelsOf q = s.hub.channelsOf q := by
    rw [Hub.channelsOf_modify _ _ (by rwa [Hub.length_modify, Hub.length_modify]), qSecond, ← taken]
  have hThird : third.channelsOf h = first.channelsOf h :=
    (Hub.channelsOf_modify_of_ne _ _ apart.symm).trans hSecond
  refine ⟨last, ((toFirst.trans toSecond).trans toThird).trans toLast, ?_, ?_, fun b notRequest notHeader => ?_, ?_⟩
  · rw [Hub.channelsOf_modify_of_ne _ _ apart, qThird]
  · rw [Hub.channelsOf_modify _ _ (by rwa [Hub.length_modify, Hub.length_modify, Hub.length_modify]), hThird, hFirst]
  · rw [Hub.channelsOf_modify_of_ne _ _ notHeader.symm, Hub.channelsOf_modify_of_ne _ _ notRequest.symm,
      Hub.channelsOf_modify_of_ne _ _ notRequest.symm, Hub.channelsOf_modify_of_ne _ _ notHeader.symm]
  · have passed : s.submit header message = .ok { s with hub := second }.serve := by
      simp only [submit, bound.request, bound.header, Socket.isBound, if_true, Hub.send]
      rfl
    have served := Worker.serve_single tied (show (second.channelsOf q).toPeers = [Json.encode message] by rw [qSecond])
    rw [hSecond, hFirst] at served
    rw [passed, serve]
    simp only [running]
    rw [served]
    rfl

/-- What an arrival makes the relay do, while the adapter is not lost. -/
theorem arrive_eq {w : Worker} (running : s.worker = some w) (alive : w.relay.adapterAlive = true) (a : Arrival) :
    ∃ transcript, s.arrive a = { s with transcript }.afterWorker (w.handle s.hub a.input) := by
  cases s
  simp only at running
  subst running
  simp only [arrive, alive, if_true, Worker.onArrival_eq]
  cases a with
  | message v => exact ⟨_, rfl⟩
  | lost => exact ⟨_, rfl⟩

/-- Nothing arrives after the adapter is lost. -/
theorem arrive_of_lost {w : Worker} (running : s.worker = some w) (lost : w.relay.adapterAlive = false)
    (a : Arrival) : s.arrive a = s := by
  simp [arrive, running, lost]

/-! ## What waits -/

/-- No frame waits for the worker, and what waits for the control side are values with a property. -/
structure Queued (P : Json → Prop) (s : Session) : Prop where
  taken : ∀ q, s.request = some (.bound requestEndpoint q) → (s.hub.channelsOf q).toPeers = []
  replies : ∀ q, s.request = some (.bound requestEndpoint q) →
    ∀ f ∈ (s.hub.channelsOf q).toOwner, ∃ v, P v ∧ f = Json.encode v

section Queued

variable {P : Json → Prop}

theorem Queued.mono {Q : Json → Prop} (queued : s.Queued P) (weaker : ∀ v, P v → Q v) : s.Queued Q where
  taken := queued.taken
  replies := by
    intro q socket f member
    obtain ⟨v, holds, written⟩ := queued.replies q socket f member
    exact ⟨v, weaker v holds, written⟩

/-- Nothing waits where no endpoint is bound. -/
theorem queued_of_idle (sound : s.Sound) (stopped : s.worker = none) : s.Queued P := by
  have request := (sound.idle stopped).request
  constructor <;> (intro q socket; rw [request] at socket; cases socket)

/-- The frames of the control channel alone decide what is queued. -/
theorem Queued.of_channels {next : Session} (queued : s.Queued P) (request : next.request = s.request)
    (channels : ∀ q, s.request = some (.bound requestEndpoint q) →
      (next.hub.channelsOf q).toPeers = (s.hub.channelsOf q).toPeers ∧
        ∀ f ∈ (next.hub.channelsOf q).toOwner,
          f ∈ (s.hub.channelsOf q).toOwner ∨ ∃ v, P v ∧ f = Json.encode v) : next.Queued P where
  taken := by
    intro q socket
    rw [request] at socket
    rw [(channels q socket).1]
    exact queued.taken q socket
  replies := by
    intro q socket f member
    rw [request] at socket
    rcases (channels q socket).2 f member with earlier | added
    · exact queued.replies q socket f earlier
    · exact added

/-- After the relay's step, its replies are queued behind what was. -/
theorem Queued.afterHandle {w : Worker} {hub : Hub} (queued : s.Queued P) (sound : s.Sound) (bound : s.Bound q h)
    (tied : w.Tied q h) (moved : s.hub.Moved hub) (channels : hub.channelsOf q = s.hub.channelsOf q)
    (input : Relay.Input) (answers : ∀ reply, .reply reply ∈ (w.relay.step input).2 → P reply) :
    (s.afterWorker (w.handle hub input)).Queued P := by
  obtain ⟨transcript, after⟩ := s.afterWorker_eq (w.handle hub input)
  have inRange : q < hub.channels.length := by
    rw [moved.length]
    exact bound.inRange sound.hub
  have live : (hub.channelsOf q).live = true := by
    rw [channels]
    exact sound.hub.live _ _ bound.requestBound
  have emitted := Worker.emit_all_request tied (w.relay.step input).2 inRange live
  rw [channels] at emitted
  rw [after]
  refine queued.of_channels rfl fun q' socket => ?_
  rw [bound.request] at socket
  cases socket
  simp only [Worker.handle_eq, emitted]
  refine ⟨trivial, fun f member => ?_⟩
  rcases List.mem_append.mp member with earlier | added
  · exact .inl earlier
  · obtain ⟨reply, given, written⟩ := List.mem_map.mp added
    obtain ⟨output, among, same⟩ := List.mem_filterMap.mp given
    cases output <;> cases same
    exact .inr ⟨reply, answers reply among, written.symm⟩

/-- What arrives adds the relay's replies. -/
theorem Queued.arrive (queued : s.Queued P) (sound : s.Sound) (a : Arrival)
    (answers : ∀ w reply, s.worker = some w → .reply reply ∈ (w.relay.step a.input).2 → P reply) :
    (s.arrive a).Queued P := by
  cases running : s.worker with
  | none =>
      have ignored : s.arrive a = s := arrivals_of_idle running [a]
      rw [ignored]
      exact queued
  | some w =>
      obtain ⟨q, h, bound, tied⟩ := sound.running w running
      cases alive : w.relay.adapterAlive with
      | false =>
          rw [arrive_of_lost running alive]
          exact queued
      | true =>
          obtain ⟨transcript, after⟩ := arrive_eq running alive a
          rw [after]
          have keeps : Keeps s { s with transcript } :=
            ⟨rfl, rfl, rfl, rfl, rfl, rfl, rfl, rfl, rfl, .refl s.hub, rfl, fun _ => rfl⟩
          have noted : ({ s with transcript } : Session).Queued P := queued.of_channels rfl fun _ _ =>
            ⟨rfl, fun f member => .inl member⟩
          exact noted.afterHandle (sound.of_keeps keeps) (keeps.bound bound) tied (.refl s.hub) rfl a.input
            fun reply given => answers w reply running given

/-- A message that is passed on is taken at once, and what the relay replies waits. -/
theorem Queued.submit {next : Session} (queued : s.Queued P) (sound : s.Sound) {header message : Json}
    (passed : s.submit header message = .ok next)
    (answers : ∀ (r : Relay) reply, .reply reply ∈ (r.step (.request (Json.encode message))).2 → P reply) :
    next.Queued P := by
  rcases submit_cases sound header message with ⟨-, failed⟩ | ⟨running, -⟩
  · rw [failed] at passed
    cases passed
  · obtain ⟨w, found⟩ := Option.ne_none_iff_exists'.mp running
    obtain ⟨q, h, bound, tied⟩ := sound.running w found
    obtain ⟨hub, moved, channels, -, -, submitted⟩ :=
      submit_eq sound.hub found bound tied (queued.taken q bound.request) header message
    rw [submitted] at passed
    cases passed
    have stillTied (relay : Relay) : ({ w with relay } : Worker).Tied q h :=
      ⟨tied.request, tied.header, tied.publisher, tied.apart⟩
    exact queued.afterHandle sound bound (stillTied _) moved channels _ (answers _)

/-- Any row of arrivals adds the relay's replies. -/
theorem Queued.arrivals (queued : s.Queued P) (sound : s.Sound) (arrivals : List Arrival)
    (answers : ∀ a ∈ arrivals, ∀ (r : Relay) reply, .reply reply ∈ (r.step a.input).2 → P reply) :
    (arrivals.foldl Session.arrive s).Queued P := by
  induction arrivals generalizing s with
  | nil => exact queued
  | cons a arrivals ih =>
      have first := queued.arrive sound a fun w reply _ => answers a List.mem_cons_self w.relay reply
      exact ih first (sound.of_keeps (s.keeps_arrive a)) fun b later => answers b (List.mem_cons_of_mem a later)

/-- Looking for a reply takes frames from the front and adds none. -/
theorem awaitReply_suffix (message : Json) (time : Duration) (frames : List Frame) :
    (awaitReply message time frames).2 <:+ frames := by
  induction frames with
  | nil => exact List.suffix_rfl
  | cons frame rest ih =>
      rw [awaitReply]
      split
      · exact List.suffix_cons frame rest
      · split
        · exact List.suffix_cons frame rest
        · exact ih.trans (List.suffix_cons frame rest)

/-- Looking for a reply adds nothing. -/
theorem Queued.collect (queued : s.Queued P) (sound : s.Sound) (message : Json) :
    (s.collect message).2.Queued P := by
  refine queued.of_channels rfl fun q socket => ?_
  cases running : s.worker with
  | none =>
      rw [(sound.idle running).request] at socket
      cases socket
  | some w =>
      obtain ⟨q', h, bound, -⟩ := sound.running w running
      rw [bound.request] at socket
      cases socket
      have left := awaitReply_suffix message s.settings.forwardTime (s.hub.waiting s.request)
      simp only [Session.collect]
      simp only [bound.request, Hub.waiting, Hub.setWaiting,
        Hub.channelsOf_modify _ _ (bound.inRange sound.hub)] at left ⊢
      exact ⟨trivial, fun f member => .inl (left.mem member)⟩

/-- The publisher's frames are not those of the control channel. -/
theorem Queued.nextEvent (queued : s.Queued P) (sound : s.Sound) (time : Duration) :
    (s.nextEvent time).2.Queued P := by
  have moved {got : Option Frame} {hub : Hub} (received : s.hub.receive s.publisher = .ok (got, hub)) :
      ({ s with hub } : Session).Queued P := by
    refine queued.of_channels rfl fun q socket => ?_
    have same : hub.channelsOf q = s.hub.channelsOf q := by
      rcases Hub.receive_eq_ok received with rfl | ⟨b, f, tie, -, rfl⟩
      · rfl
      · apply Hub.channelsOf_modify_of_ne
        rintro rfl
        obtain ⟨p, publisher, registered⟩ := sound.publisher
        rw [publisher] at tie
        cases tie
        cases running : s.worker with
        | none =>
            rw [(sound.idle running).request] at socket
            cases socket
        | some w =>
            obtain ⟨q', h, bound, -⟩ := sound.running w running
            rw [bound.request] at socket
            cases socket
            have clash := sound.hub.distinct _ _ _ bound.requestBound registered
            exact absurd clash (by decide)
    rw [same]
    exact ⟨rfl, fun f member => .inl member⟩
  rw [Session.nextEvent, Hub.receiveWithin]
  cases received : s.hub.receive s.publisher with
  | error e => exact queued
  | ok result =>
      obtain ⟨got, hub⟩ := result
      cases got with
      | none => exact queued
      | some frame =>
          simp only
          split <;> exact moved received

/-- Others who leave the control bindings alone add nothing. -/
theorem Queued.elsewhere (queued : s.Queued P) (sound : s.Sound) {hub : Hub}
    (use : s.hub.Use ownEndpoints s.controlBindings hub) : ({ s with hub } : Session).Queued P := by
  refine queued.of_channels rfl fun q socket => ?_
  cases running : s.worker with
  | none =>
      rw [(sound.idle running).request] at socket
      cases socket
  | some w =>
      obtain ⟨q', h, bound, -⟩ := sound.running w running
      rw [bound.request] at socket
      cases socket
      have own : s.controlBindings q := .inl (by rw [bound.request]; rfl)
      have same := use.channelsOf sound.hub (by decide) bound.requestBound own
      rw [same]
      exact ⟨rfl, fun f member => .inl member⟩

/-- The end of a call adds nothing. -/
theorem Queued.conclude {σ : Type} (out : Outside σ) (queued : s.Queued P) (sound : s.Sound) (call : Call)
    (result : Except Error Json) (o : σ) : (s.conclude out call result o).2.1.Queued P := by
  rcases s.conclude_session out call result o with same | ⟨-, stopped⟩ | ⟨-, -, breakpoints, changed⟩
  · rw [same]
    exact queued
  · rw [stopped]
    exact queued_of_idle sound.stop.1 sound.stop.2
  · rw [changed]
    exact queued.of_channels rfl fun _ _ => ⟨rfl, fun f member => .inl member⟩

/-- A start leaves nothing at the bindings that it makes. -/
theorem StartedAs.queued {result : Except Error Bool} {next : Session} (started : StartedAs s result next)
    (queued : s.Queued P) : next.Queued P := by
  cases started with
  | already running => exact queued
  | failed stopped sound idle refused address outbox => exact queued_of_idle sound idle
  | now stopped sound running bound new empty address outbox =>
      constructor
      · intro q socket
        rw [bound.request] at socket
        cases socket
        rw [empty]
      · intro q socket f member
        rw [bound.request] at socket
        cases socket
        rw [empty] at member
        cases member

section Moves

variable {σ : Type} (out : Outside σ)

/-- Nor does the start that a message asks for. -/
theorem Queued.attempted (queued : s.Queued P) (sound : s.Sound) (message : Json) (o : σ) :
    (s.attempted out message o).Queued P := by
  rcases attempted_cases out sound message o with same | ⟨-, started⟩
  · rw [same]
    exact queued
  · exact started.queued queued

/-- What a request is begun with adds the relay's replies to what is queued. -/
theorem Queued.begin (queued : s.Queued P) (sound : s.Sound) (header message : Json) (early : List Arrival)
    (o : σ) (answers : ∀ a ∈ early, ∀ (r : Relay) reply, .reply reply ∈ (r.step a.input).2 → P reply)
    (own : ∀ (r : Relay) frame reply, .reply reply ∈ (r.step (.request frame)).2 → P reply) :
    (s.begin out header message early o).2.1.Queued P := by
  have begun := begun out sound header message early o
  have ready := queued.attempted out sound message o
  have readySound := sound.attempted out message o
  generalize s.begin out header message early o = outcome at begun ⊢
  cases begun with
  | malformed state refused => exact state ▸ ready
  | answered state read seq command silent => exact state ▸ ready
  | passed state read planned running passed =>
      rw [state] at ready readySound
      have arrived := ready.arrivals readySound early answers
      exact arrived.submit (readySound.of_keeps (keeps_arrivals _ early)) passed fun r => own r _

/-- A call adds the relay's replies to what is queued. -/
theorem Queued.process (queued : s.Queued P) (sound : s.Sound) (header message : Json)
    (early arrivals : List Arrival) (meanwhile : σ → σ) (o : σ)
    (answers : ∀ a ∈ early ++ arrivals, ∀ (r : Relay) reply, .reply reply ∈ (r.step a.input).2 → P reply)
    (own : ∀ (r : Relay) frame reply, .reply reply ∈ (r.step (.request frame)).2 → P reply) :
    (s.process out header message early arrivals meanwhile o).2.1.Queued P := by
  obtain ⟨begunSound, -⟩ := begin_sound out sound header message early o
  have begun := queued.begin out sound header message early o
    (fun a member => answers a (List.mem_append_left arrivals member)) own
  have arrived := begun.arrivals begunSound arrivals
    (fun a member => answers a (List.mem_append_right early member))
  have arrivedSound := begunSound.of_keeps ((s.begin out header message early o).2.1.keeps_arrivals arrivals)
  rw [process_eq]
  cases (s.begin out header message early o).1 with
  | answered reply => exact arrived
  | waiting call =>
      exact (arrived.collect arrivedSound call.sent).conclude out
        (arrivedSound.of_keeps (keeps_collect _ call.sent)) call _ _

/-- What arrives in the course of a move. -/
def Move.arrivals : Move σ → List Arrival
  | .process _ _ early arrivals _ => early ++ arrivals
  | .arrive a => [a]
  | _ => []

/-- A move adds the relay's replies to what is queued, and nothing else. -/
theorem Queued.next (queued : s.Queued P) (sound : s.Sound) (o : σ) (move : Move σ)
    (allowed : move.Allowed controlBindings s)
    (answers : ∀ a ∈ move.arrivals, ∀ (r : Relay) reply, .reply reply ∈ (r.step a.input).2 → P reply)
    (own : ∀ (r : Relay) frame reply, .reply reply ∈ (r.step (.request frame)).2 → P reply) :
    (s.next out o move).1.Queued P := by
  cases move with
  | process header message early arrivals meanwhile =>
      exact queued.process out sound header message early arrivals meanwhile o answers own
  | start => exact (start_cases out sound o).queued queued
  | stop => exact queued_of_idle sound.stop.1 sound.stop.2
  | nextEvent time => exact queued.nextEvent sound time
  | arrive a =>
      exact queued.arrive sound a fun w reply _ => answers a List.mem_cons_self w.relay reply
  | takeOutbox => exact queued.of_channels rfl fun _ _ => ⟨rfl, fun f member => .inl member⟩
  | outside change => exact queued
  | elsewhere hub => exact queued.elsewhere sound allowed

end Moves

end Queued

end Session
end DebugBridge
