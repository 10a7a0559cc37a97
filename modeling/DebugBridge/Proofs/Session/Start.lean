import DebugBridge.Proofs.Session.Frame

/-!
# Starting and stopping

A session is either idle or running, and its sockets, the bound endpoints, the worker, the threads and the
breakpoints all agree on which (`Sound`). Starting and stopping lead from one to the other whole: a start that
fails half-way is undone.
-/

namespace DebugBridge.Session

/-- The endpoints that a session binds. -/
def ownEndpoints : List Endpoint := [requestEndpoint, headerEndpoint, publisherEndpoint]

/-- Both control endpoints are free, and nothing is known of threads and breakpoints. -/
structure Idle (s : Session) : Prop where
  request : s.request = none
  header : s.header = none
  requestFree : s.hub.registry.lookup requestEndpoint = none
  headerFree : s.hub.registry.lookup headerEndpoint = none
  threads : s.threads = .empty
  breakpoints : s.breakpoints = []

/-- Both control endpoints are bound, by the sockets of the session. -/
structure Bound (s : Session) (q h : Nat) : Prop where
  request : s.request = some (.bound requestEndpoint q)
  header : s.header = some (.bound headerEndpoint h)
  requestBound : s.hub.registry.lookup requestEndpoint = some q
  headerBound : s.hub.registry.lookup headerEndpoint = some h

/-- The publisher is bound, by the session's own socket. -/
def Publishes (s : Session) : Prop :=
  ∃ p, s.publisher = some (.bound publisherEndpoint p) ∧ s.hub.registry.lookup publisherEndpoint = some p

/-- A worker publishes where the session takes the events from. -/
def Attached (s : Session) (w : Worker) : Prop :=
  ∀ p, s.publisher = some (.bound publisherEndpoint p) → w.publisher = some (.connected publisherEndpoint p)

/-- A session is idle without a worker, and with one the worker is tied to its control endpoints and
publishes for it. -/
structure Sound (s : Session) : Prop where
  hub : s.hub.Sound
  publisher : s.Publishes
  idle : s.worker = none → s.Idle
  running : ∀ w, s.worker = some w → ∃ q h, s.Bound q h ∧ w.Tied q h
  attached : ∀ w, s.worker = some w → s.Attached w

variable {s : Session} {q h : Nat}

/-- The two control sockets never share a binding, as one binding has one endpoint. -/
theorem Bound.apart (bound : s.Bound q h) (hub : s.hub.Sound) : h ≠ q := by
  rintro rfl
  have same := hub.distinct _ _ _ bound.requestBound bound.headerBound
  exact absurd same (by decide)

theorem Bound.inRange (bound : s.Bound q h) (hub : s.hub.Sound) : q < s.hub.channels.length :=
  hub.inRange _ _ bound.requestBound

/-! ## What is kept -/

/-- What keeps a session keeps its control sockets bound. -/
theorem Keeps.bound {before after : Session} (keeps : Keeps before after) (bound : before.Bound q h) :
    after.Bound q h := by
  refine ⟨keeps.request.trans bound.request, keeps.header.trans bound.header, ?_, ?_⟩
  · rw [keeps.hub.registry]
    exact bound.requestBound
  · rw [keeps.hub.registry]
    exact bound.headerBound

/-- What keeps a session keeps its publisher bound. -/
theorem Keeps.publishes {before after : Session} (keeps : Keeps before after) (publisher : before.Publishes) :
    after.Publishes := by
  obtain ⟨p, socket, registered⟩ := publisher
  refine ⟨p, keeps.publisher.trans socket, ?_⟩
  rw [keeps.hub.registry]
  exact registered

/-- What keeps a session without a worker keeps it idle. -/
theorem Keeps.idle {before after : Session} (keeps : Keeps before after) (running : before.worker = none)
    (idle : before.Idle) : after.Idle := by
  refine ⟨keeps.request.trans idle.request, keeps.header.trans idle.header, ?_, ?_,
    (keeps.threads running).trans idle.threads, keeps.breakpoints.trans idle.breakpoints⟩
  · rw [keeps.hub.registry]
    exact idle.requestFree
  · rw [keeps.hub.registry]
    exact idle.headerFree

theorem tied_of_sockets {w w' : Worker} (same : w'.sockets = w.sockets) (tied : w.Tied q h) : w'.Tied q h := by
  simp only [Worker.sockets, Prod.mk.injEq] at same
  obtain ⟨request, header, publisher⟩ := same
  exact ⟨request.trans tied.request, header.trans tied.header, publisher ▸ tied.publisher, tied.apart⟩

/-- What keeps a session keeps it sound. -/
theorem Sound.of_keeps {before after : Session} (sound : before.Sound) (keeps : Keeps before after) :
    after.Sound where
  hub := sound.hub.of_moved keeps.hub
  publisher := keeps.publishes sound.publisher
  idle := by
    intro absent
    have stopped := keeps.worker_eq_none_iff.mp absent
    exact keeps.idle stopped (sound.idle stopped)
  running := by
    intro w running
    have worker := keeps.worker
    rw [running] at worker
    obtain ⟨v, before, same⟩ := Option.map_eq_some_iff.mp worker.symm
    obtain ⟨q, h, bound, tied⟩ := sound.running v before
    exact ⟨q, h, keeps.bound bound, tied_of_sockets same.symm tied⟩
  attached := by
    intro w running p socket
    have worker := keeps.worker
    rw [running] at worker
    obtain ⟨v, before, same⟩ := Option.map_eq_some_iff.mp worker.symm
    have sockets := congrArg (fun row => row.2.2) same.symm
    rw [keeps.publisher] at socket
    exact Eq.trans sockets (sound.attached v before p socket)

/-- A sound session has a worker exactly if its request socket is bound. -/
theorem Sound.worker_eq_none_iff (sound : s.Sound) : s.worker = none ↔ s.request.isBound = false := by
  constructor
  · intro absent
    rw [(sound.idle absent).request]
    rfl
  · intro unbound
    cases running : s.worker with
    | none => rfl
    | some w =>
        obtain ⟨q, h, bound, -⟩ := sound.running w running
        rw [bound.request] at unbound
        cases unbound

/-- Only a running session remembers breakpoints. -/
theorem Sound.remember (sound : s.Sound) (running : s.worker ≠ none) (breakpoints : Members) :
    ({ s with breakpoints } : Session).Sound := by
  refine ⟨sound.hub, sound.publisher, fun stopped => absurd stopped running, fun w found => ?_, sound.attached⟩
  obtain ⟨q, h, bound, tied⟩ := sound.running w found
  exact ⟨q, h, ⟨bound.request, bound.header, bound.requestBound, bound.headerBound⟩, tied⟩

/-! ## Creation -/

/-- A session is sound when it is created, whatever others have done on the hub before. -/
theorem sound_create {kernel : Kernel} {settings : Settings} {address : Address} {config : Config}
    {launch : Launch.State} {hub : Hub} {traced : Bool} (prior : hub.Prior ownEndpoints)
    (created : create kernel settings address config launch hub traced = .ok s) : s.Sound := by
  rw [create] at created
  split at created
  · cases created
  · next after publisher bound =>
      cases created
      have registry := Hub.lookup_of_bind bound
      obtain ⟨-, -, socket, -⟩ := Hub.bind_eq_ok bound
      refine ⟨prior.sound.bind bound, ⟨hub.channels.length, socket, ?_⟩, fun _ => ?_, nofun, nofun⟩
      · rw [registry, if_pos rfl]
      · refine ⟨rfl, rfl, ?_, ?_, rfl, rfl⟩
        · rw [registry, if_neg (by decide)]
          exact prior.lookup (by decide)
        · rw [registry, if_neg (by decide)]
          exact prior.lookup (by decide)

/-! ## Stopping -/

/-- Shutting down frees both endpoints, with the frames at their bindings. -/
theorem shutDown_of_bound (bound : s.Bound q h) :
    s.shutDown =
      { s with hub := (s.hub.release requestEndpoint q).release headerEndpoint h, request := none,
               header := none, worker := none, threads := .empty } := by
  simp only [shutDown, unbindRequest, unbindHeader, bound.request, bound.header, Hub.unbind_bound]

/-- What was bound is free after shutting down, and the publisher is as it was. -/
theorem Bound.shutDown (bound : s.Bound q h) (hub : s.hub.Sound) (publisher : s.Publishes)
    (breakpoints : s.breakpoints = []) : s.shutDown.Sound := by
  rw [shutDown_of_bound bound]
  have lookup (e : Endpoint) : ((s.hub.release requestEndpoint q).release headerEndpoint h).registry.lookup e =
      if e = headerEndpoint then none else if e = requestEndpoint then none else s.hub.registry.lookup e := by
    rw [Hub.lookup_release, Hub.lookup_release]
  obtain ⟨p, socket, registered⟩ := publisher
  have headerStill : (s.hub.release requestEndpoint q).registry.lookup headerEndpoint = some h := by
    rw [Hub.lookup_release, if_neg (by decide), bound.headerBound]
  refine ⟨(hub.release bound.requestBound).release headerStill, ⟨p, socket, ?_⟩,
    fun _ => ⟨rfl, rfl, ?_, ?_, rfl, breakpoints⟩, nofun, nofun⟩
  · rw [lookup, if_neg (by decide), if_neg (by decide), registered]
  · rw [lookup, if_neg (by decide), if_pos rfl]
  · rw [lookup, if_pos rfl]

/-- Stopping an idle session changes nothing. -/
theorem stop_of_idle (worker : s.worker = none) (idle : s.Idle) : s.stop = s := by
  obtain ⟨request, header, -, -, threads, breakpoints⟩ := idle
  cases s
  simp only at worker request header threads breakpoints
  subst worker request header threads breakpoints
  rfl

/-- A stopped session is sound and has no worker. -/
theorem Sound.stop (sound : s.Sound) : s.stop.Sound ∧ s.stop.worker = none := by
  cases running : s.worker with
  | none =>
      rw [stop_of_idle running (sound.idle running)]
      exact ⟨sound, running⟩
  | some w =>
      obtain ⟨q, h, bound, -⟩ := sound.running w running
      have forgotten : ({ s with breakpoints := [] } : Session).Bound q h :=
        ⟨bound.request, bound.header, bound.requestBound, bound.headerBound⟩
      have stopped : s.stop = ({ s with breakpoints := [] } : Session).shutDown := by
        rw [Session.stop, shutDown_of_bound bound, shutDown_of_bound forgotten]
      rw [stopped]
      refine ⟨forgotten.shutDown sound.hub sound.publisher rfl, ?_⟩
      rw [shutDown_of_bound forgotten]

/-! ## Starting -/

/-- The session with both control endpoints bound, behind what was bound on the hub before. -/
def withControl (s : Session) : Session :=
  { s with
    hub := ⟨s.hub.channels ++ [⟨true, [], []⟩, ⟨true, [], []⟩],
      (headerEndpoint, s.hub.channels.length + 1) :: (requestEndpoint, s.hub.channels.length) :: s.hub.registry⟩
    request := some (.bound requestEndpoint s.hub.channels.length)
    header := some (.bound headerEndpoint (s.hub.channels.length + 1)) }

/-- The endpoint of requests is bound if it is free, behind what was bound on the hub before. -/
theorem bindRequest_of_free (request : s.request = none) (free : s.hub.isBound requestEndpoint = false) :
    s.bindRequest = .ok { s with
      hub := ⟨s.hub.channels ++ [⟨true, [], []⟩], (requestEndpoint, s.hub.channels.length) :: s.hub.registry⟩
      request := some (.bound requestEndpoint s.hub.channels.length) } := by
  rw [bindRequest, request, Hub.bind_of_free free]

/-- Whatever is bound already, binding the control endpoints changes the hub and the two sockets alone. -/
theorem bindControl_eq (s : Session) :
    ∃ result hub request header, s.bindControl = (result, { s with hub, request, header }) := by
  rw [bindControl, bindRequest]
  split
  · exact ⟨_, s.hub, s.request, s.header, rfl⟩
  · next ready first =>
      split at first
      · cases first
      · cases first
        rw [bindHeader]
        split
        · exact ⟨_, _, _, _, rfl⟩
        · next both second =>
            split at second
            · cases second
            · cases second
              exact ⟨_, _, _, _, rfl⟩

/-- Both endpoints are bound if both are free. -/
theorem bindControl_of_free (request : s.request = none) (header : s.header = none)
    (requestFree : s.hub.isBound requestEndpoint = false) (headerFree : s.hub.isBound headerEndpoint = false) :
    s.bindControl = (.ok (), s.withControl) := by
  have apart : (headerEndpoint == requestEndpoint) = false := by decide
  have still : Hub.isBound ⟨s.hub.channels ++ [⟨true, [], []⟩],
      (requestEndpoint, s.hub.channels.length) :: s.hub.registry⟩ headerEndpoint = false := by
    simpa only [Hub.isBound, List.lookup_cons, apart] using headerFree
  rw [bindControl, bindRequest_of_free request requestFree]
  simp [bindHeader, header, Hub.bind_of_free still, withControl]

/-- The control endpoints are bound to the next two bindings. -/
theorem bound_withControl (s : Session) :
    s.withControl.Bound s.hub.channels.length (s.hub.channels.length + 1) := by
  have apart : (requestEndpoint == headerEndpoint) = false := by decide
  refine ⟨rfl, rfl, ?_, ?_⟩
  · simp only [withControl, List.lookup_cons, apart, beq_self_eq_true]
  · simp only [withControl, List.lookup_cons, beq_self_eq_true]

/-- No frame waits at the new bindings. -/
theorem channelsOf_withControl (s : Session) :
    s.withControl.hub.channelsOf s.hub.channels.length = ⟨true, [], []⟩ ∧
      s.withControl.hub.channelsOf (s.hub.channels.length + 1) = ⟨true, [], []⟩ := by
  simp [withControl, Hub.channelsOf]

/-- Binding the control endpoints leaves the older bindings as they are. -/
theorem channelsOf_withControl_of_lt (s : Session) {b : Nat} (old : b < s.hub.channels.length) :
    s.withControl.hub.channelsOf b = s.hub.channelsOf b := by
  simp [withControl, Hub.channelsOf, List.getElem?_append_left old]

theorem publishes_withControl (publisher : s.Publishes) : s.withControl.Publishes := by
  obtain ⟨p, socket, registered⟩ := publisher
  have notRequest : (publisherEndpoint == requestEndpoint) = false := by decide
  have notHeader : (publisherEndpoint == headerEndpoint) = false := by decide
  refine ⟨p, socket, ?_⟩
  simp only [withControl, List.lookup_cons, notRequest, notHeader]
  exact registered

/-- The hub stays sound when free endpoints are bound. -/
theorem sound_withControl (hub : s.hub.Sound) (requestFree : s.hub.isBound requestEndpoint = false)
    (headerFree : s.hub.isBound headerEndpoint = false) : s.withControl.hub.Sound := by
  have apart : (headerEndpoint == requestEndpoint) = false := by decide
  have still : Hub.isBound ⟨s.hub.channels ++ [⟨true, [], []⟩],
      (requestEndpoint, s.hub.channels.length) :: s.hub.registry⟩ headerEndpoint = false := by
    simpa only [Hub.isBound, List.lookup_cons, apart] using headerFree
  have both := (hub.bind (Hub.bind_of_free requestFree)).bind (Hub.bind_of_free still)
  simpa [withControl] using both

/-- A new worker connects to both control endpoints, and to the publisher's if that is bound. -/
theorem connect_of_bound (bound : s.Bound q h) (hub : s.hub.Sound) :
    ∃ w, Worker.connect s.hub = .ok w ∧ w.Tied q h ∧ w.relay = .start ∧
      w.publisher = (s.hub.connect publisherEndpoint).toOption.join := by
  refine ⟨⟨some (.connected requestEndpoint q), some (.connected headerEndpoint h),
    (s.hub.connect publisherEndpoint).toOption.join, .start⟩, ?_, ⟨rfl, rfl, ?_, bound.apart hub⟩, rfl, rfl⟩
  · simp only [Worker.connect, Hub.connect, bound.requestBound, bound.headerBound]
  · rw [Hub.connect]
    cases registered : s.hub.registry.lookup publisherEndpoint with
    | none => simp [Except.toOption, Socket.binding?]
    | some p =>
        rintro ⟨⟩
        have same := hub.distinct _ _ _ bound.requestBound registered
        exact absurd same (by decide)

/-- A worker that connects to a publisher's endpoint publishes for the session. -/
theorem attached_of_connect {w : Worker} (publisher : s.Publishes)
    (published : w.publisher = (s.hub.connect publisherEndpoint).toOption.join) : s.Attached w := by
  intro p socket
  obtain ⟨p', socket', registered⟩ := publisher
  cases socket.symm.trans socket'
  rw [published, Hub.connect, registered]
  rfl

/-- What the control side learns when it asks a new worker whether it is ready. -/
def handshake (s : Session) : Dial → Except Error Unit
  | .accepted => .ok ()
  | .refused => .error (.adapterUnreachable s.address.text)
  | .tooLate => .error (.timeout s.settings.handshakeTime)

/-- Whatever is bound, asking a new worker changes the hub alone, and a worker that is ready is kept. -/
theorem startWorker_cases (s : Session) (dial : Dial) :
    (∃ e hub, s.startWorker dial = (.error e, { s with hub })) ∨
      ∃ hub w, s.startWorker dial = (.ok (), { s with hub, worker := some w }) := by
  rw [startWorker]
  split
  · exact .inl ⟨_, s.hub, rfl⟩
  · split
    · exact .inl ⟨_, s.hub, rfl⟩
    · simp only
      split
      · exact .inl ⟨_, _, rfl⟩
      · split
        · exact .inr ⟨_, _, rfl⟩
        · exact .inl ⟨_, _, rfl⟩

/-- What passes between the control side and a new worker. The worker connects and takes the question, whether that was
asked before or after it connected, and whatever it answers stands alone at the binding. -/
structure Greeted (s : Session) (q : Nat) (w : Worker) (asking asked : Hub) : Prop where
  connected : Worker.connect s.hub = .ok w
  late : Worker.connect asking = .ok w
  ask : s.hub.send s.request askReady = .ok asking
  take : asking.receive w.request = .ok (some askReady, asked)
  moved : s.hub.Moved asked
  others : ∀ b, b ≠ q → asked.channelsOf b = s.hub.channelsOf b
  channels : asked.channelsOf q = ⟨true, [], []⟩
  silent : asked.receiveWithin s.request s.settings.handshakeTime = .error (.timeout s.settings.handshakeTime)
  answered (answer : Frame) : ∃ sent after, s.hub.Moved after ∧
    (∀ b, b ≠ q → after.channelsOf b = s.hub.channelsOf b) ∧ after.channelsOf q = ⟨true, [], []⟩ ∧
      asked.send w.request answer = .ok sent ∧
        sent.receiveWithin s.request s.settings.handshakeTime = .ok (answer, after)

/-- A new worker finds the endpoints just bound and takes the question, which is all that waits for it. -/
theorem greeted (bound : s.Bound q h) (hub : s.hub.Sound) (empty : s.hub.channelsOf q = ⟨true, [], []⟩) :
    ∃ w asking asked, w.Tied q h ∧ w.relay = .start ∧
      w.publisher = (s.hub.connect publisherEndpoint).toOption.join ∧ s.Greeted q w asking asked := by
  obtain ⟨w, connected, tied, new, publisher⟩ := connect_of_bound bound hub
  have inRange := bound.inRange hub
  let asking := s.hub.modify q fun c => { c with toPeers := c.toPeers ++ [askReady] }
  let asked := asking.modify q fun c => { c with toPeers := [] }
  have askingRange : q < asking.channels.length := by rwa [Hub.length_modify]
  have askedRange : q < asked.channels.length := by rwa [Hub.length_modify]
  have askingChannels : asking.channelsOf q = ⟨true, [askReady], []⟩ := by
    rw [Hub.channelsOf_modify _ _ inRange, empty]
    rfl
  have askedChannels : asked.channelsOf q = ⟨true, [], []⟩ := by
    rw [Hub.channelsOf_modify _ _ askingRange, askingChannels]
  have askingMoved : s.hub.Moved asking := Hub.moved_modify s.hub q fun _ => rfl
  have askedMoved : s.hub.Moved asked := askingMoved.trans (Hub.moved_modify asking q fun _ => rfl)
  have askedOthers (b : Nat) (other : b ≠ q) : asked.channelsOf b = s.hub.channelsOf b := by
    rw [Hub.channelsOf_modify_of_ne _ _ other.symm, Hub.channelsOf_modify_of_ne _ _ other.symm]
  refine ⟨w, asking, asked, tied, new, publisher, connected, ?_, ?_, ?_, askedMoved, askedOthers, askedChannels, ?_,
    fun answer => ?_⟩
  · simpa only [Worker.connect, Hub.connect, askingMoved.registry] using connected
  · rw [bound.request]
    rfl
  · simp only [tied.request, Hub.receive, askingChannels]
    rfl
  · simp only [bound.request, Hub.receiveWithin, Hub.receive, askedChannels]
  · let sent := asked.modify q fun c => { c with toOwner := c.toOwner ++ [answer] }
    have sentRange : q < sent.channels.length := by rwa [Hub.length_modify]
    have sentChannels : sent.channelsOf q = ⟨true, [], [answer]⟩ := by
      rw [Hub.channelsOf_modify _ _ askedRange, askedChannels]
      rfl
    have sentMoved : s.hub.Moved sent := askedMoved.trans (Hub.moved_modify asked q fun _ => rfl)
    refine ⟨sent, sent.modify q fun c => { c with toOwner := [] },
      sentMoved.trans (Hub.moved_modify sent q fun _ => rfl), fun b other => ?_, ?_, ?_, ?_⟩
    · rw [Hub.channelsOf_modify_of_ne _ _ other.symm, Hub.channelsOf_modify_of_ne _ _ other.symm,
        askedOthers b other]
    · rw [Hub.channelsOf_modify _ _ sentRange, sentChannels]
    · simp only [tied.request, Hub.send, askedChannels, if_true]
      rfl
    · simp only [bound.request, Hub.receiveWithin, Hub.receive, sentChannels]

section Greeted

variable {w : Worker} {asking asked sent after : Hub} (greeted : s.Greeted q w asking asked)

include greeted

/-- With a connection the worker runs. -/
theorem Greeted.accepted (send : asked.send w.request isReady = .ok sent)
    (receive : sent.receiveWithin s.request s.settings.handshakeTime = .ok (isReady, after)) :
    s.startWorker .accepted = (.ok (), { s with hub := after, worker := some w }) := by
  simp only [startWorker, greeted.connected, greeted.ask, greeted.take, Worker.answerReady, if_true, send, receive]

/-- Without one the control side is told so. -/
theorem Greeted.refused (send : asked.send w.request givesUp = .ok sent)
    (receive : sent.receiveWithin s.request s.settings.handshakeTime = .ok (givesUp, after)) :
    s.startWorker .refused = (.error (.adapterUnreachable s.address.text), { s with hub := after }) := by
  have declined : ¬ givesUp = isReady := by decide
  simp only [startWorker, greeted.connected, greeted.ask, greeted.take, Worker.answerReady, if_true,
    Worker.sendIfPossible, send, Except.toOption, Option.getD_some, receive, Bool.false_eq_true, if_false,
    if_neg declined]

/-- An answer that does not come in time is a timeout. -/
theorem Greeted.tooLate :
    s.startWorker .tooLate = (.error (.timeout s.settings.handshakeTime), { s with hub := asked }) := by
  simp only [startWorker, greeted.connected, greeted.ask, greeted.take, greeted.silent]

end Greeted

/-- The worker is ready exactly if the adapter takes the connection. No frame is left of the question, and no
other binding is touched by it. -/
theorem startWorker_eq (bound : s.Bound q h) (hub : s.hub.Sound) (empty : s.hub.channelsOf q = ⟨true, [], []⟩)
    (dial : Dial) :
    ∃ (after : Hub) (w : Worker), s.hub.Moved after ∧ (∀ b, b ≠ q → after.channelsOf b = s.hub.channelsOf b) ∧
      after.channelsOf q = ⟨true, [], []⟩ ∧ w.Tied q h ∧ w.relay = .start ∧
      w.publisher = (s.hub.connect publisherEndpoint).toOption.join ∧
      s.startWorker dial =
        (s.handshake dial, { s with hub := after, worker := if dial = .accepted then some w else s.worker }) := by
  obtain ⟨w, asking, asked, tied, new, publisher, greeted⟩ := greeted bound hub empty
  cases dial with
  | accepted =>
      obtain ⟨sent, after, moved, others, channels, send, receive⟩ := greeted.answered isReady
      exact ⟨after, w, moved, others, channels, tied, new, publisher, greeted.accepted send receive⟩
  | refused =>
      obtain ⟨sent, after, moved, others, channels, send, receive⟩ := greeted.answered givesUp
      exact ⟨after, w, moved, others, channels, tied, new, publisher, greeted.refused send receive⟩
  | tooLate =>
      exact ⟨asked, w, greeted.moved, greeted.others, greeted.channels, tied, new, publisher, greeted.tooLate⟩

variable {σ : Type} (out : Outside σ)

/-- A launch changes the outcome of the launch and the diagnostic file. -/
theorem ensureLaunched_eq (s : Session) (o : σ) :
    ∃ launch transcript o', s.ensureLaunched out o = ({ s with launch, transcript }, o') :=
  ⟨_, _, _, rfl⟩

/-- A launch changes nothing that makes an idle session sound. -/
theorem Sound.relaunched (sound : s.Sound) (stopped : s.worker = none) (launch : Launch.State)
    (transcript : Option (List String)) : ({ s with launch, transcript } : Session).Sound := by
  obtain ⟨request, header, requestFree, headerFree, threads, breakpoints⟩ := sound.idle stopped
  have absent (w : Worker) : s.worker ≠ some w := fun found => by cases found.symm.trans stopped
  exact ⟨sound.hub, sound.publisher, fun _ => ⟨request, header, requestFree, headerFree, threads, breakpoints⟩,
    fun w found => absurd found (absent w), fun w found => absurd found (absent w)⟩

/-- The part of a start that uses the hub: the control endpoints are bound and a new worker is asked whether it is
ready, or all is undone. -/
def engage (s : Session) (o : σ) : Except Error Bool × Session × σ :=
  match s.bindControl with
  | (.error e, s) => (.error e, s, o)
  | (.ok (), s) =>
    let (dial, o) := out.dial s.address s.settings o
    match s.startWorker dial with
    | (.ok (), s) => (.ok true, s, o)
    | (.error e, s) => (.error e, s.shutDown, o)

/-- With both endpoints free the adapter decides: the worker runs, with no frame at its bindings, or the endpoints are
given back. -/
theorem engage_of_free (request : s.request = none) (header : s.header = none) (hub : s.hub.Sound)
    (requestFree : s.hub.isBound requestEndpoint = false) (headerFree : s.hub.isBound headerEndpoint = false) (o : σ) :
    ∃ (after : Hub) (w : Worker), s.withControl.hub.Moved after ∧
      (∀ b, b ≠ s.hub.channels.length → after.channelsOf b = s.withControl.hub.channelsOf b) ∧
      after.channelsOf s.hub.channels.length = ⟨true, [], []⟩ ∧
      w.Tied s.hub.channels.length (s.hub.channels.length + 1) ∧ w.relay = .start ∧
      w.publisher = (s.withControl.hub.connect publisherEndpoint).toOption.join ∧
      s.engage out o =
        match out.dial s.address s.settings o with
        | (.accepted, o) => (.ok true, { s.withControl with hub := after, worker := some w }, o)
        | (.refused, o) =>
          (.error (.adapterUnreachable s.address.text), ({ s.withControl with hub := after } : Session).shutDown, o)
        | (.tooLate, o) =>
          (.error (.timeout s.settings.handshakeTime), ({ s.withControl with hub := after } : Session).shutDown,
            o) := by
  rcases dialed : out.dial s.address s.settings o with ⟨dial, o'⟩
  obtain ⟨after, w, moved, others, channels, tied, new, publisher, outcome⟩ := startWorker_eq s.bound_withControl
    (sound_withControl hub requestFree headerFree) s.channelsOf_withControl.1 dial
  refine ⟨after, w, moved, others, channels, tied, new, publisher, ?_⟩
  have binds := bindControl_of_free request header requestFree headerFree
  have dialed : out.dial s.withControl.address s.withControl.settings o = (dial, o') := dialed
  rw [engage, binds]
  simp only [dialed, outcome]
  cases dial <;> rfl

/-- A start of a started session does nothing. -/
theorem start_of_started (started : s.isStarted = true) (o : σ) : s.start out o = (.ok true, s, o) := by
  rw [start, if_pos started]

/-- A start of a session that is not started launches the adapter first. -/
theorem start_eq (stopped : s.worker = none) (o : σ) :
    s.start out o =
      match out.makeDirectory s.kernel.logDirectory o with
      | (.error e, o) => (.error e, s, o)
      | (.ok (), o) =>
        let (s, o) := s.ensureLaunched out o
        if s.launch = .started then
          match out.makeDirectory s.kernel.cellDirectory o with
          | (.error e, o) => (.error e, s, o)
          | (.ok (), o) => s.engage out o
        else (.ok false, s, o) := by
  have idle : ¬ s.isStarted = true := fun started => isStarted_eq_true_iff.mp started stopped
  rw [start, if_neg idle]
  rfl

/-- What a start comes to. -/
inductive StartedAs (s : Session) : Except Error Bool → Session → Prop where
  /-- Nothing, as the session was started. -/
  | already (running : s.worker ≠ none) : StartedAs s (.ok true) s
  /-- An idle session, as it was before but for the launch. -/
  | failed {result : Except Error Bool} {next : Session} (stopped : s.worker = none) (sound : next.Sound)
      (idle : next.worker = none) (refused : result ≠ .ok true) (address : next.address = s.address)
      (outbox : next.outbox = s.outbox) : StartedAs s result next
  /-- A running session with a new worker, for which no frame waits. -/
  | now {next : Session} {w : Worker} {q h : Nat} (stopped : s.worker = none) (sound : next.Sound)
      (running : next.worker = some w) (bound : next.Bound q h) (new : w.relay = .start)
      (empty : next.hub.channelsOf q = ⟨true, [], []⟩) (address : next.address = s.address)
      (outbox : next.outbox = s.outbox) : StartedAs s (.ok true) next

/-- A start leaves a sound session, whatever it comes to. -/
theorem StartedAs.sound {result : Except Error Bool} {next : Session} (started : StartedAs s result next)
    (sound : s.Sound) : next.Sound := by
  cases started with
  | already running => exact sound
  | failed stopped sound' idle refused address outbox => exact sound'
  | now stopped sound' running bound new empty address outbox => exact sound'

theorem StartedAs.address {result : Except Error Bool} {next : Session} (started : StartedAs s result next) :
    next.address = s.address := by
  cases started with
  | already running => rfl
  | failed stopped sound' idle refused address outbox => exact address
  | now stopped sound' running bound new empty address outbox => exact address

/-- A start writes nothing to the adapter. -/
theorem StartedAs.outbox {result : Except Error Bool} {next : Session} (started : StartedAs s result next) :
    next.outbox = s.outbox := by
  cases started with
  | already running => rfl
  | failed stopped sound' idle refused address outbox => exact outbox
  | now stopped sound' running bound new empty address outbox => exact outbox

/-- A start succeeds exactly if the session runs after it. -/
theorem StartedAs.running_iff {result : Except Error Bool} {next : Session} (started : StartedAs s result next) :
    next.worker ≠ none ↔ result = .ok true := by
  cases started with
  | already running => simpa using running
  | failed stopped sound' idle refused address outbox => simp [idle, refused]
  | now stopped sound' running bound new empty address outbox => simp [running]

/-- A session that is ready to start differs from what it was in neither its address nor what it has written. -/
theorem StartedAs.of_ready {result : Except Error Bool} {ready next : Session} (started : StartedAs ready result next)
    (stopped : s.worker = none) (address : ready.address = s.address) (outbox : ready.outbox = s.outbox)
    (idle : ready.worker = none) : StartedAs s result next := by
  cases started with
  | already running => exact absurd idle running
  | failed _ sound idle refused address' outbox' =>
      exact .failed stopped sound idle refused (address'.trans address) (outbox'.trans outbox)
  | now _ sound running bound new empty address' outbox' =>
      exact .now stopped sound running bound new empty (address'.trans address) (outbox'.trans outbox)

/-- What binding the endpoints and making a worker comes to. -/
theorem engage_cases (sound : s.Sound) (stopped : s.worker = none) (o : σ) :
    StartedAs s (s.engage out o).1 (s.engage out o).2.1 := by
  obtain ⟨request, header, requestFree, headerFree, -, breakpoints⟩ := sound.idle stopped
  rw [← Hub.isBound_eq_false_iff] at requestFree headerFree
  obtain ⟨after, w, moved, -, channels, tied, new, published, outcome⟩ :=
    engage_of_free out request header sound.hub requestFree headerFree o
  have hub := sound_withControl sound.hub requestFree headerFree
  have publishes := publishes_withControl sound.publisher
  have attached : s.withControl.Attached w := attached_of_connect publishes published
  have keeps := s.withControl.keeps_of_hub moved
  have bound := keeps.bound s.bound_withControl
  have undone := bound.shutDown (hub.of_moved moved) (keeps.publishes publishes) breakpoints
  have idle := shutDown_of_bound bound
  rw [outcome]
  rcases out.dial s.address s.settings o with ⟨_ | _ | _, o'⟩
  · refine .now stopped ⟨hub.of_moved moved, keeps.publishes publishes, nofun, fun v found => ?_, fun v found => ?_⟩
      rfl ⟨bound.request, bound.header, bound.requestBound, bound.headerBound⟩ new channels rfl rfl
    · cases found
      exact ⟨_, _, ⟨bound.request, bound.header, bound.requestBound, bound.headerBound⟩, tied⟩
    · cases found
      exact attached
  · exact .failed stopped undone (by rw [idle]) (by simp) (by rw [idle]; rfl) (by rw [idle]; rfl)
  · exact .failed stopped undone (by rw [idle]) (by simp) (by rw [idle]; rfl) (by rw [idle]; rfl)

/-- A start succeeds with a running session or leaves an idle one. -/
theorem start_cases (sound : s.Sound) (o : σ) :
    StartedAs s (s.start out o).1 (s.start out o).2.1 := by
  cases running : s.worker with
  | some w =>
      rw [start_of_started out (isStarted_of_running running)]
      exact .already (by rw [running]; exact Option.some_ne_none w)
  | none =>
      rw [start_eq out running]
      split
      · exact .failed running sound running (by simp) rfl rfl
      · obtain ⟨launch, transcript, o', launched⟩ := s.ensureLaunched_eq out ‹σ›
        simp only [launched]
        have ready := sound.relaunched running launch transcript
        split
        · split
          · exact .failed running ready running (by simp) rfl rfl
          · exact (engage_cases out ready running ‹σ›).of_ready running rfl rfl running
        · exact .failed running ready running (by simp) rfl rfl

end DebugBridge.Session
