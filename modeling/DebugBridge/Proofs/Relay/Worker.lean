import DebugBridge.Proofs.Hub.Sound
import DebugBridge.Proofs.Relay.History

/-!
# What the worker changes

A worker keeps its sockets and all bindings (`Keeps`); only frames move. Of the request binding it empties the
frames for it, and puts the relay's replies behind those for the control side.
-/

namespace DebugBridge.Worker

/-- A worker and the hub, of which the relay and frames alone may have changed. -/
structure Keeps (before after : Worker × Hub) : Prop where
  request : after.1.request = before.1.request
  header : after.1.header = before.1.header
  publisher : after.1.publisher = before.1.publisher
  hub : before.2.Moved after.2

theorem Keeps.refl (w : Worker) (hub : Hub) : Keeps (w, hub) (w, hub) :=
  ⟨rfl, rfl, rfl, .refl hub⟩

theorem Keeps.trans {first middle last : Worker × Hub} (left : Keeps first middle)
    (right : Keeps middle last) : Keeps first last :=
  ⟨right.request.trans left.request, right.header.trans left.header,
    right.publisher.trans left.publisher, left.hub.trans right.hub⟩

/-- Sending appends a frame at the socket's binding, or does nothing. -/
theorem sendIfPossible_cases (hub : Hub) (s : Socket) (frame : Frame) :
    sendIfPossible hub s frame = hub ∨
      ∃ b f, s.binding? = some b ∧ sendIfPossible hub s frame = hub.modify b f := by
  rw [sendIfPossible]
  cases sent : hub.send s frame with
  | error e => exact .inl rfl
  | ok next =>
      obtain ⟨b, f, tied, -, rfl⟩ := Hub.send_eq_ok sent
      exact .inr ⟨b, f, tied, rfl⟩

/-- Sending moves a frame at most. -/
theorem moved_sendIfPossible (hub : Hub) (s : Socket) (frame : Frame) : hub.Moved (sendIfPossible hub s frame) := by
  rw [sendIfPossible]
  cases sent : hub.send s frame with
  | error e => exact .refl hub
  | ok next => exact Hub.moved_send sent

/-- What the relay sends only moves frames. -/
theorem moved_emit (w : Worker) (hub : Hub) (o : Relay.Output) : hub.Moved (w.emit hub o) := by
  cases o with
  | write message | unwritten message | observe event => exact .refl hub
  | reply message => exact moved_sendIfPossible hub w.request _
  | publish header event => exact moved_sendIfPossible hub w.publisher _

/-- A worker stays tied to its bindings, whatever its relay sends. -/
theorem keeps_emit_all (w : Worker) (hub : Hub) (outputs : List Relay.Output) :
    Keeps (w, hub) (w, outputs.foldl (emit w) hub) := by
  induction outputs generalizing hub with
  | nil => exact Keeps.refl w hub
  | cons o outputs ih =>
      have first : Keeps (w, hub) (w, w.emit hub o) := ⟨rfl, rfl, rfl, moved_emit w hub o⟩
      exact first.trans (ih (w.emit hub o))

/-- What a worker does with an input when writing succeeds is a step of its relay. -/
theorem handle_eq (w : Worker) (hub : Hub) (input : Relay.Input) :
    w.handle hub input = ({ w with relay := (w.relay.step input).1 }, (w.relay.step input).2.foldl w.emit hub,
      (w.relay.step input).2) := rfl

/-- A worker keeps its sockets when its relay takes an input. -/
theorem keeps_react (w : Worker) (hub : Hub) (written : Except Error Unit) (input : Relay.Input) :
    Keeps (w, hub) ((w.react hub written input).1, (w.react hub written input).2.1) := by
  have emitted := keeps_emit_all w hub (w.relay.react written input).2
  exact ⟨rfl, rfl, rfl, emitted.hub⟩

/-- So it does if writing succeeds. -/
theorem keeps_handle (w : Worker) (hub : Hub) (input : Relay.Input) :
    Keeps (w, hub) ((w.handle hub input).1, (w.handle hub input).2.1) :=
  w.keeps_react hub (.ok ()) input

/-- The relay takes all header frames in, and is otherwise as it was. -/
theorem takeHeaders_eq (w : Worker) (hub : Hub) :
    w.takeHeaders hub =
      ({ w with relay := { w.relay with headers := w.relay.headers ++ hub.waiting w.header } },
        hub.setWaiting w.header []) := by
  have taken (frames : List Frame) (w : Worker) :
      frames.foldl (fun w f => { w with relay := (w.relay.step (.header f)).1 }) w =
        { w with relay := { w.relay with headers := w.relay.headers ++ frames } } := by
    induction frames generalizing w with
    | nil => simp
    | cons f frames ih =>
        rw [List.foldl_cons, ih]
        simp [Relay.step, Relay.react]
  rw [takeHeaders, taken]

/-- Taking headers only moves frames. -/
theorem keeps_takeHeaders (w : Worker) (hub : Hub) :
    Keeps (w, hub) (w.takeHeaders hub) := by
  rw [takeHeaders_eq]
  exact ⟨rfl, rfl, rfl, Hub.moved_setWaiting hub w.header []⟩

/-- Taking requests only moves frames. -/
theorem keeps_takeRequests (count : Nat) (w : Worker) (hub : Hub) :
    Keeps (w, hub) ((takeRequests count w hub).1, (takeRequests count w hub).2.1) := by
  induction count generalizing w hub with
  | zero => exact Keeps.refl w hub
  | succ count ih =>
      rw [takeRequests]
      split
      · next frame received read =>
          have taken : Keeps (w, hub) (w, received) := ⟨rfl, rfl, rfl, Hub.moved_receive read⟩
          exact taken.trans <| (keeps_takeHeaders w received).trans <|
            (keeps_handle _ _ (.request frame)).trans (ih _ _)
      · exact Keeps.refl w hub

theorem keeps_serve (w : Worker) (hub : Hub) :
    Keeps (w, hub) ((w.serve hub).1, (w.serve hub).2.1) :=
  keeps_takeRequests _ w hub

theorem keeps_onArrival (w : Worker) (hub : Hub) (a : Arrival) :
    Keeps (w, hub) ((w.onArrival hub a).1, (w.onArrival hub a).2.1) := by
  cases a with
  | message v => exact keeps_handle w hub (.adapter v)
  | lost => exact keeps_handle w hub .adapterLost

/-! ## The request binding -/

/-- The worker's sockets: the request socket is connected to one binding, the header socket to another, and
events are published at neither of them. -/
structure Tied (w : Worker) (q h : Nat) : Prop where
  request : w.request = some (.connected requestEndpoint q)
  header : w.header = some (.connected headerEndpoint h)
  publisher : w.publisher.binding? ≠ some q
  apart : h ≠ q

section Tied

variable {w : Worker} {hub : Hub} {q h : Nat} (tied : w.Tied q h)

include tied

/-- An output leaves the frames for the worker as they are; a reply comes behind those for the control side. -/
theorem emit_request (o : Relay.Output) (inRange : q < hub.channels.length) (live : (hub.channelsOf q).live = true) :
    (w.emit hub o).channelsOf q =
      { hub.channelsOf q with toOwner := (hub.channelsOf q).toOwner ++ (o.reply?.map Json.encode).toList } := by
  have same : hub.channelsOf q = { hub.channelsOf q with toOwner := (hub.channelsOf q).toOwner ++ [] } := by
    rw [List.append_nil]
  cases o with
  | write message | unwritten message | observe event => exact same
  | publish header event =>
      refine Eq.trans ?_ same
      rw [emit]
      rcases sendIfPossible_cases hub w.publisher (Relay.eventFrame header event) with
        unsent | ⟨b, f, at_, changed⟩
      · rw [unsent]
      · have other : b ≠ q := by
          rintro rfl
          exact tied.publisher at_
        rw [changed, Hub.channelsOf_modify_of_ne hub f other]
  | reply v =>
      simp only [emit, sendIfPossible, tied.request, Hub.send, live, if_true, Except.toOption, Option.getD_some,
        Hub.channelsOf_modify hub _ inRange]
      rfl

/-- The relay's replies come behind the frames for the control side, and nothing else changes there. -/
theorem emit_all_request (outputs : List Relay.Output) (inRange : q < hub.channels.length)
    (live : (hub.channelsOf q).live = true) :
    (outputs.foldl (emit w) hub).channelsOf q =
      { hub.channelsOf q with
        toOwner := (hub.channelsOf q).toOwner ++ (outputs.filterMap Relay.Output.reply?).map Json.encode } := by
  induction outputs generalizing hub with
  | nil => simp
  | cons o outputs ih =>
      have first := emit_request tied o inRange live
      have moved := moved_emit w hub o
      rw [List.foldl_cons, ih (by rwa [moved.length]) (by rw [moved.live, live]), first]
      cases reply : o.reply? <;> simp [reply]

/-- One frame waits for the worker: it takes the headers that wait, passes the frame to the relay, and no frame
waits for it any more. -/
theorem serve_single {frame : Frame} (pending : (hub.channelsOf q).toPeers = [frame]) :
    w.serve hub =
      { w with relay := { w.relay with headers := w.relay.headers ++ (hub.channelsOf h).toPeers } }.handle
        ((hub.modify q fun c => { c with toPeers := [] }).modify h fun c => { c with toPeers := [] })
        (.request frame) := by
  have count : (hub.waiting w.request).length = 1 := by
    rw [tied.request, Hub.waiting, pending]
    rfl
  have received : hub.receive w.request =
      .ok (some frame, hub.modify q fun c => { c with toPeers := [] }) := by
    simp only [tied.request, Hub.receive, pending]
  let taken := hub.modify q fun c => { c with toPeers := [] }
  have headers : taken.waiting w.header = (hub.channelsOf h).toPeers := by
    rw [tied.header, Hub.waiting, Hub.channelsOf_modify_of_ne _ _ tied.apart.symm]
  have emptied : taken.setWaiting w.header [] = taken.modify h fun c => { c with toPeers := [] } := by
    rw [tied.header, Hub.setWaiting]
  rw [serve, count, takeRequests, received]
  simp only [takeHeaders_eq, takeRequests, List.append_nil]
  rw [headers, emptied]

end Tied

end DebugBridge.Worker
