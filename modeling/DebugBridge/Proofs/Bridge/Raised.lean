import DebugBridge.Proofs.Bridge.Lifecycle

/-!
# A bridge behind a past

Of what was bound and of the workers that were made before a session was stopped, nothing matters afterwards: the
numbers of bindings and of workers are higher by as much, and everything else goes as it would on an unused hub.
`Raised` relates what is done there to what is done behind such a past, from sockets and the hub up to turns of
workers. Events that were published before may still wait, so the publisher's binding is part of the past.
-/

namespace DebugBridge

/-- Both give an error, and the same one, or both give values that are so related. -/
inductive Both {α β : Type} (R : α → β → Prop) : Except Error α → Except Error β → Prop where
  | error (e : Error) : Both R (.error e) (.error e)
  | ok {a : α} {b : β} (related : R a b) : Both R (.ok a) (.ok b)

/-! ## Sockets and the hub -/

/-- A socket at a binding whose number is higher. -/
def Socket.raise (past : Nat) : Socket → Socket
  | none => none
  | some (.bound e q) => some (.bound e (q + past))
  | some (.connected e q) => some (.connected e (q + past))

theorem Socket.isBound_raise (past : Nat) (s : Socket) : (s.raise past).isBound = s.isBound := by
  rcases s with _ | ⟨e, q⟩ | ⟨e, q⟩ <;> rfl

namespace Hub

variable {past q p : Nat} {f hub : Hub} {s : Socket} {e : Endpoint}

/-- The endpoints of the control side. -/
def controlEndpoints : List Endpoint := [requestEndpoint, headerEndpoint]

/-- Of a hub, what is there behind its first bindings. The publisher's is one of these. -/
structure Raised (past : Nat) (f hub : Hub) : Prop where
  length : hub.channels.length = f.channels.length + past
  channels : ∀ q, hub.channelsOf (q + past) = f.channelsOf q
  control : ∀ e ∈ controlEndpoints, hub.registry.lookup e = (f.registry.lookup e).map (· + past)
  unpublished : f.registry.lookup publisherEndpoint = none
  publisher : ∀ p, hub.registry.lookup publisherEndpoint = some p → p < past

namespace Raised

variable (raised : Raised past f hub)

include raised

/-- Of the control endpoints the same ones are taken. -/
theorem isBound_eq (own : e ∈ controlEndpoints) : hub.isBound e = f.isBound e := by
  rw [isBound, isBound, raised.control e own, Option.isSome_map]

/-- A change at a binding is one at the binding that corresponds to it. -/
theorem modify (q : Nat) (change : Channels → Channels) :
    Raised past (f.modify q change) (hub.modify (q + past) change) := by
  obtain ⟨length, channels, control, unpublished, publisher⟩ := raised
  refine ⟨by simpa using length, fun q' => ?_, control, unpublished, publisher⟩
  rcases eq_or_ne q q' with rfl | other
  · by_cases inRange : q < f.channels.length
    · rw [channelsOf_modify f change inRange, channelsOf_modify hub change (by omega), channels]
    · have out : f.channels.length ≤ q := Nat.le_of_not_lt inRange
      have beyond : hub.channels.length ≤ q + past := by omega
      simp [Hub.modify, channelsOf, out, beyond]
  · rw [channelsOf_modify_of_ne f change other, channelsOf_modify_of_ne hub change (by omega), channels]

/-- What happens at an earlier binding makes no difference. -/
theorem modify_past (early : p < past) (change : Channels → Channels) : Raised past f (hub.modify p change) := by
  obtain ⟨length, channels, control, unpublished, publisher⟩ := raised
  refine ⟨by simpa using length, fun q => ?_, control, unpublished, publisher⟩
  rw [channelsOf_modify_of_ne hub change (by omega), channels]

/-- A new binding has a number that is higher by as much. -/
theorem bind (s : Socket) (own : e ∈ controlEndpoints) :
    Both (fun a b => Raised past a.1 b.1 ∧ b.2 = a.2.raise past) (f.bind s e) (hub.bind (s.raise past) e) := by
  rcases s with _ | ⟨e', q⟩ | ⟨e', q⟩
  · have same := raised.isBound_eq own
    have other : (publisherEndpoint == e) = false := by
      simp only [controlEndpoints, List.mem_cons, List.not_mem_nil, or_false] at own
      rcases own with rfl | rfl <;> decide
    obtain ⟨length, channels, control, unpublished, publisher⟩ := raised
    simp only [Socket.raise, Hub.bind, same]
    split
    · exact .error _
    · refine .ok ⟨⟨?_, fun q => ?_, fun e' own' => ?_, ?_, ?_⟩, by rw [length]⟩
      · simp only [List.length_append, length, List.length_singleton]
        omega
      · have before := channels q
        simp only [channelsOf, List.getD_eq_getElem?_getD] at before ⊢
        rcases lt_trichotomy q f.channels.length with old | rfl | beyond
        · rw [List.getElem?_append_left (by omega), List.getElem?_append_left old, before]
        · rw [← length, List.getElem?_concat_length, List.getElem?_concat_length]
        · rw [List.getElem?_eq_none (by simp; omega), List.getElem?_eq_none (by simp; omega)]
      · simp only [List.lookup_cons]
        split
        · rw [length]
          rfl
        · exact control e' own'
      · simp only [List.lookup_cons, other]
        exact unpublished
      · simp only [List.lookup_cons, other]
        exact publisher
  · exact .error _
  · exact .error _

/-- So is the end of a binding. -/
theorem release (q : Nat) (own : e ∈ controlEndpoints) : Raised past (f.release e q) (hub.release e (q + past)) := by
  have other : publisherEndpoint ≠ e := by
    simp only [controlEndpoints, List.mem_cons, List.not_mem_nil, or_false] at own
    rcases own with rfl | rfl <;> decide
  have changed := raised.modify q fun c => { c with live := false }
  obtain ⟨length, channels, -, -, -⟩ := changed
  refine ⟨length, channels, fun e' own' => ?_, ?_, ?_⟩
  · rw [lookup_release, lookup_release]
    split
    · rfl
    · exact raised.control e' own'
  · rw [lookup_release, if_neg other]
    exact raised.unpublished
  · rw [lookup_release, if_neg other]
    exact raised.publisher

/-- An endpoint is freed for both, or neither owns it. -/
theorem unbind (s : Socket) (own : e ∈ controlEndpoints) :
    Raised past (f.unbind s e).1 (hub.unbind (s.raise past) e).1 ∧
      (hub.unbind (s.raise past) e).2 = (f.unbind s e).2.raise past := by
  rcases s with _ | ⟨e', q⟩ | ⟨e', q⟩
  · exact ⟨raised, rfl⟩
  · simp only [Socket.raise, Hub.unbind]
    split
    · exact ⟨raised.release q own, rfl⟩
    · exact ⟨raised, rfl⟩
  · exact ⟨raised, rfl⟩

/-- A frame reaches the bindings that correspond, or none. -/
theorem send (s : Socket) (frame : Frame) :
    Both (Raised past) (f.send s frame) (hub.send (s.raise past) frame) := by
  rcases s with _ | ⟨e', q⟩ | ⟨e', q⟩
  · exact .error _
  · exact .ok (raised.modify q _)
  · simp only [Socket.raise, Hub.send, raised.channels]
    split
    · exact .ok (raised.modify q _)
    · exact .error _

theorem sendIfPossible (s : Socket) (frame : Frame) :
    Raised past (Worker.sendIfPossible f s frame) (Worker.sendIfPossible hub (s.raise past) frame) := by
  have sent := raised.send s frame
  rw [Worker.sendIfPossible, Worker.sendIfPossible]
  generalize f.send s frame = left, hub.send (s.raise past) frame = right at sent
  cases sent with
  | error e => exact raised
  | ok next => exact next

/-- What is sent at an earlier binding makes no difference. -/
theorem sendIfPossible_past {s : Socket} (early : ∀ p, s.binding? = some p → p < past) (frame : Frame) :
    Raised past f (Worker.sendIfPossible hub s frame) := by
  rcases Worker.sendIfPossible_cases hub s frame with unsent | ⟨p, change, tied, sent⟩
  · rw [unsent]
    exact raised
  · rw [sent]
    exact raised.modify_past (early p tied) change

/-- The same frame is there for both, or there is none, or the owner is gone. -/
theorem receive (s : Socket) :
    Both (fun a b => b.1 = a.1 ∧ Raised past a.2 b.2) (f.receive s) (hub.receive (s.raise past)) := by
  rcases s with _ | ⟨e', q⟩ | ⟨e', q⟩
  · exact .error _
  · simp only [Socket.raise, Hub.receive, raised.channels]
    split
    · exact .ok ⟨rfl, raised⟩
    · exact .ok ⟨rfl, raised.modify q _⟩
  · simp only [Socket.raise, Hub.receive, raised.channels]
    split
    · split
      · exact .ok ⟨rfl, raised⟩
      · exact .error _
    · exact .ok ⟨rfl, raised.modify q _⟩

/-- So it is for one who waits. -/
theorem receiveWithin (s : Socket) {time time' : Duration} (same : time' = time) :
    Both (fun a b => b.1 = a.1 ∧ Raised past a.2 b.2) (f.receiveWithin s time)
      (hub.receiveWithin (s.raise past) time') := by
  subst same
  have received := raised.receive s
  rw [Hub.receiveWithin, Hub.receiveWithin]
  generalize f.receive s = left, hub.receive (s.raise past) = right at received
  cases received with
  | error e => exact .error e
  | @ok a b related =>
      obtain ⟨got, f'⟩ := a
      obtain ⟨got', hub'⟩ := b
      obtain ⟨same, next⟩ := related
      cases same
      cases got with
      | none => exact .error _
      | some frame => exact .ok ⟨rfl, next⟩

/-- The same frames wait. -/
theorem waiting_eq (s : Socket) : hub.waiting (s.raise past) = f.waiting s := by
  rcases s with _ | ⟨e', q⟩ | ⟨e', q⟩
  · rfl
  · exact congrArg Channels.toOwner (raised.channels q)
  · exact congrArg Channels.toPeers (raised.channels q)

theorem setWaiting (s : Socket) (frames : List Frame) :
    Raised past (f.setWaiting s frames) (hub.setWaiting (s.raise past) frames) := by
  rcases s with _ | ⟨e', q⟩ | ⟨e', q⟩
  · exact raised
  · exact raised.modify q _
  · exact raised.modify q _

end Raised

end Hub

/-! ## Workers -/

/-- Of a worker behind a past, what it is without that: its events go to nobody. -/
structure Worker.Raised (past : Nat) (f w : Worker) : Prop where
  request : w.request = f.request.raise past
  header : w.header = f.header.raise past
  relay : w.relay = f.relay
  unpublished : f.publisher = none
  publisher : ∀ p, w.publisher.binding? = some p → p < past

theorem Worker.Raised.of_relay {past : Nat} {f w : Worker} (like : Worker.Raised past f w) (relay : Relay) :
    Worker.Raised past { f with relay } { w with relay } :=
  ⟨like.request, like.header, rfl, like.unpublished, like.publisher⟩

namespace Hub.Raised

variable {past : Nat} {f hub : Hub} (raised : Raised past f hub)

include raised

/-- A worker that looks for its endpoints finds them in both hubs, or in neither. -/
theorem connect : Both (Worker.Raised past) (Worker.connect f) (Worker.connect hub) := by
  have request := raised.control requestEndpoint (by decide)
  have header := raised.control headerEndpoint (by decide)
  simp only [Worker.connect, Hub.connect, request, header, raised.unpublished]
  cases f.registry.lookup requestEndpoint with
  | none => exact .error _
  | some q =>
      cases f.registry.lookup headerEndpoint with
      | none => exact .error _
      | some h =>
          refine .ok ⟨rfl, rfl, rfl, rfl, fun p tied => ?_⟩
          cases found : hub.registry.lookup publisherEndpoint with
          | none =>
              rw [found] at tied
              cases tied
          | some p' =>
              rw [found] at tied
              cases tied
              exact raised.publisher _ found

variable {w v : Worker} (like : Worker.Raised past w v)

include like

/-- What a relay sends gets to where it belongs in both hubs. -/
theorem emit (output : Relay.Output) : Raised past (w.emit f output) (v.emit hub output) := by
  cases output with
  | write message | unwritten message | observe event => exact raised
  | reply message =>
      rw [Worker.emit, Worker.emit, like.request]
      exact raised.sendIfPossible _ _
  | publish header event =>
      have silent : w.emit f (.publish header event) = f := by
        rw [Worker.emit, like.unpublished]
        rfl
      rw [silent]
      exact raised.sendIfPossible_past like.publisher _

/-- The same headers are taken. -/
theorem takeHeaders : Worker.Raised past (w.takeHeaders f).1 (v.takeHeaders hub).1 ∧
    Raised past (w.takeHeaders f).2 (v.takeHeaders hub).2 := by
  rw [Worker.takeHeaders_eq, Worker.takeHeaders_eq, like.header, raised.waiting_eq, like.relay]
  exact ⟨⟨like.request, rfl, rfl, like.unpublished, like.publisher⟩, raised.setWaiting _ _⟩

/-- Both workers give the same word, if they can. -/
theorem answerReady (first : Frame) {address address' : Address} (same : address' = address) (accepted : Bool) :
    (v.answerReady hub first address' accepted).1 = (w.answerReady f first address accepted).1 ∧
      Raised past (w.answerReady f first address accepted).2 (v.answerReady hub first address' accepted).2 := by
  subst same
  rw [Worker.answerReady, Worker.answerReady, like.request]
  split
  · split
    · have sent := raised.send w.request isReady
      generalize f.send w.request isReady = left, hub.send (w.request.raise past) isReady = right at sent
      cases sent with
      | error e => exact ⟨rfl, raised⟩
      | ok next => exact ⟨rfl, next⟩
    · exact ⟨rfl, raised.sendIfPossible _ _⟩
  · exact ⟨rfl, raised.sendIfPossible _ _⟩

end Hub.Raised

/-! ## Sessions -/

/-- Of a session behind a past, what it is without that. What was written to the adapter before is `sent`. -/
structure Session.Raised (past : Nat) (sent : List Json) (f s : Session) : Prop where
  hub : Hub.Raised past f.hub s.hub
  request : s.request = f.request.raise past
  header : s.header = f.header.raise past
  outbox : s.outbox = sent ++ f.outbox
  same : { s with hub := f.hub, request := f.request, header := f.header, publisher := f.publisher, outbox := f.outbox
                  transcript := f.transcript } = f

namespace Session.Raised

variable {past : Nat} {sent : List Json} {f s : Session} (raised : Raised past sent f s)

include raised

theorem of_hub {left right : Hub} (hub : Hub.Raised past left right) :
    Raised past sent { f with hub := left } { s with hub := right } :=
  ⟨hub, raised.request, raised.header, raised.outbox, (congrArg (fun s => { s with hub := left }) raised.same :)⟩

/-- Lines for the diagnostic file make no difference. -/
theorem note (left right : List String) : Raised past sent (f.note left) (s.note right) :=
  ⟨raised.hub, raised.request, raised.header, raised.outbox,
    (congrArg (fun s => { s with transcript := (f.note left).transcript }) raised.same :)⟩

/-- A session takes over the same from what its relay did. -/
theorem record (output : Relay.Output) : Raised past sent (f.record output) (s.record output) := by
  cases output with
  | write message =>
      obtain ⟨hub, request, header, outbox, same⟩ := raised.note [writtenLine message] [writtenLine message]
      refine ⟨hub, request, header, ?_, (congrArg (fun s => { s with outbox := f.outbox ++ [message] }) same :)⟩
      simp only [Session.record, raised.outbox, List.append_assoc]
  | unwritten message => exact raised.note _ _
  | observe event =>
      have threads : s.threads = f.threads := (congrArg Session.threads raised.same :)
      refine ⟨raised.hub, raised.request, raised.header, raised.outbox, ?_⟩
      have next := congrArg (fun s => { s with threads := f.threads.observe event }) raised.same
      simp only [Session.record, threads]
      exact next
  | reply message | publish header event => exact raised

end Session.Raised

/-! ## Turns -/

namespace Courier

/-- Of a courier behind a past, what it is without that. -/
def Raised (past : Nat) (f c : Courier) : Prop :=
  ∃ w, Worker.Raised past f.worker w ∧ c = { f with worker := w }

theorem raised_fresh (past : Nat) : Raised past fresh fresh :=
  ⟨.unconnected, ⟨rfl, rfl, rfl, rfl, nofun⟩, rfl⟩

variable {past : Nat} {sent : List Json} {f c : Courier} {t s : Session}

/-- What a turn makes of a courier and the session, with and without the past. -/
def Alike (past : Nat) (sent : List Json) (left right : Courier × Session × List Note) : Prop :=
  Raised past left.1 right.1 ∧ Session.Raised past sent left.2.1 right.2.1

section Turns

variable {w : Worker} (like : Worker.Raised past f.worker w) (raised : Session.Raised past sent t s)

include like raised

/-- A turn that does nothing does nothing for both. -/
theorem alike_still (notes notes' : List Note) : Alike past sent (f, t, notes) ({ f with worker := w }, s, notes') :=
  ⟨⟨w, like, rfl⟩, raised⟩

/-- Both workers find their endpoints, or both end. -/
theorem alike_embark :
    Alike past sent (f.embark t.hub, t, []) (({ f with worker := w } : Courier).embark s.hub, s, []) := by
  have connected := raised.hub.connect
  rw [embark, embark]
  generalize Worker.connect t.hub = left, Worker.connect s.hub = right at connected
  cases connected with
  | error e => exact ⟨⟨w, like, rfl⟩, raised⟩
  | ok connected => exact ⟨⟨_, connected, rfl⟩, raised⟩

/-- Both take the same first frame. -/
theorem alike_greet : Alike past sent (f.greet t) (({ f with worker := w } : Courier).greet s) := by
  have received := raised.hub.receive f.worker.request
  have address : s.address = t.address := (congrArg Session.address raised.same :)
  simp only [greet, like.request]
  generalize t.hub.receive f.worker.request = left, s.hub.receive (f.worker.request.raise past) = right at received
  cases received with
  | error e => exact ⟨⟨w, like, rfl⟩, raised⟩
  | @ok a b related =>
      obtain ⟨got, left⟩ := a
      obtain ⟨got', right⟩ := b
      obtain ⟨same, hub⟩ := related
      cases same
      cases got with
      | none => exact ⟨⟨w, like, rfl⟩, raised⟩
      | some first =>
          obtain ⟨told, answered⟩ := hub.answerReady like first address false
          simp only [told]
          split
          · exact ⟨⟨w, like, rfl⟩, raised.of_hub hub⟩
          · exact ⟨⟨w, like, rfl⟩, raised.of_hub answered⟩

/-- The adapter meets both in the same way. -/
theorem alike_dial (met : Met) : Alike past sent ((f.dial t met).1, (f.dial t met).2, [])
    ((({ f with worker := w } : Courier).dial s met).1, (({ f with worker := w } : Courier).dial s met).2, []) := by
  have address : s.address = t.address := (congrArg Session.address raised.same :)
  cases met with
  | reached | unusable e => exact ⟨⟨w, like, rfl⟩, raised⟩
  | refused =>
      obtain ⟨told, answered⟩ := raised.hub.answerReady like askReady address false
      simp only [dial, told]
      exact ⟨⟨w, like, rfl⟩, raised.of_hub answered⟩

/-- Both say that they are ready, or find the control side gone. -/
theorem alike_acknowledge : Alike past sent ((f.acknowledge t).1, (f.acknowledge t).2, [])
    ((({ f with worker := w } : Courier).acknowledge s).1,
      (({ f with worker := w } : Courier).acknowledge s).2, []) := by
  have address : s.address = t.address := (congrArg Session.address raised.same :)
  obtain ⟨told, answered⟩ := raised.hub.answerReady like askReady address true
  simp only [acknowledge]
  generalize f.worker.answerReady t.hub askReady t.address true = left,
    w.answerReady s.hub askReady s.address true = right at told answered
  obtain ⟨_ | _, left⟩ := left <;> obtain ⟨_ | _, right⟩ := right <;> cases told <;>
    exact ⟨⟨w, like, rfl⟩, raised.of_hub answered⟩

/-- Both read the same off the adapter. -/
theorem alike_hear (a : Arrival) : Alike past sent ((f.hear t a).1, (f.hear t a).2, [.heard a])
    ((({ f with worker := w } : Courier).hear s a).1, (({ f with worker := w } : Courier).hear s a).2, [.heard a]) := by
  cases a with
  | message v => exact ⟨⟨w, like, rfl⟩, raised.note _ _⟩
  | lost => exact ⟨⟨w, like, rfl⟩, raised⟩

/-- Both read the same frame of the control side, or learn that it is gone. -/
theorem alike_fetch : Alike past sent (f.fetch t) (({ f with worker := w } : Courier).fetch s) := by
  have received := raised.hub.receive f.worker.request
  simp only [fetch, like.request]
  generalize t.hub.receive f.worker.request = left, s.hub.receive (f.worker.request.raise past) = right at received
  cases received with
  | error e => exact ⟨⟨w, like, rfl⟩, raised⟩
  | @ok a b related =>
      obtain ⟨got, left⟩ := a
      obtain ⟨got', right⟩ := b
      obtain ⟨same, hub⟩ := related
      cases same
      cases got with
      | none => exact ⟨⟨w, like, rfl⟩, raised⟩
      | some first => exact ⟨⟨w, like, rfl⟩, raised.of_hub hub⟩

/-- Both relays take an input in the same way. -/
theorem alike_accept (written : Except Error Unit) (i : Relay.Input) :
    Raised past (f.accept t.hub written i).1 (({ f with worker := w } : Courier).accept s.hub written i).1 ∧
      Hub.Raised past (f.accept t.hub written i).2.1
        (({ f with worker := w } : Courier).accept s.hub written i).2.1 := by
  cases i with
  | request frame =>
      obtain ⟨taken, hub⟩ := raised.hub.takeHeaders like
      simp only [accept, taken.relay]
      exact ⟨⟨_, taken.of_relay _, rfl⟩, hub⟩
  | header frame | adapter v | adapterLost =>
      simp only [accept, like.relay]
      exact ⟨⟨_, like.of_relay _, rfl⟩, raised.hub⟩

/-- Both take what waits first in their inboxes. -/
theorem alike_relay (written : Except Error Unit) :
    Alike past sent (f.relay t written) (({ f with worker := w } : Courier).relay s written) := by
  obtain ⟨stage, worker, _ | ⟨i | _, inbox⟩, doing, listening, reading⟩ := f
  · exact ⟨⟨w, like, rfl⟩, raised⟩
  · obtain ⟨taken, hub⟩ := alike_accept (f := ⟨stage, worker, inbox, doing, listening, reading⟩) like raised written i
    exact ⟨taken, raised.of_hub hub⟩
  · exact ⟨⟨w, like, rfl⟩, raised⟩

/-- Both do the next thing that they have to do. -/
theorem alike_act : Alike past sent (f.act t) (({ f with worker := w } : Courier).act s) := by
  obtain ⟨stage, worker, inbox, _ | ⟨output, doing⟩, listening, reading⟩ := f
  · exact ⟨⟨w, like, rfl⟩, raised⟩
  · exact ⟨⟨w, like, rfl⟩, (raised.of_hub (raised.hub.emit like output)).record output⟩

end Turns

/-- A turn of a courier goes as it would without the past. -/
theorem Raised.take (like : Raised past f c) (raised : Session.Raised past sent t s) (turn : Turn) :
    Alike past sent (f.take t turn) (c.take s turn) := by
  obtain ⟨w, like, rfl⟩ := like
  have still := alike_still like raised [] []
  obtain ⟨stage, worker, inbox, doing, listening, reading⟩ := f
  cases turn with
  | embark =>
      cases stage with
      | new => exact alike_embark like raised
      | _ => exact still
  | greet =>
      cases stage with
      | greeting => exact alike_greet like raised
      | _ => exact still
  | dial met =>
      cases stage with
      | dialling => exact alike_dial like raised met
      | _ => exact still
  | acknowledge =>
      cases stage with
      | connected => exact alike_acknowledge like raised
      | _ => exact still
  | hear a =>
      simp only [Courier.take.eq_def]
      split
      · exact alike_hear like raised a
      · exact still
  | fetch =>
      simp only [Courier.take.eq_def]
      split
      · exact alike_fetch like raised
      · exact still
  | relay written =>
      cases stage with
      | relaying =>
          simp only [Courier.take]
          split
          · exact alike_relay like raised written
          · exact still
      | _ => exact still
  | act => exact alike_act like raised
  | finish =>
      cases stage with
      | closing result =>
          simp only [Courier.take]
          split
          · exact still
          · exact ⟨⟨w, like, rfl⟩, raised⟩
      | _ => exact still

end Courier

end DebugBridge
