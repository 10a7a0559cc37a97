import DebugBridge.Proofs.Json.Decoded
import DebugBridge.Proofs.Json.Depth
import DebugBridge.Proofs.Session.Correlation
import DebugBridge.Proofs.Wire.RoundTrip

/-!
# Events on their way to the kernel

An event is put into one more object, next to the header that it is published under, and is read once more when the
kernel takes it. The reader goes equally deep both times. `delivers_event` says what that comes to: the frame of an
event is always the next one that the worker publishes, but the kernel gets the event out of it exactly if one more
container fits around the event.
-/

namespace DebugBridge

/-- An object none of whose members holds others. -/
def Json.Flat (v : Json) : Prop :=
  ∃ members, v = .obj members ∧ ∀ m ∈ members, m.2.depth = 0

theorem Json.Flat.depth_le {v : Json} (flat : v.Flat) : v.depth ≤ 1 := by
  obtain ⟨members, rfl, scalars⟩ := flat
  rw [Json.depth, Nat.add_le_add_iff_right, Json.depthMembers_le_iff]
  intro m member
  rw [scalars m member]

namespace Relay

/-! ## The frame of an event -/

/-- What is published of an event. -/
def envelope (header event : Json) : Json :=
  .obj [("content", event), ("header", header)]

/-- An event is published in an envelope with its header. -/
theorem eventFrame_eq (header event : Json) : eventFrame header event = Json.encode (envelope header event) := by
  have order : ¬ "content" = "header" ∧ "content" < "header" := by decide
  simp [eventFrame, envelope, Json.ofMembers, Members.ofList, Members.insert, order]

section Envelope

variable {header event back : Json}

theorem sorted_envelope (header event : Json) : Members.Sorted [("content", event), ("header", header)] := by
  have order : "content" < "header" := by decide
  simpa [Members.Sorted] using order

/-- An envelope is as well formed as what is in it. -/
theorem wellFormed_envelope (headerFormed : header.WellFormed) (eventFormed : event.WellFormed) :
    (envelope header event).WellFormed :=
  ⟨sorted_envelope header event, eventFormed, headerFormed, trivial⟩

/-- The envelope goes one container deeper than the event. -/
theorem depth_envelope (flat : header.Flat) (nested : 1 ≤ event.depth) :
    (envelope header event).depth = event.depth + 1 := by
  have shallow := flat.depth_le
  simp only [envelope, Json.depth, Json.depthMembers]
  omega

/-- An event that leaves room for one more container is read out of its frame again. -/
theorem decode_eventFrame (headerFormed : header.WellFormed) (flat : header.Flat)
    (readable : Json.decode (Json.encode header) = .ok back) (exact : event.Exact Json.depthLimit)
    (nested : 1 ≤ event.depth) (room : event.depth < Json.depthLimit) :
    Json.decode (eventFrame header event) = .ok (envelope back event) := by
  have fits : (envelope header event).Shaped Json.depthLimit := by
    refine ⟨wellFormed_envelope headerFormed exact.1.1, ?_⟩
    rw [depth_envelope flat nested]
    exact room
  have headerFits : header.Shaped Json.depthLimit :=
    ⟨headerFormed, Nat.le_trans flat.depth_le (by decide)⟩
  rw [Json.decode_encode headerFits] at readable
  rw [eventFrame_eq, Json.decode_encode fits]
  simp only [envelope, Json.reread, Json.rereadMembers, Json.reread_eq_self exact.1.1 exact.2, readable, Except.map,
    Json.ofMembers, Members.ofList_eq_self (sorted_envelope back event)]

/-- An event that nests as deep as the reader goes is not. -/
theorem decode_eventFrame_of_full (headerFormed : header.WellFormed) (flat : header.Flat)
    (eventFormed : event.WellFormed) (full : event.depth = Json.depthLimit) :
    ∃ e, Json.decode (eventFrame header event) = .error e := by
  cases read : Json.decode (eventFrame header event) with
  | error e => exact ⟨e, rfl⟩
  | ok got =>
      rw [eventFrame_eq] at read
      have fits := (Json.shaped_of_decode_encode (wellFormed_envelope headerFormed eventFormed) read).2
      rw [depth_envelope flat (by rw [full]; decide), full] at fits
      exact absurd fits (by decide)

end Envelope
end Relay

/-- An event of the adapter has the worker publish one frame, and nothing else goes over its sockets. -/
theorem Worker.handle_event {w : Worker} {event : Json}
    (kind : Kind.of? event = some .event) (hub : Hub) :
    (w.handle hub (.adapter event)).2.1 =
      sendIfPossible hub w.publisher (Relay.eventFrame w.relay.parent event) := by
  simp only [handle, react, Relay.react, Relay.onMessage, kind, Relay.onEvent]
  split
  · split <;> rfl
  · rfl

namespace Session

variable {σ : Type} {out : Outside σ} {untouched : Session → Nat → Prop} {s : Session} {w : Worker} {event : Json}

/-! ## The publisher -/

/-- An event that arrives waits for the kernel, behind those that came before it. -/
theorem Sound.arrive_event (sound : s.Sound) (running : s.worker = some w) (alive : w.relay.adapterAlive = true)
    (kind : Kind.of? event = some .event) :
    (s.arrive (.message event)).hub.waiting (s.arrive (.message event)).publisher =
      s.hub.waiting s.publisher ++ [Relay.eventFrame w.relay.parent event] := by
  obtain ⟨p, socket, registered⟩ := sound.publisher
  have inRange := sound.hub.inRange _ _ registered
  have connected := sound.attached w running p socket
  have live := sound.hub.live _ _ registered
  have published : (s.arrive (.message event)).hub =
      s.hub.modify p fun c => { c with toOwner := c.toOwner ++ [Relay.eventFrame w.relay.parent event] } := by
    obtain ⟨transcript, arrived⟩ := arrive_eq running alive (.message event)
    obtain ⟨transcript', after⟩ :=
      ({ s with transcript } : Session).afterWorker_eq (w.handle s.hub (Arrival.message event).input)
    rw [arrived, after]
    simp only [Arrival.input, Worker.handle_event kind, Worker.sendIfPossible, connected, Hub.send, live, if_true,
      Except.toOption, Option.getD_some]
  rw [(s.keeps_arrive (.message event)).publisher, published, socket]
  simp only [Hub.waiting, Hub.channelsOf_modify _ _ inRange]

/-- The kernel takes the first frame that waits, and reads it. -/
theorem Sound.nextEvent_eq (sound : s.Sound) {frame : Frame} {others : List Frame}
    (waits : s.hub.waiting s.publisher = frame :: others) (time : Duration) :
    (s.nextEvent time).1 = (Json.decode frame).mapError .json ∧
      (s.nextEvent time).2.hub.waiting (s.nextEvent time).2.publisher = others := by
  obtain ⟨p, socket, registered⟩ := sound.publisher
  have inRange := sound.hub.inRange _ _ registered
  rw [socket, Hub.waiting] at waits
  simp only [nextEvent, Hub.receiveWithin, socket, Hub.receive, waits]
  cases Json.decode frame <;> simp [Except.mapError, Hub.waiting, Hub.channelsOf_modify _ _ inRange]

/-! ## Delivery -/

/-- A message of a kind is an object. -/
theorem nested_of_kind {message : Json} {k : Kind} (kind : Kind.of? message = some k) : 1 ≤ message.depth := by
  obtain ⟨name, found, -⟩ := Option.bind_eq_some_iff.mp kind
  obtain ⟨members, rfl⟩ := object_of_get? (Json.get?_of_getString? found)
  exact Nat.le_add_left 1 _

/-- Every event that is read from the adapter's stream and arrives while the adapter is not lost is published, in one
frame of its own that waits behind those before it, under a header that is a flat object. Once the frame is the first
one, the kernel takes it, whatever has happened in between; it gets the event out of it, with the header, exactly if
the event nests less deep than the reader goes. An event that nests as deep as the reader goes is lost there. -/
theorem delivers_event {o : σ} (reachable : Reachable out untouched s o) (running : s.worker = some w)
    (alive : w.relay.adapterAlive = true) {stream rest : Bytes} (read : Wire.read stream = .ok (some (event, rest)))
    (kind : Kind.of? event = some .event) (floatFree : event.FloatFree) {back : Json}
    (formed : w.relay.parent.WellFormed) (flat : w.relay.parent.Flat)
    (readable : Json.decode (Json.encode w.relay.parent) = .ok back) :
    (s.arrive (.message event)).hub.waiting (s.arrive (.message event)).publisher =
        s.hub.waiting s.publisher ++ [Relay.eventFrame w.relay.parent event] ∧
      ∀ (later : Session) (o' : σ) (others : List Frame) (time : Duration), Reachable out untouched later o' →
        later.hub.waiting later.publisher = Relay.eventFrame w.relay.parent event :: others →
        (later.nextEvent time).2.hub.waiting (later.nextEvent time).2.publisher = others ∧
          (event.depth < Json.depthLimit → ∃ got, (later.nextEvent time).1 = .ok got ∧
            got.get? "content" = some event ∧ got.get? "header" = some back) ∧
          (¬ event.depth < Json.depthLimit →
            event.depth = Json.depthLimit ∧ ∃ e, (later.nextEvent time).1 = .error (.json e)) := by
  have shaped := Wire.shape_of_read read
  have nested := nested_of_kind kind
  refine ⟨reachable.sound.arrive_event running alive kind, fun later o' others time reached waits => ?_⟩
  obtain ⟨outcome, left⟩ := reached.sound.nextEvent_eq waits time
  rw [outcome]
  refine ⟨left, fun room => ?_, fun noRoom => ?_⟩
  · rw [Relay.decode_eventFrame formed flat readable ⟨shaped, floatFree⟩ nested room]
    exact ⟨Relay.envelope back event, rfl, rfl, rfl⟩
  · have full : event.depth = Json.depthLimit := Nat.le_antisymm shaped.2 (Nat.le_of_not_lt noRoom)
    obtain ⟨e, refused⟩ := Relay.decode_eventFrame_of_full formed flat shaped.1 full
    rw [refused]
    exact ⟨full, e, rfl⟩

/-- Empty rows, one within the other. -/
def rowsWithin : Nat → Json
  | 0 => .arr []
  | n + 1 => .arr [rowsWithin n]

/-- Rows within rows are as deep as there are rows. -/
theorem depth_rowsWithin (n : Nat) : (rowsWithin n).depth = n + 1 := by
  induction n with
  | zero => rfl
  | succ n ih => simp [rowsWithin, Json.depth, Json.depthItems, ih]

theorem exact_rowsWithin (n : Nat) : (rowsWithin n).WellFormed ∧ (rowsWithin n).FloatFree := by
  induction n with
  | zero => exact ⟨trivial, trivial⟩
  | succ n ih => exact ⟨⟨ih.1, trivial⟩, ⟨ih.2, trivial⟩⟩

/-- An event that tells of such rows. -/
def nestedEvent (n : Nat) : Json :=
  .obj [("body", rowsWithin n), ("event", .str "output"), ("seq", .int 1), ("type", .str "event")]

theorem depth_nestedEvent (n : Nat) : (nestedEvent n).depth = n + 2 := by
  simp [nestedEvent, Json.depth, Json.depthMembers, depth_rowsWithin]

/-- The nested event comes through as long as it is not too deep. -/
theorem exact_nestedEvent {n : Nat} (fits : n + 2 ≤ Json.depthLimit) : (nestedEvent n).Exact Json.depthLimit := by
  obtain ⟨formed, floatFree⟩ := exact_rowsWithin n
  have sorted : Members.Sorted [("body", rowsWithin n), ("event", .str "output"), ("seq", .int 1),
      ("type", .str "event")] := by
    have keys : ["body", "event", "seq", "type"].Pairwise (· < ·) := by decide
    exact List.pairwise_map.mp keys
  refine ⟨⟨⟨sorted, formed, trivial, by decide, trivial, trivial⟩, ?_⟩, floatFree, trivial, trivial, trivial, trivial⟩
  rw [depth_nestedEvent]
  exact fits

/-- The sample when it has passed on a first request. -/
def headedSample : Session :=
  (runningSample.next obliging () (.process (.obj [("msg_id", .str "1")]) (bareRequest 1 "next") [] [] id)).1

/-- The headed sample is a running session that was given a header. -/
theorem reachable_headedSample (untouched : Session → Nat → Prop) : Reachable obliging untouched headedSample () :=
  .step (reachable_runningSample untouched) (.process _ _ [] [] id) ⟨by decide, nofun, nofun⟩

/-- The deepest event that is read from a stream is published and lost. -/
theorem delivers_event_deepest :
    Wire.read (Wire.write (nestedEvent 125)) = .ok (some (nestedEvent 125, [])) ∧
      (headedSample.arrive (.message (nestedEvent 125))).hub.waiting headedSample.publisher =
        [Relay.eventFrame (.obj [("msg_id", .str "1")]) (nestedEvent 125)] ∧
      ∃ e, ((headedSample.arrive (.message (nestedEvent 125))).nextEvent Settings.default.forwardTime).1 =
        .error (.json e) := by
  have exact := exact_nestedEvent (n := 125) (by decide)
  have read : Wire.read (Wire.write (nestedEvent 125)) = .ok (some (nestedEvent 125, [])) := by
    have fits : (Json.encode (nestedEvent 125)).length < 2 ^ 64 := by decide +kernel
    simpa using Wire.read_write exact fits []
  have flat : Json.Flat (.obj [("msg_id", .str "1")]) := ⟨_, rfl, by decide⟩
  have readable : Json.decode (Json.encode (.obj [("msg_id", .str "1")])) = .ok (.obj [("msg_id", .str "1")]) :=
    Json.decode_encode_of_exact ⟨⟨by decide, by decide⟩, by decide⟩
  have worker : headedSample.worker.map (fun w => (w.relay.parent, w.relay.adapterAlive)) =
      some (.obj [("msg_id", .str "1")], true) := by decide +kernel
  obtain ⟨w, running, relay⟩ := Option.map_eq_some_iff.mp worker
  obtain ⟨parent, alive⟩ := Prod.mk.inj relay
  have kind : Kind.of? (nestedEvent 125) = some .event := by decide
  have silent : headedSample.hub.waiting headedSample.publisher = [] := by decide +kernel
  have formed : Json.WellFormed (.obj [("msg_id", .str "1")]) := by decide
  rw [← parent] at flat readable formed
  have reachable := reachable_headedSample fun _ _ => False
  obtain ⟨queued, taken⟩ := delivers_event reachable running alive read kind exact.2 formed flat readable
  rw [silent, List.nil_append, parent] at queued
  have arrived : Reachable obliging (fun _ _ => False) (headedSample.arrive (.message (nestedEvent 125))) () :=
    .step reachable (.arrive (.message (nestedEvent 125))) ⟨_, Json.decode_encode_of_exact exact⟩
  rw [parent] at taken
  obtain ⟨-, -, lost⟩ := taken _ _ _ Settings.default.forwardTime arrived queued
  have publisher := (headedSample.keeps_arrive (.message (nestedEvent 125))).publisher
  refine ⟨read, publisher ▸ queued, (lost ?_).2⟩
  rw [depth_nestedEvent]
  decide

end Session
end DebugBridge
