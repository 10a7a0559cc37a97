import DebugBridge.Proofs.Relay.Worker
import DebugBridge.Session.Call

/-!
# What a session keeps

Serving requests, taking what the adapter sends and looking for a reply move frames and messages. Neither
touches the session's sockets, the endpoints that are bound, or whether there is a worker (`Keeps`). Messages
for the adapter come behind those that it has not taken.
-/

namespace DebugBridge

/-- The sockets of a worker. -/
def Worker.sockets (w : Worker) : Socket × Socket × Socket :=
  (w.request, w.header, w.publisher)

/-- A worker keeps its sockets for as long as it lives. -/
theorem Worker.Keeps.sockets {before after : Worker × Hub} (keeps : Worker.Keeps before after) :
    after.1.sockets = before.1.sockets := by
  simp only [Worker.sockets, keeps.request, keeps.header, keeps.publisher]

namespace Session

variable {s : Session}

theorem isStarted_eq_true_iff : s.isStarted = true ↔ s.worker ≠ none := by
  rw [isStarted, Option.isSome_iff_ne_none]

theorem isStarted_eq_false_iff : s.isStarted = false ↔ s.worker = none := by
  rw [isStarted, Option.isSome_eq_false_iff, Option.isNone_iff_eq_none]

theorem isStarted_of_running {w : Worker} (running : s.worker = some w) : s.isStarted = true := by
  rw [isStarted, running]
  rfl

/-- Two states of a session that differ in no more than frames, the relay, messages for the adapter, the
diagnostic file and, if there is a worker, the threads. -/
structure Keeps (before after : Session) : Prop where
  kernel : after.kernel = before.kernel
  settings : after.settings = before.settings
  address : after.address = before.address
  config : after.config = before.config
  launch : after.launch = before.launch
  request : after.request = before.request
  header : after.header = before.header
  publisher : after.publisher = before.publisher
  breakpoints : after.breakpoints = before.breakpoints
  hub : before.hub.Moved after.hub
  worker : after.worker.map Worker.sockets = before.worker.map Worker.sockets
  threads : before.worker = none → after.threads = before.threads

theorem Keeps.refl (s : Session) : Keeps s s :=
  ⟨rfl, rfl, rfl, rfl, rfl, rfl, rfl, rfl, rfl, .refl s.hub, rfl, fun _ => rfl⟩

/-- What keeps a session keeps it started, or not started. -/
theorem Keeps.isStarted {before after : Session} (keeps : Keeps before after) :
    after.isStarted = before.isStarted := by
  have worker := congrArg Option.isSome keeps.worker
  simpa [Session.isStarted] using worker

/-- What keeps a session makes no worker and ends none. -/
theorem Keeps.worker_eq_none_iff {before after : Session} (keeps : Keeps before after) :
    after.worker = none ↔ before.worker = none := by
  have same := keeps.isStarted
  rw [← isStarted_eq_false_iff, ← isStarted_eq_false_iff, same]

theorem Keeps.trans {first middle last : Session} (left : Keeps first middle) (right : Keeps middle last) :
    Keeps first last where
  kernel := right.kernel.trans left.kernel
  settings := right.settings.trans left.settings
  address := right.address.trans left.address
  config := right.config.trans left.config
  launch := right.launch.trans left.launch
  request := right.request.trans left.request
  header := right.header.trans left.header
  publisher := right.publisher.trans left.publisher
  breakpoints := right.breakpoints.trans left.breakpoints
  hub := left.hub.trans right.hub
  worker := right.worker.trans left.worker
  threads := fun idle => (right.threads (left.worker_eq_none_iff.mpr idle)).trans (left.threads idle)

/-! ## The worker's doings -/

/-- Of what the relay did, a session takes over the messages for the adapter and the events. What the diagnostic
file gets is left open. -/
theorem foldl_record (outputs : List Relay.Output) (s : Session) :
    ∃ transcript, outputs.foldl record s =
      { s with outbox := s.outbox ++ outputs.filterMap Relay.Output.written?
               threads := (outputs.filterMap Relay.Output.event?).foldl Threads.observe s.threads
               transcript } := by
  induction outputs generalizing s with
  | nil => exact ⟨s.transcript, by simp⟩
  | cons o outputs ih =>
      obtain ⟨transcript, rest⟩ := ih (s.record o)
      refine ⟨transcript, ?_⟩
      rw [List.foldl_cons, rest]
      cases o <;> simp [record, note, Relay.Output.written?, Relay.Output.event?, List.filterMap_cons]

/-- The session after its worker did something, but for the diagnostic file. -/
theorem afterWorker_eq (s : Session) (done : Worker × Hub × List Relay.Output) :
    ∃ transcript, s.afterWorker done =
      { s with worker := some done.1, hub := done.2.1
               outbox := s.outbox ++ done.2.2.filterMap Relay.Output.written?
               threads := (done.2.2.filterMap Relay.Output.event?).foldl Threads.observe s.threads
               transcript } :=
  foldl_record done.2.2 _

/-- A session keeps all but what its worker did. -/
theorem keeps_afterWorker {w : Worker} (running : s.worker = some w)
    {done : Worker × Hub × List Relay.Output} (keeps : Worker.Keeps (w, s.hub) (done.1, done.2.1)) :
    Keeps s (s.afterWorker done) := by
  obtain ⟨transcript, after⟩ := s.afterWorker_eq done
  rw [after]
  refine ⟨rfl, rfl, rfl, rfl, rfl, rfl, rfl, rfl, rfl, keeps.hub, ?_, ?_⟩
  · rw [running]
    exact congrArg some keeps.sockets
  · intro idle
    rw [running] at idle
    cases idle

/-- A worker that takes requests keeps its session. -/
theorem keeps_serve (s : Session) : Keeps s s.serve := by
  rw [serve]
  cases running : s.worker with
  | none => exact Keeps.refl s
  | some w => exact keeps_afterWorker running (Worker.keeps_serve w s.hub)

theorem keeps_note (s : Session) (lines : List String) : Keeps s (s.note lines) :=
  ⟨rfl, rfl, rfl, rfl, rfl, rfl, rfl, rfl, rfl, .refl s.hub, rfl, fun _ => rfl⟩

/-- So does one that handles what arrives. -/
theorem keeps_arrive (s : Session) (a : Arrival) : Keeps s (s.arrive a) := by
  rw [arrive.eq_def]
  cases running : s.worker with
  | none => exact Keeps.refl s
  | some w =>
      simp only
      split
      · cases a with
        | message v =>
            have noted := s.keeps_note [receivedLine v]
            have still : (s.note [receivedLine v]).worker = some w := running
            exact noted.trans (keeps_afterWorker still (Worker.keeps_onArrival w _ _))
        | lost => exact keeps_afterWorker running (Worker.keeps_onArrival w s.hub .lost)
      · exact Keeps.refl s

/-- So does one that handles any row of arrivals. -/
theorem keeps_arrivals (s : Session) (arrivals : List Arrival) : Keeps s (arrivals.foldl arrive s) := by
  induction arrivals generalizing s with
  | nil => exact Keeps.refl s
  | cons a arrivals ih => exact (s.keeps_arrive a).trans (ih (s.arrive a))

/-- Other frames on the hub change nothing that a session keeps. -/
theorem keeps_of_hub (s : Session) {hub : Hub} (moved : s.hub.Moved hub) : Keeps s { s with hub } :=
  ⟨rfl, rfl, rfl, rfl, rfl, rfl, rfl, rfl, rfl, moved, rfl, fun _ => rfl⟩

/-- Passing a message on keeps the session. -/
theorem keeps_submit {header message : Json} {next : Session}
    (passed : s.submit header message = .ok next) : Keeps s next := by
  rw [submit] at passed
  split at passed
  · split at passed
    · cases passed
    · next first sentHeader =>
        split at passed
        · cases passed
        · next second sentMessage =>
            cases passed
            have moved : Keeps s { s with hub := second } :=
              s.keeps_of_hub ((Hub.moved_send sentHeader).trans (Hub.moved_send sentMessage))
            exact moved.trans (keeps_serve _)
  · cases passed

/-- Looking for a reply keeps the session. -/
theorem keeps_collect (s : Session) (message : Json) : Keeps s (s.collect message).2 := by
  exact s.keeps_of_hub (Hub.moved_setWaiting s.hub s.request _)

theorem keeps_takeOutbox (s : Session) : Keeps s s.takeOutbox.2 :=
  ⟨rfl, rfl, rfl, rfl, rfl, rfl, rfl, rfl, rfl, .refl s.hub, rfl, fun _ => rfl⟩

/-- Taking an event off the publisher keeps the session. -/
theorem keeps_nextEvent (s : Session) (time : Duration) : Keeps s (s.nextEvent time).2 := by
  rw [nextEvent]
  split
  · exact Keeps.refl s
  · next frame hub received =>
      have moved : Keeps s { s with hub } := by
        rw [Hub.receiveWithin] at received
        split at received
        · next read =>
            cases received
            exact s.keeps_of_hub (Hub.moved_receive read)
        · cases received
        · cases received
      simp only
      split <;> exact moved

end Session
end DebugBridge
