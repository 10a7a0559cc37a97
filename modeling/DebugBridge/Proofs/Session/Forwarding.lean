import DebugBridge.Proofs.Session.Run

/-!
# Round trips

A message goes to the adapter in one round trip: a header frame and the message are sent, and frames are received up to
the one that ends the wait. `roundTrip_receives` says which frames these are, whatever waits in the queue and whatever
comes meanwhile, and that all behind them stay there for the next message. Every call that a running session passes on
is concluded with the result of its round trip (`finish_forward`).
-/

namespace DebugBridge

namespace Hub

/-- Frames are sent one after the other, each over a socket. -/
inductive Sends : Hub → List (Socket × Frame) → Hub → Prop where
  | nothing (hub : Hub) : Sends hub [] hub
  | frame {hub middle last : Hub} {s : Socket} {f : Frame} {others : List (Socket × Frame)}
      (first : hub.send s f = .ok middle) (further : Sends middle others last) : Sends hub ((s, f) :: others) last

/-- Frames are received one after the other at a socket. -/
inductive Receives (s : Socket) : Hub → List Frame → Hub → Prop where
  | nothing (hub : Hub) : Receives s hub [] hub
  | frame {hub middle last : Hub} {f : Frame} {others : List Frame}
      (first : hub.receive s = .ok (some f, middle)) (further : Receives s middle others last) :
      Receives s hub (f :: others) last

variable {hub : Hub} {s : Socket}

/-- A bound socket sends. -/
theorem exists_send_of_bound (bound : s.isBound = true) (hub : Hub) (f : Frame) : ∃ next, hub.send s f = .ok next := by
  match s with
  | some (.bound e b) => exact ⟨_, rfl⟩

/-- Leaving all that waits changes nothing. -/
theorem setWaiting_waiting (hub : Hub) (e : Endpoint) (b : Nat) :
    hub.setWaiting (some (.bound e b)) (hub.waiting (some (.bound e b))) = hub := by
  have same : hub.channels.modify b (fun c => { c with toOwner := (hub.channelsOf b).toOwner }) = hub.channels := by
    apply List.ext_getElem?
    intro i
    by_cases here : b = i
    · subst here
      cases found : hub.channels[b]? with
      | none => simp [found]
      | some c => simp [found, channelsOf]
    · simp [here]
  simp only [setWaiting, waiting, modify, same]

/-- The first frames that wait at a bound socket can be received, and the others wait on. -/
theorem receives_waiting (bound : s.isBound = true) {took left : List Frame} (queue : hub.waiting s = took ++ left) :
    hub.Receives s took (hub.setWaiting s left) ∧ (hub.setWaiting s left).waiting s = left := by
  match s with
  | some (.bound e b) =>
      induction took generalizing hub with
      | nil =>
          rw [List.nil_append] at queue
          rw [← queue, setWaiting_waiting]
          exact ⟨.nothing hub, rfl⟩
      | cons f took ih =>
          have inRange : b < hub.channels.length := by
            by_contra beyond
            have nothing : hub.channels[b]? = none := List.getElem?_eq_none (Nat.le_of_not_lt beyond)
            simp [waiting, channelsOf, nothing] at queue
          let next := hub.modify b fun c => { c with toOwner := took ++ left }
          have first : hub.receive (some (.bound e b)) = .ok (some f, next) := by
            have front : (hub.channelsOf b).toOwner = f :: (took ++ left) := queue
            simp only [receive, front]
            rfl
          have rest : next.waiting (some (.bound e b)) = took ++ left := by
            simp only [waiting, next, channelsOf_modify _ _ inRange]
          have last : next.setWaiting (some (.bound e b)) left = hub.setWaiting (some (.bound e b)) left := by
            simp [next, setWaiting, modify, List.modify_modify_eq, Function.comp_def]
          obtain ⟨further, waits⟩ := ih rest
          rw [last] at further waits
          exact ⟨.frame first further, waits⟩

end Hub

namespace Session

/-! ## Waiting for a reply -/

/-- A reply is one to a message: it has the message's number and its command. -/
def Matches (message reply : Json) : Prop :=
  reply.getInt? "request_seq" = message.getInt? "seq" ∧ reply.getString? "command" = message.getString? "command"

/-- A frame is passed over in the wait for the reply to a message: it has a value that is none. -/
def PassedOver (message : Json) (f : Frame) : Prop :=
  ∃ reply, Json.decode f = .ok reply ∧ ¬ Matches message reply

/-- How the wait for the reply to a message ends, by the frames that were taken until then and those that were left. -/
inductive AwaitedAs (message : Json) (time : Duration) : List Frame → List Frame → Except Error Json → Prop where
  /-- The last frame taken is the first that has the reply. -/
  | replied {skipped left : List Frame} {f : Frame} {reply : Json} (others : ∀ g ∈ skipped, PassedOver message g)
      (read : Json.decode f = .ok reply) (isReply : Matches message reply) :
      AwaitedAs message time (skipped ++ [f]) left (.ok reply)
  /-- The last frame taken has no value. -/
  | unreadable {skipped left : List Frame} {f : Frame} {e : Json.ReadError}
      (others : ∀ g ∈ skipped, PassedOver message g) (refused : Json.decode f = .error e) :
      AwaitedAs message time (skipped ++ [f]) left (.error (.json e))
  /-- All frames are taken, and the time is over. -/
  | timedOut {took : List Frame} (others : ∀ g ∈ took, PassedOver message g) :
      AwaitedAs message time took [] (.error (.timeout time))

variable {message : Json} {time : Duration}

/-- A reply belongs to a message if it has its number and its command. -/
theorem isReplyTo_iff {reply : Json} : isReplyTo message reply = true ↔ Matches message reply := by
  simp [isReplyTo, Matches]

/-- A frame that belongs to another message is dropped. -/
theorem AwaitedAs.skip {f : Frame} {took left : List Frame} {result : Except Error Json}
    (other : PassedOver message f) (awaited : AwaitedAs message time took left result) :
    AwaitedAs message time (f :: took) left result := by
  cases awaited with
  | replied others read isReply => exact .replied (List.forall_mem_cons.mpr ⟨other, others⟩) read isReply
  | unreadable others refused => exact .unreadable (List.forall_mem_cons.mpr ⟨other, others⟩) refused
  | timedOut others => exact .timedOut (List.forall_mem_cons.mpr ⟨other, others⟩)

/-- Frames are taken up to the one that ends the wait. -/
theorem awaitReply_cases (message : Json) (time : Duration) (frames : List Frame) :
    ∃ took left result, awaitReply message time frames = (result, left) ∧ frames = took ++ left ∧
      AwaitedAs message time took left result := by
  have none : ∀ g ∈ ([] : List Frame), PassedOver message g := by simp
  induction frames with
  | nil => exact ⟨[], [], _, rfl, rfl, .timedOut none⟩
  | cons f frames ih =>
      rw [awaitReply]
      split
      · next e refused => exact ⟨[f], frames, _, rfl, rfl, .unreadable none refused⟩
      · next reply read =>
          split
          · next isReply => exact ⟨[f], frames, _, rfl, rfl, .replied none read (isReplyTo_iff.mp isReply)⟩
          · next other =>
              obtain ⟨took, left, result, awaits, split, awaited⟩ := ih
              refine ⟨f :: took, left, result, awaits, congrArg (f :: ·) split, ?_⟩
              exact awaited.skip ⟨reply, read, mt isReplyTo_iff.mpr other⟩

theorem collect_of_awaitReply {s : Session} {left : List Frame} {result : Except Error Json}
    (awaits : awaitReply message s.settings.forwardTime (s.hub.waiting s.request) = (result, left)) :
    s.collect message = (result, { s with hub := s.hub.setWaiting s.request left }) := by
  rw [collect, awaits]

/-! ## Whole round trips -/

/-- A message goes to the adapter under a header, and what comes of it is awaited while other things happen. -/
def roundTrip (s : Session) (header message : Json) (meanwhile : Session → Session) : Except Error Json × Session :=
  match s.submit header message with
  | .error e => (.error e, s)
  | .ok s => (meanwhile s).collect message

/-- What a round trip sends and receives. -/
inductive RoundTripAs (s : Session) (header message : Json) (meanwhile : Session → Session) :
    Except Error Json × Session → Prop where
  /-- Nothing, as the socket of the messages is not bound. The session stays as it is. -/
  | refused (unbound : s.request.isBound = false) : RoundTripAs s header message meanwhile (.error .notStarted, s)
  /-- It sends the header and then the message, and nothing else. Of the frames that are there or have come meanwhile
  it receives some from the front and leaves the others. -/
  | made {sent after : Hub} {later : Session} {took left : List Frame} {result : Except Error Json}
      (bound : s.request.isBound = true)
      (sends : s.hub.Sends [(s.header, Json.encode header), (s.request, Json.encode message)] sent)
      (waits : meanwhile { s with hub := sent }.serve = later) (queue : later.hub.waiting s.request = took ++ left)
      (receives : later.hub.Receives s.request took after) (leaves : after.waiting s.request = left)
      (ends : AwaitedAs message s.settings.forwardTime took left result) :
      RoundTripAs s header message meanwhile (result, { later with hub := after })

/-- What happens in the course of a round trip leaves the session's own socket and its settings alone. -/
structure Bides (meanwhile : Session → Session) : Prop where
  request (s : Session) : (meanwhile s).request = s.request
  settings (s : Session) : (meanwhile s).settings = s.settings

/-- What arrives comes behind what waits. -/
theorem bides_arrivals (arrivals : List Arrival) : Bides (arrivals.foldl arrive ·) :=
  ⟨fun s => (s.keeps_arrivals arrivals).request, fun s => (s.keeps_arrivals arrivals).settings⟩

/-- A sound session has bound the socket of the headers if it has bound that of the messages. -/
theorem Sound.header_isBound {s : Session} (sound : s.Sound) (bound : s.request.isBound = true) :
    s.header.isBound = true := by
  cases running : s.worker with
  | none => simp [sound.worker_eq_none_iff.mp running] at bound
  | some w =>
      obtain ⟨q, h, sockets, -⟩ := sound.running w running
      rw [sockets.header]
      rfl

/-- A running session concludes what it passes on with the result of the round trip. -/
theorem finish_forward {σ : Type} (out : Outside σ) {s : Session} (sound : s.Sound) (running : s.worker ≠ none)
    (header : Json) (early arrivals : List Arrival) (call : Call) (meanwhile : σ → σ) (o : σ) :
    (arrivals.foldl arrive (s.forward out header early call o).2.1).finish out
        (s.forward out header early call o).1 (meanwhile (s.forward out header early call o).2.2) =
      ((early.foldl arrive s).roundTrip header call.sent (arrivals.foldl arrive ·)).2.conclude out call
        ((early.foldl arrive s).roundTrip header call.sent (arrivals.foldl arrive ·)).1 (meanwhile o) := by
  rcases forward_cases out sound header early call o with ⟨stopped, -⟩ | ⟨-, next, passed, forwarded⟩
  · exact absurd stopped running
  · rw [forwarded, roundTrip, passed]
    rfl

/-- A round trip of a session whose header socket is bound whenever its request socket is. Without a binding it is
refused, and nothing is sent. Otherwise exactly two frames are sent, and exactly those are received that end with the
first that has the reply or no value, or all there are, if none does; the whole time of the settings is then over. -/
theorem roundTrip_receives {s : Session} (paired : s.request.isBound = true → s.header.isBound = true)
    (header message : Json) {meanwhile : Session → Session} (bides : Bides meanwhile) :
    RoundTripAs s header message meanwhile (s.roundTrip header message meanwhile) := by
  cases bound : s.request.isBound with
  | false =>
      have refused : s.submit header message = .error .notStarted := by simp [submit, bound]
      rw [roundTrip, refused]
      exact .refused bound
  | true =>
      obtain ⟨first, headerSent⟩ := Hub.exists_send_of_bound (paired bound) s.hub (Json.encode header)
      obtain ⟨second, messageSent⟩ := Hub.exists_send_of_bound bound first (Json.encode message)
      have passed : s.submit header message = .ok { s with hub := second }.serve := by
        simp [submit, bound, headerSent, messageSent]
      have served := keeps_serve { s with hub := second }
      obtain ⟨later, waits⟩ : ∃ later, meanwhile { s with hub := second }.serve = later := ⟨_, rfl⟩
      have request : later.request = s.request := waits ▸ (bides.request _).trans served.request
      have settings : later.settings = s.settings := waits ▸ (bides.settings _).trans served.settings
      obtain ⟨took, left, result, awaits, queue, ends⟩ :=
        awaitReply_cases message later.settings.forwardTime (later.hub.waiting later.request)
      have collected := collect_of_awaitReply awaits
      obtain ⟨receives, leaves⟩ := Hub.receives_waiting (request ▸ bound) queue
      generalize later.hub.setWaiting later.request left = after at collected receives leaves
      rw [request] at queue receives leaves
      rw [settings] at ends
      rw [roundTrip, passed]
      simp only [waits, collected]
      exact .made bound (.frame headerSent (.frame messageSent (.nothing second))) waits queue receives leaves ends

section Sample

/-- What comes while the message of the sample is out: a late response to another command, its own response, and
one more behind it. -/
def responsesAround : List Arrival :=
  [.message (bareResponse 3 "stepIn"), .message (bareResponse 3 "next"), .message (bareResponse 2 "next")]

/-- The round trip of a message of the running sample. -/
def sampleRoundTrip : Except Error Json × Session :=
  runningSample.roundTrip .null (bareRequest 3 "next") (responsesAround.foldl arrive ·)

/-- It passes over the late response, gets its own, and leaves the one behind it. -/
theorem roundTrip_receives_runningSample :
    runningSample.RoundTripAs .null (bareRequest 3 "next") (responsesAround.foldl arrive ·) sampleRoundTrip ∧
      sampleRoundTrip.1 = .ok (bareResponse 3 "next") ∧
      sampleRoundTrip.2.hub.waiting runningSample.request = [Json.encode (bareResponse 2 "next")] :=
  ⟨roundTrip_receives (reachable_runningSample fun _ _ => False).sound.header_isBound .null _
    (bides_arrivals responsesAround), by decide +kernel, by decide +kernel⟩

end Sample

end Session
end DebugBridge
