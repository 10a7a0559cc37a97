import DebugBridge.Proofs.Hub.Delivery

/-!
# Who holds the ends

Each way of a binding has ends at which frames go in and ends at which they come out. A socket holds one of each, and so
does the registry for every endpoint that is bound: the ends of a socket that would connect to it. An operation
depends on the other parties only through the ends that they hold (`Agreed.send_done_iff`,
`Agreed.answer_cases`). `operations_fail_iff` says which operations fail, with which error, and that a
failure leaves everything as it was.
-/

namespace DebugBridge

/-! ## Errors of the hub -/

namespace Hub

variable {hub : Hub} {s : Socket} {e : Endpoint} {err : Error}

/-- A bind fails exactly if the socket has a link already or the endpoint is taken. -/
theorem bind_eq_error_iff : hub.bind s e = .error err ↔
    (∃ link, s = some link ∧ err = .addressInUse link.endpoint) ∨
      s = none ∧ hub.isBound e = true ∧ err = .addressInUse e := by
  cases s with
  | some link => simp [bind, @eq_comm _ err]
  | none => by_cases used : hub.isBound e = true <;> simp [bind, used, @eq_comm _ err]

/-- A connection fails exactly if nobody owns the endpoint. -/
theorem connect_eq_error_iff : hub.connect e = .error err ↔ hub.isBound e = false ∧ err = .endpointNotBound e := by
  rw [isBound_eq_false_iff]
  cases found : hub.registry.lookup e with
  | none => simp [connect, found, @eq_comm _ err]
  | some b => simp [connect, found]

/-- Only a connected socket can be copied. -/
theorem clone_eq_error_iff : s.clone = .error err ↔
    s = none ∧ err = .notConnected ∨ ∃ e b, s = some (.bound e b) ∧ err = .addressInUse e := by
  match s with
  | none => simp [Socket.clone, @eq_comm _ err]
  | some (.bound e b) => simp [Socket.clone, @eq_comm _ err]
  | some (.connected e b) => simp [Socket.clone]

/-- Sending fails exactly without a link, or to an owner that is gone. -/
theorem send_eq_error_iff {frame : Frame} : hub.send s frame = .error err ↔
    s = none ∧ err = .notConnected ∨
      ∃ e b, s = some (.connected e b) ∧ (hub.channelsOf b).live = false ∧ err = .disconnected e := by
  match s with
  | none => simp [send, @eq_comm _ err]
  | some (.bound e b) => simp [send]
  | some (.connected e b) => by_cases alive : (hub.channelsOf b).live = true <;> simp [send, alive, @eq_comm _ err]

end Hub

namespace Exchange

variable {x : Exchange} {s : Step} {n m : String} {e : Endpoint} {b : Nat} {link : Link} {r : Route}

/-! ## Ends -/

/-- Links that some party holds: a socket, or the registry, which keeps for every bound endpoint the link of those who
connect to it. -/
inductive Held (x : Exchange) : Link → Prop where
  | socket {n : String} {link : Link} (holds : x.socket n = some link) : Held x link
  | registry {e : Endpoint} {b : Nat} (found : x.hub.registry.lookup e = some b) : Held x (.connected e b)

/-- Somebody can receive what is sent over a route. -/
def Heard (x : Exchange) (r : Route) : Prop :=
  ∃ link, x.Held link ∧ link.inlet = r

/-- Somebody can still send over a route. -/
def Fed (x : Exchange) (r : Route) : Prop :=
  ∃ link, x.Held link ∧ link.outlet = r

/-- No socket is bound by a binding any more. -/
def Gone (x : Exchange) (b : Nat) : Prop :=
  ∀ n e, x.socket n ≠ some (.bound e b)

/-- A binding is not gone as long as a named socket owns it. -/
theorem not_gone_iff : ¬ x.Gone b ↔ ∃ n e, x.socket n = some (.bound e b) := by
  simp [Gone]

/-- What is sent to a bound socket is received by that socket alone. -/
theorem heard_toOwner_iff : x.Heard ⟨b, .toOwner⟩ ↔ ¬ x.Gone b := by
  rw [not_gone_iff]
  constructor
  · rintro ⟨link, held, inlet⟩
    cases held with
    | @socket n _ holds =>
        cases link with
        | bound e b' =>
            cases inlet
            exact ⟨n, e, holds⟩
        | connected e b' => cases inlet
    | registry found => cases inlet
  · rintro ⟨n, e, bound⟩
    exact ⟨_, .socket bound, rfl⟩

/-- What goes to the peers is sent by the bound socket alone. -/
theorem fed_toPeers_iff : x.Fed ⟨b, .toPeers⟩ ↔ ¬ x.Gone b := by
  rw [not_gone_iff]
  constructor
  · rintro ⟨link, held, outlet⟩
    cases held with
    | @socket n _ holds =>
        cases link with
        | bound e b' =>
            cases outlet
            exact ⟨n, e, holds⟩
        | connected e b' => cases outlet
    | registry found => cases outlet
  · rintro ⟨n, e, bound⟩
    exact ⟨_, .socket bound, rfl⟩

/-- As long as a socket is bound the registry holds the other ends of both ways, whether or not anybody is connected. -/
theorem Agreed.held_of_bound (agreed : x.Agreed) (bound : x.socket n = some (.bound e b)) : x.Held (.connected e b) :=
  .registry ((agreed.registered e b).mpr ⟨n, bound⟩)

/-- The hub has a binding for dead exactly if it is gone. -/
theorem Agreed.live_eq_false_iff (agreed : x.Agreed) (b : Nat) : (x.hub.channelsOf b).live = false ↔ x.Gone b := by
  rw [← Bool.not_eq_true, agreed.live_iff, ← not_gone_iff, Classical.not_not]

/-- A socket's own ends do not count for the way that leads away from it. -/
theorem Agreed.heard_outlet_iff (agreed : x.Agreed) (holds : x.socket n = some link) :
    x.Heard link.outlet ↔ ∀ e b, link = .connected e b → ¬ x.Gone b := by
  cases link with
  | bound e b =>
      have heard : x.Heard (Link.bound e b).outlet := ⟨_, agreed.held_of_bound holds, rfl⟩
      simpa using heard
  | connected e b =>
      rw [Link.outlet, heard_toOwner_iff]
      simp

/-- Nor do they for the way that leads to it. -/
theorem Agreed.fed_inlet_iff (agreed : x.Agreed) (holds : x.socket n = some link) :
    x.Fed link.inlet ↔ ∀ e b, link = .connected e b → ¬ x.Gone b := by
  cases link with
  | bound e b =>
      have fed : x.Fed (Link.bound e b).inlet := ⟨_, agreed.held_of_bound holds, rfl⟩
      simpa using fed
  | connected e b =>
      rw [Link.inlet, fed_toPeers_iff]
      simp

/-! ## Answers -/

/-- The answer of an operation that is done unless it fails. -/
def Answer.ofResult {α : Type} : Except Error α → Answer
  | .ok _ => .done
  | .error err => .failed err

theorem Answer.ofResult_eq_failed_iff {α : Type} {result : Except Error α} {err : Error} :
    Answer.ofResult result = .failed err ↔ result = .error err := by
  cases result <;> simp [ofResult]

theorem Answer.ofResult_eq_done_iff {α : Type} {result : Except Error α} :
    Answer.ofResult result = .done ↔ ∃ v, result = .ok v := by
  cases result <;> simp [ofResult]

theorem answer_bind (x : Exchange) (n : String) (e : Endpoint) :
    (x.step (.bind n e)).1 = .ofResult (x.hub.bind (x.socket n) e) := by
  rw [← x.socket_put_self n n]
  simp only [step, perform, Step.name, hub_put]
  split <;> simp_all [Answer.ofResult]

theorem answer_connect (x : Exchange) (n : String) (e : Endpoint) :
    (x.step (.connect n e)).1 = .ofResult (x.hub.connect e) := by
  simp only [step, perform, hub_put]
  split <;> simp_all [Answer.ofResult]

theorem answer_clone (x : Exchange) (n copy : String) :
    (x.step (.clone n copy)).1 = .ofResult (x.socket n).clone := by
  rw [← x.socket_put_self n n]
  simp only [step, perform, Step.name]
  split <;> simp_all [Answer.ofResult]

theorem answer_send (x : Exchange) (n : String) (f : Frame) :
    (x.step (.send n f)).1 = .ofResult (x.hub.send (x.socket n) f) := by
  rw [← x.socket_put_self n n]
  simp only [step, perform, Step.name, hub_put]
  split <;> simp_all [Answer.ofResult]

/-- A socket is bound unless it has a link or the endpoint is bound. -/
theorem bind_done_iff : (x.step (.bind n e)).1 = .done ↔ x.socket n = none ∧ x.hub.isBound e = false := by
  rw [answer_bind, Answer.ofResult_eq_done_iff, Hub.bind_isOk_iff]

theorem connect_done_iff : (x.step (.connect n e)).1 = .done ↔ x.hub.isBound e = true := by
  rw [answer_connect, Answer.ofResult_eq_done_iff, Hub.isBound]
  cases found : x.hub.registry.lookup e <;> simp [Hub.connect, found]

theorem clone_done_iff : (x.step (.clone n m)).1 = .done ↔ ∃ e b, x.socket n = some (.connected e b) := by
  rw [answer_clone, Answer.ofResult_eq_done_iff]
  constructor
  · rintro ⟨s, cloned⟩
    obtain ⟨e, b, connected, -⟩ := clone_eq_ok cloned
    exact ⟨e, b, connected⟩
  · rintro ⟨e, b, connected⟩
    exact ⟨_, by rw [connected, Socket.clone]⟩

/-- A frame is sent if somebody can receive it. -/
theorem Agreed.send_done_iff (agreed : x.Agreed) {f : Frame} :
    (x.step (.send n f)).1 = .done ↔ ∃ link, x.socket n = some link ∧ x.Heard link.outlet := by
  rw [answer_send, Answer.ofResult_eq_done_iff]
  rcases holds : x.socket n with _ | link
  · simp [Hub.send]
  · simp only [Option.some.injEq, exists_eq_left', agreed.heard_outlet_iff holds]
    cases link with
    | bound e b => simp [Hub.send]
    | connected e b =>
        have stays := agreed.live_eq_false_iff b
        by_cases alive : (x.hub.channelsOf b).live = true <;> simp_all [Hub.send]

/-- What a receiver answers if no frame is there and one may still come. -/
def Step.absence : Step → Answer
  | .receiveWithin _ time => .failed (.timeout time)
  | .tryReceive _ => .noFrame
  | _ => .waiting

/-- What an operation that receives answers. -/
theorem answer_of_receives (x : Exchange) (receives : s.Receives) :
    (x.step s).1 = match x.hub.receive (x.socket s.name) with
      | .ok (some f, _) => .frame f
      | .ok (none, _) => s.absence
      | .error err => .failed err := by
  have stepped : x.step s = (x.put s.name (x.socket s.name)).received s.absence
      (x.hub.receive ((x.put s.name (x.socket s.name)).socket s.name)) := by
    cases s with
    | receive n | receiveWithin n time | tryReceive n => rfl
    | _ => exact receives.elim
  rw [stepped, socket_put_self]
  rcases x.hub.receive (x.socket s.name) with err | ⟨_ | f, hub⟩ <;> rfl

/-- A receiver to whom nothing is underway but to whom somebody can send is answered that no frame is there. -/
theorem Agreed.answer_absence (agreed : x.Agreed) (receives : s.Receives) (holds : x.socket s.name = some link)
    (nothing : x.hub.underway link.inlet = []) (fed : x.Fed link.inlet) : (x.step s).1 = s.absence := by
  rw [x.answer_of_receives receives, holds]
  cases link with
  | bound e b =>
      have waiting : (x.hub.channelsOf b).toOwner = [] := nothing
      simp [Hub.receive, waiting]
  | connected e b =>
      have waiting : (x.hub.channelsOf b).toPeers = [] := nothing
      have alive : (x.hub.channelsOf b).live = true := by
        rw [← Bool.not_eq_false, agreed.live_eq_false_iff]
        exact fed_toPeers_iff.mp fed
      simp [Hub.receive, waiting, alive]

/-- A receiver gets a frame, or learns that no frame is there, or that none will come. -/
theorem Agreed.answer_cases (agreed : x.Agreed) (receives : s.Receives) (holds : x.socket s.name = some link) :
    (∃ f rest, x.hub.underway link.inlet = f :: rest ∧ (x.step s).1 = .frame f) ∨
      x.hub.underway link.inlet = [] ∧ x.Fed link.inlet ∧ (x.step s).1 = s.absence ∨
      x.hub.underway link.inlet = [] ∧ ¬ x.Fed link.inlet ∧ (x.step s).1 = .failed (.disconnected link.endpoint) := by
  rcases underway : x.hub.underway link.inlet with _ | ⟨f, rest⟩
  · by_cases fed : x.Fed link.inlet
    · exact .inr (.inl ⟨rfl, fed, agreed.answer_absence receives holds underway fed⟩)
    · refine .inr (.inr ⟨rfl, fed, (agreed.step_disconnected_iff holds receives).mpr ⟨underway, ?_⟩⟩)
      rw [agreed.fed_inlet_iff holds] at fed
      push Not at fed
      obtain ⟨e, b, rfl, gone⟩ := fed
      exact gone
  · exact .inl ⟨f, rest, rfl, (step_frame_iff holds receives f).mpr ⟨rest, underway⟩⟩

/-! ## Failures -/

/-- The ways in which an operation fails, with the error that it answers. -/
inductive Fails (x : Exchange) : Step → Error → Prop where
  /-- A socket that has a link is not bound, to no endpoint. -/
  | linked {n : String} {e : Endpoint} {link : Link} (holds : x.socket n = some link) :
      Fails x (.bind n e) (.addressInUse link.endpoint)
  | taken {n : String} {e : Endpoint} (idle : x.socket n = none) (registered : x.hub.isBound e = true) :
      Fails x (.bind n e) (.addressInUse e)
  | unregistered {n : String} {e : Endpoint} (free : x.hub.isBound e = false) :
      Fails x (.connect n e) (.endpointNotBound e)
  | uncloned {n copy : String} (idle : x.socket n = none) : Fails x (.clone n copy) .notConnected
  /-- What is bound has no copy. -/
  | owner {n copy : String} {e : Endpoint} {b : Nat} (bound : x.socket n = some (.bound e b)) :
      Fails x (.clone n copy) (.addressInUse e)
  | unsent {n : String} {f : Frame} (idle : x.socket n = none) : Fails x (.send n f) .notConnected
  | unheard {n : String} {f : Frame} {e : Endpoint} {b : Nat} (connected : x.socket n = some (.connected e b))
      (gone : x.Gone b) : Fails x (.send n f) (.disconnected e)
  | unreceived {s : Step} (receives : s.Receives) (idle : x.socket s.name = none) : Fails x s .notConnected
  | ended {s : Step} {e : Endpoint} {b : Nat} (receives : s.Receives)
      (connected : x.socket s.name = some (.connected e b))
      (gone : x.Gone b) (drained : x.hub.underway ⟨b, .toPeers⟩ = []) : Fails x s (.disconnected e)
  /-- No frame is there, and the bound socket is not gone. -/
  | late {n : String} {time : Duration} {link : Link} (holds : x.socket n = some link)
      (nothing : x.hub.underway link.inlet = []) (stays : ∀ e b, link = .connected e b → ¬ x.Gone b) :
      Fails x (.receiveWithin n time) (.timeout time)

/-- An operation that receives fails for the reason that the sockets give it, and for no other one. -/
theorem Agreed.failed_iff_of_receives (agreed : x.Agreed) (receives : s.Receives) {err : Error} :
    (x.step s).1 = .failed err ↔ x.Fails s err := by
  constructor
  · intro failed
    cases holds : x.socket s.name with
    | none =>
        rw [x.answer_of_receives receives, holds] at failed
        cases failed
        exact .unreceived receives holds
    | some link =>
        have stays := agreed.fed_inlet_iff holds
        rcases agreed.answer_cases receives holds with
          ⟨f, rest, -, got⟩ | ⟨nothing, fed, absent⟩ | ⟨drained, dead, ended⟩
        · cases got.symm.trans failed
        · have timed := absent.symm.trans failed
          cases s with
          | receiveWithin n time =>
              cases timed
              exact .late holds nothing (stays.mp fed)
          | _ => cases timed
        · rw [stays] at dead
          push Not at dead
          obtain ⟨e, b, rfl, gone⟩ := dead
          cases ended.symm.trans failed
          exact .ended receives holds gone drained
  · intro fails
    cases fails with
    | unreceived _ idle =>
        rw [x.answer_of_receives receives, idle]
        rfl
    | ended _ connected gone drained => exact (agreed.step_disconnected_iff connected receives).mpr ⟨drained, gone⟩
    | late holds nothing stays =>
        exact agreed.answer_absence receives holds nothing ((agreed.fed_inlet_iff holds).mpr stays)
    | _ => exact receives.elim

/-- Every operation fails for the reason that the sockets give it, and for no other one. -/
theorem Agreed.failed_iff (agreed : x.Agreed) (s : Step) (err : Error) :
    (x.step s).1 = .failed err ↔ x.Fails s err := by
  cases s with
  | bind n e =>
      rw [answer_bind, Answer.ofResult_eq_failed_iff, Hub.bind_eq_error_iff]
      constructor
      · rintro (⟨link, holds, rfl⟩ | ⟨idle, registered, rfl⟩)
        · exact .linked holds
        · exact .taken idle registered
      · intro fails
        cases fails with
        | linked holds => exact .inl ⟨_, holds, rfl⟩
        | taken idle registered => exact .inr ⟨idle, registered, rfl⟩
        | unreceived receives | ended receives => exact receives.elim
  | connect n e =>
      rw [answer_connect, Answer.ofResult_eq_failed_iff, Hub.connect_eq_error_iff]
      constructor
      · rintro ⟨free, rfl⟩
        exact .unregistered free
      · intro fails
        cases fails with
        | unregistered free => exact ⟨free, rfl⟩
        | unreceived receives | ended receives => exact receives.elim
  | clone n copy =>
      rw [answer_clone, Answer.ofResult_eq_failed_iff, Hub.clone_eq_error_iff]
      constructor
      · rintro (⟨idle, rfl⟩ | ⟨e, b, bound, rfl⟩)
        · exact .uncloned idle
        · exact .owner bound
      · intro fails
        cases fails with
        | uncloned idle => exact .inl ⟨idle, rfl⟩
        | owner bound => exact .inr ⟨_, _, bound, rfl⟩
        | unreceived receives | ended receives => exact receives.elim
  | send n f =>
      rw [answer_send, Answer.ofResult_eq_failed_iff, Hub.send_eq_error_iff]
      simp only [agreed.live_eq_false_iff]
      constructor
      · rintro (⟨idle, rfl⟩ | ⟨e, b, connected, gone, rfl⟩)
        · exact .unsent idle
        · exact .unheard connected gone
      · intro fails
        cases fails with
        | unsent idle => exact .inl ⟨idle, rfl⟩
        | unheard connected gone => exact .inr ⟨_, _, connected, gone, rfl⟩
        | unreceived receives | ended receives => exact receives.elim
  | receive n => exact agreed.failed_iff_of_receives (s := .receive n) trivial
  | receiveWithin n time => exact agreed.failed_iff_of_receives (s := .receiveWithin n time) trivial
  | tryReceive n => exact agreed.failed_iff_of_receives (s := .tryReceive n) trivial
  | unbind n e | drop n | isBound n e =>
      constructor
      · intro failed
        cases failed
      · intro fails
        cases fails with
        | unreceived receives | ended receives => exact receives.elim

/-- An operation that is neither done nor has received a frame changes nothing. -/
theorem unchanged_or_done (x : Exchange) (s : Step) :
    (x.step s).1 = .done ∨ (∃ f, (x.step s).1 = .frame f) ∨
      (x.step s).2.hub = x.hub ∧ ∀ n, (x.step s).2.socket n = x.socket n := by
  obtain ⟨y, hub, sockets, performed⟩ := x.stepped s
  generalize (x.step s).1 = a, (x.step s).2 = after at performed
  cases performed with
  | nothing => exact .inr (.inr ⟨hub, sockets⟩)
  | @received _ f => exact .inr (.inl ⟨f, rfl⟩)
  | _ => exact .inl rfl

/-- After any row of operations, whether they succeed or fail,

* an operation fails in the ways that are listed in `Fails`, and in no other one;
* a socket is bound if it has no link and the endpoint is free, a connection is made if the endpoint is bound, a copy if
  the original is connected;
* a frame is sent if somebody can receive it, and a receiver gets the first frame that is underway to it. If there is
  none, it is told so as long as somebody can send one, and otherwise that its connection has ended;
* of the ends of its two ways that a socket does not hold itself, those of a bound one are never lost, and those of a
  connected one exactly when the socket that was bound there is gone. So what is bound can always send, and is never
  told that anybody is gone;
* an operation that fails, or receives no frame, leaves the hub and every socket as they were. -/
theorem operations_fail_iff (steps : List Step) :
    let x := (empty.run steps).2
    (∀ s err, (x.step s).1 = .failed err ↔ x.Fails s err) ∧
    (∀ n e, (x.step (.bind n e)).1 = .done ↔ x.socket n = none ∧ x.hub.isBound e = false) ∧
    (∀ n e, (x.step (.connect n e)).1 = .done ↔ x.hub.isBound e = true) ∧
    (∀ n copy, (x.step (.clone n copy)).1 = .done ↔ ∃ e b, x.socket n = some (.connected e b)) ∧
    (∀ n f, (x.step (.send n f)).1 = .done ↔ ∃ link, x.socket n = some link ∧ x.Heard link.outlet) ∧
    (∀ s link, s.Receives → x.socket s.name = some link →
      (∃ f rest, x.hub.underway link.inlet = f :: rest ∧ (x.step s).1 = .frame f) ∨
        x.hub.underway link.inlet = [] ∧ x.Fed link.inlet ∧ (x.step s).1 = s.absence ∨
        x.hub.underway link.inlet = [] ∧ ¬ x.Fed link.inlet ∧ (x.step s).1 = .failed (.disconnected link.endpoint)) ∧
    (∀ n link, x.socket n = some link →
      (x.Heard link.outlet ↔ ∀ e b, link = .connected e b → ¬ x.Gone b) ∧
      (x.Fed link.inlet ↔ ∀ e b, link = .connected e b → ¬ x.Gone b)) ∧
    (∀ n e b, x.socket n = some (.bound e b) → (∀ f, (x.step (.send n f)).1 = .done) ∧
      ∀ s e', s.Receives → s.name = n → (x.step s).1 ≠ .failed (.disconnected e')) ∧
    ∀ s, (x.step s).1 = .done ∨ (∃ f, (x.step s).1 = .frame f) ∨
      (x.step s).2.hub = x.hub ∧ ∀ n, (x.step s).2.socket n = x.socket n := by
  intro x
  have agreed : x.Agreed := agreed_empty.run steps
  refine ⟨agreed.failed_iff, fun n e => bind_done_iff, fun n e => connect_done_iff, fun n copy => clone_done_iff,
    fun n f => agreed.send_done_iff, fun s link receives holds => agreed.answer_cases receives holds,
    fun n link holds => ⟨agreed.heard_outlet_iff holds, agreed.fed_inlet_iff holds⟩,
    fun n e b bound => ⟨fun f => ?_, ?_⟩,
    x.unchanged_or_done⟩
  · exact agreed.send_done_iff.mpr ⟨_, bound, (agreed.heard_outlet_iff bound).mpr (by simp)⟩
  · rintro s e' receives rfl failed
    cases (agreed.failed_iff s _).mp failed with
    | unheard connected => exact receives.elim
    | ended _ connected => cases bound.symm.trans connected

/-- A peer is connected, and copied, before its socket is closed with one frame sent, and the endpoint bound again. -/
def sampleEnds : List Step :=
  [.bind "owner" "a", .connect "peer" "a", .clone "peer" "copy", .send "owner" [1], .drop "owner", .bind "next" "a"]

/-- The owner is gone with a frame still under way. Its peers can send no more but get that frame, and the next owner
of the endpoint sends to peers of its own. -/
theorem operations_fail_iff_sampleEnds :
    let x := (empty.run sampleEnds).2
    x.socket "peer" = some (.connected "a" 0) ∧ (x.step (.send "peer" [2])).1 = .failed (.disconnected "a") ∧
    (x.step (.receive "copy")).1 = .frame [1] ∧ x.socket "next" = some (.bound "a" 1) ∧
    (x.step (.send "next" [3])).1 = .done := by
  intro x
  obtain ⟨failed, -, -, -, -, receives, -, bound, -⟩ := operations_fail_iff sampleEnds
  have peer : x.socket "peer" = some (.connected "a" 0) := by decide
  have copy : x.socket "copy" = some (.connected "a" 0) := by decide
  have next : x.socket "next" = some (.bound "a" 1) := by decide
  have gone : x.Gone 0 := (agreed_empty.run sampleEnds).live_eq_false_iff 0 |>.mp (by decide)
  have underway : x.hub.underway ⟨0, .toPeers⟩ = [[1]] := by decide
  refine ⟨peer, (failed _ _).mpr (.unheard peer gone), ?_, next, (bound "next" "a" 1 next).1 [3]⟩
  rcases receives (.receive "copy") _ trivial copy with ⟨f, rest, first, got⟩ | ⟨nothing, -, -⟩ | ⟨nothing, -, -⟩
  · cases underway.symm.trans first
    exact got
  · cases underway.symm.trans nothing
  · cases underway.symm.trans nothing

end Exchange
end DebugBridge
