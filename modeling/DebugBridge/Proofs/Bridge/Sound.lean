import DebugBridge.Proofs.Bridge.Steps

/-!
# Sound bridges

At all times, also within calls, the control sockets and the publisher hold their endpoints or leave them free, and
every courier is tied to bindings that only ever were the control side's (`Sound`). Every step keeps that.
-/

namespace DebugBridge

namespace Hub

variable {hub next : Hub} {e : Endpoint} {q : Nat}

/-- A binding of an endpoint. No other endpoint leads to it, now or later. -/
structure Reserved (hub : Hub) (e : Endpoint) (q : Nat) : Prop where
  inRange : q < hub.channels.length
  only : ∀ e', hub.registry.lookup e' = some q → e' = e

/-- A socket has no link and its endpoint is free, or it is bound there. -/
def Holds (hub : Hub) (s : Socket) (e : Endpoint) : Prop :=
  s = none ∧ hub.registry.lookup e = none ∨ ∃ q, s = some (.bound e q) ∧ hub.registry.lookup e = some q

/-- A binding with an owner is reserved for its endpoint. -/
theorem Sound.reserved (sound : hub.Sound) (bound : hub.registry.lookup e = some q) : hub.Reserved e q :=
  ⟨sound.inRange e q bound, fun e' found => sound.distinct e' e q found bound⟩

/-- Frames that come and go leave a binding reserved. -/
theorem Reserved.of_moved (reserved : hub.Reserved e q) (moved : hub.Moved next) : next.Reserved e q := by
  refine ⟨?_, ?_⟩
  · rw [moved.length]
    exact reserved.inRange
  · rw [moved.registry]
    exact reserved.only

/-- A new binding takes a number of its own. -/
theorem Reserved.bind (reserved : hub.Reserved e q) {s t : Socket} {e' : Endpoint}
    (bound : hub.bind s e' = .ok (next, t)) : next.Reserved e q := by
  have length := length_of_bind bound
  have inRange := reserved.inRange
  refine ⟨by omega, fun other found => ?_⟩
  rw [lookup_of_bind bound] at found
  split at found
  · cases found
    exact absurd inRange (Nat.lt_irrefl _)
  · exact reserved.only other found

/-- So does the end of any binding, its own included. -/
theorem Reserved.release (reserved : hub.Reserved e q) (e' : Endpoint) (b : Nat) :
    (hub.release e' b).Reserved e q := by
  refine ⟨?_, fun other found => ?_⟩
  · rw [length_release]
    exact reserved.inRange
  · rw [lookup_release] at found
    split at found
    · cases found
    · exact reserved.only other found

/-- So does whatever others do. -/
theorem Reserved.use (reserved : hub.Reserved e q) {endpoints : List Endpoint} {untouched : Nat → Prop}
    (use : hub.Use endpoints untouched next) : next.Reserved e q := by
  cases use with
  | bind other bound => exact reserved.bind bound
  | release other owned => exact reserved.release _ _
  | send apart sent => exact reserved.of_moved (moved_send sent)
  | receive apart received => exact reserved.of_moved (moved_receive received)

/-- Others leave the frames at a binding of the control side alone if it is untouched. -/
theorem Reserved.channelsOf_use (reserved : hub.Reserved e q) {endpoints : List Endpoint} {untouched : Nat → Prop}
    (own : e ∈ endpoints) (quiet : untouched q) (use : hub.Use endpoints untouched next) :
    next.channelsOf q = hub.channelsOf q := by
  cases use with
  | bind other bound => exact channelsOf_of_bind bound reserved.inRange
  | @release e' b other theirs =>
      apply channelsOf_release_of_ne
      rintro rfl
      exact other (reserved.only e' theirs ▸ own)
  | send apart sent =>
      obtain ⟨b, f, tied, -, rfl⟩ := send_eq_ok sent
      apply channelsOf_modify_of_ne
      rintro rfl
      exact apart b tied quiet
  | receive apart received =>
      rcases receive_eq_ok received with rfl | ⟨b, f, tied, -, rfl⟩
      · rfl
      · apply channelsOf_modify_of_ne
        rintro rfl
        exact apart b tied quiet

theorem Holds.of_lookup {s : Socket} (holds : hub.Holds s e)
    (same : next.registry.lookup e = hub.registry.lookup e) : next.Holds s e := by
  rw [Holds, same]
  exact holds

theorem Holds.lookup_bound {s : Socket} (holds : hub.Holds s e) (bound : s = some (.bound e q)) :
    hub.registry.lookup e = some q := by
  subst bound
  rcases holds with ⟨none, -⟩ | ⟨q', same, found⟩
  · cases none
  · cases same
    exact found

/-- Who holds an endpoint has the binding that is registered for it. -/
theorem Holds.binding_of_lookup {s : Socket} (holds : hub.Holds s e) (found : hub.registry.lookup e = some q) :
    s.binding? = some q := by
  rcases holds with ⟨-, free⟩ | ⟨q', rfl, bound⟩
  · cases found.symm.trans free
  · cases found.symm.trans bound
    rfl

/-- Nobody holds an endpoint of a socket without a link. -/
theorem Holds.lookup_free {s : Socket} (holds : hub.Holds s e) (free : s = none) : hub.registry.lookup e = none := by
  subst free
  rcases holds with ⟨-, free⟩ | ⟨q, bound, -⟩
  · exact free
  · cases bound

/-- Binding another endpoint leaves what a socket holds. -/
theorem Holds.bind_other {s t u : Socket} {e' : Endpoint} (holds : hub.Holds s e) (other : e ≠ e')
    (bound : hub.bind u e' = .ok (next, t)) : next.Holds s e := by
  apply holds.of_lookup
  rw [lookup_of_bind bound, if_neg other]

/-- A socket that is bound holds its endpoint. -/
theorem holds_of_bind {s : Socket} (bound : hub.bind s e = .ok (next, some (.bound e hub.channels.length))) :
    next.Holds (some (.bound e hub.channels.length)) e :=
  .inr ⟨_, rfl, by rw [lookup_of_bind bound, if_pos rfl]⟩

/-- A socket that holds its endpoint is freed with it, and all other endpoints are as they were. -/
theorem Holds.unbind {s : Socket} (holds : hub.Holds s e) (sound : hub.Sound) :
    (hub.unbind s e).1.Sound ∧ (hub.unbind s e).2 = none ∧ (hub.unbind s e).1.registry.lookup e = none ∧
      (∀ e', e' ≠ e → (hub.unbind s e).1.registry.lookup e' = hub.registry.lookup e') ∧
      (∀ e' q, hub.Reserved e' q → (hub.unbind s e).1.Reserved e' q) ∧
      ∀ b, ((hub.unbind s e).1.channelsOf b).toPeers = (hub.channelsOf b).toPeers ∧
        ((hub.unbind s e).1.channelsOf b).toOwner = (hub.channelsOf b).toOwner := by
  rcases holds with ⟨rfl, free⟩ | ⟨q, rfl, bound⟩
  · exact ⟨sound, rfl, free, fun _ _ => rfl, fun _ _ reserved => reserved, fun _ => ⟨rfl, rfl⟩⟩
  · rw [unbind_bound]
    refine ⟨sound.release bound, rfl, ?_, fun e' other => ?_, fun e' q' reserved => reserved.release e q, fun b => ?_⟩
    · rw [lookup_release, if_pos rfl]
    · rw [lookup_release, if_neg other]
    · rcases eq_or_ne q b with rfl | other
      · have inRange := sound.inRange e q bound
        have ended : (hub.release e q).channelsOf q = { hub.channelsOf q with live := false } :=
          channelsOf_modify hub _ inRange
        rw [ended]
        exact ⟨rfl, rfl⟩
      · rw [channelsOf_release_of_ne hub e other]
        exact ⟨rfl, rfl⟩

end Hub

namespace Bridge

variable {σ : Type}

/-- A worker has no links yet, or it is tied to bindings of the control side and publishes for it. -/
def Placed (s : Session) (w : Worker) : Prop :=
  w.sockets = (none, none, none) ∨
    ∃ q h, w.Tied q h ∧ s.hub.Reserved requestEndpoint q ∧ s.hub.Reserved headerEndpoint h ∧ s.Attached w

/-- What is so at all times. -/
structure Sound (b : Bridge σ) : Prop where
  hub : b.session.hub.Sound
  publisher : b.session.Publishes
  request : b.session.hub.Holds b.session.request requestEndpoint
  header : b.session.hub.Holds b.session.header headerEndpoint
  couriers : ∀ c ∈ b.couriers, Placed b.session c.worker

variable {out : Outside σ} {untouched : Bridge σ → Nat → Prop} {b : Bridge σ}

/-- A bridge is sound at first. -/
theorem sound_ofSession {s : Session} (created : Session.Created s) (o : σ) : (ofSession s o).Sound := by
  have idle := created.sound.idle created.worker
  exact ⟨created.sound.hub, created.sound.publisher, .inl ⟨idle.request, idle.requestFree⟩,
    .inl ⟨idle.header, idle.headerFree⟩, List.forall_mem_nil _⟩

/-- A worker stays placed while its bindings stay reserved. -/
theorem Placed.keep {s next : Session} {w w' : Worker} (placed : Placed s w) (same : w'.sockets = w.sockets)
    (reserved : ∀ e q, s.hub.Reserved e q → next.hub.Reserved e q) (publisher : next.publisher = s.publisher) :
    Placed next w' := by
  rcases placed with free | ⟨q, h, tied, atRequest, atHeader, attached⟩
  · exact .inl (same.trans free)
  · refine .inr ⟨q, h, Session.tied_of_sockets same tied, reserved _ _ atRequest, reserved _ _ atHeader,
      fun p socket => ?_⟩
    have published := congrArg (fun row => row.2.2) same
    rw [publisher] at socket
    exact Eq.trans published (attached p socket)

/-- A worker that finds its endpoints is tied to what is bound there. -/
theorem placed_of_connect {s : Session} {w : Worker} (sound : s.hub.Sound) (publisher : s.Publishes)
    (connected : Worker.connect s.hub = .ok w) : Placed s w := by
  obtain ⟨q, h, atRequest, atHeader, tied⟩ := Worker.tied_of_connect sound connected
  obtain ⟨_, _, -, -, rfl⟩ := Worker.connect_eq_ok connected
  exact .inr ⟨q, h, tied, sound.reserved atRequest, sound.reserved atHeader, Session.attached_of_connect publisher rfl⟩

/-- One of the control sockets is bound there. -/
def Binds (b : Bridge σ) (q : Nat) : Prop :=
  b.session.request.binding? = some q ∨ b.session.header.binding? = some q

/-- A worker finds the bindings of the control sockets. -/
theorem Sound.binds_of_connect (sound : b.Sound) {w : Worker} (connected : Worker.connect b.session.hub = .ok w)
    {q : Nat} (holds : w.request.binding? = some q ∨ w.header.binding? = some q) : b.Binds q := by
  obtain ⟨q', h, atRequest, atHeader, rfl⟩ := Worker.connect_eq_ok connected
  rcases holds with request | header
  · exact .inl (sound.request.binding_of_lookup (atRequest.trans request))
  · exact .inr (sound.header.binding_of_lookup (atHeader.trans header))

/-- Where frames alone have moved, a bridge stays sound. -/
theorem Sound.of_moved {next : Bridge σ} (sound : b.Sound) (moved : b.session.hub.Moved next.session.hub)
    (control : next.session.control = b.session.control)
    (couriers : ∀ c ∈ next.couriers, Placed next.session c.worker) : next.Sound := by
  have request := Session.request_of_control control
  have header := Session.header_of_control control
  have publisher := Session.publisher_of_control control
  refine ⟨sound.hub.of_moved moved, ?_, ?_, ?_, couriers⟩
  · obtain ⟨p, socket, registered⟩ := sound.publisher
    exact ⟨p, publisher.trans socket, by rw [moved.registry, registered]⟩
  · rw [request]
    exact sound.request.of_lookup (by rw [moved.registry])
  · rw [header]
    exact sound.header.of_lookup (by rw [moved.registry])

/-- A request socket that is freed has no link. -/
theorem Sound.freeRequest (sound : b.Sound) : b.freeRequest.session.request = none :=
  (sound.request.unbind sound.hub).2.1

/-- A header socket that is freed has no link. -/
theorem Sound.freeHeader (sound : b.Sound) : b.freeHeader.session.header = none :=
  (sound.header.unbind sound.hub).2.1

/-- The couriers stay placed while their bindings stay reserved. -/
theorem Sound.placed {next : Session} (sound : b.Sound)
    (reserved : ∀ e q, b.session.hub.Reserved e q → next.hub.Reserved e q)
    (publisher : next.publisher = b.session.publisher) : ∀ c ∈ b.couriers, Placed next c.worker :=
  fun c member => (sound.couriers c member).keep rfl reserved publisher

/-- A turn of a worker keeps the bridge sound. -/
theorem Sound.turn (sound : b.Sound) (n : Nat) (turn : Turn) : (b.happen (.turn n turn)).Sound := by
  rw [happen]
  cases found : b.couriers[n]? with
  | none => exact sound
  | some c =>
      have turned := c.take_cases b.session turn
      have control := control_take c b.session turn
      simp only
      generalize c.take b.session turn = done at turned control ⊢
      obtain ⟨c', session, notes⟩ := done
      have publisher := Session.publisher_of_control control
      have reserved (e : Endpoint) (q : Nat) (was : b.session.hub.Reserved e q) : session.hub.Reserved e q :=
        was.of_moved turned.moved
      refine sound.of_moved turned.moved control fun d member => ?_
      rcases List.mem_or_eq_of_mem_set member with other | rfl
      · exact (sound.couriers d other).keep rfl reserved publisher
      · rcases turned.sockets with same | ⟨-, connected⟩
        · exact (sound.couriers c (List.mem_of_getElem? found)).keep same reserved publisher
        · exact (placed_of_connect sound.hub sound.publisher connected).keep rfl reserved publisher

/-- Others on the hub leave the endpoints of the session alone. -/
theorem Sound.elsewhere (sound : b.Sound) {untouched : Nat → Prop} {hub : Hub}
    (use : b.session.hub.Use Session.ownEndpoints untouched hub) :
    ({ b with session := { b.session with hub } } : Bridge σ).Sound := by
  obtain ⟨p, socket, registered⟩ := sound.publisher
  exact ⟨use.sound sound.hub, ⟨p, socket, (use.lookup (by decide)).trans registered⟩,
    sound.request.of_lookup (use.lookup (by decide)), sound.header.of_lookup (use.lookup (by decide)),
    sound.placed (fun _ _ was => was.use use) rfl⟩

/-- Every step keeps the bridge sound. -/
theorem Sound.step {next : Bridge σ} (sound : b.Sound) (step : Step out (Allowed untouched) b next) : next.Sound := by
  cases step with
  | @happen h allowed =>
      cases h with
      | turn n turn => exact sound.turn n turn
      | outside change => exact ⟨sound.hub, sound.publisher, sound.request, sound.header, sound.couriers⟩
      | elsewhere others =>
          rcases allowed b with still | use
          · rw [Bridge.happen, still]
            exact sound
          · exact sound.elsewhere use
  | bindRequest bound =>
      obtain ⟨hub, taken, rfl⟩ := Session.bindRequest_eq_ok bound
      obtain ⟨p, socket, registered⟩ := sound.publisher
      refine ⟨sound.hub.bind taken, ⟨p, socket, ?_⟩, Hub.holds_of_bind taken, sound.header.bind_other (by decide) taken,
        sound.placed (fun _ _ was => was.bind taken) rfl⟩
      rw [Hub.lookup_of_bind taken, if_neg (by decide), registered]
  | bindHeader bound =>
      obtain ⟨hub, taken, rfl⟩ := Session.bindHeader_eq_ok bound
      obtain ⟨p, socket, registered⟩ := sound.publisher
      refine ⟨sound.hub.bind taken, ⟨p, socket, ?_⟩, sound.request.bind_other (by decide) taken,
        Hub.holds_of_bind taken,
        sound.placed (fun _ _ was => was.bind taken) rfl⟩
      rw [Hub.lookup_of_bind taken, if_neg (by decide), registered]
  | freeRequest =>
      obtain ⟨hub, request, free, others, reserved, -⟩ := sound.request.unbind sound.hub
      obtain ⟨p, socket, registered⟩ := sound.publisher
      exact ⟨hub, ⟨p, socket, (others _ (by decide)).trans registered⟩, .inl ⟨request, free⟩,
        sound.header.of_lookup (others _ (by decide)), sound.placed reserved rfl⟩
  | freeHeader =>
      obtain ⟨hub, header, free, others, reserved, -⟩ := sound.header.unbind sound.hub
      obtain ⟨p, socket, registered⟩ := sound.publisher
      exact ⟨hub, ⟨p, socket, (others _ (by decide)).trans registered⟩,
        sound.request.of_lookup (others _ (by decide)), .inl ⟨header, free⟩, sound.placed reserved rfl⟩
  | spawn idle =>
      refine ⟨sound.hub, sound.publisher, sound.request, sound.header, fun c member => ?_⟩
      rcases List.mem_append.mp member with earlier | new
      · exact (sound.couriers c earlier).keep rfl (fun _ _ was => was) rfl
      · rw [List.mem_singleton.mp new]
        exact .inl rfl
  | send own sent =>
      obtain ⟨hub, passed, rfl⟩ := send_eq_ok sent
      have moved := Hub.moved_send passed
      exact sound.of_moved moved rfl (sound.placed (fun _ _ was => was.of_moved moved) rfl)
  | @take s taken rest own waits =>
      have moved := Hub.moved_setWaiting b.session.hub s rest
      exact sound.of_moved moved rfl (sound.placed (fun _ _ was => was.of_moved moved) rfl)
  | wait request header =>
      rw [Bridge.wait]
      split
      · exact ⟨sound.hub, sound.publisher, sound.request, sound.header, sound.placed (fun _ _ was => was) rfl⟩
      · exact sound
  | outside outside | launch | remember breakpoints | forgetStopped | forgetKnown =>
      exact ⟨sound.hub, sound.publisher, sound.request, sound.header, sound.placed (fun _ _ was => was) rfl⟩

/-- Every bridge that can be reached is sound. -/
theorem Reached.sound (reached : Reached out (Allowed untouched) b) : b.Sound :=
  reached.induct (fun _ created o => sound_ofSession created o) fun _ _ _ sound step => sound.step step

end Bridge
end DebugBridge
