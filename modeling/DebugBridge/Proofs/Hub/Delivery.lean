import DebugBridge.Proofs.Hub.Registry

/-!
# Which frames arrive

A binding carries frames two ways, from its socket to the peers and back. Each way is a queue that all senders share
and all receivers share, so what has been received over it and what is still underway is what has been sent over it, in
that order (`Agreed.account_run`). `delivers_in_order` reads the law of delivery off that.
-/

namespace DebugBridge

/-- The two directions of a binding. -/
inductive Way where
  | toPeers
  | toOwner
deriving DecidableEq, Repr

/-- One direction of one binding. -/
structure Route where
  binding : Nat
  way : Way
deriving DecidableEq, Repr

/-- A frame that is sent or received over a route. -/
structure Passage where
  route : Route
  frame : Frame
deriving DecidableEq, Repr

/-- The frames of those passages that are over a route. -/
def Route.frames (r : Route) (passages : List Passage) : List Frame :=
  passages.filterMap fun p => if p.route = r then some p.frame else none

namespace Route

variable {r : Route}

@[simp] theorem frames_nil (r : Route) : r.frames [] = [] := rfl

@[simp] theorem frames_append (r : Route) (first second : List Passage) :
    r.frames (first ++ second) = r.frames first ++ r.frames second :=
  List.filterMap_append

/-- A frame is on its own route and on no other one. -/
theorem frames_single (r route : Route) (f : Frame) : r.frames [⟨route, f⟩] = if route = r then [f] else [] := by
  by_cases same : route = r <;> simp [frames, same]

/-- A frame is as often on a route as it was passed along there. -/
theorem count_frames (r : Route) (f : Frame) (passages : List Passage) :
    (r.frames passages).count f = passages.count ⟨r, f⟩ := by
  induction passages with
  | nil => rfl
  | cons p rest ih =>
      obtain ⟨route, frame⟩ := p
      have split := r.frames_append [⟨route, frame⟩] rest
      rw [List.singleton_append] at split
      rw [split, List.count_append, ih, frames_single, List.count_cons]
      by_cases same : route = r <;> simp [same, Nat.add_comm, List.count_singleton]

end Route

/-- The route of the frames that a socket with this link sends. -/
def Link.outlet : Link → Route
  | .bound _ b => ⟨b, .toPeers⟩
  | .connected _ b => ⟨b, .toOwner⟩

/-- The route of the frames that a socket with this link receives. -/
def Link.inlet : Link → Route
  | .bound _ b => ⟨b, .toOwner⟩
  | .connected _ b => ⟨b, .toPeers⟩

theorem Link.binding?_outlet (link : Link) : Socket.binding? (some link) = some link.outlet.binding := by
  cases link <;> rfl

theorem Link.binding?_inlet (link : Link) : Socket.binding? (some link) = some link.inlet.binding := by
  cases link <;> rfl

namespace Hub

/-- The frames that are sent over a route and not received yet. -/
def underway (hub : Hub) (r : Route) : List Frame :=
  match r.way with
  | .toPeers => (hub.channelsOf r.binding).toPeers
  | .toOwner => (hub.channelsOf r.binding).toOwner

variable {hub next : Hub} {r : Route}

/-- Closing a socket leaves the frames underway. -/
theorem underway_close (hub : Hub) (s : Socket) (r : Route) : (hub.close s).underway r = hub.underway r := by
  match s with
  | none | some (.connected _ _) => rfl
  | some (.bound e b) =>
      by_cases same : b = r.binding
      · subst same
        by_cases inRange : r.binding < hub.channels.length
        · simp only [close, underway, channelsOf_release hub e inRange]
        · simp [close, underway, release, modify, channelsOf, List.getElem?_eq_none (Nat.le_of_not_lt inRange)]
      · simp only [close, underway, channelsOf_release_of_ne hub e same]

/-- A new binding has nothing under way. -/
theorem underway_bind {s t : Socket} {e : Endpoint} (bound : hub.bind s e = .ok (next, t)) (r : Route) :
    next.underway r = hub.underway r := by
  rcases Nat.lt_trichotomy r.binding hub.channels.length with old | new | beyond
  · simp only [underway, channelsOf_of_bind bound old]
  · have before : hub.channelsOf hub.channels.length = ⟨false, [], []⟩ := by simp [channelsOf]
    simp only [underway, new, channelsOf_bound bound, before]
  · have length := length_of_bind bound
    have before : hub.channelsOf r.binding = ⟨false, [], []⟩ := by
      simp [channelsOf, List.getElem?_eq_none (Nat.le_of_lt beyond)]
    have after : next.channelsOf r.binding = ⟨false, [], []⟩ := by
      simp [channelsOf, List.getElem?_eq_none (show next.channels.length ≤ r.binding by omega)]
    simp only [underway, before, after]

/-- A frame that is sent goes to the end of what is underway from its sender. -/
theorem underway_send {link : Link} {f : Frame} (inRange : link.outlet.binding < hub.channels.length)
    (sent : hub.send (some link) f = .ok next) (r : Route) :
    next.underway r = hub.underway r ++ r.frames [⟨link.outlet, f⟩] := by
  rw [Route.frames_single]
  obtain ⟨b, way⟩ := r
  cases link with
  | bound e a =>
      cases sent
      by_cases same : a = b
      · subst same
        cases way <;> simp [underway, channelsOf_modify (b := a) hub _ inRange, Link.outlet]
      · simp [underway, channelsOf_modify_of_ne hub _ same, Link.outlet, same]
  | connected e a =>
      simp only [send] at sent
      split at sent
      · cases sent
        by_cases same : a = b
        · subst same
          cases way <;> simp [underway, channelsOf_modify (b := a) hub _ inRange, Link.outlet]
        · simp [underway, channelsOf_modify_of_ne hub _ same, Link.outlet, same]
      · cases sent

/-- A frame that is received is the first of those underway to its receiver. -/
theorem underway_receive {link : Link} {f : Frame} (inRange : link.inlet.binding < hub.channels.length)
    (received : hub.receive (some link) = .ok (some f, next)) (r : Route) :
    hub.underway r = r.frames [⟨link.inlet, f⟩] ++ next.underway r := by
  rw [Route.frames_single]
  obtain ⟨b, way⟩ := r
  cases link with
  | bound e a =>
      simp only [receive] at received
      split at received
      · cases received
      · next waiting =>
          cases received
          by_cases same : a = b
          · subst same
            cases way <;> simp [underway, channelsOf_modify (b := a) hub _ inRange, Link.inlet, waiting]
          · simp [underway, channelsOf_modify_of_ne hub _ same, Link.inlet, same]
  | connected e a =>
      simp only [receive] at received
      split at received
      · split at received <;> cases received
      · next waiting =>
          cases received
          by_cases same : a = b
          · subst same
            cases way <;> simp [underway, channelsOf_modify (b := a) hub _ inRange, Link.inlet, waiting]
          · simp [underway, channelsOf_modify_of_ne hub _ same, Link.inlet, same]

end Hub

namespace Exchange

variable {x : Exchange} {s : Step} {r : Route}

/-! ## One operation -/

/-- What an operation sends: the frame it was asked to send, if that is done, over the route of its socket. -/
def sending (x : Exchange) (s : Step) : List Passage :=
  match s, x.socket s.name, (x.step s).1 with
  | .send _ f, some link, .done => [⟨link.outlet, f⟩]
  | _, _, _ => []

/-- What an operation receives: the frame it answers, over the route of its socket. -/
def receiving (x : Exchange) (s : Step) : List Passage :=
  match x.socket s.name, (x.step s).1 with
  | some link, .frame f => [⟨link.inlet, f⟩]
  | _, _ => []

/-- Only a send sends. -/
theorem sending_of_not_send (other : ∀ n f, s ≠ .send n f) : x.sending s = [] := by
  cases s with
  | send n f => exact absurd rfl (other n f)
  | _ => rfl

/-- A send that fails sends nothing. -/
theorem sending_of_not_done (undone : (x.step s).1 ≠ .done) : x.sending s = [] := by
  unfold sending
  split
  · next done => exact absurd done undone
  · rfl

/-- Who gets no frame receives nothing. -/
theorem receiving_of_not_frame (other : ∀ f, (x.step s).1 ≠ .frame f) : x.receiving s = [] := by
  unfold receiving
  split
  · next link f _ answered => exact absurd answered (other f)
  · rfl

/-- What is underway over a route changes by what the operation sends and receives over it. -/
theorem Agreed.account (agreed : x.Agreed) (s : Step) (r : Route) :
    r.frames (x.receiving s) ++ (x.step s).2.hub.underway r = x.hub.underway r ++ r.frames (x.sending s) := by
  obtain ⟨y, hub, sockets, performed⟩ := x.stepped s
  have begun : y.Agreed := agreed.congr hub sockets
  generalize answered : (x.step s).1 = a, (x.step s).2 = after at performed ⊢
  rw [← hub]
  -- All operations but those of the last two cases pass no frame.
  have still (deaf : ∀ f, a ≠ .frame f) (silent : x.sending s = [])
      (kept : after.hub.underway r = y.hub.underway r) :
      r.frames (x.receiving s) ++ after.hub.underway r = y.hub.underway r ++ r.frames (x.sending s) := by
    rw [receiving_of_not_frame (answered ▸ deaf), silent, kept, Route.frames_nil, List.nil_append, List.append_nil]
  cases performed with
  | nothing undone empty => exact still empty (sending_of_not_done (answered ▸ undone)) rfl
  | bound binds => exact still (by simp) (sending_of_not_send (by simp)) (Hub.underway_bind binds r)
  | unbound tied | connected found | cloned held | dropped =>
      exact still (by simp) (sending_of_not_send (by simp)) (Hub.underway_close _ _ r)
  | kept other => exact still (by simp) (sending_of_not_send (by simp)) rfl
  | @sent n f link hub held sends =>
      have inRange := begun.inRange n _ (by rw [held, Link.binding?_outlet])
      have sent : x.sending (.send n f) = [⟨link.outlet, f⟩] := by
        simp only [sending, Step.name, ← sockets, held, answered]
      rw [receiving_of_not_frame (by simp [answered]), sent]
      exact Hub.underway_send inRange sends r
  | @received _ f link hub receives held takes =>
      have inRange := begun.inRange s.name _ (by rw [held, Link.binding?_inlet])
      have got : x.receiving s = [⟨link.inlet, f⟩] := by
        simp only [receiving, ← sockets, held, answered]
      rw [sending_of_not_done (by simp [answered]), got, Route.frames_nil, List.append_nil]
      exact (Hub.underway_receive inRange takes r).symm

/-! ## A row of operations -/

/-- What the operations of a row send or receive, one after the other. -/
def history (of : Exchange → Step → List Passage) (x : Exchange) : List Step → List Passage
  | [] => []
  | s :: rest => of x s ++ history of (x.step s).2 rest

/-- What was received over a route, and then what is underway, is what was underway and then what was sent. -/
theorem Agreed.account_run (agreed : x.Agreed) (steps : List Step) (r : Route) :
    r.frames (x.history receiving steps) ++ (x.run steps).2.hub.underway r =
      x.hub.underway r ++ r.frames (x.history sending steps) := by
  induction steps generalizing x with
  | nil => simp [history]
  | cons s rest ih =>
      calc r.frames (x.history receiving (s :: rest)) ++ (x.run (s :: rest)).2.hub.underway r
          = r.frames (x.receiving s) ++ (r.frames ((x.step s).2.history receiving rest) ++
              ((x.step s).2.run rest).2.hub.underway r) := by simp [history]
        _ = r.frames (x.receiving s) ++ (x.step s).2.hub.underway r ++
              r.frames ((x.step s).2.history sending rest) := by rw [ih (agreed.step s), List.append_assoc]
        _ = x.hub.underway r ++ r.frames (x.history sending (s :: rest)) := by
              rw [agreed.account s r, List.append_assoc, ← Route.frames_append, history]

/-- Everything that was sent has been received, or is underway behind that. -/
theorem account_empty (steps : List Step) (r : Route) :
    r.frames (empty.history sending steps) =
      r.frames (empty.history receiving steps) ++ (empty.run steps).2.hub.underway r := by
  have account := agreed_empty.account_run steps r
  have none : empty.hub.underway r = [] := by
    cases r with
    | mk b way => cases way <;> rfl
  rw [none, List.nil_append] at account
  exact account.symm

/-! ### Bindings that have begun -/

/-- A frame is sent along a route that was begun. -/
theorem Agreed.begun_sending (agreed : x.Agreed) {p : Passage} (sent : p ∈ x.sending s) :
    p.route.binding < x.hub.channels.length := by
  unfold sending at sent
  split at sent
  · next n f link held _ =>
      obtain rfl := List.mem_singleton.mp sent
      exact agreed.inRange _ _ (by rw [held, Link.binding?_outlet])
  · cases sent

/-- A frame is received along a route that was begun. -/
theorem Agreed.begun_receiving (agreed : x.Agreed) {p : Passage} (got : p ∈ x.receiving s) :
    p.route.binding < x.hub.channels.length := by
  unfold receiving at got
  split at got
  · next link f held _ =>
      obtain rfl := List.mem_singleton.mp got
      exact agreed.inRange _ _ (by rw [held, Link.binding?_inlet])
  · cases got

theorem length_step (x : Exchange) (s : Step) : x.hub.channels.length ≤ (x.step s).2.hub.channels.length := by
  obtain ⟨y, hub, -, performed⟩ := x.stepped s
  generalize (x.step s).1 = a, (x.step s).2 = after at performed ⊢
  rw [← hub]
  cases performed with
  | nothing undone empty => exact le_rfl
  | bound binds => exact (Hub.length_of_bind binds).ge.trans' (Nat.le_succ _)
  | unbound tied | connected found | cloned held | dropped => exact (length_drop y _).ge
  | kept other => exact le_rfl
  | sent held sends => exact (Hub.moved_send sends).length.ge
  | received receives held takes => exact (Hub.moved_receive takes).length.ge

/-- Frames pass only over bindings that have begun by then. -/
theorem Agreed.begun_history (agreed : x.Agreed) {of : Exchange → Step → List Passage}
    (begun : ∀ y s, y.Agreed → ∀ p ∈ of y s, p.route.binding < y.hub.channels.length) (steps : List Step) :
    ∀ p ∈ x.history of steps, p.route.binding < (x.run steps).2.hub.channels.length := by
  have grows (steps : List Step) (y : Exchange) :
      y.hub.channels.length ≤ (y.run steps).2.hub.channels.length := by
    induction steps generalizing y with
    | nil => exact le_rfl
    | cons s rest ih => exact (y.length_step s).trans (ih _)
  induction steps generalizing x with
  | nil => exact nofun
  | cons s rest ih =>
      intro p passed
      rcases List.mem_append.mp passed with now | later
      · exact (begun x s agreed p now).trans_le (grows (s :: rest) x)
      · exact ih (agreed.step s) p later

/-! ### Receivers -/

/-- A receiver takes what the hub has for its socket. -/
theorem step_of_receives (receives : s.Receives) :
    ∃ absent, absent ≠ .done ∧ (∀ f, absent ≠ .frame f) ∧ (∀ e, absent ≠ .failed (.disconnected e)) ∧
      x.step s = (x.put s.name (x.socket s.name)).received absent (x.hub.receive (x.socket s.name)) := by
  have performs := perform_of_receives (x := x.put s.name (x.socket s.name)) receives
  rwa [hub_put, x.socket_put_self s.name s.name] at performs

/-- The first frame underway is what a receiver gets. -/
theorem step_frame_iff {link : Link} (held : x.socket s.name = some link) (receives : s.Receives) (f : Frame) :
    (x.step s).1 = .frame f ↔ ∃ rest, x.hub.underway link.inlet = f :: rest := by
  obtain ⟨absent, -, noFrame, -, stepped⟩ := step_of_receives (x := x) receives
  rw [stepped, held]
  cases link with
  | bound e b =>
      rcases waiting : (x.hub.channelsOf b).toOwner with _ | ⟨g, rest⟩ <;>
        simp [Hub.receive, Hub.underway, Link.inlet, waiting, Exchange.received, noFrame]
  | connected e b =>
      rcases waiting : (x.hub.channelsOf b).toPeers with _ | ⟨g, rest⟩
      · by_cases alive : (x.hub.channelsOf b).live = true <;>
          simp [Hub.receive, Hub.underway, Link.inlet, waiting, Exchange.received, noFrame, alive]
      · simp [Hub.receive, Hub.underway, Link.inlet, waiting, Exchange.received]

/-- A receiver is told that the bound socket is gone when it is, and no frame is underway. -/
theorem Agreed.step_disconnected_iff (agreed : x.Agreed) {link : Link} (held : x.socket s.name = some link)
    (receives : s.Receives) :
    (x.step s).1 = .failed (.disconnected link.endpoint) ↔
      x.hub.underway link.inlet = [] ∧ ∀ m e, x.socket m ≠ some (.bound e link.inlet.binding) := by
  obtain ⟨absent, -, -, noEnd, stepped⟩ := step_of_receives (x := x) receives
  rw [stepped, held]
  cases link with
  | bound e b =>
      have owned : ¬ ∀ m e', x.socket m ≠ some (.bound e' b) := fun none => none _ _ held
      rcases waiting : (x.hub.channelsOf b).toOwner with _ | ⟨g, rest⟩ <;>
        simp [Hub.receive, Hub.underway, Link.inlet, waiting, Exchange.received, noEnd, owned]
  | connected e b =>
      have gone : (x.hub.channelsOf b).live = false ↔ ∀ m e', x.socket m ≠ some (.bound e' b) := by
        rw [← Bool.not_eq_true, agreed.live_iff]
        simp
      rcases waiting : (x.hub.channelsOf b).toPeers with _ | ⟨g, rest⟩
      · by_cases alive : (x.hub.channelsOf b).live = true <;>
          simp [Hub.receive, Hub.underway, Link.inlet, Link.endpoint, waiting, Exchange.received, noEnd, alive,
            ← gone]
      · simp [Hub.receive, Hub.underway, Link.inlet, waiting, Exchange.received]

/-! ### The law of delivery -/

/-- Binding takes the next number. -/
theorem socket_of_bind {n : String} {e : Endpoint} (done : (x.step (.bind n e)).1 = .done) :
    (x.step (.bind n e)).2.socket n = some (.bound e x.hub.channels.length) := by
  obtain ⟨y, hub, -, performed⟩ := x.stepped (.bind n e)
  generalize (x.step (.bind n e)).1 = a, (x.step (.bind n e)).2 = after at performed done ⊢
  cases performed with
  | nothing undone => exact absurd done undone
  | bound binds =>
      obtain ⟨-, -, rfl, -⟩ := Hub.bind_eq_ok binds
      rw [socket_put, if_pos rfl, hub]
  | received => cases done

/-- A connection is to the socket that is bound to the endpoint. -/
theorem Agreed.socket_of_connect (agreed : x.Agreed) {n : String} {e : Endpoint}
    (done : (x.step (.connect n e)).1 = .done) :
    ∃ m b, x.socket m = some (.bound e b) ∧ (x.step (.connect n e)).2.socket n = some (.connected e b) := by
  obtain ⟨y, hub, -, performed⟩ := x.stepped (.connect n e)
  generalize (x.step (.connect n e)).1 = a, (x.step (.connect n e)).2 = after at performed done ⊢
  cases performed with
  | nothing undone => exact absurd done undone
  | @connected _ _ b found =>
      obtain ⟨m, bound⟩ := (agreed.registered e b).mp (hub ▸ found)
      exact ⟨m, b, bound, by rw [socket_replace, if_pos rfl]⟩
  | received => cases done

/-- A copy is connected to the binding that the original is connected to. -/
theorem socket_of_clone {n copy : String} (done : (x.step (.clone n copy)).1 = .done) :
    ∃ e b, x.socket n = some (.connected e b) ∧ (x.step (.clone n copy)).2.socket copy = some (.connected e b) := by
  obtain ⟨y, -, sockets, performed⟩ := x.stepped (.clone n copy)
  generalize (x.step (.clone n copy)).1 = a, (x.step (.clone n copy)).2 = after at performed done ⊢
  cases performed with
  | nothing undone => exact absurd done undone
  | @cloned _ _ e b held => exact ⟨e, b, (sockets n).symm.trans held, by rw [socket_replace, if_pos rfl]⟩
  | received => cases done

/-- The frames received over a route, the first being the first one sent, are a beginning of those sent over it. -/
theorem received_begins_sent (steps : List Step) (r : Route) :
    r.frames (empty.history receiving steps) <+: r.frames (empty.history sending steps) := by
  rw [account_empty steps r]
  exact List.prefix_append _ _

/-- No more is received than was sent, counted frame by frame. -/
theorem received_subperm_sent (steps : List Step) :
    (empty.history receiving steps).Subperm (empty.history sending steps) := by
  refine List.subperm_ext_iff.mpr fun p _ => ?_
  rw [← Route.count_frames p.route p.frame, ← Route.count_frames p.route p.frame]
  exact (received_begins_sent steps p.route).sublist.count_le p.frame

/-- Frames that can be told apart are received once at most, and over the route they were sent over. -/
theorem received_once {sent got : List Passage} (part : got.Subperm sent) (distinct : (sent.map Passage.frame).Nodup) :
    (got.map Passage.frame).Nodup ∧ ∀ p ∈ got, ∀ q ∈ sent, q.frame = p.frame → q = p := by
  refine ⟨?_, fun p passed q sent same => ?_⟩
  · obtain ⟨picked, perm, sublist⟩ := part
    exact (perm.map Passage.frame).nodup_iff.mp (distinct.sublist (sublist.map Passage.frame))
  · exact List.inj_on_of_nodup_map distinct sent (part.subset passed) same

/-- After any row of operations, whether they succeed or fail, and for each binding,

* the frames that all peers together have received from it, in that order, are a beginning of those its socket has sent,
  and the frames its socket has received are a beginning of those its peers have sent;
* nothing is received that was not sent, over the same binding and as often: if the frames can be told apart, none is
  received twice, and none that was sent over another binding;
* a socket that is bound next gets a binding over which nothing was sent or received so far, one that is connected
  next gets the binding of the socket that is bound there, and a copy gets that of its original;
* whoever receives next gets the first frame that was sent to it and not received yet, if there is one, also after the
  bound socket is gone; it is told that the socket is gone exactly when it is, and all that was sent is received. -/
theorem delivers_in_order (steps : List Step) :
    let x := (empty.run steps).2
    let sent := empty.history sending steps
    let got := empty.history receiving steps
    (∀ r : Route, r.frames got <+: r.frames sent) ∧
    got.Subperm sent ∧
    ((sent.map Passage.frame).Nodup →
      (got.map Passage.frame).Nodup ∧ ∀ p ∈ got, ∀ q ∈ sent, q.frame = p.frame → q = p) ∧
    (∀ n e, (x.step (.bind n e)).1 = .done →
      ∃ b, (x.step (.bind n e)).2.socket n = some (.bound e b) ∧ ∀ p ∈ sent ++ got, p.route.binding ≠ b) ∧
    (∀ n e, (x.step (.connect n e)).1 = .done →
      ∃ m b, x.socket m = some (.bound e b) ∧ (x.step (.connect n e)).2.socket n = some (.connected e b)) ∧
    (∀ n copy, (x.step (.clone n copy)).1 = .done →
      ∃ e b, x.socket n = some (.connected e b) ∧ (x.step (.clone n copy)).2.socket copy = some (.connected e b)) ∧
    ∀ s link, s.Receives → x.socket s.name = some link →
      (∀ f, (x.step s).1 = .frame f ↔ ∃ rest, link.inlet.frames sent = link.inlet.frames got ++ f :: rest) ∧
      ((x.step s).1 = .failed (.disconnected link.endpoint) ↔
        link.inlet.frames got = link.inlet.frames sent ∧ ∀ m e, x.socket m ≠ some (.bound e link.inlet.binding)) := by
  have agreed := agreed_empty.run steps
  have part := received_subperm_sent steps
  refine ⟨received_begins_sent steps, part, received_once part, fun n e done => ?_,
    fun n e done => agreed.socket_of_connect done, fun n copy done => socket_of_clone done,
    fun s link receives held => ⟨fun f => ?_, ?_⟩⟩
  · refine ⟨_, socket_of_bind done, fun p passed => Nat.ne_of_lt ?_⟩
    rcases List.mem_append.mp passed with sent | got
    · exact agreed_empty.begun_history (fun _ _ before _ => before.begun_sending) steps p sent
    · exact agreed_empty.begun_history (fun _ _ before _ => before.begun_receiving) steps p got
  · rw [step_frame_iff held receives, account_empty steps link.inlet]
    simp only [List.append_cancel_left_eq]
  · rw [agreed.step_disconnected_iff held receives, account_empty steps link.inlet, List.self_eq_append_right]

/-- Two peers share what a socket sends, one of them connected after the first frame. The endpoint is bound by another
socket before the rest is received. -/
def sampleDelivery : List Step :=
  [.bind "first" "a", .send "first" [1], .connect "early" "a", .clone "early" "late", .send "first" [2],
    .send "first" [3], .receive "late", .send "late" [4], .tryReceive "first", .drop "first", .bind "second" "a",
    .send "second" [5], .receiveWithin "early" ⟨1⟩]

/-- A copy gets what its peer has left of the frames, and the peer learns then that the owner is gone. -/
theorem delivers_in_order_sampleDelivery :
    (empty.history receiving sampleDelivery).Subperm (empty.history sending sampleDelivery) ∧
    (((empty.run sampleDelivery).2.step (.receive "late")).1 = .frame [3]) ∧
    ((empty.run (sampleDelivery ++ [.receive "late"])).2.step (.tryReceive "early")).1 =
      .failed (.disconnected "a") := by
  obtain ⟨-, part, -, -, -, -, next⟩ := delivers_in_order sampleDelivery
  obtain ⟨-, -, -, -, -, -, last⟩ := delivers_in_order (sampleDelivery ++ [.receive "late"])
  refine ⟨part, ((next (.receive "late") (.connected "a" 0) trivial (by decide)).1 [3]).mpr ⟨[], by decide⟩,
    (last (.tryReceive "early") (.connected "a" 0) trivial (by decide)).2.mpr ⟨by decide, fun m e bound => ?_⟩⟩
  exact absurd (((agreed_empty.run _).live_iff 0).mpr ⟨m, e, bound⟩) (by decide)

end Exchange
end DebugBridge
