import DebugBridge.Proofs.Bridge.Ended

/-!
# Frames between the control side and its workers

At a binding of the control side frames pass in both directions. What the control side sends there is taken by workers,
in the order in which it was sent, or still waits (`Reached.conserved`); what waits for the control side was sent by
workers (`Turned.returned`). Both are read off the deeds.
-/

namespace DebugBridge

/-! ## Peers -/

namespace Socket

/-- A socket that is connected, or has no link. -/
def IsPeer (s : Socket) : Prop :=
  s = none ∨ ∃ e q, s = some (.connected e q)

/-- A socket that is bound, or has no link. -/
def IsOwner (s : Socket) : Prop :=
  s = none ∨ ∃ e q, s = some (.bound e q)

end Socket

namespace Hub

variable {hub next : Hub} {s : Socket}

/-- Frames come and go at a binding as a peer takes some. -/
structure Took (hub : Hub) (s : Socket) (frames : List Frame) (next : Hub) : Prop where
  toPeers : ∀ q, (hub.channelsOf q).toPeers =
    (if s.binding? = some q then frames else []) ++ (next.channelsOf q).toPeers
  toOwner : ∀ q, (next.channelsOf q).toOwner = (hub.channelsOf q).toOwner

/-- A peer that takes what waits first leaves the rest. -/
theorem took_setWaiting (peer : s.IsPeer) {frames rest : List Frame} (waits : hub.waiting s = frames ++ rest) :
    hub.Took s frames (hub.setWaiting s rest) := by
  rcases peer with rfl | ⟨e, q, rfl⟩
  · obtain ⟨rfl, rfl⟩ := List.append_eq_nil_iff.mp waits.symm
    exact ⟨fun q => by simp [Socket.binding?, setWaiting], fun q => rfl⟩
  · have at_q : (hub.channelsOf q).toPeers = frames ++ rest := waits
    by_cases inRange : q < hub.channels.length
    · have changed := channelsOf_modify hub (fun c => { c with toPeers := rest }) inRange
      constructor <;> intro b <;> rcases eq_or_ne q b with rfl | other
      · simp [Socket.binding?, setWaiting, changed, at_q]
      · simp [Socket.binding?, setWaiting, channelsOf_modify_of_ne _ _ other, other]
      · simp [setWaiting, changed]
      · simp [setWaiting, channelsOf_modify_of_ne _ _ other]
    · have nothing : hub.channelsOf q = ⟨false, [], []⟩ := by
        simp [channelsOf, List.getElem?_eq_none (Nat.le_of_not_lt inRange)]
      rw [nothing] at at_q
      obtain ⟨rfl, rfl⟩ := List.append_eq_nil_iff.mp at_q.symm
      have same : hub.setWaiting (some (.connected e q)) [] = hub := by
        rw [setWaiting, modify, List.modify_eq_self (Nat.le_of_not_lt inRange)]
      rw [same]
      exact ⟨fun b => by simp, fun b => rfl⟩

/-- A peer that receives takes the first frame that waits for it. -/
theorem took_receive (peer : s.IsPeer) {frame : Frame} (received : hub.receive s = .ok (some frame, next)) :
    hub.Took s [frame] next := by
  obtain ⟨rest, waits, rfl⟩ := waiting_of_receive received
  exact took_setWaiting peer waits

/-- A peer's frame comes behind those for the owner, and no other frame is touched. -/
theorem sent_by_peer (peer : s.IsPeer) {frame : Frame} (sent : hub.send s frame = .ok next) (q : Nat) :
    (next.channelsOf q).toPeers = (hub.channelsOf q).toPeers ∧
      ∀ f ∈ (next.channelsOf q).toOwner, f ∈ (hub.channelsOf q).toOwner ∨ s.binding? = some q ∧ f = frame := by
  rcases peer with rfl | ⟨e, b, rfl⟩
  · cases sent
  · simp only [send] at sent
    split at sent
    · cases sent
      rcases eq_or_ne b q with rfl | other
      · by_cases inRange : b < hub.channels.length
        · rw [channelsOf_modify hub _ inRange]
          refine ⟨rfl, fun f member => ?_⟩
          rcases List.mem_append.mp member with earlier | added
          · exact .inl earlier
          · exact .inr ⟨rfl, List.mem_singleton.mp added⟩
        · have none : hub.channels.length ≤ b := Nat.le_of_not_lt inRange
          simp [modify, channelsOf, none]
      · rw [channelsOf_modify_of_ne hub _ other]
        exact ⟨rfl, fun f => .inl⟩
    · cases sent

/-- A peer that sends takes nothing away and adds one frame, for the owner. -/
theorem sentIfPossible_by_peer (peer : s.IsPeer) (hub : Hub) (frame : Frame) (q : Nat) :
    ((Worker.sendIfPossible hub s frame).channelsOf q).toPeers = (hub.channelsOf q).toPeers ∧
      ∀ f ∈ ((Worker.sendIfPossible hub s frame).channelsOf q).toOwner,
        f ∈ (hub.channelsOf q).toOwner ∨ s.binding? = some q ∧ f = frame := by
  rw [Worker.sendIfPossible]
  cases sent : hub.send s frame with
  | error e => exact ⟨rfl, fun f => .inl⟩
  | ok next => exact sent_by_peer peer sent q

theorem Holds.isOwner {e : Endpoint} (holds : hub.Holds s e) : s.IsOwner := by
  rcases holds with ⟨free, -⟩ | ⟨q, bound, -⟩
  · exact .inl free
  · exact .inr ⟨e, q, bound⟩

/-- What an owner takes is not what waits for peers. -/
theorem toPeers_setWaiting (owner : s.IsOwner) {frames : List Frame} (q : Nat) :
    ((hub.setWaiting s frames).channelsOf q).toPeers = (hub.channelsOf q).toPeers := by
  rcases owner with rfl | ⟨e, b, rfl⟩
  · rfl
  · rcases eq_or_ne b q with rfl | other
    · by_cases inRange : b < hub.channels.length
      · rw [setWaiting, channelsOf_modify hub _ inRange]
      · simp [setWaiting, modify, channelsOf, Nat.le_of_not_lt inRange]
    · rw [setWaiting, channelsOf_modify_of_ne hub _ other]

/-- What an owner sends does not wait for owners. -/
theorem toOwner_of_send (owner : s.IsOwner) {frame : Frame} (sent : hub.send s frame = .ok next) (q : Nat) :
    (next.channelsOf q).toOwner = (hub.channelsOf q).toOwner := by
  rcases owner with rfl | ⟨e, b, rfl⟩
  · cases sent
  · cases sent
    rcases eq_or_ne b q with rfl | other
    · by_cases inRange : b < hub.channels.length
      · rw [channelsOf_modify hub _ inRange]
      · simp [modify, channelsOf, Nat.le_of_not_lt inRange]
    · rw [channelsOf_modify_of_ne hub _ other]

/-- Taking frames leaves the others. -/
theorem toOwner_setWaiting_subset {taken rest : List Frame} (waits : hub.waiting s = taken ++ rest) (q : Nat) :
    ((hub.setWaiting s rest).channelsOf q).toOwner ⊆ (hub.channelsOf q).toOwner := by
  rcases s with _ | ⟨e, b⟩ | ⟨e, b⟩
  · exact List.Subset.refl _
  · rcases eq_or_ne b q with rfl | other
    · by_cases inRange : b < hub.channels.length
      · rw [setWaiting, channelsOf_modify hub _ inRange]
        rw [waiting] at waits
        exact waits ▸ List.subset_append_right _ _
      · simp [setWaiting, modify, channelsOf, Nat.le_of_not_lt inRange]
    · rw [setWaiting, channelsOf_modify_of_ne hub _ other]
      exact List.Subset.refl _
  · rw [(took_setWaiting (.inr ⟨e, b, rfl⟩) waits).toOwner q]
    exact List.Subset.refl _

theorem length_unbind (hub : Hub) (s : Socket) (e : Endpoint) :
    (hub.unbind s e).1.channels.length = hub.channels.length := by
  match s with
  | none | some (.connected _ _) => rfl
  | some (.bound e' b) =>
      rw [unbind]
      split
      · exact length_release ..
      · rfl

/-- Whatever others do, no binding is forgotten. -/
theorem Use.length_le {endpoints : List Endpoint} {untouched : Nat → Prop} (use : hub.Use endpoints untouched next) :
    hub.channels.length ≤ next.channels.length := by
  cases use with
  | bind other bound =>
      rw [length_of_bind bound]
      omega
  | release other owned => rw [length_release]
  | send apart sent => exact (moved_send sent).length.ge
  | receive apart received => exact (moved_receive received).length.ge

end Hub

/-! ## Turns -/

/-- The frame that a note tells was taken off a binding. -/
def Note.got? (q : Nat) : Note → Option Frame
  | .got (some b) frame => if b = q then some frame else none
  | _ => none

/-- What a worker sends to the control side. -/
def Courier.Returns (c : Courier) (frame : Frame) : Prop :=
  frame = isReady ∨ frame = givesUp ∨ ∃ v, .reply v ∈ c.doing ∧ frame = Json.encode v

namespace Courier

variable {c : Courier} {s : Session} {done : Courier × Session × List Note}

/-- A worker has no endpoint of its own, so it owns no binding. -/
theorem isPeer_of_placed {w : Worker} (placed : Bridge.Placed s w) (publisher : s.Publishes) :
    w.request.IsPeer ∧ w.header.IsPeer ∧ w.publisher.IsPeer := by
  rcases placed with free | ⟨q, h, tied, -, -, attached⟩
  · simp only [Worker.sockets, Prod.mk.injEq] at free
    exact ⟨.inl free.1, .inl free.2.1, .inl free.2.2⟩
  · obtain ⟨p, socket, -⟩ := publisher
    exact ⟨.inr ⟨_, q, tied.request⟩, .inr ⟨_, h, tied.header⟩, .inr ⟨_, p, attached p socket⟩⟩

/-- Frames that were taken off a socket's binding were taken off that one. -/
theorem got_of_notes (frames : List Frame) {s : Socket} {q : Nat} :
    (frames.map (Note.got s.binding?)).filterMap (Note.got? q) = if s.binding? = some q then frames else [] := by
  rw [List.filterMap_map]
  rcases binding : s.binding? with _ | b
  · exact List.filterMap_eq_nil_iff.mpr fun _ _ => rfl
  · rcases eq_or_ne b q with rfl | other
    · simp [Function.comp_def, Note.got?]
    · simp [Function.comp_def, Note.got?, other]

/-- What waits for workers at a binding was there before a turn, behind what was taken in it. What waits for the
control side was there, or the worker has sent it. -/
theorem Turned.frames (turned : Turned c s done) (placed : Bridge.Placed s c.worker) (publisher : s.Publishes)
    (q : Nat) :
    (s.hub.channelsOf q).toPeers = done.2.2.filterMap (Note.got? q) ++ (done.2.1.hub.channelsOf q).toPeers ∧
      ∀ f ∈ (done.2.1.hub.channelsOf q).toOwner,
        f ∈ (s.hub.channelsOf q).toOwner ∨ c.worker.request.binding? = some q ∧ c.Returns f ∨
          c.worker.publisher.binding? = some q := by
  obtain ⟨request, header, published⟩ := isPeer_of_placed placed publisher
  have unchanged {done : Courier × Session × List Note} (hub : done.2.1.hub = s.hub)
      (none : done.2.2.filterMap (Note.got? q) = []) :
      (s.hub.channelsOf q).toPeers = done.2.2.filterMap (Note.got? q) ++ (done.2.1.hub.channelsOf q).toPeers ∧
        ∀ f ∈ (done.2.1.hub.channelsOf q).toOwner,
          f ∈ (s.hub.channelsOf q).toOwner ∨ c.worker.request.binding? = some q ∧ c.Returns f ∨
            c.worker.publisher.binding? = some q := by
    rw [hub, none]
    exact ⟨rfl, fun f => .inl⟩
  have answers {frame : Frame} (returns : c.Returns frame) {old new : List Frame}
      (added : ∀ f ∈ new, f ∈ old ∨ c.worker.request.binding? = some q ∧ f = frame) :
      ∀ f ∈ new, f ∈ old ∨ c.worker.request.binding? = some q ∧ c.Returns f ∨
        c.worker.publisher.binding? = some q := by
    intro f member
    rcases added f member with earlier | ⟨tied, rfl⟩
    · exact .inl earlier
    · exact .inr (.inl ⟨tied, returns⟩)
  cases turned with
  | still | embarked new connected | failed early | reached dialling | unheard connected unsent | heard v reading
    | lost reading | gone listening received | closed relaying free waits | finished closing deaf =>
        exact unchanged rfl rfl
  | greeted greeting received | fetched listening received =>
      have took := Hub.took_receive request received
      have taken := took.toPeers q
      rw [← got_of_notes] at taken
      refine ⟨taken, fun f member => .inl ?_⟩
      rw [took.toOwner q] at member
      exact member
  | @declined frame hub result greeting received =>
      have took := Hub.took_receive request received
      have taken := took.toPeers q
      obtain ⟨kept, added⟩ := Hub.sentIfPossible_by_peer request hub givesUp q
      rw [← got_of_notes, ← kept] at taken
      rw [took.toOwner q] at added
      exact ⟨taken, answers (.inr (.inl rfl)) added⟩
  | refused dialling =>
      obtain ⟨kept, added⟩ := Hub.sentIfPossible_by_peer request s.hub givesUp q
      exact ⟨kept.symm, answers (.inr (.inl rfl)) added⟩
  | acknowledged connected sent =>
      obtain ⟨kept, added⟩ := Hub.sent_by_peer request sent q
      exact ⟨kept.symm, answers (.inl rfl) added⟩
  | @accepted i inbox written relaying free waits =>
      obtain ⟨next, -, hub, taken⟩ := accept_eq { c with inbox } s.hub written i
      have silent (inputs : List (Relay.Input × Except Error Unit)) :
          (inputs.map fun p => Note.took p.1 p.2).filterMap (Note.got? q) = [] := by
        rw [List.filterMap_map]
        exact List.filterMap_eq_nil_iff.mpr fun _ _ => rfl
      rw [taken]
      simp only [List.filterMap_append, silent, List.append_nil]
      rcases hub with ⟨rfl, none⟩ | ⟨rfl, all⟩
      · rw [none]
        exact ⟨rfl, fun f => .inl⟩
      · have took := Hub.took_setWaiting header (List.append_nil (s.hub.waiting c.worker.header)).symm
        rw [all]
        have taken := took.toPeers q
        rw [← got_of_notes] at taken
        refine ⟨taken, fun f member => .inl ?_⟩
        rw [took.toOwner q] at member
        exact member
  | @acted output doing does =>
      cases output with
      | write message | unwritten message | observe event => exact unchanged rfl rfl
      | reply message =>
          obtain ⟨kept, added⟩ := Hub.sentIfPossible_by_peer request s.hub (Json.encode message) q
          exact ⟨kept.symm, answers (.inr (.inr ⟨message, does ▸ List.mem_cons_self, rfl⟩)) added⟩
      | publish header event =>
          obtain ⟨kept, added⟩ := Hub.sentIfPossible_by_peer published s.hub (Relay.eventFrame header event) q
          refine ⟨kept.symm, fun f member => ?_⟩
          rcases added f member with earlier | ⟨tied, -⟩
          · exact .inl earlier
          · exact .inr (.inr tied)

end Courier

/-! ## Deeds -/

/-- The frame that was taken off a binding. -/
def Deed.got? (q : Nat) : Deed → Option Frame
  | .courier _ note => note.got? q
  | _ => none

/-- The frame that the control side sent at a binding. -/
def Deed.sent? (q : Nat) : Deed → Option Frame
  | .sent s frame => if s.binding? = some q then some frame else none
  | _ => none

namespace Bridge

variable {σ : Type}

/-- The frames that workers took off a binding. -/
def gotAt (b : Bridge σ) (q : Nat) : List Frame :=
  b.deeds.filterMap (Deed.got? q)

/-- The frames that the control side sent at a binding. -/
def sentAt (b : Bridge σ) (q : Nat) : List Frame :=
  b.deeds.filterMap (Deed.sent? q)

/-- The bindings at which the control side and its workers exchange frames. -/
def controlBindings (b : Bridge σ) (q : Nat) : Prop :=
  b.session.request.binding? = some q ∨ b.session.header.binding? = some q ∨
    ∃ c ∈ b.couriers, c.worker.request.binding? = some q ∨ c.worker.header.binding? = some q

variable {out : Outside σ} {b : Bridge σ}

/-- What is taken off a binding is taken by a worker. -/
theorem got_of_courier (n q : Nat) (notes : List Note) :
    (notes.map (Deed.courier n)).filterMap (Deed.got? q) = notes.filterMap (Note.got? q) := by
  rw [List.filterMap_map]
  rfl

/-- What is sent at a control endpoint is not sent by a worker. -/
theorem sent_of_courier (n q : Nat) (notes : List Note) :
    (notes.map (Deed.courier n)).filterMap (Deed.sent? q) = [] := by
  rw [List.filterMap_map]
  exact List.filterMap_eq_nil_iff.mpr fun _ _ => rfl

/-- Only the control side's own endpoints ever lead to its bindings. -/
theorem Sound.reserved_of_control (sound : b.Sound) {q : Nat} (own : b.controlBindings q) :
    b.session.hub.Reserved requestEndpoint q ∨ b.session.hub.Reserved headerEndpoint q := by
  have held {s : Socket} {e : Endpoint} (holds : b.session.hub.Holds s e) (tied : s.binding? = some q) :
      b.session.hub.Reserved e q := by
    rcases holds with ⟨rfl, -⟩ | ⟨q', rfl, bound⟩
    · cases tied
    · cases tied
      exact sound.hub.reserved bound
  rcases own with request | header | ⟨c, member, tie⟩
  · exact .inl (held sound.request request)
  · exact .inr (held sound.header header)
  · rcases sound.couriers c member with free | ⟨q', h, tied, atRequest, atHeader, -⟩
    · simp only [Worker.sockets, Prod.mk.injEq] at free
      rcases tie with request | header
      · rw [free.1] at request
        cases request
      · rw [free.2.1] at header
        cases header
    · rcases tie with request | header
      · rw [tied.request] at request
        cases request
        exact .inl atRequest
      · rw [tied.header] at header
        cases header
        exact .inr atHeader

/-- Frames at the control side's bindings, and the deeds that tell of them. -/
structure Conserved (b : Bridge σ) : Prop where
  /-- What was sent was taken, in that order, or still waits. -/
  sent : ∀ q, b.controlBindings q → b.sentAt q = b.gotAt q ++ (b.session.hub.channelsOf q).toPeers
  /-- Nothing is told of bindings that are not there yet. -/
  unused : ∀ q, b.session.hub.channels.length ≤ q → b.sentAt q = [] ∧ b.gotAt q = []

/-- Where what waits for workers is kept and no other binding becomes the control side's, its frames are conserved. -/
theorem Conserved.of_same {next : Bridge σ} (conserved : b.Conserved)
    (own : ∀ q, next.controlBindings q → b.controlBindings q)
    (sent : ∀ q, next.sentAt q = b.sentAt q) (got : ∀ q, next.gotAt q = b.gotAt q)
    (toPeers : ∀ q, b.controlBindings q →
      (next.session.hub.channelsOf q).toPeers = (b.session.hub.channelsOf q).toPeers)
    (longer : b.session.hub.channels.length ≤ next.session.hub.channels.length) : next.Conserved := by
  refine ⟨fun q control => ?_, fun q new => ?_⟩
  · rw [sent, got, toPeers q (own q control)]
    exact conserved.sent q (own q control)
  · rw [sent, got]
    exact conserved.unused q (longer.trans new)

/-- A worker finds no other bindings than those of the control sockets. -/
theorem Sound.control_of_turn (sound : b.Sound) {n : Nat} {turn : Turn} {q : Nat}
    (own : (b.happen (.turn n turn)).controlBindings q) : b.controlBindings q := by
  have control := b.control_happen (.turn n turn)
  have request := Session.request_of_control control
  have header := Session.header_of_control control
  simp only [controlBindings, request, header] at own ⊢
  rcases own with atRequest | atHeader | ⟨d, member, tie⟩
  · exact .inl atRequest
  · exact .inr (.inl atHeader)
  · rw [happen] at member
    cases found : b.couriers[n]? with
    | none =>
        rw [found] at member
        exact .inr (.inr ⟨d, member, tie⟩)
    | some c =>
        rw [found] at member
        have turned := c.take_cases b.session turn
        rcases List.mem_or_eq_of_mem_set member with earlier | rfl
        · exact .inr (.inr ⟨d, earlier, tie⟩)
        · rcases turned.sockets with same | ⟨-, connected⟩
          · simp only [Worker.sockets, Prod.mk.injEq] at same
            rw [same.1, same.2.1] at tie
            exact .inr (.inr ⟨c, List.mem_of_getElem? found, tie⟩)
          · exact (sound.binds_of_connect connected tie).imp_right .inl

/-- A turn of a worker takes frames at most once, and in order. -/
theorem Conserved.turn (conserved : b.Conserved) (sound : b.Sound) (n : Nat) (turn : Turn) :
    (b.happen (.turn n turn)).Conserved := by
  have own {q : Nat} := @Sound.control_of_turn _ _ sound n turn q
  rw [happen] at own ⊢
  cases found : b.couriers[n]? with
  | none => exact conserved
  | some c =>
      rw [found] at own
      have turned := c.take_cases b.session turn
      have frames (q : Nat) := (turned.frames (sound.couriers c (List.mem_of_getElem? found)) sound.publisher q).1
      simp only at own ⊢
      generalize c.take b.session turn = done at turned frames own ⊢
      obtain ⟨c', session, notes⟩ := done
      constructor
      · intro q control
        have before := conserved.sent q (own control)
        rw [frames q] at before
        simpa only [sentAt, gotAt, List.filterMap_append, got_of_courier, sent_of_courier, List.append_nil,
          List.append_assoc] using before
      · intro q new
        have moved := turned.moved.length
        have absent : b.session.hub.channels.length ≤ q := moved ▸ new
        have nothing : (b.session.hub.channelsOf q).toPeers = [] := by
          simp [Hub.channelsOf, List.getElem?_eq_none absent]
        obtain ⟨sent, got⟩ := conserved.unused q absent
        have none : notes.filterMap (Note.got? q) = [] := (List.append_eq_nil_iff.mp ((frames q).symm.trans nothing)).1
        constructor
        · rw [sentAt, List.filterMap_append, sent_of_courier, List.append_nil]
          exact sent
        · rw [gotAt, List.filterMap_append, got_of_courier, none, List.append_nil]
          exact got

/-- A binding that was just made has no frames, and no other one is touched. -/
theorem Conserved.bound {next : Bridge σ} (conserved : b.Conserved) (sound : b.Sound) {s t : Socket} {e : Endpoint}
    (taken : b.session.hub.bind s e = .ok (next.session.hub, t)) (deeds : next.deeds = b.deeds)
    (own : ∀ q, next.controlBindings q → q = b.session.hub.channels.length ∨ b.controlBindings q) : next.Conserved := by
  have length := Hub.length_of_bind taken
  constructor
  · intro q control
    rw [sentAt, gotAt, deeds]
    rcases own q control with rfl | earlier
    · obtain ⟨sent, got⟩ := conserved.unused _ le_rfl
      rw [Hub.channelsOf_bound taken]
      simp only [sentAt, gotAt] at sent got
      rw [sent, got]
      rfl
    · have inRange := (sound.reserved_of_control earlier).elim Hub.Reserved.inRange Hub.Reserved.inRange
      rw [Hub.channelsOf_of_bind taken inRange]
      exact conserved.sent q earlier
  · intro q new
    rw [sentAt, gotAt, deeds]
    exact conserved.unused q (by omega)

/-- What the control side sends waits behind what was sent before. -/
theorem Conserved.send {next : Bridge σ} (conserved : b.Conserved) (sound : b.Sound) {s : Socket} {frame : Frame}
    (own : s = b.session.request ∨ s = b.session.header) (sent : b.send s frame = .ok next) : next.Conserved := by
  obtain ⟨hub, passed, rfl⟩ := send_eq_ok sent
  have held : ∃ e q, s = some (.bound e q) ∧ b.session.hub.registry.lookup e = some q := by
    have holds : ∃ e, b.session.hub.Holds s e :=
      own.elim (fun same => ⟨_, same ▸ sound.request⟩) fun same => ⟨_, same ▸ sound.header⟩
    obtain ⟨e, ⟨rfl, -⟩ | ⟨q, rfl, bound⟩⟩ := holds
    · cases passed
    · exact ⟨e, q, rfl, bound⟩
  obtain ⟨e, a, rfl, bound⟩ := held
  cases passed
  have inRange := sound.hub.inRange e a bound
  have told (q : Nat) : (Deed.sent (some (.bound e a)) frame).sent? q = if a = q then some frame else none := by
    simp [Deed.sent?, Socket.binding?]
  constructor
  · intro q control
    have before := conserved.sent q control
    simp only [sentAt, gotAt, List.filterMap_append] at before ⊢
    rcases eq_or_ne a q with rfl | other
    · rw [Hub.channelsOf_modify _ _ inRange, before]
      simp [told, Deed.got?]
    · rw [Hub.channelsOf_modify_of_ne _ _ other, before]
      simp [told, other, Deed.got?]
  · intro q new
    have inside : b.session.hub.channels.length ≤ q := by simpa using new
    obtain ⟨sent, got⟩ := conserved.unused q inside
    simp only [sentAt, gotAt, List.filterMap_append] at sent got ⊢
    rw [sent, got]
    have other : a ≠ q := by omega
    simp [told, other, Deed.got?]

/-- Every step keeps what was sent, and what was taken of it, in agreement. -/
theorem Conserved.step {next : Bridge σ} (conserved : b.Conserved) (sound : b.Sound)
    (step : Step out (Allowed controlBindings) b next) : next.Conserved := by
  -- Deeds that tell of no frames leave the accounts as they are.
  have untold {next : Bridge σ} (deed : Deed) (deeds : next.deeds = b.deeds ++ [deed])
      (quiet : ∀ q, deed.sent? q = none ∧ deed.got? q = none) (hub : next.session.hub = b.session.hub)
      (own : ∀ q, next.controlBindings q → b.controlBindings q) : next.Conserved := by
    refine conserved.of_same own (fun q => ?_) (fun q => ?_) (fun q _ => by rw [hub]) (by rw [hub])
    · simp [sentAt, deeds, quiet q]
    · simp [gotAt, deeds, quiet q]
  have freed {next : Bridge σ} (deeds : next.deeds = b.deeds) (own : ∀ q, next.controlBindings q → b.controlBindings q)
      (toPeers : ∀ q, (next.session.hub.channelsOf q).toPeers = (b.session.hub.channelsOf q).toPeers)
      (length : next.session.hub.channels.length = b.session.hub.channels.length) : next.Conserved :=
    conserved.of_same own (fun q => by rw [sentAt, deeds, sentAt]) (fun q => by rw [gotAt, deeds, gotAt])
      (fun q _ => toPeers q) length.ge
  cases step with
  | @happen h allowed =>
      cases h with
      | turn n turn => exact conserved.turn sound n turn
      | outside change => exact ⟨conserved.sent, conserved.unused⟩
      | elsewhere others =>
          rcases allowed b with still | use
          · rw [Bridge.happen, still]
            exact conserved
          · refine conserved.of_same (fun q => id) (fun q => rfl) (fun q => rfl) (fun q own => ?_) use.length_le
            rcases sound.reserved_of_control own with reserved | reserved
            · exact congrArg Channels.toPeers (reserved.channelsOf_use (by decide) own use)
            · exact congrArg Channels.toPeers (reserved.channelsOf_use (by decide) own use)
  | bindRequest bound =>
      obtain ⟨hub, taken, rfl⟩ := Session.bindRequest_eq_ok bound
      refine conserved.bound sound taken rfl fun q own => ?_
      rcases own with request | header | couriers
      · cases request
        exact .inl rfl
      · exact .inr (.inr (.inl header))
      · exact .inr (.inr (.inr couriers))
  | bindHeader bound =>
      obtain ⟨hub, taken, rfl⟩ := Session.bindHeader_eq_ok bound
      refine conserved.bound sound taken rfl fun q own => ?_
      rcases own with request | header | couriers
      · exact .inr (.inl request)
      · cases header
        exact .inl rfl
      · exact .inr (.inr (.inr couriers))
  | freeRequest =>
      obtain ⟨-, -, -, -, -, frames⟩ := sound.request.unbind sound.hub
      refine freed rfl (fun q own => ?_) (fun q => (frames q).1) (Hub.length_unbind ..)
      rcases own with tied | rest
      · rw [sound.freeRequest] at tied
        cases tied
      · exact .inr rest
  | freeHeader =>
      obtain ⟨-, -, -, -, -, frames⟩ := sound.header.unbind sound.hub
      refine freed rfl (fun q own => ?_) (fun q => (frames q).1) (Hub.length_unbind ..)
      rcases own with request | tied | couriers
      · exact .inl request
      · rw [sound.freeHeader] at tied
        cases tied
      · exact .inr (.inr couriers)
  | spawn idle =>
      refine conserved.of_same (fun q own => ?_) (fun q => rfl) (fun q => rfl) (fun q _ => rfl) le_rfl
      rcases own with request | header | ⟨c, member, tie⟩
      · exact .inl request
      · exact .inr (.inl header)
      · rcases List.mem_append.mp member with earlier | new
        · exact .inr (.inr ⟨c, earlier, tie⟩)
        · rw [List.mem_singleton.mp new] at tie
          rcases tie with tie | tie <;> cases tie
  | send own sent => exact conserved.send sound own sent
  | @take s taken rest own waits =>
      -- What the control side takes off a socket was sent by the others.
      have kept (q : Nat) : ((b.session.hub.setWaiting s rest).channelsOf q).toPeers =
          (b.session.hub.channelsOf q).toPeers := by
        refine Hub.toPeers_setWaiting ?_ q
        rcases own with rfl | rfl
        · exact sound.request.isOwner
        · obtain ⟨p, socket, -⟩ := sound.publisher
          exact .inr ⟨_, p, socket⟩
      exact freed rfl (fun q => id) kept (Hub.moved_setWaiting b.session.hub s rest).length
  | wait request header =>
      rw [Bridge.wait]
      split
      · exact untold _ rfl (fun q => ⟨rfl, rfl⟩) rfl fun q => id
      · exact conserved
  | launch => exact untold _ rfl (fun q => ⟨rfl, rfl⟩) rfl fun q => id
  | forgetStopped => exact untold _ rfl (fun q => ⟨rfl, rfl⟩) rfl fun q => id
  | forgetKnown => exact untold _ rfl (fun q => ⟨rfl, rfl⟩) rfl fun q => id
  | outside outside | remember breakpoints => exact ⟨conserved.sent, conserved.unused⟩

/-- What the control side sends at its bindings is taken once, by one of the workers and in the order in which it was
sent, or still waits. -/
theorem Reached.conserved (reached : Reached out (Allowed controlBindings) b) : b.Conserved := by
  refine reached.induct (fun s created o => ⟨fun q own => ?_, fun q _ => ⟨rfl, rfl⟩⟩)
    fun b next reached conserved step => conserved.step reached.sound step
  have idle := created.sound.idle created.worker
  rcases own with request | header | ⟨c, member, -⟩
  · rw [show (ofSession s o).session.request = none from idle.request] at request
    cases request
  · rw [show (ofSession s o).session.header = none from idle.header] at header
    cases header
  · cases member

end Bridge
end DebugBridge
