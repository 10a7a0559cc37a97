import DebugBridge.Proofs.Bridge.Calls
import DebugBridge.Proofs.Bridge.Frames
import DebugBridge.Proofs.Bridge.Lifecycle

/-!
# Failed starts

A start goes through steps, each of which can fail: the directory of the diagnostic file, the launch of the adapter,
the directory of the cell files, the two control endpoints, and the word of the new worker. `start_restores` says that a
failed start frees what it has bound, whoever else uses the hub, and that with no worker left behind it succeeds exactly
if no step fails. Of a failed one nothing is left unless the worker answers when it is too late: one that the control
side no longer waits for may still run its relay until the endpoints are freed (`late_acknowledgement`). What a worker
that was left behind tells of stays as well (`stopped_thread_stays`).
-/

namespace DebugBridge

/-- Releasing an endpoint that was free before it was bound leaves the endpoints before it. -/
theorem Hub.filter_of_free {hub : Hub} {e : Endpoint} (free : hub.isBound e = false) :
    hub.registry.filter (fun r => decide (r.1 ≠ e)) = hub.registry := by
  rw [List.filter_eq_self]
  intro r member
  have apart := List.lookup_eq_none_iff.mp (isBound_eq_false_iff.mp free) r member
  rw [bne_iff_ne] at apart
  exact decide_eq_true (Ne.symm apart)

/-! ## The new worker -/

namespace Courier

variable {c : Courier} {s first : Session} {done : Courier × Session × List Note} {q h least : Nat}

/-- A relay is set to work only by the word that it is ready. -/
theorem eq_acknowledge_of_relaying {turn : Turn} (relaying : (c.take s turn).1.stage = .relaying) :
    c.stage = .relaying ∨ turn = .acknowledge := by
  rw [take.eq_def] at relaying
  split at relaying
  · rw [embark] at relaying
    split at relaying <;> cases relaying
  · rw [greet] at relaying
    split at relaying
    · cases relaying
    · exact .inl relaying
    · split at relaying <;> cases relaying
  · next met dialling => cases met <;> cases relaying
  · exact .inr rfl
  · next a =>
      split at relaying
      · cases a <;> exact .inl relaying
      · exact .inl relaying
  · rw [fetch] at relaying
    split at relaying
    · split at relaying <;> exact .inl relaying
    · exact .inl relaying
  · next working => exact .inl working
  · rw [act] at relaying
    split at relaying <;> exact .inl relaying
  · split at relaying
    · exact .inl relaying
    · cases relaying
  · exact .inl relaying

/-- A worker whose relay was not set to work. All that it has done was done at bindings from a number on, and those at
which it can look for its endpoint are among them. -/
structure Unready (least : Nat) (first : Session) (c : Courier) (s : Session) : Prop where
  regular : c.Regular
  unready : c.stage ≠ .relaying
  link : ∀ q, c.worker.request.binding? = some q → least ≤ q
  endpoint : ∀ q, s.hub.registry.lookup requestEndpoint = some q → least ≤ q
  frames : ∀ b < least, s.hub.channelsOf b = first.hub.channelsOf b
  threads : s.threads = .empty
  outbox : s.outbox = first.outbox

namespace Unready

variable (unready : Unready least first c s)

include unready

/-- It stays so in a session of which no more has changed than bindings from that number on. -/
theorem of_hub {c' : Courier} {next : Session} (regular : c'.Regular) (stage : c'.stage ≠ .relaying)
    (link : ∀ q, c'.worker.request.binding? = some q → least ≤ q)
    (registry : next.hub.registry = s.hub.registry)
    (frames : ∀ b < least, next.hub.channelsOf b = s.hub.channelsOf b) (threads : next.threads = s.threads)
    (outbox : next.outbox = s.outbox) : Unready least first c' next :=
  ⟨regular, stage, link, registry ▸ unready.endpoint, fun b old => (frames b old).trans (unready.frames b old),
    threads.trans unready.threads, outbox.trans unready.outbox⟩

theorem channelsOf_modify {hub : Hub} {a : Nat} {f : Channels → Channels}
    (tied : c.worker.request.binding? = some a) : ∀ b < least, (hub.modify a f).channelsOf b = hub.channelsOf b := by
  intro b old
  apply Hub.channelsOf_modify_of_ne
  rintro rfl
  exact absurd (unready.link a tied) (Nat.not_le.mpr old)

/-- A new worker takes frames off none but new bindings. -/
theorem channelsOf_receive {hub next : Hub} {got : Option Frame}
    (received : hub.receive c.worker.request = .ok (got, next)) :
    ∀ b < least, next.channelsOf b = hub.channelsOf b := by
  rcases Hub.receive_eq_ok received with rfl | ⟨a, f, tied, -, rfl⟩
  · exact fun _ _ => rfl
  · exact unready.channelsOf_modify tied

/-- It sends to none but new bindings. -/
theorem channelsOf_sendIfPossible (hub : Hub) (frame : Frame) :
    ∀ b < least, (Worker.sendIfPossible hub c.worker.request frame).channelsOf b = hub.channelsOf b := by
  rcases Worker.sendIfPossible_cases hub c.worker.request frame with same | ⟨a, f, tied, changed⟩
  · exact fun _ _ => congrArg (Hub.channelsOf · _) same
  · exact changed ▸ unready.channelsOf_modify tied

/-- A turn that does not set the relay to work keeps that. -/
theorem turned (turned : Turned c s done) (stage : done.1.stage ≠ .relaying) : Unready least first done.1 done.2.1 := by
  have regular := turned.regular unready.regular
  have still {c' : Courier} {next : Session} (regular : c'.Regular) (stage : c'.stage ≠ .relaying)
      (worker : c'.worker = c.worker) (same : next = { s with transcript := next.transcript }) :
      Unready least first c' next := by
    rw [same]
    exact unready.of_hub regular stage (worker ▸ unready.link) rfl (fun _ _ => rfl) rfl rfl
  cases turned with
  | embarked new connected =>
      obtain ⟨q, h, atRequest, -, rfl⟩ := Worker.connect_eq_ok connected
      refine unready.of_hub regular stage (fun q' tied => ?_) rfl (fun _ _ => rfl) rfl rfl
      cases tied
      exact unready.endpoint q atRequest
  | greeted greeting received | fetched greeting received =>
      exact unready.of_hub regular stage unready.link (Hub.moved_receive received).registry
        (unready.channelsOf_receive received) rfl rfl
  | declined greeting received =>
      have moved := (Hub.moved_receive received).trans (Worker.moved_sendIfPossible _ c.worker.request givesUp)
      exact unready.of_hub regular stage unready.link moved.registry (fun b old =>
        (unready.channelsOf_sendIfPossible _ givesUp b old).trans (unready.channelsOf_receive received b old)) rfl rfl
  | refused dialling =>
      exact unready.of_hub regular stage unready.link (Worker.moved_sendIfPossible ..).registry
        (unready.channelsOf_sendIfPossible _ givesUp) rfl rfl
  | acknowledged connected sent => exact absurd rfl stage
  | closed relaying free waits | accepted written relaying free waits => exact absurd relaying unready.unready
  | acted does =>
      rw [unready.regular.idle unready.unready] at does
      cases does
  | still | failed early | reached dialling | unheard connected unsent | heard v reading | lost reading
    | gone reading received | finished closing deaf => exact still regular stage rfl rfl

end Unready

/-- What the worker has said of itself while the control side waits for it. -/
inductive Word (q : Nat) (c : Courier) (hub : Hub) : Prop where
  /-- It is ready, and all else that it sends comes after that. -/
  | ready (relaying : c.stage = .relaying) {rest : List Frame} (word : (hub.channelsOf q).toOwner = isReady :: rest)
  /-- It gives up. -/
  | gaveUp {result : Except Error Unit} (ended : c.stage = .ended result)
      (word : (hub.channelsOf q).toOwner = [givesUp])
  /-- It has said nothing. -/
  | silent (unready : c.stage ≠ .relaying) (word : (hub.channelsOf q).toOwner = [])

/-- It says nothing before it is ready or has given up. -/
theorem Word.nothing {hub : Hub} (word : Word q c hub) (unready : c.stage ≠ .relaying)
    (active : ∀ result, c.stage ≠ .ended result) : (hub.channelsOf q).toOwner = [] := by
  cases word with
  | ready relaying word => exact absurd relaying unready
  | gaveUp ended word => exact absurd ended (active _)
  | silent unready word => exact word

/-- What it has said stays while it is at the same stage and sends nothing. -/
theorem Word.keep {hub next : Hub} {c' : Courier} (word : Word q c hub) (stage : c'.stage = c.stage)
    (same : (next.channelsOf q).toOwner = (hub.channelsOf q).toOwner) : Word q c' next := by
  cases word with
  | ready relaying word => exact .ready (stage.trans relaying) (same.trans word)
  | gaveUp ended word => exact .gaveUp (stage.trans ended) (same.trans word)
  | silent unready word => exact .silent (stage ▸ unready) (same.trans word)

/-- A worker that is waited for while nothing else happens on the hub. -/
structure Asked (q h : Nat) (first : Session) (c : Courier) (s : Session) : Prop where
  moved : first.hub.Moved s.hub
  regular : c.Regular
  tied : c.stage = .new ∨ (∃ result, c.stage = .ended result) ∨ c.worker.Tied q h
  hears : .closed ∉ c.inbox
  word : Word q c s.hub

namespace Asked

variable (asked : Asked q h first c s)

include asked

/-- It is tied once it has found its endpoints. -/
theorem tied_of (stage : c.stage ≠ .new) (active : ∀ result, c.stage ≠ .ended result) : c.worker.Tied q h :=
  (asked.tied.resolve_left stage).resolve_left fun ⟨result, ended⟩ => active result ended

/-- It is tied while it listens. -/
theorem tied_of_listening (listening : c.listening = true) : c.worker.Tied q h := by
  have silent := asked.regular.silent
  refine asked.tied_of (fun new => ?_) fun result ended => ?_
  · rw [(silent (.inl (by simp [new, Stage.early]))).1] at listening
    cases listening
  · rw [(silent (.inr ⟨result, ended⟩)).1] at listening
    cases listening

variable (bound : first.Bound q h) (sound : first.hub.Sound)

include bound sound

/-- The control side is there. -/
theorem live : q < s.hub.channels.length ∧ (s.hub.channelsOf q).live = true := by
  rw [asked.moved.length, asked.moved.live]
  exact ⟨bound.inRange sound, sound.live _ _ bound.requestBound⟩

/-- What the worker sends reaches the control side. -/
theorem send_eq (tied : c.worker.Tied q h) {hub : Hub} (moved : s.hub.Moved hub) (frame : Frame) :
    ∃ next, hub.send c.worker.request frame = .ok next ∧
      (next.channelsOf q).toOwner = (hub.channelsOf q).toOwner ++ [frame] := by
  obtain ⟨inRange, live⟩ := asked.live bound sound
  rw [← moved.length] at inRange
  rw [← moved.live] at live
  refine ⟨_, by rw [tied.request, Hub.send, if_pos live], ?_⟩
  rw [Hub.channelsOf_modify hub _ inRange]

/-- What it says gets to the control side. -/
theorem sendIfPossible_eq (tied : c.worker.Tied q h) {hub : Hub} (moved : s.hub.Moved hub) (frame : Frame) :
    ((Worker.sendIfPossible hub c.worker.request frame).channelsOf q).toOwner =
      (hub.channelsOf q).toOwner ++ [frame] := by
  obtain ⟨next, sent, word⟩ := asked.send_eq bound sound tied moved frame
  rw [Worker.sendIfPossible, sent]
  exact word

/-- Every turn keeps that. -/
theorem turned (turned : Turned c s done) : Asked q h first done.1 done.2.1 := by
  have moved := asked.moved.trans turned.moved
  have regular := turned.regular asked.regular
  have ended {c' : Courier} {next : Session} {result : Except Error Unit} (stage : c'.stage = .ended result)
      (moved : first.hub.Moved next.hub) (regular : c'.Regular) (inbox : c'.inbox = c.inbox)
      (word : Word q c' next.hub) : Asked q h first c' next :=
    ⟨moved, regular, .inr (.inl ⟨result, stage⟩), inbox ▸ asked.hears, word⟩
  have nothing (unready : c.stage ≠ .relaying) (active : ∀ result, c.stage ≠ .ended result) :=
    asked.word.nothing unready active
  cases turned with
  | still => exact asked
  | embarked new connected =>
      obtain ⟨q', h', atRequest, atHeader, tied⟩ := Worker.tied_of_connect (sound.of_moved asked.moved) connected
      rw [asked.moved.registry] at atRequest atHeader
      cases bound.requestBound.symm.trans atRequest
      cases bound.headerBound.symm.trans atHeader
      exact ⟨moved, regular, .inr (.inr tied), asked.hears, .silent (by simp) (nothing (by simp [new]) (by simp [new]))⟩
  | failed early =>
      refine ended rfl moved regular rfl (.silent (by simp) (nothing ?_ fun result => ?_)) <;> intro stage <;>
        simp [stage, Stage.early] at early
  | greeted greeting received =>
      have tied := asked.tied_of (by simp [greeting]) (by simp [greeting])
      have took := Hub.took_receive (.inr ⟨_, _, tied.request⟩) received
      exact ⟨moved, regular, .inr (.inr tied), asked.hears,
        .silent (by simp) ((took.toOwner q).trans (nothing (by simp [greeting]) (by simp [greeting])))⟩
  | declined greeting received =>
      have tied := asked.tied_of (by simp [greeting]) (by simp [greeting])
      have took := Hub.took_receive (.inr ⟨_, _, tied.request⟩) received
      have word := asked.sendIfPossible_eq bound sound tied (Hub.moved_receive received) givesUp
      rw [took.toOwner, nothing (by simp [greeting]) (by simp [greeting])] at word
      exact ended rfl moved regular rfl (.gaveUp rfl word)
  | refused dialling =>
      have tied := asked.tied_of (by simp [dialling]) (by simp [dialling])
      have word := asked.sendIfPossible_eq bound sound tied (.refl _) givesUp
      rw [nothing (by simp [dialling]) (by simp [dialling])] at word
      exact ended rfl moved regular rfl (.gaveUp rfl word)
  | reached dialling =>
      have tied := asked.tied_of (by simp [dialling]) (by simp [dialling])
      exact ⟨moved, regular, .inr (.inr tied), asked.hears,
        .silent (by simp) (nothing (by simp [dialling]) (by simp [dialling]))⟩
  | acknowledged connected sent =>
      have tied := asked.tied_of (by simp [connected]) (by simp [connected])
      obtain ⟨next, passed, word⟩ := asked.send_eq bound sound tied (.refl _) isReady
      cases passed.symm.trans sent
      rw [nothing (by simp [connected]) (by simp [connected])] at word
      exact ⟨moved, regular, .inr (.inr tied), asked.hears, .ready rfl word⟩
  | unheard connected unsent =>
      have tied := asked.tied_of (by simp [connected]) (by simp [connected])
      obtain ⟨next, passed, -⟩ := asked.send_eq bound sound tied (.refl _) isReady
      cases passed.symm.trans unsent
  | heard v reading | lost reading =>
      exact ⟨moved, regular, asked.tied, by simpa using asked.hears, asked.word.keep rfl rfl⟩
  | fetched listening received =>
      have tied := asked.tied_of_listening listening
      have took := Hub.took_receive (.inr ⟨_, _, tied.request⟩) received
      exact ⟨moved, regular, asked.tied, by simpa using asked.hears, asked.word.keep rfl (took.toOwner q)⟩
  | gone listening received =>
      have tied := asked.tied_of_listening listening
      rw [tied.request, Hub.receive, if_pos (asked.live bound sound).2] at received
      split at received <;> cases received
  | closed relaying free waits => exact absurd (waits ▸ List.mem_cons_self) asked.hears
  | @accepted i inbox written relaying free waits =>
      have tied := asked.tied_of (by simp [relaying]) (by simp [relaying])
      obtain ⟨next, -, left, taken⟩ := accept_eq { c with inbox } s.hub written i
      have same : (next.channelsOf q).toOwner = (s.hub.channelsOf q).toOwner := by
        rcases left with ⟨rfl, -⟩ | ⟨rfl, -⟩
        · rfl
        · exact (Hub.took_setWaiting (.inr ⟨_, _, tied.header⟩) (List.append_nil _).symm).toOwner q
      rw [taken] at moved regular ⊢
      exact ⟨moved, regular, .inr (.inr ⟨tied.request, tied.header, tied.publisher, tied.apart⟩),
        fun closed => asked.hears (waits ▸ List.mem_cons_of_mem _ closed), asked.word.keep rfl same⟩
  | @acted output doing does =>
      have relaying : c.stage = .relaying := by
        by_contra unready
        rw [asked.regular.idle unready] at does
        cases does
      have tied := asked.tied_of (by simp [relaying]) (by simp [relaying])
      obtain ⟨inRange, live⟩ := asked.live bound sound
      have emitted := Worker.emit_request tied output inRange live
      have hub : (({ s with hub := c.worker.emit s.hub output } : Session).record output).hub =
          c.worker.emit s.hub output := by
        cases output <;> rfl
      rcases asked.word with ⟨-, word⟩ | ⟨stage, -⟩ | ⟨unready, -⟩
      · have more := congrArg Channels.toOwner emitted
        simp only [word, List.cons_append] at more
        exact ⟨moved, regular, asked.tied, asked.hears, .ready relaying (by rw [hub, more])⟩
      · cases relaying.symm.trans stage
      · exact absurd relaying unready
  | finished closing deaf =>
      exact ended rfl moved regular rfl (.silent (by simp) (nothing (by simp [closing]) (by simp [closing])))

end Asked

/-- A relay that is at work while the control side is there goes on. -/
theorem Turned.relaying (turned : Turned c s done) (relaying : c.stage = .relaying) (hears : .closed ∉ c.inbox) :
    done.1.stage = .relaying := by
  cases turned with
  | still | heard v reading | lost reading | fetched reading received | gone reading received | acted reading =>
      exact relaying
  | accepted written _ free waits =>
      obtain ⟨next, -, -, taken⟩ := accept_eq _ s.hub written _
      rw [taken]
      exact relaying
  | closed _ free waits => exact absurd (waits ▸ List.mem_cons_self) hears
  | failed early =>
      rw [relaying] at early
      cases early
  | embarked stage _ | greeted stage _ | declined stage _ | refused stage | reached stage | acknowledged stage _
    | unheard stage _ | finished stage _ => cases relaying.symm.trans stage

end Courier

namespace Bridge

variable {σ : Type} {out : Outside σ} {b : Bridge σ} {during : Schedule σ} {p : Point} {old : List Courier}
  {P : Courier → Session → Prop}

/-! ## Alone on the hub -/

/-- What other users of the hub have no part in. -/
def Beside : Happening σ → Prop
  | .elsewhere _ => False
  | .turn _ _ | .outside _ => True

/-- A worker is heard no later than it is waited for. -/
def Timely (during : Schedule σ) : Prop :=
  ∀ p, p ≠ .asked → ∀ n, .turn n .acknowledge ∉ during p

/-- Without other users of the hub, only frames move at a place of a call. -/
theorem moved_pause (b : Bridge σ) (alone : ∀ h ∈ during p, Beside h) :
    b.session.hub.Moved (b.pause during p).session.hub := by
  rw [pause]
  generalize during p = happenings at alone ⊢
  induction happenings generalizing b with
  | nil => exact .refl _
  | cons h happenings ih =>
      rw [List.forall_mem_cons] at alone
      refine Hub.Moved.trans ?_ (ih (b.happen h) alone.2)
      cases h with
      | turn n turn =>
          rw [happen]
          split
          · exact .refl _
          · next c found => exact (c.take_cases b.session turn).moved
      | outside change => exact .refl _
      | elsewhere others => exact alone.1.elim

/-- Workers that have all ended do nothing. -/
theorem pause_of_done (during : Schedule σ) (p : Point) (done : ∀ c ∈ b.couriers, c.Done)
    (alone : ∀ h ∈ during p, Beside h) :
    ∃ o, b.pause during p = { b with outside := o } := by
  rw [pause]
  generalize during p = happenings at alone ⊢
  induction happenings generalizing b with
  | nil => exact ⟨b.outside, rfl⟩
  | cons h happenings ih =>
      rw [List.forall_mem_cons] at alone
      cases h with
      | turn n turn =>
          rw [List.foldl_cons, turn_of_ended fun c found => done c (List.mem_of_getElem? found)]
          exact ih done alone.2
      | outside change => exact ih (b := b.happen (.outside change)) done alone.2
      | elsewhere others => exact alone.1.elim

/-- Beside workers that have ended there is one more, of which this is so. -/
def Newest (old : List Courier) (P : Courier → Session → Prop) (b : Bridge σ) : Prop :=
  ∃ c, b.couriers = old ++ [c] ∧ P c b.session

/-- What the newest worker keeps in its own turns stays kept: the others do nothing any more. -/
theorem Newest.happen (newest : b.Newest old P) (done : ∀ c ∈ old, c.Done) {h : Happening σ} (alone : Beside h)
    (kept : ∀ n turn, h = .turn n turn → ∀ c s, P c s → P (c.take s turn).1 (c.take s turn).2.1) :
    (b.happen h).Newest old P := by
  obtain ⟨c, couriers, holds⟩ := newest
  cases h with
  | outside change => exact ⟨c, couriers, holds⟩
  | elsewhere others => exact alone.elim
  | turn n turn =>
      rcases lt_or_ge n old.length with earlier | later
      · have ended (d : Courier) (found : b.couriers[n]? = some d) : d.Done := by
          rw [couriers, List.getElem?_append_left earlier] at found
          exact done d (List.mem_of_getElem? found)
        rw [turn_of_ended ended]
        exact ⟨c, couriers, holds⟩
      · rw [Bridge.happen]
        rcases eq_or_lt_of_le later with rfl | beyond
        · have found : b.couriers[old.length]? = some c := by simp [couriers]
          rw [found]
          exact ⟨_, by simp [couriers], kept _ turn rfl c b.session holds⟩
        · have none : b.couriers[n]? = none := by simp [couriers]; omega
          rw [none]
          exact ⟨c, couriers, holds⟩

/-- So it stays over all that happens at a place of a call. -/
theorem Newest.pause (newest : b.Newest old P) (done : ∀ c ∈ old, c.Done) (alone : ∀ h ∈ during p, Beside h)
    (kept : ∀ n turn, .turn n turn ∈ during p → ∀ c s, P c s → P (c.take s turn).1 (c.take s turn).2.1) :
    (b.pause during p).Newest old P := by
  rw [Bridge.pause]
  generalize during p = happenings at alone kept ⊢
  induction happenings generalizing b with
  | nil => exact newest
  | cons h happenings ih =>
      rw [List.forall_mem_cons] at alone
      refine ih (newest.happen done alone.1 fun n turn same => kept n turn ?_) alone.2
        fun n turn member => kept n turn (List.mem_cons_of_mem _ member)
      exact same ▸ List.mem_cons_self

/-! ## The control endpoints -/

/-- Freeing the request endpoint takes its registration away, and no other one. -/
theorem registry_freeRequest {q : Nat} (request : b.session.request = some (.bound requestEndpoint q)) :
    b.freeRequest.session.hub.registry = b.session.hub.registry.filter fun r => r.1 ≠ requestEndpoint := by
  simp only [freeRequest, Session.unbindRequest, request, Hub.unbind_bound]
  rfl

/-- Freeing the header endpoint takes its registration away, and no other one. -/
theorem registry_freeHeader {h : Nat} (header : b.session.header = some (.bound headerEndpoint h)) :
    b.freeHeader.session.hub.registry = b.session.hub.registry.filter fun r => r.1 ≠ headerEndpoint := by
  simp only [freeHeader, Session.unbindHeader, header, Hub.unbind_bound]
  rfl

/-- The control endpoints are freed, and the endpoints of others are as they were. -/
theorem registry_shutDown {q h : Nat} (request : b.session.request = some (.bound requestEndpoint q))
    (header : b.session.header = some (.bound headerEndpoint h)) (alone : Permits Beside during) :
    (b.shutDown during).session.hub.registry =
      (b.session.hub.registry.filter fun r => r.1 ≠ requestEndpoint).filter fun r => r.1 ≠ headerEndpoint := by
  have atRequest : (b.pause during .leaving).session.request = some (.bound requestEndpoint q) :=
    (request_pause ..).trans request
  have atHeader : ((b.pause during .leaving).freeRequest.pause during .halfFree).session.header =
      some (.bound headerEndpoint h) :=
    (header_pause ..).trans ((header_pause ..).trans header)
  have ended (b : Bridge σ) : b.wait.session.hub = b.session.hub := by
    rw [wait]
    split <;> rfl
  rw [shutDown, forgetKnown, done, (moved_pause _ (alone .halfForgotten)).registry, forgetStopped, done, ended,
    (moved_pause _ (alone .waiting)).registry, registry_freeHeader atHeader, (moved_pause _ (alone .halfFree)).registry,
    registry_freeRequest atRequest, (moved_pause _ (alone .leaving)).registry]

/-- Binding both endpoints puts them before the others. If one is used, the endpoints are as they were. -/
theorem registry_bindControl (alone : Permits Beside during) {result : Except Error Unit} {next : Bridge σ}
    (binds : b.bindControl during = (result, next)) :
    (∃ e, result = .error e) ∧ next.session.hub.registry = b.session.hub.registry ∨
      result = .ok () ∧ b.session.hub.isBound requestEndpoint = false ∧ b.session.hub.isBound headerEndpoint = false ∧
        ∃ q h, next.session.request = some (.bound requestEndpoint q) ∧
          next.session.header = some (.bound headerEndpoint h) ∧
          next.session.hub.registry = (headerEndpoint, h) :: (requestEndpoint, q) :: b.session.hub.registry := by
  rw [bindControl] at binds
  split at binds
  · next failed =>
      cases binds
      exact .inl ⟨⟨_, rfl⟩, rfl⟩
  · next session first =>
      obtain ⟨hub, taken, rfl⟩ := Session.bindRequest_eq_ok first
      obtain ⟨-, free, -, rfl⟩ := Hub.bind_eq_ok taken
      have requestFree := Hub.isBound_eq_false_iff.mpr free
      have half := moved_pause { b with session := { b.session with
        hub := ⟨b.session.hub.channels ++ [⟨true, [], []⟩],
          (requestEndpoint, b.session.hub.channels.length) :: b.session.hub.registry⟩
        request := some (.bound requestEndpoint b.session.hub.channels.length) } } (alone .halfBound)
      have request := request_pause { b with session := { b.session with
        hub := ⟨b.session.hub.channels ++ [⟨true, [], []⟩],
          (requestEndpoint, b.session.hub.channels.length) :: b.session.hub.registry⟩
        request := some (.bound requestEndpoint b.session.hub.channels.length) } } during .halfBound
      simp only at binds half request
      generalize pause _ during .halfBound = asked at binds half request
      split at binds
      · cases binds
        refine .inl ⟨⟨_, rfl⟩, ?_⟩
        rw [registry_freeRequest request, half.registry, ← Hub.filter_of_free requestFree]
        simp
      · next session second =>
          cases binds
          obtain ⟨hub, taken, rfl⟩ := Session.bindHeader_eq_ok second
          obtain ⟨-, free, -, rfl⟩ := Hub.bind_eq_ok taken
          refine .inr ⟨rfl, requestFree, ?_, _, _, request, rfl, ?_⟩
          · have apart : (headerEndpoint == requestEndpoint) = false := by decide
            rw [half.registry] at free
            exact Hub.isBound_eq_false_iff.mpr (by simpa only [List.lookup_cons, apart] using free)
          · simp only [half.registry]

/-- A worker that is asked only moves frames, and so does the control side. -/
theorem moved_startWorker (b : Bridge σ) (alone : Permits Beside during) :
    b.session.hub.Moved (b.startWorker during).2.session.hub := by
  rw [startWorker]
  split
  · exact .refl _
  · next asked sent =>
      obtain ⟨hub, passed, rfl⟩ := send_eq_ok sent
      have waited := moved_pause { b.spawn with
        session := { b.spawn.session with hub }, deeds := b.spawn.deeds ++ [.sent b.session.request askReady] }
        (alone .asked)
      have asked := (Hub.moved_send passed).trans waited
      simp only
      split
      · exact asked
      · next answer hub' received =>
          have taken : b.session.hub.Moved hub' := by
            rw [Hub.receiveWithin] at received
            split at received
            · next read =>
                cases received
                exact asked.trans (Hub.moved_receive read)
            · cases received
            · cases received
          split <;> exact taken

/-- If no worker comes out of it, the endpoints are as they were. -/
theorem registry_engage (alone : Permits Beside during) {e : Error} {next : Bridge σ}
    (failed : b.engage during = (.error e, next)) : next.session.hub.registry = b.session.hub.registry := by
  rw [engage] at failed
  split at failed
  · next unbound =>
      cases failed
      rcases registry_bindControl alone unbound with ⟨-, same⟩ | ⟨⟨⟩, -⟩
      exact same
  · next ready free =>
      rcases registry_bindControl alone free with
        ⟨⟨_, ⟨⟩⟩, -⟩ | ⟨-, requestFree, headerFree, q, h, request, header, bound⟩
      have control := control_startWorker ready during
      have moved := moved_startWorker ready alone
      split at failed
      · cases failed
      · next ended =>
          cases failed
          rw [ended] at control moved
          have atRequest := (congrArg Session.request control :).trans request
          have atHeader := (congrArg Session.header control :).trans header
          have apart : ¬ headerEndpoint = requestEndpoint := by decide
          rw [registry_shutDown atRequest atHeader alone, moved.registry, bound]
          simp only [List.filter_cons, apart, ne_eq, not_false_eq_true, not_true_eq_false, decide_true, decide_false,
            if_true, Bool.false_eq_true, if_false]
          have requestGone := Hub.filter_of_free requestFree
          have headerGone := Hub.filter_of_free headerFree
          simp only [ne_eq] at requestGone headerGone
          rw [requestGone, headerGone]

/-! ## A worker that does not get ready -/

section Unready

open Courier (Unready)

variable {least q h : Nat} {first : Session}

/-- What happens after it was waited for does not get it ready. -/
theorem Newest.late (newest : b.Newest old (Unready least first)) (done : ∀ c ∈ old, c.Done)
    (alone : Permits Beside during) (timely : Timely during) (late : p ≠ .asked) :
    (b.pause during p).Newest old (Unready least first) :=
  newest.pause done (alone p) fun n turn member c s unready => unready.turned (c.take_cases s turn) fun relaying =>
    (Courier.eq_acknowledge_of_relaying relaying).elim unready.unready fun same => timely p late n (same ▸ member)

/-- Freeing its request endpoint does not make a worker ready. -/
theorem Newest.freeRequest (newest : b.Newest old (Unready least first))
    (request : b.session.request = some (.bound requestEndpoint q)) (own : least ≤ q) :
    b.freeRequest.Newest old (Unready least first) := by
  obtain ⟨c, couriers, unready⟩ := newest
  refine ⟨c, couriers, unready.regular, unready.unready, unready.link, fun q' found => ?_, fun a old => ?_,
    unready.threads, unready.outbox⟩
  · rw [Bridge.freeRequest, Session.unbindRequest, request, Hub.unbind_bound, Hub.lookup_release, if_pos rfl] at found
    cases found
  · rw [Bridge.freeRequest, Session.unbindRequest, request, Hub.unbind_bound,
      Hub.channelsOf_release_of_ne _ _ (by omega)]
    exact unready.frames a old

/-- Freeing its header endpoint does not, either. -/
theorem Newest.freeHeader (newest : b.Newest old (Unready least first))
    (header : b.session.header = some (.bound headerEndpoint h)) (own : least ≤ h) :
    b.freeHeader.Newest old (Unready least first) := by
  obtain ⟨c, couriers, unready⟩ := newest
  refine ⟨c, couriers, unready.regular, unready.unready, unready.link, fun q' found => unready.endpoint q' ?_,
    fun a old => ?_, unready.threads, unready.outbox⟩
  · rwa [Bridge.freeHeader, Session.unbindHeader, header, Hub.unbind_bound, Hub.lookup_release,
      if_neg (by decide)] at found
  · rw [Bridge.freeHeader, Session.unbindHeader, header, Hub.unbind_bound,
      Hub.channelsOf_release_of_ne _ _ (by omega)]
    exact unready.frames a old

/-- That is told by the couriers, the hub, the threads and the outbox. -/
theorem Newest.of_same {next : Bridge σ} (newest : b.Newest old (Unready least first))
    (couriers : next.couriers = b.couriers) (hub : next.session.hub = b.session.hub)
    (threads : next.session.threads = b.session.threads ∨ next.session.threads = .empty)
    (outbox : next.session.outbox = b.session.outbox) : next.Newest old (Unready least first) := by
  obtain ⟨c, same, unready⟩ := newest
  have empty := threads.elim (fun same => same.trans unready.threads) id
  exact ⟨c, couriers.trans same, unready.regular, unready.unready, unready.link, hub ▸ unready.endpoint,
    hub ▸ unready.frames, empty, outbox.trans unready.outbox⟩

/-- It leaves nothing behind in a session that is shut down. -/
theorem Newest.shutDown (newest : b.Newest old (Unready least first)) (done : ∀ c ∈ old, c.Done)
    (request : b.session.request = some (.bound requestEndpoint q))
    (header : b.session.header = some (.bound headerEndpoint h)) (atRequest : least ≤ q) (atHeader : least ≤ h)
    (alone : Permits Beside during) (timely : Timely during) :
    (b.shutDown during).Newest old (Unready least first) := by
  have half := ((newest.late done alone timely (p := .leaving) (by decide)).freeRequest
    ((request_pause ..).trans request) atRequest).late done alone timely (p := .halfFree) (by decide)
  have free := (half.freeHeader ((header_pause ..).trans ((header_pause ..).trans header)) atHeader).late done alone
    timely (p := .waiting) (by decide)
  rw [Bridge.shutDown]
  generalize Bridge.pause _ during .waiting = b at free
  have waited : b.wait.Newest old (Unready least first) := by
    rw [wait]
    split
    · exact free.of_same rfl rfl (.inl rfl) rfl
    · exact free
  have forgot : b.wait.forgetStopped.Newest old (Unready least first) := by
    obtain ⟨c, couriers, unready⟩ := waited
    exact Newest.of_same ⟨c, couriers, unready⟩ rfl rfl
      (.inr (by rw [forgetStopped, Bridge.done, unready.threads]; rfl)) rfl
  obtain ⟨c, couriers, unready⟩ := forgot.late done alone timely (p := .halfForgotten) (by decide)
  exact Newest.of_same ⟨c, couriers, unready⟩ rfl rfl
    (.inr (by rw [forgetKnown, Bridge.done, unready.threads]; rfl)) rfl

end Unready

/-! ## Nobody else at work -/

/-- The bridge as it has waited for a new worker. -/
def asked (b : Bridge σ) (during : Schedule σ) : Bridge σ :=
  ((b.spawn.send b.session.request askReady).toOption.getD b.spawn).pause during .asked

/-- How far the newest worker has come. -/
def newestStage (b : Bridge σ) : Option Stage :=
  b.couriers.getLast?.map Courier.stage

/-- The bridge has nothing started, all workers have ended, and no thread is left. -/
structure Resting (b : Bridge σ) : Prop where
  request : b.session.request = none
  header : b.session.header = none
  worker : b.session.worker = none
  threads : b.session.threads = .empty
  couriers : ∀ c ∈ b.couriers, c.Done
  hub : b.session.hub.Sound

/-- A session of which no frame that waited before is gone, and no more is new than the hub's frames and the diagnostic
file. -/
structure Restored (before after : Session) : Prop where
  frames : ∀ b < before.hub.channels.length, after.hub.channelsOf b = before.hub.channelsOf b
  same : after = { before with hub := after.hub, transcript := after.transcript }

/-- A session is restored if what is the control side's own is, and the threads, the messages and the old frames are.
-/
theorem Restored.of_control {before after : Session} (control : after.control = before.control)
    (threads : after.threads = before.threads) (outbox : after.outbox = before.outbox)
    (frames : ∀ b < before.hub.channels.length, after.hub.channelsOf b = before.hub.channelsOf b) :
    Restored before after := by
  refine ⟨frames, ?_⟩
  cases before
  cases after
  simp only [Session.control, Session.mk.injEq] at control threads outbox ⊢
  simp_all

/-- A new worker on free endpoints, after the time in which it is waited for. -/
theorem Resting.newest_asked (resting : b.Resting) (requestFree : b.session.hub.isBound requestEndpoint = false)
    (headerFree : b.session.hub.isBound headerEndpoint = false) (o : σ) (alone : Permits Beside during) :
    (asked { b with session := b.session.withControl, outside := o } during).Newest b.couriers fun c s =>
      Courier.Asked b.session.hub.channels.length (b.session.hub.channels.length + 1) b.session.withControl c s ∧
        (c.stage = .relaying ∨ Courier.Unready b.session.hub.channels.length b.session c s) := by
  have bound := b.session.bound_withControl
  have sound := Session.sound_withControl resting.hub requestFree headerFree
  obtain ⟨hub, sent⟩ : ∃ hub, b.session.withControl.hub.send b.session.withControl.request askReady = .ok hub :=
    ⟨_, rfl⟩
  have moved := Hub.moved_send sent
  have toOwner : (hub.channelsOf b.session.hub.channels.length).toOwner = [] := by
    rw [Hub.toOwner_of_send (.inr ⟨_, _, bound.request⟩) sent, b.session.channelsOf_withControl.1]
  have asks : asked { b with session := b.session.withControl, outside := o } during =
      pause ⟨{ b.session.withControl with hub, worker := some .unconnected }, b.couriers ++ [.fresh], o,
        b.deeds ++ [.sent b.session.withControl.request askReady]⟩ during .asked := by
    rw [asked, spawn, Bridge.send]
    simp only [sent, Except.toOption, Option.getD_some]
    rfl
  rw [asks]
  refine Newest.pause ⟨.fresh, rfl, ?_⟩ resting.couriers (alone .asked) fun n turn _ c s held => ?_
  · have unready : Courier.fresh.stage ≠ .relaying := by decide
    have hears : Errand.closed ∉ Courier.fresh.inbox := List.not_mem_nil
    refine ⟨⟨moved, Courier.regular_fresh, .inl rfl, hears, .silent unready toOwner⟩, .inr ?_⟩
    refine ⟨Courier.regular_fresh, unready, fun q tied => ?_, fun q found => ?_, fun a old => ?_, resting.threads, rfl⟩
    · cases tied
    · rw [moved.registry] at found
      cases bound.requestBound.symm.trans found
      exact le_rfl
    · obtain ⟨q, f, tied, -, rfl⟩ := Hub.send_eq_ok sent
      cases tied
      exact (Hub.channelsOf_modify_of_ne _ _ (by omega)).trans (b.session.channelsOf_withControl_of_lt old)
  · obtain ⟨asked, word⟩ := held
    have turned := c.take_cases s turn
    refine ⟨asked.turned bound sound turned, ?_⟩
    by_cases relaying : (c.take s turn).1.stage = .relaying
    · exact .inl relaying
    · rcases word with working | unready
      · exact absurd (turned.relaying working asked.hears) relaying
      · exact .inr (unready.turned turned relaying)

/-- Its word decides, which is no other than that of its thread. -/
theorem Resting.startWorker (resting : b.Resting) (requestFree : b.session.hub.isBound requestEndpoint = false)
    (headerFree : b.session.hub.isBound headerEndpoint = false) (o : σ) (alone : Permits Beside during) :
    let ready : Bridge σ := { b with session := b.session.withControl, outside := o }
    (ready.asked during).newestStage = some .relaying ∧ (∃ next, ready.startWorker during = (.ok (), next)) ∨
      (ready.asked during).newestStage ≠ some .relaying ∧ ∃ e next, ready.startWorker during = (.error e, next) ∧
        (e = .adapterUnreachable b.session.address.text ∨ e = .timeout b.session.settings.handshakeTime) ∧
        next.Newest b.couriers (Courier.Unready b.session.hub.channels.length b.session) := by
  intro ready
  obtain ⟨hub, sent⟩ : ∃ hub, ready.spawn.send ready.session.request askReady = .ok hub := ⟨_, rfl⟩
  have waited : ready.asked during = hub.pause during .asked := by
    rw [asked, sent]
    rfl
  obtain ⟨c, couriers, asked, word⟩ := resting.newest_asked requestFree headerFree o alone
  have stage : (ready.asked during).newestStage = some c.stage := by simp [newestStage, couriers, ready]
  rw [Bridge.startWorker, sent]
  simp only
  rw [← waited, stage]
  have control : (ready.asked during).session.control =
      { ready.session.control with worker := some .unconnected } := by
    obtain ⟨_, -, rfl⟩ := send_eq_ok sent
    rw [waited, control_pause]
    rfl
  have request : (ready.asked during).session.request = some (.bound requestEndpoint b.session.hub.channels.length) :=
    (congrArg Session.request control :)
  have address : (ready.asked during).session.address = b.session.address := (congrArg Session.address control :)
  have settings : (ready.asked during).session.settings = b.session.settings := (congrArg Session.settings control :)
  simp only [ready] at request address settings ⊢
  generalize Bridge.asked _ during = last at couriers asked word request address settings ⊢
  have other : givesUp ≠ isReady := by decide
  rcases asked.word with ⟨relaying, said⟩ | ⟨ended, said⟩ | ⟨unready, said⟩
  · refine .inl ⟨by rw [relaying], ?_⟩
    simp only [request, Hub.receiveWithin, Hub.receive, said, if_true]
    exact ⟨_, rfl⟩
  · have unready : c.stage ≠ .relaying := by simp [ended]
    have still := word.resolve_left unready
    refine .inr ⟨by simpa using unready, ?_⟩
    simp only [request, Hub.receiveWithin, Hub.receive, said, if_neg other, address]
    refine ⟨_, _, rfl, .inl rfl, c, couriers,
      still.of_hub still.regular unready still.link rfl (fun a old => ?_) rfl rfl⟩
    exact Hub.channelsOf_modify_of_ne _ _ (by omega)
  · refine .inr ⟨by simpa using unready, ?_⟩
    simp only [request, Hub.receiveWithin, Hub.receive, said, settings]
    exact ⟨_, last, rfl, .inr rfl, c, couriers, word.resolve_left unready⟩

/-- What the part of a start that uses the hub comes to. -/
inductive Engaged (b : Bridge σ) (during : Schedule σ) : Except Error Bool × Bridge σ → Prop where
  | requestInUse (used : b.session.hub.isBound requestEndpoint = true) :
      Engaged b during (.error (.addressInUse requestEndpoint), b)
  | headerInUse (requestFree : b.session.hub.isBound requestEndpoint = false)
      (used : b.session.hub.isBound headerEndpoint = true) {next : Bridge σ}
      (restored : Restored b.session next.session) : Engaged b during (.error (.addressInUse headerEndpoint), next)
  | unready (requestFree : b.session.hub.isBound requestEndpoint = false)
      (headerFree : b.session.hub.isBound headerEndpoint = false)
      (unready : ((b.bindControl during).2.asked during).newestStage ≠ some .relaying) {e : Error}
      (told : e = .adapterUnreachable b.session.address.text ∨ e = .timeout b.session.settings.handshakeTime)
      {next : Bridge σ} (restored : Timely during → Restored b.session next.session) :
      Engaged b during (.error e, next)
  | ready (requestFree : b.session.hub.isBound requestEndpoint = false)
      (headerFree : b.session.hub.isBound headerEndpoint = false)
      (ready : ((b.bindControl during).2.asked during).newestStage = some .relaying) {next : Bridge σ} :
      Engaged b during (.ok true, next)

/-- With a used endpoint, or two free ones, binding goes as it would with nothing in between. -/
theorem Resting.bindControl (resting : b.Resting) (alone : Permits Beside during) :
    b.session.hub.isBound requestEndpoint = true ∧
        b.bindControl during = (.error (.addressInUse requestEndpoint), b) ∨
      b.session.hub.isBound requestEndpoint = false ∧
        (b.session.hub.isBound headerEndpoint = true ∧
            (∃ next, b.bindControl during = (.error (.addressInUse headerEndpoint), next) ∧
              Restored b.session next.session) ∨
          b.session.hub.isBound headerEndpoint = false ∧ ∃ o,
            b.bindControl during = (.ok (), { b with session := b.session.withControl, outside := o })) := by
  obtain ⟨request, header, -, -, done, -⟩ := resting
  rw [Bridge.bindControl]
  cases requestFree : b.session.hub.isBound requestEndpoint with
  | true =>
      refine .inl ⟨rfl, ?_⟩
      rw [Session.bindRequest, request, Hub.bind_of_used requestFree]
  | false =>
      refine .inr ⟨rfl, ?_⟩
      rw [Session.bindRequest_of_free request requestFree]
      obtain ⟨o, still⟩ := pause_of_done during .halfBound (b := { b with session := { b.session with
        hub := ⟨b.session.hub.channels ++ [⟨true, [], []⟩],
          (requestEndpoint, b.session.hub.channels.length) :: b.session.hub.registry⟩
        request := some (.bound requestEndpoint b.session.hub.channels.length) } }) done (alone .halfBound)
      have apart : (headerEndpoint == requestEndpoint) = false := by decide
      have same : Hub.isBound ⟨b.session.hub.channels ++ [⟨true, [], []⟩],
          (requestEndpoint, b.session.hub.channels.length) :: b.session.hub.registry⟩ headerEndpoint =
            b.session.hub.isBound headerEndpoint := by
        simp only [Hub.isBound, List.lookup_cons, apart]
      simp only [still, Session.bindHeader]
      cases headerFree : b.session.hub.isBound headerEndpoint with
      | true =>
          rw [headerFree] at same
          rw [header, Hub.bind_of_used same]
          refine .inl ⟨rfl, _, rfl, .of_control ?_ rfl rfl fun a old => ?_⟩
          · simp only [Session.control, freeRequest, Session.unbindRequest, Hub.unbind_bound, request, header]
          · simp only [freeRequest, Session.unbindRequest, Hub.unbind_bound]
            rw [Hub.channelsOf_release_of_ne _ _ (by omega)]
            simp [Hub.channelsOf, List.getElem?_append_left old]
      | false =>
          rw [headerFree] at same
          rw [header, Hub.bind_of_free same]
          exact .inr ⟨rfl, o, by simp [Session.withControl]⟩

/-- What an engagement without other users of the hub comes to. -/
theorem Resting.engage (resting : b.Resting) (alone : Permits Beside during) :
    Engaged b during (b.engage during) := by
  rw [Bridge.engage]
  rcases resting.bindControl alone with
    ⟨used, binds⟩ | ⟨requestFree, ⟨used, next, binds, restored⟩ | ⟨headerFree, o, binds⟩⟩
  · rw [binds]
    exact .requestInUse used
  · rw [binds]
    exact .headerInUse requestFree used restored
  · have tried := resting.startWorker requestFree headerFree o alone
    have control := control_startWorker { b with session := b.session.withControl, outside := o } during
    have after : (b.bindControl during).2 = { b with session := b.session.withControl, outside := o } := by rw [binds]
    rw [binds]
    simp only at tried ⊢
    rw [← after] at tried control ⊢
    rcases tried with ⟨ready, next, started⟩ | ⟨unready, e, next, failed, told, newest⟩
    · rw [started]
      exact .ready requestFree headerFree ready
    · rw [failed] at control ⊢
      refine .unready requestFree headerFree unready told fun timely => ?_
      rw [after] at control
      have request : next.session.request = some (.bound requestEndpoint b.session.hub.channels.length) :=
        (congrArg Session.request control :)
      have header : next.session.header = some (.bound headerEndpoint (b.session.hub.channels.length + 1)) :=
        (congrArg Session.header control :)
      have ended := control_shutDown ⟨.inr ⟨_, request⟩, .inr ⟨_, header⟩⟩ during
      obtain ⟨c, -, left⟩ := newest.shutDown resting.couriers request header le_rfl (Nat.le_succ _) alone timely
      refine .of_control ?_ (left.threads.trans resting.threads.symm) left.outbox left.frames
      rw [ended, control]
      simp only [Session.control, Session.withControl, resting.request, resting.header, resting.worker]

/-! ## Attempts -/

/-- The bridge as it has tried to launch the adapter in a start. -/
def launched (out : Outside σ) (b : Bridge σ) (during : Schedule σ) : Bridge σ :=
  b.readied out during (out.makeDirectory b.session.kernel.logDirectory b.outside).2

/-- The bridge as it is about to bind its endpoints in a start. -/
def staged (out : Outside σ) (b : Bridge σ) (during : Schedule σ) : Bridge σ :=
  pause { b.launched out during with
    outside := (out.makeDirectory b.session.kernel.cellDirectory (b.launched out during).outside).2 } during .staged

/-- How far the new worker of a start has come as the time is over in which it is waited for. -/
def answer (out : Outside σ) (b : Bridge σ) (during : Schedule σ) : Option Stage :=
  (((b.staged out during).bindControl during).2.asked during).newestStage

/-- The adapter has been launched, and there is a directory for the diagnostic file. -/
structure Launched (out : Outside σ) (b : Bridge σ) (during : Schedule σ) : Prop where
  logDirectory : (out.makeDirectory b.session.kernel.logDirectory b.outside).1 = .ok ()
  launch : (b.launched out during).session.launch = .started

/-- There is a directory for cell files as well. -/
structure Staged (out : Outside σ) (b : Bridge σ) (during : Schedule σ) : Prop extends Launched out b during where
  cellDirectory : (out.makeDirectory b.session.kernel.cellDirectory (b.launched out during).outside).1 = .ok ()

/-- No step of a start fails: the endpoints are free as well, and the new worker's relay runs in time. -/
structure Startable (out : Outside σ) (b : Bridge σ) (during : Schedule σ) : Prop extends Staged out b during where
  requestFree : b.session.hub.isBound requestEndpoint = false
  headerFree : b.session.hub.isBound headerEndpoint = false
  ready : b.answer out during = some .relaying

/-- Why a start fails, and what it then gives. -/
inductive Fails (out : Outside σ) (b : Bridge σ) (during : Schedule σ) : Except Error Bool → Prop where
  | logDirectory {e : Error} (refused : (out.makeDirectory b.session.kernel.logDirectory b.outside).1 = .error e) :
      Fails out b during (.error e)
  | launch (logDirectory : (out.makeDirectory b.session.kernel.logDirectory b.outside).1 = .ok ())
      (refused : (b.launched out during).session.launch ≠ .started) : Fails out b during (.ok false)
  | cellDirectory {e : Error} (launched : Launched out b during)
      (refused : (out.makeDirectory b.session.kernel.cellDirectory (b.launched out during).outside).1 = .error e) :
      Fails out b during (.error e)
  | requestInUse (staged : Staged out b during) (used : b.session.hub.isBound requestEndpoint = true) :
      Fails out b during (.error (.addressInUse requestEndpoint))
  | headerInUse (staged : Staged out b during) (requestFree : b.session.hub.isBound requestEndpoint = false)
      (used : b.session.hub.isBound headerEndpoint = true) : Fails out b during (.error (.addressInUse headerEndpoint))
  | unready {e : Error} (staged : Staged out b during) (requestFree : b.session.hub.isBound requestEndpoint = false)
      (headerFree : b.session.hub.isBound headerEndpoint = false) (unready : b.answer out during ≠ some .relaying)
      (told : e = .adapterUnreachable b.session.address.text ∨ e = .timeout b.session.settings.handshakeTime) :
      Fails out b during (.error e)

/-- A start with a step that fails is none that succeeds. -/
theorem Fails.not_startable {result : Except Error Bool} (fails : Fails out b during result) :
    ¬ Startable out b during ∧ result ≠ .ok true := by
  refine ⟨fun startable => ?_, ?_⟩
  · cases fails with
    | logDirectory refused => cases refused.symm.trans startable.logDirectory
    | launch logDirectory refused => exact refused startable.launch
    | cellDirectory launched refused => cases refused.symm.trans startable.cellDirectory
    | requestInUse staged used => cases used.symm.trans startable.requestFree
    | headerInUse staged requestFree used => cases used.symm.trans startable.headerFree
    | unready staged requestFree headerFree unready told => exact unready startable.ready
  · cases fails <;> simp

/-- Until the endpoints are bound no more has changed than the launch, the diagnostic file and what is outside. -/
theorem Resting.launched (resting : b.Resting) (out : Outside σ) (alone : Permits Beside during) :
    ∃ launch transcript o deeds, b.launched out during =
      ⟨{ b.session with launch, transcript }, b.couriers, o, deeds⟩ := by
  rw [Bridge.launched, readied]
  obtain ⟨o, logged⟩ := pause_of_done during .logged
    (b := { b with outside := (out.makeDirectory b.session.kernel.logDirectory b.outside).2 }) resting.couriers
    (alone .logged)
  rw [logged]
  obtain ⟨o, launched⟩ := pause_of_done during .launched (b := ensureLaunched out
    { b with outside := o }) resting.couriers (alone .launched)
  rw [launched]
  exact ⟨_, _, o, _, rfl⟩

theorem Resting.of_session {next : Bridge σ} (resting : b.Resting) (couriers : next.couriers = b.couriers)
    (same : ∃ launch transcript, next.session = { b.session with launch, transcript }) : next.Resting := by
  obtain ⟨launch, transcript, same⟩ := same
  obtain ⟨request, header, worker, threads, done, hub⟩ := resting
  refine ⟨?_, ?_, ?_, ?_, couriers ▸ done, ?_⟩ <;> rw [same] <;> assumption

/-- What a start comes to. -/
inductive Attempt (out : Outside σ) (b : Bridge σ) (during : Schedule σ) : Except Error Bool × Bridge σ → Prop where
  | failed {result : Except Error Bool} {next : Bridge σ} (fails : Fails out b during result)
      (restored : Timely during → ∃ launch transcript, Restored { b.session with launch, transcript } next.session) :
      Attempt out b during (result, next)
  | succeeded {next : Bridge σ} (startable : Startable out b during) : Attempt out b during (.ok true, next)

/-- What a start without other users of the hub comes to. -/
theorem Resting.start (resting : b.Resting) (out : Outside σ) (alone : Permits Beside during) :
    Attempt out b during (b.start out during) := by
  have started := b.start_cases out during
  obtain ⟨launch, transcript, o, deeds, readied⟩ := resting.launched out alone
  have unchanged (next : Bridge σ) (same : next.session = { b.session with launch, transcript }) :
      Timely during → ∃ launch transcript, Restored { b.session with launch, transcript } next.session :=
    fun _ => ⟨launch, transcript, same ▸ ⟨fun _ _ => rfl, rfl⟩⟩
  generalize b.start out during = done at started ⊢
  cases started with
  | already running => exact absurd resting.worker running
  | unlogged idle failed =>
      exact .failed (.logDirectory (congrArg Prod.fst failed)) fun _ =>
        ⟨b.session.launch, b.session.transcript, fun _ _ => rfl, rfl⟩
  | @unlaunched o' idle logged failed =>
      have here : b.launched out during = b.readied out during o' := by rw [Bridge.launched, logged]
      rw [← here] at failed ⊢
      exact .failed (.launch (congrArg Prod.fst logged) failed) (unchanged _ (by rw [readied]))
  | @unstaged o₁ o₂ e idle logged launched failed =>
      have here : b.launched out during = b.readied out during o₁ := by rw [Bridge.launched, logged]
      rw [← here] at launched failed ⊢
      exact .failed (.cellDirectory ⟨congrArg Prod.fst logged, launched⟩ (congrArg Prod.fst failed))
        (unchanged _ (by rw [readied]))
  | @engaged o₁ o₂ idle logged launched cells =>
      have here : b.launched out during = b.readied out during o₁ := by rw [Bridge.launched, logged]
      rw [← here] at launched cells ⊢
      have ready : Staged out b during := ⟨⟨congrArg Prod.fst logged, launched⟩, congrArg Prod.fst cells⟩
      have there : b.staged out during = pause { b.launched out during with outside := o₂ } during .staged := by
        rw [Bridge.staged, cells]
      obtain ⟨o₃, still⟩ := pause_of_done during .staged
        (b := { b.launched out during with outside := o₂ }) (by rw [readied]; exact resting.couriers) (alone .staged)
      have session : (b.staged out during).session = { b.session with launch, transcript } := by
        rw [there, still, readied]
      have couriers : (b.staged out during).couriers = b.couriers := by rw [there, still, readied]
      have engaged := (resting.of_session couriers ⟨launch, transcript, session⟩).engage alone
      have hub : (b.staged out during).session.hub = b.session.hub := by rw [session]
      have told : (b.staged out during).session.address = b.session.address ∧
          (b.staged out during).session.settings = b.session.settings := by
        rw [session]
        exact ⟨rfl, rfl⟩
      rw [← there]
      have restored {next : Bridge σ} (left : Restored (b.staged out during).session next.session) :
          ∃ launch transcript, Restored { b.session with launch, transcript } next.session :=
        ⟨launch, transcript, session ▸ left⟩
      generalize (b.staged out during).engage during = done at engaged ⊢
      cases engaged with
      | requestInUse used => exact .failed (.requestInUse ready (hub ▸ used)) (unchanged _ session)
      | headerInUse requestFree used left =>
          exact .failed (.headerInUse ready (hub ▸ requestFree) (hub ▸ used)) fun _ => restored left
      | unready requestFree headerFree unready reason left =>
          rw [told.1, told.2] at reason
          exact .failed (.unready ready (hub ▸ requestFree) (hub ▸ headerFree) unready reason) fun timely =>
            restored (left timely)
      | ready requestFree headerFree answers =>
          exact .succeeded ⟨ready, hub ▸ requestFree, hub ▸ headerFree, answers⟩

/-- A session is started exactly if no step fails. -/
theorem Resting.start_eq_ok_iff (resting : b.Resting) (out : Outside σ) (alone : Permits Beside during) :
    (b.start out during).1 = .ok true ↔ Startable out b during := by
  have attempt := resting.start out alone
  generalize b.start out during = done at attempt ⊢
  cases attempt with
  | failed fails restored => exact iff_of_false fails.not_startable.2 fails.not_startable.1
  | succeeded startable => exact iff_of_true rfl startable

/-! ## Failures -/

/-- Whatever was done, on whatever hub, a bridge that is not started rests once its workers have ended. -/
theorem Reachable.resting (reachable : Reachable out (fun _ => True) b) (stopped : b.session.isStarted = false)
    (prompt : b.Prompt) {hub : Hub} (prior : hub.Prior []) (o : σ) :
    Resting { b with session := { b.session with hub }, outside := o } := by
  have idle := Session.isStarted_eq_false_iff.mp stopped
  obtain ⟨request, header, -⟩ := reachable.settled.idle idle
  refine ⟨request, header, idle, reachable.settled.calm prompt idle, fun c member => ?_, prior.sound⟩
  obtain ⟨n, found⟩ := List.getElem?_of_mem member
  exact reachable.reached.attended.done prompt idle found

/-- What a failed start leaves to the control side, and on the hub: the sockets have no link, no endpoint is bound that
was not, and the launch is a failed one only if that was the step that failed. -/
structure Released (before after : Bridge σ) (result : Except Error Bool) : Prop where
  registry : after.session.hub.registry = before.session.hub.registry
  sockets : after.session.request = none ∧ after.session.header = none
  stopped : after.session.isStarted = false
  same : after.session.control = { before.session.control with launch := after.session.launch }
  launch : result ≠ .ok false → after.session.launch = .failed → before.session.launch = .failed

/-- What a failed start leaves as it was: the frames at every binding, the threads, of which none is stopped, and what
was written to the adapter. The session starts once no step fails, whatever has been made of the hub and outside. -/
structure Undone (out : Outside σ) (before after : Bridge σ) : Prop where
  frames : ∀ b < before.session.hub.channels.length, after.session.hub.channelsOf b = before.session.hub.channelsOf b
  threads : after.session.threads.stopped = []
  outbox : after.session.outbox = before.session.outbox
  again : after.Prompt → ∀ (hub : Hub) (o : σ) (during : Schedule σ), hub.Prior [] → Permits Beside during →
    Startable out { after with session := { after.session with hub }, outside := o } during →
    (start out { after with session := { after.session with hub }, outside := o } during).1 = .ok true

/-- Making directories and launching the adapter registers nothing. -/
theorem registry_readied (out : Outside σ) (b : Bridge σ) (alone : Permits Beside during) (o : σ) :
    (b.readied out during o).session.hub.registry = b.session.hub.registry := by
  have logged := moved_pause { b with outside := o } (alone .logged)
  rw [readied]
  exact (moved_pause _ (alone .launched)).registry.trans logged.registry

/-- Whoever else uses the hub, and whatever workers that are left behind do, a failed start frees what it has bound. -/
theorem Settled.released (out : Outside σ) (settled : b.Settled) (stopped : b.session.isStarted = false)
    (alone : Permits Beside during)
    (failed : (b.start out during).1 ≠ .ok true) : Released b (b.start out during).2 (b.start out during).1 := by
  have idle := Session.isStarted_eq_false_iff.mp stopped
  obtain ⟨request, header, -⟩ := settled.idle idle
  have started := b.start_cases out during
  have of_control {next : Bridge σ} {result : Except Error Bool}
      (registry : next.session.hub.registry = b.session.hub.registry)
      (control : next.session.control = { b.session.control with launch := next.session.launch })
      (launch : result ≠ .ok false → next.session.launch = .failed → b.session.launch = .failed) :
      Released b next result :=
    ⟨registry, ⟨(congrArg Session.request control :).trans request, (congrArg Session.header control :).trans header⟩,
      Session.isStarted_eq_false_iff.mpr ((congrArg Session.worker control :).trans idle), control, launch⟩
  generalize b.start out during = done at started failed ⊢
  cases started with
  | already running => exact absurd rfl failed
  | unlogged idle refused => exact of_control rfl rfl fun _ => id
  | unlaunched idle logged refused =>
      exact of_control (registry_readied out b alone _) (control_readied out b during _) fun other => absurd rfl other
  | @unstaged o₁ o₂ e idle logged launched refused =>
      exact of_control (registry_readied out b alone _) (control_readied out b during _) fun _ failed => by
        cases launched.symm.trans failed
  | @engaged o₁ o₂ idle logged launched cells =>
      have control := (control_pause { b.readied out during o₁ with outside := o₂ } during .staged).trans
        (control_readied out b during o₁)
      have registry := (moved_pause { b.readied out during o₁ with outside := o₂ } (alone .staged)).registry.trans
        (registry_readied out b alone o₁)
      have success : (pause { b.readied out during o₁ with outside := o₂ } during .staged).session.launch = .started :=
        (launch_pause ..).trans launched
      rw [launched] at control
      simp only at failed ⊢
      generalize pause _ during .staged = ready at control registry success failed ⊢
      have atRequest : ready.session.request = none := (congrArg Session.request control :).trans request
      have atHeader : ready.session.header = none := (congrArg Session.header control :).trans header
      have noWorker : ready.session.worker = none := (congrArg Session.worker control :).trans idle
      rcases control_engage ⟨.inl atRequest, .inl atHeader⟩ atRequest atHeader noWorker during with
        ⟨e, next, refused, same⟩ | ⟨q, h, next, engaged, -⟩
      · have released := registry_engage alone refused
        rw [refused]
        have launch : next.session.launch = .started := (congrArg Session.launch same :).trans success
        refine of_control (released.trans registry) ?_ fun _ failed => by cases launch.symm.trans failed
        rw [same, control, launch]
      · rw [engaged] at failed
        exact absurd rfl failed

/-- Whatever was done before, on whatever hub: a start that fails while nobody else is at it frees what it has bound.
With no worker left behind by an earlier session, a start succeeds exactly if no step fails. One that fails tells of the
first step that did, and all is as it was, unless the new worker gets ready after it was waited for. -/
theorem start_restores (reachable : Reachable out (fun _ => True) b) (stopped : b.session.isStarted = false)
    (prior : b.session.hub.Prior []) (alone : Permits Beside during) :
    ((b.start out during).1 ≠ .ok true → Released b (b.start out during).2 (b.start out during).1) ∧
      (b.Prompt → ((b.start out during).1 = .ok true ↔ Startable out b during) ∧
        ((b.start out during).1 ≠ .ok true → Fails out b during (b.start out during).1 ∧
          (Timely during → Undone out b (b.start out during).2))) := by
  have released := reachable.settled.released out stopped alone
  refine ⟨released, fun prompt => ?_⟩
  have resting : b.Resting := reachable.resting stopped prompt prior b.outside
  refine ⟨resting.start_eq_ok_iff out alone, fun failed => ?_⟩
  have attempt := resting.start out alone
  have idle := (released failed).stopped
  have next : Reachable out (fun _ => True) (b.start out during).2 :=
    reachable.move (.start during) fun _ _ _ => trivial
  generalize b.start out during = done at attempt failed idle next ⊢
  cases attempt with
  | succeeded startable => exact absurd rfl failed
  | @failed result after fails restored =>
      refine ⟨fails, fun timely => ?_⟩
      obtain ⟨launch, transcript, frames, same⟩ := restored timely
      refine ⟨frames, ?_, by rw [same], fun prompt hub o during prior alone startable => ?_⟩
      · rw [same]
        exact congrArg Threads.stopped resting.threads
      · exact ((next.resting idle prompt prior o).start_eq_ok_iff out alone).mpr startable

/-- A hub on which somebody else is bound to the endpoint for headers, with a frame that waits there. -/
def crowdedHub : Hub :=
  ⟨[⟨true, [], [Utf8.encode "theirs"]⟩], [(headerEndpoint, 0)]⟩

/-- Another user has bound the header endpoint. -/
theorem prior_crowdedHub : crowdedHub.Prior [] := by
  have bound : Hub.empty.bind none headerEndpoint =
      .ok (⟨[⟨true, [], []⟩], [(headerEndpoint, 0)]⟩, some (.bound headerEndpoint 0)) := rfl
  have sent : Hub.send ⟨[⟨true, [], []⟩], [(headerEndpoint, 0)]⟩ (some (.connected headerEndpoint 0))
      (Utf8.encode "theirs") = .ok crowdedHub := rfl
  exact .use (.use .empty (.bind List.not_mem_nil bound)) (.send (fun _ _ => id) sent)

/-- The idle sample on that hub. -/
def crowdedSample : Bridge Unit :=
  idleSample.next Session.obliging (.happen (.elsewhere fun _ => crowdedHub))

/-- With the endpoint for headers in use a start fails half-way. It starts once the endpoint is free. -/
theorem start_restores_crowdedSample :
    (crowdedSample.start Session.obliging (readies 0)).1 = .error (.addressInUse headerEndpoint) ∧
      Released crowdedSample (crowdedSample.start Session.obliging (readies 0)).2
        (.error (.addressInUse headerEndpoint)) ∧
      Undone Session.obliging crowdedSample (crowdedSample.start Session.obliging (readies 0)).2 ∧
      (start Session.obliging { (crowdedSample.start Session.obliging (readies 0)).2 with
        session := { (crowdedSample.start Session.obliging (readies 0)).2.session with hub := .empty } }
        (readies 0)).1 = .ok true := by
  have failed : (crowdedSample.start Session.obliging (readies 0)).1 = .error (.addressInUse headerEndpoint) := by
    decide +kernel
  have reachable : Reachable Session.obliging (fun _ => True) crowdedSample :=
    .move (.create Session.created_idleSample ()) _ trivial
  have alone : Permits Beside (readies 0) := by
    intro p h member
    cases p with
    | asked =>
        simp only [readies, List.mem_cons, List.not_mem_nil, or_false] at member
        rcases member with rfl | rfl | rfl | rfl <;> exact trivial
    | _ => cases member
  have timely : Timely (readies 0) := fun p late n member => by
    cases p <;> first | exact late rfl | cases member
  obtain ⟨released, undone⟩ := start_restores reachable rfl prior_crowdedHub alone
  obtain ⟨-, undone⟩ := undone (by decide +kernel)
  obtain ⟨-, undone⟩ := undone (by simp [failed])
  refine ⟨failed, failed ▸ released (by simp [failed]), undone timely, ?_⟩
  exact (undone timely).again (by decide +kernel) .empty () (readies 0) .empty alone
    ⟨⟨⟨rfl, by decide +kernel⟩, rfl⟩, rfl, rfl, by decide +kernel⟩

/-- The new worker gets ready only after it was waited for, and then refuses a request of the adapter. -/
def tardy : Schedule Unit
  | .asked => [.turn 0 .embark, .turn 0 .greet, .turn 0 (.dial .reached)]
  | .leaving =>
    [.turn 0 .acknowledge, .turn 0 (.hear (.message (Session.bareRequest 5 "runInTerminal"))),
      .turn 0 (.relay (.ok ())), .turn 0 .act]
  | _ => []

/-- A start fails as its worker is late, and yet a message is written to the adapter. -/
theorem late_acknowledgement :
    Permits Beside tardy ∧
      (idleSample.start Session.obliging tardy).1 = .error (.timeout idleSample.session.settings.handshakeTime) ∧
      (idleSample.start Session.obliging tardy).2.session.outbox =
        [Relay.refusal (Session.bareRequest 5 "runInTerminal")] := by
  refine ⟨fun p h member => ?_, by decide +kernel, by decide +kernel⟩
  cases p with
  | asked | leaving =>
      simp only [tardy, List.mem_cons, List.not_mem_nil, or_false] at member
      rcases member with rfl | rfl | rfl | rfl <;> exact trivial
  | _ => cases member

/-- The left sample where somebody else has bound the endpoint for headers. -/
def leftCrowdedSample : Bridge Unit :=
  leftSample.next Session.obliging (.happen (.elsewhere fun b =>
    ((b.session.hub.bind none headerEndpoint).toOption.map Prod.fst).getD b.session.hub))

/-- A start fails, and a thread is recorded as stopped, as a worker of an earlier session has told of it. -/
theorem stopped_thread_stays :
    (leftCrowdedSample.start Session.obliging quiet).1 = .error (.addressInUse headerEndpoint) ∧
      (leftCrowdedSample.start Session.obliging quiet).2.session.threads.stopped = [7] := by
  constructor <;> decide +kernel

end Bridge
end DebugBridge
