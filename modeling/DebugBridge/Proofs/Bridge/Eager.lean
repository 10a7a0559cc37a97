import DebugBridge.Proofs.Bridge.Ended
import DebugBridge.Proofs.Bridge.Replies
import DebugBridge.Proofs.Hub.Registry
import DebugBridge.Proofs.Session.Queue

/-!
# Workers that keep up

What `Session.next` says of a session goes without a schedule: its worker takes a message as soon as it is sent, handles
at once what arrives, writes without failing, and ends as soon as it is waited for. That is the bridge under a schedule
that gives the newest worker its turns so. `Mirrors` relates a session to such a bridge. For each operation a lemma
gives a schedule by which the bridge comes to the same result and mirrors the session again (`Mirrors.process`), so
every state of a session is one of a bridge (`mirrored`).
-/

namespace DebugBridge

/-! ## Several turns of a worker -/

/-- What a turn reads from the adapter was decoded. -/
def Turn.Readable : Turn → Prop
  | .hear a => a.Readable
  | _ => True

namespace Session

/-- The session as the control side has it, when the adapter has taken some messages before. -/
def seen (s : Session) (taken : List Json) : Session :=
  { s with worker := s.worker.map fun _ => .unconnected, outbox := taken ++ s.outbox }

@[simp] theorem kernel_seen (s : Session) (taken : List Json) : (s.seen taken).kernel = s.kernel := rfl

@[simp] theorem launch_seen (s : Session) (taken : List Json) : (s.seen taken).launch = s.launch := rfl

/-- The control side knows of a worker no more than that it is there. -/
theorem isStarted_seen (s : Session) (taken : List Json) : (s.seen taken).isStarted = s.isStarted :=
  Option.isSome_map

/-- What becomes of a request does not depend on what the adapter has taken. -/
theorem seen_consider {σ : Type} (out : Outside σ) (s : Session) (taken : List Json) (r : Request) (o : σ) :
    (s.seen taken).consider out r o = s.consider out r o := by
  simp only [consider, debugInfo, isStarted_seen]
  rfl

/-- The next event does not depend on what the adapter has taken. -/
theorem seen_nextEvent (s : Session) (taken : List Json) (time : Duration) :
    (s.seen taken).nextEvent time = ((s.nextEvent time).1, (s.nextEvent time).2.seen taken) := by
  have same : (s.seen taken).hub.receiveWithin (s.seen taken).publisher time =
      s.hub.receiveWithin s.publisher time := rfl
  simp only [nextEvent, same]
  split
  · rfl
  · split <;> rfl

/-- Taking an event leaves the worker as it is. -/
theorem worker_nextEvent (s : Session) (time : Duration) : (s.nextEvent time).2.worker = s.worker := by
  simp only [nextEvent]
  split
  · rfl
  · split <;> rfl

/-- Unless it stops the session, what a call comes to does not depend on what the adapter has taken. -/
theorem seen_conclude {σ : Type} (out : Outside σ) (s : Session) (taken : List Json) {call : Call}
    (stays : call.purpose ≠ .disconnect) (result : Except Error Json) (o : σ) :
    (s.seen taken).conclude out call result o =
      ((s.conclude out call result o).1, (s.conclude out call result o).2.1.seen taken,
        (s.conclude out call result o).2.2) := by
  have recorded (reply : Json) :
      (s.seen taken).recordBreakpoints call.request reply = (s.recordBreakpoints call.request reply).seen taken := by
    simp only [recordBreakpoints]
    split
    · split <;> rfl
    · rfl
  cases purpose : call.purpose with
  | answer => simp only [conclude, purpose]
  | breakpoints => simp only [conclude, purpose, recorded]
  | disconnect => exact absurd purpose stays
  | rendering slot => cases result <;> simp only [conclude, purpose]

/-- Unless it stops the session, the end of a call leaves the worker as it is. -/
theorem worker_conclude {σ : Type} {out : Outside σ} (s : Session) {call : Call} (stays : call.purpose ≠ .disconnect)
    (result : Except Error Json) (o : σ) : (s.conclude out call result o).2.1.worker = s.worker := by
  rcases s.conclude_session out call result o with same | ⟨purpose, -⟩ | ⟨-, -, breakpoints, changed⟩
  · rw [same]
  · exact absurd purpose stays
  · rw [changed]

theorem record_hub (s : Session) (hub : Hub) (output : Relay.Output) :
    ({ s with hub } : Session).record output = { s.record output with hub } := by
  cases output <;> rfl

/-- What a session takes over from its relay does not depend on the hub or the worker. -/
theorem foldl_record_hub (s : Session) (worker : Option Worker) (hub : Hub) (outputs : List Relay.Output) :
    outputs.foldl record { s with worker, hub } = { outputs.foldl record s with worker, hub } := by
  induction outputs generalizing s with
  | nil => rfl
  | cons output outputs ih =>
      have first : ({ s with worker, hub } : Session).record output = { s.record output with worker, hub } := by
        cases output <;> rfl
      rw [List.foldl_cons, first, ih, List.foldl_cons]

theorem worker_afterWorker (s : Session) (done : Worker × Hub × List Relay.Output) :
    (s.afterWorker done).worker = some done.1 := by
  rw [afterWorker, foldl_record_hub]

theorem hub_afterWorker (s : Session) (done : Worker × Hub × List Relay.Output) :
    (s.afterWorker done).hub = done.2.1 := by
  rw [afterWorker, foldl_record_hub]

theorem seen_record (s : Session) (taken : List Json) (output : Relay.Output) :
    (s.record output).seen taken = (s.seen taken).record output := by
  cases output with
  | write message => simp only [seen, record, note, List.append_assoc]
  | unwritten message | observe event | reply message | publish header event => rfl

/-- The adapter's having taken messages makes no difference to what is taken over. -/
theorem seen_foldl_record (s : Session) (taken : List Json) (outputs : List Relay.Output) :
    (outputs.foldl record s).seen taken = outputs.foldl record (s.seen taken) := by
  induction outputs generalizing s with
  | nil => rfl
  | cons output outputs ih => rw [List.foldl_cons, ih, seen_record, List.foldl_cons]

end Session

namespace Courier

variable {w : Worker} {s : Session}

/-- A worker and the session after several of the worker's turns. -/
def takeAll (c : Courier) (s : Session) : List Turn → Courier × Session
  | [] => (c, s)
  | turn :: turns => (c.take s turn).1.takeAll (c.take s turn).2.1 turns

/-- A row of turns may be cut anywhere. -/
theorem takeAll_append (c : Courier) (s : Session) (first second : List Turn) :
    c.takeAll s (first ++ second) = (c.takeAll s first).1.takeAll (c.takeAll s first).2 second := by
  induction first generalizing c s with
  | nil => rfl
  | cons turn first ih => exact ih ..

/-- A worker comes to be like that, and the session as well, by turns of the worker. -/
def Gets (c : Courier) (s : Session) (next : Courier × Session) : Prop :=
  ∃ turns : List Turn, (∀ turn ∈ turns, turn.Readable) ∧ c.takeAll s turns = next

theorem Gets.refl (c : Courier) (s : Session) : c.Gets s (c, s) :=
  ⟨[], List.forall_mem_nil _, rfl⟩

theorem Gets.trans {c : Courier} {middle last : Courier × Session} (first : c.Gets s middle)
    (second : middle.1.Gets middle.2 last) : c.Gets s last := by
  obtain ⟨turns, readable, rfl⟩ := first
  obtain ⟨more, others, rfl⟩ := second
  exact ⟨turns ++ more, List.forall_mem_append.mpr ⟨readable, others⟩, c.takeAll_append s turns more⟩

/-- One turn leads where it leads. -/
theorem Gets.of_take (c : Courier) (s : Session) (turn : Turn) (readable : turn.Readable) :
    c.Gets s ((c.take s turn).1, (c.take s turn).2.1) :=
  ⟨[turn], List.forall_mem_singleton.mpr readable, rfl⟩

/-- A worker whose relay has done all that it had to do. -/
def eager (w : Worker) : Courier :=
  ⟨.relaying, w, [], [], true, w.relay.adapterAlive⟩

/-- The relay does one thing after the other. What it sends does not depend on what the session takes over. -/
theorem gets_act (c : Courier) (s : Session) (hub : Hub) (outputs : List Relay.Output) :
    ({ c with doing := outputs } : Courier).Gets { s with hub }
      ({ c with doing := [] }, outputs.foldl Session.record { s with hub := outputs.foldl c.worker.emit hub }) := by
  induction outputs generalizing s hub with
  | nil => exact .refl ..
  | cons output outputs ih =>
      refine Gets.trans (.of_take _ _ .act trivial) ?_
      have rest := ih (s.record output) (c.worker.emit hub output)
      rw [← Session.record_hub, ← Session.record_hub] at rest
      exact rest

/-- The session takes over what was done after what was done before. -/
theorem afterWorker_afterWorker (s : Session) (w w' : Worker) (hub hub' : Hub) (first others : List Relay.Output) :
    (s.afterWorker (w, hub, first)).afterWorker (w', hub', others) = s.afterWorker (w', hub', first ++ others) := by
  simp only [Session.afterWorker, List.foldl_append, Session.foldl_record_hub]

/-- A relay that has done nothing leaves the session as it is. -/
theorem afterWorker_nothing (running : s.worker = some w) : s.afterWorker (w, s.hub, []) = s := by
  cases s
  cases running
  rfl

/-- What the relay took is all done, and the session takes it over. -/
theorem gets_react (running : s.isStarted = true) (taken : List Json) (hub : Hub) (i : Relay.Input) (reading : Bool) :
    (⟨.relaying, (w.handle hub i).1, [], (w.handle hub i).2.2, true, reading⟩ : Courier).Gets
      { s.seen taken with hub }
      (⟨.relaying, (w.handle hub i).1, [], [], true, reading⟩, (s.afterWorker (w.handle hub i)).seen taken) := by
  have sends : (w.handle hub i).1.emit = w.emit := by
    funext hub output
    cases output <;> rfl
  have worker : s.worker.map (fun _ => Worker.unconnected) = some .unconnected := by
    obtain ⟨w, running⟩ := Option.isSome_iff_exists.mp running
    rw [running, Option.map_some]
  have done := gets_act ⟨.relaying, (w.handle hub i).1, [], [], true, reading⟩ (s.seen taken) hub (w.handle hub i).2.2
  rw [sends] at done
  rw [Session.afterWorker, Session.seen_foldl_record]
  simp only [Session.seen, worker, Option.map_some] at done ⊢
  exact done

/-- An input from the adapter is taken, and all is done that it asks for. -/
theorem gets_input (running : s.isStarted = true) (taken : List Json) {i : Relay.Input}
    (plain : ∀ frame, i ≠ .request frame) (reading : Bool) :
    (⟨.relaying, w, [.input i], [], true, reading⟩ : Courier).Gets (s.seen taken)
      (⟨.relaying, (w.handle s.hub i).1, [], [], true, reading⟩, (s.afterWorker (w.handle s.hub i)).seen taken) := by
  refine Gets.trans (.of_take _ _ (.relay (.ok ())) trivial) ?_
  have rest := gets_react (w := w) running taken s.hub i reading
  cases i with
  | request frame => exact absurd rfl (plain frame)
  | header frame | adapter v | adapterLost => exact rest

/-- What is read from the adapter is handled at once. -/
theorem eager_arrive (running : s.worker = some w) (taken : List Json) {a : Arrival} (readable : a.Readable) :
    ∃ w', (s.arrive a).worker = some w' ∧ (eager w).Gets (s.seen taken) (eager w', (s.arrive a).seen taken) := by
  have started : s.isStarted = true := Session.isStarted_of_running running
  cases alive : w.relay.adapterAlive with
  | false =>
      rw [Session.arrive_of_lost running alive]
      exact ⟨w, running, .refl ..⟩
  | true =>
      have reads : eager w = ⟨.relaying, w, [], [], true, true⟩ := by rw [eager, alive]
      cases a with
      | message v =>
          have arrived : s.arrive (.message v) =
              (s.note [Session.receivedLine v]).afterWorker (w.handle s.hub (.adapter v)) := by
            simp only [Session.arrive, running, alive, if_true, Worker.onArrival, Session.note]
          have still : (w.handle s.hub (.adapter v)).1.relay.adapterAlive = true :=
            (Relay.onMessage_adapterAlive ..).trans alive
          refine ⟨(w.handle s.hub (.adapter v)).1, ?_, ?_⟩
          · rw [arrived, Session.worker_afterWorker]
          · rw [arrived, reads, eager, still]
            refine Gets.trans (.of_take _ _ (.hear (.message v)) readable) ?_
            exact gets_input (s := s.note [Session.receivedLine v]) started taken (fun frame same => by cases same) true
      | lost =>
          have arrived : s.arrive .lost = s.afterWorker (w.handle s.hub .adapterLost) := by
            simp only [Session.arrive, running, alive, if_true, Worker.onArrival]
          refine ⟨(w.handle s.hub .adapterLost).1, ?_, ?_⟩
          · rw [arrived, Session.worker_afterWorker]
          · rw [arrived, reads, eager]
            refine Gets.trans (.of_take _ _ (.hear .lost) readable) ?_
            exact gets_input started taken (fun frame same => by cases same) false

/-- A request that is written leaves the adapter as it is. -/
theorem alive_of_request (w : Worker) (hub : Hub) (frame : Bytes) :
    (w.handle hub (.request frame)).1.relay.adapterAlive = w.relay.adapterAlive := by
  rw [Worker.handle_eq]
  rcases w.relay.step_request frame with ⟨e, unread, same⟩ | ⟨message, read, same, outputs⟩
  · rw [same]
  · exact same

/-- The requests that wait are taken one after the other, each behind its header. -/
theorem eager_takeRequests (running : s.worker = some w) (taken : List Json) (count : Nat) :
    (eager w).Gets (s.seen taken) (eager (w.takeRequests count s.hub).1,
      (s.afterWorker (w.takeRequests count s.hub)).seen taken) := by
  induction count generalizing s w with
  | zero =>
      rw [Worker.takeRequests, afterWorker_nothing running]
      exact .refl ..
  | succ count ih =>
      rw [Worker.takeRequests]
      split
      · next frame hub received =>
          have started : s.isStarted = true := Session.isStarted_of_running running
          let v := (w.takeHeaders hub).1
          let next := (w.takeHeaders hub).2
          let done := v.handle next (.request frame)
          have alive : done.1.relay.adapterAlive = w.relay.adapterAlive := by
            rw [alive_of_request]
            exact congrArg (fun p => p.1.relay.adapterAlive) (w.takeHeaders_eq hub)
          have fetched : (eager w).Gets (s.seen taken)
              (⟨.relaying, w, [.input (.request frame)], [], true, w.relay.adapterAlive⟩,
                { s.seen taken with hub }) := by
            have read : (eager w).take (s.seen taken) .fetch =
                (⟨.relaying, w, [.input (.request frame)], [], true, w.relay.adapterAlive⟩, { s.seen taken with hub },
                  [.got w.request.binding? frame]) := by
              simp only [take, fetch, eager, Session.seen, received, if_true, List.nil_append]
            have turn := Gets.of_take (eager w) (s.seen taken) .fetch trivial
            rwa [read] at turn
          have accepted := gets_react (w := v) started taken next (.request frame) w.relay.adapterAlive
          have rest := ih (s := s.afterWorker done) (w := done.1) (s.worker_afterWorker done)
          rw [s.hub_afterWorker done, afterWorker_afterWorker, eager, alive] at rest
          exact fetched.trans (Gets.trans (.of_take _ _ (.relay (.ok ())) trivial) (accepted.trans rest))
      · rw [afterWorker_nothing running]
        exact .refl ..

/-- A worker that finds the control side gone ends. -/
theorem eager_ends {e : Error} (gone : s.hub.receive w.request = .error e) :
    (eager w).Gets s (⟨.ended (.ok ()), w, [], [], false, false⟩, s) := by
  have fetched : (eager w).take s .fetch = (⟨.relaying, w, [.closed], [], false, w.relay.adapterAlive⟩, s, []) := by
    simp only [take, fetch, eager, gone, if_true, List.nil_append]
  have first := Gets.of_take (eager w) s .fetch trivial
  rw [fetched] at first
  exact first.trans (Gets.trans (.of_take _ _ (.relay (.ok ())) trivial) (.of_take _ _ .finish trivial))

/-- A new worker takes the question of the control side. -/
theorem fresh_greets {hub : Hub} (connected : Worker.connect s.hub = .ok w)
    (received : s.hub.receive w.request = .ok (some askReady, hub)) :
    fresh.Gets s (⟨.dialling, w, [], [], false, false⟩, { s with hub }) := by
  have embarked : fresh.take s .embark = (⟨.greeting, w, [], [], false, false⟩, s, []) := by
    simp only [take, embark, fresh, connected]
  have greeted : (⟨.greeting, w, [], [], false, false⟩ : Courier).take s .greet =
      (⟨.dialling, w, [], [], false, false⟩, { s with hub }, [.got w.request.binding? askReady]) := by
    simp only [take, greet, received, if_true]
  have first := Gets.of_take fresh s .embark trivial
  have second := Gets.of_take ⟨.greeting, w, [], [], false, false⟩ s .greet trivial
  rw [embarked] at first
  rw [greeted] at second
  exact first.trans second

/-- With a connection it answers, and its relay runs. -/
theorem dialling_accepted {sent : Hub} (new : w.relay = .start) (send : s.hub.send w.request isReady = .ok sent) :
    (⟨.dialling, w, [], [], false, false⟩ : Courier).Gets s (eager w, { s with hub := sent }) := by
  have acknowledged : (⟨.connected, w, [], [], true, true⟩ : Courier).take s .acknowledge =
      (eager w, { s with hub := sent }, []) := by
    simp only [take, acknowledge, Worker.answerReady, if_true, send, eager, new]
    rfl
  have second := Gets.of_take ⟨.connected, w, [], [], true, true⟩ s .acknowledge trivial
  rw [acknowledged] at second
  exact Gets.trans (.of_take _ _ (.dial .reached) trivial) second

/-- Without one it gives up. -/
theorem dialling_refused {sent : Hub} (send : s.hub.send w.request givesUp = .ok sent) :
    (⟨.dialling, w, [], [], false, false⟩ : Courier).Gets s
      (⟨.ended (.error (.adapterUnreachable s.address.text)), w, [], [], false, false⟩,
        { s with hub := sent }) := by
  have refused : (⟨.dialling, w, [], [], false, false⟩ : Courier).take s (.dial .refused) =
      (⟨.ended (.error (.adapterUnreachable s.address.text)), w, [], [], false, false⟩,
        { s with hub := sent }, []) := by
    simp only [take, dial, Worker.answerReady, if_true, Bool.false_eq_true, if_false, Worker.sendIfPossible, send,
      Except.toOption, Option.getD_some]
  have turn := Gets.of_take ⟨.dialling, w, [], [], false, false⟩ s (.dial .refused) trivial
  rwa [refused] at turn

end Courier

namespace Bridge

variable {σ : Type} {out : Outside σ} {untouched : Bridge σ → Nat → Prop} {s : Session} {o : σ} {b : Bridge σ}

/-- What a worker gets to by turns of its own happens beside the control side. -/
theorem happenings_of_gets (untouched : Bridge σ → Nat → Prop) {c : Courier} {next : Courier × Session}
    (gets : c.Gets b.session next) {earlier : List Courier} (couriers : b.couriers = earlier ++ [c]) :
    ∃ (happenings : List (Happening σ)) (deeds : List Deed), (∀ h ∈ happenings, Allowed untouched h) ∧
      deeds.any isOverdue = false ∧
        happenings.foldl happen b = ⟨next.2, earlier ++ [next.1], b.outside, b.deeds ++ deeds⟩ := by
  obtain ⟨turns, readable, rfl⟩ := gets
  induction turns generalizing c b with
  | nil =>
      obtain ⟨session, couriers, outside, deeds⟩ := b
      subst couriers
      exact ⟨[], [], List.forall_mem_nil _, rfl, by simp [Courier.takeAll]⟩
  | cons turn turns ih =>
      rw [List.forall_mem_cons] at readable
      have found : (earlier ++ [c])[earlier.length]? = some c := by simp
      have turned : b.happen (.turn earlier.length turn) = ⟨(c.take b.session turn).2.1,
          earlier ++ [(c.take b.session turn).1], b.outside,
            b.deeds ++ (c.take b.session turn).2.2.map (.courier earlier.length)⟩ := by
        rw [happen]
        simp only [couriers, found, List.set_append_right _ _ le_rfl, Nat.sub_self, List.set_cons_zero]
      obtain ⟨happenings, deeds, allowed, timely, last⟩ := ih (b := b.happen (.turn earlier.length turn))
        (c := (c.take b.session turn).1) (by rw [turned]) readable.2
      refine ⟨.turn earlier.length turn :: happenings,
        (c.take b.session turn).2.2.map (.courier earlier.length) ++ deeds, ?_, ?_, ?_⟩
      · refine List.forall_mem_cons.mpr ⟨?_, allowed⟩
        cases turn <;> exact readable.1
      · rw [List.any_append, timely, List.any_map, Bool.or_false, List.any_eq_false]
        exact fun note _ => Bool.false_ne_true
      · rw [List.foldl_cons, last, turned, Courier.takeAll, List.append_assoc]

/-- A bridge in which the newest worker keeps up with what a session tells. -/
structure Mirrors (s : Session) (o : σ) (b : Bridge σ) : Prop where
  session : ∃ taken, b.session = s.seen taken
  outside : b.outside = o
  courier : ∀ w, s.worker = some w → ∃ earlier, b.couriers = earlier ++ [.eager w]
  prompt : b.Prompt

/-- A bridge stays prompt as long as no wait fails. -/
theorem Prompt.later {next : Bridge σ} {more : List Deed} (prompt : b.Prompt) (timely : more.any isOverdue = false)
    (deeds : next.deeds = b.deeds ++ more) : next.Prompt := by
  rw [prompt_iff] at prompt ⊢
  rw [deeds, List.any_append, prompt, timely]
  rfl

/-- A bridge goes on mirroring when the control side changes both alike and the worker stays. -/
theorem Mirrors.later {s' : Session} {o' : σ} {next : Bridge σ} {taken : List Json} {more : List Deed}
    (mirrors : Mirrors s o b) (session : next.session = s'.seen taken) (outside : next.outside = o')
    (worker : s'.worker = s.worker) (couriers : next.couriers = b.couriers) (timely : more.any isOverdue = false)
    (deeds : next.deeds = b.deeds ++ more) : Mirrors s' o' next where
  session := ⟨taken, session⟩
  outside := outside
  courier := by
    rw [worker, couriers]
    exact mirrors.courier
  prompt := mirrors.prompt.later timely deeds

/-- The bridge comes to mirror the session by what can happen beside the control side. -/
def CatchesUp (untouched : Bridge σ → Nat → Prop) (s : Session) (o : σ) (b : Bridge σ) : Prop :=
  ∃ happenings : List (Happening σ), (∀ h ∈ happenings, Allowed untouched h) ∧ Mirrors s o (happenings.foldl happen b)

theorem Mirrors.catchesUp (mirrors : Mirrors s o b) : CatchesUp untouched s o b :=
  ⟨[], List.forall_mem_nil _, mirrors⟩

/-- A bridge that has caught up can go on catching up. -/
theorem CatchesUp.trans {s' : Session} {o' : σ} (first : CatchesUp untouched s o b)
    (second : ∀ b', Mirrors s o b' → CatchesUp untouched s' o' b') : CatchesUp untouched s' o' b := by
  obtain ⟨happenings, allowed, mirrors⟩ := first
  obtain ⟨more, others, last⟩ := second _ mirrors
  refine ⟨happenings ++ more, List.forall_mem_append.mpr ⟨allowed, others⟩, ?_⟩
  rwa [List.foldl_append]

/-- The newest worker gets to where the session has it. -/
theorem catchesUp_of_gets {w w' : Worker} {s' : Session} {taken : List Json} {earlier : List Courier}
    (session : b.session = s.seen taken) (outside : b.outside = o) (couriers : b.couriers = earlier ++ [.eager w])
    (prompt : b.Prompt) (running : s'.worker = some w')
    (gets : (Courier.eager w).Gets (s.seen taken) (.eager w', s'.seen taken)) : CatchesUp untouched s' o b := by
  rw [← session] at gets
  obtain ⟨happenings, deeds, allowed, timely, last⟩ := happenings_of_gets untouched gets couriers
  refine ⟨happenings, allowed, ?_⟩
  rw [last]
  exact ⟨⟨taken, rfl⟩, outside, fun v same => by cases running.symm.trans same; exact ⟨earlier, rfl⟩,
    prompt.later timely rfl⟩

/-- The bridge keeps up with what is read from the adapter. -/
theorem Mirrors.arrive (mirrors : Mirrors s o b) {a : Arrival} (readable : a.Readable) :
    CatchesUp untouched (s.arrive a) o b := by
  obtain ⟨⟨taken, session⟩, outside, courier, prompt⟩ := mirrors
  cases running : s.worker with
  | none =>
      have ignored : s.arrive a = s := by simp only [Session.arrive, running]
      rw [ignored]
      exact Mirrors.catchesUp ⟨⟨taken, session⟩, outside, courier, prompt⟩
  | some w =>
      obtain ⟨earlier, couriers⟩ := courier w running
      obtain ⟨w', running', gets⟩ := Courier.eager_arrive running taken readable
      exact catchesUp_of_gets session outside couriers prompt running' gets

/-- The bridge keeps up with any row of arrivals. -/
theorem Mirrors.arrivals (mirrors : Mirrors s o b) {arrivals : List Arrival} (readable : ∀ a ∈ arrivals, a.Readable) :
    CatchesUp untouched (arrivals.foldl Session.arrive s) o b := by
  induction arrivals generalizing s b with
  | nil => exact mirrors.catchesUp
  | cons a arrivals ih =>
      rw [List.forall_mem_cons] at readable
      exact (mirrors.arrive readable.1).trans fun b' mirrors => ih mirrors readable.2

/-- The bridge keeps up with the requests that the session's worker takes. -/
theorem Mirrors.serve (mirrors : Mirrors s o b) : CatchesUp untouched s.serve o b := by
  obtain ⟨⟨taken, session⟩, outside, courier, prompt⟩ := mirrors
  cases running : s.worker with
  | none =>
      have ignored : s.serve = s := by simp only [Session.serve, running]
      rw [ignored]
      exact Mirrors.catchesUp ⟨⟨taken, session⟩, outside, courier, prompt⟩
  | some w =>
      obtain ⟨earlier, couriers⟩ := courier w running
      have served : s.serve = s.afterWorker (w.serve s.hub) := by simp only [Session.serve, running]
      rw [served]
      exact catchesUp_of_gets session outside couriers prompt (s.worker_afterWorker _)
        (Courier.eager_takeRequests running taken _)

/-- The bridge keeps up with what changes outside. -/
theorem Mirrors.change (mirrors : Mirrors s o b) (change : σ → σ) : CatchesUp untouched s (change o) b := by
  refine ⟨[.outside change], by simp [Allowed], mirrors.session, ?_, mirrors.courier, mirrors.prompt⟩
  exact congrArg change mirrors.outside

/-! ## The operations of the control side -/

/-- A schedule by which things happen while the control side waits for a worker to be ready or to end, and before and
after it passes a message on. -/
def busy (asked waiting considered passed : List (Happening σ)) : Schedule σ
  | .asked => asked
  | .waiting => waiting
  | .considered => considered
  | .passed => passed
  | _ => []

/-- Such a schedule is permitted if all that it lists is. -/
theorem permits_busy {asked waiting considered passed : List (Happening σ)} (first : ∀ h ∈ asked, Allowed untouched h)
    (second : ∀ h ∈ waiting, Allowed untouched h) (third : ∀ h ∈ considered, Allowed untouched h)
    (fourth : ∀ h ∈ passed, Allowed untouched h) :
    Permits (Allowed untouched) (busy asked waiting considered passed) := by
  intro p
  cases p <;> first | exact first | exact second | exact third | exact fourth | exact List.forall_mem_nil _

/-- Shutting down ends the worker, if that ends once its endpoints are free. -/
theorem shutDown_mirrors (untouched : Bridge σ → Nat → Prop) {c c' : Courier} {earlier : List Courier}
    {taken : List Json} {result : Except Error Unit} (started : s.isStarted = true) (session : b.session = s.seen taken)
    (outside : b.outside = o) (couriers : b.couriers = earlier ++ [c]) (prompt : b.Prompt)
    (ended : c'.stage = .ended result)
    (gets : c.Gets (s.unbindRequest.unbindHeader.seen taken) (c', s.unbindRequest.unbindHeader.seen taken)) :
    ∃ (waiting : List (Happening σ)) (next : Bridge σ), (∀ h ∈ waiting, Allowed untouched h) ∧
      Mirrors s.shutDown o next ∧
        ∀ asked considered passed, b.shutDown (busy asked waiting considered passed) = next := by
  have free : b.freeRequest.freeHeader.session = s.unbindRequest.unbindHeader.seen taken := by
    rw [freeHeader, freeRequest, session]
    rfl
  rw [← free] at gets
  obtain ⟨waiting, more, allowed, timely, last⟩ := happenings_of_gets untouched gets couriers
  rw [free] at last
  have running : (s.unbindRequest.unbindHeader.seen taken).isStarted = true := by
    rw [← started]
    exact Option.isSome_map
  have waited : wait ⟨s.unbindRequest.unbindHeader.seen taken, earlier ++ [c'], b.outside, b.deeds ++ more⟩ =
      ⟨{ s.unbindRequest.unbindHeader.seen taken with worker := none }, earlier ++ [c'], b.outside,
        b.deeds ++ more ++ [.waited (Worker.result result)]⟩ := by
    simp only [wait, running, if_true, List.getLast?_append, List.getLast?_singleton, Option.some_or, Courier.awaited,
      ended, done]
  have words : [.waited (Worker.result result), .forgotStopped, .forgotKnown].any isOverdue = false := by
    cases result <;> rfl
  refine ⟨waiting, ⟨s.shutDown.seen taken, earlier ++ [c'], o,
    b.deeds ++ (more ++ [.waited (Worker.result result), .forgotStopped, .forgotKnown])⟩, allowed, ?_, ?_⟩
  · refine ⟨⟨taken, rfl⟩, rfl, fun w running => (by cases running), prompt.later ?_ rfl⟩
    rw [List.any_append, timely, words]
    rfl
  · intro asked considered passed
    have paused : b.shutDown (busy asked waiting considered passed) =
        (waiting.foldl happen b.freeRequest.freeHeader).wait.forgetStopped.forgetKnown := rfl
    rw [paused, last]
    change (wait ⟨s.unbindRequest.unbindHeader.seen taken, earlier ++ [c'], b.outside,
      b.deeds ++ more⟩).forgetStopped.forgetKnown = _
    rw [waited, outside]
    simp only [forgetStopped, forgetKnown, done, List.append_assoc, List.cons_append, List.nil_append]
    rfl

/-- The worker's end of a session that frees its endpoints. -/
theorem gone_of_unbound {w : Worker} {q h : Nat} (sound : s.hub.Sound) (bound : s.Bound q h) (tied : w.Tied q h)
    (taken : (s.hub.channelsOf q).toPeers = []) :
    s.unbindRequest.unbindHeader.hub.receive w.request = .error (.disconnected requestEndpoint) := by
  have hub : s.unbindRequest.unbindHeader.hub = (s.hub.release requestEndpoint q).release headerEndpoint h := by
    simp only [Session.unbindRequest, Session.unbindHeader, bound.request, bound.header, Hub.unbind_bound]
  have channels : s.unbindRequest.unbindHeader.hub.channelsOf q = { s.hub.channelsOf q with live := false } := by
    rw [hub, Hub.channelsOf_release_of_ne _ _ (bound.apart sound), Hub.channelsOf_release _ _ (bound.inRange sound)]
  simp only [tied.request, Hub.receive, channels, taken, Bool.false_eq_true, if_false]

/-- Stopping the bridge comes to what stopping the session comes to. -/
theorem Mirrors.stop (untouched : Bridge σ → Nat → Prop) (mirrors : Mirrors s o b) (sound : s.Sound)
    (queued : s.Queued fun _ => True) :
    ∃ (waiting : List (Happening σ)) (next : Bridge σ), (∀ h ∈ waiting, Allowed untouched h) ∧ Mirrors s.stop o next ∧
      ∀ asked considered passed, b.stop (busy asked waiting considered passed) = next := by
  obtain ⟨⟨taken, session⟩, outside, courier, prompt⟩ := mirrors
  have forgot : ({ b.session with breakpoints := [] } : Session) =
      ({ s with breakpoints := [] } : Session).seen taken := by
    rw [session]
    rfl
  cases running : s.worker with
  | none =>
      have idle (s' : Session) (worker : s'.worker = s.worker) (o' : σ) (cs : List Courier) (deeds : List Deed) :
          wait ⟨s'.seen taken, cs, o', deeds⟩ = ⟨s'.seen taken, cs, o', deeds⟩ := by
        rw [wait, if_neg]
        simp [Session.isStarted, Session.seen, worker, running]
      refine ⟨[], ⟨s.stop.seen taken, b.couriers, o, b.deeds ++ [.forgotStopped, .forgotKnown]⟩, List.forall_mem_nil _,
        ⟨⟨taken, rfl⟩, rfl, fun w again => (by cases again), prompt.later rfl rfl⟩, fun asked considered passed => ?_⟩
      · have stops : b.stop (busy asked [] considered passed) =
            (wait ⟨(Session.unbindHeader (Session.unbindRequest { b.session with breakpoints := [] })), b.couriers,
              b.outside, b.deeds⟩).forgetStopped.forgetKnown := rfl
        have still := idle (Session.unbindHeader (Session.unbindRequest { s with breakpoints := [] })) rfl o b.couriers
          b.deeds
        rw [stops, forgot, outside]
        refine (congrArg (fun b => b.forgetStopped.forgetKnown) still).trans ?_
        simp only [forgetStopped, forgetKnown, done, List.append_assoc, List.cons_append, List.nil_append]
        cases s
        cases running
        rfl
  | some w =>
      obtain ⟨earlier, couriers⟩ := courier w running
      obtain ⟨q, h, bound, tied⟩ := sound.running w running
      have gone := gone_of_unbound (s := { s with breakpoints := [] }) sound.hub
        ⟨bound.request, bound.header, bound.requestBound, bound.headerBound⟩ tied (queued.taken q bound.request)
      exact shutDown_mirrors untouched (b := { b with session := { b.session with breakpoints := [] } })
        (s := { s with breakpoints := [] }) (Session.isStarted_of_running running) forgot outside couriers prompt rfl
        (Courier.eager_ends gone)

/-- If nothing happens in between, the endpoints are bound as the session binds them. -/
theorem bindControl_busy (b : Bridge σ) (asked waiting considered passed : List (Happening σ)) :
    b.bindControl (busy asked waiting considered passed) =
      (b.session.bindControl.1, { b with session := b.session.bindControl.2 }) := by
  rw [bindControl, Session.bindControl]
  cases b.session.bindRequest with
  | error e => rfl
  | ok session =>
      simp only [pause, busy, List.foldl_nil]
      cases session.bindHeader with
      | error e => rfl
      | ok session => rfl

/-- A session that has made a worker, as it has a hub then. -/
def asking (s : Session) (w : Worker) (hub : Hub) : Session :=
  { s with hub, worker := some w }

/-- A new worker is waited for in the course of its turns. -/
theorem startWorker_of_gets (untouched : Bridge σ → Nat → Prop) {w : Worker} {asked sent : Hub} {c : Courier}
    {taken : List Json} (session : b.session = s.seen taken) (ask : s.hub.send s.request askReady = .ok asked)
    (gets : Courier.fresh.Gets ((asking s w asked).seen taken) (c, (asking s w sent).seen taken)) (o' : σ) :
    ∃ (turns : List (Happening σ)) (deeds : List Deed), (∀ h ∈ turns, Allowed untouched h) ∧
      deeds.any isOverdue = false ∧ ∀ waiting considered passed,
        b.startWorker (busy turns waiting considered passed) =
          let after (hub : Hub) : Bridge σ :=
            ⟨(asking s w hub).seen taken, b.couriers ++ [c], o', b.deeds ++ deeds⟩
          match sent.receiveWithin s.request s.settings.handshakeTime with
          | .error e => (.error e, after sent)
          | .ok (answer, hub) =>
            if answer = isReady then (.ok (), after hub)
            else (.error (.adapterUnreachable s.address.text), after hub) := by
  obtain ⟨turns, deeds, allowed, timely, last⟩ := happenings_of_gets untouched
    (b := ⟨(asking s w asked).seen taken, b.couriers ++ [.fresh], b.outside,
      b.deeds ++ [.sent s.request askReady]⟩) gets rfl
  refine ⟨turns ++ [.outside fun _ => o'], .sent s.request askReady :: deeds, ?_, ?_,
    fun waiting considered passed => ?_⟩
  · exact List.forall_mem_append.mpr ⟨allowed, by simp [Allowed]⟩
  · simpa [isOverdue] using timely
  · have sends : b.spawn.send b.session.request askReady =
        .ok ⟨(asking s w asked).seen taken, b.couriers ++ [.fresh], b.outside,
          b.deeds ++ [.sent s.request askReady]⟩ := by
      rw [send, spawn, session]
      simp only [Session.seen, ask]
      rfl
    have paused : pause ⟨(asking s w asked).seen taken, b.couriers ++ [.fresh], b.outside,
        b.deeds ++ [.sent s.request askReady]⟩
          (busy (turns ++ [.outside fun _ => o']) waiting considered passed) .asked =
        ⟨(asking s w sent).seen taken, b.couriers ++ [c], o', b.deeds ++ .sent s.request askReady :: deeds⟩ := by
      rw [pause, busy, List.foldl_append, last, ← List.append_cons]
      rfl
    rw [startWorker, sends]
    simp only [paused]
    rfl

/-- What a start comes to, with what happens in the course of it: the next state mirrors the session's, and unless the
start fails no worker's end is waited for. -/
def StartsSo {α : Type} (untouched : Bridge σ → Nat → Prop) (done : Except Error α × Session × σ)
    (start : Schedule σ → Except Error α × Bridge σ) : Prop :=
  ∃ (asked waiting : List (Happening σ)) (next : Bridge σ), (∀ h ∈ asked, Allowed untouched h) ∧
    (∀ h ∈ waiting, Allowed untouched h) ∧ Mirrors done.2.1 done.2.2 next ∧ ∀ ends considered passed,
      (∃ success, done.1 = .ok success) ∨ ends = waiting → start (busy asked ends considered passed) = (done.1, next)

/-- A start in the course of which nothing happens. -/
theorem startsSo_of_eq {α : Type} {done : Except Error α × Session × σ}
    {start : Schedule σ → Except Error α × Bridge σ} {next : Bridge σ} (mirrors : Mirrors done.2.1 done.2.2 next)
    (same : ∀ asked waiting considered passed, start (busy asked waiting considered passed) = (done.1, next)) :
    StartsSo untouched done start :=
  ⟨[], [], next, List.forall_mem_nil _, List.forall_mem_nil _, mirrors, fun _ _ _ _ => same ..⟩

/-- Binding the endpoints and making a worker comes to what it comes to for the session. -/
theorem Mirrors.engage (out : Outside σ) (untouched : Bridge σ → Nat → Prop) (mirrors : Mirrors s o b)
    (sound : s.Sound) (stopped : s.worker = none) : StartsSo untouched (s.engage out o) b.engage := by
  obtain ⟨⟨taken, session⟩, outside, -, prompt⟩ := mirrors
  obtain ⟨request, header, requestFree, headerFree, -⟩ := sound.idle stopped
  have requestFree := Hub.isBound_eq_false_iff.mpr requestFree
  have headerFree := Hub.isBound_eq_false_iff.mpr headerFree
  have binds : s.bindControl = (.ok (), s.withControl) :=
    Session.bindControl_of_free request header requestFree headerFree
  have both : b.session.bindControl = (.ok (), s.withControl.seen taken) := by
    rw [session]
    exact Session.bindControl_of_free (s := s.seen taken) request header requestFree headerFree
  obtain ⟨w, asked, heard, tied, new, -, greeted⟩ := Session.greeted s.bound_withControl
    (Session.sound_withControl sound.hub requestFree headerFree) s.channelsOf_withControl.1
  have greets : Courier.fresh.Gets ((asking s.withControl w asked).seen taken)
      (⟨.dialling, w, [], [], false, false⟩, (asking s.withControl w heard).seen taken) :=
    Courier.fresh_greets (s := (asking s.withControl w asked).seen taken) greeted.late greeted.take
  rcases dialled : out.dial s.address s.settings o with ⟨dial, o'⟩
  have same : out.dial s.withControl.address s.withControl.settings o = (dial, o') := dialled
  have later {deeds : List Deed} {hub : Hub} {c : Courier} (timely : deeds.any isOverdue = false) :
      Prompt ⟨(asking s.withControl w hub).seen taken, b.couriers ++ [c], o', b.deeds ++ deeds⟩ :=
    prompt.later timely rfl
  have started {sent : Hub} {c : Courier}
      (gets : Courier.fresh.Gets ((asking s.withControl w asked).seen taken)
        (c, (asking s.withControl w sent).seen taken)) := startWorker_of_gets untouched
    (b := { b with session := s.withControl.seen taken }) rfl greeted.ask gets o'
  -- A start that fails waits for the end of its worker, which then has or finds a reason to end.
  have fails (hub : Hub) {c c' : Courier} {deeds : List Deed} {result : Except Error Unit}
      (timely : deeds.any isOverdue = false) (gets : ∀ s', c.Gets s' (c', s')) (ended : c'.stage = .ended result) :=
    shutDown_mirrors untouched (s := asking s.withControl w hub)
      (b := ⟨(asking s.withControl w hub).seen taken, b.couriers ++ [c], o', b.deeds ++ deeds⟩) rfl rfl rfl rfl
      (later timely) ended (gets _)
  cases dial with
  | accepted =>
      obtain ⟨sent, after, -, -, -, send, receive⟩ := greeted.answered isReady
      have done : s.engage out o = (.ok true, asking s.withControl w after, o') := by
        simp only [Session.engage, binds, same, greeted.accepted send receive]
        rfl
      have accepts : Courier.fresh.Gets ((asking s.withControl w asked).seen taken)
          (.eager w, (asking s.withControl w sent).seen taken) :=
        greets.trans (Courier.dialling_accepted (s := (asking s.withControl w heard).seen taken) new send)
      obtain ⟨turns, deeds, allowed, timely, starts⟩ := started accepts
      rw [done]
      refine ⟨turns, [], ⟨(asking s.withControl w after).seen taken, b.couriers ++ [.eager w], o', b.deeds ++ deeds⟩,
        allowed, List.forall_mem_nil _, ⟨⟨taken, rfl⟩, rfl, ?_, later timely⟩, ?_⟩
      · intro v found
        cases found
        exact ⟨b.couriers, rfl⟩
      · intro ends considered passed _
        rw [Bridge.engage, bindControl_busy, both]
        simp only [starts, receive, if_true]
  | refused =>
      obtain ⟨sent, after, -, -, -, send, receive⟩ := greeted.answered givesUp
      have declined : ¬ givesUp = isReady := by decide
      have done : s.engage out o = (.error (.adapterUnreachable s.withControl.address.text),
          (asking s.withControl w after).shutDown, o') := by
        simp only [Session.engage, binds, same, greeted.refused send receive]
        rfl
      have refuses : Courier.fresh.Gets ((asking s.withControl w asked).seen taken)
          (⟨.ended (.error (.adapterUnreachable s.withControl.address.text)), w, [], [], false, false⟩,
            (asking s.withControl w sent).seen taken) :=
        greets.trans (Courier.dialling_refused (s := (asking s.withControl w heard).seen taken) send)
      obtain ⟨turns, deeds, allowed, timely, starts⟩ := started refuses
      obtain ⟨waiting, next, allowed', mirrors, stops⟩ := fails after timely (Courier.Gets.refl
        ⟨.ended (.error (.adapterUnreachable s.withControl.address.text)), w, [], [], false, false⟩) rfl
      rw [done]
      refine ⟨turns, waiting, next, allowed, allowed', mirrors, fun ends considered passed own => ?_⟩
      obtain rfl := own.resolve_left (by simp)
      rw [Bridge.engage, bindControl_busy, both]
      simp only [starts, receive, if_neg declined, stops]
  | tooLate =>
      have done : s.engage out o = (.error (.timeout s.withControl.settings.handshakeTime),
          (asking s.withControl w heard).shutDown, o') := by
        simp only [Session.engage, binds, same, greeted.tooLate]
        rfl
      obtain ⟨turns, deeds, allowed, timely, starts⟩ := started greets
      obtain ⟨waiting, next, allowed', mirrors, stops⟩ := fails heard timely (fun s' =>
        Courier.Gets.of_take ⟨.dialling, w, [], [], false, false⟩ s' (.dial (.unusable .capacity)) trivial) rfl
      rw [done]
      refine ⟨turns, waiting, next, allowed, allowed', mirrors, fun ends considered passed own => ?_⟩
      obtain rfl := own.resolve_left (by simp)
      rw [Bridge.engage, bindControl_busy, both]
      simp only [starts, greeted.silent, stops]

/-- A bridge as it is once the adapter was launched, or that was tried. -/
theorem ensureLaunched_of_seen (out : Outside σ) (s : Session) (taken : List Json) (couriers : List Courier) (o : σ)
    (deeds : List Deed) :
    ∃ lines, (⟨s.seen taken, couriers, o, deeds⟩ : Bridge σ).ensureLaunched out =
      ⟨(s.ensureLaunched out o).1.seen taken, couriers, (s.ensureLaunched out o).2, deeds ++ [.launched lines]⟩ :=
  ⟨_, rfl⟩

/-- A start in the course of which nothing happens before the endpoints are bound. -/
theorem start_undisturbed (during : Schedule σ) {o₁ : σ} {ready : Bridge σ} (idle : ¬ b.session.isStarted = true)
    (undisturbed : during .logged = [] ∧ during .launched = [] ∧ during .staged = [])
    (logged : out.makeDirectory b.session.kernel.logDirectory b.outside = (.ok (), o₁))
    (launched : Bridge.ensureLaunched out { b with outside := o₁ } = ready) :
    b.start out during =
      if ready.session.launch = .started then
        match out.makeDirectory ready.session.kernel.cellDirectory ready.outside with
        | (.error e, outside) => (.error e, { ready with outside })
        | (.ok (), outside) => Bridge.engage { ready with outside } during
      else (.ok false, ready) := by
  rw [Bridge.start, if_neg idle]
  simp only [ask, logged, pause, undisturbed, List.foldl_nil, launched]
  split
  · rcases out.makeDirectory ready.session.kernel.cellDirectory ready.outside with ⟨e | success, outside⟩ <;> rfl
  · rfl

/-- A start of the bridge comes to what a start of the session comes to. -/
theorem Mirrors.start (out : Outside σ) (untouched : Bridge σ → Nat → Prop) (mirrors : Mirrors s o b)
    (sound : s.Sound) : StartsSo untouched (s.start out o) (b.start out) := by
  obtain ⟨session, couriers, outside, deeds⟩ := b
  obtain ⟨⟨taken, same⟩, rfl, -, -⟩ := id mirrors
  obtain rfl : session = s.seen taken := same
  cases running : s.worker with
  | some w =>
      have started : s.start out outside = (.ok true, s, outside) := by
        rw [Session.start, if_pos (Session.isStarted_of_running running)]
      have already : (s.seen taken).isStarted = true := by
        rw [Session.isStarted, Session.seen, running]
        rfl
      rw [started]
      exact startsSo_of_eq mirrors fun asked waiting considered passed => by rw [Bridge.start, if_pos already]
  | none =>
      have idle : ¬ (s.seen taken).isStarted = true := by
        rw [Session.isStarted, Session.seen, running]
        exact Bool.false_ne_true
      rw [Session.start_eq out running]
      rcases logged : out.makeDirectory s.kernel.logDirectory outside with ⟨e | success, o₁⟩
      · have still : Mirrors s o₁ ⟨s.seen taken, couriers, o₁, deeds⟩ :=
          mirrors.later rfl rfl rfl rfl List.any_nil (List.append_nil _).symm
        refine startsSo_of_eq still fun asked waiting considered passed => ?_
        rw [Bridge.start, if_neg idle]
        simp only [ask, Session.seen, logged]
      · obtain ⟨launch, transcript, o₂, launched⟩ := s.ensureLaunched_eq out o₁
        obtain ⟨lines, made⟩ := ensureLaunched_of_seen out s taken couriers o₁ deeds
        simp only [launched] at made
        have later (o' : σ) : Mirrors { s with launch, transcript } o'
            ⟨({ s with launch, transcript } : Session).seen taken, couriers, o', deeds ++ [.launched lines]⟩ :=
          mirrors.later rfl rfl rfl rfl rfl rfl
        have goesOn (asked waiting considered passed : List (Happening σ)) :=
          start_undisturbed (b := ⟨s.seen taken, couriers, outside, deeds⟩) (busy asked waiting considered passed)
            idle ⟨rfl, rfl, rfl⟩ logged made
        simp only [launched]
        split
        · next success =>
            rcases staged : out.makeDirectory s.kernel.cellDirectory o₂ with ⟨e | ⟨⟩, o₃⟩
            · refine startsSo_of_eq (later o₃) fun asked waiting considered passed => ?_
              refine ((goesOn ..).trans (if_pos success)).trans ?_
              simp only [Session.kernel_seen, staged]
            · obtain ⟨asked, waiting, next, first, second, engaged, same⟩ :=
                (later o₃).engage out untouched (sound.relaunched running launch transcript) running
              refine ⟨asked, waiting, next, first, second, engaged, fun ends considered passed own => ?_⟩
              refine ((goesOn ..).trans (if_pos success)).trans ?_
              simp only [Session.kernel_seen, staged]
              exact same ends considered passed own
        · next failure =>
            exact startsSo_of_eq (later o₂) fun _ _ _ _ => (goesOn ..).trans (if_neg failure)

/-- Readying the bridge for a request comes to what readying the session comes to. -/
theorem Mirrors.prepare (out : Outside σ) (untouched : Bridge σ → Nat → Prop) (mirrors : Mirrors s o b)
    (sound : s.Sound) (r : Request) : StartsSo untouched (s.prepare out r o) (b.prepare out r) := by
  by_cases command : r.command = "initialize"
  · obtain ⟨asked, waiting, next, first, second, started, same⟩ := mirrors.start out untouched sound
    refine ⟨asked, waiting, next, first, second, ?_⟩
    rw [Session.prepare, if_pos command, Session.ensureStarted]
    rcases outcome : s.start out o with ⟨e | _ | _, s', o'⟩
    all_goals
      rw [outcome] at started same
      obtain ⟨⟨taken, session⟩, -, -, -⟩ := id started
      refine ⟨started, fun ends considered passed own => ?_⟩
    · have free := own.resolve_left fun succeeded => by
        obtain ⟨_, equal⟩ := succeeded
        cases equal
      rw [Bridge.prepare, if_pos command, same ends considered passed (.inr free)]
    · rw [Bridge.prepare, if_pos command, same ends considered passed (.inl ⟨_, rfl⟩)]
      simp only [session, Session.launch_seen]
    · rw [Bridge.prepare, if_pos command, same ends considered passed (.inl ⟨_, rfl⟩)]
  · have asIs : s.prepare out r o = (.ok (), s, o) := by rw [Session.prepare, if_neg command]
    rw [asIs]
    exact startsSo_of_eq mirrors fun asked waiting considered passed => by rw [Bridge.prepare, if_neg command]

/-! ### Requests -/

/-- What a call comes to is the same as for the session. -/
theorem Mirrors.conclude (out : Outside σ) (untouched : Bridge σ → Nat → Prop) (mirrors : Mirrors s o b)
    (sound : s.Sound) (queued : s.Queued fun _ => True) (call : Call) (result : Except Error Json) :
    ∃ (waiting : List (Happening σ)) (next : Bridge σ), (∀ h ∈ waiting, Allowed untouched h) ∧
      Mirrors (s.conclude out call result o).2.1 (s.conclude out call result o).2.2 next ∧
        ∀ asked considered passed, b.conclude out call result (busy asked waiting considered passed) =
          ((s.conclude out call result o).1, next) := by
  by_cases purpose : call.purpose = .disconnect
  · obtain ⟨waiting, next, allowed, stopped, same⟩ := mirrors.stop untouched sound queued
    have told : s.conclude out call result o = (call.reply result, s.stop, o) := by
      simp only [Session.conclude, purpose]
    rw [told]
    refine ⟨waiting, next, allowed, stopped, fun asked considered passed => ?_⟩
    rw [Bridge.conclude, if_pos purpose, same]
  · obtain ⟨⟨taken, session⟩, outside, -, -⟩ := id mirrors
    have told := Session.seen_conclude out s taken purpose result o
    refine ⟨[], { b with session := (s.conclude out call result o).2.1.seen taken
                         outside := (s.conclude out call result o).2.2 }, List.forall_mem_nil _, ?_, ?_⟩
    · exact mirrors.later rfl rfl (s.worker_conclude purpose result o) rfl List.any_nil (List.append_nil _).symm
    · intro asked considered passed
      rw [Bridge.conclude, if_neg purpose, session, outside, told]

/-- What is sent for a request is taken by the worker at once. -/
theorem Mirrors.submit {next : Session} (mirrors : Mirrors s o b) {header message : Json}
    (passed : s.submit header message = .ok next) :
    ∃ b', (∀ during : Schedule σ, during .headed = [] → b.submit header message during = (.ok (), b')) ∧
      CatchesUp untouched next o b' := by
  obtain ⟨session, couriers, outside, deeds⟩ := b
  obtain ⟨⟨taken, same⟩, rfl, -, -⟩ := id mirrors
  obtain rfl : session = s.seen taken := same
  rw [Session.submit] at passed
  split at passed
  · next bound =>
      split at passed
      · cases passed
      · next hub headed =>
          split at passed
          · cases passed
          · next last sent =>
              cases passed
              have both : Mirrors { s with hub := last } outside ⟨({ s with hub := last } : Session).seen taken,
                  couriers, outside,
                  deeds ++ [.sent s.header (Json.encode header), .sent s.request (Json.encode message)]⟩ :=
                mirrors.later rfl rfl rfl rfl rfl rfl
              refine ⟨_, fun during undisturbed => ?_, both.serve⟩
              simp only [Bridge.submit, send, Session.seen, bound, if_true, headed, done, pause, undisturbed,
                List.foldl_nil, sent, List.append_assoc, List.cons_append, List.nil_append]
  · cases passed

/-- A session that cannot pass a message on has no bound socket. -/
theorem submit_of_seen {taken : List Json} {e : Error} (sound : s.Sound) (session : b.session = s.seen taken)
    {header message : Json} (failed : s.submit header message = .error e) (during : Schedule σ) :
    b.submit header message during = (.error e, b) := by
  rcases Session.submit_cases sound header message with ⟨idle, refused⟩ | ⟨-, next, passed⟩
  · obtain rfl : .notStarted = e := Except.error.inj (refused.symm.trans failed)
    have unbound : ¬ b.session.request.isBound = true := by
      rw [session]
      change ¬ s.request.isBound = true
      rw [sound.worker_eq_none_iff.mp idle]
      exact Bool.false_ne_true
    rw [Bridge.submit, if_neg unbound]
  · cases passed.symm.trans failed

/-- A message that is passed on gets the reply that it gets in the session, after what arrives meanwhile. -/
theorem Mirrors.forward (out : Outside σ) (untouched : Bridge σ → Nat → Prop) (mirrors : Mirrors s o b)
    (sound : s.Sound) (queued : s.Queued fun _ => True) (header : Json) {early arrivals : List Arrival}
    (readable : ∀ a ∈ early ++ arrivals, a.Readable) (meanwhile : σ → σ) (call : Call) {done : Json × Session × σ}
    (answers : (arrivals.foldl Session.arrive (s.forward out header early call o).2.1).finish out
      (s.forward out header early call o).1 (meanwhile (s.forward out header early call o).2.2) = done) :
    ∃ (waiting considered passed after : List (Happening σ)) (next : Bridge σ),
      (∀ h ∈ waiting, Allowed untouched h) ∧ (∀ h ∈ considered, Allowed untouched h) ∧
        (∀ h ∈ passed, Allowed untouched h) ∧ (∀ h ∈ after, Allowed untouched h) ∧
          Mirrors done.2.1 done.2.2 (after.foldl happen next) ∧
            ∀ asked, b.forward out header call (busy asked waiting considered passed) = (done.1, next) := by
  rw [List.forall_mem_append] at readable
  obtain ⟨considered, first, mirrors⟩ : CatchesUp untouched (early.foldl Session.arrive s) o b :=
    mirrors.arrivals readable.1
  have queued := queued.arrivals sound early fun _ _ _ _ _ => trivial
  have sound := sound.of_keeps (s.keeps_arrivals early)
  have paused (asked waiting passed : List (Happening σ)) :
      b.pause (busy asked waiting considered passed) .considered = considered.foldl happen b := rfl
  cases submitted : (early.foldl Session.arrive s).submit header call.sent with
  | error e =>
      obtain ⟨waiting, next, second, concluded, same⟩ := mirrors.conclude out untouched sound queued call (.error e)
      obtain ⟨⟨taken, session⟩, -, -, -⟩ := mirrors
      simp only [Session.forward, submitted, Session.finish] at answers
      obtain rfl := answers
      obtain ⟨after, third, last⟩ := (concluded.arrivals readable.2).trans fun _ mirrors => mirrors.change meanwhile
      refine ⟨waiting, considered, [], after, next, second, first, List.forall_mem_nil _, third, last, fun asked => ?_⟩
      rw [Bridge.forward, paused, submit_of_seen sound session submitted]
      exact same ..
  | ok s₁ =>
      obtain ⟨b₁, sends, served⟩ := mirrors.submit submitted
      obtain ⟨passed, third, mirrors⟩ := (served.trans fun _ mirrors => mirrors.arrivals readable.2).trans
        fun _ mirrors => mirrors.change meanwhile
      simp only [Session.forward, submitted, Session.finish] at answers
      have queued := (queued.submit sound submitted fun _ _ _ => trivial).arrivals
        (sound.of_keeps (Session.keeps_submit submitted)) arrivals fun _ _ _ _ _ => trivial
      have sound := (sound.of_keeps (Session.keeps_submit submitted)).of_keeps (s₁.keeps_arrivals arrivals)
      obtain ⟨⟨taken, session⟩, outside, -, -⟩ := id mirrors
      generalize arrivals.foldl Session.arrive s₁ = s₂ at *
      have collected : Mirrors (s₂.collect call.sent).2 (meanwhile o)
          { passed.foldl happen b₁ with session := (s₂.collect call.sent).2.seen taken } :=
        mirrors.later rfl outside rfl rfl List.any_nil (List.append_nil _).symm
      obtain ⟨waiting, next, second, concluded, same⟩ := collected.conclude out untouched
        (sound.of_keeps (s₂.keeps_collect call.sent)) (queued.collect sound call.sent) call (s₂.collect call.sent).1
      obtain rfl := answers
      refine ⟨waiting, considered, passed, [], next, second, first, third, List.forall_mem_nil _, concluded,
        fun asked => ?_⟩
      have heard : b₁.pause (busy asked waiting considered passed) .passed = passed.foldl happen b₁ := rfl
      have taken : (s₂.seen taken).collect call.sent =
          ((s₂.collect call.sent).1, (s₂.collect call.sent).2.seen taken) := rfl
      rw [Bridge.forward, paused, sends _ rfl]
      simp only [heard, session, taken]
      exact same ..

/-- What a bridge answers to a message, with what happens in the course of that and after it: it answers as the session
does, and mirrors it then. -/
def AnswersSo (untouched : Bridge σ → Nat → Prop) (done : Json × Session × σ) (answer : Schedule σ → Json × Bridge σ) :
    Prop :=
  ∃ (during : Schedule σ) (after : List (Happening σ)), Permits (Allowed untouched) during ∧
    (∀ h ∈ after, Allowed untouched h) ∧ (answer during).1 = done.1 ∧
      Mirrors done.2.1 done.2.2 (after.foldl happen (answer during).2)

/-- A message is answered as the session answers it. -/
theorem Mirrors.process (out : Outside σ) (untouched : Bridge σ → Nat → Prop) (mirrors : Mirrors s o b)
    (sound : s.Sound) (queued : s.Queued fun _ => True) (header message : Json) {early arrivals : List Arrival}
    (readable : ∀ a ∈ early ++ arrivals, a.Readable) (meanwhile : σ → σ) :
    AnswersSo untouched (s.process out header message early arrivals meanwhile o) (b.process out header message) := by
  have others : ∀ a ∈ arrivals, a.Readable := fun a member => readable a (List.mem_append_right early member)
  -- A message that is answered at once leaves what arrives meanwhile to happen after it.
  have atOnce {s₁ : Session} {o₁ : σ} {b₁ : Bridge σ} {reply : Json} {during : Schedule σ} (mirrors : Mirrors s₁ o₁ b₁)
      (permits : Permits (Allowed untouched) during) (answered : b.process out header message during = (reply, b₁)) :
      AnswersSo untouched (reply, arrivals.foldl Session.arrive s₁, meanwhile o₁) (b.process out header message) := by
    obtain ⟨after, allowed, last⟩ : CatchesUp untouched (arrivals.foldl Session.arrive s₁) (meanwhile o₁) b₁ :=
      (mirrors.arrivals others).trans fun _ mirrors => mirrors.change meanwhile
    refine ⟨during, after, permits, allowed, ?_, ?_⟩ <;> rw [answered]
    exact last
  rw [Session.process_eq]
  cases read : Request.ofJson? message with
  | error e =>
      simp only [Session.begin, read]
      exact atOnce mirrors (permits_quiet _) (by simp only [Bridge.process, read])
  | ok r =>
      have state : (s.prepare out r o).2.1 = s.attempted out message o := by
        by_cases command : r.command = "initialize"
        · rw [Session.prepare, if_pos command, (Session.ensureStarted_eq out s o).1,
            Session.attempted_of_eq out read command]
        · rw [Session.prepare, if_neg command, Session.attempted_of_ne out read command]
      obtain ⟨asked, waiting, b₁, first, second, ready, prepared⟩ := mirrors.prepare out untouched sound r
      have queued := queued.attempted out sound message o
      have sound := sound.attempted out message o
      simp only [Session.begin, Session.beginRequest, read]
      rcases outcome : s.prepare out r o with ⟨e | ⟨⟩, s₁, o₁⟩
      · rw [outcome] at ready prepared
        refine atOnce ready (permits_busy first second (List.forall_mem_nil _) (List.forall_mem_nil _)) ?_
        simp only [Bridge.process, read, processRequest, prepared waiting [] [] (.inr rfl)]
      · rw [outcome] at ready prepared state
        rw [← state] at sound queued
        have asks : b₁.ask (b₁.session.consider out r) =
            ((s₁.consider out r o₁).1, { b₁ with outside := (s₁.consider out r o₁).2 }) := by
          obtain ⟨⟨taken, session⟩, outside, -, -⟩ := ready
          rw [ask, outside, session, Session.seen_consider]
        obtain ⟨⟨taken, session⟩, outside, -, -⟩ := id ready
        have kept (o₂ : σ) : Mirrors s₁ o₂ { b₁ with outside := o₂ } :=
          ready.later session rfl rfl rfl List.any_nil (List.append_nil _).symm
        rcases considered : s₁.consider out r o₁ with ⟨reply | call, o₂⟩ <;> simp only [considered]
        · rw [considered] at asks
          refine atOnce (kept o₂) (permits_busy first second (List.forall_mem_nil _) (List.forall_mem_nil _)) ?_
          simp only [Bridge.process, read, processRequest, prepared waiting [] [] (.inr rfl), asks]
        · rw [considered] at asks
          obtain ⟨waiting, considered, passed, after, next, second, third, fourth, allowed, last, answered⟩ :=
            (kept o₂).forward out untouched sound queued header readable meanwhile call rfl
          refine ⟨busy asked waiting considered passed, after, permits_busy first second third fourth, allowed, ?_, ?_⟩
          all_goals
            simp only [Bridge.process, read, processRequest, prepared waiting considered passed (.inl ⟨_, rfl⟩), asks,
              answered]
          exact last

/-! ## Runs -/

/-- Moves lead the bridge to where it mirrors the session. -/
def Follows (out : Outside σ) (s : Session) (o : σ) (b : Bridge σ) : Prop :=
  ∃ moves : List (Move σ), (∀ m ∈ moves, m.Allowed (Allowed fun b => b.session.controlBindings)) ∧
    Mirrors s o (moves.foldl (next out) b)

/-- A move, with what happens after it. -/
theorem follows_of_move {after : List (Happening σ)} (move : Move σ)
    (allowed : move.Allowed (Allowed fun b => b.session.controlBindings))
    (later : ∀ h ∈ after, Allowed (fun b => b.session.controlBindings) h)
    (mirrors : Mirrors s o (after.foldl happen (b.next out move))) : Follows out s o b := by
  refine ⟨move :: after.map .happen, List.forall_mem_cons.mpr ⟨allowed, ?_⟩, ?_⟩
  · rw [List.forall_mem_map]
    exact later
  · rw [List.foldl_cons, List.foldl_map]
    exact mirrors

/-- What happens beside the control side is a row of moves. -/
theorem CatchesUp.follows (caught : CatchesUp (fun b => b.session.controlBindings) s o b) : Follows out s o b := by
  obtain ⟨after, later, mirrors⟩ := caught
  refine ⟨after.map .happen, ?_, ?_⟩
  · rw [List.forall_mem_map]
    exact later
  · rw [List.foldl_map]
    exact mirrors

open Classical in
/-- A bridge that mirrors a session follows every move of it. -/
theorem Mirrors.next (out : Outside σ) (mirrors : Mirrors s o b) (sound : s.Sound) (queued : s.Queued fun _ => True)
    (move : Session.Move σ) (allowed : move.Allowed Session.controlBindings s) :
    Follows out (s.next out o move).1 (s.next out o move).2 b := by
  obtain ⟨⟨taken, session⟩, outside, courier, prompt⟩ := id mirrors
  have nothing : ∀ h ∈ [], Allowed (fun b : Bridge σ => b.session.controlBindings) h := List.forall_mem_nil _
  cases move with
  | process header message early arrivals meanwhile =>
      obtain ⟨wellFormed, first, second⟩ := allowed
      obtain ⟨during, after, permits, later, -, last⟩ := mirrors.process out _ sound queued header message
        (List.forall_mem_append.mpr ⟨first, second⟩) meanwhile
      exact follows_of_move (.process header message during) ⟨wellFormed, permits⟩ later last
  | start =>
      obtain ⟨asked, waiting, next, first, second, started, same⟩ := mirrors.start out _ sound
      refine follows_of_move (.start (busy asked waiting [] [])) (permits_busy first second nothing nothing) nothing ?_
      rw [Bridge.next, same waiting [] [] (.inr rfl)]
      exact started
  | stop =>
      obtain ⟨waiting, next, second, stopped, same⟩ := mirrors.stop _ sound queued
      refine follows_of_move (.stop (busy [] waiting [] [])) (permits_busy nothing second nothing nothing) nothing ?_
      rw [Bridge.next, same]
      exact stopped
  | nextEvent time =>
      refine follows_of_move (.nextEvent time) trivial nothing ?_
      have taken : b.next out (.nextEvent time) = { b with session := (s.nextEvent time).2.seen taken } := by
        rw [Bridge.next, Bridge.nextEvent, session, Session.seen_nextEvent]
      rw [taken]
      exact mirrors.later rfl outside (s.worker_nextEvent time) rfl List.any_nil (List.append_nil _).symm
  | arrive a => exact (mirrors.arrive allowed).follows
  | takeOutbox =>
      have emptied : b.session = s.takeOutbox.2.seen (taken ++ s.outbox) := by
        rw [session]
        simp only [Session.takeOutbox, Session.seen, List.append_nil]
      exact (Mirrors.catchesUp ⟨⟨_, emptied⟩, outside, courier, prompt⟩).follows
  | outside change => exact (mirrors.change change).follows
  | elsewhere hub =>
      -- What the others do is known for this bridge only.
      refine follows_of_move (.happen (.elsewhere fun b' => if b' = b then hub else b'.session.hub)) (fun b' => ?_)
        nothing ?_
      · by_cases this : b' = b
        · subst this
          simp only [if_true, session]
          exact .inr allowed
        · exact .inl (if_neg this)
      · rw [Bridge.next, happen, if_pos rfl, session]
        exact ⟨⟨taken, rfl⟩, outside, courier, prompt⟩

/-- Every state of a session is one of a bridge whose workers keep up. -/
theorem mirrored (reachable : Session.Reachable out Session.controlBindings s o) :
    ∃ b, Reachable out (Allowed fun b => b.session.controlBindings) b ∧ Mirrors s o b := by
  induction reachable with
  | @create s o created =>
      have idle : s = s.seen [] := by
        rw [Session.seen, created.worker]
        exact congrArg (fun worker => ({ s with worker } : Session)) created.worker
      exact ⟨ofSession s o, .create created o, ⟨[], idle⟩, rfl,
        fun w running => (by cases created.worker.symm.trans running), prompt_iff.mpr rfl⟩
  | step prior move allowed ih =>
      obtain ⟨b, reachable, mirrors⟩ := ih
      have queued : Session.Queued (fun _ => True) _ := prior.queued.mono fun _ _ => trivial
      obtain ⟨moves, permitted, last⟩ := mirrors.next out prior.sound queued move allowed
      refine ⟨_, ?_, last⟩
      clear last mirrors
      induction moves generalizing b with
      | nil => exact reachable
      | cons move moves ih =>
          rw [List.forall_mem_cons] at permitted
          exact ih _ (reachable.move move permitted.1) permitted.2

end Bridge
end DebugBridge
