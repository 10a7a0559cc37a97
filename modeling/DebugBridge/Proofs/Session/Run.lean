import DebugBridge.Proofs.Session.Dispatch

/-!
# Runs of a session

`Move` lists what happens to a session: its own operations, what the adapter sends, what goes on outside and
what others do on the hub. `Reachable` are the states that any order of moves leads to. Every one of them is
sound (`Reachable.sound`).
-/

namespace DebugBridge

/-- What comes from the adapter was read from bytes. -/
def Arrival.Readable : Arrival → Prop
  | .message v => ∃ bytes, Json.decode bytes = .ok v
  | .lost => True

namespace Session

variable {σ : Type}

/-- What happens to a session. -/
inductive Move (σ : Type) where
  /-- The front end sends a message under a header, while the adapter sends what arrives. -/
  | process (header message : Json) (early arrivals : List Arrival) (meanwhile : σ → σ)
  | start
  | stop
  | nextEvent (time : Duration)
  /-- Something comes from the adapter between requests. -/
  | arrive (a : Arrival)
  /-- The adapter takes the messages written to it. -/
  | takeOutbox
  /-- Something changes in the interpreter, the shell or the file system. -/
  | outside (change : σ → σ)
  /-- Another user of the hub does something there. -/
  | elsewhere (hub : Hub)

/-- A session and the outside after a move. -/
def next (out : Outside σ) (s : Session) (o : σ) : Move σ → Session × σ
  | .process header message early arrivals meanwhile =>
    (s.process out header message early arrivals meanwhile o).2
  | .start => (s.start out o).2
  | .stop => (s.stop, o)
  | .nextEvent time => ((s.nextEvent time).2, o)
  | .arrive a => (s.arrive a, o)
  | .takeOutbox => (s.takeOutbox.2, o)
  | .outside change => (s, change o)
  | .elsewhere hub => ({ s with hub }, o)

/-- What can happen: messages are values, what arrives was read, and others leave the session's endpoints and
some bindings alone. -/
def Move.Allowed (untouched : Session → Nat → Prop) (s : Session) : Move σ → Prop
  | .process _ message early arrivals _ =>
    message.WellFormed ∧ (∀ a ∈ early, a.Readable) ∧ ∀ a ∈ arrivals, a.Readable
  | .arrive a => a.Readable
  | .elsewhere hub => s.hub.Use ownEndpoints (untouched s) hub
  | _ => True

/-- A session that was just created, on a hub that others may have used before. A port is a number of sixteen
bits. -/
inductive Created : Session → Prop where
  | mk {kernel : Kernel} {settings : Settings} {address : Address} {config : Config} {launch : Launch.State}
      {hub : Hub} {traced : Bool} {s : Session} (prior : hub.Prior ownEndpoints) (port : address.port < 2 ^ 16)
      (created : create kernel settings address config launch hub traced = .ok s) : Created s

/-- A new session is sound. -/
theorem Created.sound {s : Session} (created : Created s) : s.Sound := by
  obtain ⟨prior, -, created⟩ := created
  exact sound_create prior created

/-- What a session has when it is created. -/
theorem fields_of_create {kernel : Kernel} {settings : Settings} {address : Address} {config : Config}
    {launch : Launch.State} {hub : Hub} {traced : Bool} {s : Session}
    (created : create kernel settings address config launch hub traced = .ok s) :
    s.address = address ∧ s.worker = none ∧ s.outbox = [] := by
  rw [create] at created
  split at created
  · cases created
  · cases created
    exact ⟨rfl, rfl, rfl⟩

section Created

variable {s : Session}

theorem Created.port (created : Created s) : s.address.port < 2 ^ 16 := by
  obtain ⟨-, port, created⟩ := created
  rw [(fields_of_create created).1]
  exact port

/-- A new session has no worker. -/
theorem Created.worker (created : Created s) : s.worker = none := by
  obtain ⟨-, -, created⟩ := created
  exact (fields_of_create created).2.1

theorem Created.outbox (created : Created s) : s.outbox = [] := by
  obtain ⟨-, -, created⟩ := created
  exact (fields_of_create created).2.2

end Created

/-- The states of a session and the outside that any order of moves leads to. -/
inductive Reachable (out : Outside σ) (untouched : Session → Nat → Prop) : Session → σ → Prop where
  | create {s : Session} {o : σ} (created : Created s) : Reachable out untouched s o
  | step {s : Session} {o : σ} (prior : Reachable out untouched s o) (move : Move σ)
      (allowed : move.Allowed untouched s) :
      Reachable out untouched (s.next out o move).1 (s.next out o move).2

variable {s : Session} (out : Outside σ)

/-! ## Passing on -/

theorem Keeps.worker_ne_none {before after : Session} (keeps : Keeps before after)
    (running : before.worker ≠ none) : after.worker ≠ none :=
  fun absent => running (keeps.worker_eq_none_iff.mp absent)

/-- A running session passes a message on, an idle one does not. -/
theorem submit_cases (sound : s.Sound) (header message : Json) :
    (s.worker = none ∧ s.submit header message = .error .notStarted) ∨
      s.worker ≠ none ∧ ∃ next, s.submit header message = .ok next := by
  cases running : s.worker with
  | none =>
      refine .inl ⟨rfl, ?_⟩
      have unbound : ¬ s.request.isBound = true := by
        rw [sound.worker_eq_none_iff.mp running]
        exact Bool.false_ne_true
      rw [submit, if_neg unbound]
  | some w =>
      obtain ⟨q, h, bound, -⟩ := sound.running w running
      refine .inr ⟨Option.some_ne_none w, ?_⟩
      simp only [submit, bound.request, bound.header, Socket.isBound, if_true, Hub.send]
      exact ⟨_, rfl⟩

/-- Nothing arrives at a session without a worker. -/
theorem arrivals_of_idle (stopped : s.worker = none) (arrivals : List Arrival) :
    arrivals.foldl arrive s = s := by
  induction arrivals with
  | nil => rfl
  | cons a arrivals ih =>
      have ignored : s.arrive a = s := by simp only [arrive, stopped]
      rw [List.foldl_cons, ignored, ih]

/-- A call to an idle session ends with the reason and changes nothing. -/
theorem conclude_of_idle (worker : s.worker = none) (idle : s.Idle) (call : Call) (e : Error) (o : σ) :
    s.conclude out call (.error e) o = ((Response.fail call.request e.message).toJson, s, o) := by
  cases purpose : call.purpose with
  | answer | rendering slot => simp only [Session.conclude, purpose, Call.reply]
  | disconnect => simp only [Session.conclude, purpose, Call.reply, stop_of_idle worker idle]
  | breakpoints =>
      rcases s.recordBreakpoints_cases call.request (Response.fail call.request e.message).toJson with
        same | ⟨success, -⟩
      · simp only [Session.conclude, purpose, Call.reply, same]
      · rw [Response.success_fail] at success
        cases success

/-- A call to an idle session ends at once and leaves it as it is; any other one is passed on. -/
theorem forward_cases (sound : s.Sound) (header : Json) (early : List Arrival) (call : Call) (o : σ) :
    (s.worker = none ∧ ∃ response : Response,
        s.forward out header early call o = (.answered response.toJson, s, o) ∧
          response.seq = call.request.seq ∧ response.command = call.request.command) ∨
      s.worker ≠ none ∧ ∃ next, (early.foldl arrive s).submit header call.sent = .ok next ∧
        s.forward out header early call o = (.waiting call, next, o) := by
  rcases submit_cases (sound.of_keeps (s.keeps_arrivals early)) header call.sent with
    ⟨stopped, failed⟩ | ⟨running, next, passed⟩
  · have idle : s.worker = none := (s.keeps_arrivals early).worker_eq_none_iff.mp stopped
    rw [arrivals_of_idle idle] at failed
    refine .inl ⟨idle, .fail call.request Error.notStarted.message, ?_, rfl, rfl⟩
    simp only [forward, arrivals_of_idle idle, failed, conclude_of_idle out idle (sound.idle idle)]
  · refine .inr ⟨?_, next, passed, ?_⟩
    · intro stopped
      exact running ((s.keeps_arrivals early).worker_eq_none_iff.mpr stopped)
    · simp only [forward, passed]

/-- Starting for a request is a start; it succeeds exactly if the session is started by it. -/
theorem ensureStarted_eq (s : Session) (o : σ) :
    (s.ensureStarted out o).2 = (s.start out o).2 ∧
      ((s.ensureStarted out o).1 = .ok () ↔ (s.start out o).1 = .ok true) := by
  rw [ensureStarted]
  rcases started : s.start out o with ⟨result, next, o'⟩
  match result with
  | .error e => exact ⟨rfl, by simp⟩
  | .ok true => exact ⟨rfl, by simp⟩
  | .ok false => exact ⟨rfl, by simp⟩

/-- An attempt to start is a start, and it fails unless the session runs after it. -/
theorem ensureStarted_cases (sound : s.Sound) {o o' : σ} {result : Except Error Unit} {next : Session}
    (attempt : s.ensureStarted out o = (result, next, o')) :
    (s.start out o).2.1 = next ∧ StartedAs s (s.start out o).1 next ∧ (result = .ok () ↔ next.worker ≠ none) := by
  obtain ⟨state, success⟩ := s.ensureStarted_eq out o
  rw [attempt] at state success
  have started := start_cases out sound o
  rw [← state] at started ⊢
  exact ⟨rfl, started, success.trans started.running_iff.symm⟩

/-! ## The start that a message asks for -/

/-- The session after the start that a message asks for, if it asks for one. -/
def attempted (s : Session) (message : Json) (o : σ) : Session :=
  match Request.ofJson? message with
  | .ok r => if r.command = "initialize" then (s.start out o).2.1 else s
  | .error _ => s

theorem attempted_of_eq {message : Json} {r : Request} (read : Request.ofJson? message = .ok r)
    (command : r.command = "initialize") (s : Session) (o : σ) :
    s.attempted out message o = (s.start out o).2.1 := by
  simp only [attempted, read, if_pos command]

theorem attempted_of_ne {message : Json} {r : Request} (read : Request.ofJson? message = .ok r)
    (other : r.command ≠ "initialize") (s : Session) (o : σ) : s.attempted out message o = s := by
  simp only [attempted, read, if_neg other]

/-- A message that asks for no start leaves the session as it is. -/
theorem attempted_cases (sound : s.Sound) (message : Json) (o : σ) :
    s.attempted out message o = s ∨
      Asks message "initialize" ∧ StartedAs s (s.start out o).1 (s.attempted out message o) := by
  cases read : Request.ofJson? message with
  | error e => exact .inl (by simp only [attempted, read])
  | ok r =>
      by_cases command : r.command = "initialize"
      · rw [attempted_of_eq out read command]
        exact .inr ⟨⟨r, read, command⟩, start_cases out sound o⟩
      · exact .inl (attempted_of_ne out read command s o)

/-- The start that a message asks for leaves a sound session. -/
theorem Sound.attempted (sound : s.Sound) (message : Json) (o : σ) : (s.attempted out message o).Sound := by
  rcases attempted_cases out sound message o with same | ⟨-, started⟩
  · rw [same]
    exact sound
  · exact started.sound sound

/-! ## Beginning -/

/-- What becomes of a message of the front end at once. It is answered, or passed on by a running session. -/
inductive BegunIn (s : Session) (header message : Json) (early : List Arrival) (o : σ) :
    Progress × Session × σ → Prop where
  /-- It is no request. -/
  | malformed {e : Error} {ready : Session} (state : s.attempted out message o = ready)
      (refused : Request.ofJson? message = .error e) :
      BegunIn s header message early o (.answered (Response.failFor message e.message).toJson, ready, o)
  /-- The bridge answers it, as nothing is to be passed on or the session is not started. -/
  | answered {r : Request} {response : Response} {ready : Session} {o' : σ}
      (state : s.attempted out message o = ready) (read : Request.ofJson? message = .ok r)
      (seq : response.seq = r.seq) (command : response.command = r.command)
      (silent : callFor s.address s.threads.anyStopped (Slot.ofId (out.slotId o).1) r = none ∨ ready.worker = none) :
      BegunIn s header message early o (.answered response.toJson, ready, o')
  /-- It is passed on, after what came from the adapter before. -/
  | passed {r : Request} {call : Call} {ready next : Session} {o' : σ}
      (state : s.attempted out message o = ready) (read : Request.ofJson? message = .ok r)
      (planned : callFor s.address s.threads.anyStopped (Slot.ofId (out.slotId o).1) r = some call)
      (running : ready.worker ≠ none) (passed : (early.foldl arrive ready).submit header call.sent = .ok next) :
      BegunIn s header message early o (.waiting call, next, o')

/-- What becomes of a message at once, in any sound session. -/
theorem begun (sound : s.Sound) (header message : Json) (early : List Arrival) (o : σ) :
    BegunIn out s header message early o (s.begin out header message early o) := by
  have begun := begin_cases out s header message early o
  generalize s.begin out header message early o = outcome at begun ⊢
  cases begun with
  | malformed refused => exact .malformed (by simp only [attempted, refused]) refused
  | answered read seq command other own =>
      exact .answered (attempted_of_ne out read other s o) read seq command own
  | @notStarted r e next o' read command failed =>
      obtain ⟨state, -, success⟩ := ensureStarted_cases out sound failed
      have stopped : ¬ next.worker ≠ none := fun running => by cases success.mpr running
      refine .answered ?_ read rfl rfl (.inr (Classical.not_not.mp stopped))
      rw [attempted_of_eq out read command, state]
  | @forwarded r call ready o' read planned attempt =>
      have state : s.attempted out message o = ready := by
        rcases attempt with ⟨command, started⟩ | ⟨other, rfl⟩
        · rw [attempted_of_eq out read command, (ensureStarted_cases out sound started).1]
        · exact attempted_of_ne out read other ready o
      have readySound : ready.Sound := state ▸ sound.attempted out message o
      rcases forward_cases out readySound header early call o' with
        ⟨stopped, response, answered, seq, command⟩ | ⟨running, next, passed, waiting⟩
      · rw [(callFor_cases planned).1] at seq command
        rw [answered]
        exact .answered state read seq command (.inr stopped)
      · rw [waiting]
        exact .passed state read planned running passed

/-- What is begun leaves a sound session, and a running one if it waits for the adapter. -/
theorem begin_sound (sound : s.Sound) (header message : Json) (early : List Arrival) (o : σ) :
    (s.begin out header message early o).2.1.Sound ∧
      ∀ call, (s.begin out header message early o).1 = .waiting call →
        (s.begin out header message early o).2.1.worker ≠ none := by
  have begun := begun out sound header message early o
  have ready := sound.attempted out message o
  generalize s.begin out header message early o = outcome at begun ⊢
  cases begun with
  | malformed state refused => exact ⟨state ▸ ready, nofun⟩
  | answered state read seq command silent => exact ⟨state ▸ ready, nofun⟩
  | passed state read planned running passed =>
      have kept := (keeps_arrivals _ early).trans (keeps_submit passed)
      exact ⟨(state ▸ ready).of_keeps kept, fun _ _ => kept.worker_ne_none running⟩

/-! ## Ending -/

/-- What an end leaves of a session that it does not stop: it has looked for a reply, and may have recorded
breakpoints. -/
inductive EndedAs (s : Session) (progress : Progress) : Session → Prop where
  /-- Nothing else happens. -/
  | kept {next : Session} (keeps : Keeps s next) (outbox : next.outbox = s.outbox)
      (threads : next.threads = s.threads) : EndedAs s progress next
  /-- The session stops. -/
  | stopped {call : Call} {next : Session} (waiting : progress = .waiting call)
      (purpose : call.purpose = .disconnect) (keeps : Keeps s next) (outbox : next.outbox = s.outbox) :
      EndedAs s progress next.stop
  /-- Breakpoints are recorded. -/
  | recorded {call : Call} {next : Session} {breakpoints : Members} (waiting : progress = .waiting call)
      (purpose : call.purpose = .breakpoints) (keeps : Keeps s next) (outbox : next.outbox = s.outbox)
      (threads : next.threads = s.threads) : EndedAs s progress { next with breakpoints }

/-- What the end of a request leaves of the session. -/
theorem finish_cases (s : Session) (progress : Progress) (o : σ) :
    EndedAs s progress (s.finish out progress o).2.1 := by
  cases progress with
  | answered reply => exact .kept (Keeps.refl s) rfl rfl
  | waiting call =>
      have keeps := s.keeps_collect call.sent
      simp only [finish]
      rcases (s.collect call.sent).2.conclude_session out call (s.collect call.sent).1 o with
        same | ⟨purpose, stopped⟩ | ⟨purpose, -, breakpoints, changed⟩
      · rw [same]
        exact .kept keeps rfl rfl
      · rw [stopped]
        exact .stopped rfl purpose keeps rfl
      · rw [changed]
        exact .recorded rfl purpose keeps rfl rfl

/-- The end of a request leaves a sound session. -/
theorem finish_sound (sound : s.Sound) {progress : Progress}
    (running : ∀ call, progress = .waiting call → s.worker ≠ none) (o : σ) :
    (s.finish out progress o).2.1.Sound := by
  have ended := s.finish_cases out progress o
  generalize (s.finish out progress o).2.1 = after at ended ⊢
  cases ended with
  | kept keeps outbox threads => exact sound.of_keeps keeps
  | stopped waiting purpose keeps outbox => exact (sound.of_keeps keeps).stop.1
  | @recorded call next breakpoints waiting purpose keeps outbox threads =>
      exact (sound.of_keeps keeps).remember (keeps.worker_ne_none (running call waiting)) breakpoints

/-! ## Soundness -/

/-- A message is answered in two halves, with arrivals in between. -/
theorem process_eq (s : Session) (header message : Json) (early arrivals : List Arrival)
    (meanwhile : σ → σ) (o : σ) :
    s.process out header message early arrivals meanwhile o =
      (arrivals.foldl arrive (s.begin out header message early o).2.1).finish out
        (s.begin out header message early o).1 (meanwhile (s.begin out header message early o).2.2) :=
  rfl

/-- Answering a message leaves a sound session, whatever arrives meanwhile. -/
theorem process_sound (sound : s.Sound) (header message : Json) (early arrivals : List Arrival)
    (meanwhile : σ → σ) (o : σ) :
    (s.process out header message early arrivals meanwhile o).2.1.Sound := by
  obtain ⟨begun, waiting⟩ := begin_sound out sound header message early o
  have kept := (s.begin out header message early o).2.1.keeps_arrivals arrivals
  rw [process_eq]
  exact finish_sound out (begun.of_keeps kept) (fun call isCall => kept.worker_ne_none (waiting call isCall)) _

/-- Others on the hub change nothing that makes a session sound. -/
theorem Sound.elsewhere (sound : s.Sound) {untouched : Nat → Prop} {hub : Hub}
    (use : s.hub.Use ownEndpoints untouched hub) : ({ s with hub } : Session).Sound := by
  have request : hub.registry.lookup requestEndpoint = s.hub.registry.lookup requestEndpoint :=
    use.lookup (by decide)
  have header : hub.registry.lookup headerEndpoint = s.hub.registry.lookup headerEndpoint :=
    use.lookup (by decide)
  obtain ⟨p, socket, registered⟩ := sound.publisher
  refine ⟨use.sound sound.hub, ⟨p, socket, (use.lookup (by decide)).trans registered⟩, fun stopped => ?_,
    fun w running => ?_, sound.attached⟩
  · have idle := sound.idle stopped
    exact ⟨idle.request, idle.header, request.trans idle.requestFree, header.trans idle.headerFree,
      idle.threads, idle.breakpoints⟩
  · obtain ⟨q, h, bound, tied⟩ := sound.running w running
    exact ⟨q, h, ⟨bound.request, bound.header, request.trans bound.requestBound,
      header.trans bound.headerBound⟩, tied⟩

/-- Every move keeps a session sound. -/
theorem Sound.next (sound : s.Sound) {untouched : Session → Nat → Prop} (o : σ) (move : Move σ)
    (allowed : move.Allowed untouched s) : (s.next out o move).1.Sound := by
  cases move with
  | process header message early arrivals meanwhile =>
      exact process_sound out sound header message early arrivals meanwhile o
  | start => exact (start_cases out sound o).sound sound
  | stop => exact sound.stop.1
  | nextEvent time => exact sound.of_keeps (s.keeps_nextEvent time)
  | arrive a => exact sound.of_keeps (s.keeps_arrive a)
  | takeOutbox => exact sound.of_keeps s.keeps_takeOutbox
  | outside change => exact sound
  | elsewhere hub => exact sound.elsewhere allowed

variable {out}

/-- Every state of a session that can be reached is sound. -/
theorem Reachable.sound {untouched : Session → Nat → Prop} {o : σ} (reachable : Reachable out untouched s o) :
    s.Sound := by
  induction reachable with
  | create created => exact created.sound
  | step prior move allowed ih => exact ih.next out _ move allowed

/-! ## The adapter's address -/

variable (out)

/-- A session never gets another adapter address. -/
theorem attempted_address (sound : s.Sound) (message : Json) (o : σ) :
    (s.attempted out message o).address = s.address := by
  rcases attempted_cases out sound message o with same | ⟨-, started⟩
  · rw [same]
  · exact started.address

theorem begin_address (sound : s.Sound) (header message : Json) (early : List Arrival) (o : σ) :
    (s.begin out header message early o).2.1.address = s.address := by
  have begun := begun out sound header message early o
  have ready := attempted_address out sound message o
  generalize s.begin out header message early o = outcome at begun ⊢
  cases begun with
  | malformed state refused => exact state ▸ ready
  | answered state read seq command silent => exact state ▸ ready
  | passed state read planned running passed =>
      exact ((keeps_arrivals _ early).trans (keeps_submit passed)).address.trans (state ▸ ready)

theorem finish_address (s : Session) (progress : Progress) (o : σ) :
    (s.finish out progress o).2.1.address = s.address := by
  have ended := s.finish_cases out progress o
  generalize (s.finish out progress o).2.1 = after at ended ⊢
  cases ended with
  | kept keeps outbox threads => exact keeps.address
  | stopped waiting purpose keeps outbox => exact keeps.address
  | recorded waiting purpose keeps outbox threads => exact keeps.address

/-- A session never changes the adapter's address. -/
theorem next_address (sound : s.Sound) (o : σ) (move : Move σ) :
    (s.next out o move).1.address = s.address := by
  cases move with
  | process header message early arrivals meanwhile =>
      have begun := begin_address out sound header message early o
      have arrived := ((s.begin out header message early o).2.1.keeps_arrivals arrivals).address
      exact (finish_address out _ _ _).trans (arrived.trans begun)
  | start => exact (start_cases out sound o).address
  | stop => rfl
  | nextEvent time => exact (s.keeps_nextEvent time).address
  | arrive a => exact (s.keeps_arrive a).address
  | takeOutbox => rfl
  | outside change => rfl
  | elsewhere hub => rfl

variable {out}

/-- The adapter's port is a number of sixteen bits in every state. -/
theorem Reachable.port {untouched : Session → Nat → Prop} {o : σ} (reachable : Reachable out untouched s o) :
    s.address.port < 2 ^ 16 := by
  induction reachable with
  | create created => exact created.port
  | step prior move allowed ih =>
      rw [next_address out prior.sound]
      exact ih

/-! ## A session to look at -/

/-- An outside in which everything goes well: the adapter takes connections, and the interpreter has no globals. -/
def obliging : Outside Unit where
  scope := ⟨fun _ => [], fun _ _ => .ok .null, fun _ _ => .ok "", fun _ _ => .ok "", fun _ _ => (.ok (), ()),
    fun _ _ => (.ok none, ())⟩
  execute _ _ := (.ok .ok, ())
  makeDirectory _ _ := (.ok (), ())
  writeFile _ _ _ := (.ok (), ())
  dial _ _ _ := (.accepted, ())
  slotId _ := (0, ())

/-- A session as it is created on an unused hub. -/
def idleSample : Session where
  kernel := ⟨"/tmp", "1"⟩
  settings := .default
  address := ⟨"127.0.0.1", 5678⟩
  config := .empty
  launch := .notStarted
  hub := ⟨[⟨true, [], []⟩], [(publisherEndpoint, 0)]⟩
  request := none
  header := none
  publisher := some (.bound publisherEndpoint 0)
  worker := none
  threads := .empty
  breakpoints := []
  outbox := []
  transcript := none

/-- That session after its start. -/
def runningSample : Session :=
  (idleSample.next obliging () .start).1

/-- The idle sample is a new session on an empty hub. -/
theorem created_idleSample : Created idleSample := by
  have created : create idleSample.kernel .default idleSample.address .empty .notStarted .empty false =
      .ok idleSample := rfl
  exact .mk .empty (by decide) created

/-- The running sample is the idle one after a start. -/
theorem reachable_runningSample (untouched : Session → Nat → Prop) :
    Reachable obliging untouched runningSample () :=
  .step (.create created_idleSample) .start trivial

/-- A request without arguments. -/
def bareRequest (seq : Int) (command : String) : Json :=
  Json.ofMembers [("type", .str "request"), ("seq", .int seq), ("command", .str command)]

/-- A response that tells no more than its success. -/
def bareResponse (seq : Int) (command : String) : Json :=
  Json.ofMembers [("type", .str "response"), ("request_seq", .int seq), ("command", .str command),
    ("success", .bool true)]

/-- A value that can be written and read again can have been read. -/
theorem readable_of_exact {v : Json} (exact : v.Exact Json.depthLimit) : (Arrival.message v).Readable :=
  ⟨Json.encode v, Json.decode_encode_of_exact exact⟩

end Session
end DebugBridge
