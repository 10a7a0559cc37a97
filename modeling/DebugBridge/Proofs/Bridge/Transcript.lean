import DebugBridge.Proofs.Bridge.History
import DebugBridge.Proofs.Relay.Written
import DebugBridge.Proofs.Session.Arrivals
import DebugBridge.Proofs.Session.Entries

/-!
# The diagnostic file of a bridge

The diagnostic file has an entry for every message that was read from the adapter, for every message that a relay set
out to write to it, and for the launch, in the order of the deeds (`Reachable.noted`). A message has its line before
it is written, so the line is there although writing fails (`transcript_faithful`, `line_of_unwritten`).
-/

namespace DebugBridge

namespace Note

/-- The message that was read from the adapter. -/
def read? : Note → Option Json
  | .heard (.message v) => some v
  | _ => none

/-- The message that the relay set out to write, and whether it was written. -/
def attempt? : Note → Option (Json × Bool)
  | .did output => output.attempt?
  | _ => none

/-- The entry of the diagnostic file. -/
def entry? : Note → Option Entry
  | .heard (.message v) => some (.read v)
  | .did (.write message) | .did (.unwritten message) => some (.written message)
  | _ => none

end Note

namespace Deed

/-- The message that was read from the adapter. -/
def read? : Deed → Option Json
  | .courier _ note => note.read?
  | _ => none

/-- The message that a relay set out to write, and whether it was written. -/
def attempt? : Deed → Option (Json × Bool)
  | .courier _ note => note.attempt?
  | _ => none

/-- The entry of the diagnostic file, under a configuration. -/
def entry? (config : Config) : Deed → Option Entry
  | .courier _ note => note.entry?
  | .launched (_ :: _) => some (.launch config)
  | _ => none

end Deed

/-- The messages that were written, among those that were to be. -/
def writtenOf (attempts : List (Json × Bool)) : List Json :=
  (attempts.filter Prod.snd).map Prod.fst

@[simp] theorem writtenOf_append (first second : List (Json × Bool)) :
    writtenOf (first ++ second) = writtenOf first ++ writtenOf second := by
  simp [writtenOf]

namespace Courier

variable {c : Courier} {s : Session} {done : Courier × Session × List Note}

/-- What the relay takes leaves no entry. -/
theorem unnoted_accept (c : Courier) (hub : Hub) (written : Except Error Unit) (i : Relay.Input) :
    (c.accept hub written i).2.2.filterMap Note.entry? = [] ∧
      (c.accept hub written i).2.2.filterMap Note.attempt? = [] := by
  cases i <;> simp [accept, List.filterMap_eq_nil_iff, Note.entry?, Note.attempt?]

/-- A turn is noted in the diagnostic file, and what it writes is what its notes tell. -/
theorem Turned.notes (turned : Turned c s done) :
    done.2.1.transcript =
        s.transcript.map (fun file => file ++ (done.2.2.filterMap Note.entry?).flatMap Entry.lines) ∧
      done.2.1.outbox = s.outbox ++ writtenOf (done.2.2.filterMap Note.attempt?) := by
  have nothing {t : Option (List String)} : t = t.map fun file => file ++ ([] : List Entry).flatMap Entry.lines := by
    simp
  cases turned with
  | heard v reading => exact ⟨rfl, (List.append_nil _).symm⟩
  | accepted written relaying free waits =>
      obtain ⟨entries, attempts⟩ := unnoted_accept { c with inbox := _ } s.hub written _
      rw [entries, attempts]
      exact ⟨nothing, (List.append_nil _).symm⟩
  | @acted output doing does =>
      cases output with
      | write message => exact ⟨rfl, rfl⟩
      | unwritten message => exact ⟨rfl, (List.append_nil _).symm⟩
      | reply _ | observe _ | publish _ _ => exact ⟨nothing, (List.append_nil _).symm⟩
  | _ => exact ⟨nothing, (List.append_nil _).symm⟩

end Courier

namespace Bridge

variable {σ : Type} {out : Outside σ} {untouched : Bridge σ → Nat → Prop} {b : Bridge σ}

/-- The messages that were read from the adapter. -/
def readings (b : Bridge σ) : List Json :=
  b.deeds.filterMap Deed.read?

/-- The messages that relays set out to write, and whether they were written. -/
def attempts (b : Bridge σ) : List (Json × Bool) :=
  b.deeds.filterMap Deed.attempt?

/-- The entries of the diagnostic file. -/
def entries (b : Bridge σ) : List Entry :=
  b.deeds.filterMap (Deed.entry? b.session.config)

/-- The launches that a session has tried: none, or one under its configuration. -/
def Tried (s : Session) (launches : List Config) : Prop :=
  launches = [] ∨ launches = [s.config] ∧ s.launch ≠ .notStarted

/-- The diagnostic file has the lines of the entries, and the adapter was sent what was written. -/
structure Noted (b : Bridge σ) : Prop where
  transcript : ∀ file, b.session.transcript = some file → file = b.entries.flatMap Entry.lines
  outbox : b.session.outbox = writtenOf b.attempts
  tried : Tried b.session (b.entries.filterMap Entry.launch?)

/-- What is neither read, written nor launched leaves the file as it is. -/
theorem Noted.of_same {next : Bridge σ} (noted : b.Noted) (transcript : next.session.transcript = b.session.transcript)
    (outbox : next.session.outbox = b.session.outbox) (config : next.session.config = b.session.config)
    (launch : next.session.launch = b.session.launch) {added : List Deed} (deeds : next.deeds = b.deeds ++ added)
    (entries : added.filterMap (Deed.entry? b.session.config) = []) (attempts : added.filterMap Deed.attempt? = []) :
    next.Noted := by
  have same : next.entries = b.entries := by
    rw [Bridge.entries, Bridge.entries, config, deeds, List.filterMap_append, entries, List.append_nil]
  refine ⟨fun file traced => ?_, ?_, ?_⟩
  · rw [same]
    exact noted.transcript file (transcript ▸ traced)
  · rw [outbox, noted.outbox, Bridge.attempts, Bridge.attempts, deeds, List.filterMap_append, attempts, List.append_nil]
  · rw [same, Tried, config, launch]
    exact noted.tried

/-- What a worker does is noted as it is remembered. -/
theorem entry_of_courier (config : Config) (n : Nat) (notes : List Note) :
    (notes.map (Deed.courier n)).filterMap (Deed.entry? config) = notes.filterMap Note.entry? := by
  rw [List.filterMap_map]
  rfl

/-- What a worker sets out to write is remembered of it. -/
theorem attempt_of_courier (n : Nat) (notes : List Note) :
    (notes.map (Deed.courier n)).filterMap Deed.attempt? = notes.filterMap Note.attempt? := by
  rw [List.filterMap_map]
  rfl

/-- No courier launches. -/
theorem launch_of_notes (notes : List Note) : (notes.filterMap Note.entry?).filterMap Entry.launch? = [] := by
  rw [List.filterMap_filterMap, List.filterMap_eq_nil_iff]
  intro note _
  rcases note with _ | ⟨_ | _⟩ | _ | ⟨_ | _ | _ | _ | _⟩ <;> rfl

/-- A turn of a worker adds to the file what it adds to what is remembered. -/
theorem Noted.turn (noted : b.Noted) (n : Nat) (turn : Turn) : (b.happen (.turn n turn)).Noted := by
  rw [happen]
  cases found : b.couriers[n]? with
  | none => exact noted
  | some c =>
      have control := control_take c b.session turn
      obtain ⟨transcript, outbox⟩ := (c.take_cases b.session turn).notes
      simp only
      generalize c.take b.session turn = done at control transcript outbox ⊢
      obtain ⟨c', session, notes⟩ := done
      have config : session.config = b.session.config := (congrArg Session.config control :)
      have launch : session.launch = b.session.launch := (congrArg Session.launch control :)
      have grown : (b.deeds ++ notes.map (Deed.courier n)).filterMap (Deed.entry? session.config) =
          b.entries ++ notes.filterMap Note.entry? := by
        rw [config, List.filterMap_append, entry_of_courier, entries]
      refine ⟨fun file traced => ?_, ?_, ?_⟩
      · obtain ⟨before, was, rfl⟩ := Option.map_eq_some_iff.mp (transcript.symm.trans traced)
        have entries := (congrArg (List.flatMap Entry.lines) grown).trans List.flatMap_append
        rw [noted.transcript before was]
        exact entries.symm
      · rw [attempts, List.filterMap_append, attempt_of_courier, writtenOf_append]
        exact outbox.trans (by rw [noted.outbox, attempts])
      · rw [entries, grown, List.filterMap_append, launch_of_notes, List.append_nil, Tried, config, launch]
        exact noted.tried

/-- Trying to launch is noted the first time. -/
theorem Noted.launch (noted : b.Noted) (out : Outside σ) : (b.ensureLaunched out).Noted := by
  have noAttempt (lines : List String) : [Deed.launched lines].filterMap Deed.attempt? = [] := rfl
  by_cases first : b.session.launch = .notStarted
  · have lines : (b.ensureLaunched out).deeds = b.deeds ++ [.launched (Launch.traceLines b.session.config)] := by
      simp [ensureLaunched, done, first]
    have grown : (b.ensureLaunched out).entries = b.entries ++ [.launch b.session.config] := by
      rw [entries, lines, List.filterMap_append]
      rfl
    have tried : (b.ensureLaunched out).session.launch ≠ .notStarted := by
      simp only [ensureLaunched, done, Session.ensureLaunched, first, Launch.ensure, Launch.State.ofOutcome]
      split <;> simp
    refine ⟨fun file traced => ?_, ?_, .inr ⟨?_, tried⟩⟩
    · have noted' : (b.ensureLaunched out).session.transcript =
          b.session.transcript.map fun file => file ++ Launch.traceLines b.session.config := by
        simp [ensureLaunched, done, Session.ensureLaunched, Session.note, first]
      obtain ⟨before, was, rfl⟩ := Option.map_eq_some_iff.mp (noted'.symm.trans traced)
      rw [grown, List.flatMap_append, noted.transcript before was]
      simp [Entry.lines]
    · rw [attempts, lines, List.filterMap_append, noAttempt, List.append_nil]
      exact noted.outbox
    · rw [grown, List.filterMap_append, noted.tried.resolve_right fun earlier => earlier.2 first]
      rfl
  · have deeds : (b.ensureLaunched out).deeds = b.deeds ++ [.launched []] := by simp [ensureLaunched, done, first]
    have launch : (b.ensureLaunched out).session.launch = b.session.launch := by
      rw [ensureLaunched, done, Session.ensureLaunched, Launch.ensure]
      exact first
    refine noted.of_same ?_ rfl rfl launch deeds rfl rfl
    simp [ensureLaunched, done, Session.ensureLaunched, Session.note, first]

/-- Every step keeps the file and what is remembered in agreement. -/
theorem Noted.step {next : Bridge σ} (noted : b.Noted) (step : Step out (Allowed untouched) b next) : next.Noted := by
  have kept {next : Bridge σ} {added : List Deed} (deeds : next.deeds = b.deeds ++ added)
      (transcript : next.session.transcript = b.session.transcript) (outbox : next.session.outbox = b.session.outbox)
      (config : next.session.config = b.session.config) (launch : next.session.launch = b.session.launch)
      (entries : added.filterMap (Deed.entry? b.session.config) = []) (attempts : added.filterMap Deed.attempt? = []) :
      next.Noted := noted.of_same transcript outbox config launch deeds entries attempts
  have same {next : Bridge σ} (deeds : next.deeds = b.deeds)
      (transcript : next.session.transcript = b.session.transcript) (outbox : next.session.outbox = b.session.outbox)
      (config : next.session.config = b.session.config) (launch : next.session.launch = b.session.launch) :
      next.Noted := kept (deeds.trans (List.append_nil _).symm) transcript outbox config launch rfl rfl
  cases step with
  | @happen h allowed =>
      cases h with
      | turn n turn => exact noted.turn n turn
      | outside change | elsewhere others => exact same rfl rfl rfl rfl rfl
  | bindRequest bound =>
      obtain ⟨hub, -, rfl⟩ := Session.bindRequest_eq_ok bound
      exact same rfl rfl rfl rfl rfl
  | bindHeader bound =>
      obtain ⟨hub, -, rfl⟩ := Session.bindHeader_eq_ok bound
      exact same rfl rfl rfl rfl rfl
  | send own sent =>
      obtain ⟨hub, -, rfl⟩ := send_eq_ok sent
      exact kept rfl rfl rfl rfl rfl rfl rfl
  | wait request header =>
      rw [Bridge.wait]
      split
      · exact kept rfl rfl rfl rfl rfl rfl rfl
      · exact noted
  | launch => exact noted.launch out
  | forgetStopped | forgetKnown => exact kept rfl rfl rfl rfl rfl rfl rfl
  | outside outside | freeRequest | freeHeader | spawn idle | take own waits | remember breakpoints =>
      exact same rfl rfl rfl rfl rfl

/-- At any time the file is what is remembered. -/
theorem Reachable.noted (reachable : Reachable out (Allowed untouched) b) : b.Noted := by
  refine reachable.induct (fun s created o => ⟨fun file traced => ?_, created.outbox, .inl rfl⟩)
    fun _ _ noted step => noted.step step
  obtain ⟨-, -, created⟩ := created
  rw [Session.create] at created
  split at created
  · cases created
  · cases created
    simp only [ofSession] at traced
    split at traced
    · exact (Option.some.inj traced).symm
    · cases traced

/-! ## What is read and what is to be written -/

/-- What was read from the adapter was decoded. -/
theorem Reachable.readable (reachable : Reachable out (Allowed untouched) b) {n : Nat} {a : Arrival}
    (heard : .courier n (.heard a) ∈ b.deeds) : a.Readable := by
  refine reachable.induct (P := fun b => ∀ n a, .courier n (.heard a) ∈ b.deeds → a.Readable)
    (fun s created o n a among => by cases among) (fun b next readable step n a heard => ?_) n a heard
  cases step.touched with
  | @turn m turn allowed =>
      rw [Bridge.happen] at heard
      cases found : b.couriers[m]? with
      | none =>
          rw [found] at heard
          exact readable n a heard
      | some c =>
          rw [found] at heard
          rcases List.mem_append.mp heard with earlier | new
          · exact readable n a earlier
          · obtain ⟨note, among, same⟩ := List.mem_map.mp new
            cases same
            rw [Courier.eq_hear_of_heard among] at allowed
            exact allowed
  | spawn idle => exact readable n a heard
  | none couriers added deeds own =>
      rw [deeds] at heard
      exact readable n a ((List.mem_append.mp heard).resolve_right (own n _))

theorem mem_notesOf {n : Nat} {note : Note} : note ∈ b.notesOf n ↔ .courier n note ∈ b.deeds := by
  rw [notesOf, List.mem_filterMap]
  constructor
  · rintro ⟨deed, among, told⟩
    cases deed with
    | courier m other =>
        rw [Deed.note?] at told
        split at told
        · next same =>
            cases told
            exact same ▸ among
        · cases told
    | _ => cases told
  · exact fun among => ⟨_, among, by simp [Deed.note?]⟩

/-- A message that a relay sets out to write is made of an input that it took. -/
theorem Reachable.madeOf (reachable : Reachable out (Allowed untouched) b) {n : Nat} {o : Relay.Output} {message : Json}
    (did : .courier n (.did o) ∈ b.deeds) (tried : o.tried? = some message) :
    ∃ p ∈ inputsOf (b.notesOf n), Relay.MadeOf p.1 message := by
  have chronicled := reachable.reached.chronicled
  have noted : .did o ∈ b.notesOf n := mem_notesOf.mpr did
  have inside : n < b.couriers.length := by
    by_contra outside
    rw [chronicled.unborn n (Nat.le_of_not_lt outside)] at noted
    cases noted
  have chronicle := chronicled.couriers n _ (List.getElem?_eq_getElem inside)
  apply Relay.madeOf_runWith Relay.ranged_start
  rw [← chronicle.outputs]
  refine List.mem_filterMap.mpr ⟨o, List.mem_append_left _ ?_, tried⟩
  exact List.mem_filterMap.mpr ⟨_, noted, rfl⟩

/-- What a relay took of the adapter was read from it. -/
theorem Reachable.heard_of_input (reachable : Reachable out (Allowed untouched) b) {n : Nat} {message : Json}
    {written : Except Error Unit} (took : (.adapter message, written) ∈ inputsOf (b.notesOf n)) :
    .courier n (.heard (.message message)) ∈ b.deeds := by
  have chronicled := reachable.reached.chronicled
  have inside : n < b.couriers.length := by
    by_contra outside
    rw [chronicled.unborn n (Nat.le_of_not_lt outside)] at took
    cases took
  have chronicle := chronicled.couriers n _ (List.getElem?_eq_getElem inside)
  have heard : .message message ∈ heardOf (b.notesOf n) := by
    rw [chronicle.arrivals]
    exact List.mem_append_left _ (List.mem_filterMap.mpr ⟨_, took, rfl⟩)
  obtain ⟨note, among, same⟩ := List.mem_filterMap.mp heard
  cases note with
  | heard a =>
      cases same
      exact mem_notesOf.mp among
  | _ => cases same

/-- What was read from the adapter can be written again. -/
theorem Reachable.shaped_readings (reachable : Reachable out (Allowed untouched) b) :
    ∀ v ∈ b.readings, v.Shaped Json.depthLimit := by
  intro v member
  obtain ⟨deed, among, told⟩ := List.mem_filterMap.mp member
  rcases deed with ⟨n, note⟩ | _ | _ | _ | _ | _ <;> try cases told
  rcases note with _ | ⟨_ | _⟩ | _ | _ <;> cases told
  obtain ⟨bytes, read⟩ := reachable.readable among
  exact Json.shape_of_decode read

/-- What a worker sets out to write can be written. -/
theorem Reachable.shaped_attempts (reachable : Reachable out (Allowed untouched) b) :
    ∀ v ∈ b.attempts.map Prod.fst, v.Shaped Json.depthLimit := by
  intro v member
  obtain ⟨⟨message, ended⟩, attempted, rfl⟩ := List.mem_map.mp member
  obtain ⟨deed, among, told⟩ := List.mem_filterMap.mp attempted
  rcases deed with ⟨n, note⟩ | _ | _ | _ | _ | _ <;> try cases told
  rcases note with _ | _ | _ | o <;> try cases told
  have tried : o.tried? = some message := by
    cases o <;> cases told <;> rfl
  obtain ⟨⟨i, written⟩, took, made⟩ := reachable.madeOf among tried
  refine made.shaped fun read input => ?_
  subst input
  obtain ⟨bytes, decoded⟩ := reachable.readable (reachable.heard_of_input took)
  exact Json.shape_of_decode decoded

/-- The entries tell what was read, -/
theorem read_entries (b : Bridge σ) : b.entries.filterMap Entry.read? = b.readings := by
  rw [entries, readings, List.filterMap_filterMap]
  congr 1
  funext deed
  rcases deed with ⟨n, _ | ⟨_ | _⟩ | _ | ⟨_ | _ | _ | _ | _⟩⟩ | ⟨_ | _⟩ | _ | _ | _ | _ <;> rfl

/-- and what was to be written. -/
theorem written_entries (b : Bridge σ) : b.entries.filterMap Entry.written? = b.attempts.map Prod.fst := by
  rw [entries, attempts, List.filterMap_filterMap, List.map_filterMap]
  congr 1
  funext deed
  rcases deed with ⟨n, _ | ⟨_ | _⟩ | _ | ⟨_ | _ | _ | _ | _⟩⟩ | ⟨_ | _⟩ | _ | _ | _ | _ <;> rfl

/-- The diagnostic file is a faithful transcript of every run, whatever the strings in its messages hold, if there are
no floating-point numbers in them. Besides the launch it tells what was read from the adapter and what the relays set
out to write to it, each in its order; what was written is that without what could not be written. What a relay sets
out to write is made of an input that it took, and what was read on a connection was read off its stream, up to the
first bytes there that are no message. -/
theorem transcript_faithful (reachable : Reachable out (Allowed untouched) b) {file : List String}
    (traced : b.session.transcript = some file)
    (floatFree : ∀ v ∈ b.readings ++ b.attempts.map Prod.fst, v.FloatFree) :
    (∃ lines launches, Tried b.session launches ∧
        Transcribes (fileOf file) lines launches b.readings (b.attempts.map Prod.fst)) ∧
      b.session.outbox = writtenOf b.attempts ∧
      (∀ n o message, .courier n (.did o) ∈ b.deeds → o.tried? = some message →
        ∃ p ∈ inputsOf (b.notesOf n), Relay.MadeOf p.1 message) ∧
      ∀ n signals, heardOf (b.notesOf n) <+: Inlet.start.arrivals signals →
        Arrival.ComeFrom signals (heardOf (b.notesOf n)) := by
  have noted := reachable.noted
  obtain ⟨plainRead, plainWritten⟩ := List.forall_mem_append.mp floatFree
  have transcribes := transcribes_entries b.entries
    (fun v member => by
      rw [read_entries] at member
      exact ⟨reachable.shaped_readings v member, plainRead v member⟩)
    (fun v member => by
      rw [written_entries] at member
      exact ⟨reachable.shaped_attempts v member, plainWritten v member⟩)
  rw [read_entries, written_entries, ← noted.transcript file traced] at transcribes
  exact ⟨⟨_, _, noted.tried, transcribes⟩, noted.outbox, fun n o message => reachable.madeOf,
    fun n signals => Arrival.comeFrom⟩

/-! ## A traced run -/

/-- A session with a diagnostic file, as it is created. -/
def tracedSample : Session :=
  { Session.idleSample with transcript := some [] }

/-- Output of two lines, with a control character and characters of several bytes. -/
def outputEvent : Json :=
  Json.ofMembers [("type", .str "event"), ("event", .str "output"),
    ("body", Json.ofMembers [("output", .str "-> é\r\n<- \t日\n\u0001")])]

/-- A request of the adapter, with a line feed in its command. -/
def terminalRequest : Json :=
  Json.ofMembers [("type", .str "request"), ("seq", .int 3), ("command", .str "run\nInTerminal")]

/-- A stream of them in three pieces. Behind them comes a payload that is no value. -/
def noisySignals : List Signal :=
  [.bytes (Wire.write outputEvent ++ (Wire.write terminalRequest).take 30),
    .bytes ((Wire.write terminalRequest).drop 30 ++ Utf8.encode "Content-Length: 1\r\n\r\nx"),
    .bytes (Wire.write outputEvent)]

/-- What arrives of that stream. -/
def noisyArrivals : List Arrival :=
  [.message outputEvent, .message terminalRequest, .lost]

/-- That arrives while a request is passed on, and the refusal of the adapter's own cannot be written. -/
def noisy : Schedule Unit
  | .passed =>
    [.turn 0 .fetch, .turn 0 (.relay (.ok ())), .turn 0 .act] ++ noisyArrivals.map (fun a => .turn 0 (.hear a)) ++
      [.turn 0 (.relay (.ok ())), .turn 0 .act, .turn 0 .act, .turn 0 (.relay (.error (.io .other "reset"))),
        .turn 0 .act]
  | _ => []

/-- The moves of that run. -/
def noisyMoves : List (Move Unit) :=
  [.start (readies 0), .process .null (Session.bareRequest 5 "two\nlines") noisy]

/-- The traced sample after that run. -/
def noisySample : Bridge Unit :=
  noisyMoves.foldl (next Session.obliging) (ofSession tracedSample ())

theorem reachable_noisySample : Reachable Session.obliging (Allowed controlBindings) noisySample := by
  have created : Session.create tracedSample.kernel .default tracedSample.address .empty .notStarted .empty true =
      .ok tracedSample := rfl
  have read : (Arrival.message outputEvent).Readable ∧ (Arrival.message terminalRequest).Readable :=
    ⟨Session.readable_of_exact (by decide +kernel), Session.readable_of_exact (by decide +kernel)⟩
  have permits : Permits (Allowed (controlBindings (σ := Unit))) noisy := by
    intro p h member
    cases p with
    | passed =>
        simp only [noisy, noisyArrivals, List.map_cons, List.map_nil, List.cons_append, List.nil_append, List.mem_cons,
          List.not_mem_nil, or_false] at member
        rcases member with rfl | rfl | rfl | rfl | rfl | rfl | rfl | rfl | rfl | rfl | rfl <;>
          first | exact trivial | exact read.1 | exact read.2
    | _ => cases member
  refine Reachable.moves (.create (.mk .empty (by decide) created) ()) ?_
  simp only [noisyMoves, List.forall_mem_cons]
  exact ⟨permits_readies _ 0, ⟨by decide +kernel, permits⟩, List.forall_mem_nil _⟩

/-- Both messages that were read have their lines, and so have both that were to be written. One of these was not. -/
theorem transcript_faithful_noisySample :
    (∃ file lines launches, noisySample.session.transcript = some file ∧
      Transcribes (fileOf file) lines launches [outputEvent, terminalRequest]
        [Session.bareRequest 5 "two\nlines", Relay.refusal terminalRequest]) ∧
      noisySample.session.outbox = [Session.bareRequest 5 "two\nlines"] ∧
      Arrival.ComeFrom noisySignals noisyArrivals := by
  obtain ⟨file, traced⟩ := Option.isSome_iff_exists.mp
    (show noisySample.session.transcript.isSome = true by decide +kernel)
  have read : noisySample.readings = [outputEvent, terminalRequest] := by decide +kernel
  have tried : noisySample.attempts =
      [(Session.bareRequest 5 "two\nlines", true), (Relay.refusal terminalRequest, false)] := by
    decide +kernel
  have heard : heardOf (noisySample.notesOf 0) = noisyArrivals := by decide +kernel
  have first : Inlet.start.arrivals noisySignals = noisyArrivals := by decide +kernel
  obtain ⟨⟨lines, launches, -, transcribes⟩, outbox, -, comeFrom⟩ :=
    transcript_faithful reachable_noisySample traced (by rw [read, tried]; decide +kernel)
  rw [read, tried] at transcribes
  rw [tried] at outbox
  have came := comeFrom 0 noisySignals
  rw [heard, first] at came
  exact ⟨⟨file, lines, launches, traced, transcribes⟩, outbox, came List.prefix_rfl⟩

/-- A line for a message that was to be written is there although the message was not written: the lines behind that
mark do not decode to what was written. -/
theorem line_of_unwritten :
    Reachable Session.obliging (Allowed controlBindings) noisySample ∧
      ∃ file, noisySample.session.transcript = some file ∧
      (((fileOf file).splitOn 10).filterMap writtenMark.isPrefixOf?).map Json.decode ≠
        noisySample.session.outbox.map .ok := by
  obtain ⟨file, traced⟩ := Option.isSome_iff_exists.mp
    (show noisySample.session.transcript.isSome = true by decide +kernel)
  refine ⟨reachable_noisySample, file, traced, fun same => ?_⟩
  have lines : (noisySample.session.transcript.map fun file =>
      (((fileOf file).splitOn 10).filterMap writtenMark.isPrefixOf?).length) = some 2 := by
    decide +kernel
  have written : noisySample.session.outbox.length = 1 := by decide +kernel
  rw [traced, Option.map_some, Option.some.injEq] at lines
  have lengths := congrArg List.length same
  rw [List.length_map, List.length_map, lines, written] at lengths
  omega

end Bridge
end DebugBridge
