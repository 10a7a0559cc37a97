import DebugBridge.Proofs.Bridge.Frames

/-!
# The history of a courier

All that a worker does is among the deeds. `Courier.Chronicle` says how a courier comes out of what is remembered of it:
its relay is where the inputs that it took lead from the start of one, and what it did and has still to do is what they
come to. The requests that it took and those that wait are the frames it was sent, in order, behind the one that asked
whether it is ready; the headers it took are all that it was sent. A turn keeps that (`Turned.chronicle`), and so it
is so at all times of every courier (`Reached.chronicled`).
-/

namespace DebugBridge

/-! ## What is remembered -/

namespace Note

/-- The input that the relay took, and how writing to the adapter ended. -/
def took? : Note → Option (Relay.Input × Except Error Unit)
  | .took input written => some (input, written)
  | _ => none

/-- What the relay did. -/
def did? : Note → Option Relay.Output
  | .did output => some output
  | _ => none

/-- What was read from the adapter. -/
def heard? : Note → Option Arrival
  | .heard a => some a
  | _ => none

end Note

/-- What is remembered of a courier. -/
def Deed.note? (n : Nat) : Deed → Option Note
  | .courier m note => if m = n then some note else none
  | _ => none

/-- The frame of a request. -/
def Relay.Input.request? : Relay.Input → Option Frame
  | .request frame => some frame
  | _ => none

/-- The frame of a header. -/
def Relay.Input.header? : Relay.Input → Option Frame
  | .header frame => some frame
  | _ => none

/-- What was read from the adapter. -/
def Relay.Input.arrival? : Relay.Input → Option Arrival
  | .adapter message => some (.message message)
  | .adapterLost => some .lost
  | _ => none

@[simp] theorem Arrival.arrival?_input (a : Arrival) : a.input.arrival? = some a := by
  cases a <;> rfl

/-- The input that waits. -/
def Errand.input? : Errand → Option Relay.Input
  | .input i => some i
  | .closed => none

/-- The inputs that the relay took. -/
def inputsOf (notes : List Note) : List (Relay.Input × Except Error Unit) :=
  notes.filterMap Note.took?

/-- What the relay did. -/
def outputsOf (notes : List Note) : List Relay.Output :=
  notes.filterMap Note.did?

/-- What was read from the adapter. -/
def heardOf (notes : List Note) : List Arrival :=
  notes.filterMap Note.heard?

/-- The requests among inputs. -/
def requestsOf (inputs : List (Relay.Input × Except Error Unit)) : List Frame :=
  inputs.filterMap fun p => p.1.request?

/-- What came from the adapter among inputs. -/
def arrivalsOf (inputs : List (Relay.Input × Except Error Unit)) : List Arrival :=
  inputs.filterMap fun p => p.1.arrival?

/-- The headers among inputs. -/
def headersOf (inputs : List (Relay.Input × Except Error Unit)) : List Frame :=
  inputs.filterMap fun p => p.1.header?

section Append

variable (first second : List Note)

@[simp] theorem inputsOf_append : inputsOf (first ++ second) = inputsOf first ++ inputsOf second :=
  List.filterMap_append

@[simp] theorem outputsOf_append : outputsOf (first ++ second) = outputsOf first ++ outputsOf second :=
  List.filterMap_append

@[simp] theorem heardOf_append : heardOf (first ++ second) = heardOf first ++ heardOf second :=
  List.filterMap_append

end Append

section Append

variable (first second : List (Relay.Input × Except Error Unit))

@[simp] theorem requestsOf_append : requestsOf (first ++ second) = requestsOf first ++ requestsOf second :=
  List.filterMap_append

@[simp] theorem arrivalsOf_append : arrivalsOf (first ++ second) = arrivalsOf first ++ arrivalsOf second :=
  List.filterMap_append

@[simp] theorem headersOf_append : headersOf (first ++ second) = headersOf first ++ headersOf second :=
  List.filterMap_append

end Append

/-! ## What is remembered of taking -/

section Taking

variable (frames : List Frame) (rows : List (Relay.Input × Except Error Unit))

@[simp] theorem inputsOf_got (binding : Option Nat) : inputsOf (frames.map (Note.got binding)) = [] := by
  rw [inputsOf, List.filterMap_map]
  exact List.filterMap_eq_nil_iff.mpr fun _ _ => rfl

@[simp] theorem outputsOf_got (binding : Option Nat) : outputsOf (frames.map (Note.got binding)) = [] := by
  rw [outputsOf, List.filterMap_map]
  exact List.filterMap_eq_nil_iff.mpr fun _ _ => rfl

@[simp] theorem heardOf_got (binding : Option Nat) : heardOf (frames.map (Note.got binding)) = [] := by
  rw [heardOf, List.filterMap_map]
  exact List.filterMap_eq_nil_iff.mpr fun _ _ => rfl

@[simp] theorem inputsOf_took : inputsOf (rows.map fun p => Note.took p.1 p.2) = rows := by
  rw [inputsOf, List.filterMap_map]
  exact List.filterMap_some

@[simp] theorem outputsOf_took : outputsOf (rows.map fun p => Note.took p.1 p.2) = [] := by
  rw [outputsOf, List.filterMap_map]
  exact List.filterMap_eq_nil_iff.mpr fun _ _ => rfl

@[simp] theorem heardOf_took : heardOf (rows.map fun p => Note.took p.1 p.2) = [] := by
  rw [heardOf, List.filterMap_map]
  exact List.filterMap_eq_nil_iff.mpr fun _ _ => rfl

@[simp] theorem got_of_took (q : Nat) : (rows.map fun p => Note.took p.1 p.2).filterMap (Note.got? q) = [] := by
  rw [List.filterMap_map]
  exact List.filterMap_eq_nil_iff.mpr fun _ _ => rfl

@[simp] theorem requestsOf_asHeaders : requestsOf (Courier.asHeaders frames) = [] := by
  rw [requestsOf, Courier.asHeaders, List.filterMap_map]
  exact List.filterMap_eq_nil_iff.mpr fun _ _ => rfl

@[simp] theorem arrivalsOf_asHeaders : arrivalsOf (Courier.asHeaders frames) = [] := by
  rw [arrivalsOf, Courier.asHeaders, List.filterMap_map]
  exact List.filterMap_eq_nil_iff.mpr fun _ _ => rfl

@[simp] theorem headersOf_asHeaders : headersOf (Courier.asHeaders frames) = frames := by
  rw [headersOf, Courier.asHeaders, List.filterMap_map]
  exact List.filterMap_some

end Taking

namespace Courier

/-- The requests that wait in the inbox. -/
def requestsAhead (c : Courier) : List Frame :=
  c.inbox.filterMap fun e => e.input?.bind Relay.Input.request?

/-- What was read from the adapter and waits in the inbox. -/
def arrivalsAhead (c : Courier) : List Arrival :=
  c.inbox.filterMap fun e => e.input?.bind Relay.Input.arrival?

/-- How a courier comes out of what is remembered of it. -/
structure Chronicle (c : Courier) (notes : List Note) : Prop where
  /-- The relay is where its inputs lead. -/
  relay : c.worker.relay = (Relay.start.runWith (inputsOf notes)).1
  /-- It did what they come to, but for what it still has to do. -/
  outputs : outputsOf notes ++ c.doing = (Relay.start.runWith (inputsOf notes)).2
  /-- Headers do not pass through the inbox. -/
  inbox : ∀ i, .input i ∈ c.inbox → i.header? = none
  /-- Before there is a connection nothing was taken, and nothing waits. -/
  early : c.stage.early → inputsOf notes = [] ∧ c.inbox = []
  /-- Nothing is told of a thread that has not taken the control side's first frame. -/
  silent : c.stage = .new ∨ c.stage = .greeting → notes = []
  /-- Behind the first frame, the requests taken and those that wait are what was read from the control side. -/
  requests : ∃ greeting : List Frame, greeting.length ≤ 1 ∧ ∀ q, c.worker.request.binding? = some q →
    notes.filterMap (Note.got? q) = greeting ++ requestsOf (inputsOf notes) ++ c.requestsAhead
  /-- What was taken of the adapter and what waits of it is what was read from it. -/
  arrivals : heardOf notes = arrivalsOf (inputsOf notes) ++ c.arrivalsAhead
  /-- All headers that were read were taken. -/
  headers : ∀ h, c.worker.header.binding? = some h → notes.filterMap (Note.got? h) = headersOf (inputsOf notes)

/-- Of a new worker there is nothing to tell. -/
theorem chronicle_fresh : fresh.Chronicle [] :=
  ⟨rfl, rfl, (by rintro i ⟨⟩), fun _ => ⟨rfl, rfl⟩, fun _ => rfl, ⟨[], Nat.zero_le 1, fun _ _ => rfl⟩, rfl,
    fun _ _ => rfl⟩

variable {c : Courier} {s : Session} {done : Courier × Session × List Note} {notes : List Note}

/-- A turn behind the connection that takes nothing into the relay keeps the chronicle if it keeps the books on the
control side's frames. -/
theorem Chronicle.later (chronicle : c.Chronicle notes) {c' : Courier} {added : List Note}
    (late : c'.stage.early = false) (worker : c'.worker = c.worker) (doing : c'.doing = c.doing)
    (inputs : inputsOf added = []) (outputs : outputsOf added = [])
    (inbox : ∀ i, .input i ∈ c'.inbox → .input i ∈ c.inbox ∨ i.header? = none)
    (requests : ∀ q, c.worker.request.binding? = some q →
      c.requestsAhead ++ added.filterMap (Note.got? q) = c'.requestsAhead)
    (arrivals : c.arrivalsAhead ++ heardOf added = c'.arrivalsAhead)
    (headers : ∀ h, c.worker.header.binding? = some h → added.filterMap (Note.got? h) = []) :
    c'.Chronicle (notes ++ added) where
  relay := by rw [worker, inputsOf_append, inputs, List.append_nil, chronicle.relay]
  outputs := by
    rw [doing, inputsOf_append, outputsOf_append, inputs, outputs, List.append_nil, List.append_nil, chronicle.outputs]
  inbox i among := (inbox i among).elim (chronicle.inbox i) id
  early := by simp [late]
  silent := by rintro (stage | stage) <;> simp [stage, Stage.early] at late
  requests := by
    obtain ⟨greeting, one, taken⟩ := chronicle.requests
    refine ⟨greeting, one, fun q tied => ?_⟩
    rw [worker] at tied
    rw [List.filterMap_append, taken q tied, inputsOf_append, inputs, List.append_nil, ← requests q tied]
    simp
  arrivals := by rw [heardOf_append, chronicle.arrivals, inputsOf_append, inputs, ← arrivals]; simp
  headers := by
    intro h tied
    rw [worker] at tied
    rw [List.filterMap_append, chronicle.headers h tied, headers h tied, inputsOf_append, inputs, List.append_nil,
      List.append_nil]

/-- What the first frame leads to. -/
theorem Chronicle.greet (chronicle : c.Chronicle notes) (greeting : c.stage = .greeting) (s : Session)
    (placed : Bridge.Placed s c.worker) {c' : Courier} (frame : Frame) (same : c' = { c with stage := c'.stage })
    (late : c'.stage ≠ .new ∧ c'.stage ≠ .greeting) :
    c'.Chronicle (notes ++ [.got c.worker.request.binding? frame]) := by
  have none := chronicle.silent (.inr greeting)
  subst none
  obtain ⟨-, inbox⟩ := chronicle.early (by simp [greeting, Stage.early])
  rw [same]
  refine ⟨chronicle.relay, chronicle.outputs, chronicle.inbox, fun _ => ⟨rfl, inbox⟩, ?_,
    ⟨[frame], le_rfl, fun q tied => ?_⟩,
    chronicle.arrivals, fun h tied => ?_⟩
  · rintro (stage | stage)
    · exact absurd stage late.1
    · exact absurd stage late.2
  · simp only at tied
    simp [tied, Note.got?, requestsAhead, inbox, inputsOf, requestsOf, Note.took?]
  · rcases placed with free | ⟨q, h', atPlace, -⟩
    · simp only [Worker.sockets, Prod.mk.injEq] at free
      simp only [free.2.1] at tied
      cases tied
    · simp only [atPlace.header] at tied
      cases tied
      have other : q ≠ h := Ne.symm atPlace.apart
      simp [atPlace.request, Socket.binding?, Note.got?, other, inputsOf, headersOf, Note.took?]

/-- Frames that were taken off the binding of one socket were not taken off that of the other. -/
theorem got_apart {s : Session} {w : Worker} (placed : Bridge.Placed s w) (frames : List Frame) :
    (∀ q, w.request.binding? = some q → (frames.map (Note.got w.header.binding?)).filterMap (Note.got? q) = []) ∧
      ∀ h, w.header.binding? = some h → (frames.map (Note.got w.request.binding?)).filterMap (Note.got? h) = [] := by
  rcases placed with free | ⟨q, h, tied, -⟩
  · simp only [Worker.sockets, Prod.mk.injEq] at free
    rw [free.1, free.2.1]
    constructor <;> intro q none <;> cases none
  · rw [tied.request, tied.header]
    constructor
    · rintro q ⟨⟩
      rw [got_of_notes, if_neg]
      rintro ⟨⟩
      exact tied.apart rfl
    · rintro h ⟨⟩
      rw [got_of_notes, if_neg]
      rintro ⟨⟩
      exact tied.apart rfl

/-- What the relay takes is added to what it took. -/
theorem Chronicle.accept (chronicle : c.Chronicle notes) (placed : Bridge.Placed s c.worker)
    (written : Except Error Unit) {i : Relay.Input} {inbox : List Errand} (relaying : c.stage = .relaying)
    (free : c.doing = []) (waits : c.inbox = .input i :: inbox) :
    ({ c with inbox }.accept s.hub written i).1.Chronicle
      (notes ++ ({ c with inbox }.accept s.hub written i).2.2) := by
  obtain ⟨next, -, -, taken⟩ := accept_eq { c with inbox } s.hub written i
  rw [taken]
  generalize headersFor _ _ _ = headers
  have noHeader := chronicle.inbox i (waits ▸ List.mem_cons_self)
  have requested : c.requestsAhead =
      requestsOf [(i, written)] ++ inbox.filterMap fun e => e.input?.bind Relay.Input.request? := by
    rw [requestsAhead, waits]
    cases given : i.request? <;> simp [Errand.input?, requestsOf, given]
  have arrived : c.arrivalsAhead =
      arrivalsOf [(i, written)] ++ inbox.filterMap fun e => e.input?.bind Relay.Input.arrival? := by
    rw [arrivalsAhead, waits]
    cases given : i.arrival? <;> simp [Errand.input?, arrivalsOf, given]
  have last : headersOf [(i, written)] = [] := by simp [headersOf, noHeader]
  have inputs : inputsOf (notes ++ (headers.map (Note.got c.worker.header.binding?) ++
      (asHeaders headers ++ [(i, written)]).map fun p => Note.took p.1 p.2)) =
      inputsOf notes ++ (asHeaders headers ++ [(i, written)]) := by
    simp only [inputsOf_append, inputsOf_got, inputsOf_took, List.nil_append]
  refine ⟨?_, ?_, fun i among => chronicle.inbox i (waits ▸ List.mem_cons_of_mem _ among),
    by simp [relaying, Stage.early], by simp [relaying], ?_, ?_, fun h tied => ?_⟩
  · rw [inputs, Relay.runWith_append, ← chronicle.relay]
  · rw [inputs, outputsOf_append, outputsOf_append, outputsOf_got, outputsOf_took, Relay.runWith_append,
      ← chronicle.outputs, ← chronicle.relay, free]
    simp
  · obtain ⟨greeting, one, before⟩ := chronicle.requests
    refine ⟨greeting, one, fun q tied => ?_⟩
    rw [inputs, List.filterMap_append, List.filterMap_append, got_of_took, (got_apart placed headers).1 q tied,
      before q tied, requested]
    simp [requestsAhead]
  · rw [inputs, heardOf_append, heardOf_append, heardOf_got, heardOf_took, chronicle.arrivals, arrived]
    simp [arrivalsAhead]
  · rw [inputs, List.filterMap_append, List.filterMap_append, got_of_took, chronicle.headers h tied, got_of_notes,
      if_pos tied]
    simp [last]

/-- Every turn keeps the chronicle, with what is remembered of it. -/
theorem Turned.chronicle (turned : Turned c s done) (chronicle : c.Chronicle notes) (regular : c.Regular)
    (placed : Bridge.Placed s c.worker) : done.1.Chronicle (notes ++ done.2.2) := by
  have reads (busy : c.listening = true ∨ c.reading = true) : c.stage.early = false := by
    by_contra early
    obtain ⟨deaf, blind⟩ := regular.silent (.inl (by simpa using early))
    simp [deaf, blind] at busy
  have apart := got_apart placed
  cases turned with
  | still => simpa using chronicle
  | embarked new connected =>
      obtain rfl := chronicle.silent (.inl new)
      obtain ⟨-, inbox⟩ := chronicle.early (by simp [new, Stage.early])
      obtain ⟨q, h, -, -, rfl⟩ := Worker.connect_eq_ok connected
      exact ⟨rfl, chronicle.outputs, chronicle.inbox, fun _ => ⟨rfl, inbox⟩, fun _ => rfl,
        ⟨[], Nat.zero_le 1, fun q _ => by simp [requestsAhead, inbox, inputsOf, requestsOf]⟩, chronicle.arrivals,
        fun h _ => rfl⟩
  | greeted greeting received => exact chronicle.greet greeting s placed askReady rfl (by simp)
  | declined greeting received => exact chronicle.greet greeting s placed _ rfl (by simp)
  | failed early | refused dialling | reached dialling | acknowledged connected sent | unheard connected unsent
    | finished closing deaf =>
      exact chronicle.later rfl rfl rfl rfl rfl (fun _ => .inl) (fun q _ => List.append_nil _) (List.append_nil _)
        fun _ _ => rfl
  | heard v reading | lost reading =>
      refine chronicle.later (reads (.inr reading)) rfl rfl rfl rfl (fun i among => ?_) (fun q _ => ?_) ?_
        fun _ _ => rfl
      · rcases List.mem_append.mp among with earlier | new
        · exact .inl earlier
        · cases List.mem_singleton.mp new
          exact .inr rfl
      · rw [requestsAhead, requestsAhead, List.filterMap_append]
        rfl
      · rw [arrivalsAhead, arrivalsAhead, List.filterMap_append]
        rfl
  | @fetched frame hub listening received =>
      refine chronicle.later (reads (.inl listening)) rfl rfl rfl rfl (fun i among => ?_) (fun q tied => ?_) ?_
        fun h tied => (apart [frame]).2 h tied
      · rcases List.mem_append.mp among with earlier | new
        · exact .inl earlier
        · cases List.mem_singleton.mp new
          exact .inr rfl
      · rw [requestsAhead, requestsAhead, List.filterMap_append, tied]
        simp [Note.got?, Errand.input?, Relay.Input.request?]
      · rw [arrivalsAhead, arrivalsAhead, List.filterMap_append]
        rfl
  | gone listening received =>
      refine chronicle.later (reads (.inl listening)) rfl rfl rfl rfl (fun i among => .inl (by simpa using among))
        (fun q _ => ?_) ?_ fun _ _ => rfl
      · rw [requestsAhead, requestsAhead, List.filterMap_append]
        rfl
      · rw [arrivalsAhead, arrivalsAhead, List.filterMap_append]
        rfl
  | @closed inbox relaying free waits =>
      refine chronicle.later rfl rfl rfl rfl rfl (fun i among => .inl (waits ▸ List.mem_cons_of_mem _ among))
        (fun q _ => ?_) ?_ fun _ _ => rfl
      · rw [requestsAhead, waits]
        exact List.append_nil _
      · rw [arrivalsAhead, waits]
        exact List.append_nil _
  | accepted written relaying free waits => exact chronicle.accept placed written relaying free waits
  | @acted output doing does =>
      have relaying : c.stage = .relaying := by
        by_contra other
        simp [regular.idle other] at does
      obtain ⟨greeting, one, before⟩ := chronicle.requests
      have inputs : inputsOf (notes ++ [.did output]) = inputsOf notes := by simp [inputsOf, Note.took?]
      refine ⟨?_, ?_, chronicle.inbox, by simp [relaying, Stage.early], by simp [relaying],
        ⟨greeting, one, fun q tied => ?_⟩, ?_, fun h tied => ?_⟩
      · rw [inputs]
        exact chronicle.relay
      · rw [inputs, ← chronicle.outputs, does]
        simp [outputsOf, Note.did?]
      · rw [inputs, List.filterMap_append, before q tied]
        exact List.append_nil _
      · rw [inputs, heardOf_append, chronicle.arrivals]
        exact List.append_nil _
      · rw [inputs, ← chronicle.headers h tied]
        simp [Note.got?]

end Courier

/-! ## The history of every courier -/

namespace Bridge

variable {σ : Type} {out : Outside σ} {untouched : Bridge σ → Nat → Prop} {b : Bridge σ}

/-- What is remembered of a courier. -/
def notesOf (b : Bridge σ) (n : Nat) : List Note :=
  b.deeds.filterMap (Deed.note? n)

/-- Every courier comes out of what is remembered of it, and nothing is told of couriers that are not there yet. -/
structure Chronicled (b : Bridge σ) : Prop where
  couriers : ∀ n (c : Courier), b.couriers[n]? = some c → c.Chronicle (b.notesOf n)
  unborn : ∀ n, b.couriers.length ≤ n → b.notesOf n = []

/-- What a worker's turn leaves is remembered of that worker alone. -/
theorem note_of_courier (n m : Nat) (notes : List Note) :
    (notes.map (Deed.courier m)).filterMap (Deed.note? n) = if m = n then notes else [] := by
  rw [List.filterMap_map]
  split
  · next same =>
      subst same
      simp [Function.comp_def, Deed.note?]
  · next other => simp [Function.comp_def, Deed.note?, other]

/-- Deeds of others are not remembered of a courier. -/
theorem note_of_others {added : List Deed} (own : ∀ n note, .courier n note ∉ added) (n : Nat) :
    added.filterMap (Deed.note? n) = [] := by
  refine List.filterMap_eq_nil_iff.mpr fun deed among => ?_
  rcases deed with ⟨m, note⟩ | _ | _ | _ | _ | _ <;> try rfl
  exact absurd among (own m note)

/-- What the control side does is no courier's doing. -/
theorem Chronicled.of_same {next : Bridge σ} (chronicled : b.Chronicled) (couriers : next.couriers = b.couriers)
    (notes : ∀ n, next.notesOf n = b.notesOf n) : next.Chronicled := by
  refine ⟨fun n c found => ?_, fun n unborn => ?_⟩
  · rw [notes]
    exact chronicled.couriers n c (couriers ▸ found)
  · rw [notes]
    exact chronicled.unborn n (couriers ▸ unborn)

/-- A turn of one worker keeps the chronicle of every worker: its own grows, the others stay. -/
theorem Chronicled.turn (chronicled : b.Chronicled) (sound : b.Sound) (attended : b.Attended) (n : Nat) (turn : Turn) :
    (b.happen (.turn n turn)).Chronicled := by
  rw [happen]
  cases found : b.couriers[n]? with
  | none => exact chronicled
  | some c =>
      have member := List.mem_of_getElem? found
      have after := (c.take_cases b.session turn).chronicle (chronicled.couriers n c found) (attended.regular c member)
        (sound.couriers c member)
      simp only
      generalize c.take b.session turn = done at after ⊢
      have notes (m : Nat) : (b.deeds ++ done.2.2.map (Deed.courier n)).filterMap (Deed.note? m) =
          b.notesOf m ++ if n = m then done.2.2 else [] := by
        rw [List.filterMap_append, note_of_courier, notesOf]
      refine ⟨fun m d atM => ?_, fun m unborn => ?_⟩
      · rw [notesOf, notes]
        rw [List.getElem?_set] at atM
        split at atM
        · next same =>
            subst same
            rw [if_pos rfl]
            split at atM
            · cases atM
              exact after
            · cases atM
        · next other =>
            rw [if_neg other, List.append_nil]
            exact chronicled.couriers m d atM
      · rw [List.length_set] at unborn
        have inside := (List.getElem?_eq_some_iff.mp found).1
        have other : n ≠ m := by omega
        rw [notesOf, notes, if_neg other, List.append_nil]
        exact chronicled.unborn m unborn

/-- Every step keeps the chronicles. -/
theorem Chronicled.step {next : Bridge σ} (chronicled : b.Chronicled) (sound : b.Sound) (attended : b.Attended)
    (step : Step out (Allowed untouched) b next) : next.Chronicled := by
  cases step.touched with
  | turn allowed => exact chronicled.turn sound attended _ _
  | spawn idle =>
      refine ⟨fun n c found => ?_, fun n unborn => ?_⟩
      · rcases Nat.lt_or_ge n b.couriers.length with earlier | new
        · rw [Bridge.spawn, List.getElem?_append_left earlier] at found
          exact chronicled.couriers n c found
        · rw [Bridge.spawn, List.getElem?_append_right new] at found
          rw [List.mem_singleton.mp (List.mem_of_getElem? found)]
          have none : b.spawn.notesOf n = [] := chronicled.unborn n new
          rw [none]
          exact Courier.chronicle_fresh
      · have later : b.couriers.length ≤ n := by
          rw [Bridge.spawn, List.length_append] at unborn
          omega
        exact chronicled.unborn n later
  | none couriers added deeds own =>
      exact chronicled.of_same couriers fun n => by rw [notesOf, deeds, List.filterMap_append, note_of_others own,
        List.append_nil, notesOf]

/-- So at any time every worker has one. -/
theorem Reached.chronicled (reached : Reached out (Allowed untouched) b) : b.Chronicled :=
  reached.induct (fun s created o => ⟨fun n c found => by simp [ofSession] at found, fun n _ => rfl⟩)
    fun _ _ reached chronicled step => chronicled.step reached.sound reached.attended step

end Bridge
end DebugBridge
