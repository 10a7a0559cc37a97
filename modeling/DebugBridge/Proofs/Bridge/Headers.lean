import DebugBridge.Proofs.Bridge.Apart
import DebugBridge.Proofs.Bridge.Traffic

/-!
# Under which header events are published

The header of a call and its message go to the worker on two channels, the header first. Before it takes a request, the
relay takes all headers that were sent by then, and the last of them is the one under which it publishes until it takes
the next request. `headerBy` reads that header off the deeds, and `events_headed` says that every event goes out under
it. An event that is taken before the request of a call goes out under an earlier header although the call has sent its
own (`event_before_request`).
-/

namespace DebugBridge

namespace Relay

variable {r : Relay} {given read : List Bytes}

/-- Of the headers that it was given, the relay has read some, and the last of these counts. -/
structure HasRead (r : Relay) (given read : List Bytes) : Prop where
  given : given = read ++ r.headers
  parent : r.parent = (read.getLast?.map headerOf).getD .null

/-- Taking headers in adds them behind the others. -/
theorem runWith_asHeaders (r : Relay) (frames : List Frame) :
    r.runWith (Courier.asHeaders frames) = ({ r with headers := r.headers ++ frames }, []) := by
  induction frames generalizing r with
  | nil => simp [Courier.asHeaders]
  | cons frame frames ih =>
      have rest := ih { r with headers := r.headers ++ [frame] }
      rw [Courier.asHeaders] at rest
      simp only [Courier.asHeaders, List.map_cons, runWith_cons, react, rest, List.append_assoc, List.singleton_append,
        List.nil_append]

/-- What the adapter sends leaves the headers and what was made of them. -/
theorem headed_onMessage (r : Relay) (written : Except Error Unit) (message : Json) :
    (r.onMessage written message).1.headers = r.headers ∧ (r.onMessage written message).1.parent = r.parent := by
  simp only [onMessage]
  split
  · simp only [onEvent]
    split
    · split <;> exact ⟨rfl, rfl⟩
    · exact ⟨rfl, rfl⟩
  · simp only [onResponse]
    split <;> exact ⟨rfl, rfl⟩
  · exact ⟨rfl, rfl⟩
  · exact ⟨rfl, rfl⟩

/-- A request of the control side that has a value. -/
def Input.legible : Input → Bool
  | .request frame => (Json.decode frame).isOk
  | _ => false

/-- With a request that has a value, all headers are read. -/
theorem HasRead.request (reads : r.HasRead given read) (written : Except Error Unit) {i : Input}
    (legible : i.legible = true) : (r.react written i).1.HasRead given given := by
  cases i with
  | request frame =>
      have last : r.readHeaders.parent = (given.getLast?.map headerOf).getD .null := by
        rw [reads.given, List.getLast?_append, readHeaders, reads.parent]
        cases r.headers.getLast? <;> rfl
      rcases r.react_request written frame with ⟨e, unread, -⟩ | ⟨message, -, ⟨-, same⟩ | ⟨-, phase, same⟩⟩
      · simp [Input.legible, unread, Except.isOk, Except.toBool] at legible
      · rw [same]
        exact ⟨(List.append_nil _).symm, last⟩
      · rw [same]
        cases written <;> exact ⟨(List.append_nil _).symm, last⟩
  | header frame | adapter message | adapterLost => cases legible

/-- Whatever else the relay takes leaves the headers that it has. -/
theorem HasRead.other (reads : r.HasRead given read) (written : Except Error Unit) {i : Input}
    (noHeader : i.header? = none) (illegible : i.legible = false) : (r.react written i).1.HasRead given read := by
  cases i with
  | header frame => cases noHeader
  | request frame =>
      rcases r.react_request written frame with ⟨e, -, same⟩ | ⟨message, found, -⟩
      · rw [same]
        exact reads
      · simp [Input.legible, found, Except.isOk, Except.toBool] at illegible
  | adapter message =>
      obtain ⟨headers, parent⟩ := r.headed_onMessage written message
      exact ⟨reads.given.trans (by rw [react, headers]), parent.trans reads.parent⟩
  | adapterLost => exact ⟨reads.given, reads.parent⟩

/-- Events are published under the header that there is. -/
theorem parent_of_publish {written : Except Error Unit} {i : Input} {header event : Json}
    (published : .publish header event ∈ (r.react written i).2) : header = (r.react written i).1.parent := by
  cases i with
  | header frame | adapterLost => cases published
  | request frame =>
      rcases r.react_request written frame with ⟨e, -, same⟩ | ⟨message, -, ⟨-, same⟩ | ⟨-, phase, same⟩⟩ <;>
        rw [same] at published
      · cases published
      · simp at published
      · cases written <;> simp at published
  | adapter message =>
      rw [react, (r.headed_onMessage written message).2]
      simp only [react, onMessage] at published
      split at published
      · simp only [onEvent] at published
        split at published
        · split at published
          · cases written <;> simp [attempt] at published <;> exact published.1
          · simp at published
            exact published.1
        · simp at published
          exact published.1
      · simp only [onResponse] at published
        split at published <;> simp at published
      · cases written <;> simp [attempt] at published
      · cases published

end Relay

/-! ## What the deeds say -/

/-- The header sent last at a binding, and the one that had been sent last when a worker last took a request, after
another deed. -/
def Deed.heading (n h : Nat) : Option Frame × Option Frame → Deed → Option Frame × Option Frame
  | (last, current), .sent s frame => if s.binding? = some h then (some frame, current) else (last, current)
  | (last, current), .courier m (.took i _) => if m = n ∧ i.legible then (last, last) else (last, current)
  | headings, _ => headings

/-- Of the headers sent at a binding, the last one, and the last one before a worker last took a request. -/
def headings (n h : Nat) (deeds : List Deed) : Option Frame × Option Frame :=
  deeds.foldl (Deed.heading n h) (none, none)

/-- The header under which a worker publishes: the one that had been sent last at the binding of its header socket when
it last took a request, and null if it has taken none. -/
def headerBy (n h : Nat) (deeds : List Deed) : Json :=
  ((headings n h deeds).2.map Relay.headerOf).getD .null

/-- What is remembered of headers goes on deed by deed. -/
theorem headings_append (n h : Nat) (first second : List Deed) :
    headings n h (first ++ second) = second.foldl (Deed.heading n h) (headings n h first) :=
  List.foldl_append

/-- The header that counts next is the last one that was sent. -/
theorem headings_fst (n h : Nat) (deeds : List Deed) :
    (headings n h deeds).1 = (deeds.filterMap (Deed.sent? h)).getLast? := by
  induction deeds using List.reverseRecOn with
  | nil => rfl
  | append_singleton deeds deed ih =>
      rw [headings_append, List.filterMap_append, List.getLast?_append, ← ih]
      rcases deed with ⟨m, _ | _ | ⟨i, w⟩ | _⟩ | _ | ⟨s, frame⟩ | _ | _ | _ <;> try rfl
      · simp only [List.foldl_cons, List.foldl_nil, Deed.heading]
        split <;> rfl
      · simp only [List.foldl_cons, List.foldl_nil, Deed.heading]
        split
        · next same => simp [Deed.sent?, same]
        · next other => simp [Deed.sent?, other]

/-- Deeds among which a worker takes no request leave the header under which it publishes. -/
theorem headings_of_untaken (n h : Nat) (deeds : List Deed) {added : List Deed}
    (untaken : ∀ i w, .courier n (.took i w) ∈ added → i.legible = false) :
    (headings n h (deeds ++ added)).2 = (headings n h deeds).2 := by
  rw [headings_append]
  generalize headings n h deeds = state
  induction added generalizing state with
  | nil => rfl
  | cons deed added ih =>
      rw [List.foldl_cons, ih fun i w among => untaken i w (List.mem_cons_of_mem _ among)]
      obtain ⟨last, current⟩ := state
      rcases deed with ⟨m, _ | _ | ⟨i, w⟩ | _⟩ | _ | ⟨s, frame⟩ | _ | _ | _ <;> try rfl
      · rw [Deed.heading]
        split
        · next own =>
            obtain ⟨rfl, legible⟩ := own
            rw [untaken i w List.mem_cons_self] at legible
            cases legible
        · rfl
      · rw [Deed.heading]
        split <;> rfl

/-! ## Turns -/

namespace Courier

/-- What a courier is about to publish goes out under the header that its relay has, and a courier that has a thing to
do is connected. -/
structure Headed (c : Courier) : Prop where
  doing : ∀ header event, .publish header event ∈ c.doing → header = c.worker.relay.parent
  tied : c.stage = .new ∨ (∃ result, c.stage = .ended result) ∨ ∃ h, c.worker.header.binding? = some h

variable {c : Courier} {s : Session} {done : Courier × Session × List Note}

/-- A new worker has taken no header. -/
theorem headed_fresh : fresh.Headed := by
  refine ⟨fun header event among => ?_, .inl rfl⟩
  cases among

/-- Every turn keeps a worker's header in step with what it took. -/
theorem Turned.headed (turned : Turned c s done) (headed : c.Headed) (regular : c.Regular) : done.1.Headed := by
  -- Where the worker and what is to be done are kept, only the stage is to be looked at.
  have later {c' : Courier} (worker : c'.worker = c.worker) (doing : c'.doing ⊆ c.doing)
      (tied : c'.stage = .new ∨ (∃ result, c'.stage = .ended result) ∨ ∃ h, c.worker.header.binding? = some h) :
      c'.Headed :=
    ⟨fun header event among => worker ▸ headed.doing header event (doing among), worker ▸ tied⟩
  have on (stage : c.stage ≠ .new) (going : ∀ result, c.stage ≠ .ended result) :
      ∃ h, c.worker.header.binding? = some h :=
    (headed.tied.resolve_left stage).resolve_left fun ⟨result, ended⟩ => going result ended
  have same := List.Subset.refl c.doing
  cases turned with
  | still => exact headed
  | embarked new connected =>
      obtain ⟨q, h, -, -, rfl⟩ := Worker.connect_eq_ok connected
      have nothing : c.doing = [] := regular.idle (by simp [new])
      exact ⟨fun header event among => by simp [nothing] at among, .inr (.inr ⟨h, rfl⟩)⟩
  | failed early | declined greeting received | refused dialling | finished closing deaf =>
      exact later rfl same (.inr (.inl ⟨_, rfl⟩))
  | greeted stage received | reached stage | acknowledged stage sent | unheard stage unsent
    | closed stage free waits =>
      exact later rfl same (.inr (.inr (on (by simp [stage]) (by simp [stage]))))
  | heard v reading | lost reading | fetched listening received | gone listening received =>
      exact later rfl same headed.tied
  | @accepted i inbox written relaying free waits =>
      obtain ⟨next, -, -, taken⟩ := accept_eq { c with inbox } s.hub written i
      rw [taken]
      refine ⟨fun header event among => ?_, .inr (.inr (on (by simp [relaying]) (by simp [relaying])))⟩
      simp only [Relay.runWith_append, Relay.runWith_asHeaders, Relay.runWith_cons, Relay.runWith_nil, List.nil_append,
        List.append_nil] at among ⊢
      exact Relay.parent_of_publish among
  | acted does => exact later rfl (does ▸ List.subset_cons_self ..) headed.tied

/-- A turn in which the relay does something does nothing else. -/
theorem Turned.acts (turned : Turned c s done) {output : Relay.Output} (did : .did output ∈ done.2.2) :
    done.2.2 = [.did output] ∧ output ∈ c.doing ∧ done.1.worker = c.worker := by
  cases turned with
  | @accepted i inbox written relaying free waits =>
      obtain ⟨next, -, -, taken⟩ := accept_eq { c with inbox } s.hub written i
      rw [taken] at did
      rcases List.mem_append.mp did with got | took
      · obtain ⟨f, -, same⟩ := List.mem_map.mp got
        cases same
      · obtain ⟨p, -, same⟩ := List.mem_map.mp took
        cases same
  | acted does =>
      cases List.mem_singleton.mp did
      exact ⟨rfl, does ▸ List.mem_cons_self, rfl⟩
  | _ => simp at did

/-- The relay reads no headers in a turn, or all that it was given by the end of it, and what waited is among these. -/
theorem Turned.reads (turned : Turned c s done) (plain : ∀ i, .input i ∈ c.inbox → i.header? = none)
    {given read : List Frame} (fresh : c.stage = .new → given = []) (reads : c.worker.relay.HasRead given read) :
    ((∀ i w, .took i w ∈ done.2.2 → i.legible = false) ∧
        done.1.worker.relay.HasRead (given ++ headersOf (inputsOf done.2.2)) read) ∨
      ∃ (first : List Note) (i : Relay.Input) (w : Except Error Unit), done.2.2 = first ++ [.took i w] ∧
        (∀ j v, .took j v ∈ first → j.legible = false) ∧ i.legible = true ∧
        headersOf (inputsOf done.2.2) = s.hub.waiting c.worker.header ∧
        done.1.worker.sockets = c.worker.sockets ∧ done.1.worker.relay.HasRead (given ++ headersOf (inputsOf done.2.2))
          (given ++ headersOf (inputsOf done.2.2)) := by
  have still {c' : Courier} (worker : c'.worker = c.worker) :
      c'.worker.relay.HasRead (given ++ headersOf (inputsOf [])) read := by
    rw [worker, show headersOf (inputsOf []) = [] from rfl, List.append_nil]
    exact reads
  cases turned with
  | embarked new connected =>
      obtain ⟨q, h, -, -, rfl⟩ := Worker.connect_eq_ok connected
      obtain rfl := fresh new
      obtain ⟨rfl, -⟩ := List.append_eq_nil_iff.mp reads.given.symm
      exact .inl ⟨by simp, rfl, rfl⟩
  | @accepted i inbox written relaying free waits =>
      obtain ⟨next, -, -, taken⟩ := accept_eq { c with inbox } s.hub written i
      have noHeader := plain i (waits ▸ List.mem_cons_self)
      rw [taken]
      simp only [Relay.runWith_append, Relay.runWith_asHeaders, Relay.runWith_cons, Relay.runWith_nil]
      have all (legible : i.legible = true) : headersFor { c with inbox } s.hub i = s.hub.waiting c.worker.header := by
        cases i <;> first | rfl | cases legible
      generalize headersFor { c with inbox } s.hub i = headers at all ⊢
      have inputs : headersOf (inputsOf (headers.map (Note.got c.worker.header.binding?) ++
          (asHeaders headers ++ [(i, written)]).map fun p => Note.took p.1 p.2)) = headers := by
        rw [inputsOf_append, inputsOf_got, inputsOf_took, List.nil_append, headersOf_append, headersOf_asHeaders]
        simp [headersOf, noHeader]
      have more : ({ c.worker.relay with headers := c.worker.relay.headers ++ headers } : Relay).HasRead
          (given ++ headers) read := ⟨by rw [reads.given, List.append_assoc], reads.parent⟩
      have untaken (j : Relay.Input) (v : Except Error Unit) (among : Note.took j v ∈
          headers.map (Note.got c.worker.header.binding?) ++ (asHeaders headers).map fun p => Note.took p.1 p.2) :
          j.legible = false := by
        rcases List.mem_append.mp among with got | took
        · obtain ⟨f, -, same⟩ := List.mem_map.mp got
          cases same
        · obtain ⟨p, member, same⟩ := List.mem_map.mp took
          obtain ⟨f, -, rfl⟩ := List.mem_map.mp member
          cases same
          rfl
      rw [inputs]
      cases legible : i.legible with
      | false =>
          refine .inl ⟨fun j v among => ?_, more.other written noHeader legible⟩
          rw [List.map_append, ← List.append_assoc] at among
          rcases List.mem_append.mp among with before | last
          · exact untaken j v before
          · cases List.mem_singleton.mp last
            exact legible
      | true =>
          refine .inr ⟨_, i, written, ?_, untaken, legible, all legible, rfl, more.request written legible⟩
          rw [List.map_append, ← List.append_assoc]
          rfl
  | acted does => exact .inl ⟨by simp, still rfl⟩
  | greeted stage received | declined stage received | fetched listening received | heard v reading | lost reading =>
      exact .inl ⟨by simp, still rfl⟩
  | still | failed early | refused dialling | reached dialling | acknowledged connected sent | unheard connected unsent
    | gone listening received | closed relaying free waits | finished closing deaf =>
      exact .inl ⟨by simp, still rfl⟩

end Courier

/-! ## Bridges -/

namespace Bridge

variable {σ : Type} {out : Outside σ} {b : Bridge σ} {during : Schedule σ}

/-- Every worker's header is in step with what it took. -/
theorem Reached.headed {untouched : Bridge σ → Nat → Prop} (reached : Reached out (Allowed untouched) b) :
    ∀ c ∈ b.couriers, c.Headed :=
  reached.couriers Courier.headed_fresh fun _ _ _ turned regular headed => turned.headed headed regular

/-- The relay of a worker has read the headers that were sent by when it last took a request. -/
def Reads (b : Bridge σ) : Prop :=
  ∀ n c h, b.couriers[n]? = some c → c.worker.header.binding? = some h →
    ∃ read, c.worker.relay.HasRead (headersOf (inputsOf (b.notesOf n))) read ∧ (headings n h b.deeds).2 = read.getLast?

/-- What is neither a worker's doing nor a new worker leaves what relays have read. -/
theorem Reads.of_same {next : Bridge σ} (reads : b.Reads) (couriers : next.couriers = b.couriers) {added : List Deed}
    (deeds : next.deeds = b.deeds ++ added) (own : ∀ n note, .courier n note ∉ added) : next.Reads := by
  intro n c h found tied
  obtain ⟨read, given, last⟩ := reads n c h (couriers ▸ found) tied
  refine ⟨read, ?_, ?_⟩
  · rw [notesOf, deeds, List.filterMap_append, note_of_others own, List.append_nil]
    exact given
  · rw [deeds, headings_of_untaken n h b.deeds fun i w among => absurd among (own n _)]
    exact last

/-- What a worker has read by a turn of its own. -/
theorem Reads.own (reads : b.Reads) (sound : b.Sound) (conserved : b.Conserved) (chronicled : b.Chronicled) {n : Nat}
    {c : Courier} (found : b.couriers[n]? = some c)
    (apart : ∀ q, c.Holds q → b.gotAt q = (b.notesOf n).filterMap (Note.got? q))
    {done : Courier × Session × List Note} (turned : Courier.Turned c b.session done) {h : Nat}
    (tied : done.1.worker.header.binding? = some h) :
    ∃ read, done.1.worker.relay.HasRead (headersOf (inputsOf (b.notesOf n ++ done.2.2))) read ∧
      (headings n h (b.deeds ++ done.2.2.map (Deed.courier n))).2 = read.getLast? := by
  have chronicle := chronicled.couriers n c found
  -- A new worker has read nothing; any other one is connected where it was.
  obtain ⟨read, before, last⟩ : ∃ read, c.worker.relay.HasRead (headersOf (inputsOf (b.notesOf n))) read ∧
      (headings n h b.deeds).2 = read.getLast? := by
    by_cases new : c.stage = .new
    · have none := chronicle.silent (.inl new)
      refine ⟨[], ?_, ?_⟩
      · rw [chronicle.relay, none]
        exact ⟨rfl, rfl⟩
      · have untaken (i : Relay.Input) (w : Except Error Unit) (among : .courier n (.took i w) ∈ b.deeds) :
            i.legible = false := by
          have noted := mem_notesOf.mpr among
          rw [none] at noted
          cases noted
        exact headings_of_untaken n h [] untaken
    · have same := turned.sockets.resolve_right fun embarked => new embarked.1
      simp only [Worker.sockets, Prod.mk.injEq] at same
      exact reads n c h found (same.2.1 ▸ tied)
  have after := turned.reads chronicle.inbox (fun new => by rw [chronicle.silent (.inl new)]; rfl) before
  rw [inputsOf_append, headersOf_append]
  rcases after with ⟨untaken, given⟩ | ⟨first, i, w, notes, -, legible, waited, same, given⟩
  · refine ⟨read, given, ?_⟩
    rw [headings_of_untaken n h b.deeds fun i w among => ?_]
    · exact last
    · obtain ⟨note, member, same⟩ := List.mem_map.mp among
      cases same
      exact untaken i w member
  · refine ⟨_, given, ?_⟩
    have holds : c.worker.header.binding? = some h := by
      simp only [Worker.sockets, Prod.mk.injEq] at same
      exact same.2.1 ▸ tied
    have waiting : b.session.hub.waiting c.worker.header = (b.session.hub.channelsOf h).toPeers := by
      rcases sound.couriers c (List.mem_of_getElem? found) with free | ⟨q, h', atPlace, -⟩
      · simp only [Worker.sockets, Prod.mk.injEq] at free
        rw [free.2.1] at holds
        cases holds
      · rw [atPlace.header] at holds ⊢
        cases holds
        rfl
    have own : b.controlBindings h := .inr (.inr ⟨c, List.mem_of_getElem? found, .inr holds⟩)
    have taken : headersOf (inputsOf (b.notesOf n)) ++ b.session.hub.waiting c.worker.header = b.sentAt h := by
      rw [waiting, ← chronicle.headers h holds, ← apart h (.inr holds)]
      exact (conserved.sent h own).symm
    rw [waited, taken, notes, List.map_append, ← List.append_assoc, headings_append, List.map_cons, List.map_nil,
      List.foldl_cons, List.foldl_nil, Deed.heading.eq_def]
    simp only [legible, and_self, if_true]
    rw [headings_fst, List.filterMap_append, sent_of_courier, List.append_nil, sentAt]

/-- Every turn keeps what relays have read. -/
theorem Reads.turn (reads : b.Reads) (sound : b.Sound) (conserved : b.Conserved) (chronicled : b.Chronicled)
    (apart : ∀ n c q, b.couriers[n]? = some c → c.Holds q → b.gotAt q = (b.notesOf n).filterMap (Note.got? q))
    (n : Nat) (turn : Turn) : (b.happen (.turn n turn)).Reads := by
  rw [happen]
  cases found : b.couriers[n]? with
  | none => exact reads
  | some c =>
      have turned := c.take_cases b.session turn
      simp only
      generalize c.take b.session turn = done at turned ⊢
      intro m d h atM tied
      rw [notesOf, List.filterMap_append, note_of_courier]
      rw [List.getElem?_set] at atM
      split at atM
      · next same =>
          subst same
          split at atM
          · cases atM
            rw [if_pos rfl]
            exact reads.own sound conserved chronicled found (fun q => apart n c q found) turned tied
          · cases atM
      · next other =>
          rw [if_neg other, List.append_nil]
          obtain ⟨read, given, last⟩ := reads m d h atM tied
          refine ⟨read, given, ?_⟩
          rw [headings_of_untaken m h b.deeds fun i w among => ?_]
          · exact last
          · obtain ⟨note, -, same⟩ := List.mem_map.mp among
            cases same
            exact absurd rfl other

/-- Unless a wait has failed, a worker's header is the last one that its own session had sent. -/
theorem Reached.reads (reached : Reached out (Allowed controlBindings) b) (prompt : b.Prompt) : b.Reads := by
  refine reached.induct (P := fun b => b.Prompt → b.Reads) (fun s created o _ n c h found => ?_)
    (fun b next reached reads step prompt => ?_) prompt
  · simp [ofSession] at found
  · have before := prompt.of_deeds step.deeds
    have reads := reads before
    cases step.touched with
    | turn allowed =>
        exact reads.turn reached.sound reached.conserved reached.chronicled
          (fun n c q found => reached.gotAt_eq before found) _ _
    | spawn idle =>
        intro n c h found tied
        rcases Nat.lt_or_ge n b.couriers.length with inside | new
        · rw [Bridge.spawn, List.getElem?_append_left inside] at found
          exact reads n c h found tied
        · rw [Bridge.spawn, List.getElem?_append_right new] at found
          rw [List.mem_singleton.mp (List.mem_of_getElem? found)] at tied
          cases tied
    | none couriers added deeds own => exact reads.of_same couriers deeds own

/-- An element of a row is in the front of it or in the rest. -/
theorem split_append {α : Type} {front rest before after : List α} {x : α}
    (split : front ++ rest = before ++ x :: after) :
    (∃ more, front = before ++ x :: more) ∨ ∃ more, before = front ++ more ∧ rest = more ++ x :: after := by
  rcases List.append_eq_append_iff.mp split with ⟨more, rfl, same⟩ | ⟨more, rfl, same⟩
  · exact .inr ⟨more, rfl, same⟩
  · cases more with
    | nil => exact .inr ⟨[], by simp, same.symm⟩
    | cons y more =>
        cases same
        exact .inl ⟨more, rfl⟩

/-- Every event that a worker has published went out under the header that had been sent last to that worker when it
last took a request. -/
def Publishes (b : Bridge σ) : Prop :=
  ∀ before n header event after, b.deeds = before ++ .courier n (.did (.publish header event)) :: after →
    ∃ c h, b.couriers[n]? = some c ∧ c.worker.header.binding? = some h ∧ header = headerBy n h before

/-- Unless a wait has failed, every event is published under such a header. -/
theorem Reached.publishes (reached : Reached out (Allowed controlBindings) b) (prompt : b.Prompt) : b.Publishes := by
  refine reached.induct (P := fun b => b.Prompt → b.Publishes)
    (fun s created o _ before n header event after split => ?_)
    (fun b next reached publishes step prompt => ?_) prompt
  · simp [ofSession] at split
  · have prior := prompt.of_deeds step.deeds
    have publishes := publishes prior
    cases step.touched with
    | @turn m turn allowed =>
        rw [Bridge.happen]
        cases found : b.couriers[m]? with
        | none => exact publishes
        | some c =>
            have member := List.mem_of_getElem? found
            have inside := (List.getElem?_eq_some_iff.mp found).1
            have headed := reached.headed c member
            have regular := reached.attended.regular c member
            have reads := reached.reads prior m c
            have silent := (reached.chronicled.couriers m c found).silent
            have turned := c.take_cases b.session turn
            simp only
            generalize c.take b.session turn = done at turned ⊢
            intro before n header event after split
            rcases split_append split with ⟨more, earlier⟩ | ⟨more, rfl, new⟩
            · obtain ⟨d, h, atN, tied, same⟩ := publishes before n header event more earlier
              rcases eq_or_ne m n with rfl | other
              · cases found.symm.trans atN
                refine ⟨done.1, h, List.getElem?_set_self inside, ?_, same⟩
                rcases turned.sockets with kept | ⟨new, -⟩
                · simp only [Worker.sockets, Prod.mk.injEq] at kept
                  exact kept.2.1 ▸ tied
                · -- Nothing was done by a worker that still looks for its endpoints.
                  have noted : .did (.publish header event) ∈ b.notesOf m :=
                    mem_notesOf.mpr (earlier ▸ List.mem_append_right _ List.mem_cons_self)
                  rw [silent (.inl new)] at noted
                  cases noted
              · exact ⟨d, h, by rw [List.getElem?_set_ne other]; exact atN, tied, same⟩
            · obtain ⟨note, among, same⟩ := List.mem_map.mp (new ▸ List.mem_append_right more List.mem_cons_self)
              cases same
              obtain ⟨alone, does, worker⟩ := turned.acts among
              have relaying : c.stage = .relaying := by
                by_contra other
                rw [regular.idle other] at does
                cases does
              obtain ⟨h, tied⟩ := (headed.tied.resolve_left (by simp [relaying])).resolve_left (by simp [relaying])
              obtain ⟨read, given, last⟩ := reads h found tied
              have first : more = [] := by
                rw [alone] at new
                have short := congrArg List.length new
                rw [List.length_append, List.length_cons, List.map_singleton, List.length_singleton] at short
                exact List.length_eq_zero_iff.mp (by omega)
              refine ⟨done.1, h, List.getElem?_set_self inside, worker ▸ tied, ?_⟩
              rw [first, List.append_nil, headerBy, last, ← given.parent]
              exact headed.doing header event does
    | spawn idle =>
        intro before n header event after split
        obtain ⟨c, h, found, tied, same⟩ := publishes before n header event after split
        refine ⟨c, h, ?_, tied, same⟩
        rw [Bridge.spawn, List.getElem?_append_left (List.getElem?_eq_some_iff.mp found).1]
        exact found
    | none couriers added deeds own =>
        intro before n header event after split
        rw [deeds] at split
        rcases split_append split with ⟨more, earlier⟩ | ⟨more, -, new⟩
        · rw [couriers]
          exact publishes before n header event more earlier
        · exact absurd (new ▸ List.mem_append_right _ List.mem_cons_self) (own n _)

/-! ## Events and headers -/

/-- A header comes through a frame as it is. -/
theorem headerOf_encode {header : Json} (exact : header.Exact Json.depthLimit) :
    Relay.headerOf (Json.encode header) = header := by
  rw [Relay.headerOf, Json.decode_encode_of_exact exact]

/-- As long as every worker that was waited for had ended by then: every event goes out under the header that had been
sent last to its worker when that last took a request, and under null if it took none before. All that was sent there
are headers of calls: a call that passes a message on sends its own header right before the message, any other call
sends none, and what reaches a worker comes through a binding that no other worker is connected to, so a header of an
earlier session never does. -/
theorem events_headed (reachable : Reachable out (Allowed controlBindings) b) (prompt : b.Prompt) :
    b.Publishes ∧
      (∀ (n : Nat) (c : Courier) h, b.couriers[n]? = some c → c.worker.header.binding? = some h →
        (∀ s frame, (s, frame) ∈ b.sendings → s.binding? = some h → s = some (.bound headerEndpoint h)) ∧
          ∀ (m : Nat) (d : Courier), b.couriers[m]? = some d → d.worker.header.binding? = some h → m = n) ∧
      ∀ header message (during : Schedule σ), header.Exact Json.depthLimit → message.WellFormed →
        Permits (Allowed controlBindings) during →
          (∃ asking, Asking asking ∧ (b.process out header message during).2.sendings =
            b.sendings ++ asking ++ (b.attempted out message during).passing out header message) ∧
          Relay.headerOf (Json.encode header) = header := by
  have reached := reachable.reached
  refine ⟨reached.publishes prompt, fun n c h found tied => ⟨fun s frame sent there => ?_, fun m d atM tied' => ?_⟩,
    fun header message during exact wellFormed permits => ⟨?_, headerOf_encode exact⟩⟩
  · obtain ⟨deed, among, told⟩ := List.mem_filterMap.mp sent
    cases deed <;> cases told
    exact reached.socket_of_header (List.mem_of_getElem? found) tied among there
  · exact (reached.apart prompt).distinct m n d c atM found h (.inr tied') (.inr tied)
  · obtain ⟨asking, shape, -, told⟩ := sendings_attempted out reachable.settled message during
    exact ⟨asking, shape, by rw [sendings_process reachable permits header wellFormed, told]⟩

/-- An event is read and published before the request is read, which was sent by then, behind its header. -/
def hasty : Schedule Unit
  | .passed =>
    [.turn 0 (.hear (.message stoppedEvent)), .turn 0 (.relay (.ok ())), .turn 0 .act, .turn 0 .act, .turn 0 .fetch,
      .turn 0 (.relay (.ok ())), .turn 0 .act, .turn 0 (.hear (.message stoppedEvent)), .turn 0 (.relay (.ok ())),
      .turn 0 .act, .turn 0 .act]
  | _ => []

/-- The header of a request. -/
def sampleHeader : Json :=
  .obj [("msg_id", .str "1")]

/-- The running sample after a request in the course of which two events are published. -/
def hastySample : Bridge Unit :=
  runningSample.next Session.obliging (.process sampleHeader (Session.bareRequest 3 "next") hasty)

theorem reachable_hastySample : Reachable Session.obliging (Allowed controlBindings) hastySample := by
  have readable : (Arrival.message stoppedEvent).Readable := Session.readable_of_exact (by decide +kernel)
  refine .move (reachable_runningSample _) _ ⟨by decide +kernel, ?_⟩
  intro p h member
  cases p with
  | passed =>
      simp only [hasty, List.mem_cons, List.not_mem_nil, or_false] at member
      rcases member with rfl | rfl | rfl | rfl | rfl | rfl | rfl | rfl | rfl | rfl | rfl <;>
        first | exact trivial | exact readable
  | _ => cases member

/-- The second of these events goes out under the header of the request. -/
theorem events_headed_hastySample :
    hastySample.deeds.getLast? = some (.courier 0 (.did (.publish sampleHeader stoppedEvent))) ∧
      ∃ (c : Courier) (h : Nat), hastySample.couriers[0]? = some c ∧ c.worker.header.binding? = some h ∧
        sampleHeader = headerBy 0 h hastySample.deeds.dropLast := by
  have last : hastySample.deeds.getLast? = some (.courier 0 (.did (.publish sampleHeader stoppedEvent))) := by
    decide +kernel
  obtain ⟨publishes, -⟩ := events_headed reachable_hastySample (by decide +kernel)
  exact ⟨last, publishes _ 0 sampleHeader stoppedEvent [] (List.dropLast_append_getLast? _ last).symm⟩

/-- The first of these events goes out under null although the call had sent its header and its message before the event
was heard. -/
theorem event_before_request :
    Reachable Session.obliging (Allowed controlBindings) hastySample ∧
      hastySample.deeds.drop 3 =
        [.sent (some (.bound headerEndpoint 2)) (Json.encode sampleHeader),
          .sent (some (.bound requestEndpoint 1)) (Json.encode (Session.bareRequest 3 "next")),
          .courier 0 (.heard (.message stoppedEvent)), .courier 0 (.took (.adapter stoppedEvent) (.ok ())),
          .courier 0 (.did (.observe stoppedEvent)), .courier 0 (.did (.publish .null stoppedEvent))] ++
            hastySample.deeds.drop 9 :=
  ⟨reachable_hastySample, by decide +kernel⟩

end Bridge
end DebugBridge
