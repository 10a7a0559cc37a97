import DebugBridge.Proofs.Bridge.History

/-!
# Workers apart

As long as every worker that was waited for had ended by then, no two workers take frames off one binding
(`Reached.apart`): a start makes bindings of its own, and only the newest worker looks for any. Then what was taken
off a binding is what one worker took (`Reached.gotAt_eq`).
-/

namespace DebugBridge

/-- A worker is connected to a binding of the control side. -/
def Courier.Holds (c : Courier) (q : Nat) : Prop :=
  c.worker.request.binding? = some q ∨ c.worker.header.binding? = some q

/-- Which bindings a worker holds depends on its sockets alone. -/
theorem Courier.holds_of_sockets {c c' : Courier} (same : c'.worker.sockets = c.worker.sockets) {q : Nat} :
    c'.Holds q ↔ c.Holds q := by
  simp only [Worker.sockets, Prod.mk.injEq] at same
  rw [Holds, Holds, same.1, same.2.1]

namespace Courier

variable {c : Courier} {s : Session} {done : Courier × Session × List Note}

/-- What a turn takes, it takes off a binding that the worker is connected to, and a worker that looks for its
endpoints takes nothing. -/
theorem Turned.got (turned : Turned c s done) {q : Nat} {frame : Frame} (got : .got (some q) frame ∈ done.2.2) :
    c.Holds q ∧ done.1.worker.sockets = c.worker.sockets := by
  cases turned with
  | greeted greeting received | declined greeting received | fetched listening received =>
      have same := List.mem_singleton.mp got
      simp only [Note.got.injEq] at same
      exact ⟨.inl same.1.symm, rfl⟩
  | @accepted i inbox written relaying free waits =>
      obtain ⟨next, -, -, taken⟩ := accept_eq { c with inbox } s.hub written i
      rw [taken] at got ⊢
      rcases List.mem_append.mp got with header | input
      · obtain ⟨f, -, same⟩ := List.mem_map.mp header
        simp only [Note.got.injEq] at same
        exact ⟨.inr same.1, rfl⟩
      · obtain ⟨p, -, same⟩ := List.mem_map.mp input
        cases same
  | _ => simp at got

end Courier

namespace Bridge

variable {σ : Type} {out : Outside σ} {untouched : Bridge σ → Nat → Prop} {b : Bridge σ}

/-- Workers that are not at work are not connected where the control sockets are bound, and no two are connected to one
binding. -/
structure Apart (b : Bridge σ) : Prop where
  freed : ∀ n (c : Courier), b.couriers[n]? = some c →
    n + 1 = b.couriers.length ∧ b.session.worker ≠ none ∨ ∀ q, c.Holds q → ¬ b.Binds q
  distinct : ∀ (m n : Nat) (c d : Courier), b.couriers[m]? = some c → b.couriers[n]? = some d →
    ∀ q, c.Holds q → d.Holds q → m = n

/-- Where neither the couriers nor whether there is a worker has changed, workers stay apart unless a socket was bound
where one of them is. -/
theorem Apart.of_same {next : Bridge σ} (apart : b.Apart) (couriers : next.couriers = b.couriers)
    (worker : next.session.worker = b.session.worker)
    (binds : ∀ q, next.Binds q → b.Binds q ∨ ∀ c ∈ b.couriers, ¬ c.Holds q) : next.Apart := by
  refine ⟨fun n c found => ?_, fun m n c d first second => ?_⟩
  · rw [couriers] at found
    rw [couriers, worker]
    refine (apart.freed n c found).imp_right fun free q holds bound => ?_
    rcases binds q bound with earlier | none
    · exact free q holds earlier
    · exact none c (List.mem_of_getElem? found) holds
  · rw [couriers] at first second
    exact apart.distinct m n c d first second

/-- Which bindings the control side has is its own. -/
theorem Binds.of_control {next : Bridge σ} (control : next.session.control = b.session.control) {q : Nat} :
    next.Binds q ↔ b.Binds q := by
  rw [Binds, Binds, Session.request_of_control control, Session.header_of_control control]

/-- A worker is connected to bindings that there are. -/
theorem Sound.holds_lt (sound : b.Sound) {c : Courier} (member : c ∈ b.couriers) {q : Nat} (holds : c.Holds q) :
    q < b.session.hub.channels.length := by
  have own : b.controlBindings q := .inr (.inr ⟨c, member, holds⟩)
  exact (sound.reserved_of_control own).elim Hub.Reserved.inRange Hub.Reserved.inRange

/-- Only the newest worker takes turns, and what it finds is held by no other. -/
theorem Apart.turn (apart : b.Apart) (sound : b.Sound) (attended : b.Attended) (prompt : b.Prompt) (n : Nat)
    (turn : Turn) : (b.happen (.turn n turn)).Apart := by
  by_cases inert : ∀ c, b.couriers[n]? = some c → ∃ result, c.stage = .ended result
  · rw [turn_of_ended fun c found => ⟨attended.regular c (List.mem_of_getElem? found), inert c found⟩]
    exact apart
  · push Not at inert
    obtain ⟨c, found, active⟩ := inert
    obtain ⟨newest, working⟩ := (attended.ended prompt n c found).resolve_right
      fun ⟨result, ended⟩ => active result ended
    have control := b.control_happen (.turn n turn)
    have still : (b.happen (.turn n turn)).session.worker = b.session.worker := Session.worker_of_control control
    have binds {q : Nat} : (b.happen (.turn n turn)).Binds q ↔ b.Binds q := Binds.of_control control
    have couriers : (b.happen (.turn n turn)).couriers = b.couriers.set n (c.take b.session turn).1 := by
      rw [happen, found]
    have turned := c.take_cases b.session turn
    generalize b.happen (.turn n turn) = next at still binds couriers ⊢
    generalize c.take b.session turn = done at turned couriers
    have held {q : Nat} (holds : done.1.Holds q) : c.Holds q ∨ b.Binds q := by
      rcases turned.sockets with same | ⟨-, connected⟩
      · exact .inl ((Courier.holds_of_sockets same).mp holds)
      · exact .inr (sound.binds_of_connect connected holds)
    have other {m : Nat} {d : Courier} (atM : b.couriers[m]? = some d) (apartFrom : m ≠ n) {q : Nat}
        (holds : d.Holds q) :
        ¬ c.Holds q ∧ ¬ b.Binds q := by
      refine ⟨fun own => apartFrom (apart.distinct m n d c atM found q holds own), ?_⟩
      have inside := (List.getElem?_eq_some_iff.mp atM).1
      exact ((apart.freed m d atM).resolve_left fun last => apartFrom (by omega)) q holds
    have at_ {m : Nat} {d : Courier} (atM : next.couriers[m]? = some d) :
        m = n ∧ d = done.1 ∨ m ≠ n ∧ b.couriers[m]? = some d := by
      rw [couriers, List.getElem?_set] at atM
      split at atM
      · next same =>
          split at atM
          · exact .inl ⟨same.symm, (Option.some.inj atM).symm⟩
          · cases atM
      · next apartFrom => exact .inr ⟨Ne.symm apartFrom, atM⟩
    refine ⟨fun m d atM => ?_, fun m k d e atM atK q holds holds' => ?_⟩
    · rw [still, couriers, List.length_set]
      rcases at_ atM with ⟨rfl, -⟩ | ⟨apartFrom, atM⟩
      · exact .inl ⟨newest, working⟩
      · exact .inr fun q holds bound => (other atM apartFrom holds).2 (binds.mp bound)
    · rcases at_ atM with ⟨rfl, rfl⟩ | ⟨apartM, atM⟩ <;> rcases at_ atK with ⟨rfl, rfl⟩ | ⟨apartK, atK⟩
      · rfl
      · obtain ⟨notHeld, unbound⟩ := other atK apartK holds'
        exact ((held holds).elim notHeld unbound).elim
      · obtain ⟨notHeld, unbound⟩ := other atM apartM holds
        exact ((held holds').elim notHeld unbound).elim
      · exact apart.distinct m k d e atM atK q holds holds'

/-- A new worker is connected to nothing. -/
theorem Apart.spawn (apart : b.Apart) (idle : b.session.worker = none) : b.spawn.Apart := by
  have nothing (q : Nat) : ¬ Courier.fresh.Holds q := by
    rintro (tied | tied) <;> cases tied
  have at_ {m : Nat} {d : Courier} (atM : (b.couriers ++ [Courier.fresh])[m]? = some d) :
      b.couriers[m]? = some d ∨ d = .fresh := by
    rcases Nat.lt_or_ge m b.couriers.length with inside | new
    · rw [List.getElem?_append_left inside] at atM
      exact .inl atM
    · rw [List.getElem?_append_right new] at atM
      exact .inr (List.mem_singleton.mp (List.mem_of_getElem? atM))
  refine ⟨fun n c found => .inr ?_, fun m n c d first second q holds holds' => ?_⟩
  · rcases at_ found with old | rfl
    · exact (apart.freed n c old).resolve_left fun working => working.2 idle
    · exact fun q holds => (nothing q holds).elim
  · rcases at_ first with old | rfl
    · rcases at_ second with old' | rfl
      · exact apart.distinct m n c d old old' q holds holds'
      · exact (nothing q holds').elim
    · exact (nothing q holds).elim

/-- No step gives a binding to two workers. -/
theorem Apart.step {next : Bridge σ} (apart : b.Apart) (sound : b.Sound) (attended : b.Attended) (prompt : next.Prompt)
    (step : Step out (Allowed untouched) b next) : next.Apart := by
  have same {next : Bridge σ} (couriers : next.couriers = b.couriers)
      (worker : next.session.worker = b.session.worker) (request : next.session.request = b.session.request)
      (header : next.session.header = b.session.header) : next.Apart :=
    apart.of_same couriers worker fun q bound => .inl (by rwa [Binds, request, header] at bound)
  -- A new binding is nobody's.
  have fresh {q : Nat} (new : q = b.session.hub.channels.length) : ∀ c ∈ b.couriers, ¬ c.Holds q :=
    fun c member holds => by
      have := sound.holds_lt member holds
      omega
  have earlier := prompt.of_deeds step.deeds
  cases step with
  | @happen h allowed =>
      cases h with
      | turn n turn => exact apart.turn sound attended earlier n turn
      | outside change | elsewhere others => exact same rfl rfl rfl rfl
  | bindRequest bound =>
      obtain ⟨hub, -, rfl⟩ := Session.bindRequest_eq_ok bound
      refine apart.of_same rfl rfl fun q bound => ?_
      rcases bound with request | header
      · cases request
        exact .inr (fresh rfl)
      · exact .inl (.inr header)
  | bindHeader bound =>
      obtain ⟨hub, -, rfl⟩ := Session.bindHeader_eq_ok bound
      refine apart.of_same rfl rfl fun q bound => ?_
      rcases bound with request | header
      · exact .inl (.inl request)
      · cases header
        exact .inr (fresh rfl)
  | freeRequest =>
      refine apart.of_same rfl rfl fun q bound => .inl ?_
      rcases bound with request | header
      · rw [sound.freeRequest] at request
        cases request
      · exact .inr header
  | freeHeader =>
      refine apart.of_same rfl rfl fun q bound => .inl ?_
      rcases bound with request | header
      · exact .inl request
      · rw [sound.freeHeader] at header
        cases header
  | send own sent =>
      obtain ⟨hub, -, rfl⟩ := send_eq_ok sent
      exact same rfl rfl rfl rfl
  | spawn idle => exact apart.spawn idle
  | wait request header =>
      rw [Bridge.wait]
      split
      · refine ⟨fun n c found => .inr fun q _ bound => ?_, apart.distinct⟩
        have tied : b.Binds q := bound
        rw [Binds, request, header] at tied
        rcases tied with tied | tied <;> cases tied
      · exact apart
  | outside outside | launch | take own waits | remember breakpoints | forgetStopped | forgetKnown =>
      exact same rfl rfl rfl rfl

/-- Workers stay apart as long as each that was waited for had ended by then. -/
theorem Reached.apart (reached : Reached out (Allowed untouched) b) (prompt : b.Prompt) : b.Apart := by
  refine reached.induct (P := fun b => b.Prompt → b.Apart) (fun s created o _ => ?_)
    (fun b next reached apart step prompt => ?_) prompt
  · exact ⟨fun n c found => by simp [ofSession] at found, fun m n c d found => by simp [ofSession] at found⟩
  · exact (apart (prompt.of_deeds step.deeds)).step reached.sound reached.attended prompt step

/-! ## What was taken off a binding -/

/-- What a worker took, it took off a binding that it is connected to. -/
theorem Reached.holds_of_got (reached : Reached out (Allowed untouched) b) {n q : Nat} {frame : Frame}
    (got : .courier n (.got (some q) frame) ∈ b.deeds) : ∃ c, b.couriers[n]? = some c ∧ c.Holds q := by
  refine reached.induct (P := fun b => ∀ n q frame, .courier n (.got (some q) frame) ∈ b.deeds →
      ∃ c, b.couriers[n]? = some c ∧ c.Holds q) (fun s created o n q frame got => by cases got)
    (fun b next reached held step n q frame got => ?_) n q frame got
  cases step.touched with
  | @turn m turn allowed =>
      rw [Bridge.happen] at got ⊢
      cases found : b.couriers[m]? with
      | none =>
          rw [found] at got
          exact held n q frame got
      | some c =>
          rw [found] at got
          have inside := (List.getElem?_eq_some_iff.mp found).1
          have turned := c.take_cases b.session turn
          simp only at got ⊢
          generalize c.take b.session turn = done at turned got ⊢
          rcases List.mem_append.mp got with earlier | new
          · obtain ⟨d, atN, holds⟩ := held n q frame earlier
            rcases eq_or_ne m n with rfl | other
            · cases found.symm.trans atN
              refine ⟨done.1, List.getElem?_set_self inside, ?_⟩
              rcases turned.sockets with same | ⟨new, -⟩
              · exact (Courier.holds_of_sockets same).mpr holds
              · -- A worker that still looks for its endpoints has taken nothing.
                have noted : Note.got (some q) frame ∈ b.notesOf m :=
                  List.mem_filterMap.mpr ⟨_, earlier, by simp [Deed.note?]⟩
                rw [(reached.chronicled.couriers m c found).silent (.inl new)] at noted
                cases noted
            · exact ⟨d, by rw [List.getElem?_set_ne other]; exact atN, holds⟩
          · obtain ⟨note, among, same⟩ := List.mem_map.mp new
            cases same
            obtain ⟨holds, sockets⟩ := turned.got among
            exact ⟨done.1, List.getElem?_set_self inside, (Courier.holds_of_sockets sockets).mpr holds⟩
  | spawn idle =>
      obtain ⟨c, found, holds⟩ := held n q frame got
      refine ⟨c, ?_, holds⟩
      rw [Bridge.spawn, List.getElem?_append_left (List.getElem?_eq_some_iff.mp found).1]
      exact found
  | none couriers added deeds own =>
      rw [couriers]
      rw [deeds] at got
      exact held n q frame ((List.mem_append.mp got).resolve_right (own n _))

/-- What was taken off a binding that a worker is connected to, that worker took, as long as workers are apart. -/
theorem Reached.gotAt_eq (reached : Reached out (Allowed untouched) b) (prompt : b.Prompt) {n : Nat} {c : Courier}
    (found : b.couriers[n]? = some c) {q : Nat} (holds : c.Holds q) :
    b.gotAt q = (b.notesOf n).filterMap (Note.got? q) := by
  rw [gotAt, notesOf, List.filterMap_filterMap]
  refine List.filterMap_congr fun deed among => ?_
  rcases deed with ⟨m, note⟩ | _ | _ | _ | _ | _ <;> try rfl
  rw [Deed.note?]
  split
  · rfl
  · next other =>
      rcases note with ⟨_ | a, frame⟩ | _ | _ | _ <;> try rfl
      simp only [Deed.got?, Note.got?, Option.bind_none, ite_eq_right_iff]
      rintro rfl
      obtain ⟨d, atM, holds'⟩ := reached.holds_of_got among
      exact absurd ((reached.apart prompt).distinct m n d c atM found a holds' holds) other

/-! ## What is sent over the header socket -/

/-- A binding through which requests pass, now or before. -/
def RequestAt (b : Bridge σ) (q : Nat) : Prop :=
  b.session.request.binding? = some q ∨ (∃ c ∈ b.couriers, c.worker.request.binding? = some q) ∨
    ∃ frame, .sent (some (.bound requestEndpoint q)) frame ∈ b.deeds

/-- A binding through which headers pass, now or before. -/
def HeaderAt (b : Bridge σ) (q : Nat) : Prop :=
  b.session.header.binding? = some q ∨ (∃ c ∈ b.couriers, c.worker.header.binding? = some q) ∨
    ∃ frame, .sent (some (.bound headerEndpoint q)) frame ∈ b.deeds

/-- Requests and headers never pass through the same binding. -/
structure Divided (b : Bridge σ) : Prop where
  apart : ∀ q, b.RequestAt q → ¬ b.HeaderAt q
  sent : ∀ s frame, .sent s frame ∈ b.deeds →
    ∃ q < b.session.hub.channels.length, s = some (.bound requestEndpoint q) ∨ s = some (.bound headerEndpoint q)

/-- Fewer uses of bindings are divided as well. -/
theorem Divided.of_subset {next : Bridge σ} (divided : b.Divided) (requests : ∀ q, next.RequestAt q → b.RequestAt q)
    (headers : ∀ q, next.HeaderAt q → b.HeaderAt q)
    (deeds : ∀ s frame, .sent s frame ∈ next.deeds → .sent s frame ∈ b.deeds)
    (longer : b.session.hub.channels.length ≤ next.session.hub.channels.length) : next.Divided := by
  refine ⟨fun q request header => divided.apart q (requests q request) (headers q header), fun s frame sent => ?_⟩
  obtain ⟨q, inside, bound⟩ := divided.sent s frame (deeds s frame sent)
  exact ⟨q, by omega, bound⟩

/-- A binding over which something passes was begun. -/
theorem Divided.lt (divided : b.Divided) (sound : b.Sound) {q : Nat} (passes : b.RequestAt q ∨ b.HeaderAt q) :
    q < b.session.hub.channels.length := by
  have reserved (own : b.controlBindings q) : q < b.session.hub.channels.length :=
    (sound.reserved_of_control own).elim Hub.Reserved.inRange Hub.Reserved.inRange
  have told {e : Endpoint} {frame : Frame} (sent : .sent (some (.bound e q)) frame ∈ b.deeds) :
      q < b.session.hub.channels.length := by
    obtain ⟨q', inside, same | same⟩ := divided.sent _ _ sent <;> cases same <;> exact inside
  rcases passes with (tied | ⟨c, member, tied⟩ | ⟨frame, sent⟩) | (tied | ⟨c, member, tied⟩ | ⟨frame, sent⟩)
  · exact reserved (.inl tied)
  · exact reserved (.inr (.inr ⟨c, member, .inl tied⟩))
  · exact told sent
  · exact reserved (.inr (.inl tied))
  · exact reserved (.inr (.inr ⟨c, member, .inr tied⟩))
  · exact told sent

/-- A worker finds its endpoints where the control sockets are bound. -/
theorem Divided.turn (divided : b.Divided) (sound : b.Sound) (n : Nat) (turn : Turn) :
    (b.happen (.turn n turn)).Divided := by
  have control := b.control_happen (.turn n turn)
  have request := Session.request_of_control control
  have header := Session.header_of_control control
  rw [happen] at request header ⊢
  cases found : b.couriers[n]? with
  | none => exact divided
  | some c =>
      rw [found] at request header
      have member := List.mem_of_getElem? found
      have turned := c.take_cases b.session turn
      simp only at request header ⊢
      generalize c.take b.session turn = done at turned request header ⊢
      have same (s : Socket) (frame : Frame) (sent : .sent s frame ∈ b.deeds ++ done.2.2.map (Deed.courier n)) :
          .sent s frame ∈ b.deeds := by
        refine (List.mem_append.mp sent).resolve_right fun among => ?_
        obtain ⟨note, -, other⟩ := List.mem_map.mp among
        cases other
      refine divided.of_subset (fun q passes => ?_) (fun q passes => ?_) same turned.moved.length.ge
      · rcases passes with tied | ⟨d, among, tied⟩ | ⟨frame, sent⟩
        · exact .inl (request ▸ tied)
        · rcases List.mem_or_eq_of_mem_set among with earlier | rfl
          · exact .inr (.inl ⟨d, earlier, tied⟩)
          · rcases turned.sockets with kept | ⟨-, connected⟩
            · simp only [Worker.sockets, Prod.mk.injEq] at kept
              exact .inr (.inl ⟨c, member, kept.1 ▸ tied⟩)
            · obtain ⟨q', h, atRequest, -, found⟩ := Worker.connect_eq_ok connected
              rw [found] at tied
              exact .inl (sound.request.binding_of_lookup (atRequest.trans tied))
        · exact .inr (.inr ⟨frame, same _ _ sent⟩)
      · rcases passes with tied | ⟨d, among, tied⟩ | ⟨frame, sent⟩
        · exact .inl (header ▸ tied)
        · rcases List.mem_or_eq_of_mem_set among with earlier | rfl
          · exact .inr (.inl ⟨d, earlier, tied⟩)
          · rcases turned.sockets with kept | ⟨-, connected⟩
            · simp only [Worker.sockets, Prod.mk.injEq] at kept
              exact .inr (.inl ⟨c, member, kept.2.1 ▸ tied⟩)
            · obtain ⟨q', h, -, atHeader, found⟩ := Worker.connect_eq_ok connected
              rw [found] at tied
              exact .inl (sound.header.binding_of_lookup (atHeader.trans tied))
        · exact .inr (.inr ⟨frame, same _ _ sent⟩)

/-- Where sockets and couriers are as they were and no binding is gone, only new deeds count. -/
theorem Divided.of_same {next : Bridge σ} (divided : b.Divided) (request : next.session.request = b.session.request)
    (header : next.session.header = b.session.header) (couriers : next.couriers = b.couriers)
    (deeds : ∀ s frame, .sent s frame ∈ next.deeds → .sent s frame ∈ b.deeds)
    (longer : b.session.hub.channels.length ≤ next.session.hub.channels.length) : next.Divided := by
  refine divided.of_subset (fun q passes => ?_) (fun q passes => ?_) deeds longer
  · rw [RequestAt, request, couriers] at passes
    exact passes.imp_right (Or.imp_right (Exists.imp fun frame => deeds _ frame))
  · rw [HeaderAt, header, couriers] at passes
    exact passes.imp_right (Or.imp_right (Exists.imp fun frame => deeds _ frame))

/-- A new worker has no sockets yet. -/
theorem Divided.spawn (divided : b.Divided) : b.spawn.Divided := by
  refine divided.of_subset (fun q passes => ?_) (fun q passes => ?_) (fun _ _ => id) le_rfl
  all_goals
    rcases passes with tied | ⟨d, among, tied⟩ | sent
    · exact .inl tied
    · rcases List.mem_append.mp among with earlier | new
      · exact .inr (.inl ⟨d, earlier, tied⟩)
      · rw [List.mem_singleton.mp new] at tied
        cases tied
    · exact .inr (.inr sent)

/-- A control socket over which something could be sent is bound to its own endpoint. -/
theorem Fitted.bound_of_send (fitted : b.Fitted) {s : Socket} {frame : Frame} {hub : Hub}
    (own : s = b.session.request ∨ s = b.session.header) (passed : b.session.hub.send s frame = .ok hub) :
    ∃ q, s = some (.bound requestEndpoint q) ∧ b.session.request = s ∨
      s = some (.bound headerEndpoint q) ∧ b.session.header = s := by
  rcases own with rfl | rfl
  · rcases fitted.request with none | ⟨q, bound⟩
    · rw [none] at passed
      cases passed
    · exact ⟨q, .inl ⟨bound, rfl⟩⟩
  · rcases fitted.header with none | ⟨q, bound⟩
    · rw [none] at passed
      cases passed
    · exact ⟨q, .inr ⟨bound, rfl⟩⟩

/-- What is sent over a control socket passes where that socket is bound already. -/
theorem Divided.send (divided : b.Divided) (sound : b.Sound) {s : Socket} {frame : Frame} {hub : Hub} {q : Nat}
    (passed : b.session.hub.send s frame = .ok hub)
    (place : s = some (.bound requestEndpoint q) ∧ b.session.request = s ∨
      s = some (.bound headerEndpoint q) ∧ b.session.header = s) :
    Divided { b with session := { b.session with hub }, deeds := b.deeds ++ [.sent s frame] } := by
  have inside : q < b.session.hub.channels.length := by
    rcases place with ⟨rfl, request⟩ | ⟨rfl, header⟩
    · exact divided.lt sound (.inl (.inl (by rw [request]; rfl)))
    · exact divided.lt sound (.inr (.inl (by rw [header]; rfl)))
  have length := (Hub.moved_send passed).length
  refine ⟨fun a request header => divided.apart a ?_ ?_, fun s' frame' told => ?_⟩
  · rcases request with tied | courier | ⟨f, told⟩
    · exact .inl tied
    · exact .inr (.inl courier)
    · rcases List.mem_append.mp told with earlier | new
      · exact .inr (.inr ⟨f, earlier⟩)
      · cases List.mem_singleton.mp new
        rcases place with ⟨-, request⟩ | ⟨other, -⟩
        · exact .inl (by rw [request]; rfl)
        · simp [requestEndpoint, headerEndpoint, controlEndpoint] at other
  · rcases header with tied | courier | ⟨f, told⟩
    · exact .inl tied
    · exact .inr (.inl courier)
    · rcases List.mem_append.mp told with earlier | new
      · exact .inr (.inr ⟨f, earlier⟩)
      · cases List.mem_singleton.mp new
        rcases place with ⟨other, -⟩ | ⟨-, header⟩
        · simp [requestEndpoint, headerEndpoint, controlEndpoint] at other
        · exact .inl (by rw [header]; rfl)
  · rcases List.mem_append.mp told with earlier | new
    · obtain ⟨a, below, place⟩ := divided.sent s' frame' earlier
      exact ⟨a, by rw [length]; exact below, place⟩
    · cases List.mem_singleton.mp new
      exact ⟨q, by rw [length]; exact inside, place.imp And.left And.left⟩

/-- No step lets requests and headers pass over one binding. -/
theorem Divided.step {next : Bridge σ} (divided : b.Divided) (sound : b.Sound) (fitted : b.Fitted)
    (step : Step out (Allowed untouched) b next) : next.Divided := by
  have told {next : Bridge σ} (deed : Deed) (deeds : next.deeds = b.deeds ++ [deed])
      (own : ∀ s frame, deed ≠ .sent s frame) (s : Socket) (frame : Frame) (sent : .sent s frame ∈ next.deeds) :
      .sent s frame ∈ b.deeds := by
    rw [deeds] at sent
    exact (List.mem_append.mp sent).resolve_right fun new => own s frame (List.mem_singleton.mp new).symm
  cases step with
  | @happen h allowed =>
      cases h with
      | turn n turn => exact divided.turn sound n turn
      | outside change => exact divided.of_same rfl rfl rfl (fun _ _ => id) le_rfl
      | elsewhere others =>
          refine divided.of_same rfl rfl rfl (fun _ _ => id) ?_
          rcases allowed b with still | use
          · rw [Bridge.happen, still]
          · exact use.length_le
  | bindRequest bound =>
      obtain ⟨hub, taken, rfl⟩ := Session.bindRequest_eq_ok bound
      have length := Hub.length_of_bind taken
      refine ⟨fun q request header => ?_, fun s frame sent => ?_⟩
      · rcases request with tied | others
        · cases tied
          exact absurd (divided.lt sound (.inr header)) (Nat.lt_irrefl _)
        · exact divided.apart q (.inr others) header
      · obtain ⟨q, inside, place⟩ := divided.sent s frame sent
        exact ⟨q, show q < hub.channels.length by omega, place⟩
  | bindHeader bound =>
      obtain ⟨hub, taken, rfl⟩ := Session.bindHeader_eq_ok bound
      have length := Hub.length_of_bind taken
      refine ⟨fun q request header => ?_, fun s frame sent => ?_⟩
      · rcases header with tied | others
        · cases tied
          exact absurd (divided.lt sound (.inl request)) (Nat.lt_irrefl _)
        · exact divided.apart q request (.inr others)
      · obtain ⟨q, inside, place⟩ := divided.sent s frame sent
        exact ⟨q, show q < hub.channels.length by omega, place⟩
  | freeRequest =>
      refine divided.of_subset (fun q passes => ?_) (fun q => id) (fun _ _ => id) (Hub.length_unbind ..).ge
      rcases passes with tied | others
      · rw [fitted.freeRequest] at tied
        cases tied
      · exact .inr others
  | freeHeader =>
      refine divided.of_subset (fun q => id) (fun q passes => ?_) (fun _ _ => id) (Hub.length_unbind ..).ge
      rcases passes with tied | others
      · rw [fitted.freeHeader] at tied
        cases tied
      · exact .inr others
  | spawn idle => exact divided.spawn
  | send own sent =>
      obtain ⟨hub, passed, rfl⟩ := send_eq_ok sent
      obtain ⟨q, place⟩ := fitted.bound_of_send own passed
      exact divided.send sound passed place
  | @take s taken rest own waits =>
      exact divided.of_same rfl rfl rfl (fun _ _ => id) (Hub.moved_setWaiting b.session.hub s rest).length.ge
  | wait request header =>
      rw [Bridge.wait]
      split
      · exact divided.of_same rfl rfl rfl (told _ rfl (by simp)) le_rfl
      · exact divided
  | launch | forgetStopped | forgetKnown => exact divided.of_same rfl rfl rfl (told _ rfl (by simp)) le_rfl
  | outside outside | remember breakpoints => exact divided.of_same rfl rfl rfl (fun _ _ => id) le_rfl

/-- At no time do requests and headers pass over one binding. -/
theorem Reached.divided (reached : Reached out (Allowed untouched) b) : b.Divided := by
  refine reached.induct (fun s created o => ⟨fun q request header => ?_, fun s frame sent => by cases sent⟩)
    fun _ _ reached divided step => divided.step reached.sound reached.fitted step
  rcases header with tied | ⟨c, member, -⟩ | ⟨frame, sent⟩
  · rw [show (ofSession s o).session.header = none from (created.sound.idle created.worker).header] at tied
    cases tied
  · cases member
  · cases sent

/-- What was sent at the binding of a worker's header socket was sent over the control side's header socket. -/
theorem Reached.socket_of_header (reached : Reached out (Allowed untouched) b) {c : Courier} (member : c ∈ b.couriers)
    {h : Nat}
    (tied : c.worker.header.binding? = some h) {s : Socket} {frame : Frame} (sent : .sent s frame ∈ b.deeds)
    (there : s.binding? = some h) : s = some (.bound headerEndpoint h) := by
  obtain ⟨q, -, rfl | rfl⟩ := reached.divided.sent s frame sent
  · cases there
    exact absurd (.inr (.inl ⟨c, member, tied⟩)) (reached.divided.apart h (.inr (.inr ⟨frame, sent⟩)))
  · cases there
    rfl

end Bridge
end DebugBridge
