import DebugBridge.Hub.Exchange
import DebugBridge.Proofs.Hub.Sound

/-!
# Who is bound

The hub frees an endpoint by its name, whoever asks for it. That no socket takes down the endpoint of another one
rests on the sockets: each that is bound holds the binding that is registered for its endpoint (`Agreed`). Every
operation keeps that, and `registry_agrees` says what it comes to after any row of operations.
-/

namespace DebugBridge

/-- A binding that is released keeps its frames. -/
theorem Hub.channelsOf_release (hub : Hub) (e : Endpoint) {b : Nat} (inRange : b < hub.channels.length) :
    (hub.release e b).channelsOf b = { hub.channelsOf b with live := false } :=
  channelsOf_modify hub _ inRange

/-- A new binding is registered beside those that are. -/
theorem Hub.lookup_bind_iff {hub next : Hub} {s t : Socket} {e : Endpoint} (binds : hub.bind s e = .ok (next, t))
    (e' : Endpoint) (b : Nat) :
    next.registry.lookup e' = some b ↔ e' = e ∧ b = hub.channels.length ∨ hub.registry.lookup e' = some b := by
  obtain ⟨-, free, -, -⟩ := bind_eq_ok binds
  rw [lookup_of_bind binds]
  split
  · next same =>
      subst same
      simp [free, eq_comm]
  · next other => simp [other]

/-- A receiver that gets no frame leaves the hub as it was. -/
theorem Hub.eq_of_receive_none {hub next : Hub} {s : Socket} (received : hub.receive s = .ok (none, next)) :
    next = hub := by
  match s with
  | none => cases received
  | some (.bound e b) =>
      simp only [receive] at received
      split at received <;> cases received
      rfl
  | some (.connected e b) =>
      simp only [receive] at received
      split at received
      · split at received <;> cases received
        rfl
      · cases received

namespace Exchange

variable {x y : Exchange} {n m : String} {e : Endpoint} {b : Nat}

/-! ## Sockets by name -/

@[simp] theorem hub_put (x : Exchange) (n : String) (s : Socket) : (x.put n s).hub = x.hub := rfl

@[simp] theorem hub_drop (x : Exchange) (n : String) : (x.drop n).hub = x.hub.close (x.socket n) := rfl

/-- Dropping a name takes away its own socket and no other one. -/
theorem socket_drop (x : Exchange) (n m : String) :
    (x.drop n).socket m = if m = n then none else x.socket m := by
  have found := Members.lookup_filter (fun k => decide (k ≠ n)) m x.sockets
  simp only [socket, drop, found]
  by_cases same : m = n <;> simp [same]

theorem socket_put (x : Exchange) (n m : String) (s : Socket) :
    (x.put n s).socket m = if m = n then s else x.socket m := by
  have found := Members.lookup_filter (fun k => decide (k ≠ n)) m x.sockets
  by_cases same : m = n
  · simp [socket, put, same]
  · have differs : (m == n) = false := by simpa using same
    simp only [socket, put, List.lookup_cons, differs, found]
    simp [same]

/-- A name that is given the socket it stands for anyway stands for the same. -/
theorem socket_put_self (x : Exchange) (n m : String) : (x.put n (x.socket n)).socket m = x.socket m := by
  rw [socket_put]
  split
  · next same => rw [same]
  · rfl

/-- A socket that is replaced is that of its name alone. -/
theorem socket_replace (x : Exchange) (n m : String) (s : Socket) :
    (x.replace n s).socket m = if m = n then s else x.socket m := by
  rw [replace, socket_put]
  split
  · rfl
  · next other => rw [socket_drop, if_neg other]

/-! ## Operations -/

/-- Unbinding closes a socket that is bound to the endpoint, and does nothing to any other one. -/
theorem unbind_cases (hub : Hub) (s : Socket) (e : Endpoint) :
    (∃ b, s = some (.bound e b)) ∧ hub.unbind s e = (hub.close s, none) ∨
      (∀ b, s ≠ some (.bound e b)) ∧ hub.unbind s e = (hub, s) := by
  match s with
  | none | some (.connected _ _) => exact .inr ⟨nofun, rfl⟩
  | some (.bound e' b) =>
      by_cases same : e' = e
      · subst same
        exact .inl ⟨⟨b, rfl⟩, Hub.unbind_bound hub e' b⟩
      · refine .inr ⟨fun b' tied => ?_, if_neg same⟩
        cases tied
        exact same rfl

/-- A copy is connected as its original is. -/
theorem clone_eq_ok {s t : Socket} (cloned : s.clone = .ok t) :
    ∃ e b, s = some (.connected e b) ∧ t = some (.connected e b) := by
  match s with
  | none | some (.bound _ _) => cases cloned
  | some (.connected e b) =>
      cases cloned
      exact ⟨e, b, rfl, rfl⟩

/-- Who connects is tied to the binding that owns the endpoint. -/
theorem connect_eq_ok {hub : Hub} {s : Socket} (connected : hub.connect e = .ok s) :
    ∃ b, s = some (.connected e b) ∧ hub.registry.lookup e = some b := by
  rw [Hub.connect] at connected
  split at connected
  · next b found =>
      cases connected
      exact ⟨b, rfl, found⟩
  · cases connected

/-- Operations that receive. -/
def Step.Receives : Step → Prop
  | .receive _ | .receiveWithin _ _ | .tryReceive _ => True
  | _ => False

/-- What an operation comes to. -/
inductive Performed (x : Exchange) : Step → Answer → Exchange → Prop where
  /-- Nothing, and the answer is neither a frame nor that something was done. -/
  | nothing {s : Step} {a : Answer} (undone : a ≠ .done) (empty : ∀ f, a ≠ .frame f) : Performed x s a x
  | bound {n : String} {e : Endpoint} {hub : Hub} {s : Socket} (binds : x.hub.bind (x.socket n) e = .ok (hub, s)) :
      Performed x (.bind n e) .done (({ x with hub } : Exchange).put n s)
  | unbound {n : String} {e : Endpoint} {b : Nat} (tied : x.socket n = some (.bound e b)) :
      Performed x (.unbind n e) .done (x.replace n none)
  /-- A socket that is not bound to the endpoint is not unbound. -/
  | kept {n : String} {e : Endpoint} (other : ∀ b, x.socket n ≠ some (.bound e b)) :
      Performed x (.unbind n e) .done (x.put n (x.socket n))
  | connected {n : String} {e : Endpoint} {b : Nat} (found : x.hub.registry.lookup e = some b) :
      Performed x (.connect n e) .done (x.replace n (some (.connected e b)))
  | cloned {n copy : String} {e : Endpoint} {b : Nat} (held : x.socket n = some (.connected e b)) :
      Performed x (.clone n copy) .done (x.replace copy (some (.connected e b)))
  | sent {n : String} {f : Frame} {link : Link} {hub : Hub} (held : x.socket n = some link)
      (sends : x.hub.send (some link) f = .ok hub) : Performed x (.send n f) .done { x with hub }
  | received {s : Step} {f : Frame} {link : Link} {hub : Hub} (receives : s.Receives)
      (held : x.socket s.name = some link) (takes : x.hub.receive (some link) = .ok (some f, hub)) :
      Performed x s (.frame f) { x with hub }
  | dropped (n : String) : Performed x (.drop n) .done (x.drop n)

/-- A receiver takes what the hub has for its socket. It answers in its own way that no frame is there. -/
theorem perform_of_receives {s : Step} (receives : s.Receives) :
    ∃ absent, absent ≠ .done ∧ (∀ f, absent ≠ .frame f) ∧ (∀ e, absent ≠ .failed (.disconnected e)) ∧
      x.perform s = x.received absent (x.hub.receive (x.socket s.name)) := by
  cases s with
  | receive n => exact ⟨.waiting, by simp, by simp, by simp, rfl⟩
  | receiveWithin n time => exact ⟨.failed (.timeout time), by simp, by simp, by simp, rfl⟩
  | tryReceive n => exact ⟨.noFrame, by simp, by simp, by simp, rfl⟩
  | _ => exact receives.elim

theorem performed_of_receives {s : Step} (receives : s.Receives) :
    Performed x s (x.perform s).1 (x.perform s).2 := by
  obtain ⟨absent, undone, empty, -, performs⟩ := perform_of_receives (x := x) receives
  rw [performs]
  cases held : x.socket s.name with
  | none => exact .nothing (by simp [received, Hub.receive]) (by simp [received, Hub.receive])
  | some link =>
      rcases takes : x.hub.receive (some link) with e | ⟨_ | f, hub⟩
      · exact .nothing (by simp [received]) (by simp [received])
      · obtain rfl := Hub.eq_of_receive_none takes
        exact .nothing undone empty
      · exact .received receives held takes

/-- What every operation does. -/
theorem performed (x : Exchange) (s : Step) : Performed x s (x.perform s).1 (x.perform s).2 := by
  cases s with
  | bind n e =>
      simp only [perform]
      split
      · next hub s binds => exact .bound binds
      · exact .nothing (by simp) (by simp)
  | unbind n e =>
      simp only [perform]
      rcases unbind_cases x.hub (x.socket n) e with ⟨⟨b, tied⟩, freed⟩ | ⟨other, stays⟩
      · have replaced : ({ x with hub := x.hub.close (x.socket n) } : Exchange).put n none = x.replace n none := by
          simp [put, replace, drop, List.filter_filter]
        rw [freed, replaced]
        exact .unbound tied
      · rw [stays]
        exact .kept other
  | connect n e =>
      simp only [perform]
      split
      · next s connects =>
          obtain ⟨b, rfl, found⟩ := connect_eq_ok connects
          exact .connected found
      · exact .nothing (by simp) (by simp)
  | clone n copy =>
      simp only [perform]
      split
      · next s clones =>
          obtain ⟨e, b, held, rfl⟩ := clone_eq_ok clones
          exact .cloned held
      · exact .nothing (by simp) (by simp)
  | send n f =>
      simp only [perform]
      split
      · next hub sends =>
          cases held : x.socket n with
          | none =>
              rw [held] at sends
              cases sends
          | some link => exact .sent held (held ▸ sends)
      · exact .nothing (by simp) (by simp)
  | receive n => exact performed_of_receives trivial
  | receiveWithin n time => exact performed_of_receives trivial
  | tryReceive n => exact performed_of_receives trivial
  | drop n => exact .dropped n
  | isBound n e => exact .nothing (by simp [perform]) (by simp [perform])

/-- A step is performed when its name has a socket, which every name stands for anyway. -/
theorem stepped (x : Exchange) (s : Step) :
    ∃ y : Exchange, y.hub = x.hub ∧ (∀ n, y.socket n = x.socket n) ∧
      Performed y s (x.step s).1 (x.step s).2 :=
  ⟨x.put s.name (x.socket s.name), rfl, x.socket_put_self s.name, performed _ s⟩

/-! ## Agreement -/

/-- The sockets that are bound are those that the registry knows of, one for each endpoint. Bindings without such a
socket are over, and no socket is tied to a binding that has not begun. -/
structure Agreed (x : Exchange) : Prop where
  sound : x.hub.Sound
  registered : ∀ e b, x.hub.registry.lookup e = some b ↔ ∃ n, x.socket n = some (.bound e b)
  alone : ∀ n m e b, x.socket n = some (.bound e b) → x.socket m = some (.bound e b) → n = m
  live : ∀ b, (x.hub.channelsOf b).live = true → ∃ e, x.hub.registry.lookup e = some b
  inRange : ∀ n b, (x.socket n).binding? = some b → b < x.hub.channels.length

/-- At first there are neither sockets nor bindings. -/
theorem agreed_empty : empty.Agreed := by
  refine ⟨Hub.sound_empty, fun e b => ?_, nofun, nofun, nofun⟩
  constructor
  · exact nofun
  · rintro ⟨n, bound⟩
    cases bound

/-- Agreement depends on the hub and on what the names stand for. -/
theorem Agreed.congr (agreed : x.Agreed) (hub : y.hub = x.hub) (socket : ∀ n, y.socket n = x.socket n) : y.Agreed := by
  obtain ⟨sound, registered, alone, live, inRange⟩ := agreed
  constructor <;> simp only [hub, socket]
  · exact sound
  · exact registered
  · exact alone
  · exact live
  · exact inRange

/-- Frames that come and go change nothing about who owns what. -/
theorem Agreed.moved (agreed : x.Agreed) {hub : Hub} (moved : x.hub.Moved hub) :
    ({ x with hub } : Exchange).Agreed := by
  obtain ⟨sound, registered, alone, live, inRange⟩ := agreed
  refine ⟨sound.of_moved moved, ?_, alone, ?_, ?_⟩
  · simp only [moved.registry]
    exact registered
  · simp only [moved.registry, moved.live]
    exact live
  · simp only [moved.length]
    exact inRange

/-- Binding a socket leaves every other name with the socket that it stands for. -/
theorem socket_bind_iff {hub : Hub} {s : Socket} (binds : x.hub.bind (x.socket n) e = .ok (hub, s)) (m : String)
    (e' : Endpoint) (b : Nat) :
    (({ x with hub } : Exchange).put n s).socket m = some (.bound e' b) ↔
      m = n ∧ e' = e ∧ b = x.hub.channels.length ∨ x.socket m = some (.bound e' b) := by
  obtain ⟨idle, -, rfl, -⟩ := Hub.bind_eq_ok binds
  rw [socket_put]
  split
  · next same =>
      subst same
      simp [idle, eq_comm]
  · next other =>
      simp only [other, false_and, false_or]
      rfl

/-- A socket that becomes bound takes a binding that no other one has. -/
theorem Agreed.bind (agreed : x.Agreed) {hub : Hub} {s : Socket} (binds : x.hub.bind (x.socket n) e = .ok (hub, s)) :
    (({ x with hub } : Exchange).put n s).Agreed := by
  have tied := socket_bind_iff binds
  have known := Hub.lookup_bind_iff binds
  have length := Hub.length_of_bind binds
  have newer {m : String} {e' : Endpoint} : x.socket m ≠ some (.bound e' x.hub.channels.length) := fun held =>
    absurd (agreed.inRange m _ (by rw [held]; rfl)) (Nat.lt_irrefl _)
  refine ⟨agreed.sound.bind binds, fun e' b => ?_, fun k m e' b first second => ?_, fun b alive => ?_,
    fun m b has => ?_⟩
  · rw [hub_put, known, agreed.registered]
    simp only [tied, exists_or, exists_eq_left]
  · rcases (tied k e' b).mp first with ⟨rfl, rfl, rfl⟩ | before
    · rcases (tied m _ _).mp second with ⟨rfl, -, -⟩ | other
      · rfl
      · exact absurd other newer
    · rcases (tied m e' b).mp second with ⟨-, -, rfl⟩ | other
      · exact absurd before newer
      · exact agreed.alone k m e' b before other
  · rw [hub_put] at alive ⊢
    rcases Nat.lt_trichotomy b x.hub.channels.length with old | rfl | beyond
    · rw [Hub.channelsOf_of_bind binds old] at alive
      obtain ⟨e', found⟩ := agreed.live b alive
      exact ⟨e', (known e' b).mpr (.inr found)⟩
    · exact ⟨e, (known e _).mpr (.inl ⟨rfl, rfl⟩)⟩
    · have absent : hub.channels[b]? = none := List.getElem?_eq_none (by omega)
      simp [Hub.channelsOf, absent] at alive
  · obtain ⟨-, -, rfl, -⟩ := Hub.bind_eq_ok binds
    rw [hub_put, length]
    rw [socket_put] at has
    split at has
    · cases has
      exact Nat.lt_succ_self _
    · exact Nat.lt_succ_of_lt (agreed.inRange m b has)

/-- Closing a socket frees the endpoint that it is bound to, and no other one. -/
theorem Agreed.lookup_drop (agreed : x.Agreed) (n : String) (e : Endpoint) (b : Nat) :
    (x.drop n).hub.registry.lookup e = some b ↔
      x.hub.registry.lookup e = some b ∧ x.socket n ≠ some (.bound e b) := by
  rw [hub_drop]
  match held : x.socket n with
  | none | some (.connected _ _) => simp [Hub.close]
  | some (.bound e' b') =>
      have owned := (agreed.registered e' b').mpr ⟨n, held⟩
      rw [Hub.close, Hub.lookup_release]
      by_cases same : e = e'
      · subst same
        rw [if_pos rfl, owned]
        simp
      · simp [same, Ne.symm same]

/-- After a socket is dropped, a binding lives only if it lived before and is not the dropped socket's own. -/
theorem Agreed.live_drop (agreed : x.Agreed) {n : String} {b : Nat}
    (alive : ((x.drop n).hub.channelsOf b).live = true) :
    (x.hub.channelsOf b).live = true ∧ ∀ e, x.socket n ≠ some (.bound e b) := by
  rw [hub_drop] at alive
  match held : x.socket n with
  | none | some (.connected _ _) =>
      rw [held] at alive
      exact ⟨alive, nofun⟩
  | some (.bound e' b') =>
      rw [held, Hub.close] at alive
      by_cases same : b' = b
      · subst same
        have inRange := agreed.inRange n b' (by rw [held]; rfl)
        rw [Hub.channelsOf_release x.hub e' inRange] at alive
        cases alive
      · rw [Hub.channelsOf_release_of_ne x.hub e' same] at alive
        refine ⟨alive, fun e tied => ?_⟩
        cases tied
        exact same rfl

theorem length_drop (x : Exchange) (n : String) : (x.drop n).hub.channels.length = x.hub.channels.length := by
  rw [hub_drop]
  match x.socket n with
  | none | some (.connected _ _) => rfl
  | some (.bound e b) => exact Hub.length_release x.hub e b

/-- A dropped owner ends its binding; anyone else's end changes no registration. -/
theorem Agreed.drop (agreed : x.Agreed) (n : String) : (x.drop n).Agreed := by
  have sockets := x.socket_drop n
  refine ⟨?_, fun e b => ?_, fun k m e b first second => ?_, fun b alive => ?_, fun m b tied => ?_⟩
  · rw [hub_drop]
    match held : x.socket n with
    | none | some (.connected _ _) => exact agreed.sound
    | some (.bound e b) => exact agreed.sound.release ((agreed.registered e b).mpr ⟨n, held⟩)
  · rw [agreed.lookup_drop, agreed.registered]
    constructor
    · rintro ⟨⟨m, tied⟩, other⟩
      refine ⟨m, ?_⟩
      rw [sockets, if_neg, tied]
      rintro rfl
      exact other tied
    · rintro ⟨m, tied⟩
      rw [sockets] at tied
      split at tied
      · cases tied
      · next apart => exact ⟨⟨m, tied⟩, fun same => apart (agreed.alone m n e b tied same)⟩
  · rw [sockets] at first second
    split at first
    · cases first
    · split at second
      · cases second
      · exact agreed.alone k m e b first second
  · obtain ⟨before, other⟩ := agreed.live_drop alive
    obtain ⟨e, found⟩ := agreed.live b before
    exact ⟨e, (agreed.lookup_drop n e b).mpr ⟨found, other e⟩⟩
  · rw [length_drop]
    rw [sockets] at tied
    split at tied
    · cases tied
    · exact agreed.inRange m b tied

/-- A name whose socket has no link may be given any socket that is not bound, if its binding has begun. -/
theorem Agreed.put (agreed : x.Agreed) (idle : x.socket n = none) {s : Socket} (unbound : ∀ e b, s ≠ some (.bound e b))
    (begun : ∀ b, s.binding? = some b → b < x.hub.channels.length) : (x.put n s).Agreed := by
  have sockets (m : String) := x.socket_put n m s
  have same (m : String) (e : Endpoint) (b : Nat) :
      (x.put n s).socket m = some (.bound e b) ↔ x.socket m = some (.bound e b) := by
    rw [sockets]
    split
    · next here => simp [here, idle, unbound e b]
    · rfl
  refine ⟨agreed.sound, ?_, ?_, agreed.live, fun m b tied => ?_⟩
  · simp only [same]
    exact agreed.registered
  · simp only [same]
    exact agreed.alone
  · rw [sockets] at tied
    split at tied
    · exact begun b tied
    · exact agreed.inRange m b tied

/-- A name that gets a socket that owns nothing owns nothing. -/
theorem Agreed.replace (agreed : x.Agreed) (n : String) {s : Socket} (unbound : ∀ e b, s ≠ some (.bound e b))
    (begun : ∀ b, s.binding? = some b → b < x.hub.channels.length) : (x.replace n s).Agreed := by
  refine (agreed.drop n).put ?_ unbound ?_
  · rw [socket_drop, if_pos rfl]
  · rw [length_drop]
    exact begun

/-! ## What operations keep -/

/-- Every operation on a named socket keeps the registry and the sockets in agreement. -/
theorem Agreed.perform (agreed : x.Agreed) (s : Step) : (x.perform s).2.Agreed := by
  have performed := x.performed s
  generalize (x.perform s).1 = a, (x.perform s).2 = after at performed
  cases performed with
  | nothing undone empty => exact agreed
  | bound binds => exact agreed.bind binds
  | @unbound n e b tied => exact agreed.replace n nofun nofun
  | @kept n e other => exact agreed.congr rfl (x.socket_put_self n)
  | @connected n e b found =>
      refine agreed.replace n nofun fun b' tied => ?_
      cases tied
      exact agreed.sound.inRange e b found
  | @cloned n copy e b held =>
      refine agreed.replace copy nofun fun b' tied => ?_
      cases tied
      exact agreed.inRange n b (by rw [held]; rfl)
  | sent held sends => exact agreed.moved (Hub.moved_send sends)
  | received receives held takes => exact agreed.moved (Hub.moved_receive takes)
  | dropped n => exact agreed.drop n

/-- So does every step, which may make the socket first. -/
theorem Agreed.step (agreed : x.Agreed) (s : Step) : (x.step s).2.Agreed :=
  (agreed.congr rfl (x.socket_put_self s.name) : (x.put s.name (x.socket s.name)).Agreed).perform s

/-- After any row of operations the registry agrees with the sockets. -/
theorem Agreed.run (agreed : x.Agreed) (steps : List Step) : (x.run steps).2.Agreed := by
  induction steps generalizing x with
  | nil => exact agreed
  | cons s rest ih => exact ih (agreed.step s)

/-! ## What takes an endpoint down -/

/-- Operations that end the binding of a name's socket to an endpoint: it is unbound, or closed. A socket is also
closed when its name is given another one. -/
def Step.Closes (n : String) (e : Endpoint) : Step → Prop
  | .unbind m e' => m = n ∧ e' = e
  | .drop m | .connect m _ | .clone _ m => m = n
  | _ => False

/-- A socket that is bound stays so unless it is unbound or closed. -/
theorem socket_perform (bound : x.socket n = some (.bound e b)) {s : Step}
    (other : ¬ (s.Closes n e ∧ (x.perform s).1 = .done)) : (x.perform s).2.socket n = some (.bound e b) := by
  have performed := x.performed s
  generalize (x.perform s).1 = a, (x.perform s).2 = after at performed other
  -- The socket of another name is as it was.
  have apart {m : String} {y : Exchange} {t : Socket} (same : y.socket n = x.socket n) (names : n ≠ m) :
      (y.put m t).socket n = some (.bound e b) := by
    rw [socket_put, if_neg names, same, bound]
  have dropped {m : String} (names : n ≠ m) : (x.drop m).socket n = x.socket n := by
    rw [socket_drop, if_neg names]
  cases performed with
  | nothing undone empty => exact bound
  | @bound m e' hub t binds =>
      refine apart rfl fun same => ?_
      subst same
      cases bound.symm.trans (Hub.bind_eq_ok binds).1
  | @unbound m e' b' tied =>
      have names : n ≠ m := by
        rintro rfl
        cases bound.symm.trans tied
        exact other ⟨⟨rfl, rfl⟩, rfl⟩
      exact apart (dropped names) names
  | @kept m e' stays => exact (x.socket_put_self m n).trans bound
  | @connected m e' b' found =>
      have names : n ≠ m := fun same => other ⟨same.symm, rfl⟩
      exact apart (dropped names) names
  | @cloned m copy e' b' held =>
      have names : n ≠ copy := fun same => other ⟨same.symm, rfl⟩
      exact apart (dropped names) names
  | sent held sends => exact bound
  | received receives held takes => exact bound
  | dropped m => exact (dropped fun same => other ⟨same.symm, rfl⟩).trans bound

/-- Unbinding or closing the socket that is bound to an endpoint frees the endpoint. -/
theorem lookup_perform_of_closes (bound : x.socket n = some (.bound e b)) {s : Step} (closes : s.Closes n e)
    (done : (x.perform s).1 = .done) : (x.perform s).2.hub.registry.lookup e = none := by
  have performed := x.performed s
  generalize (x.perform s).1 = a, (x.perform s).2 = after at performed done
  have freed : (x.hub.close (x.socket n)).registry.lookup e = none := by
    rw [bound, Hub.close, Hub.lookup_release, if_pos rfl]
  cases performed with
  | nothing undone empty => exact absurd done undone
  | unbound tied =>
      obtain ⟨rfl, rfl⟩ := closes
      exact freed
  | @kept m e' other =>
      obtain ⟨rfl, rfl⟩ := closes
      exact absurd bound (other b)
  | connected found | cloned held | dropped =>
      obtain rfl := closes
      exact freed
  | bound binds | sent held sends => exact closes.elim
  | received receives held takes => cases done

/-- An endpoint loses its binding exactly when the socket that is bound to it is unbound or closed. -/
theorem Agreed.lookup_step_ne_iff (agreed : x.Agreed) (registered : x.hub.registry.lookup e = some b) (s : Step) :
    (x.step s).2.hub.registry.lookup e ≠ some b ↔
      ∃ n, x.socket n = some (.bound e b) ∧ s.Closes n e ∧ (x.step s).1 = .done := by
  have named (n : String) : (x.put s.name (x.socket s.name)).socket n = x.socket n := x.socket_put_self s.name n
  constructor
  · intro lost
    obtain ⟨n, bound⟩ := (agreed.registered e b).mp registered
    refine ⟨n, bound, Classical.byContradiction fun other => lost ?_⟩
    exact ((agreed.step s).registered e b).mpr ⟨n, socket_perform ((named n).trans bound) other⟩
  · rintro ⟨n, bound, closes, done⟩ kept
    cases kept.symm.trans (lookup_perform_of_closes ((named n).trans bound) closes done)

/-! ## One socket for each name -/

theorem nodup_drop (unique : (x.sockets.map Prod.fst).Nodup) (n : String) :
    ((x.drop n).sockets.map Prod.fst).Nodup :=
  unique.sublist (List.filter_sublist.map _)

theorem nodup_put (unique : (x.sockets.map Prod.fst).Nodup) (n : String) (s : Socket) :
    ((x.put n s).sockets.map Prod.fst).Nodup := by
  refine List.nodup_cons.mpr ⟨?_, nodup_drop unique n⟩
  simp

theorem nodup_perform (unique : (x.sockets.map Prod.fst).Nodup) (s : Step) :
    ((x.perform s).2.sockets.map Prod.fst).Nodup := by
  have performed := x.performed s
  generalize (x.perform s).1 = a, (x.perform s).2 = after at performed
  cases performed with
  | nothing undone empty => exact unique
  | @bound n e hub s binds => exact nodup_put (x := { x with hub }) unique n s
  | unbound tied | connected found | cloned held => exact nodup_put (nodup_drop unique _) _ _
  | kept other => exact nodup_put unique _ _
  | sent held sends | received receives held takes => exact unique
  | dropped n => exact nodup_drop unique n

/-- A name has one socket at most, whatever is done. -/
theorem nodup_run (unique : (x.sockets.map Prod.fst).Nodup) (steps : List Step) :
    ((x.run steps).2.sockets.map Prod.fst).Nodup := by
  induction steps generalizing x with
  | nil => exact unique
  | cons s rest ih => exact ih (nodup_perform (nodup_put unique s.name (x.socket s.name)) s)

/-! ## Any row of operations -/

/-- An endpoint is bound exactly if one named socket owns its binding. -/
theorem Agreed.isBound_iff (agreed : x.Agreed) (e : Endpoint) :
    x.hub.isBound e = true ↔ ∃! n, ∃ b, x.socket n = some (.bound e b) := by
  rw [Hub.isBound, Option.isSome_iff_exists]
  constructor
  · rintro ⟨b, found⟩
    obtain ⟨n, bound⟩ := (agreed.registered e b).mp found
    refine ⟨n, ⟨b, bound⟩, fun m holds => ?_⟩
    obtain ⟨b', other⟩ := holds
    obtain rfl : b = b' := Option.some.inj (found.symm.trans ((agreed.registered e b').mpr ⟨m, other⟩))
    exact agreed.alone m n e b other bound
  · rintro ⟨n, ⟨b, bound⟩, -⟩
    exact ⟨b, (agreed.registered e b).mpr ⟨n, bound⟩⟩

/-- A binding lives exactly as long as a named socket owns it. -/
theorem Agreed.live_iff (agreed : x.Agreed) (b : Nat) :
    (x.hub.channelsOf b).live = true ↔ ∃ n e, x.socket n = some (.bound e b) := by
  constructor
  · intro alive
    obtain ⟨e, found⟩ := agreed.live b alive
    obtain ⟨n, bound⟩ := (agreed.registered e b).mp found
    exact ⟨n, e, bound⟩
  · rintro ⟨n, e, bound⟩
    exact agreed.sound.live e b ((agreed.registered e b).mpr ⟨n, bound⟩)

/-- After any row of operations, whether they succeed or fail, no name has two sockets, and

* an endpoint is bound exactly when one socket is bound to it, which is then the only one;
* the binding that is registered for an endpoint is that of the socket bound to it, and it is one of a kind;
* the bindings that are live are those that a socket is bound by;
* whatever the next operation is, an endpoint keeps its binding unless that operation unbinds or closes the very
  socket that is bound to it. -/
theorem registry_agrees (steps : List Step) :
    let x := (empty.run steps).2
    (x.sockets.map Prod.fst).Nodup ∧
    (∀ e, x.hub.isBound e = true ↔ ∃! n, ∃ b, x.socket n = some (.bound e b)) ∧
    (∀ e b, x.hub.registry.lookup e = some b ↔ ∃ n, x.socket n = some (.bound e b)) ∧
    (∀ e e' b, x.hub.registry.lookup e = some b → x.hub.registry.lookup e' = some b → e = e') ∧
    (∀ b, (x.hub.channelsOf b).live = true ↔ ∃ n e, x.socket n = some (.bound e b)) ∧
    ∀ s e b, x.hub.registry.lookup e = some b →
      ((x.step s).2.hub.registry.lookup e ≠ some b ↔
        ∃ n, x.socket n = some (.bound e b) ∧ s.Closes n e ∧ (x.step s).1 = .done) := by
  have agreed := agreed_empty.run steps
  refine ⟨nodup_run (x := empty) List.nodup_nil steps, agreed.isBound_iff, agreed.registered, agreed.sound.distinct,
    agreed.live_iff, ?_⟩
  intro s e b registered
  exact agreed.lookup_step_ne_iff registered s

/-- A socket is bound, closed by unbinding, and its endpoint bound by another one, which keeps it although the first
one unbinds it again, is connected to it, copied and closed. -/
def sampleSteps : List Step :=
  [.bind "first" "a", .unbind "first" "a", .bind "second" "a", .unbind "first" "a", .connect "first" "a",
    .unbind "first" "a", .clone "first" "copy", .drop "first"]

/-- The former owner's copy cannot free the endpoint that another socket owns by now; that socket's own end does. -/
theorem registry_agrees_sampleSteps :
    (empty.run sampleSteps).2.hub.registry.lookup "a" = some 1 ∧
    ((empty.run sampleSteps).2.step (.unbind "copy" "a")).2.hub.registry.lookup "a" = some 1 ∧
    ((empty.run sampleSteps).2.step (.drop "second")).2.hub.registry.lookup "a" ≠ some 1 := by
  have registered : (empty.run sampleSteps).2.hub.registry.lookup "a" = some 1 := by decide
  obtain ⟨-, -, -, -, -, lost⟩ := registry_agrees sampleSteps
  refine ⟨registered, Classical.byContradiction fun freed => ?_, (lost _ "a" 1 registered).mpr ?_⟩
  · obtain ⟨n, bound, ⟨rfl, -⟩, -⟩ := (lost _ "a" 1 registered).mp freed
    revert bound
    decide
  · exact ⟨"second", by decide, rfl, by decide⟩

end Exchange
end DebugBridge
