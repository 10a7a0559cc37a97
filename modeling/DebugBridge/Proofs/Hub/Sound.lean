import DebugBridge.Hub.Basic
import DebugBridge.Proofs.Json.Members

/-!
# Sound hubs

A hub is sound if every bound endpoint has a live binding of its own. Every operation of a socket keeps that, and
what it changes is stated here once: bindings come and go by `bind` and `release`, and everything else only moves
frames (`Moved`), at the binding that the socket is tied to.
-/

namespace DebugBridge

namespace Hub

variable {hub next : Hub}

/-! ## Channels -/

@[simp] theorem registry_modify (hub : Hub) (b : Nat) (f : Channels → Channels) :
    (hub.modify b f).registry = hub.registry := rfl

@[simp] theorem length_modify (hub : Hub) (b : Nat) (f : Channels → Channels) :
    (hub.modify b f).channels.length = hub.channels.length := by
  simp [modify]

/-- A change at one binding leaves the others as they are. -/
theorem channelsOf_modify_of_ne (hub : Hub) {a b : Nat} (f : Channels → Channels) (other : a ≠ b) :
    (hub.modify a f).channelsOf b = hub.channelsOf b := by
  simp [channelsOf, modify, other]

theorem channelsOf_modify (hub : Hub) {b : Nat} (f : Channels → Channels) (inRange : b < hub.channels.length) :
    (hub.modify b f).channelsOf b = f (hub.channelsOf b) := by
  simp [channelsOf, modify, List.getElem?_eq_getElem inRange]

/-- Two hubs that differ in no more than frames. -/
structure Moved (before after : Hub) : Prop where
  registry : after.registry = before.registry
  length : after.channels.length = before.channels.length
  live : ∀ b, (after.channelsOf b).live = (before.channelsOf b).live

theorem Moved.refl (hub : Hub) : hub.Moved hub :=
  ⟨rfl, rfl, fun _ => rfl⟩

/-- What only moves frames may be repeated. -/
theorem Moved.trans {first middle last : Hub} (left : first.Moved middle) (right : middle.Moved last) :
    first.Moved last :=
  ⟨right.registry.trans left.registry, right.length.trans left.length,
    fun b => (right.live b).trans (left.live b)⟩

/-- A change of one binding's channels that does not end it only moves frames. -/
theorem moved_modify (hub : Hub) (a : Nat) {f : Channels → Channels} (kept : ∀ c, (f c).live = c.live) :
    hub.Moved (hub.modify a f) := by
  refine ⟨rfl, length_modify hub a f, fun b => ?_⟩
  by_cases same : a = b
  · subst same
    by_cases inRange : a < hub.channels.length
    · rw [channelsOf_modify hub f inRange, kept]
    · simp [channelsOf, modify, List.getElem?_eq_none (Nat.le_of_not_lt inRange)]
  · rw [channelsOf_modify_of_ne hub f same]

/-! ## Bindings -/

/-- Every bound endpoint has a live binding of its own. -/
structure Sound (hub : Hub) : Prop where
  inRange : ∀ e b, hub.registry.lookup e = some b → b < hub.channels.length
  distinct : ∀ e e' b, hub.registry.lookup e = some b → hub.registry.lookup e' = some b → e = e'
  live : ∀ e b, hub.registry.lookup e = some b → (hub.channelsOf b).live = true

/-- An empty hub is sound. -/
theorem sound_empty : empty.Sound :=
  ⟨nofun, nofun, nofun⟩

/-- Moving frames keeps a hub sound. -/
theorem Sound.of_moved (sound : hub.Sound) (moved : hub.Moved next) : next.Sound := by
  obtain ⟨inRange, distinct, live⟩ := sound
  constructor
  · rw [moved.registry, moved.length]
    exact inRange
  · rw [moved.registry]
    exact distinct
  · rw [moved.registry]
    intro e b found
    rw [moved.live b]
    exact live e b found

/-- An endpoint is free if the registry does not know it. -/
theorem isBound_eq_false_iff {e : Endpoint} : hub.isBound e = false ↔ hub.registry.lookup e = none := by
  rw [isBound, Option.isSome_eq_false_iff, Option.isNone_iff_eq_none]

/-- An endpoint that is taken cannot be bound. -/
theorem bind_of_used {e : Endpoint} (used : hub.isBound e = true) : hub.bind none e = .error (.addressInUse e) := by
  rw [bind, if_pos used]

/-- A free endpoint gets the next binding, with nothing in it. -/
theorem bind_of_free {e : Endpoint} (free : hub.isBound e = false) :
    hub.bind none e =
      .ok (⟨hub.channels ++ [⟨true, [], []⟩], (e, hub.channels.length) :: hub.registry⟩,
        some (.bound e hub.channels.length)) := by
  rw [bind, if_neg (Bool.eq_false_iff.mp free)]

/-- Binding takes a number that is new, for an endpoint that was free. -/
theorem bind_eq_ok {s t : Socket} {e : Endpoint} (bound : hub.bind s e = .ok (next, t)) :
    s = none ∧ hub.registry.lookup e = none ∧ t = some (.bound e hub.channels.length) ∧
      next = ⟨hub.channels ++ [⟨true, [], []⟩], (e, hub.channels.length) :: hub.registry⟩ := by
  cases s with
  | some link => cases bound
  | none =>
      simp only [bind] at bound
      split at bound
      · cases bound
      · next free =>
          cases bound
          exact ⟨rfl, isBound_eq_false_iff.mp (Bool.eq_false_iff.mpr free), rfl, rfl⟩

section Bind

variable {s t : Socket} {e : Endpoint} (bound : hub.bind s e = .ok (next, t))

include bound

/-- Binding registers the new binding for its endpoint alone. -/
theorem lookup_of_bind (e' : Endpoint) :
    next.registry.lookup e' = if e' = e then some hub.channels.length else hub.registry.lookup e' := by
  obtain ⟨-, -, -, rfl⟩ := bind_eq_ok bound
  by_cases same : e' = e
  · simp [same]
  · have differs : (e' == e) = false := by simpa using same
    simp [List.lookup, differs, same]

theorem channelsOf_of_bind {b : Nat} (old : b < hub.channels.length) :
    next.channelsOf b = hub.channelsOf b := by
  obtain ⟨-, -, -, rfl⟩ := bind_eq_ok bound
  simp [channelsOf, List.getElem?_append_left old]

/-- No frame waits at a new binding. -/
theorem channelsOf_bound : next.channelsOf hub.channels.length = ⟨true, [], []⟩ := by
  obtain ⟨-, -, -, rfl⟩ := bind_eq_ok bound
  simp [channelsOf]

theorem length_of_bind : next.channels.length = hub.channels.length + 1 := by
  obtain ⟨-, -, -, rfl⟩ := bind_eq_ok bound
  simp

/-- Binding keeps a hub sound. -/
theorem Sound.bind (sound : hub.Sound) : next.Sound := by
  have length := length_of_bind bound
  constructor
  · intro e' b found
    rw [lookup_of_bind bound] at found
    split at found
    · cases found
      omega
    · have := sound.inRange e' b found
      omega
  · intro e₁ e₂ b first second
    rw [lookup_of_bind bound] at first second
    split at first
    · next atFirst =>
        cases first
        split at second
        · next atSecond => exact atFirst.trans atSecond.symm
        · exact absurd (sound.inRange e₂ _ second) (Nat.lt_irrefl _)
    · split at second
      · cases second
        exact absurd (sound.inRange e₁ _ first) (Nat.lt_irrefl _)
      · exact sound.distinct e₁ e₂ b first second
  · intro e' b found
    rw [lookup_of_bind bound] at found
    split at found
    · cases found
      rw [channelsOf_bound bound]
    · rw [channelsOf_of_bind bound (sound.inRange e' b found)]
      exact sound.live e' b found

end Bind

/-- Releasing an endpoint leaves the others registered. -/
theorem lookup_release (hub : Hub) (e e' : Endpoint) (b : Nat) :
    (hub.release e b).registry.lookup e' = if e' = e then none else hub.registry.lookup e' := by
  have filtered := Members.lookup_filter (fun k => decide (k ≠ e)) e' hub.registry
  simp only [release, registry_modify]
  rw [filtered]
  by_cases same : e' = e <;> simp [same]

theorem channelsOf_release_of_ne (hub : Hub) (e : Endpoint) {a b : Nat} (other : a ≠ b) :
    (hub.release e a).channelsOf b = hub.channelsOf b :=
  channelsOf_modify_of_ne hub _ other

theorem length_release (hub : Hub) (e : Endpoint) (b : Nat) :
    (hub.release e b).channels.length = hub.channels.length :=
  length_modify hub b _

/-- Releasing an endpoint ends its own binding and no other one. -/
theorem Sound.release (sound : hub.Sound) {e : Endpoint} {b : Nat} (owned : hub.registry.lookup e = some b) :
    (hub.release e b).Sound := by
  have length := length_release hub e b
  constructor
  · intro e' b' found
    rw [lookup_release] at found
    split at found
    · cases found
    · rw [length]
      exact sound.inRange e' b' found
  · intro e₁ e₂ b' first second
    rw [lookup_release] at first second
    split at first
    · cases first
    · split at second
      · cases second
      · exact sound.distinct e₁ e₂ b' first second
  · intro e' b' found
    rw [lookup_release] at found
    split at found
    · cases found
    · next other =>
        have apart : b ≠ b' := by
          rintro rfl
          exact other (sound.distinct e' e b found owned)
        rw [channelsOf_release_of_ne hub e apart]
        exact sound.live e' b' found

theorem unbind_bound (hub : Hub) (e : Endpoint) (b : Nat) :
    hub.unbind (some (.bound e b)) e = (hub.release e b, none) :=
  if_pos rfl

/-! ## Frames -/

/-- Sending appends a frame at the binding of the socket and changes nothing else. -/
theorem send_eq_ok {s : Socket} {frame : Frame} (sent : hub.send s frame = .ok next) :
    ∃ b f, s.binding? = some b ∧ (∀ c, (f c).live = c.live) ∧ next = hub.modify b f := by
  match s with
  | none => cases sent
  | some (.bound e b) =>
      cases sent
      refine ⟨b, _, rfl, ?_, rfl⟩
      exact fun _ => rfl
  | some (.connected e b) =>
      simp only [send] at sent
      split at sent
      · cases sent
        refine ⟨b, _, rfl, ?_, rfl⟩
        exact fun _ => rfl
      · cases sent

/-- Sending only moves frames. -/
theorem moved_send {s : Socket} {frame : Frame} (sent : hub.send s frame = .ok next) : hub.Moved next := by
  obtain ⟨b, f, -, kept, rfl⟩ := send_eq_ok sent
  exact moved_modify hub b kept

/-- Receiving takes a frame off the binding of the socket and changes nothing else. -/
theorem receive_eq_ok {s : Socket} {got : Option Frame} (received : hub.receive s = .ok (got, next)) :
    next = hub ∨ ∃ b f, s.binding? = some b ∧ (∀ c, (f c).live = c.live) ∧ next = hub.modify b f := by
  match s with
  | none => cases received
  | some (.bound e b) =>
      simp only [receive] at received
      split at received
      · cases received
        exact .inl rfl
      · cases received
        refine .inr ⟨b, _, rfl, ?_, rfl⟩
        exact fun _ => rfl
  | some (.connected e b) =>
      simp only [receive] at received
      split at received
      · split at received
        · cases received
          exact .inl rfl
        · cases received
      · cases received
        refine .inr ⟨b, _, rfl, ?_, rfl⟩
        exact fun _ => rfl

/-- Receiving only moves frames. -/
theorem moved_receive {s : Socket} {got : Option Frame} (received : hub.receive s = .ok (got, next)) :
    hub.Moved next := by
  rcases receive_eq_ok received with rfl | ⟨b, f, -, kept, rfl⟩
  · exact .refl next
  · exact moved_modify hub b kept

/-- Other frames waiting for a socket change nothing but frames. -/
theorem moved_setWaiting (hub : Hub) (s : Socket) (frames : List Frame) : hub.Moved (hub.setWaiting s frames) := by
  match s with
  | none => exact .refl hub
  | some (.bound e b) => exact moved_modify hub b fun _ => rfl
  | some (.connected e b) => exact moved_modify hub b fun _ => rfl

/-! ## Other users -/

/-- What another user of the hub does with one of its sockets. It binds none of the endpoints that are
`reserved`, it frees only what is bound to another one, and it neither sends nor receives at the bindings that
it leaves `untouched`. -/
inductive Use (reserved : List Endpoint) (untouched : Nat → Prop) : Hub → Hub → Prop where
  | bind {hub next : Hub} {s t : Socket} {e : Endpoint} (other : e ∉ reserved)
      (bound : hub.bind s e = .ok (next, t)) : Use reserved untouched hub next
  | release {hub : Hub} {e : Endpoint} {b : Nat} (other : e ∉ reserved)
      (owned : hub.registry.lookup e = some b) : Use reserved untouched hub (hub.release e b)
  | send {hub next : Hub} {s : Socket} {frame : Frame} (apart : ∀ b ∈ s.binding?, ¬ untouched b)
      (sent : hub.send s frame = .ok next) : Use reserved untouched hub next
  | receive {hub next : Hub} {s : Socket} {got : Option Frame} (apart : ∀ b ∈ s.binding?, ¬ untouched b)
      (received : hub.receive s = .ok (got, next)) : Use reserved untouched hub next

/-- The hubs that others can have made before any of the reserved endpoints is bound. -/
inductive Prior (reserved : List Endpoint) : Hub → Prop where
  | empty : Prior reserved Hub.empty
  | use {hub next : Hub} (prior : Prior reserved hub) (use : Use reserved (fun _ => False) hub next) :
      Prior reserved next

section Use

variable {reserved : List Endpoint} {untouched : Nat → Prop}

/-- Whatever others do, the hub stays sound. -/
theorem Use.sound (use : Use reserved untouched hub next) (sound : hub.Sound) : next.Sound := by
  cases use with
  | bind other bound => exact sound.bind bound
  | release other owned => exact sound.release owned
  | send apart sent => exact sound.of_moved (moved_send sent)
  | receive apart received => exact sound.of_moved (moved_receive received)

/-- The reserved endpoints keep their bindings. -/
theorem Use.lookup (use : Use reserved untouched hub next) {e : Endpoint} (kept : e ∈ reserved) :
    next.registry.lookup e = hub.registry.lookup e := by
  cases use with
  | bind other bound =>
      rw [lookup_of_bind bound, if_neg]
      rintro rfl
      exact other kept
  | release other owned =>
      rw [lookup_release, if_neg]
      rintro rfl
      exact other kept
  | send apart sent => rw [(moved_send sent).registry]
  | receive apart received => rw [(moved_receive received).registry]

/-- The binding of a reserved endpoint keeps its frames if it is left untouched. -/
theorem Use.channelsOf (use : Use reserved untouched hub next) (sound : hub.Sound) {e : Endpoint} {b : Nat}
    (kept : e ∈ reserved) (owned : hub.registry.lookup e = some b) (quiet : untouched b) :
    next.channelsOf b = hub.channelsOf b := by
  cases use with
  | bind other bound => exact channelsOf_of_bind bound (sound.inRange e b owned)
  | @release e' b' other theirs =>
      apply channelsOf_release_of_ne
      rintro rfl
      exact other (sound.distinct e' e b' theirs owned ▸ kept)
  | send apart sent =>
      obtain ⟨b', f, tied, -, rfl⟩ := send_eq_ok sent
      apply channelsOf_modify_of_ne
      rintro rfl
      exact apart b' tied quiet
  | receive apart received =>
      rcases receive_eq_ok received with rfl | ⟨b', f, tied, -, rfl⟩
      · rfl
      · apply channelsOf_modify_of_ne
        rintro rfl
        exact apart b' tied quiet

/-- However others have used it, a hub is sound. -/
theorem Prior.sound (prior : Prior reserved hub) : hub.Sound := by
  induction prior with
  | empty => exact sound_empty
  | use _ use ih => exact use.sound ih

/-- None of the reserved endpoints is bound yet. -/
theorem Prior.lookup (prior : Prior reserved hub) {e : Endpoint} (kept : e ∈ reserved) :
    hub.registry.lookup e = none := by
  induction prior with
  | empty => rfl
  | use _ use ih => exact (use.lookup kept).trans ih

end Use

end Hub
end DebugBridge
