import DebugBridge.Proofs.Relay.Outputs

/-!
# What the relay sets out to write

The relay writes for the adapter what it reads of a request of the control side, the request that completes the
configuration, and the refusal of a request of the adapter (`madeOf_react`). The reader takes all of it
(`MadeOf.shaped`).
-/

namespace DebugBridge.Relay

/-- The number under which `initialized` is awaited is a signed word. -/
def Ranged (r : Relay) : Prop :=
  ∀ seq, r.phase = .attached seq → -2 ^ 63 ≤ seq ∧ seq < 2 ^ 63

/-- What a message that the relay sets out to write is made of. -/
inductive MadeOf : Input → Json → Prop where
  /-- A request of the control side is passed on as it is read. -/
  | request {frame : Bytes} {message : Json} (read : Json.decode frame = .ok message) : MadeOf (.request frame) message
  /-- An event makes the relay complete the configuration. -/
  | completion {event : Json} {seq : Int} (kind : Kind.of? event = some .event)
      (range : -2 ^ 63 ≤ seq ∧ seq < 2 ^ 63) : MadeOf (.adapter event) (configurationDone seq)
  /-- A request of the adapter is refused. -/
  | refusal {message : Json} (kind : Kind.of? message = some .request) : MadeOf (.adapter message) (refusal message)

theorem ranged_start : start.Ranged := by
  rintro seq ⟨⟩

/-- The number after one that is a signed word is one. -/
theorem range_seqAfter {seq : Int} (range : -2 ^ 63 ≤ seq ∧ seq < 2 ^ 63) :
    -2 ^ 63 ≤ Request.seqAfter seq ∧ Request.seqAfter seq < 2 ^ 63 := by
  rw [Request.seqAfter]
  split <;> omega

/-- What the relay sets out to write for an input is made of that input. -/
theorem madeOf_react {r : Relay} (ranged : r.Ranged) (written : Except Error Unit) (i : Input) :
    (r.react written i).1.Ranged ∧ ∀ m ∈ (r.react written i).2.filterMap Output.tried?, MadeOf i m := by
  cases i with
  | header frame | adapterLost => exact ⟨ranged, List.forall_mem_nil _⟩
  | request frame =>
      simp only [react, onRequest]
      split
      · exact ⟨ranged, List.forall_mem_nil _⟩
      · next message read =>
          have asked : Ranged { r.readHeaders with
              phase := if message.getString? "command" = some "attach" then .attached (Response.seqOf message)
                else r.phase } := by
            intro seq phase
            simp only at phase
            split at phase
            · cases phase
              exact Response.range_seqOf (Json.shape_of_decode read).1
            · exact ranged seq phase
          split
          · cases written with
            | ok _ =>
                refine ⟨asked, fun m member => ?_⟩
                rw [List.mem_singleton.mp member]
                exact .request read
            | error e =>
                refine ⟨asked, fun m member => ?_⟩
                rw [List.mem_singleton.mp member]
                exact .request read
          · exact ⟨ranged, List.forall_mem_nil _⟩
  | adapter message =>
      simp only [react, onMessage]
      split
      · next kind =>
          simp only [onEvent]
          split
          · split
            · next seq phase =>
                refine ⟨?_, fun m member => ?_⟩
                · cases written <;> rintro n ⟨⟩
                · have same : m = configurationDone (Request.seqAfter seq) := by
                    cases written <;> exact List.mem_singleton.mp member
                  rw [same]
                  exact .completion kind (range_seqAfter (ranged seq phase))
            · exact ⟨ranged, List.forall_mem_nil _⟩
          · exact ⟨ranged, List.forall_mem_nil _⟩
      · simp only [onResponse]
        split
        · exact ⟨by rintro seq ⟨⟩, List.forall_mem_nil _⟩
        · exact ⟨ranged, List.forall_mem_nil _⟩
      · next kind =>
          refine ⟨ranged, fun m member => ?_⟩
          have same : m = refusal message := by
            cases written <;> exact List.mem_singleton.mp member
          rw [same]
          exact .refusal kind
      · exact ⟨ranged, List.forall_mem_nil _⟩

/-- What a run sets out to write is made of its inputs. -/
theorem madeOf_runWith {r : Relay} (ranged : r.Ranged) (inputs : List (Input × Except Error Unit)) :
    ∀ m ∈ (r.runWith inputs).2.filterMap Output.tried?, ∃ p ∈ inputs, MadeOf p.1 m := by
  induction inputs generalizing r with
  | nil => exact List.forall_mem_nil _
  | cons p inputs ih =>
      obtain ⟨i, written⟩ := p
      obtain ⟨next, made⟩ := madeOf_react ranged written i
      intro m member
      rw [runWith_cons, List.filterMap_append] at member
      rcases List.mem_append.mp member with first | later
      · exact ⟨_, List.mem_cons_self, made m first⟩
      · obtain ⟨p, among, made⟩ := ih next m later
        exact ⟨p, List.mem_cons_of_mem _ among, made⟩

theorem shaped_configurationDone {seq : Int} (range : -2 ^ 63 ≤ seq ∧ seq < 2 ^ 63) :
    (configurationDone seq).Shaped Json.depthLimit := by
  have number : (Json.int seq).Shaped 126 := by
    apply Json.inherited_shaped.int
    · exact range.1
    · simp only [Json.maxInt]
      omega
  apply Json.inherited_shaped.ofMembers
  simp only [List.forall_mem_cons]
  exact ⟨number, Json.inherited_shaped.text 126 _, Json.inherited_shaped.text 126 _, by simp⟩

theorem shaped_refusal {message : Json} (shaped : message.Shaped Json.depthLimit) :
    (refusal message).Shaped Json.depthLimit := by
  have text := Json.inherited_shaped.text 126
  have number : ((message.get? "seq").getD .null).Shaped 126 := by
    cases found : message.get? "seq" with
    | none => exact ⟨trivial, Nat.zero_le _⟩
    | some v =>
        cases message with
        | obj members =>
            exact (Json.inherited_shaped.obj_iff.mp shaped).2 _ (Members.mem_of_lookup_eq_some found)
        | null | bool b | int n | float bits | str s | arr items => cases found
  apply Json.inherited_shaped.ofMembers
  simp only [List.forall_mem_cons]
  exact ⟨Json.inherited_shaped.int 126 (by decide) (by decide), text _, number, Json.inherited_shaped.bool 126 _,
    text _, text _, by simp⟩

/-- The reader takes what the relay sets out to write: it passes on what it has read, and its own messages are no
deeper than what they are made of. -/
theorem MadeOf.shaped {i : Input} {m : Json} (made : MadeOf i m)
    (readable : ∀ message, i = .adapter message → message.Shaped Json.depthLimit) : m.Shaped Json.depthLimit := by
  cases made with
  | request read => exact Json.shape_of_decode read
  | completion kind range => exact shaped_configurationDone range
  | refusal kind => exact shaped_refusal (readable _ rfl)

end DebugBridge.Relay
