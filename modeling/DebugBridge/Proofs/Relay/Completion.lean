import DebugBridge.Proofs.Relay.Configuration

/-!
# One completion for each attach

The relay completes the configuration when the adapter announces that it is initialized and an `attach` was passed on
that has not been completed yet. `completion_iff` says so of every run, whatever comes in between, in terms of what the
relay was seen to write alone; so there are no more completions than attaches. Its number is the one after that of the
`attach`, which for the greatest number is the least one (`completion_after_greatest`).
-/

namespace DebugBridge.Relay

/-- The relay passes on an `attach` with a number, which is zero if the message has none. -/
def Moment.RelaysAttach (seq : Int) (m : Moment) : Prop :=
  ∃ message, m.writtenFor .request = [message] ∧ message.getString? "command" = some "attach" ∧
    (message.getInt? "seq").getD 0 = seq

/-- The relay passes on some `attach`. -/
def Moment.Relays (m : Moment) : Prop :=
  ∃ seq, m.RelaysAttach seq

/-- The relay completes the configuration under some number. -/
def Moment.Completed (m : Moment) : Prop :=
  ∃ seq, m.Completes seq

/-- The adapter announces that it is initialized. -/
def Input.Initializes (i : Input) : Prop :=
  ∃ event, i.ofKind? .event = some event ∧ event.getString? "event" = some "initialized"

/-! ## Moments -/

/-- After the adapter is lost the control side makes the relay write nothing, and the configuration stays as far as it
has come. -/
theorem lost_moment {m : Moment} (lost : ¬ m.Living) (own : ∀ message, m.input ≠ .adapter message) :
    m.writes = [] ∧ (m.relay.step m.input).1.phase = m.relay.phase := by
  obtain ⟨r, i⟩ := m
  simp only [Moment.writes, Moment.outputs]
  cases i with
  | header frame => exact ⟨rfl, rfl⟩
  | adapterLost => exact ⟨rfl, rfl⟩
  | adapter message => exact absurd rfl (own message)
  | request frame =>
      have dead : ¬ r.readHeaders.adapterAlive = true := fun alive => lost ⟨alive, fun same => by cases same⟩
      rw [step, react, onRequest]
      split
      · exact ⟨rfl, rfl⟩
      · rw [if_neg dead]
        exact ⟨rfl, rfl⟩

/-- What a moment is for the configuration. -/
inductive Advance (m : Moment) : Phase → Prop where
  /-- An `attach` is passed on. -/
  | relayed {message : Json} (quiet : ¬ m.input.Initializes) (requests : m.writtenFor .request = [message])
      (completions : m.writtenFor .completion = []) (attach : message.getString? "command" = some "attach") :
      Advance m (.attached (Response.seqOf message))
  /-- It is completed, for the `attach` passed on last. -/
  | completed {seq : Int} (initializes : m.input.Initializes)
      (phase : m.relay.phase = .attached seq) (requests : m.writtenFor .request = [])
      (completions : m.writtenFor .completion = [configurationDone (Request.seqAfter seq)]) :
      Advance m (.configuring (Request.seqAfter seq))
  /-- Nothing of that. -/
  | other {next : Phase}
      (quiet : m.input.Initializes → ∀ seq, m.relay.phase ≠ .attached seq)
      (requests : ∀ message ∈ m.writtenFor .request, message.getString? "command" ≠ some "attach")
      (completions : m.writtenFor .completion = [])
      (same : ∀ seq, next = .attached seq ↔ m.relay.phase = .attached seq) : Advance m next

/-- A moment at which the relay takes its input up advances the configuration. -/
theorem Stepped.advance {m : Moment} (stepped : Stepped m.relay m.input (m.relay.step m.input).1 m.outputs) :
    Advance m (m.relay.step m.input).1.phase := by
  generalize given : m.outputs = outputs, (m.relay.step m.input).1 = next at stepped ⊢
  generalize reached : m.input = i at stepped
  have requests : m.writtenFor .request = ((writesFor i outputs).filter fun w => w.1 = .request).map Prod.snd := by
    rw [Moment.writtenFor, Moment.writes, given, reached]
  have completions : m.writtenFor .completion =
      ((writesFor i outputs).filter fun w => w.1 = .completion).map Prod.snd := by
    rw [Moment.writtenFor, Moment.writes, given, reached]
  rw [stepped.writes_request] at requests
  have quiet (silent : i.ofKind? .event = none) : ¬ m.input.Initializes := by
    rintro ⟨event, announced, -⟩
    rw [reached, silent] at announced
    cases announced
  have noRequest (none : i.asked? = none) :
      ∀ message ∈ m.writtenFor .request, message.getString? "command" ≠ some "attach" := by simp [requests, none]
  have other {next : Phase} (silent : i.ofKind? .event = none)
      (requests : ∀ message ∈ m.writtenFor .request, message.getString? "command" ≠ some "attach")
      (completions : m.writtenFor .completion = [])
      (same : ∀ seq, next = .attached seq ↔ m.relay.phase = .attached seq) : Advance m next :=
    .other (fun initializes => absurd initializes (quiet silent)) requests completions same
  cases stepped with
  | attached read attach =>
      refine .relayed (quiet rfl) ?_ (by rw [completions]; rfl) attach
      rw [requests]
      simp [Input.asked?, read, Except.toOption]
  | @completed event seq kind initialized phase =>
      refine .completed ⟨event, ?_, initialized⟩ phase (by rw [requests]; rfl) ?_
      · rw [reached, Input.ofKind?, if_pos kind]
      · rw [completions]
        simp only [writesFor, Input.reason, kind]
        rfl
  | passedOn read noAttach =>
      refine other rfl ?_ (by rw [completions]; rfl) fun _ => Iff.rfl
      rw [requests]
      simpa [Input.asked?, read, Except.toOption] using noAttach
  | malformed read =>
      refine other rfl ?_ (by rw [completions]; rfl) fun _ => Iff.rfl
      rw [requests]
      simp [Input.asked?, read, Except.toOption]
  | kept frame => exact other rfl (noRequest rfl) (by rw [completions]; rfl) fun _ => Iff.rfl
  | @published event kind idle =>
      refine .other ?_ (noRequest rfl) (by rw [completions]; rfl) fun _ => Iff.rfl
      rintro ⟨same, announced, initialized⟩
      rw [reached, Input.ofKind?, if_pos kind] at announced
      cases announced
      exact idle initialized
  | withheld phase own =>
      refine other (by simp [Input.ofKind?, own.kind]) (noRequest rfl) (by rw [completions]; rfl) ?_
      simp [phase]
  | refused kind =>
      refine other (by simp [Input.ofKind?, kind]) (noRequest rfl) ?_ fun _ => Iff.rfl
      rw [completions]
      simp [writesFor, Input.reason, kind]
  | passedBack kind _ | unknown kind =>
      exact other (by simp [Input.ofKind?, kind]) (noRequest rfl) (by rw [completions]; rfl)
        fun _ => Iff.rfl

/-- How a moment changes the phase. -/
theorem advance (m : Moment) : Advance m (m.relay.step m.input).1.phase := by
  by_cases own : ∃ message, m.input = .adapter message
  · obtain ⟨message, own⟩ := own
    refine Stepped.advance ?_
    rw [Moment.outputs, own]
    exact m.relay.stepped_adapter message
  · by_cases living : m.Living
    · exact living.stepped.advance
    · obtain ⟨silent, same⟩ := lost_moment living fun message isOwn => own ⟨message, isOwn⟩
      refine .other ?_ (by simp [Moment.writtenFor, silent]) (by simp [Moment.writtenFor, silent]) (by simp [same])
      rintro ⟨event, announced, -⟩
      cases input : m.input with
      | adapter message => exact absurd ⟨message, input⟩ own
      | header frame | request frame | adapterLost =>
          rw [input] at announced
          cases announced

namespace Advance

variable {m : Moment} {next : Phase}

/-- An `attach` is waited on as long as neither another one is passed on nor the configuration is completed. -/
theorem relaysAttach_iff (advance : Advance m next) (seq : Int) :
    next = .attached seq ↔ m.RelaysAttach seq ∨ m.relay.phase = .attached seq ∧ ¬ (m.Relays ∨ m.Completed) := by
  cases advance with
  | relayed quiet requests completions attach =>
      simp [Moment.Relays, Moment.RelaysAttach, requests, attach, Response.seqOf]
  | completed initializes phase requests completions =>
      simp [Moment.RelaysAttach, Moment.Completed, Moment.Completes, requests, completions, configurationDone_inj]
  | other quiet requests completions same =>
      have noAttach (seq : Int) : ¬ m.RelaysAttach seq := by
        rintro ⟨message, relayed, attach, -⟩
        exact requests message (by simp [relayed]) attach
      simp [same, noAttach, Moment.Relays, Moment.Completed, Moment.Completes, completions]

/-- Some `attach` is waited on until the configuration is completed. -/
theorem relays_iff (advance : Advance m next) :
    (∃ seq, next = .attached seq) ↔ m.Relays ∨ (∃ seq, m.relay.phase = .attached seq) ∧ ¬ m.Completed := by
  simp only [advance.relaysAttach_iff, exists_or, Moment.Relays, not_or, ← and_assoc, exists_and_right]
  by_cases relays : ∃ seq, m.RelaysAttach seq <;> simp [relays]

/-- The configuration is completed if the adapter is initialized while an `attach` is waited on. -/
theorem completed_iff (advance : Advance m next) :
    m.Completed ↔ m.input.Initializes ∧ ∃ seq, m.relay.phase = .attached seq := by
  cases advance with
  | relayed quiet requests completions attach => simp [Moment.Completed, Moment.Completes, completions, quiet]
  | completed initializes phase requests completions =>
      exact iff_of_true ⟨_, by simp [Moment.Completes, completions]; rfl⟩ ⟨initializes, _, phase⟩
  | other quiet requests completions same =>
      refine iff_of_false (by simp [Moment.Completed, Moment.Completes, completions]) ?_
      rintro ⟨initializes, seq, phase⟩
      exact quiet initializes seq phase

/-- It is completed once, under the number after that of the `attach`. -/
theorem of_completes (advance : Advance m next) {n : Int} (completes : m.Completes n) :
    m.writtenFor .completion = [configurationDone n] ∧
      ∃ seq, n = Request.seqAfter seq ∧ m.relay.phase = .attached seq := by
  cases advance with
  | relayed _ _ completions | other _ _ completions => simp [Moment.Completes, completions] at completes
  | completed initializes phase requests completions =>
      simp only [Moment.Completes, completions, List.mem_singleton, configurationDone_inj] at completes
      subst completes
      exact ⟨completions, _, rfl, phase⟩

/-- Unless a moment completes the configuration nothing is written for it. -/
theorem of_incomplete (advance : Advance m next) (incomplete : ¬ m.Completed) : m.writtenFor .completion = [] := by
  cases advance with
  | relayed _ _ completions | other _ _ completions => exact completions
  | completed _ _ _ completions => exact absurd ⟨_, by rw [Moment.Completes, completions]; exact .head []⟩ incomplete

end Advance

/-- What is written when the adapter is initialized is written to complete the configuration. -/
theorem Moment.writes_of_initializes (m : Moment) (initializes : m.input.Initializes) :
    m.writtenFor .completion = m.writes.map Prod.snd := by
  obtain ⟨r, i⟩ := m
  obtain ⟨event, announced, -⟩ := initializes
  have reason : i.reason = .completion := by
    cases i with
    | adapter message =>
        rw [Input.ofKind?] at announced
        split at announced
        · next kind => simp [Input.reason, kind]
        · cases announced
    | header frame | request frame | adapterLost => cases announced
  simp [writtenFor, writes, writesFor, reason, List.filter_map, Function.comp_def]

/-- How many messages of a row are an `attach`. -/
def attaches (messages : List Json) : Nat :=
  messages.countP fun message => message.getString? "command" = some "attach"

/-- How many attaches wait for the configuration to be completed. -/
def waiting : Phase → Nat
  | .attached _ => 1
  | .idle | .configuring _ => 0

/-- A completion takes up an `attach` that waits, and only one that is passed on begins to wait. -/
theorem Advance.count {m : Moment} {next : Phase} (advance : Advance m next) :
    (m.writtenFor .completion).length + waiting next ≤ waiting m.relay.phase + attaches (m.writtenFor .request) := by
  cases advance with
  | relayed quiet requests completions attach => simp [attaches, requests, completions, attach, waiting]
  | completed initializes phase requests completions => simp [requests, completions, phase, waiting]
  | other quiet requests completions same =>
      have stays : waiting next = waiting m.relay.phase := by
        cases phase : m.relay.phase with
        | attached seq => rw [(same seq).mpr phase]
        | idle | configuring seq =>
            cases next with
            | attached seq => cases phase.symm.trans ((same seq).mp rfl)
            | idle | configuring seq => rfl
      simp [completions, stays]

/-- There is no more than one completion for every attach. -/
theorem count_run (r : Relay) (inputs : List Input) :
    (writtenFor .completion r inputs).length + waiting (r.run inputs).1.phase ≤
      waiting r.phase + attaches (writtenFor .request r inputs) := by
  induction inputs generalizing r with
  | nil => simp [writtenFor, history]
  | cons i inputs ih =>
      have first := (advance ⟨r, i⟩).count
      have rest := ih (r.step i).1
      simp only [writtenFor, history, List.flatMap_cons, List.length_append, attaches, List.countP_append,
        run_cons] at *
      omega

/-! ## Runs -/

/-- The moment at which an input reaches the relay after a run. -/
def momentAfter (inputs : List Input) (i : Input) : Moment :=
  ⟨(start.run inputs).1, i⟩

/-- The relay waits for `initialized` with the number of the last attach that it relayed, unless a configuration was
completed since. -/
theorem attached_run (inputs : List Input) (seq : Int) :
    (start.run inputs).1.phase = .attached seq ↔
      Since (Moment.RelaysAttach seq) (fun m => m.Relays ∨ m.Completed) (history start inputs) := by
  refine (since_run (P := fun r => r.phase = .attached seq) fun m _ => (advance m).relaysAttach_iff seq).trans ?_
  exact or_iff_right fun ⟨idle, _⟩ => nomatch idle

/-- The relay waits for `initialized` exactly if it has relayed an attach since the last completion. -/
theorem waiting_run (inputs : List Input) :
    (∃ seq, (start.run inputs).1.phase = .attached seq) ↔
      Since Moment.Relays Moment.Completed (history start inputs) := by
  refine (since_run (P := fun r => ∃ seq, r.phase = .attached seq) fun m _ => (advance m).relays_iff).trans ?_
  exact or_iff_right fun ⟨⟨_, idle⟩, _⟩ => nomatch idle

/-- At every point of a run and whatever comes next: the relay completes the configuration exactly if the adapter
announces that it is initialized, and some `attach` has been passed on since the relay did so last. It then does so
once, under the number after that of the latest `attach`. So it does not do so more often than there were attaches, and
with none since the last time it writes nothing. -/
theorem completion_iff (inputs : List Input) (i : Input) :
    ((momentAfter inputs i).Completed ↔
        i.Initializes ∧ Since Moment.Relays Moment.Completed (history start inputs)) ∧
      (∀ n, (momentAfter inputs i).Completes n →
        (momentAfter inputs i).writtenFor .completion = [configurationDone n] ∧
          ∃ seq, n = Request.seqAfter seq ∧
            Since (Moment.RelaysAttach seq) Moment.Relays (history start inputs)) ∧
      (i.Initializes → ¬ (momentAfter inputs i).Completed → (momentAfter inputs i).writes = []) ∧
      (writtenFor .completion start inputs).length ≤ attaches (writtenFor .request start inputs) := by
  have advance := advance (momentAfter inputs i)
  refine ⟨?_, fun n completes => ?_, fun initializes incomplete => ?_, ?_⟩
  · rw [advance.completed_iff, ← waiting_run]
    rfl
  · obtain ⟨written, seq, number, phase⟩ := advance.of_completes completes
    obtain ⟨before, m, after, shape, relays, quiet⟩ := (attached_run inputs seq).mp phase
    exact ⟨written, seq, number, before, m, after, shape, relays, fun later member => mt .inl (quiet later member)⟩
  · have written := (momentAfter inputs i).writes_of_initializes initializes
    rw [advance.of_incomplete incomplete] at written
    exact List.map_eq_nil_iff.mp written.symm
  · have count := count_run start inputs
    have none : waiting start.phase = 0 := rfl
    omega

/-- After an `attach` with the greatest number the configuration is completed under the least one, and not under the
number that is one more. -/
theorem completion_after_greatest :
    (momentAfter [.request (attachFrame 9223372036854775807)] (.adapter initialized)).writes =
        [(.completion, configurationDone (-9223372036854775808))] ∧
      ¬ (momentAfter [.request (attachFrame 9223372036854775807)] (.adapter initialized)).Completes
        (9223372036854775807 + 1) := by
  have written : (momentAfter [.request (attachFrame 9223372036854775807)] (.adapter initialized)).writes =
      [(.completion, configurationDone (-9223372036854775808))] := by decide +kernel
  refine ⟨written, ?_⟩
  simp [Moment.Completes, Moment.writtenFor, written, configurationDone_inj]

/-- Two attaches wait, the latter without a number. They are completed once, and the next event finds none. -/
example : writtenFor .completion start [.request (attachFrame 4),
    .request (Json.encode (Json.ofMembers [("command", .str "attach")])), .adapter initialized,
    .adapter initialized] = [configurationDone 1] := by decide +kernel

end DebugBridge.Relay
