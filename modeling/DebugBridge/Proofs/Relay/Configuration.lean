import DebugBridge.Proofs.Relay.Conservation

/-!
# Which responses the control side does not get

The relay answers for the front end when it completes the configuration, so the adapter's answer to that request is for
nobody. It knows that answer by the number it remembers, and an `attach` makes it forget the number: `withheld_iff`
gives the exact condition, and `withheld_iff_overtaken` a run in which an answer to the relay itself goes back to the
control side.
-/

namespace DebugBridge.Relay

/-- The relay completes the configuration under a number. -/
def Moment.Completes (seq : Int) (m : Moment) : Prop :=
  configurationDone seq ∈ m.writtenFor .completion

/-- The adapter answers the request that completes the configuration under a number. -/
def Moment.Confirms (seq : Int) (m : Moment) : Prop :=
  ∃ message, m.input = .adapter message ∧ Relay.Confirms seq message

/-- The control side sends an `attach`. -/
def Moment.Attaches (m : Moment) : Prop :=
  ∃ message, m.input.asked? = some message ∧ message.getString? "command" = some "attach"

/-- Something began in a row, and nothing has ended it since. -/
def Since {α : Type} (began ended : α → Prop) (xs : List α) : Prop :=
  ∃ before x after, xs = before ++ x :: after ∧ began x ∧ ∀ y ∈ after, ¬ ended y

/-- The number is that of a request of the relay's own whose answer has not come. -/
def Unanswered (seq : Int) (moments : List Moment) : Prop :=
  Since (Moment.Completes seq) (Moment.Confirms seq) moments

/-- The number is that of such a request, and no `attach` has come after it either. -/
def Remembered (seq : Int) (moments : List Moment) : Prop :=
  Since (Moment.Completes seq) (fun m => m.Confirms seq ∨ m.Attaches) moments

/-- What holds since some moment began there or later. -/
theorem since_cons {α : Type} {began ended : α → Prop} {x : α} {xs : List α} :
    Since began ended (x :: xs) ↔ began x ∧ (∀ y ∈ xs, ¬ ended y) ∨ Since began ended xs := by
  constructor
  · rintro ⟨before, y, after, shape, start, quiet⟩
    cases before with
    | nil =>
        cases shape
        exact .inl ⟨start, quiet⟩
    | cons z before =>
        cases shape
        exact .inr ⟨before, y, after, rfl, start, quiet⟩
  · rintro (⟨start, quiet⟩ | ⟨before, y, after, rfl, start, quiet⟩)
    · exact ⟨[], x, xs, rfl, start, quiet⟩
    · exact ⟨x :: before, y, after, rfl, start, quiet⟩

theorem not_since_nil {α : Type} {began ended : α → Prop} : ¬ Since began ended [] := by
  simp [Since]

/-- One more in a row begins it, or leaves it as it was. -/
theorem since_snoc {α : Type} {began ended : α → Prop} {x : α} {xs : List α} :
    Since began ended (xs ++ [x]) ↔ began x ∨ Since began ended xs ∧ ¬ ended x := by
  induction xs with
  | nil => simp [since_cons, not_since_nil]
  | cons y xs ih =>
      rw [List.cons_append, since_cons, since_cons, ih]
      simp only [List.mem_append, List.mem_singleton, or_imp, forall_and, forall_eq]
      tauto

/-- There is a latest one of a kind if there is one. -/
theorem since_self_iff {α : Type} {p : α → Prop} {xs : List α} : Since p p xs ↔ ∃ x ∈ xs, p x := by
  induction xs with
  | nil => simp [not_since_nil]
  | cons x xs ih =>
      rw [since_cons, ih]
      simp only [List.mem_cons, exists_eq_or_imp]
      by_cases later : ∃ y ∈ xs, p y
      · exact iff_of_true (.inr later) (.inr later)
      · have none : ∀ y ∈ xs, ¬ p y := fun y member holds => later ⟨y, member, holds⟩
        exact or_congr_left ⟨And.left, fun holds => ⟨holds, none⟩⟩

/-- Requests to end the configuration differ by their numbers. -/
theorem configurationDone_inj {m n : Int} : configurationDone m = configurationDone n ↔ m = n := by
  constructor
  · intro same
    have seq := congrArg (fun message : Json => message.get? "seq") same
    simpa [configurationDone, Json.get?_ofMembers, List.lookup] using seq
  · rintro rfl
    rfl

/-- Nothing but a response confirms. -/
theorem not_confirms {message : Json} {k : Kind} (kind : Kind.of? message = some k) (other : k ≠ .response)
    (seq : Int) : ¬ Confirms seq message := by
  intro own
  rw [own.kind] at kind
  exact other (Option.some.inj kind).symm

/-- The relay awaits the answer to a request that it sends, and does so until that answer or an `attach` comes. -/
theorem phase_moment {m : Moment} (living : m.Living) (seq : Int) :
    (m.relay.step m.input).1.phase = .configuring seq ↔
      m.Completes seq ∨ m.relay.phase = .configuring seq ∧ ¬ (m.Confirms seq ∨ m.Attaches) := by
  have stepped := living.stepped
  simp only [Moment.Completes, Moment.Confirms, Moment.Attaches, Moment.writtenFor, Moment.writes, writesFor]
  generalize m.outputs = outputs, m.input = i, (m.relay.step m.input).1 = next at stepped ⊢
  cases stepped with
  | kept frame => simp [Input.asked?]
  | malformed read => simp [Input.asked?, read, Except.toOption]
  | passedOn read other =>
      simp [Input.asked?, Input.reason, Output.written?, read, Except.toOption, other, readHeaders]
  | attached read attach => simp [Input.asked?, Input.reason, Output.written?, read, Except.toOption, attach]
  | published kind quiet =>
      simp [Input.asked?, Input.reason, Output.written?, kind, not_confirms kind (by decide) seq]
  | @completed event number kind initialized phase =>
      simp only [Input.reason, kind, phase]
      show _ ↔ configurationDone seq ∈ [configurationDone (Request.seqAfter number)] ∨ _
      simp [configurationDone_inj, eq_comm]
  | passedBack kind other =>
      simpa [Input.asked?, Output.written?] using other seq
  | @withheld message number phase own =>
      simp only [phase, Phase.configuring.injEq]
      refine iff_of_false (by simp) ?_
      rintro (completes | ⟨rfl, other⟩)
      · simp at completes
      · exact other (.inl ⟨message, rfl, own⟩)
  | refused kind => simp [Input.asked?, Input.reason, Output.written?, kind, not_confirms kind (by decide) seq]
  | @unknown message kind =>
      have silent : ¬ Confirms seq message := fun own => by simp [own.kind] at kind
      simp [Input.asked?, silent]

/-- A condition that every moment of a run begins, or leaves as it was unless it ends it, holds at the end of the run if
it has begun there and not ended since. -/
theorem since_run {P : Relay → Prop} {began ended : Moment → Prop} {r : Relay} {inputs : List Input}
    (each : ∀ m ∈ history r inputs, (P (m.relay.step m.input).1 ↔ began m ∨ P m.relay ∧ ¬ ended m)) :
    P (r.run inputs).1 ↔
      P r ∧ (∀ m ∈ history r inputs, ¬ ended m) ∨ Since began ended (history r inputs) := by
  induction inputs generalizing r with
  | nil => simp [history, not_since_nil]
  | cons i inputs ih =>
      rw [history, List.forall_mem_cons] at each
      rw [history, List.forall_mem_cons, since_cons]
      refine (ih each.2).trans ?_
      rw [each.1, or_and_right, and_assoc, or_assoc, or_left_comm]

/-- After a run the relay awaits an answer if it did before and nothing has ended that, or if it has sent the request
since and nothing after that has. -/
theorem phase_run {r : Relay} (alive : r.adapterAlive = true) {inputs : List Input}
    (present : .adapterLost ∉ inputs) (seq : Int) :
    (r.run inputs).1.phase = .configuring seq ↔
      r.phase = .configuring seq ∧ (∀ m ∈ history r inputs, ¬ (m.Confirms seq ∨ m.Attaches)) ∨
        Remembered seq (history r inputs) :=
  since_run (P := fun r => r.phase = .configuring seq) fun _ member =>
    phase_moment (living_of_mem_history alive present member) seq

/-- What the relay gives for a message of the adapter after a run. -/
def givenFor (message : Json) (inputs : List Input) : List Output :=
  ((start.run inputs).1.step (.adapter message)).2

/-- A response of the adapter goes back to the control side, unless it answers a request that the relay sent to complete
the configuration and still remembers: no such answer has come since, and no `attach`. -/
theorem withheld_iff (inputs : List Input) (present : .adapterLost ∉ inputs) {message : Json}
    (kind : Kind.of? message = some .response) :
    (givenFor message inputs = [] ↔ ∃ seq, Confirms seq message ∧ Remembered seq (history start inputs)) ∧
      (givenFor message inputs = [] ∨ givenFor message inputs = [.reply message]) := by
  have alive : (start.run inputs).1.adapterAlive = true := adapterAlive_run rfl present
  have phase (seq : Int) : (start.run inputs).1.phase = .configuring seq ↔ Remembered seq (history start inputs) := by
    rw [phase_run rfl present]
    exact or_iff_right fun ⟨idle, _⟩ => nomatch idle
  have step := stepped alive (i := .adapter message) nofun
  rw [givenFor]
  generalize ((start.run inputs).1.step (.adapter message)).2 = outputs,
    ((start.run inputs).1.step (.adapter message)).1 = next at step ⊢
  cases step with
  | withheld waits own => exact ⟨iff_of_true rfl ⟨_, own, (phase _).mp waits⟩, .inl rfl⟩
  | passedBack _ other =>
      refine ⟨iff_of_false nofun ?_, .inr rfl⟩
      rintro ⟨seq, own, remembered⟩
      exact other seq ((phase seq).mpr remembered) own
  | published other | completed other | refused other | unknown other =>
      rw [kind] at other
      cases other

/-- An `attach`, the event that makes the relay complete the configuration, and another `attach`. -/
def overtaken : List Input :=
  [.request (attachFrame 1), .adapter initialized, .request (attachFrame 5)]

/-- The relay has sent the request with number 2 and its answer has not come, but the control side gets that answer. -/
theorem withheld_iff_overtaken :
    Unanswered 2 (history start overtaken) ∧ Confirms 2 (confirmation 2) ∧
      givenFor (confirmation 2) overtaken = [.reply (confirmation 2)] := by
  have either := (withheld_iff overtaken (by decide) (show Kind.of? (confirmation 2) = some .response by decide)).2
  refine ⟨⟨[⟨start, _⟩], ⟨(start.step _).1, .adapter initialized⟩, [⟨_, .request (attachFrame 5)⟩], rfl, ?_, ?_⟩,
    by decide, either.resolve_left (by decide +kernel)⟩
  · show _ ∈ _
    decide +kernel
  · rintro m member ⟨message, isMessage, -⟩
    rw [List.mem_singleton.mp member] at isMessage
    cases isMessage

end DebugBridge.Relay
