import DebugBridge.Proofs.Message.Request

/-!
# The envelope of a request

A message is read as a request exactly if it is an object whose number, type and command are what those of a request
are, whatever else it holds. A request and its message determine each other but for null arguments: `restores`.
-/

namespace DebugBridge.Request

/-- The members of a message with what every request has. -/
structure IsEnvelope (members : Members) : Prop where
  seq : ∃ n : Int, members.lookup "seq" = some (.int n) ∧ -2 ^ 63 ≤ n ∧ n < 2 ^ 63
  type : members.lookup "type" = some (.str "request")
  command : ∃ c, members.lookup "command" = some (.str c)

section Reading

variable {r : Request} {members : Members}

/-- A member does not contradict a request: under a name of a field stands the request's own value. -/
structure Fits (r : Request) (m : String × Json) : Prop where
  seq : m.1 = "seq" → m.2 = .int r.seq
  type : m.1 = "type" → m.2 = .str "request"
  command : m.1 = "command" → m.2 = .str r.command

/-- The fields after members that fit a request: its own wherever there is a member. -/
def Fields.taking (fields : Fields) (r : Request) (members : Members) : Fields where
  seq := if (members.lookup "seq").isSome then some r.seq else fields.seq
  type := if (members.lookup "type").isSome then some "request" else fields.type
  command := if (members.lookup "command").isSome then some r.command else fields.command

/-- A member that fits is taken in as if it were the only one. -/
theorem Fields.add_of_fits {m : String × Json} (small : r.seq < 2 ^ 63) (fits : r.Fits m) (fields : Fields) :
    fields.add m.1 m.2 = .ok (fields.taking r [m]) := by
  obtain ⟨name, v⟩ := m
  by_cases isSeq : name = "seq"
  · obtain rfl : v = .int r.seq := fits.seq isSeq
    have word : r.seq < 9223372036854775808 := small
    subst isSeq
    simp [Fields.add, Fields.taking, Json.expectInt, word, Except.map, List.lookup]
  by_cases isType : name = "type"
  · obtain rfl : v = .str "request" := fits.type isType
    subst isType
    simp [Fields.add, Fields.taking, Json.expectString, Except.map, List.lookup]
  by_cases isCommand : name = "command"
  · obtain rfl : v = .str r.command := fits.command isCommand
    subst isCommand
    simp [Fields.add, Fields.taking, Json.expectString, Except.map, List.lookup]
  have seq : ("seq" == name) = false := by simpa using Ne.symm isSeq
  have type : ("type" == name) = false := by simpa using Ne.symm isType
  have command : ("command" == name) = false := by simpa using Ne.symm isCommand
  simp [Fields.add, Fields.taking, List.lookup, seq, type, command]

theorem Fields.taking_taking (fields : Fields) (r : Request) (m : String × Json) (members : Members) :
    (fields.taking r [m]).taking r members = fields.taking r (m :: members) := by
  obtain ⟨name, v⟩ := m
  have found (key : String) : (((name, v) :: members).lookup key).isSome =
      ((members.lookup key).isSome || ([(name, v)].lookup key).isSome) := by
    cases same : key == name <;> simp [List.lookup, same]
  simp only [Fields.taking, found, Bool.or_eq_true]
  grind

/-- Members that fit are all taken in. -/
theorem Fields.addAll_of_fits (small : r.seq < 2 ^ 63) (fits : ∀ m ∈ members, r.Fits m) (fields : Fields) :
    fields.addAll members = .ok (fields.taking r members) := by
  induction members generalizing fields with
  | nil => rfl
  | cons m members ih =>
      obtain ⟨here, there⟩ := List.forall_mem_cons.mp fits
      rw [Fields.addAll, Fields.add_of_fits small here]
      simp only [ih there, Fields.taking_taking]

/-- The members that a request takes its fields from fit it, as no key occurs twice. -/
theorem TakenFrom.fits (taken : r.TakenFrom members) (sorted : Members.Sorted members) : ∀ m ∈ members, r.Fits m := by
  intro m member
  have stands {key : String} {v : Json} (found : members.lookup key = some v) (same : m.1 = key) : m.2 = v := by
    have here := Members.lookup_eq_some_of_mem sorted member
    rw [same, found] at here
    exact (Option.some.inj here).symm
  exact ⟨stands taken.seq, stands taken.type, stands taken.command⟩

/-- A request is read from every object that it may be taken from. -/
theorem TakenFrom.ofJson? (taken : r.TakenFrom members) (sorted : Members.Sorted members) :
    Request.ofJson? (.obj members) = .ok r := by
  have fields : readFields members = .ok ("request", r) := by
    rw [readFields, Fields.addAll_of_fits taken.small (taken.fits sorted)]
    simp only [Fields.taking, taken.seq, taken.type, taken.command, Option.isSome_some, if_true]
    rw [← taken.arguments, ← taken.extra]
  rw [Request.ofJson?, fields]
  exact if_pos rfl

/-- Every envelope has a request in it. -/
theorem IsEnvelope.exists_takenFrom (envelope : IsEnvelope members) : ∃ r : Request, r.TakenFrom members := by
  obtain ⟨n, seq, -, small⟩ := envelope.seq
  obtain ⟨c, command⟩ := envelope.command
  exact ⟨⟨n, c, (members.lookup "arguments").getD .null, members.filter fun m => m.1 ∉ fieldNames⟩,
    seq, small, envelope.type, command, rfl, rfl⟩

theorem TakenFrom.isEnvelope (taken : r.TakenFrom members) (wellFormed : (Json.obj members).WellFormed) :
    IsEnvelope members := by
  have value := Json.wellFormedMembers_iff.mp wellFormed.2 _ (Members.mem_of_lookup_eq_some taken.seq)
  exact ⟨⟨r.seq, taken.seq, value.1, taken.small⟩, taken.type, r.command, taken.command⟩

/-- Null arguments are as good as none. -/
theorem TakenFrom.dropNullArguments (taken : r.TakenFrom members) (sorted : Members.Sorted members) :
    r.TakenFrom (dropNullArguments members) := by
  have kept {key : String} (other : key ≠ "arguments") := lookup_dropNullArguments_of_ne members other
  refine ⟨(kept (by decide)).trans taken.seq, taken.small, (kept (by decide)).trans taken.type,
    (kept (by decide)).trans taken.command, ?_, ?_⟩
  · rw [taken.arguments, lookup_dropNullArguments]
    split
    · next isNull => rw [isNull.2]; rfl
    · rfl
  · rw [taken.extra]
    apply (Members.sorted_filter _ sorted).ext (Members.sorted_filter _ (sorted_dropNullArguments sorted))
    intro key
    rw [Members.lookup_filter (fun k => decide (k ∉ fieldNames)),
      Members.lookup_filter (fun k => decide (k ∉ fieldNames))]
    by_cases isArguments : key = "arguments"
    · subst isArguments
      rfl
    · rw [kept isArguments]

end Reading

/-- A message is read as a request exactly if it is an envelope. The request is then written as the message without
null arguments, and read from that as it was. -/
theorem restores {message : Json} (wellFormed : message.WellFormed) :
    ((∃ r, ofJson? message = .ok r) ↔ ∃ members, message = .obj members ∧ IsEnvelope members) ∧
      ∀ r, ofJson? message = .ok r → r.toJson = passedOn message ∧ ofJson? r.toJson = .ok r := by
  refine ⟨⟨?_, ?_⟩, fun r read => ?_⟩
  · rintro ⟨r, read⟩
    obtain ⟨members, rfl, taken⟩ := takenFrom_of_ofJson? wellFormed read
    exact ⟨members, rfl, taken.isEnvelope wellFormed⟩
  · rintro ⟨members, rfl, envelope⟩
    obtain ⟨r, taken⟩ := envelope.exists_takenFrom
    exact ⟨r, taken.ofJson? wellFormed.1⟩
  · have written := toJson_of_ofJson? wellFormed read
    obtain ⟨members, rfl, taken⟩ := takenFrom_of_ofJson? wellFormed read
    refine ⟨written, ?_⟩
    rw [written]
    exact (taken.dropNullArguments wellFormed.1).ofJson? (sorted_dropNullArguments wellFormed.1)

/-- A request with the greatest number, with null arguments, and with fields whose names resemble those of every
request. -/
def sampleEnvelope : Members :=
  [("Seq", .null), ("argument", .obj [("seq", .int 18446744073709551615)]), ("arguments", .null),
    ("command", .str "next"), ("seq", .int 9223372036854775807), ("type", .str "request"), ("type ", .arr [.null])]

theorem restores_sampleEnvelope :
    (Json.obj sampleEnvelope).WellFormed ∧ ∃ r, ofJson? (.obj sampleEnvelope) = .ok r ∧
      r.toJson = .obj (sampleEnvelope.erase "arguments") ∧ ofJson? r.toJson = .ok r := by
  have wellFormed : (Json.obj sampleEnvelope).WellFormed := by decide
  obtain ⟨accepted, back⟩ := restores wellFormed
  obtain ⟨r, read⟩ := accepted.mpr ⟨sampleEnvelope, rfl,
    ⟨9223372036854775807, rfl, by decide, by decide⟩, rfl, "next", rfl⟩
  exact ⟨wellFormed, r, read, back r read⟩

end DebugBridge.Request
