import DebugBridge.Message.Handler
import DebugBridge.Proofs.Json.Decoded
import DebugBridge.Proofs.Json.RoundTrip
import DebugBridge.Rendering.Inspect

/-!
# Requests and their messages

A request that was read stands for its message: `toJson_of_ofJson?` gives back all of the message but null
arguments. The messages that the bridge makes of a request, for `attach` and for rendering a variable, stay
within what the reader of JSON gives back unchanged.
-/

namespace DebugBridge.Request

/-! ## Reading the fields -/

/-- Every field read so far is one of the members. -/
structure Fields.From (fields : Fields) (members : Members) : Prop where
  seq : ∀ n, fields.seq = some n → ("seq", .int n) ∈ members ∧ n < 2 ^ 63
  type : ∀ t, fields.type = some t → ("type", .str t) ∈ members
  command : ∀ c, fields.command = some c → ("command", .str c) ∈ members

/-- Members that come later take nothing away from what was read before. -/
theorem Fields.From.append {fields : Fields} {members : Members} (source : fields.From members)
    (others : Members) : fields.From (members ++ others) where
  seq n found := ⟨List.mem_append_left others (source.seq n found).1, (source.seq n found).2⟩
  type t found := List.mem_append_left others (source.type t found)
  command c found := List.mem_append_left others (source.command c found)

/-- A number that is expected has to be an integer below `2 ^ 63`. -/
theorem int_of_expectInt {v : Json} {n : Int} (expected : Json.expectInt v = .ok n) :
    v = .int n ∧ n < 2 ^ 63 := by
  cases v with
  | int m =>
      rw [Json.expectInt] at expected
      split at expected
      · next small =>
          cases expected
          exact ⟨rfl, small⟩
      · cases expected
  | null | bool b | float bits | str s | arr items | obj members => cases expected

theorem str_of_expectString {v : Json} {s : String} (expected : Json.expectString v = .ok s) : v = .str s := by
  cases v with
  | str t =>
      cases expected
      rfl
  | null | bool b | int n | float bits | arr items | obj members => cases expected

/-- Taking in a member keeps the fields among the members. -/
theorem Fields.From.add {fields next : Fields} {before : Members} {name : String} {v : Json}
    (source : fields.From before) (added : fields.add name v = .ok next) :
    next.From (before ++ [(name, v)]) := by
  have kept := source.append [(name, v)]
  rw [Fields.add.eq_def] at added
  split at added
  · obtain ⟨n, expected, rfl⟩ := Json.ok_of_map added
    obtain ⟨rfl, small⟩ := int_of_expectInt expected
    refine { kept with seq := ?_ }
    rintro m ⟨⟩
    exact ⟨List.mem_append_right before List.mem_cons_self, small⟩
  · obtain ⟨t, expected, rfl⟩ := Json.ok_of_map added
    obtain rfl := str_of_expectString expected
    refine { kept with type := ?_ }
    rintro u ⟨⟩
    exact List.mem_append_right before List.mem_cons_self
  · obtain ⟨c, expected, rfl⟩ := Json.ok_of_map added
    obtain rfl := str_of_expectString expected
    refine { kept with command := ?_ }
    rintro d ⟨⟩
    exact List.mem_append_right before List.mem_cons_self
  · cases added
    exact kept

/-- What is read of members comes from them. -/
theorem Fields.From.addAll {fields out : Fields} {before members : Members} (source : fields.From before)
    (read : fields.addAll members = .ok out) : out.From (before ++ members) := by
  induction members generalizing fields before with
  | nil =>
      cases read
      exact source.append []
  | cons m members ih =>
      rw [Fields.addAll] at read
      split at read
      · next next added =>
          have step := ih (source.add added) read
          rwa [List.append_assoc] at step
      · cases read

/-- What a request takes from the members of its message. -/
structure TakenFrom (r : Request) (members : Members) : Prop where
  seq : members.lookup "seq" = some (.int r.seq)
  small : r.seq < 2 ^ 63
  type : members.lookup "type" = some (.str "request")
  command : members.lookup "command" = some (.str r.command)
  arguments : r.arguments = (members.lookup "arguments").getD .null
  extra : r.extra = members.filter fun m => m.1 ∉ fieldNames

/-- A request is taken from its members. -/
theorem takenFrom_of_readFields {members : Members} {type : String} {r : Request}
    (sorted : Members.Sorted members) (read : readFields members = .ok (type, r)) (isRequest : type = "request") :
    r.TakenFrom members := by
  have nothing : (⟨none, none, none⟩ : Fields).From [] := ⟨nofun, nofun, nofun⟩
  rw [readFields] at read
  split at read
  · cases read
  · next fields added =>
      have source := nothing.addAll added
      split at read
      · cases read
      · cases read
      · cases read
      · next seq type command hasSeq hasType hasCommand =>
          cases read
          have found {key : String} {v : Json} (member : (key, v) ∈ members) : members.lookup key = some v :=
            Members.lookup_eq_some_of_mem sorted member
          exact ⟨found (source.seq seq hasSeq).1, (source.seq seq hasSeq).2,
            isRequest ▸ found (source.type type hasType), found (source.command command hasCommand), rfl, rfl⟩

/-- Only an object is read as a request, and then every field is the object's. -/
theorem takenFrom_of_ofJson? {message : Json} {r : Request} (wellFormed : message.WellFormed)
    (read : ofJson? message = .ok r) : ∃ members, message = .obj members ∧ r.TakenFrom members := by
  cases message with
  | obj members =>
      refine ⟨members, rfl, ?_⟩
      rw [ofJson?] at read
      split at read
      · cases read
      · next type request fields =>
          split at read
          · next isRequest =>
              cases read
              exact takenFrom_of_readFields wellFormed.1 fields isRequest
          · cases read
  | null | bool b | int n | float bits | str s | arr items => cases read

/-! ## Writing the fields back -/

/-- Members without arguments that are null. -/
def dropNullArguments (members : Members) : Members :=
  if members.lookup "arguments" = some .null then members.erase "arguments" else members

/-- A message as it is passed on: all of it but null arguments. -/
def passedOn : Json → Json
  | .obj members => .obj (dropNullArguments members)
  | v => v

/-- Members stay in order when null arguments are dropped. -/
theorem sorted_dropNullArguments {members : Members} (sorted : Members.Sorted members) :
    Members.Sorted (dropNullArguments members) := by
  rw [dropNullArguments]
  split
  · exact Members.sorted_filter _ sorted
  · exact sorted

theorem mem_of_mem_dropNullArguments {members : Members} {m : String × Json}
    (member : m ∈ dropNullArguments members) : m ∈ members := by
  rw [dropNullArguments] at member
  split at member
  · exact (List.mem_filter.mp member).1
  · exact member

/-- No member but null arguments is dropped. -/
theorem lookup_dropNullArguments (members : Members) (key : String) :
    (dropNullArguments members).lookup key =
      if key = "arguments" ∧ members.lookup "arguments" = some .null then none else members.lookup key := by
  rw [dropNullArguments]
  by_cases isNull : members.lookup "arguments" = some .null
  · rw [if_pos isNull, Members.erase]
    have filtered := Members.lookup_filter (fun k => decide (k ≠ "arguments")) key members
    rw [filtered]
    by_cases same : key = "arguments" <;> simp [same, isNull]
  · simp [isNull]

theorem lookup_dropNullArguments_of_ne (members : Members) {key : String} (other : key ≠ "arguments") :
    (dropNullArguments members).lookup key = members.lookup key := by
  rw [lookup_dropNullArguments, if_neg fun both => other both.1]

section TakenFrom

variable {r : Request} {members : Members}

/-- The members that every request has, as a request writes them. -/
def ownMembers (r : Request) : Members :=
  [("seq", .int r.seq), ("type", .str "request"), ("command", .str r.command)] ++
    if r.arguments = .null then [] else [("arguments", r.arguments)]

theorem lookup_ownMembers_of_extra (r : Request) {key : String} (other : key ∉ fieldNames) :
    r.ownMembers.reverse.lookup key = none := by
  have differs : ∀ name ∈ fieldNames, (key == name) = false := by
    intro name member
    rw [beq_eq_false_iff_ne]
    rintro rfl
    exact other member
  have seq := differs "seq" (by decide)
  have type := differs "type" (by decide)
  have command := differs "command" (by decide)
  have arguments := differs "arguments" (by decide)
  rw [ownMembers]
  split <;> simp [List.lookup, seq, type, command, arguments]

/-- Under each key of every request stands what the members have there, except for null arguments. -/
theorem TakenFrom.lookup_ownMembers (taken : r.TakenFrom members) {key : String} (own : key ∈ fieldNames) :
    r.ownMembers.reverse.lookup key = (dropNullArguments members).lookup key := by
  have arguments := taken.arguments
  rw [ownMembers]
  simp only [fieldNames, List.mem_cons, List.not_mem_nil, or_false] at own
  rcases own with rfl | rfl | rfl | rfl
  · rw [lookup_dropNullArguments_of_ne members (by decide), taken.seq]
    split <;> simp [List.lookup]
  · rw [lookup_dropNullArguments_of_ne members (by decide), taken.type]
    split <;> simp [List.lookup]
  · rw [lookup_dropNullArguments_of_ne members (by decide), taken.command]
    split <;> simp [List.lookup]
  · rw [lookup_dropNullArguments]
    cases found : members.lookup "arguments" with
    | none => simp [arguments, found, List.lookup]
    | some v => by_cases isNull : v = .null <;> simp [arguments, found, isNull, List.lookup]

/-- A request that was read is written as its message, apart from null arguments. -/
theorem TakenFrom.toJson_eq (taken : r.TakenFrom members) (sorted : Members.Sorted members) :
    r.toJson = .obj (dropNullArguments members) := by
  have written : r.toJson = Json.ofMembers (r.ownMembers ++ r.extra) := rfl
  rw [written, Json.ofMembers]
  congr 1
  apply (Members.sorted_ofList _).ext (sorted_dropNullArguments sorted)
  intro key
  have extraSorted : Members.Sorted r.extra := by
    rw [taken.extra]
    exact Members.sorted_filter _ sorted
  have extra : r.extra.lookup key = if key ∉ fieldNames then members.lookup key else none := by
    rw [taken.extra, Members.lookup_filter (fun k => decide (k ∉ fieldNames)) key members]
    simp
  rw [Members.lookup_ofList, List.reverse_append, List.lookup_append,
    Members.lookup_reverse_of_sorted extraSorted, extra]
  by_cases own : key ∈ fieldNames
  · rw [if_neg fun other => other own, Option.none_or, taken.lookup_ownMembers own]
  · have noArguments : key ≠ "arguments" := by
      rintro rfl
      exact own (by decide)
    rw [if_pos own, lookup_ownMembers_of_extra r own, Option.or_none,
      lookup_dropNullArguments_of_ne members noArguments]

/-- A request with other arguments is the request of the members with other arguments. -/
theorem TakenFrom.updateArguments (taken : r.TakenFrom members) (sorted : Members.Sorted members)
    (f : Members → Members) :
    (r.updateArguments f).TakenFrom
      (Members.insert "arguments" (.obj (f ((members.lookup "arguments").getD .null).membersD)) members) := by
  have kept {key : String} (other : key ≠ "arguments") (v : Json) :
      (Members.insert "arguments" v members).lookup key = members.lookup key := by
    rw [Members.lookup_insert, if_neg other]
  have extra (v : Json) : (Members.insert "arguments" v members).filter (fun m => m.1 ∉ fieldNames) =
      members.filter fun m => m.1 ∉ fieldNames := by
    apply (Members.sorted_filter _ (Members.sorted_insert _ v sorted)).ext (Members.sorted_filter _ sorted)
    intro key
    rw [Members.lookup_filter (fun k => decide (k ∉ fieldNames)) key,
      Members.lookup_filter (fun k => decide (k ∉ fieldNames)) key, Members.lookup_insert]
    by_cases isArguments : key = "arguments"
    · rw [isArguments]
      rfl
    · rw [if_neg isArguments]
  refine ⟨(kept (by decide) _).trans taken.seq, taken.small, (kept (by decide) _).trans taken.type,
    (kept (by decide) _).trans taken.command, ?_, taken.extra.trans (extra _).symm⟩
  rw [Members.lookup_insert, if_pos rfl, Request.updateArguments, taken.arguments]
  rfl

end TakenFrom

/-! ## Messages for the adapter -/

/-- The arguments of an `attach` request, pointing the adapter to its own address and its log. -/
def attachArguments (address : Address) (arguments : Members) : Members :=
  Members.insert "logToFile" (.bool true)
    (Members.insert "connect"
      (Json.ofMembers [("host", .str address.host), ("port", .int address.port)]) arguments)

/-- An `attach` message as it is passed on: its arguments point the adapter to its own address, and the
rest is kept. -/
def attachMessage (address : Address) : Json → Json
  | .obj members => .obj (Members.insert "arguments"
      (.obj (attachArguments address ((members.lookup "arguments").getD .null).membersD)) members)
  | v => v

section Sent

variable {message : Json} {r : Request}

/-- A request that was read is passed on as its message. -/
theorem toJson_of_ofJson? (wellFormed : message.WellFormed) (read : ofJson? message = .ok r) :
    r.toJson = passedOn message := by
  obtain ⟨members, rfl, taken⟩ := takenFrom_of_ofJson? wellFormed read
  exact taken.toJson_eq wellFormed.1

/-- An `attach` request that was read is passed on with its arguments changed and nothing else. -/
theorem attachTo_of_ofJson? (wellFormed : message.WellFormed) (read : ofJson? message = .ok r)
    (address : Address) : (r.attachTo address).toJson = attachMessage address message := by
  obtain ⟨members, rfl, taken⟩ := takenFrom_of_ofJson? wellFormed read
  have sorted := wellFormed.1
  have rewritten := (taken.updateArguments sorted (attachArguments address)).toJson_eq
    (Members.sorted_insert _ _ sorted)
  have isThere : ¬ (Members.insert "arguments"
      (.obj (attachArguments address ((members.lookup "arguments").getD .null).membersD)) members).lookup
        "arguments" = some .null := by
    rw [Members.lookup_insert, if_pos rfl]
    exact nofun
  rw [dropNullArguments, if_neg isThere] at rewritten
  exact rewritten

/-- The number and the command of a request are those of its message. -/
theorem fields_of_ofJson? (wellFormed : message.WellFormed) (read : ofJson? message = .ok r) :
    message.getInt? "seq" = some r.seq ∧ message.getString? "command" = some r.command ∧
      -2 ^ 63 ≤ r.seq ∧ r.seq < 2 ^ 63 := by
  obtain ⟨members, rfl, taken⟩ := takenFrom_of_ofJson? wellFormed read
  have value := Json.wellFormedMembers_iff.mp wellFormed.2 _ (Members.mem_of_lookup_eq_some taken.seq)
  refine ⟨?_, ?_, value.1, taken.small⟩
  · simpa [Json.getInt?, Json.get?, taken.seq, Json.asInt?] using taken.small
  · simp [Json.getString?, Json.get?, taken.command, Json.asString?]

/-- A request as there are requests: its number is a signed word, and what it has besides the four fields of every
request stands under other names. -/
structure Regular (r : Request) : Prop where
  least : -2 ^ 63 ≤ r.seq
  most : r.seq < 2 ^ 63
  extra : ∀ m ∈ r.extra, m.1 ∉ fieldNames
  wellFormed : r.toJson.WellFormed

/-- A request is written with its number and its command. -/
theorem Regular.fields (regular : r.Regular) :
    r.toJson.getInt? "seq" = some r.seq ∧ r.toJson.getString? "command" = some r.command := by
  have written : r.toJson = Json.ofMembers (r.ownMembers ++ r.extra) := rfl
  have own {key : String} (field : key ∈ fieldNames) : r.toJson.get? key = r.ownMembers.reverse.lookup key := by
    have none : r.extra.reverse.lookup key = none := by
      refine List.lookup_eq_none_iff.mpr fun m member => ?_
      have other := regular.extra m (List.mem_reverse.mp member)
      rw [bne_iff_ne]
      rintro rfl
      exact other field
    rw [written, Json.get?_ofMembers, List.reverse_append, List.lookup_append, none, Option.none_or]
  have small : r.seq < 9223372036854775808 := by simpa using regular.most
  rw [Json.getInt?, Json.getString?, own (by decide), own (by decide), ownMembers]
  split <;> simp [List.lookup, Json.asInt?, Json.asString?, small]

/-- An `attach` message keeps what stands under every key but that of the arguments. -/
theorem get?_attachMessage (address : Address) (message : Json) {key : String} (other : key ≠ "arguments") :
    (attachMessage address message).get? key = message.get? key := by
  cases message with
  | obj members => exact (Members.lookup_insert "arguments" key _ members).trans (if_neg other)
  | null | bool b | int n | float bits | str s | arr items => rfl

/-- An argument that a message has, if its arguments are an object. -/
def argumentOf (message : Json) (name : String) : Option Json :=
  (message.get? "arguments").bind fun arguments => arguments.get? name

/-- An argument of a request is one of its message. -/
theorem argument?_of_ofJson? (wellFormed : message.WellFormed) (read : ofJson? message = .ok r)
    (name : String) : r.argument? name = argumentOf message name := by
  obtain ⟨members, rfl, taken⟩ := takenFrom_of_ofJson? wellFormed read
  rw [argument?, argumentOf, taken.arguments, Json.get?]
  cases members.lookup "arguments" <;> rfl

/-! ## What a request inherits from its message -/

variable {P : Nat → Json → Prop} (inherited : Json.Inherited P) {limit : Nat}

include inherited

/-- What is written for a request inherits what the message has. -/
theorem inherited_toJson (held : P (limit + 1) message) (read : ofJson? message = .ok r) :
    P (limit + 1) r.toJson := by
  obtain ⟨members, rfl, taken⟩ := takenFrom_of_ofJson? (inherited.wellFormed held) read
  obtain ⟨sorted, values⟩ := inherited.obj_iff.mp held
  rw [taken.toJson_eq sorted, inherited.obj_iff]
  exact ⟨sorted_dropNullArguments sorted, fun m member => values m (mem_of_mem_dropNullArguments member)⟩

theorem inherited_attachArguments {address : Address} (port : address.port < 2 ^ 16) {arguments : Members}
    (held : P (limit + 2) (.obj arguments)) : P (limit + 2) (.obj (attachArguments address arguments)) := by
  refine inherited.insert (inherited.bool _ true) (inherited.insert ?_ held)
  apply inherited.ofMembers
  simp only [List.forall_mem_cons]
  refine ⟨inherited.text limit _, inherited.int limit ?_ ?_, by simp⟩
  · simp only [Json.minInt]
    omega
  · simp only [Json.maxInt]
    omega

/-- What is written for a rewritten attach inherits what the message has. -/
theorem inherited_attachTo (held : P (limit + 3) message) (read : ofJson? message = .ok r)
    {address : Address} (port : address.port < 2 ^ 16) : P (limit + 3) (r.attachTo address).toJson := by
  rw [attachTo_of_ofJson? (inherited.wellFormed held) read]
  obtain ⟨members, rfl, taken⟩ := takenFrom_of_ofJson? (inherited.wellFormed held) read
  obtain ⟨sorted, values⟩ := inherited.obj_iff.mp held
  refine inherited.insert (inherited_attachArguments inherited port ?_) held
  have nothing : P (limit + 2) (.obj []) := inherited.obj_iff.mpr ⟨List.Pairwise.nil, by simp⟩
  cases found : members.lookup "arguments" with
  | none => exact nothing
  | some v =>
      have inner : P (limit + 2) v := values _ (Members.mem_of_lookup_eq_some found)
      cases v with
      | obj arguments => exact inner
      | null | bool b | int n | float bits | str s | arr items => exact nothing

/-- The request that renders a variable is within a limit of its own. -/
theorem inherited_setExpression (slot : Slot) (subject : String) {frame seq : Int}
    (isFrame : -2 ^ 63 ≤ frame ∧ frame < 2 ^ 63) (isSeq : -2 ^ 63 ≤ seq ∧ seq < 2 ^ 64) :
    P (limit + 2) (slot.setExpression subject frame seq) := by
  apply inherited.ofMembers
  simp only [List.forall_mem_cons]
  refine ⟨inherited.text _ _, inherited.text _ _, inherited.int _ isSeq.1 isSeq.2, ?_, by simp⟩
  apply inherited.ofMembers
  simp only [List.forall_mem_cons]
  refine ⟨inherited.text _ _, inherited.text _ _, inherited.int _ isFrame.1 ?_, by simp⟩
  simp only [Json.maxInt]
  omega

end Sent

/-- What was read as a request is one. -/
theorem regular_of_ofJson? {message : Json} {r : Request} (wellFormed : message.WellFormed)
    (read : ofJson? message = .ok r) : r.Regular := by
  obtain ⟨-, -, least, most⟩ := fields_of_ofJson? wellFormed read
  have written : r.toJson.WellFormed := @inherited_toJson message r _ Json.inherited_wellFormed 0 wellFormed read
  refine ⟨least, most, fun m member => ?_, written⟩
  obtain ⟨members, -, taken⟩ := takenFrom_of_ofJson? wellFormed read
  rw [taken.extra] at member
  exact of_decide_eq_true (List.mem_filter.mp member).2

end DebugBridge.Request
