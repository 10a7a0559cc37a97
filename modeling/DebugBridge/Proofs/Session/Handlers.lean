import DebugBridge.Proofs.Rendering.Contract
import DebugBridge.Proofs.Session.Forwarding

/-!
# Handlers that use the adapter

An `attach` request goes to the adapter with its arguments changed: they point the adapter to the address that it
listens at, and have it write logs. `attach_forwards` says that the message is otherwise the front end's own, that it is
the only one, and what the answer is. A session answers `attach` in this way over its own round trip
(`process_attach`), and it renders a variable as `Rendering.inspect` does over the same (`process_rendering`).
-/

namespace DebugBridge

namespace Request

/-! ## The message -/

/-- A message is another one with its arguments pointing an adapter to an address. Arguments that are no object give
way to an empty one. -/
structure PointedTo (address : Address) (message sent : Json) : Prop where
  object : ∃ members, sent = .obj members ∧ Members.Sorted members
  others {key : String} (other : key ≠ "arguments") : sent.get? key = message.get? key
  arguments : ∃ arguments, sent.get? "arguments" = some (.obj arguments) ∧ Members.Sorted arguments ∧
    arguments.lookup "connect" =
      some (Json.ofMembers [("host", .str address.host), ("port", .int address.port)]) ∧
    arguments.lookup "logToFile" = some (.bool true) ∧
    ∀ key, key ≠ "connect" → key ≠ "logToFile" → arguments.lookup key = argumentOf message key

/-- The arguments of an attach are its own but for two. -/
theorem lookup_attachArguments (address : Address) (arguments : Members) (key : String) :
    (attachArguments address arguments).lookup key =
      if key = "logToFile" then some (.bool true)
      else if key = "connect" then some (Json.ofMembers [("host", .str address.host), ("port", .int address.port)])
      else arguments.lookup key := by
  rw [attachArguments, Members.lookup_insert, Members.lookup_insert]

theorem sorted_attachArguments (address : Address) {arguments : Members} (sorted : Members.Sorted arguments) :
    Members.Sorted (attachArguments address arguments) :=
  Members.sorted_insert _ _ (Members.sorted_insert _ _ sorted)

/-- A rewritten attach is the message, pointed to the adapter's address. -/
theorem pointedTo_attachMessage (address : Address) {message : Json} {r : Request} (wellFormed : message.WellFormed)
    (read : ofJson? message = .ok r) : PointedTo address message (attachMessage address message) := by
  obtain ⟨members, rfl, -⟩ := takenFrom_of_ofJson? wellFormed read
  have inner : ((members.lookup "arguments").getD .null).WellFormed := by
    cases found : members.lookup "arguments" with
    | none => trivial
    | some v => exact Json.wellFormed_of_get? wellFormed found
  have given (key : String) : ((members.lookup "arguments").getD .null).membersD.lookup key =
      argumentOf (.obj members) key := by
    rw [Json.lookup_membersD, argumentOf, Json.get?]
    cases members.lookup "arguments" <;> rfl
  refine ⟨⟨_, rfl, Members.sorted_insert _ _ wellFormed.1⟩, get?_attachMessage address _, ?_⟩
  refine ⟨_, (Members.lookup_insert ..).trans (if_pos rfl),
    sorted_attachArguments address (Json.sorted_membersD inner), ?_, ?_, fun key noConnect noLog => ?_⟩
  · rw [lookup_attachArguments]
    rfl
  · rw [lookup_attachArguments]
    rfl
  · rw [lookup_attachArguments, if_neg noLog, if_neg noConnect, given]

/-! ## The answer -/

/-- The answer to a request that was passed on: the adapter's reply, or a failure if there is none. -/
def answer (r : Request) : Except Error Json → Json
  | .ok reply => reply
  | .error e => (Response.fail r e.message).toJson

/-- A reply tells that a message has failed, and why. -/
structure TellsFailure (message : Json) (text : String) (reply : Json) : Prop where
  type : reply.get? "type" = some (.str "response")
  success : reply.get? "success" = some (.bool false)
  seq : reply.get? "seq" = message.get? "seq"
  requestSeq : reply.get? "request_seq" = message.get? "seq"
  command : reply.get? "command" = message.get? "command"
  text : reply.get? "message" = some (.str text)

/-- A failure tells the message its reason. -/
theorem tellsFailure_fail {message : Json} {r : Request} (wellFormed : message.WellFormed)
    (read : ofJson? message = .ok r) (text : String) : TellsFailure message text (Response.fail r text).toJson := by
  obtain ⟨members, rfl, taken⟩ := takenFrom_of_ofJson? wellFormed read
  have seq : (Json.obj members).get? "seq" = some (.int r.seq) := taken.seq
  have command : (Json.obj members).get? "command" = some (.str r.command) := taken.command
  constructor <;> simp [Response.fail, Response.toJson, Json.get?_ofMembers, List.lookup, seq, command]

open Rendering (recorded)

/-- Exactly one message is forwarded, whatever comes of it. It is the front end's own with its arguments pointing the
adapter to its address. The adapter's reply is the answer as it is; without one the message has failed. -/
theorem attach_forwards {σ : Type} {message : Json} {r : Request} (wellFormed : message.WellFormed)
    (read : ofJson? message = .ok r) (address : Address) (forward : Json → σ → Except Error Json × σ) (s : σ) :
    ∃ sent result t, PointedTo address message sent ∧ forward sent s = (result, t) ∧
      r.attach address forward s = (result, t) ∧
      r.attach address (recorded .forwarded forward) (s, []) = (result, t, [.forwarded sent]) ∧
      (∀ reply, result = .ok reply → r.answer result = reply) ∧
      ∀ e, result = .error e → TellsFailure message e.message (r.answer result) := by
  have sent := attachTo_of_ofJson? wellFormed read address
  refine ⟨attachMessage address message, _, _, pointedTo_attachMessage address wellFormed read, rfl, ?_, ?_, ?_, ?_⟩
  · rw [attach, sent]
  · rw [attach, sent]
    rfl
  · rintro reply replied
    rw [replied]
    rfl
  · rintro e failed
    rw [failed]
    exact tellsFailure_fail wellFormed read e.message

section Sample

/-- A request with a field of its own, and with one argument in the way and one to keep. -/
def sampleAttach : Json :=
  Json.ofMembers [("type", .str "request"), ("seq", .int 3), ("command", .str "attach"), ("origin", .str "notebook"),
    ("arguments", Json.ofMembers [("connect", .int 7), ("justMyCode", .bool true)])]

/-- No adapter replies to it. -/
def noReply : Json → Unit → Except Error Json × Unit := fun _ s => (.error .notStarted, s)

/-- The sample goes to the adapter with one argument replaced and one added, and has failed without a reply. -/
theorem attach_forwards_sampleAttach :
    ∃ r sent, ofJson? sampleAttach = .ok r ∧ PointedTo ⟨"127.0.0.1", 5678⟩ sampleAttach sent ∧
      (r.attach ⟨"127.0.0.1", 5678⟩ (recorded .forwarded noReply) ((), [])).2.2 = [.forwarded sent] ∧
      sent.get? "origin" = some (.str "notebook") ∧ argumentOf sent "justMyCode" = some (.bool true) ∧
      TellsFailure sampleAttach Error.notStarted.message (r.answer (.error .notStarted)) := by
  have read : ofJson? sampleAttach = .ok _ := rfl
  obtain ⟨sent, result, t, pointed, replied, -, onRecord, -, failed⟩ :=
    attach_forwards (by decide +kernel) read ⟨"127.0.0.1", 5678⟩ noReply ()
  obtain ⟨rfl, -⟩ := Prod.mk.injEq .. ▸ replied
  obtain ⟨arguments, held, -, -, -, kept⟩ := pointed.arguments
  refine ⟨_, sent, read, pointed, by rw [onRecord], ?_, ?_, failed _ rfl⟩
  · rw [pointed.others (by decide)]
    rfl
  · rw [argumentOf, held]
    exact (kept "justMyCode" (by decide) (by decide)).trans rfl

end Sample

end Request

namespace Session

variable {σ : Type} (out : Outside σ) {s : Session} {message : Json} {r : Request}

/-- A running session answers `attach` over its own round trip, and stays as the round trip leaves it. -/
theorem process_attach (sound : s.Sound) (running : s.worker ≠ none) (read : Request.ofJson? message = .ok r)
    (isAttach : r.command = "attach") (header : Json) (early arrivals : List Arrival) (meanwhile : σ → σ) (o : σ) :
    s.process out header message early arrivals meanwhile o =
      let (result, next) := r.attach s.address (fun sent (t : Session) =>
        t.roundTrip header sent (arrivals.foldl arrive ·)) (early.foldl arrive s)
      (r.answer result, next, meanwhile o) := by
  have started : s.isStarted = true := by simpa [isStarted, Option.isSome_iff_ne_none] using running
  let call : Call := ⟨r, (r.attachTo s.address).toJson, .answer⟩
  have begun : s.begin out header message early o = s.forward out header early call o := by
    refine begin_of_passed out read (by rw [isAttach]; decide) ?_ header early
    exact consider_of_handler out s .attach isAttach (fun _ => started) o
  rw [process_eq, begun, finish_forward out sound running]
  rfl

/-- A session renders a variable over its own round trip, into a slot of the outside's choice. -/
theorem process_rendering (sound : s.Sound) (read : Request.ofJson? message = .ok r)
    (isRendering : r.command = "richInspectVariables") (header : Json) (early arrivals : List Arrival)
    (meanwhile : σ → σ) (o : σ) :
    (s.process out header message early arrivals meanwhile o).1 =
      settle r (Rendering.inspect out.scope (fun sent o =>
        (((early.foldl arrive s).roundTrip header sent (arrivals.foldl arrive ·)).1, meanwhile o))
        s.threads.anyStopped (Slot.ofId (out.slotId o).1) r (out.slotId o).2).1 := by
  have other : r.command ≠ "initialize" := by rw [isRendering]; decide
  have handled : s.consider out r o = s.consult out r .richInspectVariables o :=
    consider_of_handler out s .richInspectVariables isRendering nofun o
  rcases drawn : out.slotId o with ⟨id, p⟩
  rw [process_eq]
  cases planned : Rendering.plan s.threads.anyStopped (Slot.ofId id) r with
  | refuse e =>
      have begun : s.begin out header message early o = (.answered (Response.fail r e.message).toJson, s, p) := by
        refine begin_of_answered out read other ?_ header early
        simp only [handled, consult, drawn, planned]
      rw [begun, Rendering.inspect, planned]
      rfl
  | direct subject =>
      have begun : s.begin out header message early o =
          (.answered (settle r (Rendering.renderDirectly out.scope (Slot.ofId id) subject r p).1), s,
            (Rendering.renderDirectly out.scope (Slot.ofId id) subject r p).2) := by
        refine begin_of_answered out read other ?_ header early
        simp only [handled, consult, drawn, planned]
      rw [begun, Rendering.inspect, planned]
      rfl
  | inFrame sent =>
      have begun : s.begin out header message early o =
          s.forward out header early ⟨r, sent, .rendering (Slot.ofId id)⟩ p := by
        refine begin_of_passed out read other ?_ header early
        simp only [handled, consult, drawn, planned]
      -- Threads are stopped only while the session runs.
      have running : s.worker ≠ none := by
        intro stopped
        have none : s.threads.anyStopped = false := by
          rw [(sound.idle stopped).threads]
          rfl
        cases named : r.stringArgument "variableName" <;> simp [Rendering.plan, none, named] at planned
      rw [begun, finish_forward out sound running, Rendering.inspect, planned]
      dsimp only
      generalize (early.foldl arrive s).roundTrip header sent (arrivals.foldl arrive ·) = outcome
      obtain ⟨result, next⟩ := outcome
      cases result with
      | error e => rfl
      | ok reply => rfl

end Session
end DebugBridge
