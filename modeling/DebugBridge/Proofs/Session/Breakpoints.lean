import DebugBridge.Proofs.Relay.Configuration
import DebugBridge.Proofs.Session.Run

/-!
# Breakpoints over a run

Which breakpoints are set is told by what the front end has asked since the session was last stopped, each message with
the reply to it (`Answering`). `breakpoints_listed` reads off that row what a `debugInfo` reply lists: for each source
the latest successful reply alone decides. Nothing is assumed of the hub, of what arrives or of what others do.
-/

namespace DebugBridge

/-- The arguments of a request are those of the message that it was read from, null if it has none. -/
theorem Request.arguments_of_ofJson? {message : Json} {r : Request} (read : ofJson? message = .ok r) :
    r.arguments = (message.get? "arguments").getD .null := by
  cases message with
  | obj members =>
      simp only [ofJson?, readFields] at read
      split at read
      · cases read
      · next type request fields =>
          split at fields
          · cases fields
          · split at fields
            · cases fields
            · cases fields
            · cases fields
            · cases fields
              split at read
              · cases read
                rfl
              · cases read
  | null | bool | int | float | str | arr => cases read

namespace Session

open Relay (Since since_snoc since_self_iff)

/-! ## Messages and their replies -/

/-- A message of the front end with the reply to it. -/
structure Answered where
  message : Json
  reply : Json

/-- The path of the source that a message names in its arguments. -/
def pathIn (message : Json) : Option String :=
  ((message.get? "arguments").bind fun arguments => arguments.get? "source").bind fun source => source.getString? "path"

/-- The breakpoints that a reply tells of, none if it has no list of them. -/
def breakpointsOf (reply : Json) : Json :=
  ((reply.get? "body").bind fun body => body.get? "breakpoints").getD (.arr [])

/-- The breakpoints of a source are set: the message asks for that, and the reply tells of success. -/
structure Answered.Sets (path : String) (a : Answered) : Prop where
  asks : Asks a.message "setBreakpoints"
  names : pathIn a.message = some path
  success : a.reply.getBool? "success" = some true

/-- What an answer makes of the breakpoints known before it. -/
inductive RecordedAs (known : Members) (a : Answered) : Members → Prop where
  /-- Nothing is left, as the session stops with it. -/
  | emptied (asks : Asks a.message "disconnect") : RecordedAs known a []
  /-- The breakpoints of one source are set. -/
  | set {path : String} (sets : a.Sets path) :
      RecordedAs known a (Members.insert path (breakpointsOf a.reply) known)
  /-- They stay as they are. -/
  | kept (stays : ¬ Asks a.message "disconnect") (other : ∀ path, ¬ a.Sets path) : RecordedAs known a known

/-- A disconnect forgets all breakpoints. -/
theorem RecordedAs.of_disconnect {known after : Members} {a : Answered} (recorded : RecordedAs known a after)
    (asks : Asks a.message "disconnect") : after = [] := by
  cases recorded with
  | emptied _ => rfl
  | set sets =>
      obtain ⟨r, read, disconnect⟩ := asks
      obtain ⟨r', read', breakpoints⟩ := sets.asks
      cases read.symm.trans read'
      exact absurd (disconnect.symm.trans breakpoints) (by decide)
  | kept stays _ => exact absurd asks stays

/-- A request that sets none changes none. -/
theorem RecordedAs.of_silent {known after : Members} {a : Answered} (recorded : RecordedAs known a after)
    (stays : ¬ Asks a.message "disconnect") (silent : ∀ path, ¬ a.Sets path) : after = known := by
  cases recorded with
  | emptied asks => exact absurd asks stays
  | set sets => exact absurd sets (silent _)
  | kept _ _ => rfl

/-- What a message asks for is its request's command. -/
theorem asks_iff {message : Json} {r : Request} (read : Request.ofJson? message = .ok r) (command : String) :
    Asks message command ↔ r.command = command := by
  simp [Asks, read]

/-- The source of a request is the one in its message. -/
theorem sourcePath_of_ofJson? {message : Json} {r : Request} (read : Request.ofJson? message = .ok r) :
    sourcePath r = pathIn message := by
  rw [sourcePath, pathIn, Request.argument?, Request.arguments_of_ofJson? read]
  cases message.get? "arguments" <;> rfl

/-- A reply to a message that asks for breakpoints is recorded if it tells of success and a source is named. -/
theorem recordedAs_recordBreakpoints (s : Session) {message : Json} {r : Request}
    (read : Request.ofJson? message = .ok r) (command : r.command = "setBreakpoints") (reply : Json) :
    RecordedAs s.breakpoints ⟨message, reply⟩ (s.recordBreakpoints r reply).breakpoints := by
  have stays : ¬ Asks message "disconnect" := by
    rw [asks_iff read, command]
    decide
  rw [recordBreakpoints, sourcePath_of_ofJson? read]
  split
  · next success =>
      split
      · next pathless =>
          refine .kept stays fun path sets => ?_
          cases pathless.symm.trans sets.names
      · next path names => exact .set ⟨(asks_iff read _).mpr command, names, success⟩
  · next failed => exact .kept stays fun path sets => failed sets.success

/-! ## What a message changes -/

variable {σ : Type} (out : Outside σ)

/-- A start leaves the breakpoints alone, whatever comes of it. -/
theorem breakpoints_start (s : Session) (o : σ) : (s.start out o).2.1.breakpoints = s.breakpoints := by
  cases running : s.worker with
  | some w => rw [start_of_started out (isStarted_of_running running)]
  | none =>
      rw [start_eq out running]
      rcases out.makeDirectory s.kernel.logDirectory o with ⟨e | _, o₁⟩
      · rfl
      · obtain ⟨launch, transcript, o₂, launched⟩ := s.ensureLaunched_eq out o₁
        simp only [launched]
        split
        · rcases out.makeDirectory s.kernel.cellDirectory o₂ with ⟨e | _, o₃⟩
          · rfl
          · obtain ⟨result, hub, request, header, binds⟩ := ({ s with launch, transcript } : Session).bindControl_eq
            simp only [engage, binds]
            cases result with
            | error e => rfl
            | ok _ =>
                rcases Session.startWorker_cases (s := { s with launch, transcript, hub, request, header })
                  (out.dial s.address s.settings o₃).1 with ⟨e, hub, asked⟩ | ⟨hub, w, asked⟩
                · simp only [asked]
                  rfl
                · simp only [asked]
        · rfl

/-- What is begun comes to, after all that arrives for it. -/
def completed (arrivals : List Arrival) (meanwhile : σ → σ) (begun : Progress × Session × σ) : Json × Session × σ :=
  (arrivals.foldl arrive begun.2.1).finish out begun.1 (meanwhile begun.2.2)

/-- A call that is forwarded ends as it is concluded, with the breakpoints that were known when it began. -/
theorem completed_forward (s : Session) (header : Json) (early arrivals : List Arrival) (call : Call)
    (meanwhile : σ → σ) (o : σ) :
    ∃ (ready : Session) (result : Except Error Json) (o' : σ), ready.breakpoints = s.breakpoints ∧
      (completed out arrivals meanwhile (s.forward out header early call o)).1 =
        (ready.conclude out call result o').1 ∧
      (completed out arrivals meanwhile (s.forward out header early call o)).2.1.breakpoints =
        (ready.conclude out call result o').2.1.breakpoints := by
  have arrived := (s.keeps_arrivals early).breakpoints
  rw [forward]
  cases passed : (early.foldl arrive s).submit header call.sent with
  | error e =>
      refine ⟨early.foldl arrive s, .error e, o, arrived, rfl, ?_⟩
      exact (keeps_arrivals _ arrivals).breakpoints
  | ok next =>
      refine ⟨((arrivals.foldl arrive next).collect call.sent).2, _, meanwhile o, ?_, rfl, rfl⟩
      have waited := (next.keeps_arrivals arrivals).trans (keeps_collect _ call.sent)
      exact waited.breakpoints.trans ((keeps_submit passed).breakpoints.trans arrived)

/-- Only a request for breakpoints and a `disconnect` do more than leave them alone. -/
theorem breakpoints_process_of_other (s : Session) (header : Json) {message : Json} (early arrivals : List Arrival)
    (meanwhile : σ → σ) (o : σ) (noBreakpoints : ¬ Asks message "setBreakpoints")
    (stays : ¬ Asks message "disconnect") :
    (s.process out header message early arrivals meanwhile o).2.1.breakpoints = s.breakpoints := by
  have begun := begin_cases out s header message early o
  show (completed out arrivals meanwhile (s.begin out header message early o)).2.1.breakpoints = s.breakpoints
  generalize s.begin out header message early o = outcome at begun ⊢
  cases begun with
  | malformed refused => exact (keeps_arrivals _ arrivals).breakpoints
  | answered read seq command other own => exact (keeps_arrivals _ arrivals).breakpoints
  | notStarted read command failed =>
      have started := (s.ensureStarted_eq out o).1
      rw [failed] at started
      have kept := breakpoints_start out s o
      rw [← started] at kept
      exact (keeps_arrivals _ arrivals).breakpoints.trans kept
  | @forwarded r call ready o' read planned attempt =>
      have before : ready.breakpoints = s.breakpoints := by
        rcases attempt with ⟨-, success⟩ | ⟨-, rfl⟩
        · have started := (s.ensureStarted_eq out o).1
          rw [success] at started
          have kept := breakpoints_start out s o
          rwa [← started] at kept
        · rfl
      obtain ⟨waited, result, o'', known, -, after⟩ :=
        completed_forward out ready header early arrivals call meanwhile o'
      rw [after]
      have purpose (command : String) (asked : r.command = command) : Asks message command :=
        (asks_iff read command).mpr asked
      rcases waited.conclude_session out call result o'' with same | ⟨stops, -⟩ | ⟨records, -, -, -⟩
      · rw [same, known, before]
      · rcases (callFor_cases planned).2 with ⟨-, rendering, -⟩ | ⟨-, -, disconnect, -⟩
        · cases rendering.symm.trans stops
        · exact absurd (purpose _ (disconnect stops)) stays
      · rcases (callFor_cases planned).2 with ⟨-, rendering, -⟩ | ⟨-, -, -, setting, -⟩
        · cases rendering.symm.trans records
        · exact absurd (purpose _ (setting records)) noBreakpoints

/-- What a message changes of the breakpoints is told by the message and the reply to it. -/
theorem recordedAs_process (s : Session) (header message : Json) (early arrivals : List Arrival)
    (meanwhile : σ → σ) (o : σ) :
    RecordedAs s.breakpoints ⟨message, (s.process out header message early arrivals meanwhile o).1⟩
      (s.process out header message early arrivals meanwhile o).2.1.breakpoints := by
  -- A call passed on for its request is begun as it is forwarded, also by a session that is not started.
  by_cases disconnects : Asks message "disconnect"
  · obtain ⟨r, read, command⟩ := disconnects
    have begun : s.begin out header message early o =
        s.forward out header early ⟨r, r.toJson, .disconnect⟩ o :=
      begin_of_passed out read (by rw [command]; decide) (by simp only [consider, command]) header early
    obtain ⟨ready, result, o', -, -, after⟩ :=
      completed_forward out s header early arrivals ⟨r, r.toJson, .disconnect⟩ meanwhile o
    rw [← begun] at after
    exact after ▸ .emptied ⟨r, read, command⟩
  by_cases sets : Asks message "setBreakpoints"
  · obtain ⟨r, read, command⟩ := sets
    have begun : s.begin out header message early o =
        s.forward out header early ⟨r, r.toJson, .breakpoints⟩ o :=
      begin_of_passed out read (by rw [command]; decide) (by simp only [consider, command]) header early
    obtain ⟨ready, result, o', known, reply, after⟩ :=
      completed_forward out s header early arrivals ⟨r, r.toJson, .breakpoints⟩ meanwhile o
    rw [← begun] at reply after
    have recorded := recordedAs_recordBreakpoints ready read command
      (ready.conclude out ⟨r, r.toJson, .breakpoints⟩ result o').1
    rw [known, ← reply] at recorded
    exact after ▸ reply ▸ recorded
  · rw [breakpoints_process_of_other out s header early arrivals meanwhile o sets disconnects]
    exact .kept disconnects fun path setting => sets setting.asks

/-! ## Runs -/

/-- The messages that have been answered since the last stop, after a move. A `disconnect` ends with a stop. -/
def Move.answered (s : Session) (o : σ) (row : List Answered) : Move σ → List Answered
  | .process header message early arrivals meanwhile =>
    if Asks message "disconnect" then []
    else row ++ [⟨message, (s.process out header message early arrivals meanwhile o).1⟩]
  | .stop => []
  | _ => row

/-- The states that any order of moves leads to from a new session, with the messages that it has answered since it was
last stopped. -/
inductive Answering : Session → σ → List Answered → Prop where
  | create {kernel : Kernel} {settings : Settings} {address : Address} {config : Config} {launch : Launch.State}
      {hub : Hub} {traced : Bool} {s : Session} {o : σ}
      (created : create kernel settings address config launch hub traced = .ok s) : Answering s o []
  | step {s : Session} {o : σ} {row : List Answered} (prior : Answering s o row) (move : Move σ) :
      Answering (s.next out o move).1 (s.next out o move).2 (move.answered out s o row)

/-- The breakpoints known are those that a row of answers tells of: for every source the latest that were set. -/
structure Told (row : List Answered) (known : Members) : Prop where
  sorted : known.Sorted
  latest : ∀ path breakpoints, known.lookup path = some breakpoints ↔
    Since (fun a => a.Sets path ∧ breakpointsOf a.reply = breakpoints) (Answered.Sets path) row

/-- Of a new session there is nothing to tell. -/
theorem told_nil : Told [] [] :=
  ⟨.nil, fun _ _ => by simp [Relay.not_since_nil]⟩

/-- One more answer tells what is made of the breakpoints, unless it is to a `disconnect`. -/
theorem Told.snoc {row : List Answered} {known after : Members} {a : Answered} (told : Told row known)
    (stays : ¬ Asks a.message "disconnect") (recorded : RecordedAs known a after) : Told (row ++ [a]) after := by
  cases recorded with
  | emptied asks => exact absurd asks stays
  | @set path sets =>
      refine ⟨Members.sorted_insert _ _ told.sorted, fun other breakpoints => ?_⟩
      rw [Members.lookup_insert, since_snoc, ← told.latest]
      by_cases same : other = path
      · subst same
        simp [sets]
      · have apart : ¬ a.Sets other := fun also => same (Option.some.inj (also.names.symm.trans sets.names))
        simp [same, apart]
  | kept _ silent =>
      refine ⟨told.sorted, fun path breakpoints => ?_⟩
      simp [since_snoc, ← told.latest, silent path]

variable {out} {s : Session} {o : σ} {row : List Answered}

/-- The breakpoints are what was told of them. -/
theorem Answering.told (answering : Answering out s o row) : Told row s.breakpoints := by
  induction answering with
  | create created =>
      rw [Session.create] at created
      split at created
      · cases created
      · cases created
        exact told_nil
  | @step s o row prior move ih =>
      cases move with
      | process header message early arrivals meanwhile =>
          have recorded := recordedAs_process out s header message early arrivals meanwhile o
          simp only [Session.next, Move.answered]
          split
          · next asks =>
              rw [recorded.of_disconnect asks]
              exact told_nil
          · next stays => exact ih.snoc stays recorded
      | start =>
          simp only [Session.next, Move.answered, breakpoints_start]
          exact ih
      | stop => exact told_nil
      | nextEvent time =>
          simp only [Session.next, Move.answered, (s.keeps_nextEvent time).breakpoints]
          exact ih
      | arrive a =>
          simp only [Session.next, Move.answered, (s.keeps_arrive a).breakpoints]
          exact ih
      | takeOutbox => exact ih
      | outside change => exact ih
      | elsewhere hub => exact ih

/-! ## What is listed -/

/-- The list of breakpoints in a reply. -/
def breakpointsIn (reply : Json) : Option Json :=
  (reply.get? "body").bind fun body => body.get? "breakpoints"

/-- A source with its breakpoints, as it is listed. -/
def listedAs (entry : String × Json) : Json :=
  Json.ofMembers [("source", .str entry.1), ("breakpoints", entry.2)]

/-- A `debugInfo` reply lists the breakpoints as they are recorded. -/
theorem breakpointsIn_debugInfo (s : Session) (r : Request) :
    breakpointsIn (s.debugInfo r).toJson = some (.arr (s.breakpoints.map listedAs)) := by
  have listed : List.map listedAs = List.map fun b => Json.ofMembers [("source", .str b.1), ("breakpoints", b.2)] := rfl
  simp [breakpointsIn, debugInfo, Response.succeed, Response.toJson, Json.get?_ofMembers, List.lookup, listed]

/-- What the front end is told of breakpoints at any point of a run: a `debugInfo` reply lists, in ascending order of
their paths, the sources whose breakpoints were set since the session was last stopped, each once and with what the
latest reply that set them tells. A `disconnect` leaves nothing to list, and any other message that does not get
breakpoints set leaves the list as it is. -/
theorem breakpoints_listed (answering : Answering out s o row) (header message : Json) (early arrivals : List Arrival)
    (meanwhile : σ → σ) :
    (Asks message "debugInfo" →
      breakpointsIn (s.process out header message early arrivals meanwhile o).1 =
          some (.arr (s.breakpoints.map listedAs))) ∧
      s.breakpoints.Pairwise (fun a b => a.1 < b.1) ∧
      (∀ path, (∃ breakpoints, (path, breakpoints) ∈ s.breakpoints) ↔ ∃ a ∈ row, a.Sets path) ∧
      (∀ path breakpoints, (path, breakpoints) ∈ s.breakpoints ↔
        Since (fun a => a.Sets path ∧ breakpointsOf a.reply = breakpoints) (Answered.Sets path) row) ∧
      (Asks message "disconnect" →
        (s.process out header message early arrivals meanwhile o).2.1.breakpoints = []) ∧
      (¬ Asks message "disconnect" →
        (∀ path, ¬ Answered.Sets path ⟨message, (s.process out header message early arrivals meanwhile o).1⟩) →
          (s.process out header message early arrivals meanwhile o).2.1.breakpoints = s.breakpoints) := by
  obtain ⟨sorted, latest⟩ := answering.told
  have recorded := recordedAs_process out s header message early arrivals meanwhile o
  have known (path : String) (breakpoints : Json) : (path, breakpoints) ∈ s.breakpoints ↔
      Since (fun a => a.Sets path ∧ breakpointsOf a.reply = breakpoints) (Answered.Sets path) row :=
    ⟨fun member => (latest _ _).mp (Members.lookup_eq_some_of_mem sorted member),
      fun since => Members.mem_of_lookup_eq_some ((latest _ _).mpr since)⟩
  refine ⟨fun asks => ?_, sorted, fun path => ?_, known, recorded.of_disconnect, recorded.of_silent⟩
  · obtain ⟨r, read, command⟩ := asks
    have begun : s.begin out header message early o = (.answered (s.debugInfo r).toJson, s, o) :=
      begin_of_answered out read (by rw [command]; decide) (by simp only [consider, command]) header early
    simp only [Session.process, begun, finish]
    exact breakpointsIn_debugInfo s r
  · simp only [known, ← since_self_iff]
    constructor
    · rintro ⟨breakpoints, before, a, after, shape, ⟨sets, -⟩, quiet⟩
      exact ⟨before, a, after, shape, sets, quiet⟩
    · rintro ⟨before, a, after, shape, sets, quiet⟩
      exact ⟨breakpointsOf a.reply, before, a, after, shape, ⟨sets, rfl⟩, quiet⟩

/-- A request for breakpoints in a source, and what the adapter answers to it. -/
def breakpointMove (seq : Int) (path : String) (success : Bool) (lines : List Int) : Move Unit :=
  let request := Json.ofMembers [("type", .str "request"), ("seq", .int seq), ("command", .str "setBreakpoints"),
    ("arguments", Json.ofMembers [("source", Json.ofMembers [("path", .str path)])])]
  let response := Json.ofMembers [("type", .str "response"), ("request_seq", .int seq),
    ("command", .str "setBreakpoints"), ("success", .bool success),
    ("body", Json.ofMembers [("breakpoints", .arr (lines.map .int))])]
  .process .null request [] [.message response] id

/-- The running sample after requests for breakpoints in two sources, the last of which fails. -/
def breakpointSample : Session :=
  [breakpointMove 3 "b.py" true [1, 2], breakpointMove 4 "a.py" true [5], breakpointMove 5 "b.py" true [2],
    breakpointMove 6 "a.py" false []].foldl (fun s move => (s.next obliging () move).1) runningSample

/-- The two sources are listed, `b.py` with what was set last and `a.py` with what was set before the failure. After a
`disconnect` that the adapter does not answer nothing is left. -/
theorem breakpoints_listed_breakpointSample :
    breakpointsIn (breakpointSample.process obliging .null (bareRequest 7 "debugInfo") [] [] id ()).1 =
        some (.arr [listedAs ("a.py", .arr [.int 5]), listedAs ("b.py", .arr [.int 2])]) ∧
      (breakpointSample.process obliging .null (bareRequest 8 "disconnect") [] [] id ()).2.1.breakpoints = [] := by
  have created : create idleSample.kernel .default idleSample.address .empty .notStarted .empty false =
      .ok idleSample := rfl
  have started : Answering obliging runningSample () [] := .step (.create created) .start
  have answering := (((started.step (breakpointMove 3 "b.py" true [1, 2])).step
    (breakpointMove 4 "a.py" true [5])).step (breakpointMove 5 "b.py" true [2])).step
    (breakpointMove 6 "a.py" false [])
  have known : breakpointSample.breakpoints = [("a.py", .arr [.int 5]), ("b.py", .arr [.int 2])] := by decide +kernel
  obtain ⟨listed, -⟩ := breakpoints_listed answering .null (bareRequest 7 "debugInfo") [] [] id
  obtain ⟨-, -, -, -, emptied, -⟩ := breakpoints_listed answering .null (bareRequest 8 "disconnect") [] [] id
  refine ⟨(listed (by decide +kernel)).trans ?_, emptied (by decide +kernel)⟩
  exact congrArg (fun entries => some (Json.arr (entries.map listedAs))) known

end Session
end DebugBridge
