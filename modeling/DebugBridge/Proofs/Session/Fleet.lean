import DebugBridge.Proofs.Launch.Snippet
import DebugBridge.Proofs.Session.Run

/-!
# Sessions over one launch

The adapter is launched once for all sessions of a process, at the address of the session that is started first. The
outcome is kept, the address is not. `connects_after_launch` says what that comes to over any number of sessions, starts
and stops: every connection is made to the address of the session that is started, one launch has succeeded before it,
and the code of that launch names the address exactly if it is that of the session which launched the adapter and
nothing in the code stands in the way.
-/

namespace DebugBridge

/-- What is done outside for the adapter. -/
inductive Doing where
  /-- The shell runs code and replies. -/
  | executed (code : String) (reply : Except Error ShellReply)
  /-- A connection is tried. -/
  | dialed (address : Address)

variable {σ : Type}

/-- An outside that keeps a log of what is done for the adapter. -/
def Outside.recorded (out : Outside σ) : Outside (σ × List Doing) where
  scope :=
    { names := fun o => out.scope.names o.1
      value := fun name o => out.scope.value name o.1
      display := fun name o => out.scope.display name o.1
      displayType := fun name o => out.scope.displayType name o.1
      exec := fun code o => ((out.scope.exec code o.1).1, (out.scope.exec code o.1).2, o.2)
      take := fun name o => ((out.scope.take name o.1).1, (out.scope.take name o.1).2, o.2) }
  execute code o :=
    ((out.execute code o.1).1, (out.execute code o.1).2, o.2 ++ [.executed code (out.execute code o.1).1])
  makeDirectory path o := ((out.makeDirectory path o.1).1, (out.makeDirectory path o.1).2, o.2)
  writeFile path text o := ((out.writeFile path text o.1).1, (out.writeFile path text o.1).2, o.2)
  dial address settings o :=
    ((out.dial address settings o.1).1, (out.dial address settings o.1).2, o.2 ++ [.dialed address])
  slotId o := ((out.slotId o.1).1, (out.slotId o.1).2, o.2)

/-- Sessions that share a launch, what is outside, and the log of what was done there for the adapter. -/
structure Fleet (σ : Type) where
  launch : Launch.State
  sessions : List Session
  outside : σ
  log : List Doing

/-- A launch that counts as started went well. -/
theorem Launch.outcome_of_started {reply : Except Error ShellReply} (h : .started = State.ofOutcome (outcome reply)) :
    outcome reply = .ok () := by
  cases answer : outcome reply with
  | error e => rw [answer] at h; cases h
  | ok _ => rfl

namespace Fleet

/-- No session has been built and nothing has been done. -/
def fresh (o : σ) : Fleet σ := ⟨.notStarted, [], o, []⟩

/-- What happens to sessions that share a launch. -/
inductive Act (σ : Type) where
  /-- Another session is built. -/
  | build (s : Session)
  /-- A session is started. -/
  | start (i : Nat)
  | stop (i : Nat)
  /-- A session becomes any other one with the same address and configuration. -/
  | change (i : Nat) (next : Session)
  /-- Something changes outside. -/
  | outside (change : σ → σ)

/-- The sessions after an act. A start finds the launch as all sessions have left it. -/
def step (out : Outside σ) (fleet : Fleet σ) : Act σ → Fleet σ
  | .build s => { fleet with sessions := fleet.sessions ++ [s] }
  | .start i =>
    match fleet.sessions[i]? with
    | none => fleet
    | some s =>
      let (_, next, o, log) := { s with launch := fleet.launch }.start out.recorded (fleet.outside, fleet.log)
      ⟨next.launch, fleet.sessions.set i next, o, log⟩
  | .stop i => { fleet with sessions := fleet.sessions.modify i Session.stop }
  | .change i next =>
    { fleet with
      sessions := fleet.sessions.modify i fun s => { next with address := s.address, config := s.config } }
  | .outside change => { fleet with outside := change fleet.outside }

/-- The sessions after a row of acts. -/
def run (out : Outside σ) (o : σ) (acts : List (Act σ)) : Fleet σ :=
  acts.foldl (step out) (fresh o)

end Fleet

namespace Session

variable (out : Outside σ) {s : Session}

/-! ## What one start does outside -/

/-- Where a session connects to, and how the adapter is launched for it. -/
def target (s : Session) : Address × Config :=
  (s.address, s.config)

/-- What a start adds to the log, and what becomes of the launch in it. -/
inductive Logged (s : Session) : Launch.State → List Doing → Prop where
  | nothing : Logged s s.launch []
  | launched {reply : Except Error ShellReply} (first : s.launch = .notStarted) :
      Logged s (.ofOutcome (Launch.outcome reply)) [.executed (Launch.snippet s.address s.config) reply]
  | dialed (earlier : s.launch = .started) : Logged s .started [.dialed s.address]
  | both {reply : Except Error ShellReply} (first : s.launch = .notStarted) (success : Launch.outcome reply = .ok ()) :
      Logged s .started [.executed (Launch.snippet s.address s.config) reply, .dialed s.address]

/-- After the launch, a start logs that the adapter is dialled, and no more. -/
theorem logged_engage (s : Session) (o : σ) (log : List Doing) :
    (s.engage out.recorded (o, log)).2.1.target = s.target ∧ (s.engage out.recorded (o, log)).2.1.launch = s.launch ∧
      ((s.engage out.recorded (o, log)).2.2.2 = log ∨
        (s.engage out.recorded (o, log)).2.2.2 = log ++ [.dialed s.address]) := by
  obtain ⟨result, hub, request, header, binds⟩ := s.bindControl_eq
  rw [engage, binds]
  cases result with
  | error e => exact ⟨rfl, rfl, .inl rfl⟩
  | ok _ =>
      simp only [Outside.recorded]
      rcases Session.startWorker_cases (s := { s with hub, request, header }) (out.dial s.address s.settings o).1 with
        ⟨e, hub, asked⟩ | ⟨hub, w, asked⟩
      · simp only [asked]
        exact ⟨rfl, rfl, .inr trivial⟩
      · simp only [asked]
        exact ⟨rfl, trivial, .inr trivial⟩

/-- A launch happens if none has happened before. -/
theorem logged_launch (s : Session) (o : σ) (log : List Doing) :
    ∃ launch transcript o' added,
      s.ensureLaunched out.recorded (o, log) = ({ s with launch, transcript }, o', log ++ added) ∧
        (added = [] ∧ launch = s.launch ∨
          s.launch = .notStarted ∧ ∃ reply, added = [.executed (Launch.snippet s.address s.config) reply] ∧
            launch = .ofOutcome (Launch.outcome reply)) := by
  cases first : s.launch with
  | notStarted =>
      refine ⟨.ofOutcome (Launch.outcome (out.execute (Launch.snippet s.address s.config) o).1),
        (s.note (Launch.traceLines s.config)).transcript, (out.execute (Launch.snippet s.address s.config) o).2,
        [.executed (Launch.snippet s.address s.config) (out.execute (Launch.snippet s.address s.config) o).1], ?_,
        .inr ⟨rfl, _, rfl, rfl⟩⟩
      rw [ensureLaunched, first]
      rfl
  | started | failed =>
      refine ⟨_, (s.note []).transcript, o, [], ?_, .inl ⟨rfl, rfl⟩⟩
      rw [ensureLaunched, first, List.append_nil]
      rfl

/-- A start logs a launch if it is the first, and after a launch that succeeded, whoever it was for, at most one
connection, to the address of the session itself. -/
theorem logged_start (s : Session) (o : σ) (log : List Doing) :
    (s.start out.recorded (o, log)).2.1.target = s.target ∧
      ∃ added, (s.start out.recorded (o, log)).2.2.2 = log ++ added ∧
        Logged s (s.start out.recorded (o, log)).2.1.launch added := by
  have nothing : ∃ added, log = log ++ added ∧ Logged s s.launch added := ⟨[], by simp, .nothing⟩
  cases running : s.worker with
  | some w =>
      rw [start_of_started _ (isStarted_of_running running)]
      exact ⟨rfl, nothing⟩
  | none =>
      rw [start_eq out.recorded running]
      rcases logs : out.makeDirectory s.kernel.logDirectory o with ⟨e | _, o₁⟩
      · have failed : out.recorded.makeDirectory s.kernel.logDirectory (o, log) = (.error e, o₁, log) := by
          simp only [Outside.recorded, logs]
        simp only [failed]
        exact ⟨trivial, nothing⟩
      · obtain ⟨launch, transcript, o₂, added, launched, outcome⟩ := s.logged_launch out o₁ log
        have passed : out.recorded.makeDirectory s.kernel.logDirectory (o, log) = (.ok (), o₁, log) := by
          simp only [Outside.recorded, logs]
        have done : Logged s launch added := by
          rcases outcome with ⟨rfl, rfl⟩ | ⟨first, reply, rfl, rfl⟩
          · exact .nothing
          · exact .launched first
        simp only [passed, launched]
        by_cases success : launch = .started
        · rw [if_pos success]
          rcases cells : out.makeDirectory s.kernel.cellDirectory o₂ with ⟨e | _, o₃⟩
          · simp only [Outside.recorded, cells]
            exact ⟨rfl, added, rfl, done⟩
          · have made : out.recorded.makeDirectory s.kernel.cellDirectory (o₂, log ++ added) =
                (.ok (), o₃, log ++ added) := by
              simp only [Outside.recorded, cells]
            simp only [made]
            obtain ⟨kept, still, log' | log'⟩ :=
              logged_engage out { s with launch, transcript } o₃ (log ++ added)
            · exact ⟨kept, added, log', by rw [still]; exact done⟩
            · refine ⟨kept, added ++ [.dialed s.address], by rw [log', List.append_assoc], ?_⟩
              rw [still]
              subst success
              rcases outcome with ⟨rfl, earlier⟩ | ⟨first, reply, rfl, replied⟩
              · exact .dialed earlier.symm
              · exact .both first (Launch.outcome_of_started replied)
        · rw [if_neg success]
          exact ⟨rfl, added, rfl, done⟩

end Session

namespace Fleet

variable (out : Outside σ) {fleet : Fleet σ}

/-! ## The account of a log -/

/-- What code was run, and the replies to it. -/
def launches (log : List Doing) : List (String × Except Error ShellReply) :=
  log.filterMap fun
    | .executed code reply => some (code, reply)
    | .dialed _ => none

/-- Dialling launches nothing. -/
theorem launches_dials (addresses : List Address) : launches (addresses.map .dialed) = [] := by
  rw [launches, List.filterMap_eq_nil_iff]
  intro doing member
  obtain ⟨a, -, rfl⟩ := List.mem_map.mp member
  rfl

/-- The log is that of one launch at most, for one of the sessions, and of connections after it. -/
inductive Accounted (fleet : Fleet σ) : Prop where
  | untouched (launch : fleet.launch = .notStarted) (log : fleet.log = [])
  | launched {target : Address × Config} {reply : Except Error ShellReply} {addresses : List Address}
      (own : target ∈ fleet.sessions.map Session.target)
      (launch : fleet.launch = .ofOutcome (Launch.outcome reply))
      (log : fleet.log = .executed (Launch.snippet target.1 target.2) reply :: addresses.map .dialed)
      (success : addresses ≠ [] → Launch.outcome reply = .ok ())

/-- What keeps a session's target keeps the targets of all. -/
theorem targets_modify (sessions : List Session) (i : Nat) {f : Session → Session}
    (kept : ∀ s, (f s).target = s.target) :
    (sessions.modify i f).map Session.target = sessions.map Session.target := by
  apply List.ext_getElem?
  intro j
  rw [List.getElem?_map, List.getElem?_map, List.getElem?_modify]
  cases sessions[j]? with
  | none => rfl
  | some s => by_cases same : i = j <;> simp [same, kept]

theorem targets_set {sessions : List Session} {i : Nat} {s next : Session} (found : sessions[i]? = some s)
    (kept : next.target = s.target) : (sessions.set i next).map Session.target = sessions.map Session.target := by
  apply List.ext_getElem?
  intro j
  rw [List.getElem?_map, List.getElem?_map, List.getElem?_set]
  by_cases same : i = j
  · subst same
    obtain ⟨inside, here⟩ := List.getElem?_eq_some_iff.mp found
    simp [inside, here, kept]
  · rw [if_neg same]

/-- A session keeps its place, its address and its configuration. -/
theorem targets_step (act : Act σ) :
    ∃ built, (fleet.step out act).sessions.map Session.target = fleet.sessions.map Session.target ++ built := by
  cases act with
  | build s => exact ⟨[s.target], by simp [step]⟩
  | start i =>
      refine ⟨[], ?_⟩
      rw [List.append_nil]
      cases found : fleet.sessions[i]? with
      | none => simp only [step, found]
      | some s =>
          simp only [step, found]
          exact targets_set found
            (Session.logged_start out { s with launch := fleet.launch } fleet.outside fleet.log).1
  | stop i => exact ⟨[], by rw [List.append_nil]; exact targets_modify _ i fun s => rfl⟩
  | change i next => exact ⟨[], by rw [List.append_nil]; exact targets_modify _ i fun s => rfl⟩
  | outside change => exact ⟨[], by rw [List.append_nil]; rfl⟩

/-- A session's start is logged by what it is at that moment. -/
theorem step_start {i : Nat} {s : Session} (found : fleet.sessions[i]? = some s) :
    ∃ added, (fleet.step out (.start i)).log = fleet.log ++ added ∧
      Session.Logged { s with launch := fleet.launch } (fleet.step out (.start i)).launch added := by
  obtain ⟨-, added, log, logged⟩ :=
    Session.logged_start out { s with launch := fleet.launch } fleet.outside fleet.log
  simp only [step, found]
  exact ⟨added, log, logged⟩

/-- Before the launch nothing was logged. -/
theorem Accounted.log_eq_nil (accounted : fleet.Accounted) (first : fleet.launch = .notStarted) : fleet.log = [] := by
  cases accounted with
  | untouched _ nothing => exact nothing
  | @launched _ reply _ _ launch _ _ =>
      rw [first] at launch
      cases answer : Launch.outcome reply <;> rw [answer] at launch <;> cases launch

/-- Every act keeps the log accounted for. -/
theorem accounted_step (accounted : fleet.Accounted) (act : Act σ) : (fleet.step out act).Accounted := by
  obtain ⟨built, targets⟩ := fleet.targets_step out act
  -- An act that is no start leaves the log and the launch alone; so does a start that does nothing.
  have aside (launch : (fleet.step out act).launch = fleet.launch) (log : (fleet.step out act).log = fleet.log) :
      (fleet.step out act).Accounted := by
    cases accounted with
    | untouched before nothing => exact .untouched (launch.trans before) (log.trans nothing)
    | launched own before account success =>
        exact .launched (by rw [targets]; exact List.mem_append_left _ own) (launch.trans before)
          (log.trans account) success
  cases act with
  | build s => exact aside rfl rfl
  | stop i => exact aside rfl rfl
  | change i next => exact aside rfl rfl
  | outside change => exact aside rfl rfl
  | start i =>
      cases found : fleet.sessions[i]? with
      | none => exact aside (by simp only [step, found]) (by simp only [step, found])
      | some s =>
          have own : s.target ∈ (fleet.step out (.start i)).sessions.map Session.target := by
            rw [targets]
            exact List.mem_append_left _ (List.mem_map_of_mem (List.mem_of_getElem? found))
          obtain ⟨added, log, logged⟩ := step_start out found
          generalize left : (fleet.step out (.start i)).launch = launch at logged
          cases logged with
          | nothing => exact aside left (by rw [log, List.append_nil])
          | launched first =>
              rw [accounted.log_eq_nil first] at log
              exact @Accounted.launched _ _ _ _ [] own left log (absurd rfl)
          | both first success =>
              rw [accounted.log_eq_nil first] at log
              exact @Accounted.launched _ _ _ _ [s.address] own (by rw [left, success]; rfl) log fun _ => success
          | dialed earlier =>
              cases accounted with
              | untouched first _ => cases first.symm.trans earlier
              | @launched target reply addresses launcher before account success =>
                  have outcome := Launch.outcome_of_started (earlier.symm.trans before)
                  refine @Accounted.launched _ _ target reply (addresses ++ [s.address]) ?_ ?_ ?_ fun _ => outcome
                  · rw [targets]
                    exact List.mem_append_left _ launcher
                  · rw [left, outcome]
                    rfl
                  · rw [log, account, List.map_append]
                    rfl

theorem accounted_foldl (accounted : fleet.Accounted) (acts : List (Act σ)) :
    (acts.foldl (step out) fleet).Accounted := by
  induction acts generalizing fleet with
  | nil => exact accounted
  | cons act rest ih => exact ih (fleet.accounted_step out accounted act)

/-- The log is accounted for after any acts. -/
theorem accounted_run (o : σ) (acts : List (Act σ)) : (run out o acts).Accounted :=
  accounted_foldl out (.untouched rfl rfl) acts

/-! ## Every connection -/

/-- A start connects to the session's own address. One launch came before, for one of the sessions, and succeeded. Its
code names the address exactly if it is the launched session's and the code is legible. -/
theorem connects_after_launch (o : σ) (acts : List (Act σ)) {i : Nat} {before : List Doing} {a : Address}
    (connects : (run out o (acts ++ [.start i])).log = (run out o acts).log ++ before ++ [.dialed a]) :
    ∃ s launcher : Session, ∃ reply, (run out o acts).sessions[i]? = some s ∧ a = s.address ∧
      launcher ∈ (run out o acts).sessions ∧
      launches ((run out o acts).log ++ before) = [(Launch.snippet launcher.address launcher.config, reply)] ∧
      Launch.outcome reply = .ok () ∧
      (Launch.Names (Launch.snippet launcher.address launcher.config) a ↔
        s.address = launcher.address ∧ Launch.Legible launcher.address launcher.config) := by
  have accounted := accounted_run out o acts
  have last : run out o (acts ++ [.start i]) = (run out o acts).step out (.start i) := by
    rw [run, List.foldl_append]
    rfl
  rw [last, List.append_assoc] at connects
  generalize run out o acts = fleet at *
  cases found : fleet.sessions[i]? with
  | none =>
      simp only [step, found] at connects
      simp at connects
  | some s =>
      obtain ⟨added, log, logged⟩ := step_start out found
      have same : added = before ++ [.dialed a] := List.append_cancel_left (log.symm.trans connects)
      generalize (fleet.step out (.start i)).launch = launch at logged
      cases logged with
      | nothing => simp at same
      | launched first =>
          have ends : [] ++ [Doing.executed _ _] = before ++ [.dialed a] := same
          cases List.append_inj_right' ends rfl
      | both first success =>
          have ends : [Doing.executed _ _] ++ [.dialed s.address] = before ++ [.dialed a] := same
          obtain ⟨rfl, rest⟩ := List.append_inj' ends rfl
          cases rest
          refine ⟨s, s, _, rfl, rfl, List.mem_of_getElem? found, ?_, success, Launch.names_snippet_iff⟩
          rw [accounted.log_eq_nil first]
          rfl
      | dialed earlier =>
          have ends : [] ++ [.dialed s.address] = before ++ [.dialed a] := same
          obtain ⟨rfl, rest⟩ := List.append_inj' ends rfl
          cases rest
          cases accounted with
          | untouched first _ => cases first.symm.trans earlier
          | @launched target reply addresses own before account success =>
              obtain ⟨launcher, member, rfl⟩ := List.mem_map.mp own
              refine ⟨s, launcher, reply, rfl, rfl, member, ?_, ?_, Launch.names_snippet_iff⟩
              · rw [List.append_nil, account]
                exact congrArg (_ :: ·) (launches_dials addresses)
              · exact Launch.outcome_of_started (earlier.symm.trans before)

/-- A session for another port than the sample's. -/
def secondSample : Session := { Session.idleSample with address := ⟨"127.0.0.1", 5679⟩ }

/-- A session for a host with a quote in it. -/
def quotedSample : Session := { Session.idleSample with address := ⟨"localhost',1234))#", 5678⟩ }

/-- The adapter is launched for the first of two sessions. -/
def sampleActs : List (Act Unit) :=
  [.build Session.idleSample, .build secondSample, .start 0, .stop 0]

/-- The second session connects to a port that the code does not name, and so does the one with the quote. -/
theorem connects_after_launch_otherPort :
    (run Session.obliging () (sampleActs ++ [.start 1])).log =
        (run Session.obliging () sampleActs).log ++ [] ++ [.dialed secondSample.address] ∧
      launches ((run Session.obliging () sampleActs).log ++ []) =
        [(Launch.snippet Session.idleSample.address .empty, .ok .ok)] ∧
      ¬ Launch.Names (Launch.snippet Session.idleSample.address .empty) secondSample.address ∧
      (run Session.obliging () ([.build quotedSample] ++ [.start 0])).log =
        [.executed (Launch.snippet quotedSample.address .empty) (.ok .ok)] ++ [.dialed quotedSample.address] ∧
      ¬ Launch.Names (Launch.snippet quotedSample.address .empty) quotedSample.address := by
  have second : (run Session.obliging () (sampleActs ++ [.start 1])).log =
      (run Session.obliging () sampleActs).log ++ [] ++ [.dialed secondSample.address] := rfl
  have quoted : (run Session.obliging () ([.build quotedSample] ++ [.start 0])).log =
      (run Session.obliging () [.build quotedSample]).log ++
        [.executed (Launch.snippet quotedSample.address .empty) (.ok .ok)] ++ [.dialed quotedSample.address] := rfl
  have once : launches ((run Session.obliging () sampleActs).log ++ []) =
      [(Launch.snippet Session.idleSample.address .empty, .ok .ok)] := rfl
  have only : launches ((run Session.obliging () [.build quotedSample]).log ++
      [.executed (Launch.snippet quotedSample.address .empty) (.ok .ok)]) =
      [(Launch.snippet quotedSample.address .empty, .ok .ok)] := rfl
  refine ⟨second, once, ?_, quoted, ?_⟩
  · obtain ⟨s, launcher, reply, -, own, member, account, -, names⟩ :=
      connects_after_launch Session.obliging () _ second
    have code := (Prod.mk.inj (List.cons.inj (once.symm.trans account)).1).1
    have targets : (run Session.obliging () sampleActs).sessions.map Session.target =
        [Session.idleSample.target, secondSample.target] := rfl
    rw [code, names, ← own]
    rintro ⟨same, -⟩
    have target : launcher.target ∈ [Session.idleSample.target, secondSample.target] :=
      targets ▸ List.mem_map_of_mem member
    rcases List.mem_pair.mp target with first | other
    · exact absurd (same.trans (Prod.mk.inj first).1) (by decide)
    · obtain ⟨address, config⟩ := Prod.mk.inj other
      rw [address, config] at code
      exact absurd code (by decide +kernel)
  · obtain ⟨s, launcher, reply, -, own, -, account, -, names⟩ :=
      connects_after_launch Session.obliging () [.build quotedSample] quoted
    have code := (Prod.mk.inj (List.cons.inj (only.symm.trans account)).1).1
    rw [code, names, ← own]
    rintro ⟨same, legible⟩
    rw [← same] at legible
    exact absurd (legible.host (Char.ofNat 39) (by decide)) (by decide)

end Fleet
end DebugBridge
