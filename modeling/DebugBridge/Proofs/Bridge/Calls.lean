import DebugBridge.Proofs.Bridge.Steps

/-!
# What a call comes to

`process_cases` lists the ends of a call: it is answered at once, or a message of it is passed on and a reply is waited
for, while other things happen. What is waited for is taken after steps that begin where the call began
(`steps_submitted`).
-/

namespace DebugBridge.Bridge

variable {σ : Type} {out : Outside σ} {permitted : Happening σ → Prop} {b : Bridge σ} {during : Schedule σ}

/-- The bridge once the adapter's launch was tried, from where the directory for logs was made. -/
def readied (out : Outside σ) (b : Bridge σ) (during : Schedule σ) (outside : σ) : Bridge σ :=
  (({ b with outside }.pause during .logged).ensureLaunched out).pause during .launched

/-- What a start comes to. -/
inductive StartedAs (out : Outside σ) (b : Bridge σ) (during : Schedule σ) : Except Error Bool × Bridge σ → Prop where
  /-- There is a worker already. -/
  | already (running : b.session.worker ≠ none) : StartedAs out b during (.ok true, b)
  /-- The directory for logs cannot be made. -/
  | unlogged {e : Error} {o : σ} (idle : b.session.worker = none)
      (failed : out.makeDirectory b.session.kernel.logDirectory b.outside = (.error e, o)) :
      StartedAs out b during (.error e, { b with outside := o })
  /-- The adapter cannot be launched. -/
  | unlaunched {o : σ} (idle : b.session.worker = none)
      (logged : out.makeDirectory b.session.kernel.logDirectory b.outside = (.ok (), o))
      (failed : (b.readied out during o).session.launch ≠ .started) :
      StartedAs out b during (.ok false, b.readied out during o)
  /-- The directory for cells cannot be made. -/
  | unstaged {o o' : σ} {e : Error} (idle : b.session.worker = none)
      (logged : out.makeDirectory b.session.kernel.logDirectory b.outside = (.ok (), o))
      (launched : (b.readied out during o).session.launch = .started)
      (failed : out.makeDirectory b.session.kernel.cellDirectory (b.readied out during o).outside = (.error e, o')) :
      StartedAs out b during (.error e, { b.readied out during o with outside := o' })
  /-- The endpoints are bound and a worker is made, or that fails. -/
  | engaged {o o' : σ} (idle : b.session.worker = none)
      (logged : out.makeDirectory b.session.kernel.logDirectory b.outside = (.ok (), o))
      (launched : (b.readied out during o).session.launch = .started)
      (staged : out.makeDirectory b.session.kernel.cellDirectory (b.readied out during o).outside = (.ok (), o')) :
      StartedAs out b during (({ b.readied out during o with outside := o' }.pause during .staged).engage during)

/-- What a launch leaves as it was. -/
theorem control_readied (out : Outside σ) (b : Bridge σ) (during : Schedule σ) (o : σ) :
    (b.readied out during o).session.control =
      { b.session.control with launch := (b.readied out during o).session.launch } := by
  have launch : (b.readied out during o).session.launch =
      (({ b with outside := o }.pause during .logged).ensureLaunched out).session.launch := launch_pause ..
  rw [launch, readied, control_pause]
  have logged := control_pause { b with outside := o } during .logged
  generalize pause { b with outside := o } during .logged = next at logged ⊢
  rw [← logged]
  rfl

theorem start_cases (out : Outside σ) (b : Bridge σ) (during : Schedule σ) :
    StartedAs out b during (b.start out during) := by
  rw [start]
  split
  · next started => exact .already (Session.isStarted_eq_true_iff.mp started)
  · next stopped =>
      have idle := Session.isStarted_eq_false_iff.mp (Bool.eq_false_iff.mpr stopped)
      rcases logged : out.makeDirectory b.session.kernel.logDirectory b.outside with ⟨e | _, o⟩
      · simp only [ask, logged]
        exact .unlogged idle logged
      · have kernel : (b.readied out during o).session.kernel = b.session.kernel :=
          (congrArg Session.kernel (control_readied out b during o) :)
        have folded : (({ b with outside := o }.pause during .logged).ensureLaunched out).pause during .launched =
            b.readied out during o := rfl
        simp only [ask, logged, folded, kernel]
        split
        · next launched =>
            rcases staged : out.makeDirectory b.session.kernel.cellDirectory (b.readied out during o).outside with
              ⟨e | _, o'⟩
            · exact .unstaged idle logged launched staged
            · exact .engaged idle logged launched staged
        · next failed => exact .unlaunched idle logged failed

/-- What a message of the front end comes to: the reply, and the bridge after it. -/
inductive Processed (out : Outside σ) (b : Bridge σ) (header message : Json) (during : Schedule σ) :
    Json × Bridge σ → Prop where
  /-- It is no request. -/
  | malformed {e : Error} (refused : Request.ofJson? message = .error e) :
      Processed out b header message during ((Response.failFor message e.message).toJson, b)
  /-- The session cannot be started. -/
  | unready {r : Request} {e : Error} {next : Bridge σ} (read : Request.ofJson? message = .ok r)
      (failed : b.prepare out r during = (.error e, next)) :
      Processed out b header message during ((Response.fail r e.message).toJson, next)
  /-- The bridge answers it. -/
  | answered {r : Request} {response : Response} {o : σ} (read : Request.ofJson? message = .ok r)
      (seq : response.seq = r.seq) (command : response.command = r.command) (other : r.command ≠ "initialize")
      (own :
        Session.callFor b.session.address b.session.threads.anyStopped (Slot.ofId (out.slotId b.outside).1) r = none ∨
        b.session.worker = none) :
      Processed out b header message during (response.toJson, { b with outside := o })
  /-- A message of it cannot be passed on. -/
  | unsent {r : Request} {call : Call} {ready next : Bridge σ} {o : σ} {e : Error}
      (read : Request.ofJson? message = .ok r) (prepared : b.prepare out r during = (.ok (), ready))
      (planned : Session.callFor ready.session.address ready.session.threads.anyStopped
        (Slot.ofId (out.slotId ready.outside).1) r = some call)
      (failed : ({ ready with outside := o }.pause during .considered).submit header call.sent during =
        (.error e, next)) :
      Processed out b header message during (next.conclude out call (.error e) during)
  /-- A message of it is passed on, and the reply is waited for. -/
  | passed {r : Request} {call : Call} {ready next : Bridge σ} {o : σ} {result : Except Error Json} {session : Session}
      (read : Request.ofJson? message = .ok r) (prepared : b.prepare out r during = (.ok (), ready))
      (planned : Session.callFor ready.session.address ready.session.threads.anyStopped
        (Slot.ofId (out.slotId ready.outside).1) r = some call)
      (sent : ({ ready with outside := o }.pause during .considered).submit header call.sent during = (.ok (), next))
      (collected : (next.pause during .passed).session.collect call.sent = (result, session)) :
      Processed out b header message during
        (({ next.pause during .passed with session }.pause during .collected).conclude out call result during)

theorem forward_cases {header message : Json} {r : Request} {call : Call} {ready : Bridge σ} {o : σ}
    (read : Request.ofJson? message = .ok r) (prepared : b.prepare out r during = (.ok (), ready))
    (planned : Session.callFor ready.session.address ready.session.threads.anyStopped
      (Slot.ofId (out.slotId ready.outside).1) r = some call) :
    Processed out b header message during ({ ready with outside := o }.forward out header call during) := by
  rw [forward]
  split
  · next failed => exact .unsent read prepared planned failed
  · next sent => exact .passed read prepared planned sent rfl

/-- All that a message of the front end can come to. -/
theorem process_cases (out : Outside σ) (b : Bridge σ) (header message : Json) (during : Schedule σ) :
    Processed out b header message during (b.process out header message during) := by
  rw [process]
  split
  · next refused => exact .malformed refused
  · next r read =>
      rw [processRequest]
      split
      · next failed => exact .unready read failed
      · next ready prepared =>
          have considered := Session.consider_cases out ready.session r ready.outside
          simp only [ask]
          generalize ready.session.consider out r ready.outside = outcome at considered ⊢
          cases considered with
          | answered seq command other own =>
              have same : ready = b := by
                rw [prepare, if_neg other] at prepared
                exact (congrArg Prod.snd prepared).symm
              subst same
              exact .answered read seq command other own
          | passed planned => exact forward_cases read prepared planned

/-- Steps lead to where the reply to a message is waited for. -/
theorem steps_submitted (permits : Permits permitted during) (fitted : b.Fitted) {r : Request} {ready next : Bridge σ}
    {header message : Json} {o : σ} (prepared : b.prepare out r during = (.ok (), ready))
    (sent : ({ ready with outside := o }.pause during .considered).submit header message during = (.ok (), next)) :
    Steps out permitted b (next.pause during .passed) := by
  have first := strides_prepare out permits b r
  have second := strides_submit out permits ({ ready with outside := o }.pause during .considered) header message
  rw [prepared] at first
  rw [sent] at second
  have asked := (first.tail (.outside o)).trans (strides_pause out permits _ .considered)
  exact Strides.steps ((asked.trans second).trans (strides_pause out permits next .passed)) fitted

/-- The end of a call is the session's own. -/
theorem conclude_fst (out : Outside σ) (b : Bridge σ) (call : Call) (result : Except Error Json)
    (during : Schedule σ) :
    (b.conclude out call result during).1 = (b.session.conclude out call result b.outside).1 := by
  rw [conclude]
  split
  · next purpose => rw [Session.conclude, purpose]
  · rfl

end DebugBridge.Bridge
