import DebugBridge.Threads
import DebugBridge.Proofs.Json.Members

/-!
# What a row of messages says about threads

A message is read here as it stands: which thread it tells of, and whether it announces that thread, forgets it, stops
it or resumes it. Whether a thread is known or stopped after a row of messages follows from those readings alone
(`KnownAfter`, `StoppedAfter`). `tracks` says that the two lists that are kept while the messages come in are those
threads, in ascending order.
-/

namespace DebugBridge

/-- A list stays ascending when a number is put in its place. -/
theorem pairwise_insertAscending {ns : List Int} (ascending : ns.Pairwise (· < ·)) (n : Int) :
    (insertAscending n ns).Pairwise (· < ·) := by
  induction ns with
  | nil => exact List.pairwise_singleton _ n
  | cons m rest ih =>
      obtain ⟨above, tail⟩ := List.pairwise_cons.mp ascending
      simp only [insertAscending]
      split
      · next less =>
          refine List.pairwise_cons.mpr ⟨fun k member => ?_, ascending⟩
          rcases List.mem_cons.mp member with rfl | later
          · exact less
          · exact Int.lt_trans less (above k later)
      · split
        · exact ascending
        · next notLess other =>
            refine List.pairwise_cons.mpr ⟨fun k member => ?_, ih tail⟩
            rcases (mem_insertAscending n k rest).mp member with rfl | later
            · omega
            · exact above k later

namespace Threads

/-! ## Readings of a message -/

/-- A message is an event of a name. -/
def IsEvent (name : String) (message : Json) : Prop :=
  message.getString? "type" = some "event" ∧ message.getString? "event" = some name

/-- The number of the thread that a message tells of. -/
def threadOf (message : Json) : Option Int :=
  (message.get? "body").bind fun body => body.getInt? "threadId"

/-- A message has a flag that is true. -/
def Flagged (name : String) (message : Json) : Prop :=
  ((message.get? "body").bind fun body => body.getBool? name) = some true

/-- The reason that a message gives. -/
def reasonOf (message : Json) : Option String :=
  (message.get? "body").bind fun body => body.getString? "reason"

/-- A message makes a thread known: it stops that very thread, or starts it. -/
def Announces (t : Int) (message : Json) : Prop :=
  threadOf message = some t ∧
    (IsEvent "stopped" message ∨ IsEvent "thread" message ∧ reasonOf message = some "started")

/-- After a message a thread is not known any more: it has ended, or all have. -/
def Forgets (t : Int) (message : Json) : Prop :=
  IsEvent "thread" message ∧ threadOf message = some t ∧ reasonOf message = some "exited" ∨
    IsEvent "terminated" message ∨ IsEvent "exited" message

/-- After a message a thread is not stopped any more: all threads go on, or that very one, or it has ended. -/
def Resumes (t : Int) (message : Json) : Prop :=
  IsEvent "continued" message ∧ (Flagged "allThreadsContinued" message ∨ threadOf message = some t) ∨
    Forgets t message

/-- Something began with one of the messages told, as those before it were, and none after it has ended it. -/
def Standing (began : List Json → Json → Prop) (ended : Json → Prop) (told : List Json) : Prop :=
  ∃ before message after, told = before ++ message :: after ∧ began before message ∧ ∀ later ∈ after, ¬ ended later

/-- A thread is known after a row of messages: one has announced it, and none has made it forgotten since. -/
def KnownAfter (t : Int) : List Json → Prop :=
  Standing (fun _ => Announces t) (Forgets t)

/-- A message stops a thread: it names the thread, or stops all and the thread is known by then. -/
def Stops (t : Int) (before : List Json) (message : Json) : Prop :=
  IsEvent "stopped" message ∧
    (threadOf message = some t ∨ Flagged "allThreadsStopped" message ∧ KnownAfter t (before ++ [message]))

/-- A thread is stopped after a row of messages: one has stopped it, and none has resumed it since. -/
def StoppedAfter (t : Int) : List Json → Prop :=
  Standing (Stops t) (Resumes t)

section Standing

variable {began : List Json → Json → Prop} {ended : Json → Prop}

theorem not_standing_nil : ¬ Standing began ended [] := by
  rintro ⟨before, message, after, shape, -⟩
  cases before <;> cases shape

/-- One more message begins it, or leaves it as it stood. -/
theorem standing_snoc (told : List Json) (message : Json) :
    Standing began ended (told ++ [message]) ↔ began told message ∨ Standing began ended told ∧ ¬ ended message := by
  constructor
  · rintro ⟨before, first, after, shape, start, quiet⟩
    rcases List.eq_nil_or_concat after with rfl | ⟨after, last, rfl⟩
    · obtain ⟨rfl, same⟩ := List.append_inj' shape rfl
      cases same
      exact .inl start
    · rw [List.concat_eq_append, ← List.cons_append, ← List.append_assoc] at shape
      obtain ⟨rfl, same⟩ := List.append_inj' shape rfl
      cases same
      refine .inr ⟨⟨before, first, after, rfl, start, fun later member => ?_⟩, ?_⟩
      · exact quiet later (by simp [member])
      · exact quiet message (by simp)
  · rintro (start | ⟨⟨before, first, after, rfl, start, quiet⟩, stays⟩)
    · exact ⟨told, message, [], rfl, start, nofun⟩
    · refine ⟨before, first, after ++ [message], by simp, start, fun later member => ?_⟩
      rcases List.mem_append.mp member with earlier | last
      · exact quiet later earlier
      · rw [List.mem_singleton.mp last]
        exact stays

end Standing

/-! ## What is kept -/

/-- An event has one name. -/
theorem isEvent_iff {name : String} {message : Json} (event : IsEvent name message) (other : String) :
    IsEvent other message ↔ other = name := by
  rw [IsEvent, event.1, event.2]
  simp [eq_comm]

/-- What a message tells of threads, by its readings. -/
inductive Meaning (message : Json) : Option Change → Prop where
  | stopped {all : Bool} (event : IsEvent "stopped" message) (flag : all = true ↔ Flagged "allThreadsStopped" message) :
      Meaning message (some (.stop (threadOf message) all))
  | continued {all : Bool} (event : IsEvent "continued" message)
      (flag : all = true ↔ Flagged "allThreadsContinued" message) :
      Meaning message (some (.resume (threadOf message) all))
  | started {t : Int} (event : IsEvent "thread" message) (thread : threadOf message = some t)
      (reason : reasonOf message = some "started") : Meaning message (some (.start t))
  | ended {t : Int} (event : IsEvent "thread" message) (thread : threadOf message = some t)
      (reason : reasonOf message = some "exited") : Meaning message (some (.finish t))
  | reset (event : IsEvent "terminated" message ∨ IsEvent "exited" message) : Meaning message (some .reset)
  /-- It is the event of a thread, but gives no number, or no reason that matters. -/
  | unclear (event : IsEvent "thread" message)
      (vague : threadOf message = none ∨ reasonOf message ≠ some "started" ∧ reasonOf message ≠ some "exited") :
      Meaning message none
  /-- It is no event that tells of threads. -/
  | other (silent : ∀ name ∈ ["stopped", "continued", "thread", "terminated", "exited"], ¬ IsEvent name message) :
      Meaning message none

/-- What a message means for the threads is what it changes. -/
theorem meaning (message : Json) : Meaning message (changeOf message) := by
  have thread : ((message.get? "body").getD .null).getInt? "threadId" = threadOf message := by
    rw [threadOf]
    cases message.get? "body" <;> rfl
  have reason : ((message.get? "body").getD .null).getString? "reason" = reasonOf message := by
    rw [reasonOf]
    cases message.get? "body" <;> rfl
  have flag (name : String) : (((message.get? "body").getD .null).getBool? name).getD false = true ↔
      Flagged name message := by
    rw [Flagged]
    cases message.get? "body" with
    | none => exact iff_of_false Bool.false_ne_true (by simp)
    | some body => cases given : body.getBool? name <;> simp [given]
  by_cases type : message.getString? "type" = some "event"
  · simp only [changeOf, type, thread, reason, if_true]
    split
    · next named => exact .stopped ⟨type, named⟩ (flag _)
    · next named => exact .continued ⟨type, named⟩ (flag _)
    · next named =>
        split
        · next t given why => exact .started ⟨type, named⟩ given why
        · next t given why => exact .ended ⟨type, named⟩ given why
        · next notStarted notEnded =>
            refine .unclear ⟨type, named⟩ ?_
            cases given : threadOf message with
            | none => exact .inl rfl
            | some t => exact .inr ⟨fun why => notStarted t given why, fun why => notEnded t given why⟩
    · next named => exact .reset (.inl ⟨type, named⟩)
    · next named => exact .reset (.inr ⟨type, named⟩)
    · next notStopped notContinued notThread notTerminated notExited =>
        refine .other ?_
        simp only [List.forall_mem_cons]
        exact ⟨fun event => notStopped event.2, fun event => notContinued event.2, fun event => notThread event.2,
          fun event => notTerminated event.2, fun event => notExited event.2, nofun⟩
  · rw [changeOf, if_neg type]
    exact .other fun name _ event => type event.1

theorem mem_foldl_insertAscending (t : Int) (added ns : List Int) :
    t ∈ added.foldl (fun s n => insertAscending n s) ns ↔ t ∈ added ∨ t ∈ ns := by
  induction added generalizing ns with
  | nil => simp
  | cons n rest ih => rw [List.foldl_cons, ih, mem_insertAscending, List.mem_cons, or_assoc, or_left_comm]

variable {threads : Threads} {message : Json} {t : Int}

/-- One more message makes a thread known, or leaves it known unless it is forgotten. -/
theorem mem_known_observe (threads : Threads) (message : Json) (t : Int) :
    t ∈ (threads.observe message).known ↔ Announces t message ∨ t ∈ threads.known ∧ ¬ Forgets t message := by
  have means := meaning message
  rw [observe]
  generalize changeOf message = change at means ⊢
  cases means with
  | stopped event flag =>
      cases given : threadOf message with
      | none => simp [apply, Announces, Forgets, isEvent_iff event, given]
      | some k => simp [apply, Announces, Forgets, isEvent_iff event, given, @eq_comm _ k t]
  | continued event flag =>
      by_cases all : Flagged "allThreadsContinued" message <;>
        simp [apply, Announces, Forgets, isEvent_iff event, flag, all]
  | @started k event thread reason =>
      simp [apply, Announces, Forgets, isEvent_iff event, thread, @eq_comm _ k t, reason]
  | @ended k event thread reason =>
      simp [apply, Announces, Forgets, isEvent_iff event, thread, @eq_comm _ k t, reason]
  | reset event =>
      rcases event with event | event <;> simp [apply, empty, Announces, Forgets, isEvent_iff event]
  | unclear event vague =>
      rcases vague with vague | ⟨notStarted, notEnded⟩
      · simp [Announces, Forgets, isEvent_iff event, vague]
      · simp [Announces, Forgets, isEvent_iff event, notStarted, notEnded]
  | other silent =>
      simp only [List.forall_mem_cons] at silent
      simp [Announces, Forgets, silent]

/-- One more message stops a thread, or leaves it stopped unless it is resumed. -/
theorem mem_stopped_observe (threads : Threads) (message : Json) (t : Int) :
    t ∈ (threads.observe message).stopped ↔
      IsEvent "stopped" message ∧
          (threadOf message = some t ∨
            Flagged "allThreadsStopped" message ∧ t ∈ (threads.observe message).known) ∨
        t ∈ threads.stopped ∧ ¬ Resumes t message := by
  have means := meaning message
  rw [observe]
  generalize changeOf message = change at means ⊢
  cases means with
  | stopped event flag =>
      by_cases all : Flagged "allThreadsStopped" message
      · cases given : threadOf message with
        | none => simp [apply, Resumes, Forgets, isEvent_iff event, given, flag, all, mem_foldl_insertAscending]
        | some k =>
            simp [apply, Resumes, Forgets, isEvent_iff event, given, @eq_comm _ k t, flag, all,
              mem_foldl_insertAscending]
            grind
      · cases given : threadOf message with
        | none => simp [apply, Resumes, Forgets, isEvent_iff event, given, flag, all]
        | some k => simp [apply, Resumes, Forgets, isEvent_iff event, given, @eq_comm _ k t, flag, all]
  | continued event flag =>
      by_cases all : Flagged "allThreadsContinued" message
      · simp [apply, Resumes, Forgets, isEvent_iff event, flag, all]
      · cases given : threadOf message with
        | none => simp [apply, Resumes, Forgets, isEvent_iff event, given, flag, all]
        | some k => simp [apply, Resumes, Forgets, isEvent_iff event, given, @eq_comm _ k t, flag, all]
  | started event thread reason =>
      simp [apply, Resumes, Forgets, isEvent_iff event, reason]
  | @ended k event thread reason =>
      simp [apply, Resumes, Forgets, isEvent_iff event, thread, @eq_comm _ k t, reason]
  | reset event =>
      rcases event with event | event <;> simp [apply, empty, Resumes, Forgets, isEvent_iff event]
  | unclear event vague =>
      rcases vague with vague | ⟨notStarted, notEnded⟩
      · simp [Resumes, Forgets, isEvent_iff event, vague]
      · simp [Resumes, Forgets, isEvent_iff event, notEnded]
  | other silent =>
      simp only [List.forall_mem_cons] at silent
      simp [Resumes, Forgets, silent]

/-- A message that neither announces nor resumes a thread, nor stops all, changes nothing. So does every message that is
no event of the five names, and one that gives no number where a number is needed. -/
theorem observe_of_silent (threads : Threads) (silent : ∀ t, ¬ Announces t message ∧ ¬ Resumes t message)
    (notAll : ¬ (IsEvent "stopped" message ∧ Flagged "allThreadsStopped" message)) :
    threads.observe message = threads := by
  have means := meaning message
  rw [observe]
  generalize changeOf message = change at means ⊢
  cases means with
  | @stopped all event flag =>
      have none : threadOf message = none := Option.eq_none_iff_forall_ne_some.mpr fun t thread =>
        (silent t).1 ⟨thread, .inl event⟩
      have unflagged : all = false := Bool.eq_false_iff.mpr fun set => notAll ⟨event, flag.mp set⟩
      rw [none, unflagged]
      rfl
  | @continued all event flag =>
      have none : threadOf message = none := Option.eq_none_iff_forall_ne_some.mpr fun t thread =>
        (silent t).2 (.inl ⟨event, .inr thread⟩)
      have unflagged : all = false :=
        Bool.eq_false_iff.mpr fun set => (silent 0).2 (.inl ⟨event, .inl (flag.mp set)⟩)
      rw [none, unflagged]
      rfl
  | @started t event thread reason => exact absurd ⟨thread, .inr ⟨event, reason⟩⟩ (silent t).1
  | @ended t event thread reason => exact absurd (.inr (.inl ⟨event, thread, reason⟩)) (silent t).2
  | reset event => exact absurd (.inr (.inr event)) (silent 0).2
  | unclear event vague => rfl
  | other silent => rfl

/-! ## Rows of messages -/

/-- Both lists are in ascending order. -/
structure Ascending (threads : Threads) : Prop where
  stopped : threads.stopped.Pairwise (· < ·)
  known : threads.known.Pairwise (· < ·)

/-- Every change keeps the stopped threads in order, each once. -/
theorem Ascending.apply (ascending : threads.Ascending) (change : Change) : (threads.apply change).Ascending := by
  obtain ⟨stopped, known⟩ := ascending
  have insertAll (added : List Int) {ns : List Int} (sorted : ns.Pairwise (· < ·)) :
      (added.foldl (fun s t => insertAscending t s) ns).Pairwise (· < ·) := by
    induction added generalizing ns with
    | nil => exact sorted
    | cons n rest ih => exact ih (pairwise_insertAscending sorted n)
  cases change with
  | stop thread all =>
      have first : (thread.elim threads.known fun t => insertAscending t threads.known).Pairwise (· < ·) ∧
          (thread.elim threads.stopped fun t => insertAscending t threads.stopped).Pairwise (· < ·) := by
        cases thread with
        | none => exact ⟨known, stopped⟩
        | some t => exact ⟨pairwise_insertAscending known t, pairwise_insertAscending stopped t⟩
      refine ⟨?_, first.1⟩
      simp only [Threads.apply]
      split
      · exact insertAll _ first.2
      · exact first.2
  | resume thread all =>
      simp only [Threads.apply]
      split
      · exact ⟨.nil, known⟩
      · cases thread with
        | none => exact ⟨stopped, known⟩
        | some t => exact ⟨stopped.filter _, known⟩
  | start t => exact ⟨stopped, pairwise_insertAscending known t⟩
  | finish t => exact ⟨stopped.filter _, known.filter _⟩
  | reset => exact ⟨.nil, .nil⟩

/-- So does every event. -/
theorem Ascending.observe (ascending : threads.Ascending) (message : Json) : (threads.observe message).Ascending := by
  rw [Threads.observe]
  split
  · exact ascending.apply _
  · exact ascending

/-- After a row of messages the lists hold, in ascending order, the threads that are stopped and those that are known by
what the messages say. -/
theorem tracks (told : List Json) :
    (told.foldl observe empty).Ascending ∧
      (∀ t, t ∈ (told.foldl observe empty).known ↔ KnownAfter t told) ∧
      ∀ t, t ∈ (told.foldl observe empty).stopped ↔ StoppedAfter t told := by
  induction told using List.reverseRecOn with
  | nil =>
      refine ⟨⟨.nil, .nil⟩, fun t => iff_of_false List.not_mem_nil not_standing_nil,
        fun t => iff_of_false List.not_mem_nil not_standing_nil⟩
  | append_singleton told message ih =>
      obtain ⟨ascending, known, stopped⟩ := ih
      have knownNow (t : Int) : t ∈ ((told ++ [message]).foldl observe empty).known ↔
          KnownAfter t (told ++ [message]) := by
        rw [List.foldl_append, List.foldl_cons, List.foldl_nil, mem_known_observe, known, KnownAfter, standing_snoc]
      refine ⟨?_, knownNow, fun t => ?_⟩
      · rw [List.foldl_append]
        exact ascending.observe message
      · have all := knownNow t
        rw [List.foldl_append, List.foldl_cons, List.foldl_nil] at all ⊢
        rw [mem_stopped_observe, all, stopped, StoppedAfter, standing_snoc, Stops]

end Threads
end DebugBridge
