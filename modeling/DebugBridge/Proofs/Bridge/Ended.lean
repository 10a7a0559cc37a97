import DebugBridge.Proofs.Bridge.Sound

/-!
# Workers that have ended

A worker that has ended does nothing any more. As long as every worker that was waited for had ended by then
(`Prompt`), the newest one alone can be at work, and none is while the session is not started (`Attended`).
-/

namespace DebugBridge

namespace Courier

/-- The relay alone has things to do, and the pumps run only while there is a connection. -/
structure Regular (c : Courier) : Prop where
  idle : c.stage ≠ .relaying → c.doing = []
  silent : c.stage.early ∨ (∃ result, c.stage = .ended result) → c.listening = false ∧ c.reading = false

variable {c : Courier} {s : Session} {done : Courier × Session × List Note}

/-- A new worker is regular. -/
theorem regular_fresh : fresh.Regular :=
  ⟨fun _ => rfl, fun _ => ⟨rfl, rfl⟩⟩

/-- Every turn keeps a worker regular. -/
theorem Turned.regular (turned : Turned c s done) (regular : c.Regular) : done.1.Regular := by
  obtain ⟨idle, silent⟩ := regular
  cases turned with
  | still => exact ⟨idle, silent⟩
  | embarked new connected | greeted new received =>
      have early : c.stage.early := by simp [new, Stage.early]
      exact ⟨fun _ => idle (by simp [new]), fun _ => silent (.inl early)⟩
  | failed early =>
      refine ⟨fun _ => idle ?_, fun _ => silent (.inl early)⟩
      rintro relaying
      simp [relaying, Stage.early] at early
  | declined early received | refused early =>
      exact ⟨fun _ => idle (by simp [early]), fun _ => silent (.inl (by simp [early, Stage.early]))⟩
  | reached dialling => exact ⟨fun _ => idle (by simp [dialling]), by simp [Stage.early]⟩
  | acknowledged connected sent => exact ⟨fun _ => idle (by simp [connected]), by simp [Stage.early]⟩
  | unheard connected unsent => exact ⟨fun _ => idle (by simp [connected]), by simp [Stage.early]⟩
  | heard v reading =>
      refine ⟨idle, fun quiet => ?_⟩
      rw [(silent quiet).2] at reading
      cases reading
  | lost reading =>
      refine ⟨idle, fun quiet => ?_⟩
      rw [(silent quiet).2] at reading
      cases reading
  | fetched listening received | gone listening received =>
      refine ⟨idle, fun quiet => ?_⟩
      rw [(silent quiet).1] at listening
      cases listening
  | closed relaying free waits => exact ⟨fun _ => free, by simp [Stage.early]⟩
  | accepted written relaying free waits =>
      obtain ⟨next, -, -, taken⟩ := accept_eq _ s.hub written _
      rw [taken]
      exact ⟨fun other => absurd relaying other, by simp [relaying, Stage.early]⟩
  | @acted output doing does =>
      refine ⟨fun other => ?_, silent⟩
      rw [idle other] at does
      cases does
  | finished closing deaf => exact ⟨fun _ => idle (by simp [closing]), fun _ => ⟨deaf, rfl⟩⟩

/-- Its thread has ended, and its relay has nothing left to do. -/
def Done (c : Courier) : Prop :=
  c.Regular ∧ ∃ result, c.stage = .ended result

/-- A worker that has ended takes no turns. -/
theorem take_of_ended (regular : c.Regular) {result : Except Error Unit} (ended : c.stage = .ended result)
    (s : Session) (turn : Turn) : c.take s turn = (c, s, []) := by
  obtain ⟨listening, reading⟩ := regular.silent (.inr ⟨result, ended⟩)
  have doing : c.doing = [] := regular.idle (by simp [ended])
  cases turn <;> simp [take.eq_def, ended, listening, reading, act, doing]

end Courier

namespace Bridge

variable {σ : Type} {out : Outside σ} {permitted : Happening σ → Prop} {b : Bridge σ}

/-- Every worker that was waited for had ended by then. -/
def Prompt (b : Bridge σ) : Prop :=
  ∀ time, .waited (.error (.timeout time)) ∉ b.deeds

/-- A worker that was waited for had not ended by then. -/
def isOverdue : Deed → Bool
  | .waited (.error (.timeout _)) => true
  | _ => false

/-- Whether a wait has failed can be told from what was done. -/
theorem prompt_iff : b.Prompt ↔ b.deeds.any isOverdue = false := by
  rw [Prompt, List.any_eq_false]
  refine ⟨fun prompt deed among => ?_, fun all time among => all _ among rfl⟩
  rcases deed with _ | _ | _ | ⟨e | _⟩ | _ | _ <;> try exact Bool.false_ne_true
  cases e <;> first | exact Bool.false_ne_true | exact absurd among (prompt _)

instance : Decidable b.Prompt :=
  decidable_of_iff _ prompt_iff.symm

/-- Which workers can be at work. -/
structure Attended (b : Bridge σ) : Prop where
  regular : ∀ c ∈ b.couriers, c.Regular
  ended : b.Prompt → ∀ n c, b.couriers[n]? = some c →
    n + 1 = b.couriers.length ∧ b.session.worker ≠ none ∨ ∃ result, c.stage = .ended result

/-- What happens is remembered behind what was done before. -/
theorem deeds_happen (b : Bridge σ) (h : Happening σ) : b.deeds <+: (b.happen h).deeds := by
  cases h with
  | turn n turn =>
      rw [happen]
      split
      · exact List.prefix_rfl
      · exact List.prefix_append ..
  | outside change | elsewhere others => exact List.prefix_rfl

/-- What a step comes to for the couriers. -/
inductive Touched (permitted : Happening σ → Prop) (b : Bridge σ) : Bridge σ → Prop where
  /-- One of them has a turn. -/
  | turn {n : Nat} {turn : Turn} (allowed : permitted (.turn n turn : Happening σ)) :
      Touched permitted b (b.happen (.turn n turn))
  /-- There is a new one. -/
  | spawn (idle : b.session.worker = none) : Touched permitted b b.spawn
  /-- They are as they were, and nothing was done by them. -/
  | none {next : Bridge σ} (couriers : next.couriers = b.couriers) (added : List Deed)
      (deeds : next.deeds = b.deeds ++ added) (own : ∀ n note, .courier n note ∉ added) : Touched permitted b next

/-- Every step touches the workers in one of few ways. -/
theorem Step.touched {next : Bridge σ} (step : Step out permitted b next) : Touched permitted b next := by
  have silent {next : Bridge σ} (couriers : next.couriers = b.couriers) (deeds : next.deeds = b.deeds) :
      Touched permitted b next :=
    .none couriers [] (deeds.trans (List.append_nil _).symm) (by simp)
  have told {next : Bridge σ} (deed : Deed) (couriers : next.couriers = b.couriers)
      (deeds : next.deeds = b.deeds ++ [deed]) (own : ∀ n note, deed ≠ .courier n note) : Touched permitted b next :=
    .none couriers [deed] deeds fun n note among => own n note (List.mem_singleton.mp among).symm
  cases step with
  | @happen h allowed =>
      cases h with
      | turn n turn => exact .turn allowed
      | outside change | elsewhere others => exact silent rfl rfl
  | bindRequest bound =>
      obtain ⟨hub, -, rfl⟩ := Session.bindRequest_eq_ok bound
      exact silent rfl rfl
  | bindHeader bound =>
      obtain ⟨hub, -, rfl⟩ := Session.bindHeader_eq_ok bound
      exact silent rfl rfl
  | spawn idle => exact .spawn idle
  | send own sent =>
      obtain ⟨hub, -, rfl⟩ := send_eq_ok sent
      exact told _ rfl rfl (by simp)
  | wait request header =>
      rw [Bridge.wait]
      split
      · exact told _ rfl rfl (by simp)
      · exact silent rfl rfl
  | launch | forgetStopped | forgetKnown => exact told _ rfl rfl (by simp)
  | outside outside | freeRequest | freeHeader | take own waits | remember breakpoints => exact silent rfl rfl

/-- Nothing that was done is forgotten. -/
theorem Step.deeds {next : Bridge σ} (step : Step out permitted b next) : b.deeds <+: next.deeds := by
  cases step.touched with
  | turn allowed => exact deeds_happen b _
  | spawn idle => exact List.prefix_rfl
  | none couriers added deeds own => exact deeds ▸ List.prefix_append ..

/-- Where no wait has failed by now, none had failed before. -/
theorem Prompt.of_deeds {next : Bridge σ} (prompt : next.Prompt) (deeds : b.deeds <+: next.deeds) : b.Prompt :=
  fun time member => prompt time (deeds.subset member)

/-- What was done is never forgotten. -/
theorem Steps.deeds {last : Bridge σ} (steps : Steps out permitted b last) : b.deeds <+: last.deeds :=
  Steps.induct steps (P := fun next => b.deeds <+: next.deeds) List.prefix_rfl
    fun _ _ earlier step => earlier.trans step.deeds

/-- Which couriers there are decides who is attended, and whether there is a worker. -/
theorem Attended.of_same {next : Bridge σ} (attended : b.Attended) (deeds : b.deeds <+: next.deeds)
    (couriers : next.couriers = b.couriers) (worker : next.session.worker = b.session.worker) : next.Attended := by
  refine ⟨couriers ▸ attended.regular, fun prompt => ?_⟩
  rw [couriers, worker]
  exact attended.ended (prompt.of_deeds deeds)

/-- Whatever happens beside the control side, the newest worker alone is at work. -/
theorem Attended.happen (attended : b.Attended) (h : Happening σ) : (b.happen h).Attended := by
  cases h with
  | outside change | elsewhere others => exact attended.of_same List.prefix_rfl rfl rfl
  | turn n turn =>
      have deeds := b.deeds_happen (.turn n turn)
      rw [Bridge.happen] at deeds ⊢
      cases found : b.couriers[n]? with
      | none => exact attended
      | some c =>
          rw [found] at deeds
          have regular := attended.regular c (List.mem_of_getElem? found)
          have turned := c.take_cases b.session turn
          have worker := Session.worker_of_control (control_take c b.session turn)
          have inert {result} (ended : c.stage = .ended result) := Courier.take_of_ended regular ended b.session turn
          simp only at deeds ⊢
          generalize c.take b.session turn = done at deeds turned worker inert ⊢
          obtain ⟨c', session, notes⟩ := done
          refine ⟨fun d member => ?_, fun prompt m d atM => ?_⟩
          · rcases List.mem_or_eq_of_mem_set member with other | rfl
            · exact attended.regular d other
            · exact turned.regular regular
          · have before := attended.ended (prompt.of_deeds deeds)
            simp only [List.length_set] at atM ⊢
            rw [List.getElem?_set] at atM
            split at atM
            · next same =>
                subst same
                have isDone : c' = d := by
                  split at atM
                  · exact Option.some.inj atM
                  · cases atM
                rcases before n c found with ⟨newest, working⟩ | ⟨result, ended⟩
                · exact .inl ⟨newest, fun idle => working (worker.symm.trans idle)⟩
                · have still := congrArg Prod.fst (inert ended)
                  exact .inr ⟨result, by rw [← isDone, show c' = c from still, ended]⟩
            · rcases before m d atM with ⟨newest, working⟩ | ended
              · exact .inl ⟨newest, fun idle => working (worker.symm.trans idle)⟩
              · exact .inr ended

/-- A worker that was waited for in time has ended. -/
theorem Attended.wait (attended : b.Attended) : b.wait.Attended := by
  rw [Bridge.wait]
  split
  · refine ⟨attended.regular, fun prompt n c atN => .inr ?_⟩
    rcases attended.ended (prompt.of_deeds (List.prefix_append ..)) n c atN with ⟨newest, -⟩ | ended
    · have last : b.couriers.getLast? = some c := by
        rw [List.getLast?_eq_getElem?, ← newest]
        exact atN
      cases stage : c.stage with
      | ended result => exact ⟨result, rfl⟩
      | _ =>
          refine absurd ?_ (prompt b.session.settings.shutdownTime)
          simp [done, last, Courier.awaited, stage]
    · exact ended
  · exact attended

/-- Every step leaves the newest worker alone at work. -/
theorem Attended.step {next : Bridge σ} (attended : b.Attended) (step : Step out permitted b next) :
    next.Attended := by
  have deeds := step.deeds
  cases step with
  | happen allowed => exact attended.happen _
  | bindRequest bound =>
      obtain ⟨hub, -, rfl⟩ := Session.bindRequest_eq_ok bound
      exact attended.of_same deeds rfl rfl
  | bindHeader bound =>
      obtain ⟨hub, -, rfl⟩ := Session.bindHeader_eq_ok bound
      exact attended.of_same deeds rfl rfl
  | send own sent =>
      obtain ⟨hub, -, rfl⟩ := send_eq_ok sent
      exact attended.of_same deeds rfl rfl
  | spawn idle =>
      refine ⟨fun c member => ?_, fun prompt n c atN => ?_⟩
      · rcases List.mem_append.mp member with earlier | new
        · exact attended.regular c earlier
        · rw [List.mem_singleton.mp new]
          exact Courier.regular_fresh
      · simp only [Bridge.spawn] at atN ⊢
        rcases Nat.lt_or_ge n b.couriers.length with earlier | new
        · rw [List.getElem?_append_left earlier] at atN
          exact .inr ((attended.ended prompt n c atN).resolve_left fun working => working.2 idle)
        · rw [List.getElem?_append_right new] at atN
          have first : n - b.couriers.length = 0 := by
            by_contra other
            rw [List.getElem?_eq_none (by simp; omega)] at atN
            cases atN
          exact .inl ⟨by simp; omega, by simp⟩
  | wait request header => exact attended.wait
  | outside outside | launch | freeRequest | freeHeader | take own waits | remember breakpoints | forgetStopped
    | forgetKnown => exact attended.of_same deeds rfl rfl

theorem Steps.attended {last : Bridge σ} (steps : Steps out permitted b last) (attended : b.Attended) : last.Attended :=
  Steps.induct steps attended fun _ _ attended step => attended.step step

/-- At any time the newest worker alone is at work, unless a wait has failed. -/
theorem Reached.attended (reached : Reached out permitted b) : b.Attended :=
  reached.induct (fun _ _ _ => ⟨List.forall_mem_nil _, fun _ n c atN => by simp [ofSession] at atN⟩)
    fun _ _ _ attended step => attended.step step

/-- What holds of every new courier and is kept by every turn holds of every courier. -/
theorem Reached.couriers {P : Courier → Prop} (reached : Reached out permitted b) (first : P .fresh)
    (kept : ∀ c s done, Courier.Turned c s done → c.Regular → P c → P done.1) : ∀ c ∈ b.couriers, P c := by
  refine reached.induct (P := fun b => ∀ c ∈ b.couriers, P c) (fun s created o => List.forall_mem_nil _)
    fun b next reached held step => ?_
  cases step.touched with
  | @turn n turn allowed =>
      rw [Bridge.happen]
      cases found : b.couriers[n]? with
      | none => exact held
      | some c =>
          have member := List.mem_of_getElem? found
          have regular := reached.attended.regular c member
          have after := kept c b.session _ (c.take_cases b.session turn) regular (held c member)
          intro d among
          rcases List.mem_or_eq_of_mem_set among with other | rfl
          · exact held d other
          · exact after
  | spawn idle =>
      intro d among
      rcases List.mem_append.mp among with earlier | new
      · exact held d earlier
      · exact List.mem_singleton.mp new ▸ first
  | none couriers added deeds own => exact couriers ▸ held

/-- A turn of a worker that has ended changes nothing. -/
theorem turn_of_ended {n : Nat} (ended : ∀ c, b.couriers[n]? = some c → c.Done) (turn : Turn) :
    b.happen (.turn n turn) = b := by
  rw [happen]
  cases found : b.couriers[n]? with
  | none => rfl
  | some c =>
      obtain ⟨regular, result, ended⟩ := ended c found
      have still := Courier.take_of_ended regular ended b.session turn
      obtain ⟨inRange, same⟩ := List.getElem?_eq_some_iff.mp found
      have kept : b.couriers.set n c = b.couriers := by rw [← same, List.set_getElem_self]
      simp only [still, List.map_nil, List.append_nil, kept]

/-- While the session has no worker, all have ended. -/
theorem Attended.done (attended : b.Attended) (prompt : b.Prompt) (idle : b.session.worker = none) {n : Nat}
    {c : Courier}
    (found : b.couriers[n]? = some c) : c.Done :=
  ⟨attended.regular c (List.mem_of_getElem? found), (attended.ended prompt n c found).resolve_left fun w => w.2 idle⟩

/-- While no worker is at work, nothing more is learnt of threads. -/
theorem threads_happen (attended : b.Attended) (prompt : b.Prompt) (idle : b.session.worker = none)
    (h : Happening σ) : (b.happen h).session.threads = b.session.threads := by
  cases h with
  | outside change | elsewhere others => rfl
  | turn n turn =>
      rw [turn_of_ended fun c found => attended.done prompt idle found]

end Bridge
end DebugBridge
