import DebugBridge.Proofs.Session.Loss

/-!
# What arrives of a stream

A pump reads the adapter's stream message by message. However the stream is cut, what arrives are the messages that
can be read off it, and the notice of its loss (`Inlet.arrivals_start`); a row that has arrived comes from the stream's
front (`Arrival.comeFrom`).
-/

namespace DebugBridge

namespace Arrival

/-- The messages among arrivals, up to the loss of the adapter. -/
def messages : List Arrival → List Json
  | .message v :: rest => v :: messages rest
  | _ => []

/-- Nothing is read behind the loss of the adapter. -/
theorem messages_append (row later : List Arrival) :
    messages (row ++ later) = messages row ++ if .lost ∈ row then [] else messages later := by
  induction row with
  | nil => simp [messages]
  | cons a row ih =>
      cases a with
      | message v => simp [messages, ih]
      | lost => simp [messages]

theorem messages_map_append (vs : List Json) (later : List Arrival) :
    messages (vs.map .message ++ later) = vs ++ messages later := by
  induction vs with
  | nil => rfl
  | cons v vs ih => simp [messages, ih]

end Arrival

namespace Inlet

/-- What an inlet passes on of signals. -/
def arrivals (inlet : Inlet) : List Signal → List Arrival
  | [] => []
  | s :: signals => (inlet.receive s).1 ++ arrivals (inlet.receive s).2 signals

/-- What arrives of later signals comes behind. -/
theorem arrivals_append (inlet : Inlet) (signals later : List Signal) :
    inlet.arrivals (signals ++ later) = inlet.arrivals signals ++ (inlet.after signals).arrivals later := by
  induction signals generalizing inlet with
  | nil => rfl
  | cons s signals ih => simp only [List.cons_append, arrivals, ih, List.append_assoc, after, List.foldl_cons]

/-- Nothing arrives off a stream that is not read any more. -/
theorem arrivals_of_closed {inlet : Inlet} (closed : ∀ buffer, inlet ≠ .open buffer) (s : Signal) :
    inlet.arrivals [s] = [] := by
  cases inlet with
  | «open» buffer => exact absurd rfl (closed buffer)
  | lost | deaf => cases s <;> rfl

/-- However a stream is cut, what arrives are the messages that can be read off it, and the notice of the loss. -/
theorem arrivals_start (signals : List Signal) :
    ∃ vs rest, Wire.ReadsOff (streamOf signals) vs rest ∧
      Stands (.ended ∈ signals) rest (start.after signals) ∧
        start.arrivals signals = vs.map .message ++ (start.after signals).notice := by
  induction signals using List.reverseRecOn with
  | nil => exact ⟨[], [], .nothing [], .reading (by simp) rfl, rfl⟩
  | append_singleton signals s ih =>
      obtain ⟨vs, rest, reads, stands, arrived⟩ := ih
      rw [arrivals_append, arrived]
      by_cases closed : ∀ buffer, start.after signals ≠ .open buffer
      · obtain ⟨more, longer, full⟩ := streamOf_extends signals [s]
        have same : start.after (signals ++ [s]) = start.after signals := by
          rw [after_append, (inputs_of_closed closed [s]).2]
        rw [longer, same, arrivals_of_closed closed, List.append_nil]
        exact ⟨vs, rest ++ more, reads.append more, stands.later closed (List.mem_append_left _) full, rfl⟩
      · obtain ⟨buffer, isOpen⟩ := Classical.not_forall_not.mp closed
        rw [isOpen] at stands
        cases stands with
        | reading goesOn waits =>
            have ends : .ended ∈ signals ++ [s] ↔ s = .ended := by simp [goesOn, eq_comm]
            obtain ⟨more, left, off, stands, told⟩ := receive_open waits ends
            have reached : start.after (signals ++ [s]) = ((Inlet.open rest).receive s).2 := by
              rw [after_append, isOpen]
              rfl
            refine ⟨vs ++ more, left, ?_, reached ▸ stands, ?_⟩
            · rw [streamOf_append goesOn]
              exact (reads.append _).trans off
            · simp [isOpen, reached, arrivals, told, notice]

/-- An inlet leaves no message that is complete. -/
theorem Stands.next_ne {ended : Prop} {rest : Bytes} {inlet : Inlet} (stands : Stands ended rest inlet) (v : Json)
    (more : Bytes) : Wire.next rest ≠ .message v more := by
  intro found
  cases stands with
  | reading goesOn waits => cases waits.symm.trans found
  | lost spent _ | deaf spent _ =>
      rcases spent with ⟨e, failed⟩ | ⟨-, waits⟩
      · cases failed.symm.trans found
      · cases waits.symm.trans found

end Inlet

/-- A row of arrivals comes from a stream: the messages up to the loss are read off the stream, in order, and others
behind them are read only if the row does not hold all that came. No message is left then. -/
def Arrival.ComeFrom (signals : List Signal) (row : List Arrival) : Prop :=
  ∃ others rest, Wire.ReadsOff (streamOf signals) (messages row ++ others) rest ∧
    (∀ v more, Wire.next rest ≠ .message v more) ∧ (row = Inlet.start.arrivals signals → others = [])

theorem Arrival.comeFrom {signals : List Signal} {row : List Arrival} (first : row <+: Inlet.start.arrivals signals) :
    ComeFrom signals row := by
  obtain ⟨vs, rest, reads, stands, arrived⟩ := Inlet.arrivals_start signals
  have all : messages (Inlet.start.arrivals signals) = vs := by
    rw [arrived, messages_map_append]
    cases Inlet.start.after signals <;> simp [Inlet.notice, messages]
  obtain ⟨later, whole⟩ := first
  rw [← whole, messages_append] at all
  refine ⟨_, rest, all ▸ reads, stands.next_ne, fun same => ?_⟩
  have nothing : later = [] := by simpa [same] using whole
  simp [nothing, messages]

end DebugBridge
