import DebugBridge.Proofs.Wire.RoundTrip
import DebugBridge.Relay.Inlet

/-!
# Streams that go on

`next` looks at the bytes that have come so far. What it finds there stays found, whatever comes behind
(`next_append_of_message`, `next_append_of_failed`), and its messages are those that `read` gives (`read_eq_some_iff`).
An inlet therefore takes off a stream what would be read off it message by message, however the stream is cut:
`Stands` says how an inlet stands with the bytes that are left, and `drain_stands` that it does so after all
that comes.
-/

namespace DebugBridge.Wire

/-! ## Headers -/

/-- A header that is cut is read on from where it was cut. -/
theorem scanHeader_append (h : Header) (line bs more : Bytes) :
    scanHeader h line (bs ++ more) =
      match scanHeader h line bs with
      | .error e => .error e
      | .ok (.closed length rest) => .ok (.closed length (rest ++ more))
      | .ok (.within h line) => scanHeader h line.reverse more := by
  induction bs generalizing h line with
  | nil => simp [scanHeader]
  | cons b bs ih =>
      rw [List.cons_append, scanHeader, scanHeader]
      by_cases feed : b = 10
      · rw [if_pos feed, if_pos feed]
        cases h.addLine line.reverse with
        | error e => rfl
        | ok added =>
            cases added with
            | none => rfl
            | some h => exact ih h []
      · rw [if_neg feed, if_neg feed]
        exact ih h (b :: line)

/-- A header takes bytes. -/
theorem length_lt_of_closed {h : Header} {line bs rest : Bytes} {length : Option Nat}
    (scan : scanHeader h line bs = .ok (.closed length rest)) : rest.length < bs.length := by
  induction bs generalizing h line with
  | nil => cases scan
  | cons b bs ih =>
      rw [scanHeader] at scan
      split at scan
      · split at scan
        · cases scan
        · cases scan
          exact Nat.lt_succ_self _
        · exact Nat.lt_succ_of_lt (ih scan)
      · exact Nat.lt_succ_of_lt (ih scan)

/-! ## Messages -/

/-- A payload is read if there is a length, as many bytes, and a value in them. -/
theorem readPayload_eq_ok_iff {length : Option Nat} {bs rest : Bytes} {v : Json} :
    readPayload length bs = .ok (v, rest) ↔
      ∃ payload, length = some payload.length ∧ bs = payload ++ rest ∧ Json.decode payload = .ok v := by
  constructor
  · intro reads
    cases length with
    | none => cases reads
    | some n =>
        rw [readPayload] at reads
        split at reads
        · cases reads
        · next whole =>
            have size : (bs.take n).length = n :=
              Nat.le_antisymm (List.length_take_le n bs) (Nat.le_of_not_lt whole)
            split at reads
            · next decoded =>
                cases reads
                exact ⟨bs.take n, by rw [size], (List.take_append_drop n bs).symm, decoded⟩
            · cases reads
  · rintro ⟨payload, rfl, rfl, decoded⟩
    have front : (payload ++ rest).take payload.length = payload := List.take_left
    simp only [readPayload, front, Nat.lt_irrefl, if_false, decoded, List.drop_left]

/-- A message is read if its header is closed and its payload is there, and in no other case. -/
theorem read_eq_some_iff {bs rest : Bytes} {v : Json} :
    read bs = .ok (some (v, rest)) ↔
      ∃ payload, scanHeader .empty [] bs = .ok (.closed (some payload.length) (payload ++ rest)) ∧
        Json.decode payload = .ok v := by
  have payload {length : Option Nat} {left : Bytes} :
      (readPayload length left).map some = .ok (some (v, rest)) ↔ readPayload length left = .ok (v, rest) := by
    cases readPayload length left <;> simp [Except.map]
  rw [read]
  cases scan : scanHeader .empty [] bs with
  | error e => simp
  | ok reached =>
      cases reached with
      | closed length left =>
          simp only [payload, readPayload_eq_ok_iff, Except.ok.injEq, HeaderEnd.closed.injEq, and_assoc]
      | within h line =>
          -- A stream that ends within its header has no payload, and no value is empty.
          have nothing (length : Option Nat) : readPayload length [] ≠ .ok (v, rest) := by
            intro reads
            obtain ⟨payload, -, empty, decoded⟩ := readPayload_eq_ok_iff.mp reads
            obtain ⟨rfl, -⟩ := List.append_eq_nil_iff.mp empty.symm
            cases decoded
          cases line with
          | nil => simp only; split <;> simp
          | cons b line =>
              cases added : h.addLine (b :: line) with
              | error e => simp [added]
              | ok closed =>
                  cases closed with
                  | none => simp [added, payload, nothing]
                  | some h => simp only [added]; split <;> simp

/-- What follows a message does not change how it is read. -/
theorem read_append {bs rest : Bytes} {v : Json} (reads : read bs = .ok (some (v, rest))) (more : Bytes) :
    read (bs ++ more) = .ok (some (v, rest ++ more)) := by
  obtain ⟨payload, scan, decoded⟩ := read_eq_some_iff.mp reads
  refine read_eq_some_iff.mpr ⟨payload, ?_, decoded⟩
  rw [scanHeader_append, scan]
  simp only [List.append_assoc]

/-- More bytes at the end of a stream are left when all else is read. -/
theorem ReadsOff.append {bs rest : Bytes} {vs : List Json} (reads : ReadsOff bs vs rest) (more : Bytes) :
    ReadsOff (bs ++ more) vs (rest ++ more) := by
  induction reads with
  | nothing bs => exact .nothing _
  | message first others ih => exact .message (read_append first more) ih

/-- Values that are read one row after the other are one row. -/
theorem ReadsOff.trans {bs middle rest : Bytes} {vs ws : List Json} (first : ReadsOff bs vs middle)
    (second : ReadsOff middle ws rest) : ReadsOff bs (vs ++ ws) rest := by
  induction first with
  | nothing bs => exact second
  | message here others ih => exact .message here (ih second)

/-! ## What the bytes so far hold -/

/-- What there is to find in the bytes so far. -/
inductive Found (bs : Bytes) : Next → Prop where
  /-- A line that does not belong into a header. -/
  | noHeader {e : Error} (scan : scanHeader .empty [] bs = .error e) : Found bs (.failed e)
  /-- The first part of a header. -/
  | cut {h : Header} {line : Bytes} (scan : scanHeader .empty [] bs = .ok (.within h line)) : Found bs .waiting
  /-- A header without a length. -/
  | noLength {rest : Bytes} (scan : scanHeader .empty [] bs = .ok (.closed none rest)) :
      Found bs (.failed (.malformed .noLength))
  /-- A header with a length for which there is no room. -/
  | noRoom {n : Nat} {rest : Bytes} (scan : scanHeader .empty [] bs = .ok (.closed (some n) rest))
      (large : payloadLimit ≤ n) : Found bs (.failed .capacity)
  /-- The first part of a payload. -/
  | short {n : Nat} {rest : Bytes} (scan : scanHeader .empty [] bs = .ok (.closed (some n) rest))
      (small : n < payloadLimit) (less : rest.length < n) : Found bs .waiting
  /-- A payload that is no value. -/
  | illFormed {payload rest : Bytes} {e : Json.ReadError}
      (scan : scanHeader .empty [] bs = .ok (.closed (some payload.length) (payload ++ rest)))
      (small : payload.length < payloadLimit) (refused : Json.decode payload = .error e) :
      Found bs (.failed (.json e))
  /-- A message. -/
  | message {payload rest : Bytes} {v : Json}
      (scan : scanHeader .empty [] bs = .ok (.closed (some payload.length) (payload ++ rest)))
      (small : payload.length < payloadLimit) (decoded : Json.decode payload = .ok v) : Found bs (.message v rest)

/-- What comes first on a stream. -/
theorem found (bs : Bytes) : Found bs (next bs) := by
  rw [next]
  split
  · next scan => exact .noHeader scan
  · next scan => exact .cut scan
  · next scan => exact .noLength scan
  · next n rest scan =>
      simp only
      split
      · next large => exact .noRoom scan large
      · next room =>
          have small := Nat.lt_of_not_le room
          split
          · next less => exact .short scan small (by rw [List.length_take] at less; omega)
          · next whole =>
              have size : (rest.take n).length = n :=
                Nat.le_antisymm (List.length_take_le n rest) (Nat.le_of_not_lt whole)
              have split : scanHeader .empty [] bs =
                  .ok (.closed (some (rest.take n).length) (rest.take n ++ rest.drop n)) := by
                rw [size, List.take_append_drop, scan]
              split
              · next decoded => exact .message split (size.symm ▸ small) decoded
              · next refused => exact .illFormed split (size.symm ▸ small) refused

theorem Found.next_eq {bs : Bytes} {outcome : Next} (found : Found bs outcome) : next bs = outcome := by
  have front (payload rest : Bytes) : (payload ++ rest).take payload.length = payload := List.take_left
  cases found with
  | noHeader scan | cut scan | noLength scan => rw [next, scan]
  | noRoom scan large =>
      rw [next, scan]
      exact if_pos large
  | short scan small less =>
      rw [next, scan]
      simp only [Nat.not_le.mpr small, if_false]
      exact if_pos (by rw [List.length_take]; omega)
  | illFormed scan small refused =>
      rw [next, scan]
      simp only [Nat.not_le.mpr small, front, Nat.lt_irrefl, if_false, refused]
  | message scan small decoded =>
      rw [next, scan]
      simp only [Nat.not_le.mpr small, front, Nat.lt_irrefl, if_false, decoded, List.drop_left]

/-- What follows does not mend a stream that failed. -/
theorem next_append_of_failed {bs : Bytes} {e : Error} (failed : next bs = .failed e) (more : Bytes) :
    next (bs ++ more) = .failed e := by
  have here := Wire.found bs
  rw [failed] at here
  apply Found.next_eq
  have scan := scanHeader_append .empty [] bs more
  cases here with
  | noHeader here => exact .noHeader (by rw [scan, here])
  | noLength here => exact .noLength (by rw [scan, here])
  | noRoom here large => exact .noRoom (by rw [scan, here]) large
  | @illFormed payload rest e here small refused =>
      have whole : scanHeader .empty [] (bs ++ more) =
          .ok (.closed (some payload.length) (payload ++ (rest ++ more))) := by
        rw [scan, here]
        simp only [List.append_assoc]
      exact .illFormed whole small refused

/-- A message that comes first is read. -/
theorem read_of_message {bs rest : Bytes} {v : Json} (found : next bs = .message v rest) :
    read bs = .ok (some (v, rest)) := by
  have here := Wire.found bs
  rw [found] at here
  cases here with
  | message scan small decoded => exact read_eq_some_iff.mpr ⟨_, scan, decoded⟩

/-- What is read comes first, if there is room for its length. -/
theorem message_of_read {bs rest : Bytes} {v : Json} (reads : read bs = .ok (some (v, rest)))
    (room : next bs ≠ .failed .capacity) : next bs = .message v rest := by
  obtain ⟨payload, scan, decoded⟩ := read_eq_some_iff.mp reads
  refine Found.next_eq (.message scan (Nat.lt_of_not_le fun large => ?_) decoded)
  exact room (Found.next_eq (.noRoom scan large))

/-- What fails for a stream that may go on fails if it ends there, in the same way. -/
theorem read_of_failed {bs : Bytes} {e : Error} (failed : next bs = .failed e) (room : e ≠ .capacity) :
    read bs = .error e := by
  have here := Wire.found bs
  rw [failed] at here
  cases here with
  | noHeader scan => rw [read, scan]
  | noLength scan =>
      rw [read, scan]
      rfl
  | noRoom scan large => exact absurd rfl room
  | @illFormed payload rest e scan small refused =>
      have front : (payload ++ rest).take payload.length = payload := List.take_left
      rw [read, scan]
      simp only [readPayload, front, Nat.lt_irrefl, if_false, refused]
      rfl

/-- Every message takes bytes off the stream, so reading ends. -/
theorem length_lt_of_message {bs rest : Bytes} {v : Json} (found : next bs = .message v rest) :
    rest.length < bs.length := by
  have here := Wire.found bs
  rw [found] at here
  cases here with
  | message scan small decoded =>
      have less := length_lt_of_closed scan
      rw [List.length_append] at less
      omega

/-! ## The end of a stream -/

/-- A stream that has these bytes left, and may have ended there, gives no message more. -/
def Spent (ended : Prop) (rest : Bytes) : Prop :=
  (∃ e, next rest = .failed e) ∨ ended ∧ next rest = .waiting

/-- It gives none because a header comes next with a length for which there is no room. The line that closes the header
may be without a line feed if the stream has ended. -/
def Overlong (ended : Prop) (rest : Bytes) : Prop :=
  next rest = .failed .capacity ∨ ended ∧ read rest = .error .capacity

variable {ended : Prop} {rest : Bytes}

/-- What is spent stays spent, for the same reason. -/
theorem Spent.later {ended' : Prop} {more : Bytes} (spent : Spent ended rest) (stays : ended → ended')
    (full : ended → more = []) :
    Spent ended' (rest ++ more) ∧ (Overlong ended' (rest ++ more) ↔ Overlong ended rest) := by
  rcases spent with ⟨e, failed⟩ | ⟨ended, waits⟩
  · -- What failed once fails in the same way with more bytes and at the end, so the reason is the same.
    have still := next_append_of_failed failed more
    refine ⟨.inl ⟨e, still⟩, ?_⟩
    by_cases room : e = .capacity
    · subst room
      exact ⟨fun _ => .inl failed, fun _ => .inl still⟩
    · simp [Overlong, failed, still, room, read_of_failed failed room, read_of_failed still room]
  · rw [full ended, List.append_nil]
    exact ⟨.inr ⟨stays ended, waits⟩, by simp [Overlong, ended, stays ended]⟩

/-- No message is read off a stream that is spent, unless it breaks off at a header for which there is no room. -/
theorem Spent.read_ne (spent : Spent ended rest) (room : ¬ Overlong ended rest) (v : Json) (more : Bytes) :
    read rest ≠ .ok (some (v, more)) := by
  intro reads
  have found := message_of_read reads fun capacity => room (.inl capacity)
  rcases spent with ⟨e, failed⟩ | ⟨-, waits⟩
  · rw [found] at failed
    cases failed
  · rw [found] at waits
    cases waits

end DebugBridge.Wire

namespace DebugBridge.Inlet

open Wire

/-- What an inlet is if the bytes that are left of its stream are these, and the stream may have ended. -/
inductive Stands (ended : Prop) (rest : Bytes) : Inlet → Prop where
  | reading (goesOn : ¬ ended) (waits : next rest = .waiting) : Stands ended rest (.open rest)
  | lost (spent : Spent ended rest) (room : ¬ Overlong ended rest) : Stands ended rest .lost
  | deaf (spent : Spent ended rest) (overlong : Overlong ended rest) : Stands ended rest .deaf

/-- What is told of an inlet that is given up. -/
def notice : Inlet → List Arrival
  | .lost => [.lost]
  | .open _ | .deaf => []

variable {ended : Prop} {rest : Bytes} {inlet : Inlet}

/-- The messages of a buffer are those that are read off it, and the inlet stands with what is left. -/
theorem drain_stands (goesOn : ¬ ended) {fuel : Nat} {buffer : Bytes} (enough : buffer.length < fuel) :
    ∃ vs rest, ReadsOff buffer vs rest ∧ Stands ended rest (drain fuel buffer).2 ∧
      (drain fuel buffer).1 = vs.map .message ++ (drain fuel buffer).2.notice := by
  induction fuel generalizing buffer with
  | zero => cases enough
  | succ fuel ih =>
      rw [drain]
      split
      · next waits => exact ⟨[], buffer, .nothing buffer, .reading goesOn waits, rfl⟩
      · next capacity => exact ⟨[], buffer, .nothing buffer, .deaf (.inl ⟨_, capacity⟩) (.inl capacity), rfl⟩
      · next e room failed =>
          refine ⟨[], buffer, .nothing buffer, .lost (.inl ⟨e, failed⟩) ?_, rfl⟩
          rintro (capacity | ⟨done, -⟩)
          · rw [failed] at capacity
            cases capacity
            exact room rfl
          · exact goesOn done
      · next v left found =>
          -- Every message takes a byte, so the fuel stays above what is left.
          have shorter := length_lt_of_message found
          have enough : left.length < fuel := by omega
          obtain ⟨vs, rest, reads, stands, arrivals⟩ := ih enough
          exact ⟨v :: vs, rest, .message (read_of_message found) reads, stands, by simp [arrivals]⟩

/-- An inlet that is read no longer stands as it is with all that comes. -/
theorem Stands.later {ended' : Prop} {more : Bytes} (stands : Stands ended rest inlet)
    (closed : ∀ buffer, inlet ≠ .open buffer) (stays : ended → ended') (full : ended → more = []) :
    Stands ended' (rest ++ more) inlet := by
  cases stands with
  | reading goesOn waits => exact absurd rfl (closed rest)
  | lost spent room =>
      obtain ⟨spent, same⟩ := spent.later stays full
      exact .lost spent fun overlong => room (same.mp overlong)
  | deaf spent overlong =>
      obtain ⟨spent, same⟩ := spent.later stays full
      exact .deaf spent (same.mpr overlong)

/-- There is room, so no message is left. -/
theorem Stands.read_ne (stands : Stands ended rest inlet) (room : ¬ Overlong ended rest) (v : Json) (more : Bytes) :
    read rest ≠ .ok (some (v, more)) := by
  cases stands with
  | lost spent _ => exact spent.read_ne room v more
  | deaf spent overlong => exact absurd overlong room
  | reading goesOn waits =>
      intro reads
      have found := message_of_read reads fun capacity => room (.inl capacity)
      rw [waits] at found
      cases found

/-- The adapter is given up exactly if its stream has ended or cannot be read. -/
theorem Stands.eq_lost_iff (stands : Stands ended rest inlet) (room : ¬ Overlong ended rest) :
    inlet = .lost ↔ ended ∨ ∃ e, next rest = .failed e := by
  cases stands with
  | reading goesOn waits => simp [goesOn, waits]
  | deaf spent overlong => exact absurd overlong room
  | lost spent _ =>
      refine ⟨fun _ => ?_, fun _ => rfl⟩
      exact spent.elim .inr fun done => .inl done.1

/-- Where there is no room for a length, nothing is read any more and nobody is told. -/
theorem Stands.eq_deaf (stands : Stands ended rest inlet) (overlong : Overlong ended rest) : inlet = .deaf := by
  cases stands with
  | deaf _ _ => rfl
  | lost spent room => exact absurd overlong room
  | reading goesOn waits =>
      rcases overlong with failed | ⟨done, -⟩
      · rw [waits] at failed
        cases failed
      · exact absurd done goesOn

/-- At the end of its stream an inlet is read no longer. -/
theorem stands_finish (waits : next rest = .waiting) (done : ended) :
    Stands ended rest (finish (.open rest)).2 ∧ (finish (.open rest)).1 = (finish (.open rest)).2.notice := by
  have spent : Spent ended rest := .inr ⟨done, waits⟩
  rw [finish]
  split
  · next capacity => exact ⟨.deaf spent (.inr ⟨done, capacity⟩), rfl⟩
  · next other =>
      refine ⟨.lost spent ?_, rfl⟩
      rintro (failed | ⟨-, capacity⟩)
      · rw [waits] at failed
        cases failed
      · exact other capacity

end DebugBridge.Inlet
