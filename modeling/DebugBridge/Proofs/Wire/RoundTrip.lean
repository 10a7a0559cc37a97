import DebugBridge.Proofs.Json.Decoded
import DebugBridge.Proofs.Json.RoundTrip
import DebugBridge.Proofs.Text.Trim
import DebugBridge.Wire

/-!
# Reading framed messages back

What `write` puts on a stream, `read` takes off it: the header is read to its closing line and no further
(`scanHeader_write`), whatever bytes come after it, and the length in it is that of the payload. A stream of
written messages therefore gives these messages, in their order, and leaves the bytes behind them
(`readsOff_writes`).
-/

namespace DebugBridge

/-! ## Texts in a header -/

/-- The decimal form of a number consists of digits, which are no blanks and no line ends. -/
theorem plain_of_mem_decimal {n : Nat} {c : Char} (member : c ∈ decimal n) :
    isBlank c = false ∧ c ≠ '\r' ∧ c ≠ '\n' :=
  forall_mem_decimal (P := fun c => isBlank c = false ∧ c ≠ '\r' ∧ c ≠ '\n') (by decide) n c member

/-- A blank before a number is no part of it. -/
theorem trimBlank_decimal (n : Nat) : trimBlank (' ' :: decimal n) = decimal n := by
  have plain : ∀ c ∈ decimal n, isBlank c = false := fun c member => (plain_of_mem_decimal member).1
  obtain ⟨d, rest, -, front⟩ := digitsOnto_eq_cons n []
  have starts : (' ' :: decimal n).dropWhile isBlank = decimal n := by
    have first : isBlank (digitChar d) = false := plain _ (by simp [decimal, front])
    rw [List.dropWhile_cons_of_pos (by decide), decimal, front, List.dropWhile_cons_of_neg (by simp [first])]
  have ends : dropLastWhile isBlank (decimal n ++ []) = decimal n := dropLastWhile_append plain (by simp)
  rw [List.append_nil] at ends
  rw [trimBlank, starts, ends]

namespace Wire

/-! ## The header -/

/-- A line is taken in at its line feed. -/
theorem scanHeader_line (h : Header) (done line rest : Bytes) (within : 10 ∉ line) :
    scanHeader h done (line ++ 10 :: rest) =
      match h.addLine (done.reverse ++ line) with
      | .error e => .error e
      | .ok none => .ok (.closed h.length rest)
      | .ok (some h) => scanHeader h [] rest := by
  induction line generalizing done with
  | nil =>
      rw [List.append_nil]
      exact if_pos rfl
  | cons b line ih =>
      have other : ¬ b = 10 := fun feed => within (feed ▸ List.mem_cons_self)
      have later : 10 ∉ line := fun member => within (List.mem_cons_of_mem b member)
      rw [List.cons_append, scanHeader, if_neg other, ih (b :: done) later, List.reverse_cons, List.append_assoc]
      rfl

/-- The line that gives a length, without the line feed. -/
def lengthLine (n : Nat) : List Char :=
  lengthName ++ ' ' :: (decimal n ++ ['\r'])

theorem lineFeed_not_mem_lengthLine (n : Nat) : '\n' ∉ lengthLine n := by
  have name : '\n' ∉ lengthName := by decide
  have digits : '\n' ∉ decimal n := fun member => (plain_of_mem_decimal member).2.2 rfl
  simp [lengthLine, name, digits]

/-- A length is read off its line if the machine has such lengths. -/
theorem addLine_lengthLine {n : Nat} (fits : n < 2 ^ 64) :
    Header.empty.addLine (Utf8.encodeChars (lengthLine n)) = .ok (some ⟨true, some n⟩) := by
  have text : dropLastWhile (fun c => c == '\r' || c == '\n') (lengthLine n) = lengthName ++ ' ' :: decimal n := by
    have split : lengthLine n = (lengthName ++ ' ' :: decimal n) ++ ['\r'] := by simp [lengthLine]
    rw [split]
    have name : (lengthName.all fun c => !(c == '\r' || c == '\n')) = true := by decide
    refine dropLastWhile_append (fun c member => ?_) (by simp)
    rcases List.mem_append.mp member with front | value
    · simpa using List.all_eq_true.mp name c front
    · rcases List.mem_cons.mp value with rfl | digit
      · rfl
      · simp [plain_of_mem_decimal digit]
  have length : lengthOf (lengthName ++ ' ' :: decimal n) = .ok (some n) := by
    have word : n < Nat.pow 2 64 := fits
    simp only [lengthOf, afterFront?_append, trimBlank_decimal, readUnsigned_decimal, if_pos word]
  rw [Header.addLine, Utf8.decodeChars?_encodeChars]
  simp only [text]
  show (lengthOf (lengthName ++ ' ' :: decimal n)).map _ = _
  rw [length]
  rfl

/-- The bytes of a message, line by line. -/
theorem write_eq (v : Json) :
    write v = Utf8.encodeChars (lengthLine (Json.encode v).length) ++ 10 :: ([13] ++ 10 :: Json.encode v) := by
  have lines : lengthName ++ ' ' :: (decimal (Json.encode v).length ++ ['\r', '\n', '\r', '\n']) =
      lengthLine (Json.encode v).length ++ ['\n', '\r', '\n'] := by simp [lengthLine]
  rw [write, lines, Utf8.encodeChars_append, List.append_assoc]
  rfl

/-- The header of a written message is read to its closing line, and nothing of the payload with it. -/
theorem scanHeader_write {v : Json} (fits : (Json.encode v).length < 2 ^ 64) (rest : Bytes) :
    scanHeader .empty [] (write v ++ rest) =
      .ok (.closed (some (Json.encode v).length) (Json.encode v ++ rest)) := by
  have first := Utf8.lineFeed_not_mem_encodeChars (lineFeed_not_mem_lengthLine (Json.encode v).length)
  rw [write_eq, List.append_assoc, List.cons_append, scanHeader_line _ _ _ _ first]
  simp only [List.reverse_nil, List.nil_append, addLine_lengthLine fits]
  exact scanHeader_line ⟨true, some (Json.encode v).length⟩ [] [13] (Json.encode v ++ rest) (by decide)

/-! ## Messages -/

/-- A written message is read back, and the bytes behind it are left. -/
theorem read_write {v : Json} (exact : v.Exact Json.depthLimit) (fits : (Json.encode v).length < 2 ^ 64)
    (rest : Bytes) : read (write v ++ rest) = .ok (some (v, rest)) := by
  have payload : (Json.encode v ++ rest).take (Json.encode v).length = Json.encode v := List.take_left
  rw [read, scanHeader_write fits]
  simp only [readPayload, payload, Nat.lt_irrefl, if_false, Json.decode_encode_of_exact exact, List.drop_left]
  rfl

/-- A message that is read nests no deeper than the reader goes, whatever the stream. -/
theorem shape_of_read {bs rest : Bytes} {v : Json} (reads : read bs = .ok (some (v, rest))) :
    v.Shaped Json.depthLimit := by
  have payload {length : Option Nat} {bs rest : Bytes} {v : Json}
      (reads : (readPayload length bs).map some = .ok (some (v, rest))) : v.Shaped Json.depthLimit := by
    obtain ⟨found, reads, same⟩ := Json.ok_of_map reads
    cases same
    cases length with
    | none => cases reads
    | some n =>
        rw [readPayload] at reads
        split at reads
        · cases reads
        · split at reads
          · next decoded =>
              cases reads
              exact Json.shape_of_decode decoded
          · cases reads
  rw [read] at reads
  split at reads
  · cases reads
  · exact payload reads
  · split at reads <;> cases reads
  · split at reads
    · cases reads
    · exact payload reads
    · split at reads <;> cases reads

/-- Read message by message, a stream gives these values and leaves the rest of its bytes. -/
inductive ReadsOff : Bytes → List Json → Bytes → Prop where
  | nothing (bs : Bytes) : ReadsOff bs [] bs
  | message {bs middle rest : Bytes} {v : Json} {vs : List Json} (first : read bs = .ok (some (v, middle)))
      (others : ReadsOff middle vs rest) : ReadsOff bs (v :: vs) rest

/-- A stream that gives values and is empty then is read to its end. -/
theorem ReadsOff.readMany {bs : Bytes} {vs : List Json} (reads : ReadsOff bs vs []) {fuel : Nat}
    (enough : vs.length < fuel) : readMany fuel bs = (vs, .ended) := by
  generalize ends : ([] : Bytes) = rest at reads
  induction reads generalizing fuel with
  | nothing bs =>
      obtain ⟨fuel, rfl⟩ := Nat.exists_eq_add_of_lt enough
      rw [← ends]
      rfl
  | message first others ih =>
      cases fuel with
      | zero => cases enough
      | succ fuel =>
          rw [Wire.readMany, first]
          simp only [ih (Nat.lt_of_succ_lt_succ enough) ends]

theorem length_le_writes (vs : List Json) : vs.length ≤ (vs.flatMap write).length := by
  induction vs with
  | nil => exact Nat.le_refl 0
  | cons v vs ih =>
      rw [List.flatMap_cons, List.length_append, write_eq]
      simp only [List.length_cons, List.length_append]
      omega

/-- Written messages are read back one after the other, each as it was, and the bytes behind them are left. If there
are none, that is the end of the stream. A text has fewer than `2 ^ 64` bytes, as its length is a word. -/
theorem readsOff_writes (vs : List Json) (rest : Bytes) (exact : ∀ v ∈ vs, v.Exact Json.depthLimit)
    (fits : ∀ v ∈ vs, (Json.encode v).length < 2 ^ 64) :
    ReadsOff (vs.flatMap write ++ rest) vs rest ∧ read [] = .ok none ∧
      readAll (vs.flatMap write) = (vs, .ended) := by
  have reads (rest : Bytes) : ReadsOff (vs.flatMap write ++ rest) vs rest := by
    induction vs with
    | nil => exact .nothing rest
    | cons v vs ih =>
        obtain ⟨exactHere, exactThere⟩ := List.forall_mem_cons.mp exact
        obtain ⟨fitsHere, fitsThere⟩ := List.forall_mem_cons.mp fits
        rw [List.flatMap_cons, List.append_assoc]
        exact .message (read_write exactHere fitsHere _) (ih exactThere fitsThere)
  refine ⟨reads rest, rfl, ?_⟩
  have whole := reads []
  rw [List.append_nil] at whole
  exact whole.readMany (Nat.lt_succ_of_le (length_le_writes vs))

/-- Messages whose texts hold a header with its line ends, and characters of several bytes. -/
def sampleMessages : List Json :=
  [.str "Content-Length: 2\r\n\r\n\x7b\x7d", Json.ofMembers [("é", .arr [.int (-1), .null]), ("\n", .str "日")]]

theorem readsOff_writes_sampleMessages :
    ReadsOff (sampleMessages.flatMap write ++ [67, 10]) sampleMessages [67, 10] ∧ read [] = .ok none ∧
      readAll (sampleMessages.flatMap write) = (sampleMessages, .ended) :=
  readsOff_writes sampleMessages [67, 10] (by decide +kernel) (by decide +kernel)

end Wire
end DebugBridge
