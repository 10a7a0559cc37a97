import DebugBridge.Proofs.Wire.Grammar

/-!
# Streams that are cut

A stream of written messages may end anywhere. A message that lies wholly before the end is read, and the one that the
end cuts is told by the error that it leads to: a header that breaks off is malformed, even if the first digits of its
length stand there, and from the carriage return of its closing line on it is the payload that is missing
(`readAll_cut`). No part of a message passes for a message.
-/

namespace DebugBridge

/-- Plain characters are one byte each. -/
theorem Utf8.encodeChars_ascii {cs : List Char} (ascii : ∀ c ∈ cs, c.toNat < 0x80) :
    encodeChars cs = cs.map fun c => c.toNat.toUInt8 := by
  induction cs with
  | nil => rfl
  | cons c cs ih =>
      obtain ⟨here, there⟩ := List.forall_mem_cons.mp ascii
      rw [encodeChars_cons, encodeChar_ascii here, ih there]
      rfl

/-- The first bytes of a text in ASCII are a text. -/
theorem Utf8.exists_prefix_of_ascii {cs : List Char} (ascii : ∀ c ∈ cs, c.toNat < 0x80) {bs : Bytes}
    (front : bs <+: encodeChars cs) : ∃ first, first <+: cs ∧ bs = encodeChars first := by
  rw [encodeChars_ascii ascii] at front
  obtain ⟨first, within, rfl⟩ := List.prefix_map_iff.mp front
  exact ⟨first, within, (encodeChars_ascii fun c member => ascii c (within.subset member)).symm⟩

namespace Wire

/-! ## The bytes of a message -/

/-- The bytes of a message up to the blank line that closes its header. -/
def openHeader (v : Json) : Bytes :=
  lineBytes (lengthLine (Json.encode v).length)

/-- A message is its header, a line break and its payload. -/
theorem write_eq_openHeader (v : Json) : write v = openHeader v ++ 13 :: 10 :: Json.encode v := by
  rw [write_eq, openHeader, lineBytes, List.append_assoc]
  rfl

theorem write_ne_nil (v : Json) : write v ≠ [] := by
  simp [write_eq_openHeader]

theorem ascii_lengthLine (n : Nat) : ∀ c ∈ lengthLine n, c.toNat < 0x80 := by
  have name : (lengthName.all fun c => decide (c.toNat < 0x80)) = true := by decide
  have digits : ∀ c ∈ decimal n, c.toNat < 0x80 := forall_mem_decimal (by decide) n
  intro c member
  simp only [lengthLine, List.mem_append, List.mem_cons, List.not_mem_nil, or_false] at member
  rcases member with front | rfl | digit | rfl
  · exact of_decide_eq_true (List.all_eq_true.mp name c front)
  · decide
  · exact digits c digit
  · decide

/-- The first characters of the line that gives the length are no blank line. -/
theorem isHeaderLine_of_prefix {n : Nat} {first : List Char} (front : first <+: lengthLine n) (some : first ≠ []) :
    IsHeaderLine first := by
  refine ⟨fun feed => lineFeed_not_mem_lengthLine n (front.subset feed), fun blank => ?_⟩
  obtain ⟨c, rest, rfl⟩ := List.exists_cons_of_ne_nil some
  have letter : c = 'C' := (List.cons_prefix_cons.mp front).1
  exact absurd (blank c List.mem_cons_self) (by rw [letter]; decide)

/-! ## Where a stream is cut -/

/-- Where a stream of written messages ends. -/
inductive Place where
  /-- Between two messages, before the first or behind the last. -/
  | boundary
  /-- Within a header, before the carriage return of the line that closes it. -/
  | header
  /-- Behind that carriage return, before the last byte of the payload. -/
  | payload
deriving DecidableEq, Repr

/-- What a cut leaves of the stream of some messages: those wholly before it, and the place where it is. -/
inductive CutAt : List Json → Bytes → List Json → Place → Prop where
  | boundary (vs : List Json) : CutAt vs [] [] .boundary
  | header {v : Json} {vs : List Json} {part : Bytes} (within : part <+: openHeader v) (some : part ≠ []) :
      CutAt (v :: vs) part [] .header
  | payload {v : Json} {vs : List Json} {part : Bytes} (within : openHeader v ++ 13 :: part <+: write v)
      (proper : openHeader v ++ 13 :: part ≠ write v) : CutAt (v :: vs) (openHeader v ++ 13 :: part) [] .payload
  | behind {v : Json} {vs done : List Json} {cut : Bytes} {place : Place} (further : CutAt vs cut done place) :
      CutAt (v :: vs) (write v ++ cut) (v :: done) place

/-- Every front of a stream of messages is cut at some place in one of them. -/
theorem exists_cutAt {vs : List Json} {cut : Bytes} (front : cut <+: vs.flatMap write) :
    ∃ done place, CutAt vs cut done place := by
  induction vs generalizing cut with
  | nil =>
      obtain rfl := List.prefix_nil.mp front
      exact ⟨[], .boundary, .boundary []⟩
  | cons v vs ih =>
      rw [List.flatMap_cons] at front
      rcases List.prefix_or_prefix_of_prefix (List.prefix_append (write v) _) front with ⟨more, rfl⟩ | within
      · obtain ⟨done, place, further⟩ := ih ((List.prefix_append_right_inj (write v)).mp front)
        exact ⟨v :: done, place, .behind further⟩
      · by_cases whole : cut = write v
        · subst whole
          refine ⟨[v], .boundary, ?_⟩
          have behind : CutAt (v :: vs) (write v ++ []) [v] .boundary := .behind (.boundary vs)
          rwa [List.append_nil] at behind
        · have shape := write_eq_openHeader v ▸ within
          rcases List.prefix_or_prefix_of_prefix shape (List.prefix_append (openHeader v) _) with early | ⟨more, rfl⟩
          · by_cases nothing : cut = []
            · subst nothing
              exact ⟨[], .boundary, .boundary _⟩
            · exact ⟨[], .header, .header early nothing⟩
          · cases more with
            | nil =>
                rw [List.append_nil]
                exact ⟨[], .header, .header List.prefix_rfl (by simp [openHeader, lineBytes])⟩
            | cons b part =>
                obtain rfl : b = 13 := (List.cons_prefix_cons.mp ((List.prefix_append_right_inj _).mp shape)).1
                exact ⟨[], .payload, .payload within whole⟩

/-! ## Reading the part that is left -/

/-- A length line that does not denote a length is malformed, and so is a header that breaks off. -/
theorem malformed_of_lengthOf {line : List Char} {e : Error} (refused : lengthOf line = .error e) :
    ∃ defect, e = .malformed defect := by
  rw [lengthOf] at refused
  split at refused
  · cases refused
  · split at refused
    · cases refused
    · cases refused
      exact ⟨_, rfl⟩

/-- The first part of a header is malformed, wherever in it the stream ends. -/
theorem read_of_header {v : Json} {part : Bytes} (fits : (Json.encode v).length < 2 ^ 64)
    (within : part <+: openHeader v) (some : part ≠ []) : ∃ defect, read part = .error (.malformed defect) := by
  have noFeed := lineFeed_not_mem_lengthLine (Json.encode v).length
  by_cases whole : part = openHeader v
  · have scan : scanHeader .empty [] (openHeader v ++ []) = .ok (.within ⟨true, (Json.encode v).length⟩ []) := by
      rw [openHeader, scanHeader_lineBytes noFeed, addLine_lengthLine fits]
      rfl
    rw [List.append_nil] at scan
    rw [whole, read, scan]
    exact ⟨.cutHeader, rfl⟩
  · have early := (List.prefix_concat_iff.mp within).resolve_left whole
    obtain ⟨first, front, rfl⟩ := Utf8.exists_prefix_of_ascii (ascii_lengthLine _) early
    have isLine : IsHeaderLine first := isHeaderLine_of_prefix front (by rintro rfl; exact some rfl)
    have scan := scanHeader_within .empty [] (Utf8.lineFeed_not_mem_encodeChars isLine.1)
    obtain ⟨b, rest, shape⟩ := List.exists_cons_of_ne_nil some
    have added := addLine_of_header isLine .empty
    rw [List.reverse_nil, List.nil_append] at scan
    rw [read, scan]
    rw [shape] at added ⊢
    simp only [added]
    cases refused : lengthOf (bare first) with
    | error e =>
        obtain ⟨defect, rfl⟩ := malformed_of_lengthOf refused
        exact ⟨defect, rfl⟩
    | ok length => exact ⟨.cutHeader, rfl⟩

/-- A payload that is too short ends the reading with an error. -/
theorem readPayload_short {n : Nat} {bs : Bytes} (small : n < payloadLimit) (short : bs.length < n) :
    readPayload (some n) bs = .error (.io .unexpectedEnd "failed to fill whole buffer") := by
  have less : (bs.take n).length < n := Nat.lt_of_le_of_lt (List.length_take_le' n bs) short
  rw [readPayload]
  simp only [less, small, if_true]

/-- Once the closing line of a header is there, if only its carriage return, the payload is missed. -/
theorem read_of_payload {v : Json} {part : Bytes} (small : (Json.encode v).length < payloadLimit)
    (within : openHeader v ++ 13 :: part <+: write v) (proper : openHeader v ++ 13 :: part ≠ write v) :
    read (openHeader v ++ 13 :: part) = .error (.io .unexpectedEnd "failed to fill whole buffer") := by
  have fits : (Json.encode v).length < 2 ^ 64 := Nat.lt_trans small (by decide)
  have opened (more : Bytes) : scanHeader .empty [] (openHeader v ++ more) =
      scanHeader ⟨true, some (Json.encode v).length⟩ [] more := by
    rw [openHeader, scanHeader_lineBytes (lineFeed_not_mem_lengthLine _), addLine_lengthLine fits]
  rw [write_eq_openHeader, List.prefix_append_right_inj, List.cons_prefix_cons] at within
  have rest := within.2
  cases part with
  | nil =>
      obtain ⟨b, after, text, -⟩ := Json.encode_eq_cons v
      have some : ([] : Bytes).length < (Json.encode v).length := by simp [text]
      have closes : Header.addLine ⟨true, (Json.encode v).length⟩ [13] = .ok none := rfl
      have scan : scanHeader .empty [] (openHeader v ++ [13]) = .ok (.within ⟨true, (Json.encode v).length⟩ [13]) :=
        opened [13]
      rw [read, scan]
      simp only [closes, readPayload_short small some]
      rfl
  | cons b payload =>
      obtain ⟨rfl, inner⟩ := List.cons_prefix_cons.mp rest
      have short : payload.length < (Json.encode v).length := by
        refine Nat.lt_of_le_of_ne inner.length_le fun same => proper ?_
        rw [inner.eq_of_length same, write_eq_openHeader]
      have scan : scanHeader .empty [] (openHeader v ++ 13 :: 10 :: payload) =
          .ok (.closed (some (Json.encode v).length) payload) := opened _
      rw [read, scan]
      simp only [readPayload_short small short]
      rfl

/-! ## Reading a stream that is cut -/

/-- How reading ends at a cut. -/
def Place.Ends : Place → Finish → Prop
  | .boundary, finish => finish = .ended
  | .header, finish => ∃ defect, finish = .failed (.malformed defect)
  | .payload, finish => finish = .failed (.io .unexpectedEnd "failed to fill whole buffer")

/-- Reading goes on behind a message, with less to read. -/
theorem readMany_write {v : Json} (exact : v.Exact Json.depthLimit) (fits : (Json.encode v).length < 2 ^ 64)
    (fuel : Nat) (rest : Bytes) :
    readMany (fuel + 1) (write v ++ rest) = (v :: (readMany fuel rest).1, (readMany fuel rest).2) := by
  rw [readMany, read_write exact fits]

/-- What lies wholly before a cut is read, and then reading ends as it does at that place. -/
theorem CutAt.readMany {vs done : List Json} {cut : Bytes} {place : Place} (isCut : CutAt vs cut done place)
    (exact : ∀ v ∈ vs, v.Exact Json.depthLimit) (fits : ∀ v ∈ vs, (Json.encode v).length < payloadLimit)
    {fuel : Nat} (enough : cut.length < fuel) :
    (Wire.readMany fuel cut).1 = done ∧ place.Ends (Wire.readMany fuel cut).2 := by
  obtain ⟨fuel, rfl⟩ := Nat.exists_eq_succ_of_ne_zero (Nat.ne_zero_of_lt enough)
  induction isCut generalizing fuel with
  | boundary vs => exact ⟨rfl, rfl⟩
  | @header v vs part within some =>
      have small := fits v List.mem_cons_self
      obtain ⟨defect, failed⟩ := read_of_header (Nat.lt_trans small (by decide)) within some
      rw [Wire.readMany, failed]
      exact ⟨rfl, defect, rfl⟩
  | @payload v vs part within proper =>
      rw [Wire.readMany, read_of_payload (fits v List.mem_cons_self) within proper]
      exact ⟨rfl, rfl⟩
  | @behind v vs done cut place further ih =>
      obtain ⟨exactHere, exactThere⟩ := List.forall_mem_cons.mp exact
      obtain ⟨fitsHere, fitsThere⟩ := List.forall_mem_cons.mp fits
      have less : cut.length < fuel := by
        have taken := List.length_pos_of_ne_nil (write_ne_nil v)
        rw [List.length_append] at enough
        omega
      obtain ⟨fuel, rfl⟩ := Nat.exists_eq_succ_of_ne_zero (Nat.ne_zero_of_lt less)
      obtain ⟨read, ends⟩ := ih exactThere fitsThere fuel less
      rw [readMany_write exactHere (Nat.lt_trans fitsHere (by decide)), read]
      exact ⟨rfl, ends⟩

/-- A message that is cut is not wholly there. -/
theorem whole_iff_of_short {v : Json} {vs first : List Json} {cut : Bytes} (short : cut.length < (write v).length)
    (front : first <+: v :: vs) : first.flatMap write <+: cut ↔ first <+: [] := by
  cases first with
  | nil => simp
  | cons w first =>
      obtain rfl : w = v := (List.cons_prefix_cons.mp front).1
      constructor
      · intro whole
        have long := whole.length_le
        rw [List.flatMap_cons, List.length_append] at long
        omega
      · exact fun nothing => absurd (List.prefix_nil.mp nothing) (List.cons_ne_nil _ _)

/-- The messages before a cut are those that lie wholly before it. -/
theorem CutAt.whole_iff {vs done : List Json} {cut : Bytes} {place : Place} (isCut : CutAt vs cut done place)
    {first : List Json} (front : first <+: vs) : first.flatMap write <+: cut ↔ first <+: done := by
  induction isCut generalizing first with
  | boundary vs =>
      cases first with
      | nil => simp
      | cons v first => simp [write_ne_nil]
  | @header v vs part within some =>
      refine whole_iff_of_short ?_ front
      have most := within.length_le
      rw [write_eq_openHeader, List.length_append, List.length_cons]
      omega
  | payload within proper =>
      exact whole_iff_of_short (Nat.lt_of_le_of_ne within.length_le (mt within.eq_of_length proper)) front
  | @behind v vs done cut place further ih =>
      cases first with
      | nil => simp
      | cons w first =>
          obtain ⟨rfl, others⟩ := List.cons_prefix_cons.mp front
          rw [List.flatMap_cons, List.prefix_append_right_inj, ih others, List.cons_prefix_cons]
          exact (and_iff_right rfl).symm

/-- The stream of some messages is cut at one place, wherever it ends. The messages that lie wholly before that are
read, and no other. The end of the stream is then reported exactly if it lies between two messages, a malformed message
exactly if it lies within a header, before the carriage return of the line that closes it, and an unexpected end exactly
if it lies behind that and before the last byte of the payload. There is no room for a text of `payloadLimit` bytes. -/
theorem readAll_cut {vs : List Json} (exact : ∀ v ∈ vs, v.Exact Json.depthLimit)
    (fits : ∀ v ∈ vs, (Json.encode v).length < payloadLimit) {cut : Bytes} (front : cut <+: vs.flatMap write) :
    ∃ done place, CutAt vs cut done place ∧ (∀ first, first <+: vs → (first.flatMap write <+: cut ↔ first <+: done)) ∧
      (readAll cut).1 = done ∧ ((readAll cut).2 = .ended ↔ place = .boundary) ∧
      ((∃ defect, (readAll cut).2 = .failed (.malformed defect)) ↔ place = .header) ∧
      ((∃ text, (readAll cut).2 = .failed (.io .unexpectedEnd text)) ↔ place = .payload) := by
  obtain ⟨done, place, isCut⟩ := exists_cutAt front
  obtain ⟨read, ends⟩ := isCut.readMany exact fits (Nat.lt_succ_self cut.length)
  refine ⟨done, place, isCut, fun first => isCut.whole_iff, read, ?_⟩
  rw [readAll]
  cases place with
  | boundary => simp [show _ = Finish.ended from ends]
  | header =>
      obtain ⟨defect, ends⟩ := ends
      simp [ends]
  | payload => simp [show _ = Finish.failed _ from ends]

/-- The sample messages up to the carriage return of the line that closes the second header. -/
def sampleCut : Bytes :=
  (sampleMessages.flatMap write).take 72

/-- The first sample message is read, and the payload of the second is missed. -/
theorem readAll_cut_sampleCut :
    CutAt sampleMessages sampleCut (sampleMessages.take 1) .payload ∧ (readAll sampleCut).1 = sampleMessages.take 1 ∧
      ∃ text, (readAll sampleCut).2 = .failed (.io .unexpectedEnd text) := by
  have front : sampleCut <+: sampleMessages.flatMap write := List.take_prefix 72 _
  obtain ⟨done, place, isCut, -, read, -, -, missed⟩ := readAll_cut (by decide +kernel) (by decide +kernel) front
  have first : (readAll sampleCut).1 = sampleMessages.take 1 := by decide +kernel
  have finish : (readAll sampleCut).2 = .failed (.io .unexpectedEnd "failed to fill whole buffer") := by decide +kernel
  obtain rfl := missed.mp ⟨_, finish⟩
  exact ⟨first ▸ read ▸ isCut, first, _, finish⟩

end Wire
end DebugBridge
